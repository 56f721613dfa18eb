import MoveWallet.Proofs.Builder.Nonce

/-! # How a payload is meant to run

A transaction runs what its payload runs. For which account and with which nonce is said by the
options first and otherwise by the payload. Options that say one of the two give an inner payload a
new configuration, which then holds for the other as well: nothing of the old one is kept.
-/

namespace MoveWallet

open Asking

namespace Payload

/-- What a payload runs, in whatever form it is. -/
def executable : Payload → Executable
  | script code => .script code
  | entryFunction call => .entryFunction call
  | multisig ⟨_, some (.entryFunction call)⟩ => .entryFunction call
  | multisig ⟨_, none⟩ => .empty
  | inner payload => payload.executable

/-- The account for which a payload runs, if it is not the sender. -/
def multisigAddress? : Payload → Option Address
  | multisig approved => some approved.account
  | inner payload => payload.config.multisigAddress
  | _ => none

/-- Whether a payload has a configuration of its own. -/
def IsInner : Payload → Prop
  | inner _ => True
  | _ => False

/-- Only an inner payload carries a nonce. -/
theorem nonce?_eq_none {payload : Payload} (plain : ¬ payload.IsInner) : payload.nonce? = none := by
  cases payload with
  | inner payload => exact absurd trivial plain
  | _ => rfl

end Payload

namespace InnerPayload

private theorem executable_ofPayload (config : ExtraConfig) (payload : Payload) :
    (ofPayload config payload).executable = payload.executable := by
  cases payload with
  | multisig approved => rcases approved with ⟨account, _ | ⟨call⟩⟩ <;> rfl
  | _ => rfl

/-- The account of a payload is kept unless the configuration names one. -/
theorem multisigAddress_ofPayload (config : ExtraConfig) {payload : Payload}
    (plain : ¬ payload.IsInner) :
    (ofPayload config payload).config.multisigAddress =
      config.multisigAddress.or payload.multisigAddress? := by
  cases payload with
  | inner payload => exact absurd trivial plain
  | multisig approved => rfl
  | _ => exact Option.or_none.symm

/-- The configuration of an inner payload is replaced, its account included. -/
theorem multisigAddress_ofPayload_inner (config : ExtraConfig) {payload : Payload}
    (configured : payload.IsInner) :
    (ofPayload config payload).config.multisigAddress = config.multisigAddress := by
  cases payload with
  | inner payload => rfl
  | _ => exact configured.elim

end InnerPayload

namespace TransactionOptions

variable {options : TransactionOptions} {payload : Payload}

/-- Whether the options put a new configuration in the place of that of a payload. -/
def Reconfigures (options : TransactionOptions) (payload : Payload) : Prop :=
  payload.IsInner ∧ (options.nonce.isSome ∨ options.multisigAddress.isSome)

private theorem executable_upgrade (options : TransactionOptions) (payload : Payload) :
    (options.upgrade payload).executable = payload.executable := by
  unfold upgrade
  cases options.extraConfig? with
  | none => rfl
  | some config => exact InnerPayload.executable_ofPayload config payload

/-- What the options leave open is kept as long as the payload keeps its configuration. -/
theorem upgrade_keeps (kept : ¬ options.Reconfigures payload) :
    (options.upgrade payload).multisigAddress? =
        options.multisigAddress.or payload.multisigAddress? ∧
      (options.upgrade payload).nonce? = options.nonce.or payload.nonce? := by
  unfold upgrade
  cases made : options.extraConfig? with
  | none =>
    obtain ⟨noNonce, noMultisig⟩ := extraConfig?_eq_none_iff.mp made
    rw [noNonce, noMultisig]
    exact ⟨rfl, rfl⟩
  | some config =>
    obtain ⟨rfl, given⟩ := extraConfig?_eq_some made
    have plain : ¬ payload.IsInner := fun configured => kept ⟨configured, given⟩
    refine ⟨InnerPayload.multisigAddress_ofPayload _ plain, ?_⟩
    rw [Payload.nonce?_eq_none plain, Option.or_none]
    exact InnerPayload.nonce_ofPayload _ payload

/-- A configuration that the options replace is theirs as a whole. -/
theorem Reconfigures.upgrade (replaced : options.Reconfigures payload) :
    (options.upgrade payload).multisigAddress? = options.multisigAddress ∧
      (options.upgrade payload).nonce? = options.nonce := by
  obtain ⟨configured, given⟩ := replaced
  unfold TransactionOptions.upgrade
  cases made : options.extraConfig? with
  | none =>
    obtain ⟨noNonce, noMultisig⟩ := extraConfig?_eq_none_iff.mp made
    rw [noNonce, noMultisig] at given
    simp at given
  | some config =>
    obtain ⟨rfl, -⟩ := extraConfig?_eq_some made
    exact ⟨InnerPayload.multisigAddress_ofPayload_inner _ configured,
      InnerPayload.nonce_ofPayload _ payload⟩

end TransactionOptions

namespace Builder

variable {ε : Type}

/-- A transaction runs what its payload runs, for the account and with the nonce of the options or
else of the payload, except that options that give either of them replace both in an inner
payload. -/
theorem buildRaw_runs (node : Node ε) (config : BuilderConfig) (now : UInt64) (sender : Address)
    (payload : Payload) (options : TransactionOptions) (session after : Session)
    (raw : RawTransaction)
    (built : outcome (buildRaw node config now sender payload options) session = (.ok raw, after)) :
    raw.payload.executable = payload.executable ∧
    (¬ options.Reconfigures payload →
      raw.payload.multisigAddress? = options.multisigAddress.or payload.multisigAddress? ∧
        raw.payload.nonce? = options.nonce.or payload.nonce?) ∧
    (options.Reconfigures payload →
      raw.payload.multisigAddress? = options.multisigAddress ∧
        raw.payload.nonce? = options.nonce) := by
  obtain ⟨upgraded, -⟩ := outcome_buildRaw built
  rw [upgraded]
  exact ⟨options.executable_upgrade payload, TransactionOptions.upgrade_keeps,
    TransactionOptions.Reconfigures.upgrade⟩

/-- Running what the account at one has approved on chain. -/
def approvedPayload : Payload := .multisig ⟨.one, none⟩

def innerPayload : Payload := .inner ⟨.empty, ⟨some .one, none⟩⟩

/-- With a nonce in the options, the account stays with one form and is lost with the other. -/
theorem buildRaw_runs_approved :
    (∃ raw after,
      outcome (buildRaw sevenSent.node BuilderConfig.default 0 Address.ten approvedPayload
        { TransactionOptions.none with nonce := some 5 }) Session.start = (.ok raw, after) ∧
      raw.payload.executable = .empty ∧ raw.payload.multisigAddress? = some .one ∧
      raw.payload.nonce? = some 5) ∧
    ∃ raw after,
      outcome (buildRaw sevenSent.node BuilderConfig.default 0 Address.ten innerPayload
        { TransactionOptions.none with nonce := some 5 }) Session.start = (.ok raw, after) ∧
      raw.payload.executable = .empty ∧ raw.payload.multisigAddress? = none ∧
      raw.payload.nonce? = some 5 := by
  have built (payload : Payload) : ∃ raw after,
      outcome (buildRaw sevenSent.node BuilderConfig.default 0 Address.ten payload
        { TransactionOptions.none with nonce := some 5 }) Session.start = (.ok raw, after) :=
    ⟨_, _, rfl⟩
  constructor
  · obtain ⟨raw, after, built⟩ := built approvedPayload
    obtain ⟨executable, kept, -⟩ := buildRaw_runs _ _ _ _ _ _ _ _ _ built
    obtain ⟨multisig, nonce⟩ := kept fun replaced => replaced.1
    exact ⟨raw, after, built, executable, multisig, nonce⟩
  · obtain ⟨raw, after, built⟩ := built innerPayload
    obtain ⟨executable, -, replaced⟩ := buildRaw_runs _ _ _ _ _ _ _ _ _ built
    obtain ⟨multisig, nonce⟩ := replaced ⟨trivial, .inl rfl⟩
    exact ⟨raw, after, built, executable, multisig, nonce⟩

/-- A nonce in the options makes the transaction run for its sender instead. -/
theorem buildRaw_drops_multisig :
    ¬ ∀ (node : Node ChainError) (config : BuilderConfig) (now : UInt64) (sender : Address)
      (payload : Payload) (options : TransactionOptions) (session after : Session)
      (raw : RawTransaction),
      outcome (buildRaw node config now sender payload options) session = (.ok raw, after) →
      raw.payload.executable = payload.executable ∧
        raw.payload.multisigAddress? = options.multisigAddress.or payload.multisigAddress? ∧
        raw.payload.nonce? = options.nonce.or payload.nonce? := by
  intro always
  obtain ⟨raw, after, built, dropped⟩ : ∃ raw after,
      outcome (buildRaw sevenSent.node BuilderConfig.default 0 Address.ten innerPayload
        { TransactionOptions.none with nonce := some 5 }) Session.start = (.ok raw, after) ∧
      raw.payload.multisigAddress? = none := ⟨_, _, rfl, rfl⟩
  have kept := (always _ _ _ _ _ _ _ _ _ built).2.1
  rw [dropped] at kept
  cases kept

end Builder

end MoveWallet
