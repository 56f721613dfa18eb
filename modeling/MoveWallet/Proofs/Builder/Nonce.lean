import MoveWallet.Builder.Basic
import MoveWallet.Chain.Memory
import MoveWallet.Proofs.Chain.Session
import MoveWallet.Proofs.Outcome

/-! # Transactions that are protected by a nonce

A transaction with a nonce needs no sequence number: it has the fixed one, and the chain is not
asked. The builder decides this by the nonce in the options. The nonce of the transaction is that
of the options whenever they give the payload a new configuration; an inner payload that is kept as
it is keeps its own nonce as well, and only then the transaction has a nonce and a sequence number
of the sender.
-/

namespace MoveWallet

open Asking

namespace TransactionOptions

theorem extraConfig?_eq_none_iff {options : TransactionOptions} :
    options.extraConfig? = .none ↔ options.nonce = .none ∧ options.multisigAddress = .none := by
  unfold extraConfig?
  cases options.nonce <;> cases options.multisigAddress <;> simp

/-- A configuration that the options make holds what they give, which is something. -/
theorem extraConfig?_eq_some {options : TransactionOptions} {config : ExtraConfig}
    (made : options.extraConfig? = some config) :
    config = ⟨options.multisigAddress, options.nonce⟩ ∧
      (options.nonce.isSome ∨ options.multisigAddress.isSome) := by
  have given : ¬ (options.nonce = .none ∧ options.multisigAddress = .none) := by
    rw [← extraConfig?_eq_none_iff, made]
    exact Option.some_ne_none config
  unfold extraConfig? at made
  split at made
  · cases made
  · cases made
    rw [Option.isSome_iff_ne_none, Option.isSome_iff_ne_none]
    exact ⟨rfl, not_and_or.mp given⟩

/-- Whether the options leave a payload with a nonce of its own as it is. -/
def KeepsNonce (options : TransactionOptions) (payload : Payload) : Prop :=
  options.nonce = .none ∧ options.multisigAddress = .none ∧ payload.nonce?.isSome

end TransactionOptions

/-- Whatever payload takes a configuration, it has the nonce of the configuration. -/
theorem InnerPayload.nonce_ofPayload (config : ExtraConfig) (payload : Payload) :
    (ofPayload config payload).config.nonce = config.nonce := by
  cases payload <;> rfl

namespace TransactionOptions

private theorem nonce?_upgrade (options : TransactionOptions) (payload : Payload) :
    (options.upgrade payload).nonce? =
      if options.extraConfig?.isSome then options.nonce else payload.nonce? := by
  unfold upgrade
  cases made : options.extraConfig? with
  | none => rfl
  | some config =>
    obtain ⟨rfl, -⟩ := extraConfig?_eq_some made
    exact InnerPayload.nonce_ofPayload _ payload

/-- The transaction has the nonce of the options unless the payload keeps its own. -/
theorem nonce?_upgrade_of_not_keepsNonce {options : TransactionOptions} {payload : Payload}
    (replaced : ¬ options.KeepsNonce payload) :
    (options.upgrade payload).nonce? = options.nonce := by
  rw [nonce?_upgrade]
  split
  next => rfl
  next plain =>
    have unset : options.extraConfig? = .none := Option.not_isSome_iff_eq_none.mp plain
    obtain ⟨noNonce, noMultisig⟩ := extraConfig?_eq_none_iff.mp unset
    have bare : payload.nonce? = .none := by
      by_contra carried
      exact replaced ⟨noNonce, noMultisig, Option.isSome_iff_ne_none.mpr carried⟩
    rw [bare, noNonce]

private theorem KeepsNonce.nonce?_upgrade {options : TransactionOptions} {payload : Payload}
    (keeps : options.KeepsNonce payload) : (options.upgrade payload).nonce? = payload.nonce? := by
  obtain ⟨noNonce, noMultisig, -⟩ := keeps
  have unset : options.extraConfig? = .none := extraConfig?_eq_none_iff.mpr ⟨noNonce, noMultisig⟩
  rw [TransactionOptions.nonce?_upgrade, unset]
  rfl

end TransactionOptions

namespace Builder

variable {ε : Type}

/-- The transaction has the fixed sequence number, and none was asked for. -/
structure IsOrderless (session after : Session) (raw : RawTransaction) : Prop where
  fixed : raw.sequenceNumber = orderlessSequenceNumber
  unasked : after.sequenceLookups = session.sequenceLookups

/-- One sequence number was asked for, that of the sender, and the transaction has it. -/
structure IsOrdered (node : Node ε) (sender : Address) (session after : Session)
    (raw : RawTransaction) : Prop where
  asked : after.sequenceLookups = .sequenceNumber sender :: session.sequenceLookups
  answered : node.sequenceNumber sender = .ok raw.sequenceNumber

private theorem IsOrdered.not_isOrderless {node : Node ε} {sender : Address}
    {session after : Session}
    {raw : RawTransaction} (ordered : IsOrdered node sender session after raw) :
    ¬ IsOrderless session after raw := by
  intro orderless
  have longer := congrArg List.length (ordered.asked.symm.trans orderless.unasked)
  rw [List.length_cons] at longer
  omega

section Steps

variable {node : Node ε} {session after : Session}

/-- A lookup has the same effect when it is a step of building. -/
theorem outcome_asking {α : Type} (lookup : Asking ε α) (session : Session) :
    outcome (asking lookup) session =
      ((outcome lookup session).1.mapError BuildError.lookup, (outcome lookup session).2) := by
  change (match outcome lookup session with
    | (made, after) => (made.mapError BuildError.lookup, after)) = _
  rfl

private theorem outcome_chainId_lookups {config : BuilderConfig} {number : UInt8}
    (ran : outcome (chainId node config) session = (.ok number, after)) :
    after.sequenceLookups = session.sequenceLookups := by
  unfold chainId at ran
  cases configured : config.chainId with
  | some given =>
    rw [configured, outcome_pure] at ran
    cases ran
    rfl
  | none =>
    rw [configured, outcome_asking, Prod.mk.injEq] at ran
    obtain ⟨-, rfl⟩ := ran
    exact node.sequenceLookups_cachedChainId session

/-- The account whose sequence number is looked up: the sender, if the options give neither a
number nor a nonce. -/
def numbered? (sender : Address) (options : TransactionOptions) : Option Address :=
  if options.sequenceNumber.isNone && options.nonce.isNone then some sender else none

theorem outcome_sequenceNumber_eq (node : Node ε) (session : Session) (sender : Address)
    (options : TransactionOptions) :
    outcome (sequenceNumber node sender options) session =
      match numbered? sender options with
      | none => (.ok (options.sequenceNumber.getD orderlessSequenceNumber), session)
      | some account => ((node.sequenceNumber account).mapError .lookup,
          session.record (.sequenceNumber account)) := by
  unfold sequenceNumber numbered?
  cases options.sequenceNumber with
  | some given => rfl
  | none =>
    cases options.nonce with
    | some nonce => rfl
    | none =>
      rw [outcome_asking, Node.outcome_askSequenceNumber]
      rfl

/-- Without a given number the nonce in the options decides whether the chain is asked. -/
theorem outcome_sequenceNumber {sender : Address} {options : TransactionOptions} {number : UInt64}
    (unnumbered : options.sequenceNumber = none)
    (ran : outcome (sequenceNumber node sender options) session = (.ok number, after)) :
    (options.nonce.isSome → number = orderlessSequenceNumber ∧ after = session) ∧
      (options.nonce = none → node.sequenceNumber sender = .ok number ∧
        after = session.record (.sequenceNumber sender)) := by
  rw [outcome_sequenceNumber_eq] at ran
  constructor
  · intro present
    have unasked : numbered? sender options = none := by
      simp [numbered?, Option.isNone_eq_false_iff.mpr present]
    rw [unasked, unnumbered] at ran
    cases ran
    exact ⟨rfl, rfl⟩
  · intro absent
    have asked : numbered? sender options = some sender := by simp [numbered?, unnumbered, absent]
    rw [asked, Prod.mk.injEq, Outcome.mapError_eq_ok_iff] at ran
    obtain ⟨answered, rfl⟩ := ran
    exact ⟨answered, rfl⟩

/-- A transaction is built of the payload that the options need, a sequence number and the number
of the chain. -/
theorem outcome_buildRaw {config : BuilderConfig} {now : UInt64} {sender : Address}
    {payload : Payload} {options : TransactionOptions} {raw : RawTransaction}
    (built : outcome (buildRaw node config now sender payload options) session = (.ok raw, after)) :
    raw.payload = options.upgrade payload ∧ ∃ middle chain,
      outcome (sequenceNumber node sender options) session = (.ok raw.sequenceNumber, middle) ∧
        outcome (chainId node config) middle = (.ok chain, after) := by
  unfold buildRaw at built
  obtain ⟨number, middle, numbered, rest⟩ := outcome_bind_eq_ok_iff.mp built
  obtain ⟨chain, last, found, made⟩ := outcome_bind_eq_ok_iff.mp rest
  rw [outcome_pure] at made
  cases made
  exact ⟨rfl, middle, chain, numbered, found⟩

/-- The nonce in the options decides between the two ways to protect a transaction. -/
theorem isOrderless_or_isOrdered {config : BuilderConfig} {now : UInt64} {sender : Address}
    {payload : Payload} {options : TransactionOptions} {raw : RawTransaction}
    (unnumbered : options.sequenceNumber = none)
    (built : outcome (buildRaw node config now sender payload options) session = (.ok raw, after)) :
    (options.nonce.isSome → IsOrderless session after raw) ∧
      (options.nonce = none → IsOrdered node sender session after raw) := by
  obtain ⟨-, middle, chain, numbered, found⟩ := outcome_buildRaw built
  obtain ⟨orderless, ordered⟩ := outcome_sequenceNumber unnumbered numbered
  have lookups := outcome_chainId_lookups found
  constructor
  · intro present
    obtain ⟨fixed, rfl⟩ := orderless present
    exact ⟨fixed, lookups⟩
  · intro absent
    obtain ⟨answered, rfl⟩ := ordered absent
    exact ⟨lookups, answered⟩

end Steps

/-- A transaction without a given sequence number is orderless when it has a nonce and has the next
number of the sender when it has none, except when the payload keeps a nonce of its own: then the
transaction has both. -/
theorem buildRaw_nonce (node : Node ε) (config : BuilderConfig) (now : UInt64) (sender : Address)
    (payload : Payload) (options : TransactionOptions) (session after : Session)
    (raw : RawTransaction) (unnumbered : options.sequenceNumber = none)
    (built : outcome (buildRaw node config now sender payload options) session = (.ok raw, after)) :
    (¬ options.KeepsNonce payload →
      (raw.payload.nonce?.isSome → IsOrderless session after raw) ∧
        (raw.payload.nonce? = none → IsOrdered node sender session after raw)) ∧
    (options.KeepsNonce payload →
      raw.payload.nonce?.isSome ∧ IsOrdered node sender session after raw ∧
        ¬ IsOrderless session after raw) := by
  obtain ⟨upgraded, -⟩ := outcome_buildRaw built
  obtain ⟨orderless, ordered⟩ := isOrderless_or_isOrdered unnumbered built
  refine ⟨fun replaced => ?_, fun keeps => ?_⟩
  · rw [upgraded, TransactionOptions.nonce?_upgrade_of_not_keepsNonce replaced]
    exact ⟨orderless, ordered⟩
  · have counted := ordered keeps.1
    refine ⟨?_, counted, counted.not_isOrderless⟩
    rw [upgraded, keeps.nonce?_upgrade]
    exact keeps.2.2

/-- An inner payload that runs nothing, with a nonce. -/
def noncePayload : Payload := .inner ⟨.empty, ⟨none, some 77⟩⟩

/-- A chain on which the account at ten has sent seven transactions. -/
def sevenSent : Chain := (Chain.empty 2).withAccount Address.ten 7

theorem buildRaw_nonce_orderless :
    ∃ raw after,
      outcome (buildRaw sevenSent.node BuilderConfig.default 0 Address.ten noncePayload
        { TransactionOptions.none with nonce := some 78 }) Session.start = (.ok raw, after) ∧
      raw.payload.nonce? = some 78 ∧ IsOrderless Session.start after raw := by
  obtain ⟨raw, after, built, nonce⟩ : ∃ raw after,
      outcome (buildRaw sevenSent.node BuilderConfig.default 0 Address.ten noncePayload
        { TransactionOptions.none with nonce := some 78 }) Session.start = (.ok raw, after) ∧
      raw.payload.nonce? = some 78 := ⟨_, _, rfl, rfl⟩
  have replaced := (buildRaw_nonce _ _ _ _ _ _ _ _ _ rfl built).1 (fun keeps => nomatch keeps.1)
  exact ⟨raw, after, built, nonce, replaced.1 (nonce ▸ rfl)⟩

theorem buildRaw_not_orderless :
    ¬ ∀ (node : Node ChainError) (config : BuilderConfig) (now : UInt64) (sender : Address)
      (payload : Payload) (options : TransactionOptions) (session after : Session)
      (raw : RawTransaction), options.sequenceNumber = none →
      outcome (buildRaw node config now sender payload options) session = (.ok raw, after) →
      raw.payload.nonce?.isSome → IsOrderless session after raw := by
  intro always
  obtain ⟨raw, after, built, nonce, number⟩ : ∃ raw after,
      outcome (buildRaw sevenSent.node BuilderConfig.default 0 Address.ten noncePayload
        TransactionOptions.none) Session.start = (.ok raw, after) ∧
      raw.payload.nonce?.isSome ∧ raw.sequenceNumber = 7 := ⟨_, _, rfl, rfl, rfl⟩
  have fixed := (always _ _ _ _ _ _ _ _ _ rfl built nonce).fixed
  rw [number] at fixed
  exact absurd fixed (by decide)

end Builder

end MoveWallet
