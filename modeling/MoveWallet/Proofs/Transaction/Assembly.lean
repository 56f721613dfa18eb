import MoveWallet.Proofs.Account.Signing
import MoveWallet.Transaction.Assembly

/-! # Signed transactions verify

The bytes that the parties sign and the bytes that a signed transaction is checked against are put
together in two places. They agree: the transaction read back from the authenticator is the one
that was signed, with the sponsor named.
-/

namespace MoveWallet

open Outcome

namespace TransactionAuthenticator

/-- Whoever agrees, a placeholder for a missing sponsor included. -/
def parties : TransactionAuthenticator → List AccountAuthenticator
  | ed25519 key signature => [.ed25519 key signature]
  | multiAgent sender _ secondarySigners => sender :: secondarySigners
  | feePayer sender _ secondarySigners _ sponsorSigner =>
    sponsorSigner :: sender :: secondarySigners
  | singleSender sender => [sender]

def secondarySigners : TransactionAuthenticator → List AccountAuthenticator
  | multiAgent _ _ secondarySigners => secondarySigners
  | feePayer _ _ secondarySigners _ _ => secondarySigners
  | _ => []

def sponsorSigner? : TransactionAuthenticator → Option AccountAuthenticator
  | feePayer _ _ _ _ sponsorSigner => some sponsorSigner
  | _ => none

private theorem parties_eq (authenticator : TransactionAuthenticator) :
    authenticator.parties =
      authenticator.sponsorSigner?.toList ++
        authenticator.sender :: authenticator.secondarySigners := by
  cases authenticator <;> rfl

end TransactionAuthenticator

/-- Whether the sender or a secondary signer agrees to a transaction. It may have signed a sponsored
transaction before the sponsor was known. -/
def AccountAuthenticator.AgreesTo (signer : AccountAuthenticator)
    (transaction : UnsignedTransaction) : Prop :=
  signer.verify transaction.signingMessage = true ∨
    ∃ unnamed, transaction.setSponsor? .zero = some unnamed ∧
      signer.verify unnamed.signingMessage = true

namespace SignedTransaction

/-- The transaction that the parties named by the authenticator agree to. -/
def unsigned (signed : SignedTransaction) : UnsignedTransaction :=
  match signed.authenticator with
  | .ed25519 _ _ | .singleSender _ => .simple signed.raw
  | .multiAgent _ secondary _ => .withSigners (.multiAgent signed.raw secondary)
  | .feePayer _ secondary _ sponsor _ => .withSigners (.feePayer signed.raw secondary sponsor)

variable {signed : SignedTransaction}

private theorem raw_unsigned : signed.unsigned.raw = signed.raw := by
  unfold unsigned
  cases signed.authenticator <;> rfl

/-- A transaction is accepted if there is an authenticator for each party that it names and every
party agrees, the sponsor to the transaction that names it. -/
theorem verify_eq_true_iff :
    signed.verify = true ↔
      signed.authenticator.secondarySigners.length = signed.unsigned.secondary.length ∧
        (∀ signer ∈ signed.authenticator.sender :: signed.authenticator.secondarySigners,
          signer.AgreesTo signed.unsigned) ∧
        ∀ payer ∈ signed.authenticator.sponsorSigner?,
          payer.verify signed.unsigned.signingMessage = true := by
  obtain ⟨raw, authenticator⟩ := signed
  cases authenticator with
  | ed25519 key signature | singleSender sender =>
    simp [verify, unsigned, TransactionAuthenticator.sender,
      TransactionAuthenticator.secondarySigners, TransactionAuthenticator.sponsorSigner?,
      AccountAuthenticator.AgreesTo, UnsignedTransaction.secondary,
      UnsignedTransaction.setSponsor?, UnsignedTransaction.signingMessage]
  | multiAgent sender secondary secondarySigners =>
    simp [verify, unsigned, TransactionAuthenticator.sender,
      TransactionAuthenticator.secondarySigners, TransactionAuthenticator.sponsorSigner?,
      AccountAuthenticator.AgreesTo, UnsignedTransaction.secondary,
      UnsignedTransaction.setSponsor?, UnsignedTransaction.signingMessage]
  | feePayer sender secondary secondarySigners sponsor sponsorSigner =>
    simp only [verify, unsigned, TransactionAuthenticator.sender,
      TransactionAuthenticator.secondarySigners, TransactionAuthenticator.sponsorSigner?,
      AccountAuthenticator.AgreesTo, UnsignedTransaction.secondary,
      UnsignedTransaction.setSponsor?, UnsignedTransaction.signingMessage, Bool.and_eq_true,
      Bool.or_eq_true, List.all_eq_true, decide_eq_true_eq, Option.some.injEq, exists_eq_left',
      Option.mem_def, forall_eq', and_assoc]
    tauto

/-- A transaction is accepted if all parties agree to what they are named for. -/
theorem verify_of_parties
    (counted : signed.authenticator.secondarySigners.length = signed.unsigned.secondary.length)
    (agreed : ∀ party ∈ signed.authenticator.parties,
      party.verify signed.unsigned.signingMessage = true) : signed.verify = true := by
  rw [TransactionAuthenticator.parties_eq] at agreed
  obtain ⟨sponsorAgreed, others⟩ := List.forall_mem_append.mp agreed
  refine verify_eq_true_iff.mpr ⟨counted, fun signer listed => ?_, fun payer named => ?_⟩
  · exact .inl (others signer listed)
  · exact sponsorAgreed payer (Option.mem_toList.mpr named)

/-- Nothing is accepted while a party agrees to nothing. -/
theorem verify_of_party {party : AccountAuthenticator}
    (listed : party ∈ signed.authenticator.parties)
    (refused : ∀ message, party.verify message = false) : signed.verify = false := by
  by_contra accepted
  obtain ⟨-, agreed, sponsorAgreed⟩ := verify_eq_true_iff.mp (Bool.eq_true_of_not_eq_false accepted)
  have never (message : Bytes) : ¬ party.verify message = true := by
    rw [refused message]
    exact Bool.false_ne_true
  rw [TransactionAuthenticator.parties_eq] at listed
  rcases List.mem_append.mp listed with sponsor | signer
  · exact never _ (sponsorAgreed party (Option.mem_toList.mp sponsor))
  · rcases agreed party signer with named | ⟨unnamed, -, before⟩
    · exact never _ named
    · exact never _ before

/-- Nothing is accepted while a party is missing. -/
theorem verify_of_placeholder (missing : .placeholder ∈ signed.authenticator.parties) :
    signed.verify = false :=
  verify_of_party missing fun _ => rfl

end SignedTransaction

namespace UnsignedTransaction

variable {transaction : UnsignedTransaction}

def withSponsor (transaction : UnsignedTransaction) : Option Address → UnsignedTransaction
  | none => transaction
  | some sponsor => (transaction.setSponsor? sponsor).getD transaction

@[simp] theorem raw_withSponsor (sponsor : Option Address) :
    (transaction.withSponsor sponsor).raw = transaction.raw := by
  rcases transaction with _ | _ | _ <;> cases sponsor <;> rfl

@[simp] theorem secondary_withSponsor (sponsor : Option Address) :
    (transaction.withSponsor sponsor).secondary = transaction.secondary := by
  rcases transaction with _ | _ | _ <;> cases sponsor <;> rfl

@[simp] theorem isSome_sponsor?_withSponsor (sponsor : Option Address) :
    (transaction.withSponsor sponsor).sponsor?.isSome = transaction.sponsor?.isSome := by
  rcases transaction with _ | _ | _ <;> cases sponsor <;> rfl

private theorem sponsor?_withSponsor_some {sponsor : Address}
    (taken : transaction.sponsor?.isSome) :
    (transaction.withSponsor (some sponsor)).sponsor? = some sponsor := by
  rcases transaction with _ | _ | _
  · cases taken
  · cases taken
  · rfl

/-- The signers are those that the transaction names, in order. -/
structure Aligned (transaction : UnsignedTransaction) (sender : Account)
    (secondarySigners : List Account) (sponsor : Option Account) : Prop where
  sender : sender.address = transaction.raw.sender
  secondary : secondarySigners.map Account.address = transaction.secondary
  sponsor : sponsor.isSome → transaction.sponsor?.isSome

private theorem checkSigner_eq_ok_iff {expected : Address} {signer : Account} :
    checkSigner expected signer = .ok () ↔ signer.address = expected := by
  simp [checkSigner]

private theorem checkSecondaryCount_eq_ok_iff {count : Nat} :
    transaction.checkSecondaryCount count = .ok () ↔ transaction.secondary.length = count := by
  simp [checkSecondaryCount]

/-- Each signer in turn is the account at the address beside it. -/
private theorem forM_checkSigner_eq_ok_iff {addresses : List Address} {signers : List Account}
    (counted : addresses.length = signers.length) :
    (addresses.zip signers).forM (fun pair => checkSigner pair.1 pair.2) = .ok () ↔
      signers.map Account.address = addresses := by
  rw [forM_eq_ok_iff, eq_comm (b := addresses), ← List.forall₂_eq_eq_eq,
    List.forall₂_map_right_iff, List.forall₂_iff_zip, Prod.forall]
  simp only [checkSigner_eq_ok_iff, counted, true_and]
  exact ⟨fun same _ _ listed => (same _ _ listed).symm, fun same _ _ listed => (same listed).symm⟩

private theorem sponsoredBy_eq_ok_iff {sponsor : Option Account} {sponsored : UnsignedTransaction} :
    transaction.sponsoredBy sponsor = .ok sponsored ↔
      (sponsor.isSome → transaction.sponsor?.isSome) ∧
        sponsored = transaction.withSponsor (sponsor.map Account.address) := by
  rcases transaction with _ | _ | _ <;> cases sponsor <;>
    simp [sponsoredBy, setSponsor?, sponsor?, withSponsor, eq_comm]

/-- A signed transaction holds the authenticators made for a transaction, with a placeholder for a
missing sponsor. -/
structure Assembled (transaction : UnsignedTransaction) (sender : AccountAuthenticator)
    (secondarySigners : List AccountAuthenticator) (sponsorSigner : Option AccountAuthenticator)
    (signed : SignedTransaction) : Prop where
  unsigned : signed.unsigned = transaction
  sender : signed.authenticator.sender = sender
  secondary : signed.authenticator.secondarySigners = secondarySigners
  sponsor : signed.authenticator.sponsorSigner? =
    transaction.sponsor?.map fun _ => sponsorSigner.getD .placeholder

section Authenticators

variable {sender : AccountAuthenticator} {secondarySigners : List AccountAuthenticator}
  {sponsorSigner : Option AccountAuthenticator}

/-- Authenticators in the right number are assembled for the transaction that they were made for. -/
theorem exists_assembled (counted : secondarySigners.length = transaction.secondary.length)
    (expected : sponsorSigner.isSome → transaction.sponsor?.isSome) :
    ∃ signed, transaction.assemble sender secondarySigners sponsorSigner = .ok signed ∧
      transaction.Assembled sender secondarySigners sponsorSigner signed := by
  have checked := checkSecondaryCount_eq_ok_iff.mpr counted.symm
  rcases transaction with raw | ⟨raw, secondary⟩ | ⟨raw, secondary, sponsor⟩
  · obtain rfl := List.eq_nil_of_length_eq_zero counted
    obtain rfl := Option.not_isSome_iff_eq_none.mp fun given => by cases expected given
    refine ⟨⟨raw, .single sender⟩, ?_, ?_, ?_, ?_, ?_⟩
    · simp only [assemble, checked]
      rfl
    all_goals cases sender <;> rfl
  · obtain rfl := Option.not_isSome_iff_eq_none.mp fun given => by cases expected given
    refine ⟨⟨raw, .multiAgent sender secondary secondarySigners⟩, ?_, rfl, rfl, rfl, rfl⟩
    simp only [assemble, checked]
    rfl
  · refine ⟨⟨raw, .feePayer sender secondary secondarySigners sponsor
      (sponsorSigner.getD .placeholder)⟩, ?_, rfl, rfl, rfl, rfl⟩
    simp only [assemble, checked, sponsor?, Option.isNone_some, Bool.and_false]
    rfl

/-- Nothing is assembled of authenticators that the transaction has no places for. -/
theorem counted_of_assemble {signed : SignedTransaction}
    (assembled : transaction.assemble sender secondarySigners sponsorSigner = .ok signed) :
    secondarySigners.length = transaction.secondary.length ∧
      (sponsorSigner.isSome → transaction.sponsor?.isSome) := by
  unfold assemble at assembled
  obtain ⟨_, checked, rest⟩ := bind_eq_ok_iff.mp assembled
  refine ⟨(checkSecondaryCount_eq_ok_iff.mp checked).symm, fun given => ?_⟩
  by_contra unsponsored
  rw [given, Option.isNone_iff_eq_none.mpr (Option.not_isSome_iff_eq_none.mp unsponsored)] at rest
  cases rest

theorem assembled_of_assemble {signed : SignedTransaction}
    (assembled : transaction.assemble sender secondarySigners sponsorSigner = .ok signed) :
    transaction.Assembled sender secondarySigners sponsorSigner signed := by
  obtain ⟨counted, expected⟩ := counted_of_assemble assembled
  obtain ⟨other, again, holds⟩ : ∃ other,
      transaction.assemble sender secondarySigners sponsorSigner = .ok other ∧
        transaction.Assembled sender secondarySigners sponsorSigner other :=
    exists_assembled counted expected
  obtain rfl : signed = other := Except.ok.inj (assembled.symm.trans again)
  exact holds

theorem Assembled.parties {signed : SignedTransaction}
    (assembled : transaction.Assembled sender secondarySigners sponsorSigner signed) :
    signed.authenticator.parties =
      (transaction.sponsor?.map fun _ => sponsorSigner.getD .placeholder).toList ++
        sender :: secondarySigners := by
  rw [TransactionAuthenticator.parties_eq, assembled.sender, assembled.secondary,
    assembled.sponsor]

end Authenticators

/-- Authenticators that the signers made of a transaction, each its own. -/
structure Agreed (transaction : UnsignedTransaction) (now : UInt64) (sender : Account)
    (secondarySigners : List Account) (sponsor : Option Account)
    (senderSigned : AccountAuthenticator) (secondarySigned : List AccountAuthenticator)
    (sponsorSigned : Option AccountAuthenticator) : Prop where
  sender : sender.signTransaction transaction now = .ok senderSigned
  secondary : List.Forall₂ (fun signer authenticator =>
    signer.signTransaction transaction now = .ok authenticator) secondarySigners secondarySigned
  sponsor : Option.Rel (fun signer authenticator =>
    signer.signTransaction transaction now = .ok authenticator) sponsor sponsorSigned

section Signers

variable {now : UInt64} {sender : Account} {secondarySigners : List Account}
  {sponsor : Option Account} {signed : SignedTransaction}

/-- All checks come first, and then every party signs the transaction with its sponsor named. -/
theorem sign_eq_ok_iff :
    transaction.sign now sender secondarySigners sponsor = .ok signed ↔
      transaction.Aligned sender secondarySigners sponsor ∧
        ∃ named, named = transaction.withSponsor (sponsor.map Account.address) ∧
          ∃ senderSigned secondarySigned sponsorSigned,
            named.Agreed now sender secondarySigners sponsor
              senderSigned secondarySigned sponsorSigned ∧
            named.assemble senderSigned secondarySigned sponsorSigned = .ok signed := by
  unfold sign
  simp only [bind_eq_ok_iff, mapM_eq_ok_iff, mapM_option_eq_ok_iff, mapError_eq_ok_iff,
    sponsoredBy_eq_ok_iff]
  constructor
  · rintro ⟨_, senderSame, _, counted, _, same, named, ⟨taken, rfl⟩, _, first, _, second, _, third,
      assembled⟩
    have counted := checkSecondaryCount_eq_ok_iff.mp counted
    refine ⟨⟨checkSigner_eq_ok_iff.mp senderSame, ?_, taken⟩, _, rfl, _, _, _,
      ⟨first, second, third⟩, assembled⟩
    exact (forM_checkSigner_eq_ok_iff counted).mp same
  · rintro ⟨aligned, _, rfl, _, _, _, ⟨first, second, third⟩, assembled⟩
    have counted : transaction.secondary.length = secondarySigners.length := by
      rw [← aligned.secondary, List.length_map]
    refine ⟨(), checkSigner_eq_ok_iff.mpr aligned.sender, (), ?_, (), ?_, _,
      ⟨aligned.sponsor, rfl⟩, _, first, _, second, _, third, assembled⟩
    · exact checkSecondaryCount_eq_ok_iff.mpr counted
    · exact (forM_checkSigner_eq_ok_iff counted).mpr aligned.secondary

variable {named : UnsignedTransaction} {senderSigned : AccountAuthenticator}
  {secondarySigned : List AccountAuthenticator} {sponsorSigned : Option AccountAuthenticator}

/-- Each authenticator comes from one of the signers. -/
private theorem Agreed.exists_signer
    (agreed : named.Agreed now sender secondarySigners sponsor
      senderSigned secondarySigned sponsorSigned) {authenticator : AccountAuthenticator}
    (listed : authenticator ∈ senderSigned :: (secondarySigned ++ sponsorSigned.toList)) :
    ∃ signer ∈ sender :: (secondarySigners ++ sponsor.toList),
      signer.signTransaction named now = .ok authenticator := by
  have last : List.Forall₂ (fun signer authenticator =>
      signer.signTransaction named now = .ok authenticator)
        sponsor.toList sponsorSigned.toList := by
    cases agreed.sponsor with
    | none => exact .nil
    | some signed => exact .cons signed .nil
  exact exists_of_mem_mapM (.cons agreed.sender (List.rel_append agreed.secondary last)) listed

/-- Accounts with private keys agree to every transaction. -/
private theorem exists_agreed (named : UnsignedTransaction) (now : UInt64)
    (made : ∀ signer ∈ sender :: (secondarySigners ++ sponsor.toList), signer.IsMade)
    (keyed : ∀ signer ∈ sender :: (secondarySigners ++ sponsor.toList), signer.HasPrivateKeys) :
    ∃ senderSigned secondarySigned sponsorSigned, named.Agreed now sender secondarySigners sponsor
      senderSigned secondarySigned sponsorSigned := by
  have signs : ∀ signer ∈ sender :: (secondarySigners ++ sponsor.toList),
      ∃ authenticator, signer.signTransaction named now = .ok authenticator := by
    intro signer listed
    obtain ⟨authenticator, signed, -⟩ :=
      Account.signTransaction_of_keys (made signer listed) (keyed signer listed) named now
    exact ⟨authenticator, signed⟩
  obtain ⟨⟨senderSigned, first⟩, others⟩ := List.forall_mem_cons.mp signs
  obtain ⟨secondarySigns, sponsorSigns⟩ := List.forall_mem_append.mp others
  obtain ⟨secondarySigned, second⟩ := exists_mapM_eq_ok secondarySigns
  have second := mapM_eq_ok_iff.mp second
  cases sponsor with
  | none => exact ⟨senderSigned, secondarySigned, none, first, second, .none⟩
  | some sponsor =>
    obtain ⟨sponsorSigned, third⟩ := sponsorSigns sponsor List.mem_cons_self
    exact ⟨senderSigned, secondarySigned, some sponsorSigned, first, second, .some third⟩

/-- What the signers that a transaction names agreed to is assembled. -/
theorem Agreed.assemble
    (agreed : (transaction.withSponsor (sponsor.map Account.address)).Agreed now sender
      secondarySigners sponsor senderSigned secondarySigned sponsorSigned)
    (aligned : transaction.Aligned sender secondarySigners sponsor) :
    ∃ signed, (transaction.withSponsor (sponsor.map Account.address)).assemble senderSigned
        secondarySigned sponsorSigned = .ok signed ∧
      signed.unsigned = transaction.withSponsor (sponsor.map Account.address) ∧
      signed.authenticator.secondarySigners.length = signed.unsigned.secondary.length ∧
      signed.authenticator.parties =
        (signed.unsigned.sponsor?.map fun _ => sponsorSigned.getD .placeholder).toList ++
          senderSigned :: secondarySigned := by
  have counted : secondarySigned.length =
      (transaction.withSponsor (sponsor.map Account.address)).secondary.length := by
    rw [secondary_withSponsor, ← aligned.secondary, List.length_map, agreed.secondary.length_eq]
  have expected : sponsorSigned.isSome →
      (transaction.withSponsor (sponsor.map Account.address)).sponsor?.isSome := by
    intro given
    rw [isSome_sponsor?_withSponsor]
    cases agreed.sponsor with
    | none => cases given
    | some _ => exact aligned.sponsor rfl
  obtain ⟨signed, assembled, holds⟩ := exists_assembled counted expected
  refine ⟨signed, assembled, holds.unsigned, ?_, ?_⟩
  · rw [holds.secondary, counted, holds.unsigned]
  · rw [holds.parties, holds.unsigned]

/-- No placeholder is put among the parties of a transaction whose sponsor agreed. -/
private theorem Agreed.mem_of_party
    (agreed : named.Agreed now sender secondarySigners sponsor
      senderSigned secondarySigned sponsorSigned)
    (expected : named.sponsor?.isSome → sponsor.isSome) {party : AccountAuthenticator}
    (listed : party ∈ (named.sponsor?.map fun _ => sponsorSigned.getD .placeholder).toList ++
      senderSigned :: secondarySigned) :
    party ∈ senderSigned :: (secondarySigned ++ sponsorSigned.toList) := by
  rw [← List.cons_append, List.mem_append]
  rcases List.mem_append.mp listed with front | others
  · obtain ⟨address, named, rfl⟩ := Option.map_eq_some_iff.mp (Option.mem_toList.mp front)
    have given := expected (Option.isSome_of_eq_some named)
    cases agreed.sponsor with
    | none => cases given
    | some _ => exact .inr List.mem_cons_self
  · exact .inl others

end Signers

/-- Signing succeeds exactly for the accounts that the transaction names, in order. What it gives
holds the transaction and the parties unchanged and the sponsor named, and it verifies, except that
a sponsored transaction never does without its sponsor. -/
theorem sign_spec (transaction : UnsignedTransaction) (now : UInt64) (sender : Account)
    (secondarySigners : List Account) (sponsor : Option Account)
    (made : ∀ signer ∈ sender :: (secondarySigners ++ sponsor.toList), signer.IsMade)
    (keyed : ∀ signer ∈ sender :: (secondarySigners ++ sponsor.toList), signer.HasPrivateKeys) :
    ((∃ signed, transaction.sign now sender secondarySigners sponsor = .ok signed) ↔
      transaction.Aligned sender secondarySigners sponsor) ∧
    ∀ signed, transaction.sign now sender secondarySigners sponsor = .ok signed →
      signed.raw = transaction.raw ∧
      signed.unsigned = transaction.withSponsor (sponsor.map Account.address) ∧
      signed.unsigned.secondary = transaction.secondary ∧
      (∀ payer, sponsor = some payer → signed.unsigned.sponsor? = some payer.address) ∧
      ((transaction.sponsor?.isSome → sponsor.isSome) →
        (∀ signer ∈ sender :: (secondarySigners ++ sponsor.toList),
          signer.SignsCorrectly signed.unsigned.signingMessage) → signed.verify = true) ∧
      (transaction.sponsor?.isSome → sponsor = none → signed.verify = false) := by
  refine ⟨⟨?_, fun aligned => ?_⟩, fun signed ran => ?_⟩
  · rintro ⟨signed, ran⟩
    exact (sign_eq_ok_iff.mp ran).1
  · obtain ⟨_, _, _, agreed⟩ := exists_agreed (transaction.withSponsor _) now made keyed
    obtain ⟨signed, assembled, -⟩ := agreed.assemble aligned
    exact ⟨signed, sign_eq_ok_iff.mpr ⟨aligned, _, rfl, _, _, _, agreed, assembled⟩⟩
  · obtain ⟨aligned, _, rfl, _, _, _, agreed, assembled⟩ := sign_eq_ok_iff.mp ran
    obtain ⟨other, assembled', same, counted, parties⟩ := agreed.assemble aligned
    obtain rfl : signed = other := Except.ok.inj (assembled.symm.trans assembled')
    refine ⟨?_, same, ?_, ?_, fun expected correct => ?_, fun sponsored missing => ?_⟩
    · rw [← SignedTransaction.raw_unsigned, same, raw_withSponsor]
    · rw [same, secondary_withSponsor]
    · rintro payer rfl
      rw [same]
      exact sponsor?_withSponsor_some (aligned.sponsor rfl)
    · refine SignedTransaction.verify_of_parties counted fun party listed => ?_
      rw [parties] at listed
      have expected : signed.unsigned.sponsor?.isSome → sponsor.isSome := by
        rwa [same, isSome_sponsor?_withSponsor]
      rw [same] at listed expected
      obtain ⟨signer, signerListed, own⟩ :=
        agreed.exists_signer (agreed.mem_of_party expected listed)
      rw [same] at correct ⊢
      exact Account.verify_of_signTransaction (made signer signerListed) (keyed signer signerListed)
        own (correct signer signerListed)
    · apply SignedTransaction.verify_of_placeholder
      subst missing
      obtain ⟨address, found⟩ := Option.isSome_iff_exists.mp sponsored
      have unsigned : signed.unsigned = transaction := same
      cases agreed.sponsor
      rw [parties, unsigned, found]
      exact List.mem_cons_self

def jointRaw : RawTransaction where
  sender := Address.zero
  sequenceNumber := 0
  payload := .script ⟨[], [], [], TypeTag.concrete_nil⟩
  maxGasAmount := 2000
  gasUnitPrice := 100
  expiration := 1800000000
  chainId := 2

/-- A transaction with a secondary signer and a sponsor not yet known. -/
def joint : UnsignedTransaction := withSigners (.feePayer jointRaw [.one] .zero)

def jointKey : Ed25519PrivateKey := ⟨⟨List.replicate 32 1, rfl⟩⟩

def jointAccount (address : Address) : Account := .sole (.ed25519 ⟨jointKey, address⟩)

theorem jointKey_signs : (PrivateKey.ed25519 jointKey).publicKey.verify
    (withSigners (.feePayer jointRaw [.one] (.ofNat 2))).signingMessage
    ((PrivateKey.ed25519 jointKey).sign
      (withSigners (.feePayer jointRaw [.one] (.ofNat 2))).signingMessage) = true := by
  decide +kernel

theorem sign_joint :
    ∃ signed, joint.sign 0 (jointAccount .zero) [jointAccount .one]
        (some (jointAccount (.ofNat 2))) = .ok signed ∧
      signed.raw = jointRaw ∧
      signed.unsigned = withSigners (.feePayer jointRaw [.one] (.ofNat 2)) ∧
      signed.verify = true := by
  have solo : ∀ signer ∈ [jointAccount .zero, jointAccount .one, jointAccount (.ofNat 2)],
      ∃ address, signer = jointAccount address := by
    simp
  have made : ∀ signer ∈ [jointAccount .zero, jointAccount .one, jointAccount (.ofNat 2)],
      signer.IsMade := by
    intro signer listed
    obtain ⟨address, rfl⟩ := solo signer listed
    trivial
  have keyed : ∀ signer ∈ [jointAccount .zero, jointAccount .one, jointAccount (.ofNat 2)],
      signer.HasPrivateKeys := by
    intro signer listed member own
    obtain ⟨address, rfl⟩ := solo signer listed
    obtain rfl := List.mem_singleton.mp own
    exact ⟨_, rfl⟩
  obtain ⟨succeeds, spec⟩ := sign_spec joint 0 (jointAccount .zero) [jointAccount .one]
    (some (jointAccount (.ofNat 2))) made keyed
  obtain ⟨signed, ran⟩ := succeeds.mpr ⟨rfl, rfl, fun _ => rfl⟩
  obtain ⟨raw, unsigned, -, -, verifies, -⟩ := spec signed ran
  refine ⟨signed, ran, raw, unsigned, verifies (fun _ => rfl) ?_⟩
  intro signer listed member own key found
  obtain ⟨address, rfl⟩ := solo signer listed
  obtain rfl := List.mem_singleton.mp own
  cases found
  rw [unsigned]
  exact jointKey_signs

end UnsignedTransaction

end MoveWallet
