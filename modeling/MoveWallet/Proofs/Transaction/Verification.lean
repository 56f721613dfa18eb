import MoveWallet.Proofs.MultiKey.Threshold
import MoveWallet.Proofs.Transaction.Assembly

/-! # What assembled signatures prove

Authenticators may be made anywhere, by devices that know nothing of each other. They are put
together exactly when the transaction has a place for each, and what is put together is accepted
exactly when each of them holds for the transaction that it was made for. A party whose signature
cannot be checked here, since nobody has signed or the keys of an issuer are needed, is refused
wherever it stands.
-/

namespace MoveWallet

/-- The keys of logins: the keys of an issuer are needed to check their signatures. -/
def AnyPublicKey.IsKeyless : AnyPublicKey → Prop
  | keyless _ | federatedKeyless _ => True
  | ed25519 _ | secp256k1 _ => False

/-- The signatures of logins. -/
def AnySignature.IsKeyless : AnySignature → Prop
  | keyless _ => True
  | ed25519 _ | secp256k1 _ => False

/-- Nothing is checked with a key or a signature of a login. -/
theorem AnyPublicKey.verify_of_keyless {key : AnyPublicKey} {signature : AnySignature}
    (keyless : key.IsKeyless ∨ signature.IsKeyless) (message : Bytes) :
    key.verify message signature = false := by
  rcases keyless with keyless | keyless
  · cases key with
    | ed25519 key | secp256k1 key => cases keyless
    | keyless key | federatedKeyless key => rfl
  · cases signature with
    | ed25519 signature | secp256k1 signature => cases keyless
    | keyless signature => cases key <;> rfl

namespace MultiKey

variable {multiKey : MultiKey} {message : Bytes} {signature : MultiKeySignature}
  {positions : List Nat}

/-- Each signature stands beside a position. -/
theorem Accepts.exists_position (accepted : multiKey.Accepts message signature positions)
    {part : AnySignature} (listed : part ∈ signature.signatures) :
    ∃ position, multiKey.AcceptsAt message position part := by
  obtain ⟨index, found⟩ := List.mem_iff_getElem?.mp listed
  obtain ⟨inside, -⟩ := List.getElem?_eq_some_iff.mp found
  have inside : index < positions.length := accepted.count ▸ inside
  exact ⟨_, accepted.valid index _ part (List.getElem?_eq_getElem inside) found⟩

/-- Each position stands beside a signature. -/
private theorem Accepts.exists_part (accepted : multiKey.Accepts message signature positions)
    {position : Nat} (listed : position ∈ positions) :
    ∃ part, multiKey.AcceptsAt message position part := by
  obtain ⟨index, found⟩ := List.mem_iff_getElem?.mp listed
  obtain ⟨inside, -⟩ := List.getElem?_eq_some_iff.mp found
  have inside : index < signature.signatures.length := accepted.count ▸ inside
  exact ⟨_, accepted.valid index position _ found (List.getElem?_eq_getElem inside)⟩

end MultiKey

namespace AccountAuthenticator

/-- The agreements that cannot be checked here: nobody has signed, or one of those who signed has
done so by a login. -/
def NeedsChain : AccountAuthenticator → Prop
  | ed25519 _ _ => False
  | singleKey key signature => key.IsKeyless ∨ signature.IsKeyless
  | multiKey key signature =>
    (∃ part ∈ signature.signatures, part.IsKeyless) ∨
      ∃ position ∈ signature.positions, ∃ member, key.keys[position]? = some member ∧
        member.IsKeyless
  | placeholder => True

private theorem verify_of_needsChain {authenticator : AccountAuthenticator}
    (needs : authenticator.NeedsChain) (message : Bytes) :
    authenticator.verify message = false := by
  cases authenticator with
  | ed25519 key signature => cases needs
  | placeholder => rfl
  | singleKey key signature => exact AnyPublicKey.verify_of_keyless needs message
  | multiKey key signature =>
    by_contra verified
    obtain ⟨positions, accepted⟩ :=
      MultiKey.verify_eq_true_iff.mp (Bool.eq_true_of_not_eq_false verified)
    rcases needs with ⟨part, listed, keyless⟩ | ⟨position, listed, member, held, keyless⟩
    · obtain ⟨position, member, -, verifies⟩ := accepted.exists_position listed
      rw [AnyPublicKey.verify_of_keyless (.inr keyless)] at verifies
      cases verifies
    · have named : position ∈ positions := Bitmap.lists_iff.mp accepted.lists ▸ listed
      obtain ⟨part, other, found, verifies⟩ := accepted.exists_part named
      obtain rfl : member = other := Option.some.inj (held.symm.trans found)
      rw [AnyPublicKey.verify_of_keyless (.inl keyless)] at verifies
      cases verifies

end AccountAuthenticator

namespace UnsignedTransaction

variable {transaction : UnsignedTransaction} {sender : AccountAuthenticator}
  {secondarySigners : List AccountAuthenticator} {sponsorSigner : Option AccountAuthenticator}

/-- The sponsor of an assembled transaction agrees exactly if there is one and it has signed. -/
theorem Assembled.sponsor_agrees_iff {signed : SignedTransaction}
    (assembled : transaction.Assembled sender secondarySigners sponsorSigner signed)
    (message : Bytes) :
    (∀ payer ∈ signed.authenticator.sponsorSigner?, payer.verify message = true) ↔
      (transaction.sponsor?.isSome →
        ∃ payer, sponsorSigner = some payer ∧ payer.verify message = true) := by
  rw [assembled.sponsor]
  cases transaction.sponsor? with
  | none => simp
  | some sponsor =>
    cases sponsorSigner with
    | none => simp [AccountAuthenticator.verify]
    | some payer => simp

private theorem Assembled.verify_iff {signed : SignedTransaction}
    (assembled : transaction.Assembled sender secondarySigners sponsorSigner signed)
    (counted : secondarySigners.length = transaction.secondary.length) :
    signed.verify = true ↔
      (∀ signer ∈ sender :: secondarySigners, signer.AgreesTo transaction) ∧
        (transaction.sponsor?.isSome → ∃ payer, sponsorSigner = some payer ∧
          payer.verify transaction.signingMessage = true) := by
  rw [SignedTransaction.verify_eq_true_iff, assembled.sponsor_agrees_iff, assembled.sender,
    assembled.secondary, assembled.unsigned]
  exact and_iff_right counted

/-- Authenticators made anywhere are assembled exactly when there is one for each secondary signer
and one for a sponsor at most where there is a sponsor. The outcome is accepted exactly when all
signers agree to the transaction, before or after its sponsor is known, and the sponsor has agreed
to the transaction that names it. No party is taken whose agreement cannot be checked. -/
theorem assemble_verify_iff (transaction : UnsignedTransaction) (sender : AccountAuthenticator)
    (secondarySigners : List AccountAuthenticator) (sponsorSigner : Option AccountAuthenticator) :
    ((∃ signed, transaction.assemble sender secondarySigners sponsorSigner = .ok signed) ↔
      secondarySigners.length = transaction.secondary.length ∧
        (sponsorSigner.isSome → transaction.sponsor?.isSome)) ∧
    (∀ signed, transaction.assemble sender secondarySigners sponsorSigner = .ok signed →
      (signed.verify = true ↔
        (∀ signer ∈ sender :: secondarySigners, signer.AgreesTo transaction) ∧
          (transaction.sponsor?.isSome → ∃ payer, sponsorSigner = some payer ∧
            payer.verify transaction.signingMessage = true))) ∧
    ∀ signed : SignedTransaction, ∀ party ∈ signed.authenticator.parties,
      party.NeedsChain → signed.verify = false := by
  refine ⟨⟨?_, ?_⟩, fun signed ran => ?_, fun signed party listed needs => ?_⟩
  · rintro ⟨signed, ran⟩
    exact counted_of_assemble ran
  · rintro ⟨counted, expected⟩
    obtain ⟨signed, ran, -⟩ := exists_assembled counted expected
    exact ⟨signed, ran⟩
  · exact (assembled_of_assemble ran).verify_iff (counted_of_assemble ran).1
  · exact SignedTransaction.verify_of_party listed (AccountAuthenticator.verify_of_needsChain needs)

/-- The joint transaction with its sponsor known. -/
def sponsoredJoint : UnsignedTransaction := withSigners (.feePayer jointRaw [.one] (.ofNat 2))

/-- The agreement of the joint key to it. -/
def jointAgreement : AccountAuthenticator :=
  .ed25519 jointKey.publicKey (jointKey.sign sponsoredJoint.signingMessage)

/-- All parties have agreed, and all but the sponsor. -/
theorem assemble_verify_joint :
    (∃ signed, sponsoredJoint.assemble jointAgreement [jointAgreement] (some jointAgreement) =
      .ok signed ∧ signed.verify = true) ∧
    ∃ signed, sponsoredJoint.assemble jointAgreement [jointAgreement] none = .ok signed ∧
      signed.verify = false := by
  have agrees : jointAgreement.verify sponsoredJoint.signingMessage = true := jointKey_signs
  obtain ⟨taken, verified, -⟩ := assemble_verify_iff sponsoredJoint jointAgreement [jointAgreement]
    (some jointAgreement)
  obtain ⟨signed, paidFor⟩ := taken.mpr ⟨rfl, fun _ => rfl⟩
  obtain ⟨taken, -, refused⟩ :=
    assemble_verify_iff sponsoredJoint jointAgreement [jointAgreement] none
  obtain ⟨unpaid, waiting⟩ := taken.mpr ⟨rfl, fun given => by cases given⟩
  refine ⟨⟨signed, paidFor, (verified signed paidFor).mpr ⟨?_, fun _ => ⟨_, rfl, agrees⟩⟩⟩, unpaid,
    waiting, ?_⟩
  · simp [AccountAuthenticator.AgreesTo, agrees]
  · apply refused unpaid .placeholder _ trivial
    rw [(assembled_of_assemble waiting).parties]
    exact List.mem_cons_self

end UnsignedTransaction

end MoveWallet
