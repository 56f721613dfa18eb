import MoveWallet.Proofs.Bytes.Basic
import MoveWallet.Proofs.Transaction.Verification

/-! # One scalar for each commitment

The scalar of an Ed25519 signature is compared with the order of the group byte by byte, from the
most significant end. The comparison decides the order of the numbers, so that exactly the reduced
scalars are canonical. Scalars that agree modulo the order satisfy the same equation of points; of
these, every check of signatures that goes back to an Ed25519 key takes at most the reduced one.
-/

namespace MoveWallet

namespace Ed25519Signature

open Ed25519 (groupOrder)

/-- The number in the second half of a signature, least significant byte first. -/
def scalar (signature : Ed25519Signature) : Nat := Bytes.toNatLE (signature.bytes.toList.drop 32)

/-- The signature of a commitment and a number of 32 bytes. -/
def ofParts (commitment : FixedBytes 32) (scalar : Nat) : Ed25519Signature :=
  ⟨commitment.toList ++ Bytes.ofNatLE 32 scalar, by simp [commitment.length_eq]⟩

private theorem scalar_ofParts {commitment : FixedBytes 32} {n : Nat} (fits : n < 2 ^ 256) :
    (ofParts commitment n).scalar = n := by
  have half : (commitment.toList ++ Bytes.ofNatLE 32 n).drop 32 = Bytes.ofNatLE 32 n :=
    List.drop_left' commitment.length_eq
  rw [scalar, ofParts, half, Bytes.toNatLE_ofNatLE, Bytes.bound_eq_two_pow, Nat.mod_eq_of_lt fits]

/-! ## Canonical scalars -/

/-- The first place where two digit strings differ decides the order of their numbers. -/
theorem isBelow_eq_true_iff {first second : Bytes} (widths : first.length = second.length) :
    isBelow first second = true ↔ Bytes.toNatBE first < Bytes.toNatBE second := by
  induction first generalizing second with
  | nil =>
    obtain rfl := List.eq_nil_of_length_eq_zero widths.symm
    simp [isBelow]
  | cons a as ih =>
    obtain ⟨b, bs, rfl⟩ := List.exists_cons_of_length_eq_add_one widths.symm
    have widths : as.length = bs.length := Nat.succ.inj widths
    -- what follows the first digit is less than one unit of it
    have small := Bytes.toNatBE_lt as
    have small' := Bytes.toNatBE_lt bs
    rw [← widths] at small'
    rw [isBelow, Bytes.toNatBE_cons, Bytes.toNatBE_cons, ← widths]
    simp only [UInt8.lt_iff_toNat_lt]
    rcases Nat.lt_trichotomy a.toNat b.toNat with less | same | more
    · have gap : Bytes.bound as.length * (a.toNat + 1) ≤ Bytes.bound as.length * b.toNat :=
        Nat.mul_le_mul_left _ less
      rw [Nat.mul_succ] at gap
      rw [if_pos less]
      exact iff_of_true rfl (by omega)
    · rw [if_neg (by omega), if_neg (by omega), ih widths, same, Nat.add_lt_add_iff_right]
    · have gap : Bytes.bound as.length * (b.toNat + 1) ≤ Bytes.bound as.length * a.toNat :=
        Nat.mul_le_mul_left _ more
      rw [Nat.mul_succ] at gap
      rw [if_neg (by omega), if_pos more]
      exact iff_of_false nofun (by omega)

private theorem isCanonical_iff {signature : Ed25519Signature} :
    signature.isCanonical = true ↔ signature.scalar < groupOrder := by
  have fits : groupOrder < Bytes.bound 32 := by decide
  have widths : (signature.bytes.toList.drop 32).reverse.length =
      (Bytes.ofNatBE 32 groupOrder).length := by
    simp [signature.bytes.length_eq]
  rw [isCanonical, isBelow_eq_true_iff widths, Bytes.toNatBE_ofNatBE, Nat.mod_eq_of_lt fits,
    Bytes.toNatBE_eq_toNatLE_reverse, List.reverse_reverse, scalar]

/-- The order itself is not canonical, and the number below it is. -/
example : (ofParts (FixedBytes.zero 32) groupOrder).isCanonical = false ∧
    (ofParts (FixedBytes.zero 32) (groupOrder - 1)).isCanonical = true := by decide +kernel

/-! ## Checks of signatures -/

/-- A check takes at most one of the scalars that agree modulo the order of the group, and that is
the reduced one. -/
structure TakesReduced (check : Ed25519Signature → Bool) : Prop where
  reduced : ∀ commitment scalar count, scalar + count * groupOrder < 2 ^ 256 →
    check (ofParts commitment (scalar + count * groupOrder)) = true →
      scalar + count * groupOrder < groupOrder
  unique : ∀ commitment scalar count count', scalar + count * groupOrder < 2 ^ 256 →
    scalar + count' * groupOrder < 2 ^ 256 →
    check (ofParts commitment (scalar + count * groupOrder)) = true →
    check (ofParts commitment (scalar + count' * groupOrder)) = true → count = count'

/-- It is enough that a check takes canonical signatures only. -/
private theorem TakesReduced.of_canonical {check : Ed25519Signature → Bool}
    (canonical : ∀ signature, check signature = true → signature.isCanonical = true) :
    TakesReduced check := by
  have reduced (commitment : FixedBytes 32) (n : Nat) (fits : n < 2 ^ 256)
      (taken : check (ofParts commitment n) = true) : n < groupOrder := by
    have below := isCanonical_iff.mp (canonical _ taken)
    rwa [scalar_ofParts fits] at below
  -- a number with the order added to it is not reduced
  have unshifted (scalar count : Nat) (below : scalar + count * groupOrder < groupOrder) :
      count = 0 := by
    by_contra shifted
    have large := Nat.le_mul_of_pos_left groupOrder (Nat.pos_of_ne_zero shifted)
    omega
  refine ⟨fun commitment scalar count => reduced commitment _, ?_⟩
  intro commitment scalar count count' fits fits' taken taken'
  rw [unshifted scalar count (reduced commitment _ fits taken),
    unshifted scalar count' (reduced commitment _ fits' taken')]

end Ed25519Signature

open Ed25519Signature

variable {message : Bytes} {signature : Ed25519Signature}

theorem Ed25519PublicKey.verify_eq_true_iff {key : Ed25519PublicKey} :
    key.verify message signature = true ↔ signature.scalar < Ed25519.groupOrder ∧
      Ed25519.verify key.bytes message signature.bytes = true := by
  rw [verify, Bool.and_eq_true, isCanonical_iff]

private theorem Ed25519PublicKey.isCanonical_of_verify {key : Ed25519PublicKey}
    (valid : key.verify message signature = true) : signature.isCanonical = true :=
  (Bool.and_eq_true_iff.mp valid).1

/-- Keys of other kinds take no Ed25519 signatures at all. -/
theorem AnyPublicKey.isCanonical_of_verify {key : AnyPublicKey}
    (valid : key.verify message (.ed25519 signature) = true) : signature.isCanonical = true := by
  cases key with
  | ed25519 key => exact key.isCanonical_of_verify valid
  | secp256k1 | keyless | federatedKeyless => cases valid

private theorem EphemeralPublicKey.isCanonical_of_verify {key : EphemeralPublicKey}
    (valid : key.verify message (.ed25519 signature) = true) : signature.isCanonical = true := by
  cases key with
  | ed25519 key => exact key.isCanonical_of_verify valid

/-- The signature of a multi-key with another signature at one of its places. -/
def MultiKeySignature.replace (signature : MultiKeySignature)
    (place : Fin signature.signatures.length) (part : AnySignature) : MultiKeySignature where
  signatures := signature.signatures.set place part
  bitmap := signature.bitmap
  count_eq := by rw [List.length_set, signature.count_eq]

/-- Each signature is checked by a key of the multi-key, wherever it stands. -/
theorem MultiKey.isCanonical_of_verify {multiKey : MultiKey} {signatures : MultiKeySignature}
    (valid : multiKey.verify message signatures = true)
    (listed : .ed25519 signature ∈ signatures.signatures) : signature.isCanonical = true := by
  obtain ⟨positions, accepted⟩ := MultiKey.verify_eq_true_iff.mp valid
  obtain ⟨position, key, -, taken⟩ := accepted.exists_position listed
  exact key.isCanonical_of_verify taken

/-- Exactly the scalars below the order of the group are canonical, and a signature with such a
scalar is left to the equation of points. Of the signatures with one commitment whose scalars differ
by multiples of the order, a key takes at most the one with the reduced scalar, alone or in
whatever it is wrapped. -/
theorem scalars_reduced :
    (∀ signature : Ed25519Signature, signature.isCanonical = true ↔
      Bytes.toNatLE (signature.bytes.toList.drop 32) <
        2 ^ 252 + 27742317777372353535851937790883648493) ∧
    (∀ (key : Ed25519PublicKey) (message : Bytes) (signature : Ed25519Signature),
      key.verify message signature = true ↔
        Bytes.toNatLE (signature.bytes.toList.drop 32) < Ed25519.groupOrder ∧
          Ed25519.verify key.bytes message signature.bytes = true) ∧
    ∀ message : Bytes,
      (∀ key : Ed25519PublicKey, TakesReduced fun signature => key.verify message signature) ∧
      (∀ key : AnyPublicKey, TakesReduced fun signature =>
        key.verify message (.ed25519 signature)) ∧
      (∀ key : EphemeralPublicKey, TakesReduced fun signature =>
        key.verify message (.ed25519 signature)) ∧
      (∀ (multiKey : MultiKey) (signatures : MultiKeySignature)
        (place : Fin signatures.signatures.length), TakesReduced fun signature =>
          multiKey.verify message (signatures.replace place (.ed25519 signature))) ∧
      (∀ key : Ed25519PublicKey, TakesReduced fun signature =>
        (AccountAuthenticator.ed25519 key signature).verify message) ∧
      (∀ key : AnyPublicKey, TakesReduced fun signature =>
        (AccountAuthenticator.singleKey key (.ed25519 signature)).verify message) ∧
      ∀ (multiKey : MultiKey) (signatures : MultiKeySignature)
        (place : Fin signatures.signatures.length), TakesReduced fun signature =>
          (AccountAuthenticator.multiKey multiKey
            (signatures.replace place (.ed25519 signature))).verify message := by
  have alone (message : Bytes) (key : Ed25519PublicKey) :
      TakesReduced fun signature => key.verify message signature :=
    .of_canonical fun _ => key.isCanonical_of_verify
  have wrapped (message : Bytes) (key : AnyPublicKey) :
      TakesReduced fun signature => key.verify message (.ed25519 signature) :=
    .of_canonical fun _ => key.isCanonical_of_verify
  have joint (message : Bytes) (multiKey : MultiKey) (signatures : MultiKeySignature)
      (place : Fin signatures.signatures.length) : TakesReduced fun signature =>
        multiKey.verify message (signatures.replace place (.ed25519 signature)) :=
    .of_canonical fun _ valid =>
      MultiKey.isCanonical_of_verify valid (List.mem_set place.isLt _)
  refine ⟨fun _ => isCanonical_iff, fun _ _ _ => Ed25519PublicKey.verify_eq_true_iff,
    fun message => ⟨alone message, wrapped message, fun key => ?_, joint message, alone message,
      wrapped message, joint message⟩⟩
  exact .of_canonical fun _ => key.isCanonical_of_verify

def emptyCommitment : FixedBytes 32 :=
  .ofNatBE 32 0xe5564300c360ac729086e2cc806e828a84877f1eb8e5d974d873e06522490155

def emptyScalar : Nat :=
  Bytes.toNatLE (Bytes.ofNatBE 32
    0x5fb8821590a33bacc61e39701cf9b46bd25bf5f0595bbe24655141438e7a100b)

/-- The signature of the empty message is valid, and with the order added to its scalar it is
not. -/
theorem scalars_reduced_emptyMessage :
    emptyScalar + 1 * Ed25519.groupOrder < 2 ^ 256 ∧
    MultiKey.signingKey.verify [] (.ed25519 (ofParts emptyCommitment emptyScalar)) = true ∧
    MultiKey.signingKey.verify []
      (.ed25519 (ofParts emptyCommitment (emptyScalar + 1 * Ed25519.groupOrder))) = false := by
  obtain ⟨-, -, checks⟩ := scalars_reduced
  obtain ⟨-, wrapped, -⟩ := checks []
  have signed : AnySignature.ed25519 (ofParts emptyCommitment emptyScalar) =
      MultiKey.emptySignature := by decide +kernel
  have valid : MultiKey.signingKey.verify []
      (.ed25519 (ofParts emptyCommitment (emptyScalar + 0 * Ed25519.groupOrder))) = true := by
    rw [Nat.zero_mul, Nat.add_zero, signed]
    exact MultiKey.signingKey_verify
  have fits : emptyScalar + 1 * Ed25519.groupOrder < 2 ^ 256 := by decide +kernel
  refine ⟨fits, signed ▸ MultiKey.signingKey_verify, Bool.eq_false_iff.mpr fun shifted => ?_⟩
  have same := (wrapped MultiKey.signingKey).unique _ _ 0 1 (by decide +kernel) fits valid shifted
  cases same

end MoveWallet
