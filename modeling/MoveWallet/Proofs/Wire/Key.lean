import MoveWallet.MultiKey.Basic
import MoveWallet.Proofs.Outcome
import MoveWallet.Proofs.Wire.Canonical

/-! # The wire forms of keys and signatures are canonical

Keys and signatures of fixed size stand behind a length that allows no choice. A Secp256k1 key must
be a point of the curve, a multi-key must have a threshold within the number of its keys, and the
signature of a multi-key must have as many signatures as its bitmap has positions: the readers
check what the constructors check.
-/

namespace MoveWallet

theorem FixedBytes.ofKeyBytes_eq_ok_iff {typeName : String} {size : Nat} {bytes : Bytes}
    {value : FixedBytes size} :
    ofKeyBytes typeName size bytes = .ok value ↔ value.toList = bytes := by
  rw [← ofList?_eq_some_iff]
  unfold ofKeyBytes
  cases ofList? size bytes <;> simp

/-- A value of one byte string of its size is made of these bytes. -/
theorem FixedBytes.map_ofKeyBytes_eq_ok_iff {α : Type} {typeName : String} {size : Nat}
    {make : FixedBytes size → α} {part : α → FixedBytes size} {bytes : Bytes} {value : α}
    (left : ∀ sized, part (make sized) = sized) (right : ∀ value, make (part value) = value) :
    make <$> ofKeyBytes typeName size bytes = .ok value ↔ (part value).toList = bytes := by
  simp only [Outcome.map_eq_ok_iff, ofKeyBytes_eq_ok_iff]
  constructor
  · rintro ⟨sized, rfl, rfl⟩
    rw [left]
  · intro same
    exact ⟨part value, same, right value⟩

theorem Ed25519PrivateKey.ofBytes_eq_ok_iff {bytes : Bytes} {key : Ed25519PrivateKey} :
    ofBytes bytes = .ok key ↔ key.seed.toList = bytes :=
  FixedBytes.map_ofKeyBytes_eq_ok_iff (fun _ => rfl) (fun _ => rfl)

/-- A private key is a scalar with its bytes. -/
theorem Secp256k1PrivateKey.ofBytes_eq_ok_iff {bytes : Bytes} {key : Secp256k1PrivateKey} :
    ofBytes bytes = .ok key ↔ key.bytes.toList = bytes := by
  unfold ofBytes
  rw [Outcome.bind_eq_ok_iff]
  simp only [FixedBytes.ofKeyBytes_eq_ok_iff]
  constructor
  · rintro ⟨sized, rfl, made⟩
    split at made
    · cases made
      rfl
    · cases made
  · rintro rfl
    exact ⟨key.bytes, rfl, dif_pos key.scalar⟩

/-- A public key is a point with its bytes. -/
@[grind =] theorem Secp256k1PublicKey.ofBytes_eq_ok_iff {bytes : Bytes}
    {key : Secp256k1PublicKey} :
    ofBytes bytes = .ok key ↔ key.bytes.toList = bytes ∧ key.IsValid := by
  unfold ofBytes IsValid
  rw [Outcome.bind_eq_ok_iff]
  simp only [FixedBytes.ofKeyBytes_eq_ok_iff]
  constructor
  · rintro ⟨sized, rfl, made⟩
    split at made
    next valid =>
      cases made
      exact ⟨rfl, valid⟩
    next => cases made
  · rintro ⟨rfl, valid⟩
    exact ⟨key.bytes, rfl, if_pos valid⟩

theorem Secp256k1PublicKey.exists_ofBytes_iff {bytes : FixedBytes 65} :
    (∃ key, ofBytes bytes.toList = .ok key) ↔ Secp256k1.isPublicKey bytes = true := by
  simp only [ofBytes_eq_ok_iff, ← FixedBytes.ext_iff]
  constructor
  · rintro ⟨key, rfl, valid⟩
    exact valid
  · exact fun valid => ⟨⟨bytes⟩, rfl, valid⟩

/-- A multi-key is made of its own keys and threshold. -/
@[grind =] theorem MultiKey.make_eq_ok_iff {keys : List AnyPublicKey} {threshold : UInt8}
    {multiKey : MultiKey} :
    make keys threshold = .ok multiKey ↔
      multiKey.keys = keys ∧ multiKey.threshold = threshold := by
  unfold make
  constructor
  · intro made
    split at made
    next => cases made
    next =>
      split at made
      next =>
        cases made
        exact ⟨rfl, rfl⟩
      next => cases made
  · rintro ⟨rfl, rfl⟩
    rw [dif_neg multiKey.length_le.not_gt, dif_pos multiKey.within]

/-- Keys and a threshold make a multi-key if the threshold is from one to the number of keys. -/
theorem MultiKey.exists_make_iff {keys : List AnyPublicKey} {threshold : UInt8} :
    (∃ multiKey, make keys threshold = .ok multiKey) ↔
      1 ≤ threshold.toNat ∧ threshold.toNat ≤ keys.length ∧ keys.length ≤ maxKeys := by
  constructor
  · rintro ⟨multiKey, made⟩
    obtain ⟨rfl, rfl⟩ := make_eq_ok_iff.mp made
    exact ⟨multiKey.within.1, multiKey.within.2, multiKey.length_le⟩
  · rintro ⟨positive, reached, few⟩
    exact ⟨⟨keys, threshold, ⟨positive, reached⟩, few⟩, make_eq_ok_iff.mpr ⟨rfl, rfl⟩⟩

/-- A signature is made of its own signatures and bitmap. -/
@[grind =] theorem MultiKeySignature.make_eq_ok_iff {signatures : List AnySignature}
    {bitmap : Bitmap} {signature : MultiKeySignature} :
    make signatures bitmap = .ok signature ↔
      signature.signatures = signatures ∧ signature.bitmap = bitmap := by
  unfold make
  constructor
  · intro made
    split at made
    next =>
      cases made
      exact ⟨rfl, rfl⟩
    next => cases made
  · rintro ⟨rfl, rfl⟩
    exact dif_pos signature.count_eq

theorem MultiKeySignature.exists_make_iff {signatures : List AnySignature} {bitmap : Bitmap} :
    (∃ signature, make signatures bitmap = .ok signature) ↔ bitmap.count = signatures.length := by
  constructor
  · rintro ⟨signature, made⟩
    obtain ⟨rfl, rfl⟩ := make_eq_ok_iff.mp made
    exact signature.count_eq
  · exact fun counted => ⟨⟨signatures, bitmap, counted⟩, make_eq_ok_iff.mpr ⟨rfl, rfl⟩⟩

namespace Canonical

open Reader

instance : Canonical AuthenticationKey where
  Fits _ := True
  exact := by
    refine (Exact.map AuthenticationKey.mk AuthenticationKey.bytes (Exact.fixed 32)).congr ?_ ?_
    · intro key
      rfl
    · simp

instance : Canonical Ed25519PublicKey where
  Fits _ := True
  exact := by
    refine (Exact.map Ed25519PublicKey.mk Ed25519PublicKey.bytes
      (Exact.sized _ (by decide))).congr ?_ ?_
    · intro key
      rfl
    · simp

instance : Canonical Ed25519Signature where
  Fits _ := True
  exact := by
    refine (Exact.map Ed25519Signature.mk Ed25519Signature.bytes
      (Exact.sized _ (by decide))).congr ?_ ?_
    · intro signature
      rfl
    · simp

instance : Canonical Secp256k1PublicKey where
  Fits := Secp256k1PublicKey.IsValid
  exact := by
    refine (Exact.bind Secp256k1PublicKey.bytes (Exact.sized _ (by decide)) (fun bytes =>
      Exact.checked _ _ (Secp256k1PublicKey.ofBytes bytes.toList)) fun bytes key made =>
        FixedBytes.ext (Secp256k1PublicKey.ofBytes_eq_ok_iff.mp made).1).congr ?_ ?_
    · intro key
      exact List.append_nil _
    · simp [Secp256k1PublicKey.ofBytes_eq_ok_iff]

instance : Canonical Secp256k1Signature where
  Fits _ := True
  exact := by
    refine (Exact.map Secp256k1Signature.mk Secp256k1Signature.bytes
      (Exact.sized _ (by decide))).congr ?_ ?_
    · intro signature
      rfl
    · simp

instance : Canonical KeylessPublicKey where
  Fits key := Fits key.issuer
  exact := by
    refine (Exact.bind KeylessPublicKey.issuer Exact.text fun issuer =>
      Exact.bind KeylessPublicKey.commitment (Exact.sized _ (by decide)) fun commitment =>
      Exact.pure _).congr ?_ ?_
    · intro key
      simp [Wire.write]
    · simp [Fits]

instance : Canonical FederatedKeylessPublicKey where
  Fits key := Fits key.keyless
  exact := by
    refine (Exact.bind FederatedKeylessPublicKey.jwkAddress exact fun jwkAddress =>
      Exact.bind FederatedKeylessPublicKey.keyless exact fun keyless => Exact.pure _).congr ?_ ?_
    · intro key
      simp [Wire.write]
    · simp [Fits]

instance : Canonical EphemeralPublicKey where
  Fits _ := True
  exact := by
    refine (Exact.soleTag _ (Exact.map EphemeralPublicKey.ed25519
      (fun | .ed25519 key => key) exact)).congr ?_ ?_
    · rintro ⟨key⟩
      rfl
    · rintro ⟨key⟩
      simp [Fits]

instance : Canonical EphemeralSignature where
  Fits _ := True
  exact := by
    refine (Exact.soleTag _ (Exact.map EphemeralSignature.ed25519
      (fun | .ed25519 signature => signature) exact)).congr ?_ ?_
    · rintro ⟨signature⟩
      rfl
    · rintro ⟨signature⟩
      simp [Fits]

instance : Canonical Groth16Proof where
  Fits _ := True
  exact := by
    refine (Exact.bind Groth16Proof.a exact fun a => Exact.bind Groth16Proof.b exact fun b =>
      Exact.bind Groth16Proof.c exact fun c => Exact.pure _).congr ?_ ?_
    · intro proof
      simp [Wire.write]
    · simp [Fits]

instance : Canonical ZkProof where
  Fits _ := True
  exact := by
    refine (Exact.soleTag _ (Exact.map ZkProof.groth16 (fun | .groth16 proof => proof)
      exact)).congr ?_ ?_
    · rintro ⟨proof⟩
      rfl
    · rintro ⟨proof⟩
      simp [Fits]

instance : Canonical ZeroKnowledgeSig where
  Fits sig := Fits sig.extraField ∧ Fits sig.overrideAudience
  exact := by
    refine (Exact.bind ZeroKnowledgeSig.proof exact fun proof =>
      Exact.bind ZeroKnowledgeSig.horizon exact fun horizon =>
      Exact.bind ZeroKnowledgeSig.extraField exact fun extraField =>
      Exact.bind ZeroKnowledgeSig.overrideAudience exact fun overrideAudience =>
      Exact.bind ZeroKnowledgeSig.trainingWheels exact fun trainingWheels =>
      Exact.pure _).congr ?_ ?_
    · intro sig
      simp [Wire.write]
    · simp [Fits]

instance : Canonical EphemeralCertificate where
  Fits | .zeroKnowledge sig => Fits sig
  exact := by
    refine (Exact.soleTag _ (Exact.map EphemeralCertificate.zeroKnowledge
      (fun | .zeroKnowledge sig => sig) exact)).congr ?_ ?_
    · rintro ⟨sig⟩
      rfl
    · rintro ⟨sig⟩
      simp

instance : Canonical KeylessSignature where
  Fits signature := Fits signature.certificate ∧ Fits signature.tokenHeader
  exact := by
    refine (Exact.bind KeylessSignature.certificate exact fun certificate =>
      Exact.bind KeylessSignature.tokenHeader exact fun tokenHeader =>
      Exact.bind KeylessSignature.expiry exact fun expiry =>
      Exact.bind KeylessSignature.publicKey exact fun publicKey =>
      Exact.bind KeylessSignature.signature exact fun signature => Exact.pure _).congr ?_ ?_
    · intro signature
      simp [Wire.write]
    · simp [Fits]

end Canonical

open Canonical Reader

def AnyPublicKey.Fits : AnyPublicKey → Prop
  | ed25519 _ => True
  | secp256k1 key => key.IsValid
  | keyless key => Canonical.Fits key
  | federatedKeyless key => Canonical.Fits key

instance : Canonical AnyPublicKey where
  Fits := AnyPublicKey.Fits
  exact := by
    refine Exact.tagged AnyPublicKey.tag AnyPublicKey.body ?_ ?_ ?_
    · intro key
      cases key <;> simp [AnyPublicKey.tag]
    · intro n input key rest ran
      rcases ite_eq_ok_iff.mp ran with ⟨isEd25519, ran⟩ | ⟨-, ran⟩
      · obtain ⟨key, ⟨fits, rfl⟩, rfl⟩ := map_read_eq_ok_iff.mp ran
        exact ⟨⟨fits, isEd25519.symm⟩, rfl⟩
      rcases ite_eq_ok_iff.mp ran with ⟨isSecp256k1, ran⟩ | ⟨-, ran⟩
      · obtain ⟨key, ⟨fits, rfl⟩, rfl⟩ := map_read_eq_ok_iff.mp ran
        exact ⟨⟨fits, isSecp256k1.symm⟩, rfl⟩
      rcases ite_eq_ok_iff.mp ran with ⟨isKeyless, ran⟩ | ⟨-, ran⟩
      · obtain ⟨key, ⟨fits, rfl⟩, rfl⟩ := map_read_eq_ok_iff.mp ran
        exact ⟨⟨fits, isKeyless.symm⟩, rfl⟩
      rcases ite_eq_ok_iff.mp ran with ⟨isFederated, ran⟩ | ⟨-, ran⟩
      · obtain ⟨key, ⟨fits, rfl⟩, rfl⟩ := map_read_eq_ok_iff.mp ran
        exact ⟨⟨fits, isFederated.symm⟩, rfl⟩
      cases ran
    · intro key rest fits
      cases key <;> simp [AnyPublicKey.tag, AnyPublicKey.body, map_read_eq_ok_iff] <;> exact fits

def AnySignature.Fits : AnySignature → Prop
  | keyless signature => Canonical.Fits signature
  | _ => True

instance : Canonical AnySignature where
  Fits := AnySignature.Fits
  exact := by
    refine Exact.tagged AnySignature.tag AnySignature.body ?_ ?_ ?_
    · intro signature
      cases signature <;> simp [AnySignature.tag]
    · intro n input signature rest ran
      rcases ite_eq_ok_iff.mp ran with ⟨isEd25519, ran⟩ | ⟨-, ran⟩
      · obtain ⟨signature, ⟨fits, rfl⟩, rfl⟩ := map_read_eq_ok_iff.mp ran
        exact ⟨⟨fits, isEd25519.symm⟩, rfl⟩
      rcases ite_eq_ok_iff.mp ran with ⟨isSecp256k1, ran⟩ | ⟨-, ran⟩
      · obtain ⟨signature, ⟨fits, rfl⟩, rfl⟩ := map_read_eq_ok_iff.mp ran
        exact ⟨⟨fits, isSecp256k1.symm⟩, rfl⟩
      rcases ite_eq_ok_iff.mp ran with ⟨isKeyless, ran⟩ | ⟨-, ran⟩
      · obtain ⟨signature, ⟨fits, rfl⟩, rfl⟩ := map_read_eq_ok_iff.mp ran
        exact ⟨⟨fits, isKeyless.symm⟩, rfl⟩
      cases ran
    · intro signature rest fits
      cases signature <;> simp [AnySignature.tag, AnySignature.body, map_read_eq_ok_iff] <;>
        exact fits

/-- The number of keys has its length in 32 bits. -/
theorem MultiKey.length_lt (multiKey : MultiKey) : multiKey.keys.length < UInt32.size :=
  Nat.lt_of_le_of_lt multiKey.length_le (by decide)

instance : Canonical MultiKey where
  Fits multiKey := ∀ key ∈ multiKey.keys, Canonical.Fits key
  exact := by
    refine (Exact.bind MultiKey.keys exact fun keys =>
      Exact.bind MultiKey.threshold exact fun threshold =>
      Exact.checked _ _ (MultiKey.make keys threshold)).congr ?_ ?_
    · intro multiKey
      simp [Wire.write]
    · intro multiKey
      simp [MultiKey.make_eq_ok_iff, Canonical.Fits, multiKey.length_lt]

instance : Canonical MultiKeySignature where
  Fits signature := Canonical.Fits signature.signatures
  exact := by
    refine (Exact.bind MultiKeySignature.signatures exact fun signatures =>
      Exact.bind MultiKeySignature.bitmap (Exact.sized _ (by decide)) fun bitmap =>
      Exact.checked _ _ (MultiKeySignature.make signatures bitmap)).congr ?_ ?_
    · intro signature
      simp [Wire.write]
    · simp [MultiKeySignature.make_eq_ok_iff]

end MoveWallet
