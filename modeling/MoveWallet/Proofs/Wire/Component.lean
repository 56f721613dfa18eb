import MoveWallet.Proofs.TypeTag.Content
import MoveWallet.Proofs.Wire.Transaction

/-! # The components of a value

A value is put together from components that only their own constructors make, and from sequences
whose lengths are written in 32 bits. For each type the values that can be written are those whose
components, at every depth, satisfy the rules of their constructors and whose sequences are not too
long.
-/

namespace MoveWallet

/-- What a constructor checks in a value, or a sequence in it. -/
inductive Component
  | sequence (length : Nat)
  | identifier (identifier : Identifier)
  | script (script : Script)
  | call (call : EntryFunction)
  | secp256k1Key (key : Secp256k1PublicKey)
  | multiKey (multiKey : MultiKey)
  | multiKeySignature (signature : MultiKeySignature)

namespace Component

/-- No reference and no placeholder occurs in some types at any depth. -/
def AllConcrete (types : List TypeTag) : Prop :=
  ∀ type ∈ types, ∀ inner : TypeTag, inner.OccursIn type → ¬ inner.IsParameterForm

/-- The rules of the constructors. -/
def IsValid : Component → Prop
  | sequence _ => True
  | identifier id => Identifier.IsWord id.text
  | script code => AllConcrete code.typeArguments
  | call function => AllConcrete function.typeArguments
  | secp256k1Key key => Secp256k1.isPublicKey key.bytes = true
  | multiKey key =>
    1 ≤ key.threshold.toNat ∧ key.threshold.toNat ≤ key.keys.length ∧ key.keys.length ≤ 32
  | multiKeySignature signature => signature.bitmap.count = signature.signatures.length

/-- Sequences have their lengths in 32 bits. -/
def InRange : Component → Prop
  | sequence length => length < UInt32.size
  | _ => True

instance : DecidablePred InRange
  | sequence length => inferInstanceAs (Decidable (length < UInt32.size))
  | identifier _ | script _ | call _ | secp256k1Key _ | multiKey _ | multiKeySignature _ =>
    inferInstanceAs (Decidable True)

def Fits (component : Component) : Prop := component.IsValid ∧ component.InRange

@[simp] theorem fits_sequence_iff {length : Nat} : (sequence length).Fits ↔ length < UInt32.size :=
  and_iff_right trivial

@[simp] theorem fits_secp256k1Key_iff {key : Secp256k1PublicKey} :
    (secp256k1Key key).Fits ↔ key.IsValid :=
  and_iff_left trivial

theorem allConcrete_iff {types : List TypeTag} :
    AllConcrete types ↔ ∀ type ∈ types, type.isAbiOnly = false := by
  refine forall₂_congr fun type _ => ?_
  exact TypeTag.isAbiOnly_eq_false_iff.symm

/-! Components of the other kinds bring their own proofs. -/

@[simp] theorem fits_identifier (id : Identifier) : (identifier id).Fits :=
  ⟨id.isWord, trivial⟩

@[simp] theorem fits_script (code : Script) : (script code).Fits :=
  ⟨allConcrete_iff.mpr code.concrete, trivial⟩

@[simp] theorem fits_call (function : EntryFunction) : (call function).Fits :=
  ⟨allConcrete_iff.mpr function.concrete, trivial⟩

@[simp] theorem fits_multiKey (key : MultiKey) : (multiKey key).Fits :=
  ⟨⟨key.within.1, key.within.2, key.length_le⟩, trivial⟩

@[simp] theorem fits_multiKeySignature (signature : MultiKeySignature) :
    (multiKeySignature signature).Fits :=
  ⟨signature.count_eq, trivial⟩

end Component

/-- The types whose values can be written exactly if their components can. -/
class Composed (α : Type) [Wire α] [Canonical α] where
  /-- The components of a value at every depth. -/
  components : α → List Component
  fits_iff : ∀ value, Canonical.Fits value ↔ ∀ component ∈ components value, component.Fits

open Composed

section Containers

variable {α : Type} [Wire α] [Canonical α] [Composed α]

instance : Composed String where
  components text := [.sequence (Bytes.ofText text).length]
  fits_iff text := by
    rw [List.forall_mem_singleton, Component.fits_sequence_iff]
    rfl

instance : Composed (List α) where
  components values := .sequence values.length :: values.flatMap components
  fits_iff values := by
    rw [List.forall_mem_cons, Component.fits_sequence_iff, List.forall_mem_flatMap]
    exact and_congr_right fun _ => forall₂_congr fun value _ => fits_iff value

instance : Composed (Option α) where
  components value := value.toList.flatMap components
  fits_iff value := by
    rw [List.forall_mem_flatMap]
    cases value with
    | none => simp [Canonical.Fits]
    | some held => simp [Canonical.Fits, fits_iff]

instance : Composed Address where
  components _ := []
  fits_iff _ := iff_of_true trivial (List.forall_mem_nil _)

end Containers

instance : Composed Identifier where
  components id := .identifier id :: components id.text
  fits_iff id := by
    rw [List.forall_mem_cons, and_iff_right (Component.fits_identifier id), ← fits_iff]
    rfl

instance : Composed ModuleId where
  components id := components id.name
  fits_iff id := fits_iff id.name

namespace TypeTag

mutual

/-- The names in a type and the lengths of the lists of arguments. -/
def componentsOf : TypeTag → List Component
  | vector element => componentsOf element
  | struct _ moduleName name arguments =>
    components moduleName ++ components name ++
      .sequence arguments.length :: componentsOfAll arguments
  | reference referent => componentsOf referent
  | _ => []

def componentsOfAll : List TypeTag → List Component
  | [] => []
  | tag :: others => componentsOf tag ++ componentsOfAll others

end

mutual

private theorem fits_iff_componentsOf : (tag : TypeTag) →
    (Fits tag ↔ ∀ component ∈ componentsOf tag, component.Fits)
  | vector element => fits_iff_componentsOf element
  | struct _ moduleName name arguments => by
    rw [Fits, componentsOf, List.forall_mem_append, List.forall_mem_append, List.forall_mem_cons,
      ← fits_iff_componentsOfAll arguments, ← fits_iff, ← fits_iff, Component.fits_sequence_iff,
      and_assoc]
  | reference referent => fits_iff_componentsOf referent
  | generic _ | bool | u8 | u16 | u32 | u64 | u128 | u256 | address | signer => by
    exact iff_of_true trivial (List.forall_mem_nil _)

private theorem fits_iff_componentsOfAll : (tags : List TypeTag) →
    (AllFit tags ↔ ∀ component ∈ componentsOfAll tags, component.Fits)
  | [] => iff_of_true trivial (List.forall_mem_nil _)
  | tag :: others => by
    rw [AllFit, componentsOfAll, List.forall_mem_append, fits_iff_componentsOf tag,
      fits_iff_componentsOfAll others]

end

end TypeTag

instance : Composed TypeTag where
  components := TypeTag.componentsOf
  fits_iff := TypeTag.fits_iff_componentsOf

/-! ## Keys and signatures -/

instance : Composed Secp256k1PublicKey where
  components key := [.secp256k1Key key]
  fits_iff key := by
    rw [List.forall_mem_singleton, Component.fits_secp256k1Key_iff]
    rfl

instance : Composed KeylessPublicKey where
  components key := components key.issuer
  fits_iff key := fits_iff key.issuer

instance : Composed FederatedKeylessPublicKey where
  components key := components key.keyless
  fits_iff key := fits_iff key.keyless

instance : Composed ZeroKnowledgeSig where
  components sig := components sig.extraField ++ components sig.overrideAudience
  fits_iff sig := by
    rw [List.forall_mem_append, ← fits_iff, ← fits_iff]
    rfl

instance : Composed EphemeralCertificate where
  components | .zeroKnowledge sig => components sig
  fits_iff | .zeroKnowledge sig => fits_iff sig

instance : Composed KeylessSignature where
  components signature := components signature.certificate ++ components signature.tokenHeader
  fits_iff signature := by
    rw [List.forall_mem_append, ← fits_iff, ← fits_iff]
    rfl

instance : Composed AnyPublicKey where
  components
    | .ed25519 _ => []
    | .secp256k1 key => components key
    | .keyless key => components key
    | .federatedKeyless key => components key
  fits_iff
    | .ed25519 _ => iff_of_true trivial (List.forall_mem_nil _)
    | .secp256k1 key => fits_iff key
    | .keyless key => fits_iff key
    | .federatedKeyless key => fits_iff key

instance : Composed AnySignature where
  components
    | .ed25519 _ | .secp256k1 _ => []
    | .keyless signature => components signature
  fits_iff
    | .ed25519 _ | .secp256k1 _ => iff_of_true trivial (List.forall_mem_nil _)
    | .keyless signature => fits_iff signature

instance : Composed MultiKey where
  components key := .multiKey key :: components key.keys
  fits_iff key := by
    rw [List.forall_mem_cons, and_iff_right (Component.fits_multiKey key), ← fits_iff]
    exact (and_iff_right key.length_lt).symm

instance : Composed MultiKeySignature where
  components signature := .multiKeySignature signature :: components signature.signatures
  fits_iff signature := by
    rw [List.forall_mem_cons, and_iff_right (Component.fits_multiKeySignature signature),
      ← fits_iff]
    rfl

/-! ## Payloads -/

instance : Composed ScriptArgument where
  components
    | .bytes value => [.sequence value.length]
    | .serialized encoding => [.sequence encoding.length]
    | _ => []
  fits_iff argument := by
    cases argument <;> simp [Canonical.Fits, ScriptArgument.Fits]

instance : Composed Script where
  components script := .script script :: .sequence script.code.length ::
    (components script.typeArguments ++ components script.arguments)
  fits_iff script := by
    rw [List.forall_mem_cons, and_iff_right (Component.fits_script script), List.forall_mem_cons,
      List.forall_mem_append, ← fits_iff, ← fits_iff, Component.fits_sequence_iff]
    rfl

instance : Composed EntryFunction where
  components function := .call function ::
    (components function.module ++ components function.function ++
      components function.typeArguments ++ .sequence function.arguments.length ::
        function.arguments.map fun encoding => .sequence encoding.length)
  fits_iff function := by
    rw [List.forall_mem_cons, and_iff_right (Component.fits_call function)]
    simp only [List.forall_mem_cons, List.forall_mem_append, List.forall_mem_map, ← fits_iff,
      Component.fits_sequence_iff, and_assoc]
    rfl

instance : Composed MultisigCall where
  components | .entryFunction function => components function
  fits_iff | .entryFunction function => fits_iff function

instance : Composed Multisig where
  components multisig := components multisig.call
  fits_iff multisig := fits_iff multisig.call

instance : Composed Executable where
  components
    | .script script => components script
    | .entryFunction function => components function
    | .empty => []
  fits_iff
    | .script script => fits_iff script
    | .entryFunction function => fits_iff function
    | .empty => iff_of_true trivial (List.forall_mem_nil _)

instance : Composed InnerPayload where
  components inner := components inner.executable
  fits_iff inner := fits_iff inner.executable

instance : Composed Payload where
  components
    | .script script => components script
    | .entryFunction function => components function
    | .multisig multisig => components multisig
    | .inner inner => components inner
  fits_iff
    | .script script => fits_iff script
    | .entryFunction function => fits_iff function
    | .multisig multisig => fits_iff multisig
    | .inner inner => fits_iff inner

/-! ## Transactions -/

instance : Composed RawTransaction where
  components raw := components raw.payload
  fits_iff raw := fits_iff raw.payload

instance : Composed AccountAuthenticator where
  components
    | .ed25519 _ _ | .placeholder => []
    | .singleKey key signature => components key ++ components signature
    | .multiKey key signature => components key ++ components signature
  fits_iff
    | .ed25519 _ _ | .placeholder => iff_of_true trivial (List.forall_mem_nil _)
    | .singleKey key signature | .multiKey key signature => by
      rw [List.forall_mem_append, ← fits_iff, ← fits_iff]
      rfl

instance : Composed TransactionAuthenticator where
  components
    | .ed25519 _ _ => []
    | .multiAgent sender secondary secondarySigners =>
      components sender ++ (components secondary ++ components secondarySigners)
    | .feePayer sender secondary secondarySigners _ sponsorSigner =>
      components sender ++ (components secondary ++
        (components secondarySigners ++ components sponsorSigner))
    | .singleSender sender => components sender
  fits_iff
    | .ed25519 _ _ => iff_of_true trivial (List.forall_mem_nil _)
    | .multiAgent sender secondary secondarySigners => by
      simp only [List.forall_mem_append, ← fits_iff]
      rfl
    | .feePayer sender secondary secondarySigners _ sponsorSigner => by
      simp only [List.forall_mem_append, ← fits_iff]
      rfl
    | .singleSender sender => fits_iff sender

instance : Composed SignedTransaction where
  components signed := components signed.raw ++ components signed.authenticator
  fits_iff signed := by
    rw [List.forall_mem_append, ← fits_iff, ← fits_iff]
    rfl

end MoveWallet
