import MoveWallet.Proofs.Curve.Secp256k1
import MoveWallet.Proofs.Identifier
import MoveWallet.Proofs.Wire.Component

/-! # Only valid values are read, and all of them

The readers check what the constructors check, and both take exactly the parts that obey the rule.
Whatever bytes are read, each component of the value satisfies the rule of its constructor, at every
depth; and whatever is put together from components that their constructors have made is read back
from its encoding, as long as its sequences have their lengths in 32 bits.
-/

namespace MoveWallet

open Composed Outcome

namespace Component

/-- The components that the constructors make. -/
def IsMade : Component → Prop
  | sequence _ => True
  | identifier id => ∃ text, Identifier.parse text = .ok id
  | script code => ∃ bytes types arguments, Script.make bytes types arguments = .ok code
  | call function => ∃ module name types arguments,
    EntryFunction.make module name types arguments = .ok function
  | secp256k1Key key => (∃ bytes, Secp256k1PublicKey.ofBytes bytes = .ok key) ∨
    (∃ text, Secp256k1PublicKey.parse text = .ok key) ∨
    ∃ bytes privateKey, Secp256k1PrivateKey.ofBytes bytes = .ok privateKey ∧
      key = privateKey.publicKey
  | multiKey key => ∃ keys threshold, MultiKey.make keys threshold = .ok key
  | multiKeySignature signature =>
    (∃ signatures bitmap, MultiKeySignature.make signatures bitmap = .ok signature) ∨
      ∃ signers, MultiKeySignature.ofSigners signers = .ok signature

/-- Every constructor checks its rule, and makes all that obeys it. -/
theorem isMade_iff_isValid {component : Component} : component.IsMade ↔ component.IsValid := by
  cases component with
  | sequence length => exact Iff.rfl
  | identifier id =>
    exact iff_of_true ⟨id.text, Identifier.parse_eq_ok_iff.mpr rfl⟩ (fits_identifier id).1
  | script code =>
    exact iff_of_true ⟨_, _, _, Script.make_eq_ok_iff.mpr ⟨rfl, rfl, rfl⟩⟩ (fits_script code).1
  | call function =>
    exact iff_of_true ⟨_, _, _, _, EntryFunction.make_eq_ok_iff.mpr ⟨rfl, rfl, rfl, rfl⟩⟩
      (fits_call function).1
  | secp256k1Key key =>
    constructor
    · rintro (⟨bytes, made⟩ | ⟨text, made⟩ | ⟨bytes, privateKey, -, rfl⟩)
      · exact (Secp256k1PublicKey.ofBytes_eq_ok_iff.mp made).2
      · obtain ⟨bytes, -, made⟩ := bind_eq_ok_iff.mp made
        exact (Secp256k1PublicKey.ofBytes_eq_ok_iff.mp made).2
      · exact Secp256k1.isPublicKey_publicKey privateKey.scalar
    · exact fun valid =>
        .inl ⟨key.bytes.toList, Secp256k1PublicKey.ofBytes_eq_ok_iff.mpr ⟨rfl, valid⟩⟩
  | multiKey key =>
    exact iff_of_true ⟨_, _, MultiKey.make_eq_ok_iff.mpr ⟨rfl, rfl⟩⟩ (fits_multiKey key).1
  | multiKeySignature signature =>
    exact iff_of_true (.inl ⟨_, _, MultiKeySignature.make_eq_ok_iff.mpr ⟨rfl, rfl⟩⟩)
      (fits_multiKeySignature signature).1

end Component

/-! ## What is made of components -/

section Made

private theorem Identifier.isMade_components (id : Identifier) :
    ∀ component ∈ components id, component.IsMade := by
  refine List.forall_mem_cons.mpr ⟨?_, List.forall_mem_singleton.mpr trivial⟩
  exact Component.isMade_iff_isValid.mpr (Component.fits_identifier id).1

namespace TypeTag

mutual

/-- No key stands in a type, and everything else is as its constructor made it. -/
theorem isMade_componentsOf : (tag : TypeTag) → ∀ component ∈ componentsOf tag, component.IsMade
  | vector element => isMade_componentsOf element
  | struct _ moduleName name arguments => by
    rw [componentsOf, List.forall_mem_append, List.forall_mem_append, List.forall_mem_cons]
    exact ⟨⟨moduleName.isMade_components, name.isMade_components⟩, trivial,
      isMade_componentsOfAll arguments⟩
  | reference referent => isMade_componentsOf referent
  | generic _ | bool | u8 | u16 | u32 | u64 | u128 | u256 | address | signer => by
    exact List.forall_mem_nil _

private theorem isMade_componentsOfAll :
    (tags : List TypeTag) → ∀ component ∈ componentsOfAll tags, component.IsMade
  | [] => List.forall_mem_nil _
  | tag :: others => by
    rw [componentsOfAll, List.forall_mem_append]
    exact ⟨isMade_componentsOf tag, isMade_componentsOfAll others⟩

end

end TypeTag

/-- The inner form of a payload has the same components. -/
theorem InnerPayload.components_ofPayload (config : ExtraConfig) (payload : Payload) :
    components (ofPayload config payload) = components payload := by
  cases payload with
  | script | entryFunction | inner => rfl
  | multisig multisig =>
    obtain ⟨account, call⟩ := multisig
    cases call with
    | none => rfl
    | some call =>
      cases call with
      | entryFunction function => exact (List.append_nil _).symm

end Made

/-! ## What the constructors and the readers let through -/

/-- The constructors that check something take parts exactly if these obey the rule: texts of
identifiers, keys with a threshold, signatures with a bitmap, code and calls with their type
arguments, and the bytes of a point. -/
structure ExactConstructors : Prop where
  identifier : ∀ text : String, (∃ id, Identifier.parse text = .ok id) ↔ Identifier.IsWord text
  multiKey : ∀ (keys : List AnyPublicKey) (threshold : UInt8),
    (∃ key, MultiKey.make keys threshold = .ok key) ↔
      1 ≤ threshold.toNat ∧ threshold.toNat ≤ keys.length ∧ keys.length ≤ 32
  multiKeySignature : ∀ (signatures : List AnySignature) (bitmap : Bitmap),
    (∃ signature, MultiKeySignature.make signatures bitmap = .ok signature) ↔
      bitmap.count = signatures.length
  script : ∀ (code : Bytes) (types : List TypeTag) (arguments : List ScriptArgument),
    (∃ script, Script.make code types arguments = .ok script) ↔ Component.AllConcrete types
  call : ∀ (module : ModuleId) (function : Identifier) (types : List TypeTag)
    (arguments : List Bytes),
    (∃ call, EntryFunction.make module function types arguments = .ok call) ↔
      Component.AllConcrete types
  secp256k1Key : ∀ bytes : FixedBytes 65,
    (∃ key, Secp256k1PublicKey.ofBytes bytes.toList = .ok key) ↔
      Secp256k1.isPublicKey bytes = true

private theorem exactConstructors : ExactConstructors where
  identifier _ := Identifier.exists_parse_iff
  multiKey _ _ := MultiKey.exists_make_iff
  multiKeySignature _ _ := MultiKeySignature.exists_make_iff
  script _ _ _ := Script.exists_make_iff.trans Component.allConcrete_iff.symm
  call _ _ _ _ := EntryFunction.exists_make_iff.trans Component.allConcrete_iff.symm
  secp256k1Key _ := Secp256k1PublicKey.exists_ofBytes_iff

/-- The reader of a type makes a value of some bytes, whatever follows them. -/
def Takes (α : Type) [Wire α] (parts : Bytes) : Prop :=
  ∃ value : α, ∀ rest : Bytes, Wire.read (parts ++ rest) = (.ok value, rest)

/-- A reader that checks its parts at the end makes a value exactly if the check does. -/
theorem takes_iff {α ε : Type} [Wire α] {parts : Bytes} (typeName : String) (message : ε → String)
    {outcome : Except ε α} (ran : ∀ rest : Bytes, (Wire.read : Reader α) (parts ++ rest) =
      Reader.checked typeName (outcome.mapError message) rest) :
    Takes α parts ↔ ∃ value, outcome = .ok value := by
  refine exists_congr fun value => ?_
  simp [ran]

/-- The readers that check something take the parts of a value exactly if these obey the rule of the
constructor. -/
structure ExactGuards : Prop where
  identifier : ∀ text : String, Canonical.Fits text →
    (Takes Identifier (Wire.write text) ↔ Identifier.IsWord text)
  multiKey : ∀ (keys : List AnyPublicKey) (threshold : UInt8), Canonical.Fits keys →
    (Takes MultiKey (Wire.write keys ++ Wire.write threshold) ↔
      1 ≤ threshold.toNat ∧ threshold.toNat ≤ keys.length ∧ keys.length ≤ 32)
  multiKeySignature : ∀ (signatures : List AnySignature) (bitmap : Bitmap),
    Canonical.Fits signatures →
      (Takes MultiKeySignature (Wire.write signatures ++ bitmap.toList.prefixed) ↔
        bitmap.count = signatures.length)
  script : ∀ (code : Bytes) (types : List TypeTag) (arguments : List ScriptArgument),
    code.length < UInt32.size → Canonical.Fits types → Canonical.Fits arguments →
      (Takes Script (code.prefixed ++ Wire.write types ++ Wire.write arguments) ↔
        Component.AllConcrete types)
  call : ∀ (module : ModuleId) (function : Identifier) (types : List TypeTag)
    (arguments : List Bytes), Canonical.Fits module → Canonical.Fits function →
      Canonical.Fits types → arguments.length < UInt32.size →
      (∀ bytes ∈ arguments, bytes.length < UInt32.size) →
      (Takes EntryFunction (Wire.write module ++ Wire.write function ++ Wire.write types ++
        Bytes.uleb128 arguments.length ++ arguments.flatMap Bytes.prefixed) ↔
        Component.AllConcrete types)
  secp256k1Key : ∀ bytes : FixedBytes 65,
    Takes Secp256k1PublicKey bytes.toList.prefixed ↔ Secp256k1.isPublicKey bytes = true

private theorem exactGuards : ExactGuards where
  identifier text fits := by
    refine (takes_iff "Identifier" IdentifierError.message fun rest => ?_).trans
      (exactConstructors.identifier text)
    exact Canonical.bind_read_write fits _ rest
  multiKey keys threshold fits := by
    refine (takes_iff "MultiKey" MultiKeyError.message fun rest => ?_).trans
      (exactConstructors.multiKey keys threshold)
    rw [List.append_assoc]
    exact (Canonical.bind_read_write fits _ _).trans (Canonical.bind_read_write trivial _ rest)
  multiKeySignature signatures bitmap fits := by
    refine (takes_iff "MultiKeySignature" MultiKeyError.message fun rest => ?_).trans
      (exactConstructors.multiKeySignature signatures bitmap)
    rw [List.append_assoc]
    exact (Canonical.bind_read_write fits _ _).trans
      ((Reader.Exact.sized _ (by decide)).bind_write trivial _ rest)
  script code types arguments codeFits typesFit argumentsFit := by
    refine (takes_iff "Script" PayloadError.message fun rest => ?_).trans
      (exactConstructors.script code types arguments)
    rw [List.append_assoc, List.append_assoc]
    exact (Reader.Exact.bytes.bind_write codeFits _ _).trans
      ((Canonical.bind_read_write typesFit _ _).trans
        (Canonical.bind_read_write argumentsFit _ rest))
  call module function types arguments moduleFits functionFits typesFit counted short := by
    refine (takes_iff "EntryFunction" PayloadError.message fun rest => ?_).trans
      (exactConstructors.call module function types arguments)
    simp only [List.append_assoc]
    refine (Canonical.bind_read_write moduleFits _ _).trans ?_
    refine (Canonical.bind_read_write functionFits _ _).trans ?_
    refine (Canonical.bind_read_write typesFit _ _).trans ?_
    rw [← List.append_assoc]
    exact (Reader.Exact.list Reader.Exact.bytes).bind_write ⟨counted, short⟩ _ rest
  secp256k1Key bytes := by
    refine (takes_iff "Secp256k1PublicKey" KeyError.message fun rest => ?_).trans
      (exactConstructors.secp256k1Key bytes)
    exact (Reader.Exact.sized _ (by decide)).bind_write trivial _ rest

/-- A format of valid values only, and of all that is made of what the constructors make. -/
structure GuardedFormat (α : Type) [Wire α] [Canonical α] [Composed α] : Prop where
  decoded : ∀ (input : Bytes) (value : α), Wire.decode α input = .ok value →
    ∀ component ∈ components value, component.IsValid
  made : ∀ value : α, (∀ component ∈ components value, component.IsMade) →
    ∀ component ∈ components value, component.IsValid
  accepted : ∀ value : α, (∀ component ∈ components value, component.IsMade ∧ component.InRange) →
    Wire.decode α (Wire.write value) = .ok value

private theorem Composed.guarded {α : Type} [Wire α] [Canonical α] [Composed α] :
    GuardedFormat α where
  decoded input value read component listed :=
    ((fits_iff value).mp (Canonical.decode_eq_ok_iff.mp read).1 component listed).1
  made value made component listed := Component.isMade_iff_isValid.mp (made component listed)
  accepted value made := by
    have fits : Canonical.Fits value := (fits_iff value).mpr fun component listed =>
      ⟨Component.isMade_iff_isValid.mp (made component listed).1, (made component listed).2⟩
    exact Canonical.decode_eq_ok_iff.mpr ⟨fits, rfl⟩

/-- Nothing invalid is read: the constructors and the readers take exactly the parts that obey the
rules, and what is read obeys them at every depth. So does all that the constructors make, which is
read back. The inner form of a payload has the components of the payload, and types and modules,
wherever they come from, are made of such components. -/
theorem components_valid :
    ExactConstructors ∧ ExactGuards ∧
    (GuardedFormat SignedTransaction ∧ GuardedFormat AnyPublicKey ∧ GuardedFormat MultiKey ∧
      GuardedFormat MultiKeySignature ∧ GuardedFormat Payload ∧ GuardedFormat TypeTag) ∧
    (∀ (config : ExtraConfig) (payload : Payload),
      components (Payload.inner (.ofPayload config payload)) = components payload) ∧
    (∀ tag : TypeTag, ∀ component ∈ components tag, component.IsMade) ∧
    ∀ id : ModuleId, ∀ component ∈ components id, component.IsMade :=
  ⟨exactConstructors, exactGuards, ⟨guarded, guarded, guarded, guarded, guarded, guarded⟩,
    InnerPayload.components_ofPayload, TypeTag.isMade_componentsOf,
    fun id => id.name.isMade_components⟩

/-- A script for texts. -/
def textScript : Script where
  code := [0xa1]
  typeArguments := [StructTag.string.toTypeTag]
  arguments := []
  concrete := List.forall_mem_singleton.mpr rfl

/-- The inner form of the script is read back. -/
theorem components_valid_textScript :
    (∀ component ∈ components (Payload.script textScript), component.IsMade) ∧
    Wire.decode Payload
        (Wire.write (Payload.inner (.ofPayload ⟨none, some 7⟩ (.script textScript)))) =
      .ok (.inner (.ofPayload ⟨none, some 7⟩ (.script textScript))) := by
  obtain ⟨-, -, ⟨-, -, -, -, payloads, -⟩, legacy, types, -⟩ := components_valid
  have made : ∀ component ∈ components (Payload.script textScript), component.IsMade := by
    have concrete : Script.make textScript.code textScript.typeArguments textScript.arguments =
        .ok textScript := rfl
    refine List.forall_mem_cons.mpr ⟨⟨_, _, _, concrete⟩, ?_⟩
    refine List.forall_mem_cons.mpr ⟨trivial, List.forall_mem_append.mpr ⟨?_, ?_⟩⟩
    · refine List.forall_mem_cons.mpr ⟨trivial, ?_⟩
      rw [List.forall_mem_flatMap]
      exact List.forall_mem_singleton.mpr (types StructTag.string.toTypeTag)
    · exact List.forall_mem_singleton.mpr trivial
  have short : ∀ component ∈ components (Payload.inner (.ofPayload ⟨none, some 7⟩
      (.script textScript))), component.InRange := by
    decide
  refine ⟨made, payloads.accepted _ fun component listed => ⟨?_, short component listed⟩⟩
  rw [legacy] at listed
  exact made component listed

end MoveWallet
