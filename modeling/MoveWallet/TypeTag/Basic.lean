import MoveWallet.Identifier
import MoveWallet.Unsigned

/-! # Types of the Move language

A type tag names a type. References and placeholders only describe the parameters of a function:
`isAbiOnly` tells whether one occurs at any depth, and `instantiate` replaces placeholders.
Functions on type tags come in pairs, one for a tag and one for a list of arguments, so that they
are structural recursions.
-/

namespace MoveWallet

/-- A type. -/
inductive TypeTag
  | bool
  | u8
  | u16
  | u32
  | u64
  | u128
  | u256
  | address
  | signer
  /-- A vector of elements of one type. -/
  | vector (element : TypeTag)
  /-- A structure with its address, module and name, applied to arguments. -/
  | struct (account : Address) (moduleName name : Identifier) (arguments : List TypeTag)
  /-- A reference to a value of the type. -/
  | reference (referent : TypeTag)
  /-- The placeholder for a type argument. -/
  | generic (index : UInt32)

/-- A structure type. -/
structure StructTag where
  /-- The publishing account. -/
  account : Address
  moduleName : Identifier
  name : Identifier
  arguments : List TypeTag

namespace StructTag

def toTypeTag (tag : StructTag) : TypeTag :=
  .struct tag.account tag.moduleName tag.name tag.arguments

/-- A structure of the framework. -/
def framework (moduleName name : Identifier) (arguments : List TypeTag) : StructTag :=
  ⟨Address.one, moduleName, name, arguments⟩

def nativeCoin : StructTag := framework ⟨"aptos_coin", by decide⟩ ⟨"AptosCoin", by decide⟩ []

def string : StructTag := framework ⟨"string", by decide⟩ ⟨"String", by decide⟩ []

def option (inner : TypeTag) : StructTag :=
  framework ⟨"option", by decide⟩ ⟨"Option", by decide⟩ [inner]

def object (inner : TypeTag) : StructTag :=
  framework ⟨"object", by decide⟩ ⟨"Object", by decide⟩ [inner]

/-- Whether a structure has the name of a framework type, whatever its arguments. -/
def isFramework (tag : StructTag) (moduleName name : String) : Bool :=
  tag.account = Address.one && tag.moduleName.text = moduleName && tag.name.text = name

def isString (tag : StructTag) : Bool := tag.isFramework "string" "String"

def isOption (tag : StructTag) : Bool := tag.isFramework "option" "Option"

def isObject (tag : StructTag) : Bool := tag.isFramework "object" "Object"

end StructTag

namespace TypeTag

/-- The structure that a type is, if it is one. -/
def struct? : TypeTag → Option StructTag
  | struct account moduleName name arguments => some ⟨account, moduleName, name, arguments⟩
  | _ => none

mutual

/-- Whether a reference or a placeholder occurs in a type at any depth. -/
def isAbiOnly : TypeTag → Bool
  | reference _ => true
  | generic _ => true
  | vector element => isAbiOnly element
  | struct _ _ _ arguments => anyAbiOnly arguments
  | _ => false

/-- Whether a reference or a placeholder occurs in one of some types. -/
def anyAbiOnly : List TypeTag → Bool
  | [] => false
  | tag :: others => isAbiOnly tag || anyAbiOnly others

end

theorem anyAbiOnly_eq (tags : List TypeTag) : anyAbiOnly tags = tags.any isAbiOnly := by
  induction tags with
  | nil => rfl
  | cons tag others ih => simp only [anyAbiOnly, List.any_cons, ih]

mutual

/-- Replace placeholders by type arguments. A placeholder without an argument stays, and the
arguments themselves are not changed. -/
def instantiate (types : List TypeTag) : TypeTag → TypeTag
  | generic index => types.getD index.toNat (generic index)
  | vector element => vector (instantiate types element)
  | reference referent => reference (instantiate types referent)
  | struct account moduleName name arguments =>
    struct account moduleName name (instantiateAll types arguments)
  | tag => tag

/-- Replace placeholders in each of some types. -/
def instantiateAll (types : List TypeTag) : List TypeTag → List TypeTag
  | [] => []
  | tag :: others => instantiate types tag :: instantiateAll types others

end

theorem instantiateAll_eq (types tags : List TypeTag) :
    instantiateAll types tags = tags.map (instantiate types) := by
  induction tags with
  | nil => rfl
  | cons tag others ih => simp only [instantiateAll, List.map_cons, ih]

end TypeTag

end MoveWallet
