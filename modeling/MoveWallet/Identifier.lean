import MoveWallet.Address
import MoveWallet.Text.Blank

/-! # Names of modules, functions and types

An identifier is a non-empty text of ASCII letters, digits and underscores. A module id is an
address and an identifier, with a double colon between them; a function id adds the name of a
function behind another one.
-/

namespace MoveWallet

/-- The characters of identifiers. -/
def Identifier.isNameChar (c : Char) : Bool := c.isAlphanum || c = '_'

/-- Whether a text is an identifier. -/
def Identifier.isName (text : List Char) : Bool := !text.isEmpty && text.all isNameChar

/-- The name of a module, a function or a type. -/
@[ext]
structure Identifier where
  text : String
  named : Identifier.isName text.toList = true
  deriving DecidableEq

/-- Why a text is not an identifier or a module id. -/
inductive IdentifierError
  /-- The text is empty or has a character that no identifier has. -/
  | invalid (text : String)
  /-- The text is not two parts with a double colon between them. -/
  | malformedModuleId (text : String)
  /-- The part in front is not an address. -/
  | address (error : AddressError)
  deriving DecidableEq

def IdentifierError.message : IdentifierError → String
  | invalid text => s!"invalid move identifier: '{text}'"
  | malformedModuleId text => s!"module id must be 'address::name': '{text}'"
  | address error => error.message

namespace Identifier

def parse (text : String) : Except IdentifierError Identifier :=
  if named : isName text.toList then .ok ⟨text, named⟩ else .error (.invalid text)

instance : Wire Identifier where
  write identifier := Wire.write identifier.text
  read := do
    let text ← Reader.text
    Reader.checked "Identifier" ((parse text).mapError IdentifierError.message)

end Identifier

/-- A published module. -/
structure ModuleId where
  /-- The publishing account. -/
  address : Address
  name : Identifier
  deriving DecidableEq

namespace ModuleId

def text (id : ModuleId) : String := id.address.text ++ "::" ++ id.name.text

/-- Read a module id with relaxed address text. -/
def parse (text : String) : Except IdentifierError ModuleId :=
  match Text.atColons text.toList with
  | [address, name] => do
    let address ← (Address.parseRelaxed (String.ofList address)).mapError .address
    let name ← Identifier.parse (String.ofList name)
    .ok ⟨address, name⟩
  | _ => .error (.malformedModuleId text)

instance : Wire ModuleId where
  write id := Wire.write id.address ++ Wire.write id.name
  read := do
    let address ← Wire.read
    let name ← Wire.read
    pure ⟨address, name⟩

end ModuleId

/-- A function of a published module. -/
structure FunctionId where
  module : ModuleId
  function : Identifier
  deriving DecidableEq

namespace FunctionId

def text (id : FunctionId) : String := id.module.text ++ "::" ++ id.function.text

/-- Read a function id with blanks around it. It is cut at its last double colon first. -/
def parse? (text : String) : Option FunctionId := do
  let (module, function) ← Text.atLast? "::" (Text.trim text.toList)
  let module ← (ModuleId.parse (String.ofList module)).toOption
  let function ← (Identifier.parse (String.ofList function)).toOption
  some ⟨module, function⟩

end FunctionId

end MoveWallet
