import MoveWallet.Json.Number
import MoveWallet.TypeTag.Printer
import MoveWallet.TypeTag.Wire

/-! # Arguments written in JSON

An argument of a call is the encoding of a value of the parameter's type. In JSON, integers are
numbers or numerals, byte vectors may be hexadecimal texts, objects are their addresses and an
optional value is either null or the value itself, so that the type tells how to read an argument.
-/

namespace MoveWallet

/-- Why JSON values are not the arguments of a function. -/
inductive ArgumentError
  /-- The number of arguments is wrong. -/
  | argumentCount (expected actual : Nat)
  /-- The number of type arguments is wrong. -/
  | typeArgumentCount (expected actual : Nat)
  /-- A value is of a kind that the type is not written in. -/
  | typeMismatch (expected found : String)
  /-- A number or numeral is not an integer of the type. -/
  | invalidInteger (typeName value : String)
  /-- Values of the type are not written in JSON. -/
  | unsupportedType (typeName : String)
  /-- A text is not an address. -/
  | address (error : AddressError)
  /-- A text is not hexadecimal. -/
  | hex (error : HexError)
  deriving DecidableEq

def ArgumentError.message : ArgumentError → String
  | argumentCount expected actual => s!"expected {expected} arguments, got {actual}"
  | typeArgumentCount expected actual => s!"expected {expected} type arguments, got {actual}"
  | typeMismatch expected found => s!"expected {expected}, got {found}"
  | invalidInteger typeName value => s!"'{value}' is not a valid {typeName}"
  | unsupportedType typeName => s!"unsupported parameter type {typeName}"
  | address error => error.message
  | hex error => error.message

namespace Argument

/-- The error for a value of the wrong kind. -/
def mismatch (type : TypeTag) (value : Json) : ArgumentError := .typeMismatch type.text value.kind

def text (type : TypeTag) : Json → Except ArgumentError String
  | .string text => .ok text
  | value => .error (mismatch type value)

def address (type : TypeTag) (value : Json) : Except ArgumentError Address := do
  let text ← text type value
  (Address.parseRelaxed text).mapError .address

/-- The encoding of a truth value. -/
def bool (type : TypeTag) : Json → Except ArgumentError Bytes
  | .bool value => .ok (Wire.write value)
  | .string text =>
    if text = "true" then .ok (Wire.write true)
    else if text = "false" then .ok (Wire.write false)
    else .error (mismatch type (.string text))
  | value => .error (mismatch type value)

/-- The number of a numeral with blanks around it. Narrow integers are decimal, with one plus sign
at most; integers of 256 bits are read as their own texts are. -/
def numeral? (width : Nat) (text : String) : Option Nat :=
  if width = 32 then (U256.parse text).toOption.map BitVec.toNat
  else Numeral.unsigned? (Text.trim text.toList)

/-- The encoding of an integer of a number of bytes. -/
def integer (width : Nat) (type : TypeTag) (value : Json) : Except ArgumentError Bytes :=
  match value with
  | .number number => encode number.nat? number.text
  | .string text => encode (numeral? width text) text
  | _ => .error (mismatch type value)
where
  /-- The encoding of the number that was read, if it fits. -/
  encode (read : Option Nat) (written : String) : Except ArgumentError Bytes :=
    match read.filter (· < Bytes.bound width) with
    | some n => .ok (Bytes.ofNatLE width n)
    | none => .error (.invalidInteger type.text written)

/-- The encodings of some values behind their number. -/
def sequence (encodings : List Bytes) : Bytes := Bytes.uleb128 encodings.length ++ encodings.flatten

mutual

/-- The encoding of a value of a type. -/
def encode : TypeTag → Json → Except ArgumentError Bytes
  | .bool, value => bool .bool value
  | .u8, value => integer 1 .u8 value
  | .u16, value => integer 2 .u16 value
  | .u32, value => integer 4 .u32 value
  | .u64, value => integer 8 .u64 value
  | .u128, value => integer 16 .u128 value
  | .u256, value => integer 32 .u256 value
  | .address, value => Wire.write <$> address .address value
  | .vector element, value =>
    match element, value with
    | .u8, .string text => Bytes.prefixed <$> (Hex.parse text).mapError .hex
    | _, .array items => sequence <$> items.mapM fun item => encode element item
    | _, _ => .error (mismatch (.vector element) value)
  | .struct account moduleName name arguments, value =>
    let tag : StructTag := ⟨account, moduleName, name, arguments⟩
    if tag.isString then Wire.write <$> text tag.toTypeTag value
    else if tag.isObject then Wire.write <$> address tag.toTypeTag value
    else if tag.isOption then
      match optional? arguments value with
      | some outcome => sequence <$> outcome
      | none => .error (.unsupportedType tag.text)
    else .error (.unsupportedType tag.text)
  | type, _ => .error (.unsupportedType type.text)

/-- The encoding of an optional value of the only one of some types: nothing for null, and the
encoding of the value otherwise. -/
def optional? : List TypeTag → Json → Option (Except ArgumentError (List Bytes))
  | [inner], value =>
    match value with
    | .null => some (.ok [])
    | value => some ((fun encoding => [encoding]) <$> encode inner value)
  | _, _ => none

end

end Argument

end MoveWallet
