import MoveWallet.Authentication
import MoveWallet.Json.Basic
import MoveWallet.TypeTag.Printer

/-! # Values shown as JSON

What is about to be signed can be looked at as JSON. Numbers of 64 bits and more are decimal
numerals, byte strings are hexadecimal digits, and addresses and keys are their texts.
-/

namespace MoveWallet

/-- The types whose values can be shown. -/
class Inspect (α : Type) where
  /-- The JSON form of a value. -/
  inspect : α → Json

namespace Inspect

def withEncoding {α : Type} [Wire α] [Inspect α] (value : α) : Json :=
  .object [("value", inspect value), ("bcs", .string (Hex.bare (Wire.write value)))]

def decimal (n : Nat) : Json := .string (Numeral.decimal n)

def number (n : Nat) : Json := .number (.integer n)

def types (tags : List TypeTag) : Json := .array (tags.map fun tag => .string tag.text)

variable {α : Type}

instance : Inspect Bool := ⟨.bool⟩

instance : Inspect String := ⟨.string⟩

instance : Inspect Nat := ⟨number⟩

instance : Inspect UInt8 := ⟨fun value => number value.toNat⟩

instance : Inspect UInt16 := ⟨fun value => number value.toNat⟩

instance : Inspect UInt32 := ⟨fun value => number value.toNat⟩

instance : Inspect UInt64 := ⟨fun value => decimal value.toNat⟩

instance {width : Nat} : Inspect (BitVec width) := ⟨fun value => decimal value.toNat⟩

instance [Inspect α] : Inspect (List α) := ⟨fun values => .array (values.map inspect)⟩

instance [Inspect α] : Inspect (Option α) where
  inspect
    | some value => inspect value
    | none => .null

/-- A byte string is shown as its digits rather than as a list of numbers. -/
instance : Inspect Bytes := ⟨fun bytes => .string (Hex.bare bytes)⟩

instance {size : Nat} : Inspect (FixedBytes size) := ⟨fun bytes => inspect bytes.toList⟩

instance : Inspect Address := ⟨fun address => .string address.text⟩

def integerForms (value : U256) : Json :=
  .object [("decimal", inspect value), ("le", inspect value.toBytesLE)]

def addressForms (address : Address) : Json :=
  .object [("display", inspect address), ("long", inspect address.longText),
    ("special", inspect address.isSpecial), ("bytes", inspect address.bytes),
    ("json", inspect address)]

instance : Inspect AuthenticationKey := ⟨fun key => .string key.text⟩

instance : Inspect Identifier := ⟨fun identifier => .string identifier.text⟩

instance : Inspect ModuleId where
  inspect id := .object [("text", .string id.text), ("address", inspect id.address),
    ("name", inspect id.name)]

instance : Inspect StructTag where
  inspect tag := .object [("display", .string tag.text), ("address", inspect tag.account),
    ("module", inspect tag.moduleName), ("name", inspect tag.name),
    ("type_args", types tag.arguments), ("is_string", .bool tag.isString),
    ("is_option", .bool tag.isOption), ("is_object", .bool tag.isObject)]

instance : Inspect TypeTag where
  inspect tag := .object [("display", .string tag.text), ("abi_only", .bool tag.isAbiOnly),
    ("struct", inspect tag.struct?)]

def authentication (key : AuthenticationKey) : Json :=
  .object [("auth_key", inspect key), ("address", inspect key.address)]

end Inspect

end MoveWallet
