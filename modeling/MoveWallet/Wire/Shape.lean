import MoveWallet.Address
import MoveWallet.Text.Segment
import MoveWallet.Unsigned

/-! # Shapes of plain values

A shape names a type of plain values: numbers, texts, addresses and byte strings of fixed size, and
lists and options of these. `Shape.Value` is the type that a shape names, and its encoding is that
of the type.
-/

namespace MoveWallet

/-- The shape of a plain value. -/
inductive Shape
  | bool
  | u8
  | u16
  | u32
  | u64
  | u128
  | u256
  | text
  | address
  /-- That many bytes. -/
  | fixed (size : Nat)
  | list (item : Shape)
  | option (item : Shape)
  deriving DecidableEq

namespace Shape

/-- The values of a shape. -/
def Value : Shape → Type
  | bool => Bool
  | u8 => UInt8
  | u16 => UInt16
  | u32 => UInt32
  | u64 => UInt64
  | u128 => U128
  | u256 => U256
  | text => String
  | address => Address
  | fixed size => FixedBytes size
  | list item => List item.Value
  | option item => Option item.Value

/-- What every type of plain values has: it is given for the types without parts, and made for lists
and options from what their items have. -/
@[reducible] def every (C : Type → Type) (bool : C Bool) (u8 : C UInt8) (u16 : C UInt16)
    (u32 : C UInt32) (u64 : C UInt64) (u128 : C U128) (u256 : C U256) (text : C String)
    (address : C Address) (fixed : ∀ size, C (FixedBytes size)) (list : ∀ {α}, C α → C (List α))
    (option : ∀ {α}, C α → C (Option α)) : (shape : Shape) → C shape.Value
  | .bool => bool
  | .u8 => u8
  | .u16 => u16
  | .u32 => u32
  | .u64 => u64
  | .u128 => u128
  | .u256 => u256
  | .text => text
  | .address => address
  | .fixed size => fixed size
  | .list item =>
    list (every C bool u8 u16 u32 u64 u128 u256 text address fixed list option item)
  | .option item =>
    option (every C bool u8 u16 u32 u64 u128 u256 text address fixed list option item)

instance (shape : Shape) : Wire shape.Value :=
  every Wire inferInstance inferInstance inferInstance inferInstance inferInstance inferInstance
    inferInstance inferInstance inferInstance (fun _ => inferInstance) (fun _ => inferInstance)
    (fun _ => inferInstance) shape

/-- The shape with a name that has no angle brackets. -/
def ofName? (name : List Char) : Option Shape :=
  match String.ofList name with
  | "bool" => some bool
  | "u8" => some u8
  | "u16" => some u16
  | "u32" => some u32
  | "u64" => some u64
  | "u128" => some u128
  | "u256" => some u256
  | "text" => some text
  | "address" => some address
  | _ => fixed <$> (Text.after? "fixed" name).bind (Numeral.ofDigits? 10)

/-- The shape around another one. -/
def around? (name : List Char) (item : Shape) : Option Shape :=
  match String.ofList name with
  | "list" => some (list item)
  | "option" => some (option item)
  | _ => none

/-- The shape of a name such as `list<option<u8>>` or `fixed32`: the last of the pieces before
angle brackets is the innermost. -/
def parse? (name : String) : Option Shape :=
  match (Text.atChar '<' name.toList).reverse with
  | [] => none
  | innermost :: others => do
    let shape ← ofName? (innermost.takeWhile fun c => c ≠ '>')
    others.foldlM (fun item name => around? name item) shape

end Shape

end MoveWallet
