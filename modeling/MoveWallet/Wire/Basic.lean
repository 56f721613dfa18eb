import MoveWallet.Wire.Reader

/-! # The wire format

Values are written without any room for choice: numbers at fixed width with the least significant
byte first, lengths and tags in groups of seven bits, structures as their fields in order. `Wire`
joins the writer of a type with its reader.
-/

namespace MoveWallet

/-- A number in groups of seven bits, the lowest first, each but the last with its high bit set. -/
def Bytes.uleb128 (n : Nat) : Bytes :=
  if n < 128 then [UInt8.ofNat n] else UInt8.ofNat (n % 128 + 128) :: uleb128 (n / 128)
termination_by n
decreasing_by omega

/-- A byte string behind its length. -/
def Bytes.prefixed (bytes : Bytes) : Bytes := uleb128 bytes.length ++ bytes

/-- The types that can be written and read. -/
class Wire (α : Type) where
  /-- The encoding of a value. -/
  write : α → Bytes
  /-- Read a value from the front of a byte string. -/
  read : Reader α

namespace Wire

variable {α : Type}

/-- Read a whole byte string as one value. -/
def decode (α : Type) [Wire α] (input : Bytes) : Except DecodeError α := Reader.run read input

instance : Wire Bool where
  write value := [if value then 1 else 0]
  read := Reader.bool

instance : Wire UInt8 where
  write value := [value]
  read := Reader.byte

instance : Wire UInt16 where
  write value := Bytes.ofNatLE 2 value.toNat
  read := UInt16.ofNat <$> Reader.number 2

instance : Wire UInt32 where
  write value := Bytes.ofNatLE 4 value.toNat
  read := UInt32.ofNat <$> Reader.number 4

instance : Wire UInt64 where
  write value := Bytes.ofNatLE 8 value.toNat
  read := UInt64.ofNat <$> Reader.number 8

/-- Unsigned integers of `8 * width` bits. -/
instance {width : Nat} : Wire (BitVec (8 * width)) where
  write value := Bytes.ofNatLE width value.toNat
  read := BitVec.ofNat (8 * width) <$> Reader.number width

instance : Wire (BitVec 128) := inferInstanceAs (Wire (BitVec (8 * 16)))

instance : Wire (BitVec 256) := inferInstanceAs (Wire (BitVec (8 * 32)))

instance : Wire String where
  write value := (Bytes.ofText value).prefixed
  read := Reader.text

instance {size : Nat} : Wire (FixedBytes size) where
  write value := value.toList
  read := Reader.fixed size

instance [Wire α] : Wire (List α) where
  write values := Bytes.uleb128 values.length ++ values.flatMap write
  read := Reader.list read

instance [Wire α] : Wire (Option α) where
  write
    | some value => 1 :: write value
    | none => [0]
  read := Reader.option read

end Wire

end MoveWallet
