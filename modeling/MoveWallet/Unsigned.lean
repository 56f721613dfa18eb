import MoveWallet.Text.Blank
import MoveWallet.Text.Numeral
import MoveWallet.Wire.Basic

/-! # Wide unsigned integers

The integers of 128 and 256 bits, and what the latter are made of: numbers, narrower integers, bytes
and texts. Their text is a decimal numeral, or a hexadecimal one behind `0x`.
-/

namespace MoveWallet

abbrev U128 := BitVec 128

abbrev U256 := BitVec 256

/-- Why a text is not an unsigned integer of 256 bits. All causes carry the whole text. -/
inductive U256Error
  /-- The number has a minus sign. -/
  | negative (text : String)
  /-- The text is not a numeral. -/
  | malformed (text : String)
  /-- The number is too large. -/
  | overflow (text : String)
  deriving DecidableEq

def U256Error.message : U256Error → String
  | negative text => s!"u256 cannot be negative: {text}"
  | malformed text => s!"not an unsigned integer: {text}"
  | overflow text => s!"value does not fit in 256 bits: {text}"

namespace U256

def toBytesLE (value : U256) : FixedBytes 32 := FixedBytes.ofNatLE 32 value.toNat

def ofBytesLE (bytes : FixedBytes 32) : U256 := BitVec.ofNat 256 bytes.toNatLE

/-- The number of binary digits of a number, none for zero. -/
def bitLength (n : Nat) : Nat := if n = 0 then 0 else n.log2 + 1

/-- The bytes of a number, least significant first, as many as its binary digits fill but one at
least. -/
def shortestLE (n : Nat) : Bytes := Bytes.ofNatLE (max 1 ((bitLength n + 7) / 8)) n

/-- The integer of a number of at most 256 binary digits, whose bytes take the place of the first of
32 zeros. -/
def ofNat? (n : Nat) : Option U256 :=
  if 256 < bitLength n then none else some (ofBytesLE (.ofPrefix 32 (shortestLE n)))

/-- An integer of 128 bits at its full width: its bytes take the place of the first of 32 zeros. -/
def ofU128 (value : U128) : U256 := ofBytesLE (.ofPrefix 32 (Bytes.ofNatLE 16 value.toNat))

def ofU64 (value : UInt64) : U256 := ofU128 (BitVec.ofNat 128 value.toNat)

/-- The number with a text: blanks around it are dropped. -/
def numeral? (text : List Char) : Option Nat :=
  match Text.after? "0x" text with
  | some digits => Numeral.grouped? 16 digits
  | none => Numeral.grouped? 10 text

/-- Read an integer with blanks around it. -/
def parse (text : String) : Except U256Error U256 :=
  let trimmed := Text.trim text.toList
  if trimmed.head? = some '-' then .error (.negative text)
  else
    match numeral? trimmed with
    | none => .error (.malformed text)
    | some n =>
      match ofNat? n with
      | some value => .ok value
      | none => .error (.overflow text)

def decimal (value : U256) : String := Numeral.decimal value.toNat

end U256

end MoveWallet
