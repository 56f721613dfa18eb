import MoveWallet.Bytes.Basic
import MoveWallet.Text.Numeral

/-! # Hexadecimal text of byte strings

Bytes are written as two small digits each, with `0x` in front. Reading takes digits of either
case, with or without `0x`, so that two texts of one byte string differ in nothing else.
-/

namespace MoveWallet

/-- Why a text is not the hexadecimal form of a byte string. Both causes carry the whole text. -/
inductive HexError
  /-- The digits do not pair up. -/
  | oddLength (text : String)
  /-- A character is not a hexadecimal digit. -/
  | invalidChars (text : String)
  deriving DecidableEq

def HexError.message : HexError → String
  | oddLength text => s!"hex string has odd length: {text}"
  | invalidChars text => s!"hex string contains invalid characters: {text}"

namespace Hex

/-- The two digits of a byte, the high one first. -/
def ofByte (byte : UInt8) : List Char :=
  [Numeral.hexDigit (byte.toNat / 16), Numeral.hexDigit (byte.toNat % 16)]

def digits (bytes : Bytes) : List Char := bytes.flatMap ofByte

def bare (bytes : Bytes) : String := String.ofList (digits bytes)

def text (bytes : Bytes) : String := "0x" ++ bare bytes

/-- The bytes written by pairs of digits. -/
def ofDigits? : List Char → Option Bytes
  | [] => some []
  | [_] => none
  | high :: low :: rest => do
    let h ← Numeral.digitValue? high
    let l ← Numeral.digitValue? low
    let bytes ← ofDigits? rest
    some (UInt8.ofNat (16 * h + l) :: bytes)

/-- A text without the `0x` it may start with. -/
def unprefixed (text : List Char) : List Char := (Text.after? "0x" text).getD text

/-- Read a hexadecimal text. The length is measured in bytes of UTF-8 and checked before the
characters. -/
def parse (text : String) : Except HexError Bytes :=
  let digits := unprefixed text.toList
  if Text.utf8Length digits % 2 = 1 then .error (.oddLength text)
  else
    match ofDigits? digits with
    | some bytes => .ok bytes
    | none => .error (.invalidChars text)

end Hex

end MoveWallet
