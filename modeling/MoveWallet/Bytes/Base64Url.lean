import MoveWallet.Bytes.Basic

/-! # Base64 with the URL alphabet

Four characters of six bits carry three bytes. Padding is not read, and the unused low bits of a
last group must be zero, so every byte string has one text.
-/

namespace MoveWallet.Base64Url

/-- The six bits of a character of the URL alphabet. -/
def sextet? (c : Char) : Option Nat :=
  if 'A' ≤ c ∧ c ≤ 'Z' then some (c.toNat - 'A'.toNat)
  else if 'a' ≤ c ∧ c ≤ 'z' then some (c.toNat - 'a'.toNat + 26)
  else if '0' ≤ c ∧ c ≤ '9' then some (c.toNat - '0'.toNat + 52)
  else if c = '-' then some 62
  else if c = '_' then some 63
  else none

/-- The bytes of a group of four sextets, or of a last group of two or three with zero bits left
over. -/
def ofSextets? : List Nat → Option Bytes
  | [] => some []
  | [_] => none
  | [a, b] => if b % 16 = 0 then some [UInt8.ofNat (a * 4 + b / 16)] else none
  | [a, b, c] =>
    if c % 4 = 0 then some [UInt8.ofNat (a * 4 + b / 16), UInt8.ofNat (b * 16 + c / 4)] else none
  | a :: b :: c :: d :: rest => do
    let bytes ← ofSextets? rest
    some (UInt8.ofNat (a * 4 + b / 16) :: UInt8.ofNat (b * 16 + c / 4) ::
      UInt8.ofNat (c * 64 + d) :: bytes)

/-- Read a text without padding. -/
def decode? (text : List Char) : Option Bytes := do
  let sextets ← text.mapM sextet?
  ofSextets? sextets

end MoveWallet.Base64Url
