import MoveWallet.Text.Segment

/-! # Numerals

Positional numerals in a base of at most sixteen, both ways. Three readers accept three different
languages: `ofDigits?` takes digits only, `unsigned?` also one plus sign in front, and `grouped?`
also underscores behind the first digit.
-/

namespace MoveWallet.Numeral

/-- The value of a hexadecimal digit of either case. -/
def digitValue? (c : Char) : Option Nat :=
  if '0' ≤ c ∧ c ≤ '9' then some (c.toNat - '0'.toNat)
  else if 'a' ≤ c ∧ c ≤ 'f' then some (c.toNat - 'a'.toNat + 10)
  else if 'A' ≤ c ∧ c ≤ 'F' then some (c.toNat - 'A'.toNat + 10)
  else none

/-- The value of a digit in a base of at most sixteen. -/
def digit? (base : Nat) (c : Char) : Option Nat :=
  (digitValue? c).filter (· < base)

/-- Continue a numeral whose digits so far have the given value. -/
def continue? (base : Nat) : (value : Nat) → List Char → Option Nat
  | value, [] => some value
  | value, c :: rest => do
    let digit ← digit? base c
    continue? base (value * base + digit) rest

/-- The value of a non-empty run of digits. -/
def ofDigits? (base : Nat) : List Char → Option Nat
  | [] => none
  | digits => continue? base 0 digits

/-- A decimal numeral, which may have one plus sign in front. -/
def unsigned? (text : List Char) : Option Nat :=
  match text with
  | '+' :: digits => ofDigits? 10 digits
  | digits => ofDigits? 10 digits

/-- A numeral that may have one plus sign in front and underscores anywhere behind its first
digit. -/
def grouped? (base : Nat) (text : List Char) : Option Nat :=
  match text with
  | '+' :: rest => body rest
  | rest => body rest
where
  /-- The part behind the sign. -/
  body (text : List Char) : Option Nat :=
    match text with
    | '_' :: _ => none
    | digits => ofDigits? base (digits.filter (· ≠ '_'))

def decimal (n : Nat) : String := Nat.repr n

/-- The small hexadecimal digit of a value below sixteen. -/
def hexDigit (n : Nat) : Char :=
  if n < 10 then Char.ofNat ('0'.toNat + n) else Char.ofNat ('a'.toNat + (n - 10))

end MoveWallet.Numeral
