import MoveWallet.Json.Basic
import MoveWallet.Text.Shortest

/-! # The values and texts of JSON numbers

A number that is written as an integer and fits 64 bits is kept exactly. Any other number is a
double, computed from the leading digits that fit 64 bits and a power of ten: the scaling is one
multiplication or division of doubles, not a correctly rounded conversion of the whole numeral.
-/

namespace MoveWallet.Json.Number

def maxWord : Nat := UInt64.size - 1

def signBit : Nat := UInt64.size / 2

/-- A numeral read so far: the digits that fit a 64-bit word, and the power of ten that the other
digits and the point stand for. -/
structure Scaled where
  significand : Nat
  exponent : Int

/-- Take the digits before the point. Digits that no longer fit only raise the exponent. -/
def Scaled.whole : (value : Scaled) → List Nat → Scaled
  | value, [] => value
  | value, digit :: rest =>
    let longer := value.significand * 10 + digit
    if 0 < value.exponent ∨ maxWord < longer then
      whole ⟨value.significand, value.exponent + 1⟩ rest
    else whole ⟨longer, value.exponent⟩ rest

/-- Take the digits behind the point, up to the first that does not fit. -/
def Scaled.fraction : (value : Scaled) → List Nat → Scaled
  | value, [] => value
  | value, digit :: rest =>
    let longer := value.significand * 10 + digit
    if maxWord < longer then value else fraction ⟨longer, value.exponent - 1⟩ rest

/-- The double nearest to a power of ten up to `10 ^ 308`. -/
def powerOfTen (exponent : Nat) : Float := Float.ofScientific 1 false exponent

/-- Scale a double by a power of ten, in steps of `10 ^ 308` where one does not reach; `none` when
the result is out of range. -/
def scale? (value : Float) (exponent : Int) : Option Float :=
  go (exponent.natAbs / 308 + 1) value exponent
where
  /-- Each step brings the exponent nearer to zero by 308. -/
  go : Nat → Float → Int → Option Float
    | 0, value, _ => some value
    | steps + 1, value, exponent =>
      if exponent.natAbs ≤ 308 then
        if 0 ≤ exponent then
          let product := value * powerOfTen exponent.natAbs
          if product.isInf then none else some product
        else some (value / powerOfTen exponent.natAbs)
      else if value == 0.0 then some value
      else if 0 ≤ exponent then none
      else go steps (value / powerOfTen 308) (exponent + 308)

/-- The double of a numeral; `none` when it is out of range. -/
def Scaled.real? (negative : Bool) (value : Scaled) : Option Number := do
  let magnitude ← scale? (UInt64.ofNat value.significand).toFloat value.exponent
  some (.real (if negative then -magnitude else magnitude))

/-- The value of a numeral without point and exponent. Negative zero is a double. -/
def ofWhole? (negative : Bool) (digits : List Nat) : Option Number :=
  let value := Scaled.whole ⟨0, 0⟩ digits
  if 0 < value.exponent then value.real? negative
  else if ¬ negative then some (.integer value.significand)
  else if value.significand = 0 ∨ signBit < value.significand then value.real? negative
  else some (.integer (-(value.significand : Int)))

/-- Exponents are read up to the largest signed 32-bit number. -/
def maxExponent : Nat := UInt32.size / 2 - 1

/-- The value of a numeral with a point or an exponent. Beyond the largest exponent a numeral is
zero, or out of range if it is large and not zero. -/
def ofParts? (negative : Bool) (whole fraction : List Nat) (exponent : Option (Bool × Nat)) :
    Option Number :=
  let value := Scaled.fraction (Scaled.whole ⟨0, 0⟩ whole) fraction
  match exponent with
  | none => value.real? negative
  | some (down, power) =>
    if maxExponent < power then
      if value.significand ≠ 0 ∧ ¬ down then none
      else some (.real (if negative then -0.0 else 0.0))
    else
      let shifted := if down then value.exponent - power else value.exponent + power
      Scaled.real? negative ⟨value.significand, shifted⟩

/-- The layout of a double: the point is in place from `0.00001` up to sixteen digits. -/
def layout : Shortest.Layout := ⟨-5, 15⟩

/-- The text of a double: the fewest digits that read back. -/
def realText (value : Float) : String :=
  let bits := value.toBits
  let sign := if signBit ≤ bits.toNat then "-" else ""
  let magnitude :=
    if bits.toNat % signBit = 0 then "0.0"
    else (Shortest.digits (Shortest.Binary.ofBits bits)).text layout
  sign ++ magnitude

def text : Number → String
  | integer value => toString value
  | real value => realText value

end MoveWallet.Json.Number
