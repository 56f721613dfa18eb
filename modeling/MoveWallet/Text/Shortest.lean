/-! # The shortest decimal of a binary fraction

A double stands for all reals that round to it. `Shortest.digits` finds the decimal with the fewest
digits in that interval, and of those with that many digits the one nearest to the double, in exact
arithmetic on natural numbers.
-/

namespace MoveWallet.Shortest

/-- A positive decimal: the digits, read as a number, times a power of ten. -/
structure Decimal where
  /-- The digits as one number. -/
  significand : Nat
  /-- The power of ten. -/
  exponent : Int
  deriving DecidableEq, Repr

/-- A positive binary fraction `significand * 2 ^ exponent` with the interval that rounds to it:
the gap below is half as wide at a power of two, and both ends belong to it when the significand
is even. -/
structure Binary where
  significand : Nat
  exponent : Int
  narrowBelow : Bool

/-- The leading bit of a normal double's significand, which is not stored. -/
def hiddenBit : Nat := Nat.pow 2 52

/-- The binary fraction of the bits of a double other than zero, infinity and NaN, sign aside. -/
def Binary.ofBits (bits : UInt64) : Binary :=
  let raw : Nat := bits.toNat % (UInt64.size / 2)
  let biased := raw / hiddenBit
  let fraction := raw % hiddenBit
  if biased = 0 then ⟨fraction, -1074, false⟩
  else ⟨hiddenBit + fraction, Int.ofNat biased - 1075, fraction = 0 && biased > 1⟩

def digitCount (n : Nat) : Nat := (Nat.toDigits 10 n).length

/-- Numerator and denominator of `n * 2 ^ two * 10 ^ ten`. -/
def scaled (n : Nat) (two ten : Int) : Nat × Nat :=
  (n * Nat.pow 2 two.toNat * Nat.pow 10 ten.toNat, Nat.pow 2 (-two).toNat * Nat.pow 10 (-ten).toNat)

/-- The power of ten of the leading digit of a positive fraction. -/
def leadingPower (numerator denominator : Nat) : Int :=
  if denominator ≤ numerator then (digitCount (numerator / denominator) : Int) - 1
  else
    -- the quotient of the inverses is at least one, and exact powers of ten keep their own power
    -((digitCount ((denominator - 1) / numerator) : Int))

/-- The point of the decimal grid at a power of ten that lies in the interval, the nearer one if
both neighbours do. -/
def onGrid? (value : Binary) (power : Int) : Option Nat :=
  -- all distances are measured in quarters of the last binary place
  let inUnits (quarters : Nat) : Nat × Nat := scaled quarters (value.exponent - 2) (-power)
  let exact := inUnits (4 * value.significand)
  let lowest := inUnits (4 * value.significand - if value.narrowBelow then 1 else 2)
  let highest := inUnits (4 * value.significand + 2)
  let even := value.significand % 2 = 0
  let inside (point : Nat) : Bool :=
    if even then lowest.1 ≤ point * lowest.2 && point * highest.2 ≤ highest.1
    else lowest.1 < point * lowest.2 && point * highest.2 < highest.1
  let below := exact.1 / exact.2
  let above := below + 1
  match 0 < below && inside below, inside above with
  | true, true =>
    let down := exact.1 - below * exact.2
    let up := above * exact.2 - exact.1
    if down < up || (down = up && below % 2 = 0) then some below else some above
  | true, false => some below
  | false, true => some above
  | false, false => none

def Decimal.normalize (value : Decimal) : Decimal :=
  go (digitCount value.significand) value
where
  /-- At most one zero per digit is dropped. -/
  go : Nat → Decimal → Decimal
    | 0, value => value
    | count + 1, value =>
      if value.significand % 10 = 0 && value.significand ≠ 0 then
        go count ⟨value.significand / 10, value.exponent + 1⟩
      else value

/-- The first of the grids with 1, 2, … 17 digits that has a point in the interval. -/
def digits (value : Binary) : Decimal :=
  let fraction := scaled value.significand value.exponent 0
  let leading := leadingPower fraction.1 fraction.2
  let grids := (List.range 17).filterMap fun more =>
    let power := leading - Int.ofNat more
    (onGrid? value power).map fun point => (⟨point, power⟩ : Decimal)
  (grids.head?.getD ⟨value.significand, 0⟩).normalize

/-- Layout of a number with a fraction part: the powers of ten for which the point is written in
place. -/
structure Layout where
  firstPositional : Int
  lastPositional : Int

/-- Write a decimal. In place, a whole number ends in `.0`; otherwise one digit stands before the
point and the exponent has its sign. -/
def Decimal.text (layout : Layout) (value : Decimal) : String :=
  let digits := Nat.toDigits 10 value.significand
  let leading : Int := (digits.length : Int) - 1 + value.exponent
  if layout.firstPositional ≤ leading ∧ leading ≤ layout.lastPositional then
    if leading < 0 then
      String.ofList ('0' :: '.' :: List.replicate ((-leading).toNat - 1) '0' ++ digits)
    else
      let whole := leading.toNat + 1
      let padded := digits ++ List.replicate (whole - digits.length) '0'
      let fraction := padded.drop whole
      String.ofList (padded.take whole ++ '.' :: if fraction.isEmpty then ['0'] else fraction)
  else
    let mantissa :=
      match digits with
      | first :: second :: rest => first :: '.' :: second :: rest
      | _ => digits
    let sign := if leading < 0 then '-' else '+'
    String.ofList (mantissa ++ 'e' :: sign :: Nat.toDigits 10 leading.natAbs)

end MoveWallet.Shortest
