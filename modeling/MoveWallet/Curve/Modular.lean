/-! # Arithmetic modulo a prime

Powers and inverses of natural numbers modulo a prime, and the binary digits that drive repeated
doubling on a curve.
-/

namespace MoveWallet.Modular

/-- The binary digits of the low `count` places, the highest first. -/
def bits (count n : Nat) : List Bool :=
  ((List.range count).map fun place => n.testBit place).reverse

/-- A power modulo `m`, by repeated squaring over the digits of the exponent. -/
def power (m base exponent : Nat) : Nat :=
  (bits (exponent.log2 + 1) exponent).foldl
    (fun result bit =>
      let square := result * result % m
      if bit then square * base % m else square)
    (1 % m)

/-- The inverse modulo a prime; zero has the inverse zero. -/
def inverse (prime n : Nat) : Nat := power prime n (prime - 2)

/-- The difference modulo `m` of two numbers below `m`. -/
def sub (m a b : Nat) : Nat := (a + (m - b)) % m

end MoveWallet.Modular
