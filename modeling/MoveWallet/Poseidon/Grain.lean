import MoveWallet.Curve.Modular
import MoveWallet.Poseidon.Scalar

/-! # The parameters of Poseidon

Round constants and matrices are drawn from the Grain generator: a feedback register of 80 bits,
started with a description of the permutation, whose output is thinned out by itself.
-/

namespace MoveWallet.Poseidon

/-- The constants and the matrix of a permutation. -/
structure Parameters where
  /-- Lanes of the state. -/
  width : Nat
  /-- Rounds in which only the first lane passes the power map. -/
  partialRounds : Nat
  /-- The constants of all rounds one after the other, `width` for each. -/
  constants : List Scalar
  /-- The rows of the matrix that mixes the lanes. -/
  matrix : List (List Scalar)

/-- Rounds in which all lanes pass the power map, half of them before the partial rounds. -/
def fullRounds : Nat := 8

/-- Bits of the modulus. -/
def scalarBits : Nat := 254

/-- The feedback register: bits 0 to 63 and bits 64 to 79, the oldest bit lowest. -/
structure Register where
  low : UInt64
  high : UInt64

namespace Register

/-- Shift the register by one bit and return the bit that enters it. -/
def clock (register : Register) : Bool × Register :=
  let tap (place : UInt64) : UInt64 := register.low >>> place
  let bit := (tap 62 ^^^ tap 51 ^^^ tap 38 ^^^ tap 23 ^^^ tap 13 ^^^ tap 0) &&& 1
  let low := (register.low >>> 1) ||| (register.high <<< 63)
  let high := (register.high >>> 1) ||| (bit <<< 15)
  (bit = 1, ⟨low, high⟩)

def skip : Nat → Register → Register
  | 0, register => register
  | count + 1, register => skip count register.clock.2

def ofBits (bits : List Bool) : Register :=
  let number (bits : List Bool) : Nat := bits.foldr (fun bit n => bit.toNat + 2 * n) 0
  ⟨UInt64.ofNat (number (bits.take 64)), UInt64.ofNat (number (bits.drop 64))⟩

/-- The next output bit: of each pair of register bits the second counts if the first is set. A
register of 80 bits cannot refuse more than 80 pairs in a row. -/
def next : (pairs : Nat) → Register → Bool × Register
  | 0, register => (false, register)
  | pairs + 1, register =>
    let (chosen, register) := register.clock
    let (bit, register) := register.clock
    if chosen then (bit, register) else next pairs register

/-- A number of output bits, read as one number with the first bit highest. -/
def number : (count : Nat) → (value : Nat) → Register → Nat × Register
  | 0, value, register => (value, register)
  | count + 1, value, register =>
    let (bit, register) := next 80 register
    number count (2 * value + bit.toNat) register

/-- A number below the modulus: larger ones are drawn again, about one in four. -/
def residue : (attempts : Nat) → Register → Scalar × Register
  | 0, register => (Scalar.zero, register)
  | attempts + 1, register =>
    let (value, register) := number scalarBits 0 register
    if h : value < Scalar.modulus then (⟨value, h⟩, register) else residue attempts register

/-- Draw a list of values one after the other. -/
def draw (value : Register → Scalar × Register) : (count : Nat) → Register → List Scalar × Register
  | 0, register => ([], register)
  | count + 1, register =>
    let (first, register) := value register
    let (others, register) := draw value count register
    (first :: others, register)

end Register

/-- The start of the register: a prime field, a power map, the sizes and a run of ones. The first
160 bits are thrown away. -/
def seed (width partialRounds : Nat) : Register :=
  let bits := [false, true] ++ List.replicate 4 false ++ Modular.bits 12 scalarBits ++
    Modular.bits 12 width ++ Modular.bits 10 fullRounds ++ Modular.bits 10 partialRounds ++
    List.replicate 30 true
  (Register.ofBits bits).skip 160

/-- The parameters of a width: first all constants, then the two sequences whose pairwise sums are
inverted to fill the matrix. -/
def generate (width partialRounds : Nat) : Parameters :=
  let count := width * (fullRounds + partialRounds)
  let (constants, register) := Register.draw (Register.residue 256) count (seed width partialRounds)
  let reduced (register : Register) : Scalar × Register :=
    let (value, register) := register.number scalarBits 0
    (Scalar.ofNat value, register)
  let (xs, register) := Register.draw reduced width register
  let (ys, _) := Register.draw reduced width register
  let inverse (scalar : Scalar) : Scalar :=
    Scalar.ofNat (Modular.inverse Scalar.modulus scalar.val)
  ⟨width, partialRounds, constants, xs.map fun x => ys.map fun y => inverse (x + y)⟩

/-- The numbers of partial rounds for one input, two inputs and so on. -/
def partialRoundCounts : List Nat := [56, 57, 56, 60, 60, 63, 64, 63, 60, 66, 60, 65]

/-- The largest number of inputs. -/
def maxArity : Nat := partialRoundCounts.length

/-- The parameters for one input, two inputs and so on, each computed when it is first used. -/
def tables : List (Thunk Parameters) :=
  partialRoundCounts.zipIdx.map fun entry => Thunk.mk fun _ => generate (entry.2 + 2) entry.1

/-- The parameters for a number of inputs. -/
def parameters? (arity : Nat) : Option Parameters :=
  match arity with
  | 0 => none
  | index + 1 => tables[index]?.map Thunk.get

end MoveWallet.Poseidon
