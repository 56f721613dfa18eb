import Mathlib.FieldTheory.Finite.Basic
import MoveWallet.Curve.Modular

/-! # Powers, inverses and differences modulo a prime

Repeated doubling over the binary digits of a number keeps a rule that tells what the state is for
the digits so far. By it powers are those of the residues, and inverses follow from Fermat's little
theorem.
-/

namespace MoveWallet.Modular

private theorem bits_succ (count n : Nat) :
    bits (count + 1) n = n.testBit count :: bits count n := by
  rw [bits, List.range_succ, List.map_append, List.reverse_append]
  rfl

/-- The low places of a number, with the next place told apart. -/
private theorem mod_two_pow_succ (n count : Nat) :
    n % 2 ^ (count + 1) = (n.testBit count).toNat * 2 ^ count + n % 2 ^ count := by
  rw [Nat.mod_pow_succ, Nat.toNat_testBit, Nat.mul_comm, Nat.add_comm]

section Doubling

variable {α : Type} {step : α → Bool → α} {Holds : Nat → α → Prop}

/-- A rule for the number that is read so far holds when more digits are read. -/
private theorem foldl_bits (next : ∀ number state digit, Holds number state →
      Holds (2 * number + digit.toNat) (step state digit)) (count n : Nat) {number : Nat}
    {state : α} (holds : Holds number state) :
    Holds (number * 2 ^ count + n % 2 ^ count) ((bits count n).foldl step state) := by
  induction count generalizing number state with
  | zero =>
    rw [Nat.pow_zero, Nat.mul_one, Nat.mod_one]
    exact holds
  | succ count ih =>
    have digits : number * 2 ^ (count + 1) + n % 2 ^ (count + 1) =
        (2 * number + (n.testBit count).toNat) * 2 ^ count + n % 2 ^ count := by
      rw [mod_two_pow_succ]
      ring
    rw [bits_succ, List.foldl_cons, digits]
    exact ih (next number state _ holds)

/-- All digits of a number are read. -/
theorem foldl_bits_log2 (next : ∀ number state digit, Holds number state →
      Holds (2 * number + digit.toNat) (step state digit)) {state : α} (start : Holds 0 state)
    (n : Nat) : Holds n ((bits (n.log2 + 1) n).foldl step state) := by
  have whole : 0 * 2 ^ (n.log2 + 1) + n % 2 ^ (n.log2 + 1) = n := by
    rw [Nat.zero_mul, Nat.zero_add, Nat.mod_eq_of_lt Nat.lt_log2_self]
  have read := foldl_bits next (n.log2 + 1) n start
  rwa [whole] at read

end Doubling

theorem power_eq (m base exponent : Nat) : power m base exponent = base ^ exponent % m := by
  have next (number result : Nat) (digit : Bool) (holds : result = base ^ number % m) :
      (let square := result * result % m
        if digit then square * base % m else square) = base ^ (2 * number + digit.toNat) % m := by
    have square : result * result % m = base ^ (2 * number) % m := by
      rw [holds, ← Nat.mul_mod, ← Nat.pow_add, Nat.two_mul]
    cases digit with
    | false => exact square
    | true =>
      change result * result % m * base % m = base ^ (2 * number) * base % m
      rw [square, Nat.mod_mul_mod]
  exact foldl_bits_log2 next rfl exponent

section Residues

variable {m : Nat}

@[simp] theorem cast_power (base exponent : Nat) :
    (power m base exponent : ZMod m) = (base : ZMod m) ^ exponent := by
  rw [power_eq, ZMod.natCast_mod, Nat.cast_pow]

theorem cast_sub {a b : Nat} (within : b ≤ m) : (sub m a b : ZMod m) = a - b := by
  rw [sub, ZMod.natCast_mod, Nat.cast_add, Nat.cast_sub within, ZMod.natCast_self, zero_sub,
    sub_eq_add_neg]

theorem sub_lt (positive : 0 < m) (a b : Nat) : sub m a b < m := Nat.mod_lt _ positive

/-- A reduced number is zero exactly if its residue is. -/
theorem cast_eq_zero_iff {n : Nat} (reduced : n < m) : (n : ZMod m) = 0 ↔ n = 0 := by
  rw [ZMod.natCast_eq_zero_iff]
  exact ⟨fun divides => Nat.eq_zero_of_dvd_of_lt divides reduced, fun zero => zero ▸ dvd_zero m⟩

/-- Reduced numbers with equal residues are equal. -/
theorem cast_inj {a b : Nat} (reducedLeft : a < m) (reducedRight : b < m) :
    (a : ZMod m) = b ↔ a = b := by
  rw [ZMod.natCast_eq_natCast_iff', Nat.mod_eq_of_lt reducedLeft, Nat.mod_eq_of_lt reducedRight]

theorem cast_inverse [Fact m.Prime] (large : 2 < m) (n : Nat) :
    (inverse m n : ZMod m) = (n : ZMod m)⁻¹ := by
  rw [inverse, cast_power]
  by_cases zero : (n : ZMod m) = 0
  · rw [zero, inv_zero, zero_pow (by omega)]
  · have fermat := ZMod.pow_card_sub_one_eq_one zero
    have shift : m - 1 = m - 2 + 1 := by omega
    rw [shift, pow_succ] at fermat
    exact eq_inv_of_mul_eq_one_left fermat

end Residues

end MoveWallet.Modular
