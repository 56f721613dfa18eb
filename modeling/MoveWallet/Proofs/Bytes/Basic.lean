import MoveWallet.Bytes.Basic
import Mathlib.Tactic

/-! # The numbers of byte strings

Both byte orders write the same numbers, one the reverse of the other, and byte strings of one
length are told apart by their numbers.
-/

namespace MoveWallet.Bytes

theorem bound_eq_two_pow (width : Nat) : bound width = 2 ^ (8 * width) :=
  (Nat.pow_mul 2 8 width).symm

theorem toNatLE_lt_of_le {bytes : Bytes} {width : Nat} (fits : bytes.length ≤ width) :
    toNatLE bytes < bound width :=
  (toNatLE_lt bytes).trans_le (Nat.pow_le_pow_right (by decide) fits)

private theorem toNatLE_append (first others : Bytes) :
    toNatLE (first ++ others) = toNatLE first + bound first.length * toNatLE others := by
  induction first with
  | nil => simp [toNatLE, bound]
  | cons byte rest ih =>
    rw [List.cons_append, toNatLE, toNatLE, ih, List.length_cons, bound_succ]
    ring

theorem toNatBE_eq_toNatLE_reverse (bytes : Bytes) : toNatBE bytes = toNatLE bytes.reverse := by
  -- the bytes read so far stand above those that are left
  have continued (start : Nat) : bytes.foldl (fun n byte => n * 256 + byte.toNat) start =
      toNatLE bytes.reverse + bound bytes.length * start := by
    induction bytes generalizing start with
    | nil => simp [toNatLE, bound]
    | cons byte rest ih =>
      rw [List.foldl_cons, ih, List.reverse_cons, toNatLE_append, List.length_reverse,
        List.length_cons, bound_succ]
      simp only [toNatLE]
      ring
  have whole := continued 0
  rwa [Nat.mul_zero, Nat.add_zero] at whole

theorem toNatBE_lt (bytes : Bytes) : toNatBE bytes < bound bytes.length := by
  rw [toNatBE_eq_toNatLE_reverse, ← List.length_reverse]
  exact toNatLE_lt _

theorem toNatBE_ofNatBE (width n : Nat) : toNatBE (ofNatBE width n) = n % bound width := by
  rw [toNatBE_eq_toNatLE_reverse, ofNatBE, List.reverse_reverse, toNatLE_ofNatLE]

theorem toNatBE_cons (byte : UInt8) (rest : Bytes) :
    toNatBE (byte :: rest) = toNatBE rest + bound rest.length * byte.toNat := by
  rw [toNatBE_eq_toNatLE_reverse, toNatBE_eq_toNatLE_reverse, List.reverse_cons, toNatLE_append,
    List.length_reverse]
  simp [toNatLE]

/-- A last byte stands below all others. -/
theorem toNatBE_concat (bytes : Bytes) (byte : UInt8) :
    toNatBE (bytes ++ [byte]) = toNatBE bytes * 256 + byte.toNat := by
  rw [toNatBE, List.foldl_append]
  rfl

theorem toNatBE_eq_zero_iff {bytes : Bytes} : toNatBE bytes = 0 ↔ ∀ byte ∈ bytes, byte = 0 := by
  induction bytes with
  | nil => simp [toNatBE]
  | cons byte rest ih =>
    have positive : bound rest.length ≠ 0 := (Nat.pow_pos (by decide)).ne'
    have zero : byte.toNat = 0 ↔ byte = 0 := UInt8.toNat_inj (b := 0)
    rw [toNatBE_cons, Nat.add_eq_zero_iff, ih, Nat.mul_eq_zero, or_iff_right positive, zero,
      List.forall_mem_cons, and_comm]

theorem toNatLE_inj {first second : Bytes} (widths : first.length = second.length) :
    toNatLE first = toNatLE second ↔ first = second := by
  constructor
  · intro same
    rw [← ofNatLE_toNatLE first, ← ofNatLE_toNatLE second, widths, same]
  · exact congrArg toNatLE

theorem toNatBE_inj {first second : Bytes} (widths : first.length = second.length) :
    toNatBE first = toNatBE second ↔ first = second := by
  rw [toNatBE_eq_toNatLE_reverse, toNatBE_eq_toNatLE_reverse, toNatLE_inj (by simp [widths])]
  exact List.reverse_inj

end MoveWallet.Bytes
