import Mathlib.Algebra.Order.Floor.Div
import Mathlib.Data.List.DropRight
import Mathlib.Tactic
import MoveWallet.Bytes.Basic

/-! # Pieces and padding

A list is cut into a first piece and the pieces of what is left, so that each piece is a window of
the list and the pieces make up the list again. Zeros behind a byte string are lost where all zeros
at the end are dropped, and nothing else is.
-/

namespace MoveWallet

/-! ## Pieces -/

section Pieces

variable {α : Type} {size : Nat} {items : List α}

/-- The bound on the number of pieces is never reached, so that it does not matter. -/
private theorem chunks.go_congr {count count' : Nat} (enough : items.length ≤ count)
    (enough' : items.length ≤ count') : go size count items = go size count' items := by
  induction count generalizing count' items with
  | zero =>
    obtain rfl := List.eq_nil_of_length_eq_zero (Nat.le_zero.mp enough)
    cases count' <;> rfl
  | succ count ih =>
    cases items with
    | nil => cases count' <;> rfl
    | cons item rest =>
      rw [List.length_cons] at enough enough'
      obtain ⟨count', rfl⟩ := Nat.exists_eq_succ_of_ne_zero (Nat.ne_zero_of_lt enough')
      have shorter : (rest.drop (size - 1)).length ≤ rest.length := by simp
      rw [go, go, ih (shorter.trans (Nat.le_of_succ_le_succ enough))
        (shorter.trans (Nat.le_of_succ_le_succ enough'))]

private theorem chunks_eq_cons (positive : 0 < size) (nonempty : items ≠ []) :
    chunks size items = items.take size :: chunks size (items.drop size) := by
  obtain ⟨item, rest, rfl⟩ := List.exists_cons_of_ne_nil nonempty
  obtain ⟨width, rfl⟩ := Nat.exists_eq_succ_of_ne_zero positive.ne'
  rw [chunks, List.length_cons, chunks.go, chunks, List.take_succ_cons, List.drop_succ_cons,
    Nat.succ_sub_one, chunks.go_congr (by simp) le_rfl]

theorem chunks_append {piece : List α} (exact : piece.length = size) (positive : 0 < size)
    (rest : List α) : chunks size (piece ++ rest) = piece :: chunks size rest := by
  have nonempty : piece ++ rest ≠ [] :=
    List.append_ne_nil_of_left_ne_nil (List.ne_nil_of_length_pos (exact ▸ positive)) rest
  rw [chunks_eq_cons positive nonempty, List.take_left' exact, List.drop_left' exact]

/-- What holds of no items, and of some if it holds behind the first piece, holds of all lists. -/
@[elab_as_elim]
theorem pieces_induction {motive : List α → Prop} (positive : 0 < size) (nil : motive [])
    (cons : ∀ items, items ≠ [] → motive (items.drop size) → motive items) (items : List α) :
    motive items := by
  induction counted : items.length using Nat.strong_induction_on generalizing items with
  | h count ih =>
    by_cases empty : items = []
    · exact empty ▸ nil
    · have shorter : (items.drop size).length < count := by
        have present := List.length_pos_of_ne_nil empty
        rw [List.length_drop]
        omega
      exact cons items empty (ih _ shorter _ rfl)

/-- The last piece may be shorter, but there is none without items. -/
theorem length_chunks (positive : 0 < size) (items : List α) :
    (chunks size items).length = items.length ⌈/⌉ size := by
  induction items using pieces_induction positive with
  | nil => exact (zero_ceilDiv size).symm
  | cons items nonempty ih =>
    rw [chunks_eq_cons positive nonempty, List.length_cons, ih, List.length_drop]
    refine eq_of_forall_ge_iff fun count => ?_
    cases count with
    | zero => simp [ceilDiv_le_iff_le_mul positive, nonempty]
    | succ count =>
      rw [Nat.add_le_add_iff_right, ceilDiv_le_iff_le_mul positive, ceilDiv_le_iff_le_mul positive,
        Nat.sub_le_iff_le_add, Nat.mul_succ]

/-- Each piece is a window of the list. -/
theorem getElem_chunks (positive : 0 < size) (items : List α) {index : Nat}
    (inside : index < (chunks size items).length) :
    (chunks size items)[index] = (items.drop (size * index)).take size := by
  induction items using pieces_induction positive generalizing index with
  | nil => cases inside
  | cons items nonempty ih =>
    simp only [chunks_eq_cons positive nonempty] at inside ⊢
    cases index with
    | zero => rfl
    | succ index =>
      rw [List.getElem_cons_succ, ih, List.drop_drop, Nat.mul_succ, Nat.add_comm size]

theorem length_le_of_mem_chunks (positive : 0 < size) {piece : List α}
    (listed : piece ∈ chunks size items) : piece.length ≤ size := by
  obtain ⟨index, inside, rfl⟩ := List.getElem_of_mem listed
  rw [getElem_chunks positive]
  exact List.length_take_le size _

end Pieces

/-! ## Padding -/

namespace Bytes

variable {size : Nat} {bytes : Bytes}

theorem length_padRight (fits : bytes.length ≤ size) : (padRight size bytes).length = size := by
  rw [padRight, List.length_append, List.length_replicate, Nat.add_sub_cancel' fits]

private theorem padRight_of_le (long : size ≤ bytes.length) : padRight size bytes = bytes := by
  rw [padRight, Nat.sub_eq_zero_of_le long, List.replicate_zero, List.append_nil]

/-- The pieces of a byte string stay in front of each other when the last one is padded. -/
theorem prefix_padded_pieces (positive : 0 < size) (bytes : Bytes) :
    bytes <+: (chunks size bytes).flatMap (padRight size) := by
  induction bytes using pieces_induction positive with
  | nil => exact List.nil_prefix
  | cons bytes nonempty ih =>
    rw [chunks_eq_cons positive nonempty, List.flatMap_cons]
    -- a first piece that is padded is the last one, and no other changes
    rcases Nat.le_total bytes.length size with last | more
    · rw [List.take_of_length_le last, padRight, List.append_assoc]
      exact List.prefix_append bytes _
    · rw [padRight_of_le (List.length_take_of_le more).ge]
      conv_lhs => rw [← List.take_append_drop size bytes]
      exact (List.prefix_append_right_inj _).mpr ih

def trimZeros (bytes : Bytes) : Bytes := bytes.rdropWhile (· == 0)

private theorem trimZeros_append_zeros (bytes : Bytes) (count : Nat) :
    trimZeros (bytes ++ List.replicate count 0) = trimZeros bytes := by
  induction count with
  | zero => rw [List.replicate_zero, List.append_nil]
  | succ count ih =>
    rw [List.replicate_succ', ← List.append_assoc, trimZeros, List.rdropWhile_concat_pos _ _ _ rfl]
    exact ih

private theorem trimZeros_padRight (size : Nat) (bytes : Bytes) :
    trimZeros (padRight size bytes) = trimZeros bytes :=
  trimZeros_append_zeros bytes _

private theorem exists_zeros (bytes : Bytes) :
    ∃ count, bytes = trimZeros bytes ++ List.replicate count 0 := by
  have zeros : ∀ byte ∈ bytes.rtakeWhile (· == 0), byte = 0 := by
    intro byte listed
    have zero := List.mem_rtakeWhile_imp listed
    exact eq_of_beq zero
  refine ⟨(bytes.rtakeWhile (· == 0)).length, ?_⟩
  rw [← List.eq_replicate_of_mem zeros, trimZeros, List.rdropWhile_append_rtakeWhile]

/-- Zeros at the end are padded again. -/
theorem padRight_trimZeros (fits : bytes.length ≤ size) :
    padRight size (trimZeros bytes) = padRight size bytes := by
  obtain ⟨count, split⟩ := exists_zeros bytes
  have total : bytes.length = (trimZeros bytes).length + count := by
    simpa using congrArg List.length split
  have padding : size - (trimZeros bytes).length = count + (size - bytes.length) := by omega
  rw [padRight, padRight, padding, List.replicate_add, ← List.append_assoc, ← split]

/-- Byte strings are padded alike if they differ in the zeros at their end only. -/
theorem padRight_eq_padRight_iff {first second : Bytes} (fits : first.length ≤ size)
    (fits' : second.length ≤ size) :
    padRight size first = padRight size second ↔ trimZeros first = trimZeros second := by
  constructor
  · intro same
    rw [← trimZeros_padRight size first, same, trimZeros_padRight]
  · intro same
    rw [← padRight_trimZeros fits, same, padRight_trimZeros fits']

end Bytes

end MoveWallet
