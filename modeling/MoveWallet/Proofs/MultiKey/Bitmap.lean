import Mathlib.Data.List.Sort
import MoveWallet.MultiKey.Bitmap
import MoveWallet.Proofs.Outcome

/-! # Bitmaps are the sets of their positions

Naming a position changes whether this position is named and nothing else. A bitmap is thus made of
some positions exactly when they are in range and different, and then it names just them: reading
the positions of a bitmap that was made of an ascending list gives the list back.
-/

namespace MoveWallet.Bitmap

/-- The masks of the positions in a byte have no bit in common. -/
private theorem mask_and_mask {i j : Nat} : mask i &&& mask j = 0 ↔ i % 8 ≠ j % 8 := by
  have pairs : ∀ a b : Fin 8, mask a &&& mask b = 0 ↔ a ≠ b := by decide
  have small (position : Nat) : mask position = mask (position % 8) := by
    unfold mask
    rw [Nat.mod_mod]
  rw [small i, small j]
  have pair := pairs ⟨i % 8, Nat.mod_lt _ (by decide)⟩ ⟨j % 8, Nat.mod_lt _ (by decide)⟩
  simpa [Fin.ext_iff] using pair

private theorem or_and_eq_zero {x y z : UInt8} :
    (x ||| y) &&& z = 0 ↔ x &&& z = 0 ∧ y &&& z = 0 := by
  rw [← UInt8.or_eq_zero_iff, ← UInt8.toBitVec_inj, ← UInt8.toBitVec_inj]
  simp only [UInt8.toBitVec_and, UInt8.toBitVec_or, BitVec.and_or_distrib_right]

/-- Naming a position leaves the others as they were. -/
theorem contains_insert {bitmap : Bitmap} {position other : Nat} (inside : position < capacity) :
    (bitmap.insert position).contains other = true ↔
      other = position ∨ bitmap.contains other = true := by
  have held : position / 8 < bitmap.toList.length := by
    rw [bitmap.length_eq]
    unfold capacity at inside
    omega
  unfold contains insert
  simp only [bne_iff_ne, ne_eq, List.getD_eq_getElem?_getD]
  by_cases same : other / 8 = position / 8
  · rw [same, List.getElem?_modify_eq, List.getElem?_eq_getElem held, Option.map_eq_map,
      Option.map_some, Option.getD_some, Option.getD_some, or_and_eq_zero, mask_and_mask]
    have place : other = position ↔ position % 8 = other % 8 := by omega
    rw [place]
    tauto
  · have apart : other ≠ position := by
      rintro rfl
      exact same rfl
    rw [List.getElem?_modify_ne _ _ (Ne.symm same)]
    simp [apart]

@[simp] theorem contains_zero (position : Nat) :
    Bitmap.contains (FixedBytes.zero 4) position = false := by
  have zeros : (FixedBytes.zero 4).toList.getD (position / 8) 0 = 0 := by
    rw [List.getD_eq_getElem?_getD]
    change ((List.replicate 4 (0 : UInt8))[position / 8]?).getD 0 = 0
    rw [List.getElem?_replicate]
    split <;> rfl
  unfold contains
  rw [zeros, UInt8.zero_and]
  rfl

/-- Naming positions one after the other, whether or not they are named already. -/
private theorem contains_foldl_insert {positions : List Nat} {bitmap : Bitmap} {other : Nat}
    (inside : ∀ position ∈ positions, position < capacity) :
    (positions.foldl insert bitmap).contains other = true ↔
      other ∈ positions ∨ bitmap.contains other = true := by
  induction positions generalizing bitmap with
  | nil => simp
  | cons first others ih =>
    obtain ⟨firstInside, othersInside⟩ := List.forall_mem_cons.mp inside
    rw [List.foldl_cons, ih othersInside, contains_insert firstInside, List.mem_cons]
    tauto

private theorem add_eq_ok_iff {bitmap result : Bitmap} {position : UInt8} :
    bitmap.add position = .ok result ↔ position.toNat < capacity ∧
      bitmap.contains position.toNat = false ∧ bitmap.insert position.toNat = result := by
  unfold add
  by_cases inside : capacity ≤ position.toNat
  · simp [inside, Nat.not_lt.mpr inside]
  · by_cases named : bitmap.contains position.toNat = true
    · simp [inside, named]
    · simp [inside, named, Nat.not_le.mp inside]

/-- Positions are added one after the other if they are in range, different, and new. -/
theorem foldlM_add_eq_ok_iff {positions : List UInt8} {bitmap result : Bitmap} :
    positions.foldlM add bitmap = .ok result ↔
      (∀ position ∈ positions, position.toNat < capacity ∧
        bitmap.contains position.toNat = false) ∧
      positions.Nodup ∧ (positions.map UInt8.toNat).foldl insert bitmap = result := by
  induction positions generalizing bitmap with
  | nil => simp [pure, Except.pure]
  | cons first others ih =>
    rw [List.foldlM_cons, Outcome.bind_eq_ok_iff, List.forall_mem_cons, List.nodup_cons,
      List.map_cons, List.foldl_cons]
    simp only [add_eq_ok_iff, ih]
    constructor
    · rintro ⟨_, ⟨inside, unnamed, rfl⟩, othersNew, distinct, made⟩
      refine ⟨⟨⟨inside, unnamed⟩, ?_⟩, ⟨?_, distinct⟩, made⟩
      · intro position member
        obtain ⟨inside', unnamed'⟩ := othersNew position member
        refine ⟨inside', eq_false_of_ne_true fun named => ?_⟩
        exact Bool.false_ne_true (unnamed'.symm.trans ((contains_insert inside).mpr (.inr named)))
      · intro member
        have unnamed' := (othersNew first member).2
        exact Bool.false_ne_true (unnamed'.symm.trans ((contains_insert inside).mpr (.inl rfl)))
    · rintro ⟨⟨⟨inside, unnamed⟩, othersNew⟩, ⟨fresh, distinct⟩, made⟩
      refine ⟨_, ⟨inside, unnamed, rfl⟩, ?_, distinct, made⟩
      intro position member
      obtain ⟨inside', unnamed'⟩ := othersNew position member
      refine ⟨inside', eq_false_of_ne_true fun named => ?_⟩
      rcases (contains_insert inside).mp named with same | named
      · exact fresh (UInt8.toNat_inj.mp same ▸ member)
      · exact Bool.false_ne_true (unnamed'.symm.trans named)

/-- A bitmap is made of positions exactly when they are in range and different. -/
theorem ofPositions_eq_ok_iff {positions : List UInt8} {bitmap : Bitmap} :
    ofPositions positions = .ok bitmap ↔
      (∀ position ∈ positions, position.toNat < capacity) ∧ positions.Nodup ∧
        (positions.map UInt8.toNat).foldl insert (FixedBytes.zero 4) = bitmap := by
  unfold ofPositions
  rw [foldlM_add_eq_ok_iff]
  simp

/-- A bitmap names the positions that it is made of. -/
theorem contains_ofPositions {positions : List UInt8} {bitmap : Bitmap} {position : Nat}
    (made : ofPositions positions = .ok bitmap) :
    bitmap.contains position = true ↔ position ∈ positions.map UInt8.toNat := by
  obtain ⟨inside, -, rfl⟩ := ofPositions_eq_ok_iff.mp made
  rw [contains_foldl_insert (List.forall_mem_map.mpr inside)]
  simp

theorem mem_positions {bitmap : Bitmap} {position : Nat} :
    position ∈ bitmap.positions ↔ position < capacity ∧ bitmap.contains position = true := by
  simp [positions]

theorem positions_pairwise (bitmap : Bitmap) : bitmap.positions.Pairwise (· < ·) :=
  List.pairwise_lt_range.filter _

/-- The positions of a bitmap that is made of some are those, sorted. -/
theorem positions_perm_of_ofPositions {positions : List UInt8} {bitmap : Bitmap}
    (made : ofPositions positions = .ok bitmap) :
    bitmap.positions.Perm (positions.map UInt8.toNat) := by
  obtain ⟨inside, distinct, -⟩ := ofPositions_eq_ok_iff.mp made
  have distinct' : (positions.map UInt8.toNat).Nodup :=
    distinct.map fun _ _ => UInt8.toNat_inj.mp
  rw [List.perm_ext_iff_of_nodup ((positions_pairwise bitmap).imp Nat.ne_of_lt) distinct']
  intro position
  rw [mem_positions, contains_ofPositions made]
  refine and_iff_right_of_imp fun member => ?_
  obtain ⟨byte, listed, rfl⟩ := List.mem_map.mp member
  exact inside byte listed

/-- The positions of an ascending list are read back in order. -/
theorem positions_ofPositions {positions : List UInt8} {bitmap : Bitmap}
    (made : ofPositions positions = .ok bitmap) (ascending : positions.Pairwise (· < ·)) :
    bitmap.positions = positions.map UInt8.toNat := by
  have ascending' : (positions.map UInt8.toNat).Pairwise (· < ·) :=
    List.pairwise_map.mpr (ascending.imp UInt8.lt_iff_toNat_lt.mp)
  exact (positions_perm_of_ofPositions made).eq_of_pairwise' (positions_pairwise bitmap) ascending'

theorem count_ofPositions {positions : List UInt8} {bitmap : Bitmap}
    (made : ofPositions positions = .ok bitmap) : bitmap.count = positions.length := by
  rw [count, (positions_perm_of_ofPositions made).length_eq, List.length_map]

end MoveWallet.Bitmap
