import MoveWallet.Text.Blank
import Mathlib.Tactic

/-! # Blanks around a text

Trimming takes off the blanks at both ends of a text and nothing else. What has no blanks itself is
found again between any blanks.
-/

namespace MoveWallet.Text

theorem isAlphanum_iff {c : Char} : c.isAlphanum = true ↔
    (48 ≤ c.toNat ∧ c.toNat ≤ 57) ∨ (65 ≤ c.toNat ∧ c.toNat ≤ 90) ∨
      (97 ≤ c.toNat ∧ c.toNat ≤ 122) := by
  have classes : c.isAlphanum = (decide (c.val ≥ 'A'.val ∧ c.val ≤ 'Z'.val) ||
      (decide (c.val ≥ 'a'.val) && decide (c.val ≤ 'z'.val)) ||
        (decide (c.val ≥ '0'.val) && decide (c.val ≤ '9'.val))) := rfl
  simp only [classes, Bool.or_eq_true, Bool.and_eq_true, decide_eq_true_eq, UInt32.le_iff_toNat_le]
  change ((65 ≤ c.toNat ∧ c.toNat ≤ 90) ∨ 97 ≤ c.toNat ∧ c.toNat ≤ 122) ∨
    48 ≤ c.toNat ∧ c.toNat ≤ 57 ↔ _
  omega

/-- No letter or digit is blank. -/
theorem isBlank_eq_false_of_isAlphanum {c : Char} (plain : c.isAlphanum = true) :
    isBlank c = false := by
  rw [isAlphanum_iff] at plain
  simp only [isBlank, blankRanges, List.any_cons, List.any_nil, Bool.or_false,
    Bool.or_eq_false_iff, Bool.and_eq_false_iff, decide_eq_false_iff_not]
  omega

/-- A text that has nothing but blanks around a body. -/
def Pads (body text : List Char) : Prop :=
  ∃ before after, (∀ c ∈ before, isBlank c = true) ∧ (∀ c ∈ after, isBlank c = true) ∧
    text = before ++ body ++ after

private theorem exists_append_trimLeft (text : List Char) :
    ∃ before, (∀ c ∈ before, isBlank c = true) ∧ text = before ++ trimLeft text := by
  refine ⟨text.takeWhile isBlank, fun c member => ?_, ?_⟩
  · exact List.all_eq_true.mp List.all_takeWhile c member
  · exact List.takeWhile_append_dropWhile.symm

theorem pads_trim (text : List Char) : Pads (trim text) text := by
  obtain ⟨before, beforeBlank, text_eq⟩ := exists_append_trimLeft text
  obtain ⟨after, afterBlank, left_eq⟩ := exists_append_trimLeft (trimLeft text).reverse
  refine ⟨before, after.reverse, beforeBlank, ?_, ?_⟩
  · intro c member
    exact afterBlank c (List.mem_reverse.mp member)
  · have back := congrArg List.reverse left_eq
    rw [List.reverse_reverse, List.reverse_append] at back
    rw [trim, List.append_assoc, ← back]
    exact text_eq

/-- Blanks in front of a text that starts with none are taken off. -/
private theorem trimLeft_append {before rest : List Char} (blank : ∀ c ∈ before, isBlank c = true)
    (solid : ∀ c ∈ rest.head?, isBlank c = false) : trimLeft (before ++ rest) = rest := by
  unfold trimLeft
  rw [List.dropWhile_append_of_pos blank]
  cases rest with
  | nil => rfl
  | cons c others =>
    have first : isBlank c = false := solid c rfl
    exact List.dropWhile_cons_of_neg (by simp [first])

/-- A body without blanks is what is left of a text that pads it. -/
theorem trim_of_pads {body text : List Char} (pads : Pads body text)
    (solid : ∀ c ∈ body, isBlank c = false) : trim text = body := by
  obtain ⟨before, after, beforeBlank, afterBlank, rfl⟩ := pads
  have reversedBlank : ∀ c ∈ after.reverse, isBlank c = true :=
    fun c member => afterBlank c (List.mem_reverse.mp member)
  cases body with
  | nil =>
    have blank : ∀ c ∈ before ++ [] ++ after, isBlank c = true := by
      rw [List.append_nil]
      exact List.forall_mem_append.mpr ⟨beforeBlank, afterBlank⟩
    have empty : trimLeft (before ++ [] ++ after ++ []) = [] :=
      trimLeft_append blank fun c absent => nomatch absent
    rw [List.append_nil] at empty
    rw [trim, empty]
    rfl
  | cons first others =>
    have firstSolid : ∀ c ∈ ((first :: others) ++ after).head?, isBlank c = false := by
      rintro c ⟨⟩
      exact solid first List.mem_cons_self
    have lastSolid : ∀ c ∈ (first :: others).reverse.head?, isBlank c = false := by
      intro c member
      exact solid c (List.mem_reverse.mp (List.mem_of_mem_head? member))
    rw [trim, List.append_assoc, trimLeft_append beforeBlank firstSolid, List.reverse_append,
      trimLeft_append reversedBlank lastSolid, List.reverse_reverse]

private theorem isBlank_of_mem_head?_trimLeft (text : List Char) :
    ∀ c ∈ (trimLeft text).head?, isBlank c = false := by
  intro c first
  have stopped := List.head?_dropWhile_not isBlank text
  rw [show (text.dropWhile isBlank).head? = some c from first] at stopped
  exact stopped

private theorem trimLeft_trimLeft (text : List Char) : trimLeft (trimLeft text) = trimLeft text :=
  trimLeft_append (List.forall_mem_nil _) (isBlank_of_mem_head?_trimLeft text)

/-- Trimming leaves nothing to trim. -/
theorem trim_trim (text : List Char) : trim (trim text) = trim text := by
  obtain ⟨after, -, left_eq⟩ := exists_append_trimLeft (trimLeft text).reverse
  -- what is left starts as the text does behind its first blanks
  have whole : trimLeft text = trim text ++ after.reverse := by
    have back := congrArg List.reverse left_eq
    rwa [List.reverse_reverse, List.reverse_append] at back
  have solid : ∀ c ∈ (trim text).head?, isBlank c = false := by
    intro c first
    apply isBlank_of_mem_head?_trimLeft text
    rw [whole]
    exact List.mem_head?_append_of_mem_head? first
  have kept : trimLeft (trim text) = trim text :=
    trimLeft_append (List.forall_mem_nil _) solid
  have ended : trimLeft (trim text).reverse = (trim text).reverse := by
    rw [trim, List.reverse_reverse, trimLeft_trimLeft]
  rw [trim, kept, ended, List.reverse_reverse]

end MoveWallet.Text
