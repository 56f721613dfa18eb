import MoveWallet.Text.Segment
import Mathlib.Tactic

/-! # Pieces of a text

The pieces of a text between its separators, double colons or single characters, give the text back,
and pieces without a separator are found again.
-/

namespace MoveWallet.Text

/-! ## Beginnings -/

theorem after?_eq_some_iff {start : String} {text rest : List Char} :
    after? start text = some rest ↔ text = start.toList ++ rest := by
  rw [after?, List.isPrefixOf?_eq_some_iff_append_eq, eq_comm]

theorem isSome_after?_iff {start : String} {text : List Char} :
    (after? start text).isSome = true ↔ start.toList <+: text := by
  simp only [Option.isSome_iff_exists, after?_eq_some_iff]
  exact exists_congr fun rest => eq_comm

theorem after?_eq_none_iff {start : String} {text : List Char} :
    after? start text = none ↔ ¬ start.toList <+: text := by
  rw [← isSome_after?_iff, Option.not_isSome_iff_eq_none]

/-! ## Double colons -/

private theorem atColons_ne_nil (text : List Char) : atColons text ≠ [] := by
  fun_cases atColons text <;> simp

private theorem intercalate_atColons (text : List Char) :
    [':', ':'].intercalate (atColons text) = text := by
  fun_induction atColons text with
  | case1 => rfl
  | case2 rest ih =>
    obtain ⟨piece, pieces, cut⟩ := List.exists_cons_of_ne_nil (atColons_ne_nil rest)
    rw [cut] at ih ⊢
    rw [List.intercalate_cons_cons, ih]
    rfl
  | case3 c rest _ cut => exact absurd cut (atColons_ne_nil rest)
  | case4 c rest _ piece pieces cut ih =>
    rw [cut] at ih
    cases pieces with
    | nil =>
      rw [List.intercalate_singleton] at ih ⊢
      rw [ih]
    | cons next pieces =>
      rw [List.intercalate_cons_cons] at ih ⊢
      rw [← ih]
      rfl

private theorem atColons_of_plain {piece : List Char} (plain : ':' ∉ piece) :
    atColons piece = [piece] := by
  induction piece with
  | nil => rfl
  | cons c rest ih =>
    have other := List.ne_of_not_mem_cons plain
    rw [atColons, ih (List.not_mem_of_not_mem_cons plain)]
    rintro _ rfl
    exact absurd rfl other

private theorem atColons_append {piece : List Char} (plain : ':' ∉ piece) (rest : List Char) :
    atColons (piece ++ ':' :: ':' :: rest) = piece :: atColons rest := by
  induction piece with
  | nil => rfl
  | cons c others ih =>
    have other := List.ne_of_not_mem_cons plain
    rw [List.cons_append, atColons, ih (List.not_mem_of_not_mem_cons plain)]
    rintro _ rfl
    exact absurd rfl other

theorem eq_of_atColons {text first second third : List Char}
    (cut : atColons text = [first, second, third]) :
    text = first ++ ':' :: ':' :: (second ++ ':' :: ':' :: third) := by
  have joined := intercalate_atColons text
  rw [cut] at joined
  rw [← joined]
  simp [List.intercalate_cons_cons]

theorem atColons_of_three {first second third : List Char} (firstPlain : ':' ∉ first)
    (secondPlain : ':' ∉ second) (thirdPlain : ':' ∉ third) :
    atColons (first ++ ':' :: ':' :: (second ++ ':' :: ':' :: third)) =
      [first, second, third] := by
  rw [atColons_append firstPlain, atColons_append secondPlain, atColons_of_plain thirdPlain]

theorem eq_of_atColons_two {text first second : List Char} (cut : atColons text = [first, second]) :
    text = first ++ ':' :: ':' :: second := by
  have joined := intercalate_atColons text
  rw [cut] at joined
  rw [← joined]
  simp [List.intercalate_cons_cons]

theorem atColons_of_two {first second : List Char} (firstPlain : ':' ∉ first)
    (secondPlain : ':' ∉ second) : atColons (first ++ ':' :: ':' :: second) = [first, second] := by
  rw [atColons_append firstPlain, atColons_of_plain secondPlain]

/-! ## The last separator -/

theorem eq_of_atLast? {separator : String} {text before after : List Char}
    (cut : atLast? separator text = some (before, after)) :
    text = before ++ (separator.toList ++ after) := by
  induction text generalizing before after with
  | nil => cases cut
  | cons c rest ih =>
    unfold atLast? at cut
    split at cut
    next earlier later found =>
      cases cut
      rw [ih found, List.cons_append]
    next =>
      obtain ⟨_, found, same⟩ := Option.map_eq_some_iff.mp cut
      cases same
      exact after?_eq_some_iff.mp found

private theorem after?_colons_of_plain {text : List Char} (plain : ':' ∉ text) (c : Char) :
    after? "::" (c :: text) = none := by
  rw [after?_eq_none_iff]
  rintro ⟨rest, same⟩
  obtain ⟨-, same⟩ := List.cons.inj same
  exact plain (same ▸ List.mem_cons_self)

/-- A text with at most one colon, its first character, has no double colon. -/
private theorem atLast?_eq_none {text : List Char} (plain : ':' ∉ text.tail) :
    atLast? "::" text = none := by
  induction text with
  | nil => rfl
  | cons c rest ih =>
    have others : ':' ∉ rest.tail := fun member => plain (List.mem_of_mem_tail member)
    have first : after? "::" (c :: rest) = none := after?_colons_of_plain plain c
    rw [atLast?, ih others, first]
    rfl

/-- What has no colon stands behind the last double colon. -/
theorem atLast?_append {after : List Char} (plain : ':' ∉ after) (before : List Char) :
    atLast? "::" (before ++ ':' :: ':' :: after) = some (before, after) := by
  induction before with
  | nil =>
    -- the second colon starts no double colon, since none follows it
    have second : atLast? "::" (':' :: after) = none := atLast?_eq_none plain
    rw [List.nil_append, atLast?, second]
    rfl
  | cons c rest ih => rw [List.cons_append, atLast?, ih]

/-! ## Single separators -/

private theorem atChar_eq_splitOn (separator : Char) (text : List Char) :
    atChar separator text = text.splitOn separator := by
  induction text with
  | nil => rfl
  | cons c rest ih =>
    rw [atChar, List.splitOn_cons_eq_if_modifyHead, ih]
    obtain ⟨piece, pieces, cut⟩ := List.exists_cons_of_ne_nil (List.splitOn_ne_nil separator rest)
    simp [cut]

theorem eq_of_atChar {separator : Char} {text first second third : List Char}
    (cut : atChar separator text = [first, second, third]) :
    text = first ++ separator :: (second ++ separator :: third) := by
  have joined : [separator].intercalate (text.splitOn separator) = text :=
    List.intercalate_splitOn separator
  rw [← atChar_eq_splitOn, cut] at joined
  rw [← joined]
  simp [List.intercalate_cons_cons]

theorem atChar_of_three {separator : Char} {first second third : List Char}
    (firstPlain : separator ∉ first) (secondPlain : separator ∉ second)
    (thirdPlain : separator ∉ third) :
    atChar separator (first ++ separator :: (second ++ separator :: third)) =
      [first, second, third] := by
  have plain : ∀ piece ∈ [first, second, third], separator ∉ piece := by
    simp [firstPlain, secondPlain, thirdPlain]
  have cut := List.splitOn_intercalate separator plain (List.cons_ne_nil _ _)
  rw [atChar_eq_splitOn, ← cut]
  simp [List.intercalate_cons_cons]

end MoveWallet.Text
