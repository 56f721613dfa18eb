import MoveWallet.Proofs.TypeTag.Name

/-! # The grammar of types

What a text of a type means, as a relation between texts and types. An argument list stands behind
the name of a vector or a structure, and blanks stand around a type only at the ends of a text or
next to brackets and commas.
-/

namespace MoveWallet.TypeTag

def AllBlank (text : List Char) : Prop := ∀ c ∈ text, Text.isBlank c = true

/-- The text of a type with the blanks around it. -/
structure Spaced where
  before : List Char
  body : List Char
  after : List Char
  tag : TypeTag

namespace Spaced

def text (spaced : Spaced) : List Char := spaced.before ++ (spaced.body ++ spaced.after)

structure IsPadded (spaced : Spaced) : Prop where
  before : AllBlank spaced.before
  after : AllBlank spaced.after

/-- What follows the first type of an argument list. -/
def moreText (others : List Spaced) : List Char := others.flatMap fun spaced => ',' :: spaced.text

theorem moreText_nil : moreText [] = [] := rfl

theorem moreText_cons (spaced : Spaced) (others : List Spaced) :
    moreText (spaced :: others) = ',' :: (spaced.text ++ moreText others) := rfl

end Spaced

/-- The types that texts denote; placeholders are taken if `generics` is set. -/
inductive Denotes (generics : Bool) : List Char → TypeTag → Prop
  | reference {body : List Char} {tag : TypeTag} (referent : Denotes generics body tag) :
    Denotes generics ('&' :: body) (.reference tag)
  | primitive {name : List Char} {tag : TypeTag} (named : IsPrimitive name tag) :
    Denotes generics name tag
  | generic {name : List Char} {index : UInt32} (allowed : generics = true)
    (named : IsGeneric name index) : Denotes generics name (.generic index)
  | vector {name : List Char} {element : Spaced} (named : IsVector name)
    (padded : element.IsPadded) (inner : Denotes generics element.body element.tag) :
    Denotes generics (name ++ '<' :: (element.text ++ ['>'])) (.vector element.tag)
  | struct {path : List Char} {account : Address} {moduleName name : Identifier}
    (parts : IsPath path account moduleName name) :
    Denotes generics path (.struct account moduleName name [])
  | applied {path : List Char} {account : Address} {moduleName name : Identifier} {first : Spaced}
    {others : List Spaced} (parts : IsPath path account moduleName name)
    (padded : ∀ spaced ∈ first :: others, spaced.IsPadded)
    (inner : ∀ spaced ∈ first :: others, Denotes generics spaced.body spaced.tag) :
    Denotes generics (path ++ '<' :: (first.text ++ Spaced.moreText others ++ ['>']))
      (.struct account moduleName name ((first :: others).map (·.tag)))

/-- A whole text denotes a type if it does so without the blanks at its ends. -/
def Spells (generics : Bool) (text : String) (tag : TypeTag) : Prop :=
  ∃ spaced : Spaced, spaced.text = text.toList ∧ spaced.IsPadded ∧
    Denotes generics spaced.body spaced.tag ∧ spaced.tag = tag

/-- Whether in the rest of a text, behind the characters of a name, only a comma, a bracket or the
end closes an argument list off, and no argument list stands behind a placeholder. -/
def isOrderly : (name : List Char) → List Char → Bool
  | _, [] => true
  | name, c :: rest =>
    if c = '<' then
      (genericDigits? (name.dropWhile (· = '&'))).isNone && isOrderly [] rest
    else if c = '>' then !Scan.splitsName rest && isOrderly [] rest
    else if c = ',' || Text.isBlank c then isOrderly [] rest
    else isOrderly (name ++ [c]) rest

/-- The characters by what they do. -/
theorem char_cases (c : Char) :
    c = '<' ∨ c = '>' ∨ c = ',' ∨ Text.isBlank c = true ∨ endsName c = false := by
  cases blank : Text.isBlank c <;> simp [endsName, blank]
  tauto

section Characters

variable {c : Char}

theorem ne_of_isBlank (blank : Text.isBlank c = true) : c ≠ '<' ∧ c ≠ '>' ∧ c ≠ ',' := by
  refine ⟨?_, ?_, ?_⟩ <;> rintro rfl <;> cases blank

theorem ne_of_endsName (plain : endsName c = false) :
    c ≠ '<' ∧ c ≠ '>' ∧ c ≠ ',' ∧ Text.isBlank c = false := by
  simpa [endsName, and_assoc] using plain

end Characters

namespace Scan

variable {c : Char} {rest : List Char}

theorem splitsName_nil : splitsName [] = false := rfl

theorem splitsName_blank (blank : Text.isBlank c = true) :
    splitsName (c :: rest) = splitsName rest := by
  unfold splitsName Text.trimLeft
  rw [List.dropWhile_cons_of_pos blank]

theorem splitsName_plain (plain : endsName c = false) : splitsName (c :: rest) = true := by
  obtain ⟨-, notClose, notComma, notBlank⟩ := ne_of_endsName plain
  unfold splitsName Text.trimLeft
  rw [List.dropWhile_cons_of_neg (by simp [notBlank])]
  simp [notClose, notComma]

theorem splitsName_allBlank {before : List Char} (blank : AllBlank before) :
    splitsName (before ++ rest) = splitsName rest := by
  induction before with
  | nil => rfl
  | cons c others ih =>
    obtain ⟨first, others⟩ := List.forall_mem_cons.mp blank
    rw [List.cons_append, splitsName_blank first, ih others]

theorem splitsName_moreText {others : List Spaced} (ended : splitsName rest = false) :
    splitsName (Spaced.moreText others ++ rest) = false := by
  cases others with
  | nil => exact ended
  | cons spaced others => rfl

end Scan

section Orderly

variable {c : Char} {name rest : List Char}

theorem isOrderly_open : isOrderly name ('<' :: rest) =
    ((genericDigits? (name.dropWhile (· = '&'))).isNone && isOrderly [] rest) := rfl

theorem isOrderly_close :
    isOrderly name ('>' :: rest) = (!Scan.splitsName rest && isOrderly [] rest) := rfl

theorem isOrderly_comma : isOrderly name (',' :: rest) = isOrderly [] rest := rfl

theorem isOrderly_blank (blank : Text.isBlank c = true) :
    isOrderly name (c :: rest) = isOrderly [] rest := by
  obtain ⟨notOpen, notClose, notComma⟩ := ne_of_isBlank blank
  simp [isOrderly, notOpen, notClose, blank]

theorem isOrderly_plain (plain : endsName c = false) :
    isOrderly name (c :: rest) = isOrderly (name ++ [c]) rest := by
  obtain ⟨notOpen, notClose, notComma, notBlank⟩ := ne_of_endsName plain
  simp [isOrderly, notOpen, notClose, notComma, notBlank]

private theorem isOrderly_allBlank {before : List Char} (blank : AllBlank before) :
    isOrderly [] (before ++ rest) = isOrderly [] rest := by
  induction before with
  | nil => rfl
  | cons c others ih =>
    obtain ⟨first, others⟩ := List.forall_mem_cons.mp blank
    rw [List.cons_append, isOrderly_blank first, ih others]

private theorem isOrderly_name {others : List Char} (plain : ∀ c ∈ others, endsName c = false) :
    isOrderly name (others ++ rest) = isOrderly (name ++ others) rest := by
  induction others generalizing name with
  | nil => rw [List.nil_append, List.append_nil]
  | cons c others ih =>
    obtain ⟨first, plainOthers⟩ := List.forall_mem_cons.mp plain
    rw [List.cons_append, isOrderly_plain first, ih plainOthers, List.append_assoc]
    rfl

/-- What is behind a complete name does not depend on it. -/
theorem isOrderly_ended (ended : Scan.splitsName rest = false) :
    isOrderly name rest = isOrderly [] rest := by
  cases rest with
  | nil => rfl
  | cons c rest =>
    rcases char_cases c with rfl | rfl | rfl | blank | plain
    · cases ended
    · rfl
    · rfl
    · rw [isOrderly_blank blank, isOrderly_blank blank]
    · rw [Scan.splitsName_plain plain] at ended
      cases ended

end Orderly

/-- The name in front of an argument list, without its ampersands. -/
private theorem dropWhile_ampersand {ampersands name : List Char} (all : ∀ c ∈ ampersands, c = '&')
    (plain : '&' ∉ name) : (ampersands ++ name).dropWhile (· = '&') = name := by
  have front : ∀ c ∈ ampersands, decide (c = '&') = true :=
    fun c member => decide_eq_true (all c member)
  rw [List.dropWhile_append_of_pos front]
  cases name with
  | nil => rfl
  | cons c rest =>
    have other := List.ne_of_not_mem_cons plain
    exact List.dropWhile_cons_of_neg (by simp [other.symm])

private theorem isOrderly_spaced {spaced : Spaced} {rest : List Char} (padded : spaced.IsPadded)
    (inner : ∀ rest, Scan.splitsName rest = false →
      isOrderly [] (spaced.body ++ rest) = isOrderly [] rest)
    (ended : Scan.splitsName rest = false) :
    isOrderly [] (spaced.text ++ rest) = isOrderly [] rest := by
  have endedAfter : Scan.splitsName (spaced.after ++ rest) = false := by
    rwa [Scan.splitsName_allBlank padded.after]
  rw [Spaced.text, List.append_assoc, List.append_assoc, isOrderly_allBlank padded.before,
    inner _ endedAfter, isOrderly_allBlank padded.after]

private theorem isOrderly_moreText {others : List Spaced} {rest : List Char}
    (padded : ∀ spaced ∈ others, spaced.IsPadded)
    (inner : ∀ spaced ∈ others, ∀ rest, Scan.splitsName rest = false →
      isOrderly [] (spaced.body ++ rest) = isOrderly [] rest)
    (ended : Scan.splitsName rest = false) :
    isOrderly [] (Spaced.moreText others ++ rest) = isOrderly [] rest := by
  induction others with
  | nil => rfl
  | cons spaced others ih =>
    obtain ⟨padded, paddedOthers⟩ := List.forall_mem_cons.mp padded
    obtain ⟨inner, innerOthers⟩ := List.forall_mem_cons.mp inner
    rw [Spaced.moreText_cons, List.cons_append, isOrderly_comma, List.append_assoc,
      isOrderly_spaced padded inner (Scan.splitsName_moreText ended)]
    exact ih paddedOthers innerOthers

/-- An argument list behind a name that is no placeholder. -/
private theorem isOrderly_arguments {ampersands name rest : List Char} (first : Spaced)
    (others : List Spaced) (all : ∀ c ∈ ampersands, c = '&') (piece : '&' ∉ name)
    (unbroken : ∀ c ∈ name, endsName c = false) (plain : genericDigits? name = none)
    (padded : ∀ spaced ∈ first :: others, spaced.IsPadded)
    (inner : ∀ spaced ∈ first :: others, ∀ rest, Scan.splitsName rest = false →
      isOrderly [] (spaced.body ++ rest) = isOrderly [] rest)
    (ended : Scan.splitsName rest = false) :
    isOrderly ampersands (name ++ '<' :: (first.text ++ Spaced.moreText others ++ ['>']) ++ rest) =
      isOrderly [] rest := by
  obtain ⟨padded, paddedOthers⟩ := List.forall_mem_cons.mp padded
  obtain ⟨inner, innerOthers⟩ := List.forall_mem_cons.mp inner
  have endedAfter : Scan.splitsName (Spaced.moreText others ++ '>' :: rest) = false :=
    Scan.splitsName_moreText rfl
  have text : name ++ '<' :: (first.text ++ Spaced.moreText others ++ ['>']) ++ rest =
      name ++ '<' :: (first.text ++ (Spaced.moreText others ++ '>' :: rest)) := by simp
  rw [text, isOrderly_name unbroken, isOrderly_open, dropWhile_ampersand all piece, plain,
    isOrderly_spaced padded inner endedAfter, isOrderly_moreText paddedOthers innerOthers rfl,
    isOrderly_close, ended]
  rfl

/-- The text of a type is orderly behind its ampersands, if it ends there. -/
private theorem Denotes.isOrderly_append {generics : Bool} {body : List Char} {tag : TypeTag}
    (denotes : Denotes generics body tag) {ampersands rest : List Char}
    (all : ∀ c ∈ ampersands, c = '&') (ended : Scan.splitsName rest = false) :
    isOrderly ampersands (body ++ rest) = isOrderly [] rest := by
  induction denotes generalizing ampersands rest with
  | reference _ ih =>
    rw [List.cons_append, isOrderly_plain rfl]
    exact ih (List.forall_mem_append.mpr ⟨all, by simp⟩) ended
  | primitive named => rw [isOrderly_name named.isPiece.unbroken, isOrderly_ended ended]
  | generic _ named => rw [isOrderly_name named.isPiece.unbroken, isOrderly_ended ended]
  | @vector name element named padded _ ih =>
    have single := isOrderly_arguments element [] all named.isPiece.noAmpersand
      named.isPiece.unbroken named.genericDigits?_eq_none (List.forall_mem_singleton.mpr padded)
      (List.forall_mem_singleton.mpr fun rest ended => ih (List.forall_mem_nil _) ended) ended
    rwa [Spaced.moreText_nil, List.append_nil] at single
  | struct parts => rw [isOrderly_name (isPath_unbroken parts), isOrderly_ended ended]
  | applied parts padded _ ih =>
    refine isOrderly_arguments _ _ all parts.noAmpersand (isPath_unbroken parts)
      parts.genericDigits?_eq_none padded (fun spaced listed rest ended => ?_) ended
    exact ih spaced listed (List.forall_mem_nil _) ended

theorem Spells.orderly {generics : Bool} {text : String} {tag : TypeTag}
    (spells : Spells generics text tag) : isOrderly [] text.toList = true := by
  obtain ⟨spaced, same, padded, denotes, -⟩ := spells
  have whole := isOrderly_spaced padded
    (fun rest ended => denotes.isOrderly_append (List.forall_mem_nil _) ended) Scan.splitsName_nil
  rw [List.append_nil, same] at whole
  exact whole

end MoveWallet.TypeTag
