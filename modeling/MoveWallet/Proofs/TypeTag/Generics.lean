import MoveWallet.Proofs.TypeTag.Content

/-! # Reading with and without placeholders

The reader that takes no placeholders goes along with the one that takes them up to the first
placeholder, and there it stops. No placeholder occurs in a type that it reads.
-/

namespace MoveWallet.TypeTag

open Outcome

variable {α β : Type}

def IsGenericFree (tag : TypeTag) : Prop := ∀ index, ¬ OccursIn (.generic index) tag

section Free

variable {tag : TypeTag}

theorem isGenericFree_vector_iff : IsGenericFree (.vector tag) ↔ IsGenericFree tag := by
  constructor
  · intro free index occurs
    exact free index (.element occurs)
  · intro free index occurs
    cases occurs with
    | element occurs => exact free index occurs

theorem isGenericFree_reference_iff : IsGenericFree (.reference tag) ↔ IsGenericFree tag := by
  constructor
  · intro free index occurs
    exact free index (.referent occurs)
  · intro free index occurs
    cases occurs with
    | referent occurs => exact free index occurs

theorem isGenericFree_struct_iff {account : Address} {moduleName name : Identifier}
    {arguments : List TypeTag} : IsGenericFree (.struct account moduleName name arguments) ↔
      ∀ argument ∈ arguments, IsGenericFree argument := by
  constructor
  · intro free argument listed index occurs
    exact free index (.argument listed occurs)
  · intro free index occurs
    cases occurs with
    | argument listed occurs => exact free _ listed index occurs

theorem not_isGenericFree_generic (index : UInt32) : ¬ IsGenericFree (.generic index) :=
  fun free => free index .here

private theorem IsPrimitive.isGenericFree {name : List Char} (primitive : IsPrimitive name tag) :
    IsGenericFree tag := by
  obtain ⟨entry, listed, -, rfl⟩ := primitive
  simp only [primitives, List.mem_cons, List.not_mem_nil, or_false] at listed
  intro index occurs
  rcases listed with rfl | rfl | rfl | rfl | rfl | rfl | rfl | rfl | rfl <;> cases occurs

theorem isInherited_isGenericFree : IsInherited false IsGenericFree where
  reference := isGenericFree_reference_iff.mpr
  plain free made := by
    rcases ofPlainName_eq_ok_iff.mp made with ⟨-, element, rfl, rfl⟩ | ⟨primitive, -⟩ |
      ⟨taken, -⟩ | ⟨account, moduleName, last, -, rfl⟩
    · exact isGenericFree_vector_iff.mpr (free element List.mem_cons_self)
    · exact primitive.isGenericFree
    · cases taken
    · exact isGenericFree_struct_iff.mpr free

end Free

/-- An outcome without placeholders is the one with them, or a placeholder is refused. -/
def Refuses (strict lax : Except TypeTagErrorKind α) : Prop :=
  strict = lax ∨ strict = .error .unexpectedGenericType

theorem Refuses.refl (outcome : Except TypeTagErrorKind α) : Refuses outcome outcome := .inl rfl

/-- What is refused once stays refused. -/
theorem Refuses.bind {strict lax : Except TypeTagErrorKind α}
    {next next' : α → Except TypeTagErrorKind β} (first : Refuses strict lax)
    (others : ∀ value, Refuses (next value) (next' value)) :
    Refuses (strict >>= next) (lax >>= next') := by
  rcases first with rfl | rfl
  · cases strict with
    | error kind => exact .refl _
    | ok value => exact others value
  · exact .inr rfl

theorem Refuses.map {strict lax : Except TypeTagErrorKind α} (refuses : Refuses strict lax)
    (make : α → β) : Refuses (make <$> strict) (make <$> lax) := by
  rcases refuses with rfl | rfl
  · exact .refl _
  · exact .inr rfl

private theorem refuses_ofPlainName (arguments : List TypeTag) (name : List Char) :
    Refuses (ofPlainName false arguments name) (ofPlainName true arguments name) := by
  unfold ofPlainName
  dsimp only
  by_cases vector : Text.asciiLower name = "vector".toList
  · rw [if_pos vector, if_pos vector]
    exact .refl _
  · rw [if_neg vector, if_neg vector]
    cases primitive? (Text.asciiLower name) with
    | some tag => exact .refl _
    | none =>
      cases genericDigits? name with
      | some digits => exact .inr rfl
      | none => exact .refl _

private theorem refuses_ofName (arguments : List TypeTag) (name : List Char) :
    Refuses (ofName false arguments name) (ofName true arguments name) := by
  induction name with
  | nil => exact .refl _
  | cons c rest ih =>
    by_cases ampersand : c = '&'
    · subst ampersand
      exact ih.map reference
    · rw [ofName_cons ampersand, ofName_cons ampersand]
      exact refuses_ofPlainName arguments (c :: rest)

namespace Scan

private theorem refuses_endName (scan : Scan) :
    Refuses (scan.endName false) (scan.endName true) := by
  unfold endName
  split
  · exact .refl _
  · exact (refuses_ofName scan.arguments scan.current.name).bind fun _ => .refl _

private theorem refuses_step (scan : Scan) (c : Char) (rest : List Char) :
    Refuses (scan.step false c rest) (scan.step true c rest) := by
  unfold step
  split
  · exact .refl _
  split
  · exact scan.refuses_endName.bind fun _ => .refl _
  split
  · split
    · exact .refl _
    · exact scan.refuses_endName.bind fun _ => .refl _
  split
  · split
    · exact .refl _
    · exact scan.refuses_endName
  · exact .refl _

private theorem refuses_run (scan : Scan) (text : List Char) :
    Refuses (scan.run false text) (scan.run true text) := by
  induction text generalizing scan with
  | nil => exact .refl _
  | cons c rest ih => exact (scan.refuses_step c rest).bind ih

private theorem refuses_result (scan : Scan) : Refuses (scan.result false) (scan.result true) := by
  unfold result
  split
  · exact .refl _
  · split
    · exact refuses_ofName scan.arguments scan.current.name
    · exact .refl _
    · exact .refl _

end Scan

/-- A text is read alike, or it is refused for a placeholder. -/
theorem parse_eq_or_unexpectedGenericType (text : String) :
    parse text false = parse text true ∨
      parse text false = .error ⟨text, .unexpectedGenericType⟩ := by
  have outcomes := (Scan.start.refuses_run text.toList).bind Scan.refuses_result
  rcases outcomes with same | refused
  · exact .inl (congrArg (Except.mapError fun kind => TypeTagError.mk text kind) same)
  · exact .inr (congrArg (Except.mapError fun kind => TypeTagError.mk text kind) refused)

/-- A type with a placeholder is never read where none is taken: the placeholder is refused. -/
theorem parse_of_generic {text : String} {tag : TypeTag} (read : parse text true = .ok tag)
    (generic : ¬ IsGenericFree tag) :
    parse text false = .error ⟨text, .unexpectedGenericType⟩ := by
  apply (parse_eq_or_unexpectedGenericType text).resolve_left
  intro same
  exact generic (isInherited_isGenericFree.of_parse (same.trans read))

end MoveWallet.TypeTag
