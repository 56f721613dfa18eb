import MoveWallet.Proofs.TypeTag.Generics

/-! # What is taken in stays

A list of arguments is closed only when it has as many types as it expects, so that the arguments in
front of a name are never dropped: every type that the reader holds at some time occurs in the type
that it reads. A placeholder that was taken is therefore seen in the outcome, and the reader that
takes none reads all the types without placeholders that the other one reads.
-/

namespace MoveWallet.TypeTag

open Outcome

variable {generics : Bool} {property : TypeTag → Prop} {tag : TypeTag}

/-- A property that the arguments of a type have if the type has it. -/
structure IsReflected (generics : Bool) (property : TypeTag → Prop) : Prop where
  reference {tag : TypeTag} : property (.reference tag) → property tag
  plain {arguments : List TypeTag} {name : List Char} {tag : TypeTag} :
    ofPlainName generics arguments name = .ok tag → property tag →
    ∀ argument ∈ arguments, property argument

theorem IsReflected.of_ofName {arguments : List TypeTag} {name : List Char}
    (reflected : IsReflected generics property) (made : ofName generics arguments name = .ok tag)
    (held : property tag) : ∀ argument ∈ arguments, property argument := by
  induction name generalizing tag with
  | nil => cases made
  | cons c rest ih =>
    by_cases ampersand : c = '&'
    · subst ampersand
      obtain ⟨referent, referred, rfl⟩ := ofName_ampersand_eq_ok_iff.mp made
      exact ih referred (reflected.reference held)
    · rw [ofName_cons ampersand] at made
      exact reflected.plain made held

/-- A placeholder takes arguments and drops them, but it is one itself. -/
private theorem isReflected_isGenericFree : IsReflected generics IsGenericFree where
  reference := isGenericFree_reference_iff.mp
  plain made free := by
    rcases ofPlainName_eq_ok_iff.mp made with ⟨-, element, rfl, rfl⟩ | ⟨-, rfl⟩ |
      ⟨-, index, -, rfl⟩ | ⟨account, moduleName, last, -, rfl⟩
    · exact List.forall_mem_singleton.mpr (isGenericFree_vector_iff.mp free)
    · exact List.forall_mem_nil _
    · exact absurd free (not_isGenericFree_generic index)
    · exact isGenericFree_struct_iff.mp free

namespace Scan

variable {scan after : Scan} {c : Char} {rest : List Char}

/-- Each of the levels around the current one needs one more type. -/
def Waits : List Level → Prop
  | [] => True
  | level :: outer => Unfilled level.expected level.types outer ∧ Waits outer

/-- The last name of a level has ended, and no other may begin before a comma. -/
structure Ended (scan : Scan) (rest : List Char) : Prop where
  name : scan.current.name = []
  arguments : scan.arguments = []
  past : splitsName rest = false
  counted : scan.outer ≠ [] → scan.current.types.length ≤ scan.current.expected

/-- The states that reading goes through in front of a rest: every level needs one more type, but
for the current one when its last name has ended. -/
structure Settled (scan : Scan) (rest : List Char) : Prop where
  outer : Waits scan.outer
  current : Unfilled scan.current.expected scan.current.types scan.outer ∨ scan.Ended rest

private theorem settled_start : start.Settled rest := ⟨trivial, .inl rfl⟩

theorem Unfilled.length_lt {outer : List Level} {expected : Nat} {types : List TypeTag}
    (unfilled : Unfilled expected types outer) (inside : outer ≠ []) : types.length < expected := by
  cases outer with
  | nil => exact absurd rfl inside
  | cons => exact unfilled

/-- A name that ends adds a type for which there is room. -/
private theorem Settled.counted_of_endName (settled : scan.Settled rest)
    (named : scan.endName generics = .ok after) :
    after.outer = scan.outer ∧
      (after.outer ≠ [] → after.current.types.length ≤ after.current.expected) := by
  rcases endName_eq_ok_iff.mp named with ⟨-, rfl⟩ | ⟨made, begun, -, rfl⟩
  · refine ⟨rfl, fun inside => ?_⟩
    rcases settled.current with unfilled | ended
    · exact Nat.le_of_lt (unfilled.length_lt inside)
    · exact ended.counted inside
  · refine ⟨rfl, fun inside => ?_⟩
    have unfilled := settled.current.resolve_right fun ended => begun ended.name
    rw [List.length_append]
    exact unfilled.length_lt inside

/-- No arguments are left over when a level closes. -/
private theorem Settled.arguments_of_endName (settled : scan.Settled rest)
    (named : scan.endName generics = .ok after) (inside : after.outer ≠ [])
    (counted : after.current.expected = after.current.types.length) : after.arguments = [] := by
  rcases endName_eq_ok_iff.mp named with ⟨-, rfl⟩ | ⟨made, -, -, rfl⟩
  · rcases settled.current with unfilled | ended
    · exact absurd counted (Nat.ne_of_gt (unfilled.length_lt inside))
    · exact ended.arguments
  · rfl

/-- Every character leads from one such state to another. -/
theorem Settled.step (settled : scan.Settled (c :: rest))
    (moves : Moves generics scan rest c after) : after.Settled rest := by
  have unfilled (more : splitsName (c :: rest) = true) :
      Unfilled scan.current.expected scan.current.types scan.outer :=
    settled.current.resolve_right fun ended => Bool.false_ne_true (ended.past.symm.trans more)
  cases moves with
  | opening => exact ⟨⟨unfilled rfl, settled.outer⟩, .inl Nat.one_pos⟩
  | closing named levels =>
    obtain ⟨sameOuter, -⟩ := settled.counted_of_endName named
    have waits := settled.outer
    rw [← sameOuter, levels] at waits
    exact ⟨waits.2, .inl waits.1⟩
  | @comma ended inside named =>
    obtain ⟨sameOuter, counted⟩ := settled.counted_of_endName named
    refine ⟨sameOuter ▸ settled.outer, .inl ?_⟩
    obtain ⟨level, outer, levels⟩ := List.exists_cons_of_ne_nil (sameOuter ▸ inside)
    have room := counted (sameOuter ▸ inside)
    change Unfilled (ended.current.expected + 1) ended.current.types ended.outer
    rw [levels]
    exact Nat.lt_succ_of_le room
  | blank isBlank whole named =>
    obtain ⟨sameOuter, counted⟩ := settled.counted_of_endName named
    refine ⟨sameOuter ▸ settled.outer, ?_⟩
    rcases endName_eq_ok_iff.mp named with ⟨-, rfl⟩ | ⟨made, begun, -, rfl⟩
    · refine settled.current.imp_right fun ended => ⟨ended.name, ended.arguments, ?_, counted⟩
      exact (splitsName_blank isBlank).symm.trans ended.past
    · exact .inr ⟨rfl, rfl, whole.resolve_left begun, counted⟩
  | plain solid => exact ⟨settled.outer, .inl (unfilled (splitsName_plain solid))⟩

/-! ## From the outcome back to the state -/

theorem Holds.of_endName (reflected : IsReflected generics property)
    (named : scan.endName generics = .ok after) (holds : after.Holds property) :
    scan.Holds property := by
  rcases endName_eq_ok_iff.mp named with ⟨-, rfl⟩ | ⟨made, -, taken, rfl⟩
  · exact holds
  · obtain ⟨current, last⟩ := List.forall_mem_append.mp holds.current
    exact ⟨holds.outer, current, reflected.of_ofName taken (List.forall_mem_singleton.mp last)⟩

/-- No character drops a type. -/
private theorem Holds.of_step (reflected : IsReflected generics property)
    (settled : scan.Settled (c :: rest)) (moves : Moves generics scan rest c after)
    (holds : after.Holds property) : scan.Holds property := by
  cases moves with
  | opening =>
    obtain ⟨current, outer⟩ := List.forall_mem_cons.mp holds.outer
    exact ⟨outer, current, holds.arguments⟩
  | @closing ended level outer named levels counted =>
    have inside : ended.outer ≠ [] := levels ▸ List.cons_ne_nil level outer
    have taken := settled.arguments_of_endName named inside counted
    refine .of_endName reflected named ⟨?_, holds.arguments, ?_⟩
    · rw [levels]
      exact List.forall_mem_cons.mpr ⟨holds.current, holds.outer⟩
    · rw [taken]
      exact List.forall_mem_nil _
  | comma _ named =>
    exact .of_endName reflected named ⟨holds.outer, holds.current, holds.arguments⟩
  | blank _ _ named => exact .of_endName reflected named holds
  | plain => exact ⟨holds.outer, holds.current, holds.arguments⟩

private theorem Holds.of_result (reflected : IsReflected generics property)
    (settled : scan.Settled [])
    (made : scan.result generics = .ok tag) (held : property tag) : scan.Holds property := by
  obtain ⟨outer, ⟨expected, name, types⟩, arguments⟩ := scan
  cases outer with
  | cons level outer => cases made
  | nil =>
    rcases types with _ | ⟨first, _ | ⟨second, others⟩⟩
    · have taken := reflected.of_ofName made held
      exact ⟨List.forall_mem_nil _, List.forall_mem_nil _, taken⟩
    · rcases settled.current with unfilled | ended
      · cases unfilled
      · obtain rfl : name = [] := ended.name
        obtain rfl : arguments = [] := ended.arguments
        cases made
        exact ⟨List.forall_mem_nil _, List.forall_mem_singleton.mpr held, List.forall_mem_nil _⟩
    · cases made

/-- All types that are held at some time have the property if the outcome has it. -/
private theorem Holds.of_finish (reflected : IsReflected generics property)
    (settled : scan.Settled rest)
    (made : finish generics scan rest = .ok tag) (held : property tag) : scan.Holds property := by
  induction rest generalizing scan with
  | nil => exact .of_result reflected settled made held
  | cons c rest ih =>
    rw [finish_cons, bind_eq_ok_iff] at made
    obtain ⟨next, stepped, made⟩ := made
    have moves := step_eq_ok_iff.mp stepped
    exact .of_step reflected settled moves (ih (settled.step moves) made)

end Scan

/-! ## Without placeholders -/

section Strict

variable {arguments : List TypeTag} {name : List Char}

private theorem ofName_of_isGenericFree (made : ofName true arguments name = .ok tag)
    (free : IsGenericFree tag) : ofName false arguments name = .ok tag := by
  induction name generalizing tag with
  | nil => cases made
  | cons c rest ih =>
    by_cases ampersand : c = '&'
    · subst ampersand
      obtain ⟨referent, referred, rfl⟩ := ofName_ampersand_eq_ok_iff.mp made
      have inner := ih referred (isGenericFree_reference_iff.mp free)
      exact ofName_ampersand_eq_ok_iff.mpr ⟨referent, inner, rfl⟩
    · rw [ofName_cons ampersand] at made ⊢
      rw [ofPlainName_eq_ok_iff] at made ⊢
      refine made.imp_right (Or.imp_right (Or.imp_left ?_))
      rintro ⟨-, index, -, rfl⟩
      exact absurd free (not_isGenericFree_generic index)

namespace Scan

variable {scan after : Scan} {c : Char} {rest : List Char}

private theorem endName_of_isGenericFree (named : scan.endName true = .ok after)
    (free : ∀ tag ∈ after.current.types, IsGenericFree tag) :
    scan.endName false = .ok after := by
  rw [endName_eq_ok_iff] at named ⊢
  refine named.imp_right ?_
  rintro ⟨made, begun, taken, rfl⟩
  have last := free made (List.mem_append_right _ List.mem_cons_self)
  exact ⟨made, begun, ofName_of_isGenericFree taken last, rfl⟩

/-- A character that brings in no placeholder is taken where placeholders are not. -/
private theorem Moves.of_isGenericFree (moves : Moves true scan rest c after)
    (free : after.Holds IsGenericFree) : Moves false scan rest c after := by
  cases moves with
  | opening => exact .opening
  | closing named levels counted =>
    exact .closing (endName_of_isGenericFree named free.arguments) levels counted
  | comma inside named => exact .comma inside (endName_of_isGenericFree named free.current)
  | blank isBlank whole named =>
    exact .blank isBlank whole (endName_of_isGenericFree named free.current)
  | plain solid => exact .plain solid

private theorem result_of_isGenericFree (made : scan.result true = .ok tag)
    (free : IsGenericFree tag) : scan.result false = .ok tag := by
  obtain ⟨outer, ⟨expected, name, types⟩, arguments⟩ := scan
  cases outer with
  | cons level outer => cases made
  | nil =>
    rcases types with _ | ⟨first, _ | ⟨second, others⟩⟩
    · exact ofName_of_isGenericFree made free
    · exact made
    · cases made

private theorem finish_of_isGenericFree (settled : scan.Settled rest)
    (made : finish true scan rest = .ok tag) (free : IsGenericFree tag) :
    finish false scan rest = .ok tag := by
  induction rest generalizing scan with
  | nil => exact result_of_isGenericFree made free
  | cons c rest ih =>
    rw [finish_cons, bind_eq_ok_iff] at made ⊢
    obtain ⟨next, stepped, made⟩ := made
    have moves := step_eq_ok_iff.mp stepped
    have nextSettled := settled.step moves
    have holds := Holds.of_finish isReflected_isGenericFree nextSettled made free
    exact ⟨next, step_eq_ok_iff.mpr (moves.of_isGenericFree holds), ih nextSettled made⟩

end Scan

end Strict

private theorem parse_false_eq_ok_iff {text : String} :
    parse text false = .ok tag ↔ parse text true = .ok tag ∧ IsGenericFree tag := by
  constructor
  · intro read
    refine ⟨?_, isInherited_isGenericFree.of_parse read⟩
    rcases parse_eq_or_unexpectedGenericType text with same | refused
    · exact same.symm.trans read
    · cases read.symm.trans refused
  · rintro ⟨read, free⟩
    rw [Scan.parse_eq_ok_iff] at read ⊢
    exact Scan.finish_of_isGenericFree Scan.settled_start read free

/-- An error tells the text that was to be read. -/
theorem input_of_parse {text : String} {error : TypeTagError}
    (failed : parse text generics = .error error) : error.input = text := by
  unfold parse at failed
  obtain ⟨kind, -, rfl⟩ := mapError_eq_error_iff.mp failed
  rfl

/-- Taking no placeholders only refuses more: the types that are read are those that are read with
placeholders and have none in them, a text that is refused either way is refused for the same cause
or for a placeholder, and every error tells the text. -/
theorem parse_filters :
    (∀ (text : String) (tag : TypeTag), parse text false = .ok tag ↔
      parse text true = .ok tag ∧ ∀ index, ¬ OccursIn (.generic index) tag) ∧
    (∀ (text : String) (error : TypeTagError), parse text true = .error error →
      ∃ strict, parse text false = .error strict ∧
        (strict.kind = error.kind ∨ strict.kind = .unexpectedGenericType)) ∧
    ∀ (text : String) (generics : Bool) (error : TypeTagError),
      parse text generics = .error error → error.input = text := by
  refine ⟨fun text tag => parse_false_eq_ok_iff, fun text error failed => ?_,
    fun text generics error => input_of_parse⟩
  rcases parse_eq_or_unexpectedGenericType text with same | refused
  · exact ⟨error, same.trans failed, .inl rfl⟩
  · exact ⟨_, refused, .inr rfl⟩

/-- A type is read without placeholders. A list that is too long and has a placeholder is refused
for one of these faults, with its text. -/
theorem parse_filters_twoFaults :
    parse "vector<vector<u8>>" false = .ok (.vector (.vector .u8)) ∧
    (∃ strict, parse "vector<T0,u8>" false = .error strict ∧
      (strict.kind = .unexpectedVectorTypeArgumentCount ∨ strict.kind = .unexpectedGenericType)) ∧
    ∀ error, parse "vector<T0,u8>" true = .error error → error.input = "vector<T0,u8>" := by
  obtain ⟨reads, refuses, tells⟩ := parse_filters
  have bytes : IsGenericFree .u8 := fun index occurs => nomatch occurs
  have free : IsGenericFree (.vector (.vector .u8)) :=
    isGenericFree_vector_iff.mpr (isGenericFree_vector_iff.mpr bytes)
  exact ⟨(reads _ _).mpr ⟨rfl, free⟩, refuses _ ⟨_, .unexpectedVectorTypeArgumentCount⟩ rfl,
    fun error failed => tells _ true error failed⟩

end MoveWallet.TypeTag
