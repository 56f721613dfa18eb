import MoveWallet.Proofs.TypeTag.Parser

/-! # What occurs in a type

A type is concrete if no reference and no placeholder occurs in it at any depth. What names hand on
from their arguments to the types that they form holds of every type that is read, since it holds
of all types that the reader keeps at any level of brackets. The names that occur in a type that is
read from text are therefore identifiers.
-/

namespace MoveWallet.TypeTag

open Outcome

/-! ## Occurrence -/

/-- A type occurs in itself and in what its forms are made of. -/
inductive OccursIn (inner : TypeTag) : TypeTag → Prop
  | here : OccursIn inner inner
  | element {element : TypeTag} : OccursIn inner element → OccursIn inner (.vector element)
  | referent {referent : TypeTag} : OccursIn inner referent → OccursIn inner (.reference referent)
  | argument {account : Address} {moduleName name : Identifier} {arguments : List TypeTag}
    {argument : TypeTag} : argument ∈ arguments → OccursIn inner argument →
    OccursIn inner (.struct account moduleName name arguments)

/-- The forms that only describe parameters. -/
def IsParameterForm : TypeTag → Prop
  | reference _ | generic _ => True
  | _ => False

mutual

theorem exists_of_isAbiOnly : (tag : TypeTag) → isAbiOnly tag = true →
    ∃ inner, OccursIn inner tag ∧ IsParameterForm inner
  | reference referent, _ => ⟨_, .here, trivial⟩
  | generic index, _ => ⟨_, .here, trivial⟩
  | vector element, found => by
    obtain ⟨inner, occurs, form⟩ := exists_of_isAbiOnly element found
    exact ⟨inner, .element occurs, form⟩
  | struct _ _ _ arguments, found => by
    obtain ⟨argument, listed, inner, occurs, form⟩ := exists_of_anyAbiOnly arguments found
    exact ⟨inner, .argument listed occurs, form⟩

private theorem exists_of_anyAbiOnly : (tags : List TypeTag) → anyAbiOnly tags = true →
    ∃ tag ∈ tags, ∃ inner, OccursIn inner tag ∧ IsParameterForm inner
  | tag :: others, found => by
    rw [anyAbiOnly, Bool.or_eq_true] at found
    rcases found with first | later
    · exact ⟨tag, List.mem_cons_self, exists_of_isAbiOnly tag first⟩
    · obtain ⟨other, listed, occurs⟩ := exists_of_anyAbiOnly others later
      exact ⟨other, List.mem_cons_of_mem _ listed, occurs⟩

end

theorem isAbiOnly_of_occursIn {inner tag : TypeTag} (occurs : OccursIn inner tag)
    (form : IsParameterForm inner) : isAbiOnly tag = true := by
  induction occurs with
  | here => cases inner <;> first | rfl | cases form
  | element _ ih => exact ih
  | referent => rfl
  | argument listed _ ih =>
    rw [isAbiOnly, anyAbiOnly_eq]
    exact List.any_eq_true.mpr ⟨_, listed, ih⟩

/-- The test for concrete types looks at every depth. -/
theorem isAbiOnly_eq_false_iff {tag : TypeTag} :
    isAbiOnly tag = false ↔ ∀ inner, OccursIn inner tag → ¬ IsParameterForm inner := by
  rw [← Bool.not_eq_true]
  constructor
  · intro concrete inner occurs form
    exact concrete (isAbiOnly_of_occursIn occurs form)
  · intro concrete found
    obtain ⟨inner, occurs, form⟩ := exists_of_isAbiOnly tag found
    exact concrete inner occurs form

/-! ## What is read -/

section Reading

/-- A property that types have if the arguments that they are formed with have it. -/
structure IsInherited (generics : Bool) (property : TypeTag → Prop) : Prop where
  reference {tag : TypeTag} : property tag → property (.reference tag)
  plain {arguments : List TypeTag} {name : List Char} {tag : TypeTag} :
    (∀ argument ∈ arguments, property argument) →
    ofPlainName generics arguments name = .ok tag → property tag

variable {generics : Bool} {property : TypeTag → Prop} {tag : TypeTag}

theorem IsInherited.of_ofName {arguments : List TypeTag} {name : List Char}
    (inherited : IsInherited generics property) (held : ∀ argument ∈ arguments, property argument)
    (made : ofName generics arguments name = .ok tag) : property tag := by
  induction name generalizing tag with
  | nil => cases made
  | cons c rest ih =>
    by_cases ampersand : c = '&'
    · subst ampersand
      obtain ⟨referent, referred, rfl⟩ := ofName_ampersand_eq_ok_iff.mp made
      exact inherited.reference (ih referred)
    · rw [ofName_cons ampersand] at made
      exact inherited.plain held made

namespace Scan

/-- All types that are held have a property. -/
structure Holds (property : TypeTag → Prop) (scan : Scan) : Prop where
  outer : ∀ level ∈ scan.outer, ∀ tag ∈ level.types, property tag
  current : ∀ tag ∈ scan.current.types, property tag
  arguments : ∀ tag ∈ scan.arguments, property tag

variable {scan after : Scan} {c : Char} {rest : List Char}

private theorem holds_start : start.Holds property where
  outer _ listed := nomatch listed
  current _ listed := nomatch listed
  arguments _ listed := nomatch listed

theorem Holds.endName (holds : scan.Holds property) (inherited : IsInherited generics property)
    (ended : endName generics scan = .ok after) : after.Holds property := by
  rcases endName_eq_ok_iff.mp ended with ⟨-, rfl⟩ | ⟨made, -, named, rfl⟩
  · exact holds
  · refine ⟨holds.outer, List.forall_mem_append.mpr ⟨holds.current, ?_⟩, List.forall_mem_nil _⟩
    exact List.forall_mem_singleton.mpr (inherited.of_ofName holds.arguments named)

/-- No character brings in a type from elsewhere. -/
theorem Holds.step (holds : scan.Holds property) (inherited : IsInherited generics property)
    (stepped : step generics scan c rest = .ok after) : after.Holds property := by
  cases step_eq_ok_iff.mp stepped with
  | opening =>
    refine ⟨List.forall_mem_cons.mpr ⟨holds.current, holds.outer⟩, List.forall_mem_nil _, ?_⟩
    exact holds.arguments
  | closing named levels =>
    have kept := holds.endName inherited named
    have around := kept.outer
    rw [levels, List.forall_mem_cons] at around
    exact ⟨around.2, around.1, kept.current⟩
  | comma _ named =>
    have kept := holds.endName inherited named
    exact ⟨kept.outer, kept.current, kept.arguments⟩
  | blank _ _ named => exact holds.endName inherited named
  | plain => exact ⟨holds.outer, holds.current, holds.arguments⟩

theorem Holds.run {text : List Char} (holds : scan.Holds property)
    (inherited : IsInherited generics property) (ran : run generics scan text = .ok after) :
    after.Holds property := by
  induction text generalizing scan with
  | nil =>
    cases ran
    exact holds
  | cons c rest ih =>
    obtain ⟨middle, stepped, ran⟩ := bind_eq_ok_iff.mp ran
    exact ih (holds.step inherited stepped) ran

theorem Holds.result (holds : scan.Holds property) (inherited : IsInherited generics property)
    (made : result generics scan = .ok tag) : property tag := by
  unfold Scan.result at made
  split at made
  next => cases made
  next =>
    split at made
    next => exact inherited.of_ofName holds.arguments made
    next only types =>
      split at made
      next =>
        cases made
        have held := holds.current
        rw [types] at held
        exact held _ List.mem_cons_self
      next => cases made
    next => cases made

end Scan

/-- Whatever text is read, its type has the property. -/
theorem IsInherited.of_parse (inherited : IsInherited generics property) {text : String}
    (read : parse text generics = .ok tag) : property tag := by
  obtain ⟨scan, ran, made⟩ := bind_eq_ok_iff.mp (mapError_eq_ok_iff.mp read)
  exact (Scan.holds_start.run inherited ran).result inherited made

end Reading

end MoveWallet.TypeTag
