import MoveWallet.Proofs.Outcome
import MoveWallet.Proofs.TypeTag.Grammar

/-! # What the reader of types still expects

`Moves` is what one character does, and `finish` is what the reader makes of the rest of a text. A
name that is complete may be ended at once or later, so that the reader is only looked at between
names. An argument without a type never becomes a type: the count of its list stays behind.
-/

namespace MoveWallet.TypeTag

open Outcome

theorem ofName_nil (generics : Bool) (arguments : List TypeTag) :
    ofName generics arguments [] = .error .invalidTypeTag := rfl

namespace Scan

/-- The outcome of the rest of a text. -/
def finish (generics : Bool) (scan : Scan) (rest : List Char) :
    Except TypeTagErrorKind TypeTag :=
  scan.run generics rest >>= result generics

theorem parse_eq_ok_iff {text : String} {generics : Bool} {tag : TypeTag} :
    parse text generics = .ok tag ↔ finish generics start text.toList = .ok tag := by
  exact mapError_eq_ok_iff

variable {generics : Bool} {outer : List Level} {current level : Level} {expected : Nat}
  {name : List Char} {types arguments : List TypeTag} {c : Char} {rest : List Char}
  {tag : TypeTag}

/-! ## What a character does -/

/-- Ending a name keeps the levels around it. A name that has begun takes the arguments. -/
theorem endName_eq_ok_iff {scan after : Scan} : scan.endName generics = .ok after ↔
    (scan.current.name = [] ∧ scan = after) ∨
      ∃ made, scan.current.name ≠ [] ∧
        ofName generics scan.arguments scan.current.name = .ok made ∧
        ⟨scan.outer, ⟨scan.current.expected, [], scan.current.types ++ [made]⟩, []⟩ = after := by
  unfold endName
  by_cases named : scan.current.name = []
  · simp [named]
  · rw [if_neg (by simpa using named), bind_eq_ok_iff]
    simp [named]

/-- The state behind a character that is taken in front of some rest. -/
inductive Moves (generics : Bool) (scan : Scan) (rest : List Char) : Char → Scan → Prop
  | opening : Moves generics scan rest '<'
      ⟨scan.current :: scan.outer, ⟨1, [], []⟩, scan.arguments⟩
  | closing {ended : Scan} {level : Level} {outer : List Level}
    (named : scan.endName generics = .ok ended) (levels : ended.outer = level :: outer)
    (counted : ended.current.expected = ended.current.types.length) :
    Moves generics scan rest '>' ⟨outer, level, ended.current.types⟩
  | comma {ended : Scan} (inside : scan.outer ≠ []) (named : scan.endName generics = .ok ended) :
    Moves generics scan rest ','
      ⟨ended.outer, ⟨ended.current.expected + 1, ended.current.name, ended.current.types⟩,
        ended.arguments⟩
  | blank {c : Char} {ended : Scan} (isBlank : Text.isBlank c = true)
    (whole : scan.current.name = [] ∨ splitsName rest = false)
    (named : scan.endName generics = .ok ended) : Moves generics scan rest c ended
  | plain {c : Char} (solid : endsName c = false) : Moves generics scan rest c
      ⟨scan.outer, ⟨scan.current.expected, scan.current.name ++ [c], scan.current.types⟩,
        scan.arguments⟩

private theorem step_blank (scan : Scan) (blank : Text.isBlank c = true) :
    scan.step generics c rest =
      if ¬ scan.current.name.isEmpty ∧ splitsName rest then .error .unexpectedWhitespaceCharacter
      else scan.endName generics := by
  obtain ⟨notOpen, notClose, notComma⟩ := ne_of_isBlank blank
  unfold step
  rw [if_neg notOpen, if_neg notClose, if_neg notComma, if_pos blank]

private theorem step_plain (scan : Scan) (plain : endsName c = false) :
    scan.step generics c rest = .ok ⟨scan.outer, ⟨scan.current.expected,
      scan.current.name ++ [c], scan.current.types⟩, scan.arguments⟩ := by
  obtain ⟨notOpen, notClose, notComma, notBlank⟩ := ne_of_endsName plain
  unfold step
  rw [if_neg notOpen, if_neg notClose, if_neg notComma, if_neg (by simp [notBlank])]

private theorem close_eq_ok_iff {scan after : Scan} : scan.close = .ok after ↔
    ∃ level outer, scan.outer = level :: outer ∧
      scan.current.expected = scan.current.types.length ∧
      ⟨outer, level, scan.current.types⟩ = after := by
  unfold close
  cases scan.outer with
  | nil => simp
  | cons level outer =>
    by_cases counted : scan.current.expected = scan.current.types.length <;> simp [counted]

theorem step_eq_ok_iff {scan after : Scan} :
    scan.step generics c rest = .ok after ↔ Moves generics scan rest c after := by
  constructor
  · intro stepped
    rcases char_cases c with rfl | rfl | rfl | blank | plain
    · cases stepped
      exact .opening
    · obtain ⟨ended, named, closed⟩ := bind_eq_ok_iff.mp stepped
      obtain ⟨level, outer, levels, counted, rfl⟩ := close_eq_ok_iff.mp closed
      exact .closing named levels counted
    · change (if scan.outer.isEmpty then _ else _) = _ at stepped
      split at stepped
      next => cases stepped
      next inside =>
        obtain ⟨ended, named, stepped⟩ := bind_eq_ok_iff.mp stepped
        cases stepped
        exact .comma (by simpa using inside) named
    · rw [step_blank scan blank] at stepped
      split at stepped
      next => cases stepped
      next whole => exact .blank blank (by simpa [or_iff_not_imp_left] using whole) stepped
    · rw [step_plain scan plain] at stepped
      cases stepped
      exact .plain plain
  · intro moves
    cases moves with
    | opening => rfl
    | closing named levels counted =>
      exact bind_eq_ok_iff.mpr ⟨_, named, close_eq_ok_iff.mpr ⟨_, _, levels, counted, rfl⟩⟩
    | comma inside named =>
      change (if scan.outer.isEmpty then _ else _) = _
      rw [if_neg (by simpa using inside)]
      exact bind_eq_ok_iff.mpr ⟨_, named, rfl⟩
    | blank isBlank whole named =>
      rw [step_blank scan isBlank, if_neg]
      · exact named
      · simpa [or_iff_not_imp_left] using whole
    | plain solid => exact step_plain scan solid

/-! ## What the rest of a text gives -/

private theorem finish_nil (scan : Scan) : finish generics scan [] = result generics scan := rfl

theorem finish_cons (scan : Scan) : finish generics scan (c :: rest) =
    scan.step generics c rest >>= fun next => finish generics next rest := by
  unfold finish
  rw [run]
  cases scan.step generics c rest <;> rfl

theorem finish_open : finish generics ⟨outer, current, arguments⟩ ('<' :: rest) =
    finish generics ⟨current :: outer, ⟨1, [], []⟩, arguments⟩ rest := by
  rw [finish_cons]
  rfl

theorem finish_plain (plain : endsName c = false) :
    finish generics ⟨outer, ⟨expected, name, types⟩, arguments⟩ (c :: rest) =
      finish generics ⟨outer, ⟨expected, name ++ [c], types⟩, arguments⟩ rest := by
  rw [finish_cons, step_plain _ plain]
  rfl

theorem finish_name {others : List Char} (plain : ∀ c ∈ others, endsName c = false) :
    finish generics ⟨outer, ⟨expected, name, types⟩, arguments⟩ (others ++ rest) =
      finish generics ⟨outer, ⟨expected, name ++ others, types⟩, arguments⟩ rest := by
  induction others generalizing name with
  | nil => rw [List.nil_append, List.append_nil]
  | cons c others ih =>
    obtain ⟨first, plainOthers⟩ := List.forall_mem_cons.mp plain
    rw [List.cons_append, finish_plain first, ih plainOthers, List.append_assoc]
    rfl

section BetweenNames

theorem finish_blank (blank : Text.isBlank c = true) :
    finish generics ⟨outer, ⟨expected, [], types⟩, arguments⟩ (c :: rest) =
      finish generics ⟨outer, ⟨expected, [], types⟩, arguments⟩ rest := by
  rw [finish_cons, step_blank _ blank]
  rfl

theorem finish_allBlank {before : List Char} (blank : AllBlank before) :
    finish generics ⟨outer, ⟨expected, [], types⟩, arguments⟩ (before ++ rest) =
      finish generics ⟨outer, ⟨expected, [], types⟩, arguments⟩ rest := by
  induction before with
  | nil => rfl
  | cons c others ih =>
    obtain ⟨first, others⟩ := List.forall_mem_cons.mp blank
    rw [List.cons_append, finish_blank first, ih others]

theorem finish_comma :
    finish generics ⟨level :: outer, ⟨expected, [], types⟩, arguments⟩ (',' :: rest) =
      finish generics ⟨level :: outer, ⟨expected + 1, [], types⟩, arguments⟩ rest := by
  rw [finish_cons]
  rfl

theorem finish_comma_ne_ok : finish generics ⟨[], current, arguments⟩ (',' :: rest) ≠ .ok tag := by
  rw [finish_cons]
  exact nofun

theorem finish_close_iff :
    finish generics ⟨level :: outer, ⟨expected, [], types⟩, arguments⟩ ('>' :: rest) = .ok tag ↔
      expected = types.length ∧ finish generics ⟨outer, level, types⟩ rest = .ok tag := by
  rw [finish_cons]
  change (close ⟨level :: outer, ⟨expected, [], types⟩, arguments⟩ >>= _) = _ ↔ _
  unfold close
  by_cases counted : expected = types.length
  · simp [counted, bind, Except.bind]
  · simp [counted, bind, Except.bind]

theorem finish_close_ne_ok :
    finish generics ⟨[], ⟨expected, [], types⟩, arguments⟩ ('>' :: rest) ≠ .ok tag := by
  rw [finish_cons]
  exact nofun

theorem finish_end_iff : finish generics ⟨outer, ⟨expected, [], types⟩, arguments⟩ [] = .ok tag ↔
    outer = [] ∧ types = [tag] := by
  rw [finish_nil]
  cases outer with
  | cons level outer => simp [result]
  | nil =>
    rcases types with _ | ⟨first, _ | ⟨second, others⟩⟩
    · simp [result, ofName_nil]
    · simp [result]
    · simp [result]

end BetweenNames

theorem finish_split_ne_ok (named : name ≠ []) (blank : Text.isBlank c = true)
    (split : splitsName rest = true) :
    finish generics ⟨outer, ⟨expected, name, types⟩, arguments⟩ (c :: rest) ≠ .ok tag := by
  have filled : name.isEmpty = false := List.isEmpty_eq_false_iff.mpr named
  rw [finish_cons, step_blank _ blank, if_pos (by simp [filled, split])]
  exact nofun

/-- A complete name may be ended before what ends it. -/
theorem finish_endName_iff (named : name ≠ []) (ended : splitsName rest = false) :
    finish generics ⟨outer, ⟨expected, name, types⟩, arguments⟩ rest = .ok tag ↔
      ∃ made, ofName generics arguments name = .ok made ∧
        finish generics ⟨outer, ⟨expected, [], types ++ [made]⟩, []⟩ rest = .ok tag := by
  have endName_eq : endName generics ⟨outer, ⟨expected, name, types⟩, arguments⟩ =
      ofName generics arguments name >>= fun made =>
        .ok ⟨outer, ⟨expected, [], types ++ [made]⟩, []⟩ := by
    have filled : name.isEmpty = false := List.isEmpty_eq_false_iff.mpr named
    simp [endName, filled]
  cases rest with
  | nil =>
    simp only [finish_end_iff]
    cases outer with
    | nil =>
      -- behind other types a name is one too many, ended or not
      rcases types with _ | ⟨first, _ | ⟨second, others⟩⟩
      · simp [finish_nil, result]
      · simp [finish_nil, result, named]
      · simp [finish_nil, result]
    | cons level outer => simp [finish_nil, result]
  | cons c rest =>
    rcases char_cases c with rfl | rfl | rfl | blank | plain
    · cases ended
    · have closes (scan : Scan) :
          scan.step generics '>' rest = scan.endName generics >>= close := rfl
      simp only [finish_cons, closes, endName_eq, bind_assoc]
      exact bind_eq_ok_iff
    · cases outer with
      | nil => simp [finish_comma_ne_ok]
      | cons level outer =>
        have divides (current : Level) (arguments : List TypeTag) :
            step generics ⟨level :: outer, current, arguments⟩ ',' rest =
              endName generics ⟨level :: outer, current, arguments⟩ >>= fun scan => .ok { scan with
                current := { scan.current with expected := scan.current.expected + 1 } } := rfl
        simp only [finish_cons, divides, endName_eq, bind_assoc]
        exact bind_eq_ok_iff
    · rw [splitsName_blank blank] at ended
      have ends (scan : Scan) : scan.step generics c rest = scan.endName generics := by
        simp [step_blank scan blank, ended]
      simp only [finish_cons, ends, endName_eq, bind_assoc]
      exact bind_eq_ok_iff
    · rw [splitsName_plain plain] at ended
      cases ended

/-- A list of arguments has fewer types than it can still get. -/
inductive Behind : List Level → Prop
  | current {level above : Level} {outer : List Level}
    (short : level.types.length + 1 < level.expected) : Behind (level :: above :: outer)
  | outer {level : Level} {outer : List Level} (late : Behind outer) : Behind (level :: outer)

/-- The current level needs one more type. -/
def Unfilled (expected : Nat) (types : List TypeTag) : List Level → Prop
  | [] => types = []
  | _ :: _ => types.length < expected

/-- A state from which no text leads to a type: a list is behind, or a type must end here that has
no name. -/
inductive Stuck : Scan → List Char → Prop
  | behind {outer : List Level} {current : Level} {arguments : List TypeTag} {rest : List Char}
    (late : Behind (current :: outer)) : Stuck ⟨outer, current, arguments⟩ rest
  | unnamed {outer : List Level} {expected : Nat} {types arguments : List TypeTag}
    {rest : List Char} (unfilled : Unfilled expected types outer)
    (ended : splitsName rest = false) : Stuck ⟨outer, ⟨expected, [], types⟩, arguments⟩ rest

private theorem Behind.ne_nil {current : Level} {outer : List Level}
    (late : Behind (current :: outer)) : outer ≠ [] := by
  cases late with
  | current => exact List.cons_ne_nil _ _
  | outer late =>
    rintro rfl
    cases late

/-- The name that is being read does not count. -/
private theorem Behind.rename {outer : List Level}
    (late : Behind (⟨expected, name, types⟩ :: outer))
    (other : List Char) : Behind (⟨expected, other, types⟩ :: outer) := by
  cases late with
  | current short => exact .current short
  | outer late => exact .outer late

/-- Ending a name adds one type, which does not bring a list that is behind further than one type
short of its end. -/
theorem Behind.endName {outer : List Level} {made : TypeTag}
    (late : Behind (⟨expected, name, types⟩ :: outer)) (ended : splitsName rest = false) :
    Stuck ⟨outer, ⟨expected, [], types ++ [made]⟩, arguments⟩ rest := by
  cases late with
  | current short =>
    refine .unnamed ?_ ended
    change (types ++ [made]).length < expected
    rw [List.length_append]
    exact short
  | outer late => exact .behind (.outer late)

private theorem Stuck.finish_nil_ne_ok {scan : Scan} (stuck : Stuck scan []) :
    finish generics scan [] ≠ .ok tag := by
  cases stuck with
  | behind late =>
    obtain ⟨level, outer, rfl⟩ := List.exists_cons_of_ne_nil late.ne_nil
    exact nofun
  | unnamed unfilled _ =>
    rw [Ne, finish_end_iff]
    rintro ⟨rfl, rfl⟩
    cases unfilled

/-- Between names a comma leaves the list further behind, and a bracket cannot close it. -/
private theorem Stuck.finish_between_ne_ok
    (ih : ∀ {scan : Scan}, Stuck scan rest → finish generics scan rest ≠ .ok tag)
    (stuck : Stuck ⟨outer, ⟨expected, [], types⟩, arguments⟩ (c :: rest)) :
    finish generics ⟨outer, ⟨expected, [], types⟩, arguments⟩ (c :: rest) ≠ .ok tag := by
  rcases char_cases c with rfl | rfl | rfl | blank | plain
  · cases stuck with
    | behind late =>
      rw [finish_open]
      exact ih (.behind (.outer late))
    | unnamed _ ended => cases ended
  · cases outer with
    | nil => exact finish_close_ne_ok
    | cons level outer =>
      rw [Ne, finish_close_iff]
      rintro ⟨counted, closed⟩
      cases stuck with
      | behind late =>
        cases late with
        | current short =>
          change types.length + 1 < expected at short
          omega
        | outer late => exact ih (.behind late) closed
      | unnamed unfilled _ => exact absurd counted (Nat.ne_of_gt unfilled)
  · cases outer with
    | nil => exact finish_comma_ne_ok
    | cons level outer =>
      rw [finish_comma]
      refine ih (.behind ?_)
      cases stuck with
      | behind late =>
        cases late with
        | current short => exact .current (Nat.lt_succ_of_lt short)
        | outer late => exact .outer late
      | unnamed unfilled _ => exact .current (Nat.succ_lt_succ unfilled)
  · rw [finish_blank blank]
    cases stuck with
    | behind late => exact ih (.behind late)
    | unnamed unfilled ended => exact ih (.unnamed unfilled (splitsName_blank blank ▸ ended))
  · cases stuck with
    | behind late =>
      rw [finish_plain plain]
      exact ih (.behind (late.rename _))
    | unnamed _ ended =>
      rw [splitsName_plain plain] at ended
      cases ended

theorem Stuck.finish_ne_ok {scan : Scan} (stuck : Stuck scan rest) :
    finish generics scan rest ≠ .ok tag := by
  induction rest generalizing scan with
  | nil => exact stuck.finish_nil_ne_ok
  | cons c rest ih =>
    obtain ⟨outer, ⟨expected, name, types⟩, arguments⟩ := scan
    by_cases named : name = []
    · subst named
      exact finish_between_ne_ok ih stuck
    cases stuck with
    | unnamed => exact absurd rfl named
    | behind late =>
      by_cases ended : splitsName (c :: rest) = false
      · rw [Ne, finish_endName_iff named ended]
        rintro ⟨made, -, finished⟩
        exact finish_between_ne_ok ih (late.endName ended) finished
      -- only an opening bracket and another character of the name do not end it
      rcases char_cases c with rfl | rfl | rfl | blank | plain
      · rw [finish_open]
        exact ih (.behind (.outer late))
      · exact absurd rfl ended
      · exact absurd rfl ended
      · rw [splitsName_blank blank, Bool.not_eq_false] at ended
        exact finish_split_ne_ok named blank ended
      · rw [finish_plain plain]
        exact ih (.behind (late.rename _))

end Scan

end MoveWallet.TypeTag
