import MoveWallet.Proofs.TypeTag.Scan

/-! # Blanks that change nothing

Blanks may be put at the ends of the text of a type, behind an opening bracket or a comma, and in
front of a comma or a closing bracket. No name has begun there, or one ends there: blanks end it
before what follows them does. Two texts that differ in such blanks are thus read alike.
-/

namespace MoveWallet.TypeTag

open Outcome

/-- The neighbours behind which no name has begun; at the start of a text there is none. -/
def Opens (previous : Option Char) : Prop :=
  previous = none ∨ previous = some '<' ∨ previous = some ','

/-- The neighbours in front of which a name ends; at the end of a text there is none. -/
def Ends (next : Option Char) : Prop := next = none ∨ next = some ',' ∨ next = some '>'

/-- A text with blanks put at its ends, behind `<` and `,`, and in front of `,` and `>`. What is in
front of the text decides on blanks at its start. -/
inductive Respaced : (previous : Option Char) → (text respaced : List Char) → Prop
  | nil {previous : Option Char} {blanks : List Char} (blank : AllBlank blanks) :
    Respaced previous [] blanks
  | cons {previous : Option Char} {c : Char} {blanks rest respaced : List Char}
    (blank : AllBlank blanks) (gap : blanks = [] ∨ Opens previous ∨ Ends (some c))
    (others : Respaced (some c) rest respaced) :
    Respaced previous (c :: rest) (blanks ++ c :: respaced)

namespace Respaced

variable {previous : Option Char} {c : Char} {rest respaced : List Char}

/-- Up to some character nothing is put in. -/
private theorem prepend (front : List Char) (others : Respaced (some c) rest respaced) :
    Respaced previous (front ++ c :: rest) (front ++ c :: respaced) := by
  induction front generalizing previous with
  | nil => exact .cons (List.forall_mem_nil _) (.inl rfl) others
  | cons first front ih => exact .cons (List.forall_mem_nil _) (.inl rfl) ih

/-- What follows a run of blanks stays the same. -/
private theorem splitsName_eq {text : List Char} (spaced : Respaced previous text respaced) :
    Scan.splitsName respaced = Scan.splitsName text := by
  induction spaced with
  | @nil _ blanks blank =>
    have ended : Scan.splitsName (blanks ++ []) = Scan.splitsName [] :=
      Scan.splitsName_allBlank blank
    rwa [List.append_nil] at ended
  | @cons _ c blanks rest respaced blank _ _ ih =>
    rw [Scan.splitsName_allBlank blank]
    rcases char_cases c with rfl | rfl | rfl | blank | plain
    · rfl
    · rfl
    · rfl
    · rw [Scan.splitsName_blank blank, Scan.splitsName_blank blank, ih]
    · rw [Scan.splitsName_plain plain, Scan.splitsName_plain plain]

end Respaced

namespace Scan

variable {generics : Bool} {c : Char} {rest : List Char} {tag : TypeTag} {scan after : Scan}

private theorem name_of_endName (ended : scan.endName generics = .ok after) :
    after.current.name = [] := by
  rcases endName_eq_ok_iff.mp ended with ⟨unnamed, rfl⟩ | ⟨made, -, -, rfl⟩
  · exact unnamed
  · rfl

/-- Behind an opening bracket and a comma no name has begun. -/
private theorem name_of_step (opens : Opens (some c))
    (stepped : scan.step generics c rest = .ok after) : after.current.name = [] := by
  rcases opens with absent | bracket | comma
  · cases absent
  · cases bracket
    cases step_eq_ok_iff.mp stepped with
    | opening => rfl
    | blank isBlank => cases isBlank
    | plain solid => cases solid
  · cases comma
    cases step_eq_ok_iff.mp stepped with
    | @comma ended _ named =>
      have unnamed : ended.current.name = [] := name_of_endName named
      exact unnamed
    | blank isBlank => cases isBlank
    | plain solid => cases solid

/-- The rest of the text counts in a step only by what follows the next blanks. -/
private theorem step_congr {other : List Char} (same : splitsName rest = splitsName other) :
    scan.step generics c rest = scan.step generics c other := by
  unfold step
  rw [same]

/-- Blanks where no name has begun or one ends. -/
private theorem finish_blanks_iff {blanks : List Char} (blank : AllBlank blanks)
    (apart : scan.current.name = [] ∨ splitsName rest = false) :
    finish generics scan (blanks ++ rest) = .ok tag ↔ finish generics scan rest = .ok tag := by
  obtain ⟨outer, ⟨expected, name, types⟩, arguments⟩ := scan
  by_cases named : name = []
  · subst named
    rw [finish_allBlank blank]
  · have ended := apart.resolve_left named
    have endedLater : splitsName (blanks ++ rest) = false := by rwa [splitsName_allBlank blank]
    rw [finish_endName_iff named ended, finish_endName_iff named endedLater]
    simp only [finish_allBlank blank]

/-- Both texts are read alike, from any state that agrees with what is in front of them. -/
theorem finish_respaced_iff {previous : Option Char} {text respaced : List Char}
    (spaced : Respaced previous text respaced) (fresh : Opens previous → scan.current.name = []) :
    finish generics scan respaced = .ok tag ↔ finish generics scan text = .ok tag := by
  induction spaced generalizing scan with
  | @nil _ blanks blank =>
    have ends : finish generics scan (blanks ++ []) = .ok tag ↔ finish generics scan [] = .ok tag :=
      finish_blanks_iff blank (.inr splitsName_nil)
    rwa [List.append_nil] at ends
  | @cons previous c blanks rest respaced blank gap others ih =>
    have later : finish generics scan (c :: respaced) = .ok tag ↔
        finish generics scan (c :: rest) = .ok tag := by
      rw [finish_cons, finish_cons, step_congr others.splitsName_eq, bind_eq_ok_iff,
        bind_eq_ok_iff]
      refine exists_congr fun next => and_congr_right fun stepped => ?_
      exact ih fun opens => name_of_step opens stepped
    rw [← later]
    rcases gap with rfl | opens | ends
    · rfl
    · exact finish_blanks_iff blank (.inl (fresh opens))
    · refine finish_blanks_iff blank (.inr ?_)
      rcases ends with absent | comma | bracket
      · cases absent
      · cases comma
        rfl
      · cases bracket
        rfl

end Scan

/-- Blanks that are put at the ends of a text, behind `<` and `,` or in front of `,` and `>` do not
change what type it is read as, nor whether it is read. -/
theorem parse_respaced_iff {text respaced : String}
    (spaced : Respaced none text.toList respaced.toList) (generics : Bool) (tag : TypeTag) :
    parse respaced generics = .ok tag ↔ parse text generics = .ok tag := by
  rw [Scan.parse_eq_ok_iff, Scan.parse_eq_ok_iff]
  exact Scan.finish_respaced_iff spaced fun _ => rfl

/-- A structure with two arguments, one of them a vector of a placeholder. -/
def tightText : String := "0x1::a::B<u8,vector<T0>>"

/-- The text with blanks of several kinds in its gaps. -/
def wideText : String := "\t0x1::a::B< u8\u3000,\nvector<T0 > > "

private theorem respaced_wideText : Respaced none tightText.toList wideText.toList := by
  have blank (c : Char) (isBlank : Text.isBlank c = true) : AllBlank [c] :=
    List.forall_mem_singleton.mpr isBlank
  have close : Ends (some '>') := .inr (.inr rfl)
  have last : Respaced (some '>') [] [' '] := .nil (blank ' ' rfl)
  have brackets : Respaced (some '0') ['>', '>'] (" > > ".toList) :=
    .cons (blank ' ' rfl) (.inr (.inr close)) (.cons (blank ' ' rfl) (.inr (.inr close)) last)
  have second : Respaced (some ',') ("vector<T0>>".toList) ("\nvector<T0 > > ".toList) :=
    .cons (blank '\n' rfl) (.inr (.inl (.inr (.inr rfl)))) (.prepend "ector<T".toList brackets)
  have first : Respaced (some '<') ("u8,vector<T0>>".toList)
      (" u8\u3000,\nvector<T0 > > ".toList) := by
    refine .cons (blank ' ' rfl) (.inr (.inl (.inr (.inl rfl)))) ?_
    refine .cons (List.forall_mem_nil _) (.inl rfl) ?_
    exact .cons (blank '\u3000' rfl) (.inr (.inr (.inr (.inl rfl)))) second
  exact .cons (blank '\t' rfl) (.inr (.inl (.inl rfl))) (.prepend "x1::a::B".toList first)

theorem parse_respaced_wideText :
    Respaced none tightText.toList wideText.toList ∧
      parse wideText true = .ok (.struct .one ⟨"a", by decide⟩ ⟨"B", by decide⟩
        [.u8, .vector (.generic 0)]) := by
  refine ⟨respaced_wideText, (parse_respaced_iff respaced_wideText true _).mpr ?_⟩
  rfl

end MoveWallet.TypeTag
