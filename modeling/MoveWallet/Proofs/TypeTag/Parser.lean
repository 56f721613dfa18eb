import MoveWallet.Proofs.TypeTag.Scan

/-! # The reader of types against the grammar

Every text of the grammar is read as the type that it denotes. The reader also takes other texts:
one that goes on behind an argument list, and one with arguments behind a placeholder, which are
lost. On orderly texts it takes the grammar and nothing else.
-/

namespace MoveWallet.TypeTag

open Outcome

variable {generics : Bool} {name body rest : List Char} {arguments types : List TypeTag}
  {tag : TypeTag}

theorem ofName_ampersand_eq_ok_iff : ofName generics arguments ('&' :: name) = .ok tag ↔
    ∃ referent, ofName generics arguments name = .ok referent ∧ tag = .reference referent := by
  rw [ofName]
  cases ofName generics arguments name <;> simp [Functor.map, Except.map, eq_comm]

theorem ofName_cons {c : Char} (other : c ≠ '&') :
    ofName generics arguments (c :: rest) = ofPlainName generics arguments (c :: rest) := by
  rw [ofName]
  rintro _ same
  exact other (List.cons.inj same).1

private theorem ofName_of_noAmpersand (plain : '&' ∉ name) :
    ofName generics arguments name = ofPlainName generics arguments name := by
  cases name with
  | nil => rfl
  | cons c rest => exact ofName_cons (List.ne_of_not_mem_cons plain).symm

private theorem name_ne_nil (made : ofName generics arguments name = .ok tag) : name ≠ [] := by
  rintro rfl
  rw [ofName_nil] at made
  cases made

/-! ## Texts of the grammar are read -/

/-- Some text is read like a name with arguments that form a type. -/
def Reads (generics : Bool) (body : List Char) (tag : TypeTag) : Prop :=
  ∃ name arguments, ofName generics arguments name = .ok tag ∧
    ∀ outer expected front types rest whole,
      Scan.finish generics ⟨outer, ⟨expected, front, types⟩, []⟩ (body ++ rest) = .ok whole ↔
        Scan.finish generics ⟨outer, ⟨expected, front ++ name, types⟩, arguments⟩ rest = .ok whole

namespace Scan

variable {outer : List Level} {level : Level} {expected : Nat} {whole : TypeTag}

private theorem finish_spaced_iff {spaced : Spaced} (padded : spaced.IsPadded)
    (reads : Reads generics spaced.body spaced.tag) (ended : splitsName rest = false) :
    finish generics ⟨outer, ⟨expected, [], types⟩, []⟩ (spaced.text ++ rest) = .ok whole ↔
      finish generics ⟨outer, ⟨expected, [], types ++ [spaced.tag]⟩, []⟩ rest = .ok whole := by
  obtain ⟨name, arguments, made, reads⟩ := reads
  have endedAfter : splitsName (spaced.after ++ rest) = false := by
    rwa [splitsName_allBlank padded.after]
  rw [Spaced.text, List.append_assoc, List.append_assoc, finish_allBlank padded.before, reads,
    List.nil_append, finish_endName_iff (name_ne_nil made) endedAfter, made]
  simp [finish_allBlank padded.after]

private theorem finish_moreText_iff {others : List Spaced}
    (padded : ∀ spaced ∈ others, spaced.IsPadded)
    (reads : ∀ spaced ∈ others, Reads generics spaced.body spaced.tag)
    (counted : expected = types.length) :
    finish generics ⟨level :: outer, ⟨expected, [], types⟩, []⟩
        (Spaced.moreText others ++ '>' :: rest) = .ok whole ↔
      finish generics ⟨outer, level, types ++ others.map (·.tag)⟩ rest = .ok whole := by
  induction others generalizing expected types with
  | nil =>
    rw [Spaced.moreText_nil, List.nil_append, finish_close_iff, List.map_nil, List.append_nil]
    exact and_iff_right counted
  | cons spaced others ih =>
    obtain ⟨padded, paddedOthers⟩ := List.forall_mem_cons.mp padded
    obtain ⟨reads, readsOthers⟩ := List.forall_mem_cons.mp reads
    have ended : splitsName (Spaced.moreText others ++ '>' :: rest) = false :=
      splitsName_moreText rfl
    rw [Spaced.moreText_cons, List.cons_append, finish_comma, List.append_assoc,
      finish_spaced_iff padded reads ended, ih paddedOthers readsOthers (by simp [counted]),
      List.map_cons, List.append_assoc, List.singleton_append]

end Scan

private theorem reads_name (plain : ∀ c ∈ name, endsName c = false)
    (made : ofName generics [] name = .ok tag) : Reads generics name tag :=
  ⟨name, [], made, fun _ _ _ _ _ _ => by rw [Scan.finish_name plain]⟩

private theorem reads_arguments (first : Spaced) (others : List Spaced)
    (plain : ∀ c ∈ name, endsName c = false)
    (made : ofName generics ((first :: others).map (·.tag)) name = .ok tag)
    (padded : ∀ spaced ∈ first :: others, spaced.IsPadded)
    (reads : ∀ spaced ∈ first :: others, Reads generics spaced.body spaced.tag) :
    Reads generics (name ++ '<' :: (first.text ++ Spaced.moreText others ++ ['>'])) tag := by
  refine ⟨name, _, made, fun outer expected front types rest whole => ?_⟩
  obtain ⟨paddedFirst, paddedOthers⟩ := List.forall_mem_cons.mp padded
  obtain ⟨readsFirst, readsOthers⟩ := List.forall_mem_cons.mp reads
  have text : name ++ '<' :: (first.text ++ Spaced.moreText others ++ ['>']) ++ rest =
      name ++ '<' :: (first.text ++ (Spaced.moreText others ++ '>' :: rest)) := by simp
  have ended : Scan.splitsName (Spaced.moreText others ++ '>' :: rest) = false :=
    Scan.splitsName_moreText rfl
  have counted : 1 = [first.tag].length := rfl
  rw [text, Scan.finish_name plain, Scan.finish_open,
    Scan.finish_spaced_iff paddedFirst readsFirst ended, List.nil_append,
    Scan.finish_moreText_iff paddedOthers readsOthers counted]
  rfl

theorem Denotes.reads (denotes : Denotes generics body tag) : Reads generics body tag := by
  induction denotes with
  | reference _ ih =>
    obtain ⟨name, arguments, made, reads⟩ := ih
    refine ⟨'&' :: name, arguments, ofName_ampersand_eq_ok_iff.mpr ⟨_, made, rfl⟩, ?_⟩
    intro outer expected front types rest whole
    rw [List.cons_append, Scan.finish_plain rfl, reads, List.append_assoc]
    rfl
  | primitive named =>
    apply reads_name named.isPiece.unbroken
    rw [ofName_of_noAmpersand named.isPiece.noAmpersand]
    exact ofPlainName_eq_ok_iff.mpr (.inr (.inl ⟨named, rfl⟩))
  | generic allowed named =>
    apply reads_name named.isPiece.unbroken
    rw [ofName_of_noAmpersand named.isPiece.noAmpersand]
    exact ofPlainName_eq_ok_iff.mpr (.inr (.inr (.inl ⟨allowed, _, named, rfl⟩)))
  | @vector name element named padded _ ih =>
    have made : ofName generics [element.tag] name = .ok (.vector element.tag) := by
      rw [ofName_of_noAmpersand named.isPiece.noAmpersand]
      exact ofPlainName_eq_ok_iff.mpr (.inl ⟨named, _, rfl, rfl⟩)
    have single := reads_arguments element [] named.isPiece.unbroken made
      (List.forall_mem_singleton.mpr padded) (List.forall_mem_singleton.mpr ih)
    rwa [Spaced.moreText_nil, List.append_nil] at single
  | struct parts =>
    apply reads_name (isPath_unbroken parts)
    rw [ofName_of_noAmpersand parts.noAmpersand]
    exact ofPlainName_eq_ok_iff.mpr (.inr (.inr (.inr ⟨_, _, _, parts, rfl⟩)))
  | applied parts padded _ ih =>
    refine reads_arguments _ _ (isPath_unbroken parts) ?_ padded ih
    rw [ofName_of_noAmpersand parts.noAmpersand]
    exact ofPlainName_eq_ok_iff.mpr (.inr (.inr (.inr ⟨_, _, _, parts, rfl⟩)))

theorem Spells.parse {text : String} (spells : Spells generics text tag) :
    parse text generics = .ok tag := by
  obtain ⟨spaced, same, padded, denotes, rfl⟩ := spells
  rw [Scan.parse_eq_ok_iff, ← same, ← List.append_nil spaced.text]
  refine (Scan.finish_spaced_iff padded denotes.reads Scan.splitsName_nil).mpr ?_
  exact Scan.finish_end_iff.mpr ⟨rfl, rfl⟩

/-! ## Orderly texts that are read belong to the grammar -/

private theorem denotes_of_ofName (made : ofName generics [] name = .ok tag) :
    Denotes generics name tag := by
  induction name generalizing tag with
  | nil => cases made
  | cons c rest ih =>
    by_cases ampersand : c = '&'
    · subst ampersand
      obtain ⟨referent, referred, rfl⟩ := ofName_ampersand_eq_ok_iff.mp made
      exact .reference (ih referred)
    · rw [ofName_cons ampersand] at made
      rcases ofPlainName_eq_ok_iff.mp made with ⟨-, element, none, -⟩ | ⟨primitive, -⟩ |
        ⟨allowed, index, generic, rfl⟩ | ⟨account, moduleName, last, parts, rfl⟩
      · cases none
      · exact .primitive primitive
      · exact .generic allowed generic
      · exact .struct parts

/-- No placeholder stands in front of the arguments, so that none of them is lost. -/
private theorem denotes_of_ofName_arguments (first : Spaced) {others : List Spaced}
    (made : ofName generics ((first :: others).map (·.tag)) name = .ok tag)
    (kept : genericDigits? (name.dropWhile (· = '&')) = none)
    (padded : ∀ spaced ∈ first :: others, spaced.IsPadded)
    (inner : ∀ spaced ∈ first :: others, Denotes generics spaced.body spaced.tag) :
    Denotes generics (name ++ '<' :: (first.text ++ Spaced.moreText others ++ ['>'])) tag := by
  induction name generalizing tag with
  | nil => cases made
  | cons c rest ih =>
    by_cases ampersand : c = '&'
    · subst ampersand
      obtain ⟨referent, referred, rfl⟩ := ofName_ampersand_eq_ok_iff.mp made
      exact .reference (ih referred kept)
    · rw [ofName_cons ampersand] at made
      rw [List.dropWhile_cons_of_neg (by simpa using ampersand)] at kept
      rcases ofPlainName_eq_ok_iff.mp made with ⟨vector, element, one, rfl⟩ | ⟨-, none⟩ |
        ⟨-, index, generic, -⟩ | ⟨account, moduleName, last, parts, rfl⟩
      · obtain ⟨rfl, none⟩ := List.cons.inj one
        obtain rfl := List.map_eq_nil_iff.mp none
        rw [Spaced.moreText_nil, List.append_nil]
        exact .vector vector (padded first List.mem_cons_self) (inner first List.mem_cons_self)
      · cases none
      · obtain ⟨digits, -, same, filled, all, -⟩ := generic
        rw [genericDigits?_eq_some_iff.mpr ⟨same, filled, all⟩] at kept
        cases kept
      · exact .applied parts padded inner

/-- What the levels around a complete type expect: more arguments and a bracket for each of them,
and only blanks when none is left. -/
def Closes (generics : Bool) : List Level → List TypeTag → List Char → TypeTag → Prop
  | [], types, rest, tag => types = [tag] ∧ AllBlank rest
  | level :: outer, types, rest, tag => ∃ after others behind made, AllBlank after ∧
      (∀ spaced ∈ others, spaced.IsPadded) ∧
      (∀ spaced ∈ others, Denotes generics spaced.body spaced.tag) ∧
      rest = after ++ (Spaced.moreText others ++ '>' :: behind) ∧
      ofName generics (types ++ others.map (·.tag)) level.name = .ok made ∧
      Closes generics outer (level.types ++ [made]) behind tag

/-- A type that has begun is completed, and so are the levels around it. -/
def Completes (generics : Bool) (outer : List Level) (types : List TypeTag) (front : List Char)
    (rest : List Char) (tag : TypeTag) : Prop :=
  ∃ body behind made, Denotes generics (front ++ body) made ∧ rest = body ++ behind ∧
    Closes generics outer (types ++ [made]) behind tag

/-- All types before the current one are complete, at every level. -/
def Open (expected : Nat) (types : List TypeTag) : List Level → Prop
  | [] => types = []
  | level :: outer => expected = types.length + 1 ∧ Open level.expected level.types outer

/-- The current type is complete too. -/
def Full (expected : Nat) (types : List TypeTag) : List Level → Prop
  | [] => True
  | level :: outer => expected = types.length ∧ Open level.expected level.types outer

section Levels

variable {outer : List Level} {level : Level} {expected : Nat} {c : Char} {whole : TypeTag}

theorem Open.unfilled (opened : Open expected types outer) :
    Scan.Unfilled expected types outer := by
  cases outer with
  | nil => exact opened
  | cons level outer => exact Nat.lt_of_succ_le (Nat.le_of_eq opened.1.symm)

theorem Open.full (opened : Open expected types outer) (made : TypeTag) :
    Full expected (types ++ [made]) outer := by
  cases outer with
  | nil => trivial
  | cons level outer =>
    obtain ⟨counted, opened⟩ := opened
    exact ⟨by rw [counted, List.length_append, List.length_singleton], opened⟩

theorem Closes.blank (blank : Text.isBlank c = true)
    (closes : Closes generics outer types rest whole) :
    Closes generics outer types (c :: rest) whole := by
  cases outer with
  | nil => exact ⟨closes.1, List.forall_mem_cons.mpr ⟨blank, closes.2⟩⟩
  | cons level outer =>
    obtain ⟨after, others, behind, made, afterBlank, padded, inner, rfl, named, closes⟩ := closes
    exact ⟨c :: after, others, behind, made, List.forall_mem_cons.mpr ⟨blank, afterBlank⟩, padded,
      inner, rfl, named, closes⟩

theorem Closes.comma {before : List Char} (blank : AllBlank before)
    (completes : Completes generics (level :: outer) types [] rest whole) :
    Closes generics (level :: outer) types (',' :: (before ++ rest)) whole := by
  obtain ⟨body, _, tag, denotes, rfl, after, others, behind, made, afterBlank, padded, inner, rfl,
    named, closes⟩ := completes
  refine ⟨[], ⟨before, body, after, tag⟩ :: others, behind, made, List.forall_mem_nil _, ?_, ?_, ?_,
    ?_, closes⟩
  · exact List.forall_mem_cons.mpr ⟨⟨blank, afterBlank⟩, padded⟩
  · exact List.forall_mem_cons.mpr ⟨denotes, inner⟩
  · simp [Spaced.moreText_cons, Spaced.text]
  · simpa using named

/-- What a text must be that is read to its end, from each kind of state. -/
structure Expects (generics : Bool) (rest : List Char) : Prop where
  ended {outer : List Level} {expected : Nat} {types : List TypeTag} {whole : TypeTag}
    (read : Scan.finish generics ⟨outer, ⟨expected, [], types⟩, []⟩ rest = .ok whole)
    (full : Full expected types outer) (past : Scan.splitsName rest = false)
    (orderly : isOrderly [] rest = true) : Closes generics outer types rest whole
  fresh {outer : List Level} {expected : Nat} {types : List TypeTag} {whole : TypeTag}
    (read : Scan.finish generics ⟨outer, ⟨expected, [], types⟩, []⟩ rest = .ok whole)
    (opened : Open expected types outer) (orderly : isOrderly [] rest = true) :
    ∃ before behind, AllBlank before ∧ rest = before ++ behind ∧
      Completes generics outer types [] behind whole
  named {outer : List Level} {expected : Nat} {name : List Char} {types : List TypeTag}
    {whole : TypeTag}
    (read : Scan.finish generics ⟨outer, ⟨expected, name, types⟩, []⟩ rest = .ok whole)
    (begun : name ≠ []) (opened : Open expected types outer)
    (orderly : isOrderly name rest = true) : Completes generics outer types name rest whole

/-- A bracket closes the level, and the name in front of it takes the arguments. -/
theorem Expects.close (expects : Expects generics rest)
    (read : Scan.finish generics ⟨level :: outer, ⟨expected, [], types⟩, []⟩ ('>' :: rest) =
      .ok whole)
    (full : Full expected types (level :: outer)) (orderly : isOrderly [] ('>' :: rest) = true) :
    Closes generics (level :: outer) types ('>' :: rest) whole := by
  obtain ⟨outerExpected, name, outerTypes⟩ := level
  rw [isOrderly_close, Bool.and_eq_true, Bool.not_eq_true'] at orderly
  obtain ⟨ended, orderly⟩ := orderly
  obtain ⟨-, read⟩ := Scan.finish_close_iff.mp read
  have begun : name ≠ [] := by
    rintro rfl
    exact Scan.Stuck.finish_ne_ok (.unnamed full.2.unfilled ended) read
  obtain ⟨made, taken, read⟩ := (Scan.finish_endName_iff begun ended).mp read
  refine ⟨[], [], rest, made, List.forall_mem_nil _, List.forall_mem_nil _, List.forall_mem_nil _,
    rfl, ?_, expects.ended read (full.2.full made) ended orderly⟩
  rw [List.map_nil, List.append_nil]
  exact taken

private theorem Expects.ended_cons (expects : Expects generics rest)
    (read : Scan.finish generics ⟨outer, ⟨expected, [], types⟩, []⟩ (c :: rest) = .ok whole)
    (full : Full expected types outer) (past : Scan.splitsName (c :: rest) = false)
    (orderly : isOrderly [] (c :: rest) = true) :
    Closes generics outer types (c :: rest) whole := by
  rcases char_cases c with rfl | rfl | rfl | blank | plain
  · cases past
  · cases outer with
    | nil => exact absurd read Scan.finish_close_ne_ok
    | cons level outer => exact expects.close read full orderly
  · cases outer with
    | nil => exact absurd read Scan.finish_comma_ne_ok
    | cons level outer =>
      rw [Scan.finish_comma] at read
      rw [isOrderly_comma] at orderly
      have opened : Open (expected + 1) types (level :: outer) :=
        ⟨congrArg (· + 1) full.1, full.2⟩
      obtain ⟨before, behind, beforeBlank, rfl, completes⟩ := expects.fresh read opened orderly
      exact .comma beforeBlank completes
  · rw [Scan.finish_blank blank] at read
    rw [isOrderly_blank blank] at orderly
    rw [Scan.splitsName_blank blank] at past
    exact .blank blank (expects.ended read full past orderly)
  · rw [Scan.splitsName_plain plain] at past
    cases past

private theorem Expects.fresh_cons (expects : Expects generics rest)
    (read : Scan.finish generics ⟨outer, ⟨expected, [], types⟩, []⟩ (c :: rest) = .ok whole)
    (opened : Open expected types outer) (orderly : isOrderly [] (c :: rest) = true) :
    ∃ before behind, AllBlank before ∧ c :: rest = before ++ behind ∧
      Completes generics outer types [] behind whole := by
  rcases char_cases c with rfl | rfl | rfl | blank | plain
  · -- arguments without a name in front of them
    rw [Scan.finish_open] at read
    rw [isOrderly_open, Bool.and_eq_true] at orderly
    obtain ⟨_, _, -, -, _, _, _, -, -, _, _, _, _, -, -, -, -, named, -⟩ :=
      expects.fresh read ⟨rfl, opened⟩ orderly.2
    exact absurd rfl (name_ne_nil named)
  · exact absurd read (Scan.Stuck.finish_ne_ok (.unnamed opened.unfilled rfl))
  · exact absurd read (Scan.Stuck.finish_ne_ok (.unnamed opened.unfilled rfl))
  · rw [Scan.finish_blank blank] at read
    rw [isOrderly_blank blank] at orderly
    obtain ⟨before, behind, beforeBlank, rfl, completes⟩ := expects.fresh read opened orderly
    exact ⟨c :: before, behind, List.forall_mem_cons.mpr ⟨blank, beforeBlank⟩, rfl, completes⟩
  · rw [Scan.finish_plain plain] at read
    rw [isOrderly_plain plain] at orderly
    obtain ⟨body, behind, made, denotes, rfl, closes⟩ :=
      expects.named read (List.cons_ne_nil _ _) opened orderly
    exact ⟨[], c :: (body ++ behind), List.forall_mem_nil _, rfl, c :: body, behind, made, denotes,
      rfl, closes⟩

/-- A name without arguments ends. -/
theorem Completes.of_endName
    (ended : ∀ {types}, Scan.finish generics ⟨outer, ⟨expected, [], types⟩, []⟩ rest = .ok whole →
      Full expected types outer → Closes generics outer types rest whole)
    (read : Scan.finish generics ⟨outer, ⟨expected, name, types⟩, []⟩ rest = .ok whole)
    (begun : name ≠ []) (opened : Open expected types outer)
    (past : Scan.splitsName rest = false) : Completes generics outer types name rest whole := by
  obtain ⟨made, taken, read⟩ := (Scan.finish_endName_iff begun past).mp read
  refine ⟨[], rest, made, ?_, rfl, ended read (opened.full made)⟩
  rw [List.append_nil]
  exact denotes_of_ofName taken

private theorem Expects.named_cons (expects : Expects generics rest)
    (read : Scan.finish generics ⟨outer, ⟨expected, name, types⟩, []⟩ (c :: rest) = .ok whole)
    (begun : name ≠ []) (opened : Open expected types outer)
    (orderly : isOrderly name (c :: rest) = true) :
    Completes generics outer types name (c :: rest) whole := by
  have ends (past : Scan.splitsName (c :: rest) = false) :
      Completes generics outer types name (c :: rest) whole := by
    rw [isOrderly_ended past] at orderly
    exact .of_endName (fun read full => expects.ended_cons read full past orderly) read begun
      opened past
  rcases char_cases c with rfl | rfl | rfl | blank | plain
  · rw [Scan.finish_open] at read
    rw [isOrderly_open, Bool.and_eq_true, Option.isNone_iff_eq_none] at orderly
    obtain ⟨kept, orderly⟩ := orderly
    obtain ⟨before, _, beforeBlank, rfl, body, _, inner, denotes, rfl, after, others, behind, made,
      afterBlank, padded, othersDenote, rfl, taken, closes⟩ :=
      expects.fresh read ⟨rfl, opened⟩ orderly
    have whole := denotes_of_ofName_arguments ⟨before, body, after, inner⟩ taken kept
      (List.forall_mem_cons.mpr ⟨⟨beforeBlank, afterBlank⟩, padded⟩)
      (List.forall_mem_cons.mpr ⟨denotes, othersDenote⟩)
    refine ⟨_, behind, made, whole, ?_, closes⟩
    simp [Spaced.text]
  · exact ends rfl
  · exact ends rfl
  · by_cases split : Scan.splitsName rest = true
    · exact absurd read (Scan.finish_split_ne_ok begun blank split)
    · rw [Bool.not_eq_true] at split
      exact ends ((Scan.splitsName_blank blank).trans split)
  · rw [Scan.finish_plain plain] at read
    rw [isOrderly_plain plain] at orderly
    have longer : name ++ [c] ≠ [] := by simp
    obtain ⟨body, behind, made, denotes, rfl, closes⟩ := expects.named read longer opened orderly
    rw [List.append_assoc] at denotes
    exact ⟨c :: body, behind, made, denotes, rfl, closes⟩

theorem Expects.nil : Expects generics [] where
  ended {outer expected types whole} read _ _ _ := by
    obtain ⟨rfl, rfl⟩ := Scan.finish_end_iff.mp read
    exact ⟨rfl, List.forall_mem_nil _⟩
  fresh {outer expected types whole} read opened _ :=
    absurd read (Scan.Stuck.finish_ne_ok (.unnamed opened.unfilled rfl))
  named {outer expected name types whole} read begun opened _ := by
    refine .of_endName (fun read _ => ?_) read begun opened rfl
    obtain ⟨rfl, rfl⟩ := Scan.finish_end_iff.mp read
    exact ⟨rfl, List.forall_mem_nil _⟩

private theorem expects (generics : Bool) (rest : List Char) : Expects generics rest := by
  induction rest with
  | nil => exact .nil
  | cons c rest ih => exact ⟨ih.ended_cons, ih.fresh_cons, ih.named_cons⟩

end Levels

/-- The reader takes an orderly text exactly if it denotes a type, and reads it as that type. No
text that is not orderly denotes one, whether or not the reader takes it. -/
theorem spells_iff {generics : Bool} {text : String} {tag : TypeTag} :
    Spells generics text tag ↔
      parse text generics = .ok tag ∧ isOrderly [] text.toList = true := by
  constructor
  · intro spells
    exact ⟨spells.parse, spells.orderly⟩
  · rintro ⟨read, orderly⟩
    rw [Scan.parse_eq_ok_iff] at read
    obtain ⟨before, _, beforeBlank, same, body, after, made, denotes, rfl, whole, afterBlank⟩ :=
      (expects generics text.toList).fresh read rfl orderly
    obtain rfl := (List.cons.inj whole).1
    exact ⟨⟨before, body, after, made⟩, same.symm, ⟨beforeBlank, afterBlank⟩, denotes, rfl⟩

/-- A name that goes on behind its arguments is read, but denotes nothing. -/
theorem parse_not_exact : ¬ ∀ (generics : Bool) (text : String) (tag : TypeTag),
    parse text generics = .ok tag ↔ Spells generics text tag := by
  intro exact
  have read : parse "vec<u8>tor" false = .ok (.vector .u8) := rfl
  have broken : isOrderly [] "vec<u8>tor".toList = false := by decide
  have orderly := ((exact false "vec<u8>tor" _).mp read).orderly
  rw [broken] at orderly
  cases orderly

end MoveWallet.TypeTag
