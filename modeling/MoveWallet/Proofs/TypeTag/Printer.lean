import MoveWallet.Proofs.TypeTag.Generics
import MoveWallet.TypeTag.Printer

/-! # Texts that are printed

The text of a type is a text of the grammar: the arguments behind the first stand behind a blank,
and there are no other blanks. Texts of the grammar are read, so that every type is read back from
its text; where placeholders are not taken, a type with one is refused.
-/

namespace MoveWallet.TypeTag

/-! ## Names -/

/-- The names of primitive types are written in small letters. -/
private theorem isPrimitive_chars {tag : TypeTag} (listed : tag ∈ primitives.map (·.2)) :
    IsPrimitive (chars tag) tag := by
  have small : ∀ entry ∈ primitives, Text.asciiLower (chars entry.2) = entry.1.toList := by
    decide +kernel
  obtain ⟨entry, found, rfl⟩ := List.mem_map.mp listed
  exact ⟨entry, found, small entry found, rfl⟩

private theorem isGeneric_toDigits (index : UInt32) :
    IsGeneric ('T' :: Nat.toDigits 10 index.toNat) index := by
  refine ⟨_, index.toNat, rfl, Nat.toDigits_ne_nil, ?_, Numeral.ofDigits?_toDigits _,
    index.toNat_lt, UInt32.ofNat_toNat.symm⟩
  intro c listed
  exact Nat.isDigit_of_mem_toDigits (by decide) (by decide) listed

private theorem isPath_text (account : Address) (moduleName name : Identifier) :
    IsPath (account.text.toList ++ "::".toList ++ moduleName.text.toList ++ "::".toList ++
      name.text.toList) account moduleName name := by
  refine ⟨account.text.toList, ?_, by simp⟩
  rw [String.ofList_toList]
  exact Address.parseRelaxed_text account

/-! ## Types -/

/-- A type as it is printed: with one blank in front unless it is the first argument. -/
def printed (before : List Char) (tag : TypeTag) : Spaced := ⟨before, chars tag, [], tag⟩

private theorem printed_isPadded {before : List Char} (blank : AllBlank before) (tag : TypeTag) :
    (printed before tag).IsPadded := ⟨blank, List.forall_mem_nil _⟩

private theorem otherChars_eq (others : List TypeTag) :
    otherChars others = Spaced.moreText (others.map (printed [' '])) := by
  induction others with
  | nil => rfl
  | cons tag others ih =>
    rw [otherChars, ih, List.map_cons, Spaced.moreText_cons, Spaced.text, printed,
      List.append_nil]
    rfl

/-- The path of a structure with its arguments, if there are any. -/
private theorem denotes_struct {generics : Bool} {path : List Char} {account : Address}
    {moduleName name : Identifier} (parts : IsPath path account moduleName name)
    {arguments : List TypeTag}
    (inner : ∀ argument ∈ arguments, Denotes generics (chars argument) argument) :
    Denotes generics (path ++ argumentChars arguments)
      (.struct account moduleName name arguments) := by
  cases arguments with
  | nil =>
    rw [argumentChars, List.append_nil]
    exact .struct parts
  | cons first others =>
    have blank : AllBlank [' '] := List.forall_mem_singleton.mpr rfl
    have padded : ∀ spaced ∈ printed [] first :: others.map (printed [' ']), spaced.IsPadded := by
      refine List.forall_mem_cons.mpr ⟨printed_isPadded (List.forall_mem_nil _) first, ?_⟩
      exact List.forall_mem_map.mpr fun tag _ => printed_isPadded blank tag
    have bodies : ∀ spaced ∈ printed [] first :: others.map (printed [' ']),
        Denotes generics spaced.body spaced.tag := by
      obtain ⟨inner, innerOthers⟩ := List.forall_mem_cons.mp inner
      exact List.forall_mem_cons.mpr ⟨inner, List.forall_mem_map.mpr innerOthers⟩
    have tags : (printed [] first :: others.map (printed [' '])).map (·.tag) = first :: others := by
      simp [printed, Function.comp_def]
    have text : '<' :: ((printed [] first).text ++
        Spaced.moreText (others.map (printed [' '])) ++ ['>']) =
          argumentChars (first :: others) := by
      rw [argumentChars, otherChars_eq, Spaced.text, printed, List.append_nil]
      rfl
    have applied := Denotes.applied parts padded bodies
    rwa [tags, text] at applied

private theorem denotes_vector {generics : Bool} {element : TypeTag}
    (inner : Denotes generics (chars element) element) :
    Denotes generics (chars (.vector element)) (.vector element) := by
  have named : IsVector "vector".toList := rfl
  have body : Denotes generics (printed [] element).body (printed [] element).tag := inner
  have applied := Denotes.vector named (printed_isPadded (List.forall_mem_nil _) element) body
  rw [Spaced.text, printed, List.append_nil] at applied
  exact applied

mutual

/-- The text of a type denotes it, if its placeholders are taken. -/
theorem denotes_chars {generics : Bool} : (tag : TypeTag) →
    generics = true ∨ IsGenericFree tag → Denotes generics (chars tag) tag
  | bool, _ | u8, _ | u16, _ | u32, _ | u64, _ | u128, _ | u256, _ | address, _ | signer, _ =>
    .primitive (isPrimitive_chars (by simp [primitives]))
  | generic index, taken =>
    .generic (taken.resolve_right (not_isGenericFree_generic index)) (isGeneric_toDigits index)
  | reference referent, taken =>
    .reference (denotes_chars referent (taken.imp_right isGenericFree_reference_iff.mp))
  | vector element, taken =>
    denotes_vector (denotes_chars element (taken.imp_right isGenericFree_vector_iff.mp))
  | struct account moduleName name arguments, taken =>
    denotes_struct (isPath_text account moduleName name)
      (denotes_allChars arguments (taken.imp_right isGenericFree_struct_iff.mp))

private theorem denotes_allChars {generics : Bool} : (tags : List TypeTag) →
    (generics = true ∨ ∀ tag ∈ tags, IsGenericFree tag) →
    ∀ tag ∈ tags, Denotes generics (chars tag) tag
  | [], _ => List.forall_mem_nil _
  | tag :: others, taken => by
    have first : generics = true ∨ IsGenericFree tag :=
      taken.imp_right fun free => (List.forall_mem_cons.mp free).1
    have later : generics = true ∨ ∀ other ∈ others, IsGenericFree other :=
      taken.imp_right fun free => (List.forall_mem_cons.mp free).2
    exact List.forall_mem_cons.mpr
      ⟨denotes_chars tag first, denotes_allChars others later⟩

end

private theorem parse_text_of_taken {generics : Bool} {tag : TypeTag}
    (taken : generics = true ∨ IsGenericFree tag) : parse tag.text generics = .ok tag := by
  apply Spells.parse
  refine ⟨printed [] tag, ?_, ?_, denotes_chars tag taken, rfl⟩
  · rw [text, String.toList_ofList, Spaced.text, printed, List.append_nil]
    rfl
  · exact printed_isPadded (List.forall_mem_nil _) tag

/-- Every type is read back from its text. Where placeholders are not taken, the same holds of the
types in which none occurs, and the others are refused for it. -/
theorem parse_text (tag : TypeTag) :
    parse tag.text true = .ok tag ∧
      ((∀ index, ¬ OccursIn (.generic index) tag) → parse tag.text false = .ok tag) ∧
      ((∃ index, OccursIn (.generic index) tag) →
        parse tag.text false = .error ⟨tag.text, .unexpectedGenericType⟩) := by
  have read := parse_text_of_taken (.inl rfl : true = true ∨ IsGenericFree tag)
  refine ⟨read, fun free => parse_text_of_taken (.inr free), ?_⟩
  rintro ⟨index, occurs⟩
  exact parse_of_generic read fun free => free index occurs

/-- A reference to a structure with a vector of a placeholder and a structure without arguments. -/
def pairOf (element : TypeTag) : TypeTag :=
  .reference (.struct (.ofNat 16) ⟨"pair", by decide⟩ ⟨"Pair_2", by decide⟩
    [.vector element, StructTag.string.toTypeTag])

theorem parse_text_pair :
    parse (pairOf (.generic 7)).text true = .ok (pairOf (.generic 7)) ∧
      parse (pairOf (.generic 7)).text false =
        .error ⟨(pairOf (.generic 7)).text, .unexpectedGenericType⟩ ∧
      parse (pairOf .u8).text false = .ok (pairOf .u8) := by
  obtain ⟨read, -, refused⟩ := parse_text (pairOf (.generic 7))
  obtain ⟨-, strict, -⟩ := parse_text (pairOf .u8)
  refine ⟨read, refused ⟨7, ?_⟩, strict ?_⟩
  · exact .referent (.argument List.mem_cons_self (.element .here))
  · have primitive : IsGenericFree .u8 := fun index occurs => nomatch occurs
    refine isGenericFree_reference_iff.mpr (isGenericFree_struct_iff.mpr ?_)
    refine List.forall_mem_cons.mpr ⟨isGenericFree_vector_iff.mpr primitive, ?_⟩
    refine List.forall_mem_singleton.mpr (isGenericFree_struct_iff.mpr ?_)
    exact List.forall_mem_nil _

end MoveWallet.TypeTag
