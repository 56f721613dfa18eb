import MoveWallet.Identifier
import MoveWallet.Proofs.Address
import MoveWallet.Proofs.Text.Segment

/-! # The texts of modules and functions

A module id is cut at its double colons from the left and a function id at its last one from the
right. The two ways of cutting agree on every text that names a function, since neither the text of
an address nor a name has a colon: what names a function is address text and two names, and nothing
else is read.
-/

namespace MoveWallet

namespace Identifier

/-- The texts of names: one letter, digit or underscore at least, and nothing else. -/
def IsWord (text : String) : Prop :=
  text ≠ "" ∧ ∀ c ∈ text.toList,
    ('0' ≤ c ∧ c ≤ '9') ∨ ('A' ≤ c ∧ c ≤ 'Z') ∨ ('a' ≤ c ∧ c ≤ 'z') ∨ c = '_'

private theorem isNameChar_iff {c : Char} : isNameChar c = true ↔
    ('0' ≤ c ∧ c ≤ '9') ∨ ('A' ≤ c ∧ c ≤ 'Z') ∨ ('a' ≤ c ∧ c ≤ 'z') ∨ c = '_' := by
  rw [isNameChar, Bool.or_eq_true, decide_eq_true_eq, Text.isAlphanum_iff, or_assoc, or_assoc]
  rfl

theorem isNameChar_of_isAlphanum {c : Char} (letter : c.isAlphanum = true) :
    isNameChar c = true := by
  rw [isNameChar, letter, Bool.true_or]

private theorem isName_iff {text : String} : isName text.toList = true ↔ IsWord text := by
  rw [IsWord, isName, Bool.and_eq_true, Bool.not_eq_true', List.isEmpty_eq_false_iff,
    List.all_eq_true, Ne, Ne, String.toList_eq_nil_iff]
  simp only [isNameChar_iff]

theorem isWord (identifier : Identifier) : IsWord identifier.text :=
  isName_iff.mp identifier.named

/-- An identifier is read from its own text. -/
@[grind =] theorem parse_eq_ok_iff {text : String} {identifier : Identifier} :
    parse text = .ok identifier ↔ identifier.text = text := by
  unfold parse
  constructor
  · intro parsed
    split at parsed
    · cases parsed
      rfl
    · cases parsed
  · rintro rfl
    exact dif_pos identifier.named

/-- The texts that are read. -/
theorem exists_parse_iff {text : String} :
    (∃ identifier, parse text = .ok identifier) ↔ IsWord text := by
  constructor
  · rintro ⟨identifier, parsed⟩
    rw [← parse_eq_ok_iff.mp parsed]
    exact identifier.isWord
  · exact fun word => ⟨⟨text, isName_iff.mpr word⟩, parse_eq_ok_iff.mpr rfl⟩

theorem isNameChar_of_mem (identifier : Identifier) :
    ∀ c ∈ identifier.text.toList, isNameChar c = true :=
  fun c member => isNameChar_iff.mpr (identifier.isWord.2 c member)

theorem colon_not_mem {text : List Char} (named : ∀ c ∈ text, isNameChar c = true) :
    ':' ∉ text :=
  fun member => absurd (named ':' member) (by decide)

theorem isBlank_eq_false {text : List Char} (named : ∀ c ∈ text, isNameChar c = true) :
    ∀ c ∈ text, Text.isBlank c = false := by
  intro c member
  have plain := named c member
  rw [isNameChar, Bool.or_eq_true, decide_eq_true_eq] at plain
  rcases plain with letter | rfl
  · exact Text.isBlank_eq_false_of_isAlphanum letter
  · rfl

end Identifier

/-- The text of an address has characters of names only. -/
theorem Address.RelaxedText.isNameChar {text : String} {address : Address}
    (relaxed : RelaxedText text address) : ∀ c ∈ text.toList, Identifier.isNameChar c = true := by
  have plain := isAlphanum_of_parseRelaxed (parseRelaxed_eq_ok_iff.mpr relaxed)
  exact fun c member => Identifier.isNameChar_of_isAlphanum (plain c member)

namespace ModuleId

variable {text : String} {id : ModuleId}

/-- A module id is read from address text and a name with a double colon between them. -/
theorem parse_eq_ok_iff : parse text = .ok id ↔ ∃ address : String,
    text = address ++ "::" ++ id.name.text ∧ Address.RelaxedText address id.address := by
  constructor
  · intro read
    unfold parse at read
    split at read
    next address name cut =>
      obtain ⟨account, relaxed, read⟩ := Outcome.bind_eq_ok_iff.mp read
      obtain ⟨identifier, named, made⟩ := Outcome.bind_eq_ok_iff.mp read
      cases made
      rw [Outcome.mapError_eq_ok_iff, Address.parseRelaxed_eq_ok_iff] at relaxed
      refine ⟨String.ofList address, ?_, relaxed⟩
      rw [← String.toList_inj, Text.eq_of_atColons_two cut]
      simp [Identifier.parse_eq_ok_iff.mp named]
    next => cases read
  · rintro ⟨address, rfl, relaxed⟩
    have cut : Text.atColons (address ++ "::" ++ id.name.text).toList =
        [address.toList, id.name.text.toList] := by
      have parts := Text.atColons_of_two (Identifier.colon_not_mem relaxed.isNameChar)
        (Identifier.colon_not_mem id.name.isNameChar_of_mem)
      simpa using parts
    unfold parse
    rw [cut]
    simp only [String.ofList_toList, Address.parseRelaxed_eq_ok_iff.mpr relaxed,
      Identifier.parse_eq_ok_iff.mpr (rfl : id.name.text = _)]
    rfl

/-- A module id is read back from its text. -/
theorem parse_ownText (id : ModuleId) : parse id.text = .ok id :=
  parse_eq_ok_iff.mpr ⟨id.address.text, rfl, Address.relaxedText_text id.address⟩

end ModuleId

namespace FunctionId

/-- The texts that name a function: address text, the name of a module and the name of a function
with double colons between them, and blanks around all. -/
def NamedBy (id : FunctionId) (text : String) : Prop :=
  ∃ address : String,
    Text.trim text.toList =
      (address ++ "::" ++ id.module.name.text ++ "::" ++ id.function.text).toList ∧
    Address.RelaxedText address id.module.address ∧ Identifier.IsWord id.module.name.text ∧
    Identifier.IsWord id.function.text

variable {text : String} {id : FunctionId}

/-- A function id is read from the texts that name it. -/
theorem parse?_eq_some_iff : parse? text = some id ↔ id.NamedBy text := by
  unfold parse?
  simp only [Option.bind_eq_bind, Option.bind_eq_some_iff, Outcome.toOption_eq_some_iff,
    ModuleId.parse_eq_ok_iff, Identifier.parse_eq_ok_iff, Prod.exists]
  constructor
  · rintro ⟨before, after, cut, module, ⟨address, whole, relaxed⟩, function, same, made⟩
    cases made
    refine ⟨address, ?_, relaxed, module.name.isWord, function.isWord⟩
    have before_eq := congrArg String.toList whole
    have after_eq := congrArg String.toList same
    rw [String.toList_ofList] at before_eq after_eq
    rw [Text.eq_of_atLast? cut, before_eq, ← after_eq]
    simp
  · rintro ⟨address, trimmed, relaxed, -, -⟩
    have cut := Text.atLast?_append
      (Identifier.colon_not_mem id.function.isNameChar_of_mem)
      (address ++ "::" ++ id.module.name.text).toList
    refine ⟨_, _, ?_, id.module, ⟨address, String.ofList_toList, relaxed⟩, id.function,
      String.ofList_toList.symm, rfl⟩
    rw [trimmed, ← cut]
    simp

/-- A function id between blanks is read back from its text. -/
theorem parse?_of_pads (pads : Text.Pads id.text.toList text.toList) : parse? text = some id := by
  have relaxed := Address.relaxedText_text id.module.address
  refine parse?_eq_some_iff.mpr
    ⟨id.module.address.text, ?_, relaxed, id.module.name.isWord, id.function.isWord⟩
  refine Text.trim_of_pads pads ?_
  have colons : ∀ c ∈ "::".toList, Text.isBlank c = false :=
    List.forall_mem_cons.mpr ⟨rfl, List.forall_mem_singleton.mpr rfl⟩
  simp only [String.toList_append, List.forall_mem_append]
  exact ⟨⟨⟨⟨Identifier.isBlank_eq_false relaxed.isNameChar, colons⟩,
    Identifier.isBlank_eq_false id.module.name.isNameChar_of_mem⟩, colons⟩,
    Identifier.isBlank_eq_false id.function.isNameChar_of_mem⟩

end FunctionId

end MoveWallet
