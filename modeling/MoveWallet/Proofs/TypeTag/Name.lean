import MoveWallet.Proofs.Identifier
import MoveWallet.TypeTag.Parser

/-! # Names of types

What one name without brackets stands for: a primitive type, a vector, a placeholder or the path of
a structure, behind any number of ampersands.
-/

namespace MoveWallet.TypeTag

/-- Whether a character ends a name. -/
def endsName (c : Char) : Bool := c = '<' || c = '>' || c = ',' || Text.isBlank c

/-- The text of an identifier or an address is part of one name and has no colons. -/
structure IsPiece (text : List Char) : Prop where
  unbroken : ∀ c ∈ text, endsName c = false
  noColon : ':' ∉ text
  noAmpersand : '&' ∉ text

/-- The characters of identifiers end no name. -/
private theorem isPiece_of_isNameChar {text : List Char}
    (named : ∀ c ∈ text, Identifier.isNameChar c = true) : IsPiece text where
  unbroken c member := by
    have solid := Identifier.isBlank_eq_false named c member
    have other {ender : Char} (foreign : Identifier.isNameChar ender = false) : c ≠ ender := by
      rintro rfl
      rw [named c member] at foreign
      cases foreign
    have notOpen : c ≠ '<' := other (by decide)
    have notClose : c ≠ '>' := other (by decide)
    have notComma : c ≠ ',' := other (by decide)
    simp [endsName, solid, notOpen, notClose, notComma]
  noColon := Identifier.colon_not_mem named
  noAmpersand member := absurd (named '&' member) (by decide)

private theorem isPiece_identifier (identifier : Identifier) : IsPiece identifier.text.toList :=
  isPiece_of_isNameChar identifier.isNameChar_of_mem

private theorem isPiece_of_parseRelaxed {text : List Char} {address : Address}
    (read : Address.parseRelaxed (String.ofList text) = .ok address) : IsPiece text := by
  have named := (Address.parseRelaxed_eq_ok_iff.mp read).isNameChar
  rw [String.toList_ofList] at named
  exact isPiece_of_isNameChar named

/-- Address text and two identifiers with double colons between them. -/
def IsPath (path : List Char) (account : Address) (moduleName name : Identifier) : Prop :=
  ∃ accountText, Address.parseRelaxed (String.ofList accountText) = .ok account ∧
    path = accountText ++
      ':' :: ':' :: (moduleName.text.toList ++ ':' :: ':' :: name.text.toList)

private theorem ofPath_eq_ok_iff {arguments : List TypeTag} {path : List Char} {tag : TypeTag} :
    ofPath arguments path = .ok tag ↔ ∃ account moduleName name,
      IsPath path account moduleName name ∧ tag = .struct account moduleName name arguments := by
  constructor
  · intro made
    unfold ofPath at made
    split at made
    next account moduleName name cut =>
      obtain ⟨address, read, made⟩ := Outcome.bind_eq_ok_iff.mp made
      obtain ⟨moduleIdentifier, moduleRead, made⟩ := Outcome.bind_eq_ok_iff.mp made
      obtain ⟨identifier, nameRead, made⟩ := Outcome.bind_eq_ok_iff.mp made
      cases made
      rw [Outcome.mapError_eq_ok_iff] at read moduleRead nameRead
      refine ⟨address, moduleIdentifier, identifier, ⟨_, read, ?_⟩, rfl⟩
      rw [Identifier.parse_eq_ok_iff.mp moduleRead, Identifier.parse_eq_ok_iff.mp nameRead]
      simpa using Text.eq_of_atColons cut
    next => cases made
  · rintro ⟨account, moduleName, name, ⟨accountText, read, rfl⟩, rfl⟩
    have cut := Text.atColons_of_three (isPiece_of_parseRelaxed read).noColon
      (isPiece_identifier moduleName).noColon (isPiece_identifier name).noColon
    unfold ofPath
    rw [cut]
    simp only [read, String.ofList_toList,
      Identifier.parse_eq_ok_iff.mpr (rfl : moduleName.text = _),
      Identifier.parse_eq_ok_iff.mpr (rfl : name.text = _)]
    rfl

theorem isPath_unbroken {path : List Char} {account : Address} {moduleName name : Identifier}
    (parts : IsPath path account moduleName name) : ∀ c ∈ path, endsName c = false := by
  obtain ⟨accountText, read, rfl⟩ := parts
  have colon : endsName ':' = false := rfl
  have accountPiece := (isPiece_of_parseRelaxed read).unbroken
  have modulePiece := (isPiece_identifier moduleName).unbroken
  have namePiece := (isPiece_identifier name).unbroken
  simp only [List.forall_mem_append, List.forall_mem_cons]
  exact ⟨accountPiece, colon, colon, modulePiece, colon, colon, namePiece⟩

private theorem IsPath.colon_mem {path : List Char} {account : Address}
    {moduleName name : Identifier} (parts : IsPath path account moduleName name) : ':' ∈ path := by
  obtain ⟨accountText, -, rfl⟩ := parts
  simp

theorem IsPath.noAmpersand {path : List Char} {account : Address} {moduleName name : Identifier}
    (parts : IsPath path account moduleName name) : '&' ∉ path := by
  obtain ⟨accountText, read, rfl⟩ := parts
  have accountPiece := (isPiece_of_parseRelaxed read).noAmpersand
  have modulePiece := (isPiece_identifier moduleName).noAmpersand
  have namePiece := (isPiece_identifier name).noAmpersand
  simp [accountPiece, modulePiece, namePiece]

def IsPrimitive (name : List Char) (tag : TypeTag) : Prop :=
  ∃ entry ∈ primitives, Text.asciiLower name = entry.1.toList ∧ tag = entry.2

def IsVector (name : List Char) : Prop := Text.asciiLower name = "vector".toList

/-- A `T` and the digits of a 32-bit number. -/
def IsGeneric (name : List Char) (index : UInt32) : Prop :=
  ∃ digits number, name = 'T' :: digits ∧ digits ≠ [] ∧ (∀ c ∈ digits, c.isDigit = true) ∧
    Numeral.ofDigits? 10 digits = some number ∧ number < UInt32.size ∧ index = .ofNat number

private theorem primitive?_eq_some_iff {name : List Char} {tag : TypeTag} :
    primitive? (Text.asciiLower name) = some tag ↔ IsPrimitive name tag := by
  unfold primitive? IsPrimitive
  constructor
  · intro found
    obtain ⟨entry, search, rfl⟩ := Option.map_eq_some_iff.mp found
    have same := List.find?_some search
    exact ⟨entry, List.mem_of_find?_eq_some search, (of_decide_eq_true same).symm, rfl⟩
  · rintro ⟨entry, listed, same, rfl⟩
    rw [same]
    simp only [primitives, List.mem_cons, List.not_mem_nil, or_false] at listed
    rcases listed with rfl | rfl | rfl | rfl | rfl | rfl | rfl | rfl | rfl <;> rfl

private theorem primitive?_eq_none {name : List Char}
    (other : ∀ word ∈ primitives.map (·.1), name ≠ word.toList) : primitive? name = none := by
  refine Option.map_eq_none_iff.mpr (List.find?_eq_none.mpr fun entry listed same => ?_)
  exact other entry.1 (List.mem_map_of_mem listed) (of_decide_eq_true same).symm

theorem genericDigits?_eq_some_iff {name digits : List Char} :
    genericDigits? name = some digits ↔
      name = 'T' :: digits ∧ digits ≠ [] ∧ ∀ c ∈ digits, c.isDigit = true := by
  constructor
  · intro found
    unfold genericDigits? at found
    split at found
    next digit rest =>
      split_ifs at found with all
      cases found
      exact ⟨rfl, List.cons_ne_nil _ _, List.all_eq_true.mp all⟩
    next => cases found
  · rintro ⟨rfl, filled, all⟩
    obtain ⟨digit, rest, rfl⟩ := List.exists_cons_of_ne_nil filled
    exact if_pos (List.all_eq_true.mpr all)

/-- No word is written with a colon or starts like a placeholder. -/
private theorem words_plain : ∀ word ∈ "vector" :: primitives.map (·.1),
    ':' ∉ word.toList ∧ word.toList.head? ≠ some 't' := by
  simp only [primitives, List.map_cons, List.map_nil, List.forall_mem_cons]
  decide

private theorem IsPath.asciiLower_ne {path : List Char} {account : Address}
    {moduleName name : Identifier} (parts : IsPath path account moduleName name) :
    ∀ word ∈ "vector" :: primitives.map (·.1), Text.asciiLower path ≠ word.toList := by
  intro word listed same
  apply (words_plain word listed).1
  rw [← same]
  exact List.mem_map.mpr ⟨':', parts.colon_mem, rfl⟩

private theorem IsGeneric.asciiLower_ne {name : List Char} {index : UInt32}
    (generic : IsGeneric name index) :
    ∀ word ∈ "vector" :: primitives.map (·.1), Text.asciiLower name ≠ word.toList := by
  obtain ⟨digits, -, rfl, -⟩ := generic
  intro word listed same
  apply (words_plain word listed).2
  rw [← same]
  rfl

private theorem IsVector.not_isPrimitive {name : List Char} {tag : TypeTag}
    (vector : IsVector name) : ¬ IsPrimitive name tag := by
  rw [← primitive?_eq_some_iff, vector]
  intro found
  cases found

theorem IsPath.genericDigits?_eq_none {path : List Char} {account : Address}
    {moduleName name : Identifier} (parts : IsPath path account moduleName name) :
    genericDigits? path = none := by
  by_contra other
  obtain ⟨digits, found⟩ := Option.ne_none_iff_exists'.mp other
  obtain ⟨rfl, -, all⟩ := genericDigits?_eq_some_iff.mp found
  rcases List.mem_cons.mp parts.colon_mem with same | listed
  · cases same
  · cases all _ listed

private theorem isAlphanum_of_toLower {c : Char} (letter : c.toLower.isAlphanum = true) :
    c.isAlphanum = true := by
  unfold Char.toLower at letter
  split_ifs at letter with capital
  · have low : 65 ≤ c.toNat := UInt32.le_iff_toNat_le.mp capital.1
    have high : c.toNat ≤ 90 := UInt32.le_iff_toNat_le.mp capital.2
    rw [Text.isAlphanum_iff]
    omega
  · exact letter

private theorem words_alphanum : ∀ word ∈ "vector" :: primitives.map (·.1),
    ∀ c ∈ word.toList, c.isAlphanum = true := by
  have all : (("vector" :: primitives.map (·.1)).all fun word =>
      word.toList.all Char.isAlphanum) = true := by decide +kernel
  intro word listed
  exact List.all_eq_true.mp (List.all_eq_true.mp all word listed)

private theorem isPiece_of_asciiLower {name : List Char} {word : String}
    (listed : word ∈ "vector" :: primitives.map (·.1))
    (same : Text.asciiLower name = word.toList) : IsPiece name := by
  refine isPiece_of_isNameChar fun c member => Identifier.isNameChar_of_isAlphanum ?_
  refine isAlphanum_of_toLower (words_alphanum word listed _ ?_)
  rw [← same]
  exact List.mem_map_of_mem member

theorem IsVector.isPiece {name : List Char} (vector : IsVector name) : IsPiece name :=
  isPiece_of_asciiLower List.mem_cons_self vector

theorem IsVector.genericDigits?_eq_none {name : List Char} (vector : IsVector name) :
    genericDigits? name = none := by
  by_contra other
  obtain ⟨digits, found⟩ := Option.ne_none_iff_exists'.mp other
  obtain ⟨rfl, -, -⟩ := genericDigits?_eq_some_iff.mp found
  cases vector

theorem IsPrimitive.isPiece {name : List Char} {tag : TypeTag} (primitive : IsPrimitive name tag) :
    IsPiece name := by
  obtain ⟨entry, listed, same, -⟩ := primitive
  exact isPiece_of_asciiLower (List.mem_cons_of_mem _ (List.mem_map_of_mem listed)) same

theorem IsGeneric.isPiece {name : List Char} {index : UInt32} (generic : IsGeneric name index) :
    IsPiece name := by
  obtain ⟨digits, -, rfl, -, all, -⟩ := generic
  refine isPiece_of_isNameChar (List.forall_mem_cons.mpr ⟨rfl, fun c member => ?_⟩)
  refine Identifier.isNameChar_of_isAlphanum ?_
  simp [Char.isAlphanum, all c member]

theorem ofPlainName_eq_ok_iff {generics : Bool} {arguments : List TypeTag} {name : List Char}
    {tag : TypeTag} : ofPlainName generics arguments name = .ok tag ↔
      (IsVector name ∧ ∃ element, arguments = [element] ∧ tag = .vector element) ∨
      (IsPrimitive name tag ∧ arguments = []) ∨
      (generics = true ∧ ∃ index, IsGeneric name index ∧ tag = .generic index) ∨
      ∃ account moduleName last, IsPath name account moduleName last ∧
        tag = .struct account moduleName last arguments := by
  constructor
  · intro made
    unfold ofPlainName at made
    dsimp only at made
    split at made
    next vector =>
      split at made
      next element =>
        cases made
        exact .inl ⟨vector, element, rfl, rfl⟩
      next => cases made
    split at made
    next primitive found =>
      split_ifs at made with empty
      cases made
      exact .inr (.inl ⟨primitive?_eq_some_iff.mp found, List.isEmpty_iff.mp empty⟩)
    split at made
    next digits found =>
      split_ifs at made with allowed
      split at made
      next number value =>
        split_ifs at made with small
        cases made
        obtain ⟨rfl, filled, all⟩ := genericDigits?_eq_some_iff.mp found
        refine .inr (.inr (.inl ⟨by simpa using allowed, _, ?_, rfl⟩))
        exact ⟨digits, number, rfl, filled, all, value, small, rfl⟩
      next => cases made
    split_ifs at made
    exact .inr (.inr (.inr (ofPath_eq_ok_iff.mp made)))
  · unfold ofPlainName
    rintro (⟨vector, element, rfl, rfl⟩ | ⟨primitive, rfl⟩ | ⟨rfl, index, generic, rfl⟩ |
      ⟨account, moduleName, last, parts, rfl⟩)
    · exact if_pos vector
    · have notVector : Text.asciiLower name ≠ "vector".toList :=
        fun vector => IsVector.not_isPrimitive vector primitive
      dsimp only
      rw [if_neg notVector, primitive?_eq_some_iff.mpr primitive]
      rfl
    · obtain ⟨notVector, notPrimitive⟩ := List.forall_mem_cons.mp generic.asciiLower_ne
      obtain ⟨digits, number, rfl, filled, all, value, small, rfl⟩ := generic
      dsimp only
      rw [if_neg notVector, primitive?_eq_none notPrimitive,
        genericDigits?_eq_some_iff.mpr ⟨rfl, filled, all⟩]
      simp only [value]
      exact if_pos small
    · obtain ⟨notVector, notPrimitive⟩ := List.forall_mem_cons.mp parts.asciiLower_ne
      dsimp only
      rw [if_neg notVector, primitive?_eq_none notPrimitive, parts.genericDigits?_eq_none]
      have colon : name.contains ':' = true := List.contains_iff_mem.mpr parts.colon_mem
      dsimp only
      rw [if_pos colon]
      exact ofPath_eq_ok_iff.mpr ⟨account, moduleName, last, parts, rfl⟩

end MoveWallet.TypeTag
