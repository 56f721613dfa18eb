import MoveWallet.Bytes.Hex
import MoveWallet.Proofs.Bytes.Basic
import MoveWallet.Proofs.Text.Numeral
import MoveWallet.Proofs.Text.Segment

/-! # What hexadecimal text spells

A byte string is spelled by two digits for each byte, the high one first, and these digits write the
number of the byte string. The reader takes the spellings with or without `0x`; `x` is no digit, so
that it never takes off more.
-/

namespace MoveWallet

/-- A letter or digit takes one byte of UTF-8. -/
theorem Text.utf8Length_of_isAlphanum {text : List Char}
    (plain : ∀ c ∈ text, c.isAlphanum = true) : utf8Length text = text.length := by
  induction text with
  | nil => rfl
  | cons c rest ih =>
    obtain ⟨first, others⟩ := List.forall_mem_cons.mp plain
    have narrow : c.utf8Size = 1 := by
      rw [Char.utf8Size_eq_one_iff, UInt32.le_iff_toNat_le]
      rw [isAlphanum_iff] at first
      change c.toNat ≤ 127
      omega
    rw [utf8Length, narrow, ih others, List.length_cons, Nat.add_comm]

private theorem Bytes.length_ofText (text : String) :
    (ofText text).length = Text.utf8Length text.toList := by
  have encoded : ofText text = text.toList.flatMap String.utf8EncodeChar := by
    rw [ofText, String.toUTF8_eq_toByteArray, ← String.utf8Encode_toList, List.utf8Encode,
      List.data_toByteArray, List.toList_toArray]
  rw [encoded]
  induction text.toList with
  | nil => rfl
  | cons c rest ih =>
    rw [List.flatMap_cons, List.length_append, ih, Text.utf8Length, String.length_utf8EncodeChar]

namespace Hex

open Numeral

/-- The texts of two digits for each byte. -/
inductive Spells : List Char → Bytes → Prop
  | nil : Spells [] []
  | cons {high low : Char} {h l : Nat} {rest : List Char} {bytes : Bytes}
    (first : digitValue? high = some h) (second : digitValue? low = some l)
    (others : Spells rest bytes) : Spells (high :: low :: rest) (UInt8.ofNat (16 * h + l) :: bytes)

theorem ofDigits?_eq_some_iff {digits : List Char} {bytes : Bytes} :
    ofDigits? digits = some bytes ↔ Spells digits bytes := by
  constructor
  · intro read
    fun_induction ofDigits? digits generalizing bytes with
    | case1 =>
      cases read
      exact .nil
    | case2 => cases read
    | case3 high low rest ih =>
      simp only [Option.bind_eq_bind, Option.bind_eq_some_iff] at read
      obtain ⟨h, first, l, second, others, third, made⟩ := read
      cases made
      exact .cons first second (ih third)
  · intro spells
    induction spells with
    | nil => rfl
    | cons first second _ ih => simp [ofDigits?, first, second, ih]

/-- A byte string is spelled by its digits. -/
theorem spells_digits (bytes : Bytes) : Spells (digits bytes) bytes := by
  induction bytes with
  | nil => exact .nil
  | cons byte rest ih =>
    have small := byte.toNat_lt
    have whole : UInt8.ofNat (16 * (byte.toNat / 16) + byte.toNat % 16) = byte := by
      rw [Nat.div_add_mod, UInt8.ofNat_toNat]
    have spelled : Spells (digits (byte :: rest))
        (UInt8.ofNat (16 * (byte.toNat / 16) + byte.toNat % 16) :: rest) := by
      refine .cons (digitValue?_hexDigit _ ?_) (digitValue?_hexDigit _ ?_) ih
      · omega
      · omega
    rwa [whole] at spelled

/-- The one text that is written for a byte string: `0x` and then two digits for each byte, in
small letters. -/
def IsText (text : String) (bytes : Bytes) : Prop :=
  ∃ digits, text.toList = '0' :: 'x' :: digits ∧ Spells digits bytes ∧
    ∀ c ∈ digits, ('0' ≤ c ∧ c ≤ '9') ∨ ('a' ≤ c ∧ c ≤ 'f')

theorem isText_text (bytes : Bytes) : IsText (text bytes) bytes := by
  refine ⟨digits bytes, ?_, spells_digits bytes, fun c listed => ?_⟩
  · simp only [text, bare, String.toList_append, String.toList_ofList]
    rfl
  · have small : ∀ n : Fin 16,
        ('0' ≤ hexDigit n ∧ hexDigit n ≤ '9') ∨ ('a' ≤ hexDigit n ∧ hexDigit n ≤ 'f') := by decide
    obtain ⟨byte, -, written⟩ := List.mem_flatMap.mp listed
    have bound := byte.toNat_lt
    rcases List.mem_pair.mp written with rfl | rfl
    · exact small ⟨byte.toNat / 16, by omega⟩
    · exact small ⟨byte.toNat % 16, by omega⟩

section Spelled

variable {digits : List Char} {bytes : Bytes}

theorem Spells.length_eq (spells : Spells digits bytes) : digits.length = 2 * bytes.length := by
  induction spells with
  | nil => rfl
  | cons _ _ _ ih =>
    simp only [List.length_cons]
    omega

/-- The digits write the number of the bytes. -/
theorem Spells.hasDigits (spells : Spells digits bytes) :
    ∃ values, HasDigits 16 digits values ∧
      Nat.ofDigits 16 values.reverse = Bytes.toNatBE bytes := by
  induction spells with
  | nil => exact ⟨[], .nil, rfl⟩
  | @cons high low h l rest bytes first second others ih =>
    obtain ⟨values, has, total⟩ := ih
    have highSmall := digitValue?_lt first
    have lowSmall := digitValue?_lt second
    have byte : (UInt8.ofNat (16 * h + l)).toNat = 16 * h + l := by
      rw [UInt8.toNat_ofNat']
      exact Nat.mod_eq_of_lt (by omega)
    have counted : values.length = 2 * bytes.length := has.length_eq.symm.trans others.length_eq
    have bound : Bytes.bound bytes.length = 16 ^ values.length := by
      rw [counted, Nat.pow_mul]
      rfl
    have lowHas : HasDigits 16 (low :: rest) (l :: values) := .cons (digit?_sixteen.mpr second) has
    refine ⟨h :: l :: values, .cons (digit?_sixteen.mpr first) lowHas, ?_⟩
    rw [ofDigits_reverse_cons, ofDigits_reverse_cons, total, Bytes.toNatBE_cons, byte, bound,
      List.length_cons]
    ring

theorem Spells.isAlphanum (spells : Spells digits bytes) : ∀ c ∈ digits, c.isAlphanum = true := by
  obtain ⟨values, has, -⟩ := spells.hasDigits
  exact has.isAlphanum

/-- Digits with or without `0x` are made of letters and digits. -/
theorem Spells.isAlphanum_of_eq {text : List Char} (spells : Spells digits bytes)
    (written : text = digits ∨ text = '0' :: 'x' :: digits) :
    ∀ c ∈ text, c.isAlphanum = true := by
  rcases written with rfl | rfl
  · exact spells.isAlphanum
  · exact List.forall_mem_cons.mpr ⟨rfl, List.forall_mem_cons.mpr ⟨rfl, spells.isAlphanum⟩⟩

/-- Digits that pair up spell a byte string. -/
theorem exists_spells {values : List Nat} (has : HasDigits 16 digits values)
    (paired : digits.length % 2 = 0) : ∃ bytes, Spells digits bytes := by
  fun_induction ofDigits? digits generalizing values with
  | case1 => exact ⟨[], .nil⟩
  | case2 => cases paired
  | case3 high low rest ih =>
    cases has with
    | cons first others =>
      cases others with
      | cons second others =>
        have even : rest.length % 2 = 0 := by
          simp only [List.length_cons] at paired
          omega
        obtain ⟨bytes, spells⟩ := ih others even
        exact ⟨_, .cons (digit?_sixteen.mp first) (digit?_sixteen.mp second) spells⟩

end Spelled

/-- Only `0x` is taken off. -/
theorem eq_unprefixed (text : List Char) :
    text = unprefixed text ∨ text = '0' :: 'x' :: unprefixed text := by
  unfold unprefixed
  cases found : Text.after? "0x" text with
  | none => exact .inl rfl
  | some rest => exact .inr (Text.after?_eq_some_iff.mp found)

/-- What is left is what was written behind an optional `0x`, if it is made of digits. -/
theorem unprefixed_eq_iff {text digits : List Char} {values : List Nat}
    (has : HasDigits 16 digits values) :
    unprefixed text = digits ↔ text = digits ∨ text = '0' :: 'x' :: digits := by
  constructor
  · rintro rfl
    exact eq_unprefixed text
  · rintro (rfl | rfl)
    · rcases eq_unprefixed text with same | same
      · exact same.symm
      · rw [same] at has
        rcases has with _ | ⟨-, _ | ⟨second, -⟩⟩
        cases second
    · have found : Text.after? "0x" ('0' :: 'x' :: digits) = some digits :=
        Text.after?_eq_some_iff.mpr rfl
      rw [unprefixed, found, Option.getD_some]

/-- A text is read as the bytes that it spells. -/
theorem parse_eq_ok_iff {text : String} {bytes : Bytes} :
    parse text = .ok bytes ↔ ∃ digits,
      (text.toList = digits ∨ text.toList = '0' :: 'x' :: digits) ∧ Spells digits bytes := by
  constructor
  · intro read
    unfold parse at read
    dsimp only at read
    split at read
    next => cases read
    split at read
    next found =>
      cases read
      exact ⟨_, eq_unprefixed text.toList, ofDigits?_eq_some_iff.mp found⟩
    next => cases read
  · rintro ⟨digits, written, spells⟩
    obtain ⟨values, has, -⟩ := spells.hasDigits
    have left : unprefixed text.toList = digits := (unprefixed_eq_iff has).mpr written
    have paired : Text.utf8Length digits % 2 ≠ 1 := by
      rw [Text.utf8Length_of_isAlphanum spells.isAlphanum, spells.length_eq]
      omega
    unfold parse
    simp only [left, if_neg paired, ofDigits?_eq_some_iff.mpr spells]

theorem IsText.parse_eq_ok {text : String} {bytes : Bytes} (written : IsText text bytes) :
    parse text = .ok bytes := by
  obtain ⟨digits, same, spells, -⟩ := written
  exact parse_eq_ok_iff.mpr ⟨digits, .inr same, spells⟩

theorem IsText.isAlphanum {text : String} {bytes : Bytes} (written : IsText text bytes) :
    ∀ c ∈ text.toList, c.isAlphanum = true := by
  obtain ⟨digits, same, spells, -⟩ := written
  exact spells.isAlphanum_of_eq (.inr same)

/-- A byte string is no longer than its text. -/
theorem length_le_of_parse {text : String} {bytes : Bytes} (read : parse text = .ok bytes) :
    bytes.length ≤ (Bytes.ofText text).length := by
  obtain ⟨digits, written, spells⟩ := parse_eq_ok_iff.mp read
  have counted := spells.length_eq
  rw [Bytes.length_ofText, Text.utf8Length_of_isAlphanum (spells.isAlphanum_of_eq written)]
  rcases written with same | same
  · rw [same]
    omega
  · rw [same, List.length_cons, List.length_cons]
    omega

end Hex

end MoveWallet
