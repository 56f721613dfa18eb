import MoveWallet.Proofs.Abi.Argument

/-! # Integer arguments at different widths

The narrow integers and those of 256 bits have readers of their own. What a narrow type takes, each
wider type takes as the same number; the other way, the widest type also takes hexadecimal numerals
and underscores, which no other type does, but numbers and runs of decimal digits are taken wherever
they fit.
-/

namespace MoveWallet

private theorem TypeTag.width?_le {type : TypeTag} {width : Nat} (wide : type.width? = some width) :
    width ≤ 32 := by
  cases type <;> cases wide <;> decide

namespace Argument

/-- JSON numbers, and texts of decimal digits with blanks around them. -/
inductive IsPlainInteger : Json → Prop
  | number (value : Json.Number) : IsPlainInteger (.number value)
  | digits {text : String} {body : List Char} (pads : Text.Pads body text.toList)
    (decimal : ∀ c ∈ body, c.isDigit = true) : IsPlainInteger (.string text)

section Numerals

variable {body : List Char} {narrow wide n : Nat}

private theorem isAlphanum_of_isDigit (decimal : ∀ c ∈ body, c.isDigit = true) :
    ∀ c ∈ body, c.isAlphanum = true := by
  intro c member
  rw [Char.isAlphanum, decimal c member, Bool.or_true]

/-- Digits are a decimal numeral of 256 bits only without `0x`. -/
private theorem unsigned_of_isDigit (decimal : ∀ c ∈ body, c.isDigit = true)
    (numeral : U256.IsNumeral body n) : Numeral.Unsigned body n := by
  rcases numeral with ⟨digits, rfl, -⟩ | grouped
  · have x : 'x'.isDigit = true := decimal 'x' (List.mem_cons_of_mem _ List.mem_cons_self)
    cases x
  · exact Numeral.Grouped.unsigned grouped (isAlphanum_of_isDigit decimal)

/-- Every width takes the numerals of the narrower ones. -/
theorem IsNumeral.widen (numeral : IsNumeral narrow body n) (narrower : narrow < 32) :
    IsNumeral wide body n := by
  have unsigned : Numeral.Unsigned body n := by
    rwa [IsNumeral, if_neg narrower.ne] at numeral
  unfold IsNumeral
  split_ifs
  · exact .inr (Numeral.Unsigned.grouped unsigned)
  · exact unsigned

/-- Every width takes runs of digits. -/
private theorem IsNumeral.of_isDigit (numeral : IsNumeral wide body n)
    (decimal : ∀ c ∈ body, c.isDigit = true) : IsNumeral narrow body n := by
  have unsigned : Numeral.Unsigned body n := by
    unfold IsNumeral at numeral
    split_ifs at numeral
    · exact unsigned_of_isDigit decimal numeral
    · exact numeral
  unfold IsNumeral
  split_ifs
  · exact .inr (Numeral.Unsigned.grouped unsigned)
  · exact unsigned

end Numerals

section Written

variable {json : Json} {narrow wide n : Nat}

private theorem WritesInteger.widen (written : WritesInteger narrow n json)
    (narrower : narrow < 32) : WritesInteger wide n json := by
  cases written with
  | number => exact .number
  | numeral pads numeral => exact .numeral pads (numeral.widen narrower)

private theorem WritesInteger.of_isPlainInteger (written : WritesInteger wide n json)
    (plain : IsPlainInteger json) : WritesInteger narrow n json := by
  cases written with
  | number => exact .number
  | @numeral text body pads numeral =>
    cases plain with
    | @digits _ digits padded decimal =>
      -- neither has blanks, so both are what is left of the text when it is trimmed
      have solid : ∀ c ∈ digits, Text.isBlank c = false := fun c member =>
        Text.isBlank_eq_false_of_isAlphanum (isAlphanum_of_isDigit decimal c member)
      have same : body = digits :=
        (Text.trim_of_pads pads numeral.isBlank_eq_false).symm.trans
          (Text.trim_of_pads padded solid)
      subst same
      exact .numeral pads (numeral.of_isDigit decimal)

end Written

/-- Integers are encoded alike at all widths that they fit. A value that a type takes is taken by
every wider type, and its encoding there has zeros behind it. If the number fits a narrower type,
this type takes the value too, unless it is written as only integers of 256 bits are. -/
theorem encode_widens {narrow wide : TypeTag} {m n : Nat} (narrowWidth : narrow.width? = some m)
    (wideWidth : wide.width? = some n) (narrower : m < n) (json : Json) :
    (∀ bytes, encode narrow json = .ok bytes →
      bytes.length = m ∧ encode wide json = .ok (bytes.padRight n)) ∧
    ∀ bytes, encode wide json = .ok bytes → Bytes.toNatLE bytes < Bytes.bound m →
      (n = 32 → IsPlainInteger json) → encode narrow json = .ok (bytes.take m) := by
  have bounded : n ≤ 32 := TypeTag.width?_le wideWidth
  have split : n = m + (n - m) := by omega
  rw [encode_integer narrowWidth, encode_integer wideWidth]
  constructor
  · intro bytes encoded
    obtain ⟨k, written, small, rfl⟩ := integer_eq_ok_iff.mp encoded
    have longer : k < Bytes.bound n :=
      small.trans_le (Nat.pow_le_pow_right (by decide) narrower.le)
    have padded : Bytes.ofNatLE n k = (Bytes.ofNatLE m k).padRight n := by
      rw [Bytes.padRight, Bytes.length_ofNatLE, ← Bytes.ofNatLE_add small, ← split]
    refine ⟨Bytes.length_ofNatLE m k, integer_eq_ok_iff.mpr ⟨k, ?_, longer, padded⟩⟩
    exact written.widen (by omega)
  · intro bytes encoded fits plain
    obtain ⟨k, written, small, rfl⟩ := integer_eq_ok_iff.mp encoded
    rw [Bytes.toNatLE_ofNatLE, Nat.mod_eq_of_lt small] at fits
    have cut : Bytes.ofNatLE m k = (Bytes.ofNatLE n k).take m := by
      rw [split, Bytes.ofNatLE_add fits, List.take_left' (Bytes.length_ofNatLE m k)]
    refine integer_eq_ok_iff.mpr ⟨k, ?_, fits, cut⟩
    by_cases widest : n = 32
    · exact written.of_isPlainInteger (plain widest)
    · exact written.widen (by omega)

/-- A byte as an integer of 256 bits and back. -/
theorem encode_widens_byte :
    let json : Json := .string "\t0200 "
    encode .u8 json = .ok [200] ∧ encode .u256 json = .ok (200 :: List.replicate 31 0) ∧
      IsPlainInteger json := by
  intro json
  have byte : encode .u8 json = .ok [200] := by decide +kernel
  have pads : Text.Pads ['0', '2', '0', '0'] "\t0200 ".toList :=
    ⟨['\t'], [' '], List.all_eq_true.mp rfl, List.all_eq_true.mp rfl, rfl⟩
  have plain : IsPlainInteger json := .digits pads (List.all_eq_true.mp rfl)
  have byteWidth : TypeTag.u8.width? = some 1 := rfl
  have wideWidth : TypeTag.u256.width? = some 32 := rfl
  have widened := encode_widens byteWidth wideWidth (by decide) json
  have wide := (widened.1 _ byte).2
  exact ⟨widened.2 _ wide (by decide) fun _ => plain, wide, plain⟩

/-- A hexadecimal numeral is of the widest integers only, however small its number is. -/
example : encode .u256 (.string "0x10") = .ok (16 :: List.replicate 31 0) ∧
    encode .u128 (.string "0x10") = .error (.invalidInteger "u128" "0x10") := by
  decide +kernel

end Argument

end MoveWallet
