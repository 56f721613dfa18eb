import MoveWallet.Proofs.Bytes.Basic
import MoveWallet.Proofs.Text.Numeral
import MoveWallet.Proofs.Text.Segment
import MoveWallet.Proofs.Wire.Canonical

/-! # Numbers, bytes and texts of wide unsigned integers

An integer of 256 bits is written as a numeral between blanks, in base sixteen behind `0x` and in
base ten otherwise. Each number below the bound has its own integer, whether it comes as a number,
as bytes, as a text or as a narrower integer, and no other number is taken for one.
-/

namespace MoveWallet.U256

open Numeral

/-- The numerals of a number in either base. -/
def IsNumeral (text : List Char) (n : Nat) : Prop :=
  (∃ digits, text = '0' :: 'x' :: digits ∧ Grouped 16 digits n) ∨ Grouped 10 text n

/-- `x` is no decimal digit. -/
private theorem not_grouped_prefixed {digits : List Char} {n : Nat} :
    ¬ Grouped 10 ('0' :: 'x' :: digits) n := by
  rintro ⟨sign, rest, signed, text_eq, -, -, values, has, -⟩
  have plain : sign = [] := by
    rcases signed with rfl | rfl
    · rfl
    · cases text_eq
  subst plain
  rw [List.nil_append] at text_eq
  subst text_eq
  rw [List.filter_cons_of_pos (by decide), List.filter_cons_of_pos (by decide)] at has
  rcases has with _ | ⟨-, _ | ⟨second, -⟩⟩
  cases second

theorem numeral?_eq_some_iff {text : List Char} {n : Nat} :
    numeral? text = some n ↔ IsNumeral text n := by
  unfold numeral? IsNumeral
  cases found : Text.after? "0x" text with
  | some digits =>
    obtain rfl := Text.after?_eq_some_iff.mp found
    constructor
    · intro read
      exact .inl ⟨digits, rfl, grouped?_eq_some_iff.mp read⟩
    · rintro (⟨_, ⟨⟩, writes⟩ | writes)
      · exact grouped?_eq_some_iff.mpr writes
      · exact absurd writes not_grouped_prefixed
  | none =>
    have plain : ∀ digits, text ≠ '0' :: 'x' :: digits := by
      rintro digits rfl
      cases found
    constructor
    · intro read
      exact .inr (grouped?_eq_some_iff.mp read)
    · rintro (⟨digits, prefixed, -⟩ | writes)
      · exact absurd prefixed (plain digits)
      · exact grouped?_eq_some_iff.mpr writes

theorem IsNumeral.isBlank_eq_false {text : List Char} {n : Nat} (numeral : IsNumeral text n) :
    ∀ c ∈ text, Text.isBlank c = false := by
  rcases numeral with ⟨digits, rfl, writes⟩ | writes
  · refine List.forall_mem_cons.mpr ⟨rfl, ?_⟩
    exact List.forall_mem_cons.mpr ⟨rfl, writes.isBlank_eq_false⟩
  · exact writes.isBlank_eq_false

private theorem IsNumeral.head?_ne {text : List Char} {n : Nat} (numeral : IsNumeral text n) :
    text.head? ≠ some '-' := by
  intro first
  obtain ⟨rest, rfl⟩ := List.head?_eq_some_iff.mp first
  rcases numeral with ⟨digits, prefixed, -⟩ | ⟨sign, digits, signed, text_eq, -, writes⟩
  · have same := List.head_eq_of_cons_eq prefixed
    exact absurd same (by decide)
  · rcases signed with rfl | rfl
    · rw [List.nil_append] at text_eq
      subst text_eq
      rw [List.filter_cons_of_pos (by decide)] at writes
      have plain := writes.isAlphanum '-' List.mem_cons_self
      exact absurd plain (by decide)
    · have same := List.head_eq_of_cons_eq text_eq
      exact absurd same (by decide)

/-! ## Conversions -/

private theorem bitLength_le_iff {n width : Nat} : bitLength n ≤ width ↔ n < 2 ^ width := by
  unfold bitLength
  split_ifs with zero
  · subst zero
    simp
  · rw [Nat.succ_le_iff, Nat.log2_lt zero]

/-- A number that fits some bytes is written there with zeros behind it. -/
private theorem ofPrefix_ofNatLE {width size n : Nat} (narrow : width ≤ size)
    (fits : n < Bytes.bound width) :
    FixedBytes.ofPrefix size (Bytes.ofNatLE width n) = FixedBytes.ofNatLE size n := by
  refine FixedBytes.ext ?_
  change (Bytes.padRight size (Bytes.ofNatLE width n)).take size = Bytes.ofNatLE size n
  rw [Bytes.padRight_ofNatLE narrow fits, List.take_of_length_le (Bytes.length_ofNatLE size n).le]

private theorem ofBytesLE_ofNatLE (n : Nat) :
    ofBytesLE (FixedBytes.ofNatLE 32 n) = BitVec.ofNat 256 n := by
  apply BitVec.eq_of_toNat_eq
  rw [ofBytesLE, FixedBytes.toNatLE, FixedBytes.ofNatLE, Bytes.toNatLE_ofNatLE,
    Bytes.bound_eq_two_pow]
  simp

/-- No byte of a number of at most 256 bits is lost. -/
theorem ofNat?_eq (n : Nat) :
    ofNat? n = if small : n < 2 ^ 256 then some (BitVec.ofNatLT n small) else none := by
  unfold ofNat?
  by_cases small : n < 2 ^ 256
  · have short : bitLength n ≤ 256 := bitLength_le_iff.mpr small
    have fits : n < Bytes.bound (max 1 ((bitLength n + 7) / 8)) := by
      rw [Bytes.bound_eq_two_pow, ← bitLength_le_iff]
      omega
    rw [dif_pos small, if_neg (Nat.not_lt.mpr short), shortestLE,
      ofPrefix_ofNatLE (by omega) fits, ofBytesLE_ofNatLE, BitVec.ofNatLT_eq_ofNat]
  · have long : 256 < bitLength n := Nat.lt_of_not_le (bitLength_le_iff.not.mpr small)
    rw [dif_neg small, if_pos long]

private theorem ofNat?_toNat (value : U256) : ofNat? value.toNat = some value := by
  rw [ofNat?_eq, dif_pos value.isLt, BitVec.ofNatLT_toNat]

private theorem toNatLE_toBytesLE (value : U256) : value.toBytesLE.toNatLE = value.toNat := by
  have small : value.toNat < Bytes.bound 32 := by
    rw [Bytes.bound_eq_two_pow]
    exact value.isLt
  exact (Bytes.toNatLE_ofNatLE 32 value.toNat).trans (Nat.mod_eq_of_lt small)

private theorem toNat_ofU128 (value : U128) : (ofU128 value).toNat = value.toNat := by
  have fits : value.toNat < Bytes.bound 16 := by
    rw [Bytes.bound_eq_two_pow]
    exact value.isLt
  have small : value.toNat < 2 ^ 256 := value.isLt.trans (by decide)
  rw [ofU128, ofPrefix_ofNatLE (by decide) fits, ofBytesLE_ofNatLE, BitVec.toNat_ofNat,
    Nat.mod_eq_of_lt small]

private theorem toNat_ofU64 (value : UInt64) : (ofU64 value).toNat = value.toNat := by
  have small : value.toNat < 2 ^ 128 := value.toNat_lt.trans (by decide)
  rw [ofU64, toNat_ofU128, BitVec.toNat_ofNat, Nat.mod_eq_of_lt small]

/-! ## Texts -/

/-- The numeral between blanks is read as its number up to the bound of 256 bits. -/
private theorem parse_of_isNumeral {text : String} {body : List Char} {n : Nat}
    (pads : Text.Pads body text.toList) (numeral : IsNumeral body n) :
    parse text = if small : n < 2 ^ 256 then .ok (BitVec.ofNatLT n small)
      else .error (.overflow text) := by
  have trimmed : Text.trim text.toList = body := Text.trim_of_pads pads numeral.isBlank_eq_false
  unfold parse
  simp only [trimmed, if_neg numeral.head?_ne, numeral?_eq_some_iff.mpr numeral, ofNat?_eq]
  split_ifs <;> rfl

/-- A text is read as the integer whose numeral stands between its blanks. -/
theorem parse_eq_ok_iff {text : String} {value : U256} :
    parse text = .ok value ↔
      ∃ body, Text.Pads body text.toList ∧ IsNumeral body value.toNat := by
  constructor
  · intro read
    have pads := Text.pads_trim text.toList
    cases found : numeral? (Text.trim text.toList) with
    | none =>
      have refused : parse text = if (Text.trim text.toList).head? = some '-'
          then .error (.negative text) else .error (.malformed text) := by
        unfold parse
        simp only [found]
      rw [refused] at read
      split_ifs at read
    | some n =>
      have numeral := numeral?_eq_some_iff.mp found
      rw [parse_of_isNumeral pads numeral] at read
      split_ifs at read with small
      cases read
      exact ⟨_, pads, by rwa [BitVec.toNat_ofNatLT]⟩
  · rintro ⟨body, pads, numeral⟩
    rw [parse_of_isNumeral pads numeral, dif_pos value.isLt, BitVec.ofNatLT_toNat]

/-! ## Every form of an integer -/

private theorem isNumeral_decimal (n : Nat) : IsNumeral (Numeral.decimal n).toList n := by
  have writes : Writes 10 (Nat.toDigits 10 n) n := writes_toDigits (by decide) (by decide) n
  rw [Numeral.decimal, Nat.toList_repr]
  exact .inr (writes.grouped (.inl rfl))

/-- The hexadecimal numeral of a number, with `0x` in front. -/
def hexadecimal (n : Nat) : String := "0x" ++ String.ofList (Nat.toDigits 16 n)

private theorem isNumeral_hexadecimal (n : Nat) : IsNumeral (hexadecimal n).toList n := by
  have writes : Writes 16 (Nat.toDigits 16 n) n := writes_toDigits (by decide) (by decide) n
  have text : (hexadecimal n).toList = '0' :: 'x' :: Nat.toDigits 16 n := by
    simp only [hexadecimal, String.toList_append, String.toList_ofList]
    rfl
  exact .inl ⟨Nat.toDigits 16 n, text, writes.grouped (.inl rfl)⟩

private theorem parse_of_isNumeral_toList {text : String} {n : Nat}
    (numeral : IsNumeral text.toList n) :
    parse text = if small : n < 2 ^ 256 then .ok (BitVec.ofNatLT n small)
      else .error (.overflow text) :=
  parse_of_isNumeral ⟨[], [], List.forall_mem_nil _, List.forall_mem_nil _, by simp⟩ numeral

private theorem parse_decimal {value : U256} {n : Nat} (same : value.toNat = n) :
    parse (Numeral.decimal n) = .ok value := by
  subst same
  rw [parse_of_isNumeral_toList (isNumeral_decimal _), dif_pos value.isLt, BitVec.ofNatLT_toNat]

private theorem decimal_of_head?_zero {value : U256}
    (first : value.decimal.toList.head? = some '0') : value.decimal = "0" := by
  rw [decimal, Numeral.decimal, Nat.toList_repr] at first
  rw [decimal, Numeral.decimal, eq_zero_of_head?_toDigits (by decide) (by decide) first]
  rfl

private theorem toBytesLE_ofBytesLE (bytes : FixedBytes 32) :
    (ofBytesLE bytes).toBytesLE = bytes := by
  have back := Bytes.ofNatLE_toNatLE bytes.toList
  rw [bytes.length_eq] at back
  have small : bytes.toNatLE < 2 ^ 256 := by
    have bound := Bytes.toNatLE_lt bytes.toList
    rwa [bytes.length_eq, Bytes.bound_eq_two_pow] at bound
  refine FixedBytes.ext ?_
  change Bytes.ofNatLE 32 (BitVec.ofNat 256 bytes.toNatLE).toNat = bytes.toList
  rw [BitVec.toNat_ofNat, Nat.mod_eq_of_lt small]
  exact back

private theorem toNat_ofBytesLE (bytes : FixedBytes 32) :
    (ofBytesLE bytes).toNat = bytes.toNatLE := by
  rw [← toNatLE_toBytesLE, toBytesLE_ofBytesLE]

theorem write_eq (value : U256) : Wire.write value = value.toBytesLE.toList := rfl

private theorem read_append (bytes : FixedBytes 32) (rest : Bytes) :
    Wire.read (bytes.toList ++ rest) = (.ok (ofBytesLE bytes), rest) := by
  have read := Canonical.read_write (ofBytesLE bytes) trivial rest
  rwa [write_eq, toBytesLE_ofBytesLE] at read

/-- The encoding of a number that fits fewer bytes has zeros behind it. -/
theorem write_of_lt {value : U256} {n width : Nat} (same : value.toNat = n)
    (fits : n < Bytes.bound width) (narrow : width ≤ 32) :
    Wire.write value = Bytes.ofNatLE width n ++ List.replicate (32 - width) 0 := by
  subst same
  rw [← Bytes.ofNatLE_add fits, Nat.add_sub_cancel' narrow]
  rfl

/-- Integers of 256 bits are the numbers below 2^256 in every form: a number is taken for an integer
exactly below this bound, whether it comes as it is or as a text, and the text says when it is too
large; the bytes of an integer, its decimal text without leading zeros and its encoding give its
number back, and a narrower integer, its text and its encoding with zeros behind it give the same
integer. -/
theorem conversions_exact :
    (∀ n, ∀ text ∈ [Numeral.decimal n, hexadecimal n], parse text =
      if small : n < 2 ^ 256 then .ok (BitVec.ofNatLT n small) else .error (.overflow text)) ∧
    (∀ n text body, Text.Pads body text.toList → IsNumeral body n → parse text =
      if small : n < 2 ^ 256 then .ok (BitVec.ofNatLT n small) else .error (.overflow text)) ∧
    (∀ n, ofNat? n = if small : n < 2 ^ 256 then some (BitVec.ofNatLT n small) else none) ∧
    (∀ value : U256, value.toBytesLE.toNatLE = value.toNat ∧ ofNat? value.toNat = some value) ∧
    (∀ value : U256, Writes 10 value.decimal.toList value.toNat ∧
      (value.decimal.toList.head? = some '0' → value.decimal = "0") ∧
      parse value.decimal = .ok value) ∧
    (∀ value : U256, Wire.write value = value.toBytesLE.toList) ∧
    (∀ (bytes : FixedBytes 32) (rest : Bytes), (ofBytesLE bytes).toNat = bytes.toNatLE ∧
      Wire.read (bytes.toList ++ rest) = (.ok (ofBytesLE bytes), rest)) ∧
    (∀ value : U128, (ofU128 value).toNat = value.toNat ∧
      parse (Numeral.decimal value.toNat) = .ok (ofU128 value) ∧
      Wire.write (ofU128 value) = Wire.write value ++ List.replicate 16 0) ∧
    ∀ value : UInt64, (ofU64 value).toNat = value.toNat ∧
      parse (Numeral.decimal value.toNat) = .ok (ofU64 value) ∧
      Wire.write (ofU64 value) = Wire.write value ++ List.replicate 24 0 := by
  refine ⟨fun n => ?_, fun n text body => parse_of_isNumeral, ofNat?_eq, fun value => ?_,
    fun value => ⟨?_, decimal_of_head?_zero, parse_decimal rfl⟩, write_eq, fun bytes rest => ?_,
    fun value => ?_, fun value => ?_⟩
  · refine List.forall_mem_cons.mpr ⟨?_, List.forall_mem_singleton.mpr ?_⟩
    · exact parse_of_isNumeral_toList (isNumeral_decimal n)
    · exact parse_of_isNumeral_toList (isNumeral_hexadecimal n)
  · exact ⟨toNatLE_toBytesLE value, ofNat?_toNat value⟩
  · rw [decimal, Numeral.decimal, Nat.toList_repr]
    exact writes_toDigits (by decide) (by decide) _
  · exact ⟨toNat_ofBytesLE bytes, read_append bytes rest⟩
  · have same := toNat_ofU128 value
    have fits : value.toNat < Bytes.bound 16 := Bytes.bound_eq_two_pow 16 ▸ value.isLt
    exact ⟨same, parse_decimal same, write_of_lt same fits (by decide)⟩
  · have same := toNat_ofU64 value
    have fits : value.toNat < Bytes.bound 8 := Bytes.bound_eq_two_pow 8 ▸ value.toNat_lt
    exact ⟨same, parse_decimal same, write_of_lt same fits (by decide)⟩

/-- The largest integer and the number after it, in both bases and between blanks. -/
theorem conversions_exact_border :
    (∃ value, parse (hexadecimal (2 ^ 256 - 1)) = .ok value ∧ value.toNat = 2 ^ 256 - 1) ∧
    parse (Numeral.decimal (2 ^ 256)) = .error (.overflow (Numeral.decimal (2 ^ 256))) ∧
    Text.Pads ['7'] " 7 ".toList ∧ IsNumeral ['7'] 7 ∧ parse " 7 " = .ok 7 ∧
    (0 : U256).decimal.toList.head? = some '0' ∧ (0 : U256).decimal = "0" := by
  obtain ⟨texts, padded, -, -, decimals, -⟩ := conversions_exact
  have blank : ∀ c ∈ [' '], Text.isBlank c = true := List.forall_mem_singleton.mpr rfl
  have pads : Text.Pads ['7'] " 7 ".toList := ⟨[' '], [' '], blank, blank, rfl⟩
  have seven : IsNumeral ['7'] 7 := isNumeral_decimal 7
  have largest : 2 ^ 256 - 1 < 2 ^ 256 := by decide
  have beyond : ¬ 2 ^ 256 < 2 ^ 256 := Nat.lt_irrefl _
  have first : (0 : U256).decimal.toList.head? = some '0' := by decide
  refine ⟨⟨BitVec.ofNatLT _ largest, ?_, BitVec.toNat_ofNatLT _ largest⟩, ?_, pads, seven, ?_,
    first, (decimals 0).2.1 first⟩
  · rw [texts _ _ (List.mem_cons_of_mem _ List.mem_cons_self), dif_pos largest]
  · rw [texts _ _ List.mem_cons_self, dif_neg beyond]
  · rw [padded 7 " 7 " ['7'] pads seven]
    rfl

end MoveWallet.U256
