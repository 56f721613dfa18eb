import MoveWallet.Address
import MoveWallet.Proofs.Bytes.Hex
import MoveWallet.Proofs.Outcome

/-! # The texts of addresses

The relaxed reader takes up to 64 digits of the number of an address, with or without `0x`. The
strict reader takes `0x` with all 64 digits, or with the one digit of a number below sixteen. Both
give the number that is written, and so both give an address back from either of its texts.
-/

namespace MoveWallet.Address

open Numeral

/-! ## Special addresses -/

/-- The last byte stands alone, below the number of all others. -/
private theorem exists_last (address : Address) :
    ∃ last, address.bytes.toList.drop 31 = [last] ∧
      address.toNat = Bytes.toNatBE (address.bytes.toList.take 31) * 256 + last.toNat := by
  have width : (address.bytes.toList.drop 31).length = 1 := by
    rw [List.length_drop, address.bytes.length_eq]
  obtain ⟨last, only⟩ := List.length_eq_one_iff.mp width
  have whole : address.bytes.toList = address.bytes.toList.take 31 ++ [last] := by
    rw [← only, List.take_append_drop]
  exact ⟨last, only, by rw [toNat, FixedBytes.toNatBE, whole, Bytes.toNatBE_concat, ← whole]⟩

/-- The special addresses are the numbers below sixteen. -/
theorem isSpecial_iff {address : Address} : address.isSpecial = true ↔ address.toNat < 16 := by
  obtain ⟨last, only, number⟩ := exists_last address
  have zeros : (address.bytes.toList.take 31).all (· = 0) = true ↔
      Bytes.toNatBE (address.bytes.toList.take 31) = 0 := by
    rw [Bytes.toNatBE_eq_zero_iff, List.all_eq_true]
    simp only [decide_eq_true_eq]
  have small : [last].all (· < 16) = true ↔ last.toNat < 16 := by
    simp [UInt8.lt_iff_toNat_lt]
  rw [isSpecial, only, Bool.and_eq_true, zeros, small, number]
  omega

/-- The text of a special address is one digit. -/
theorem text_of_lt {address : Address} (special : address.toNat < 16) :
    address.text.toList = ['0', 'x', hexDigit address.toNat] := by
  obtain ⟨last, only, number⟩ := exists_last address
  have digit : address.toNat = last.toNat := by omega
  rw [text, if_pos (isSpecial_iff.mpr special), String.toList_ofList, only, digit]
  rfl

private theorem text_of_le {address : Address} (long : 16 ≤ address.toNat) :
    address.text = address.longText := by
  rw [text, if_neg (isSpecial_iff.not.mpr (Nat.not_lt.mpr long))]

/-! ## The relaxed reader -/

/-- The texts that the relaxed reader takes for an address. -/
def RelaxedText (text : String) (address : Address) : Prop :=
  ∃ digits, (text.toList = digits ∨ text.toList = '0' :: 'x' :: digits) ∧ digits.length ≤ 64 ∧
    Writes 16 digits address.toNat

theorem toNat_ofNat {n : Nat} (small : n < 16 ^ 64) : (ofNat n).toNat = n := by
  have bound : Bytes.bound 32 = 16 ^ 64 := by decide
  rw [toNat, ofNat, FixedBytes.toNatBE, FixedBytes.ofNatBE, Bytes.toNatBE_ofNatBE, bound,
    Nat.mod_eq_of_lt small]

/-- Up to 64 hexadecimal digits write the number of an address. -/
private theorem exists_writes_toNat_iff {digits : List Char} (short : digits.length ≤ 64) :
    (∃ address : Address, Writes 16 digits address.toNat) ↔
      digits ≠ [] ∧ ∀ c ∈ digits, IsHexDigit c := by
  rw [← exists_writes_iff]
  constructor
  · rintro ⟨address, writes⟩
    exact ⟨address.toNat, writes⟩
  · rintro ⟨n, writes⟩
    have small : n < 16 ^ 64 :=
      (writes.lt (by decide)).trans_le (Nat.pow_le_pow_right (by decide) short)
    exact ⟨ofNat n, (toNat_ofNat small).symm ▸ writes⟩

theorem parseRelaxed_eq_ok_iff {text : String} {address : Address} :
    parseRelaxed text = .ok address ↔ RelaxedText text address := by
  constructor
  · intro read
    unfold parseRelaxed at read
    dsimp only at read
    split at read
    next => cases read
    next nonempty =>
      split at read
      next => cases read
      next short =>
        split at read
        next => cases read
        next bytes found =>
          split at read
          next fixed exact =>
            cases read
            have spells := Hex.ofDigits?_eq_some_iff.mp found
            obtain ⟨values, padded, total⟩ := spells.hasDigits
            obtain ⟨others, has, rfl⟩ := hasDigits_zeros_append_iff.mp padded
            have number : toNat ⟨fixed⟩ = Bytes.toNatBE bytes :=
              congrArg Bytes.toNatBE (FixedBytes.ofList?_eq_some_iff.mp exact)
            rw [Text.utf8Length_of_isAlphanum has.isAlphanum, Nat.not_lt] at short
            rw [ofDigits_reverse_zeros_append] at total
            refine ⟨_, Hex.eq_unprefixed text.toList, short, ?_, others, has, ?_⟩
            · rwa [List.isEmpty_iff] at nonempty
            · rw [number, total]
          next => cases read
  · rintro ⟨digits, written, short, nonempty, values, has, total⟩
    have left : Hex.unprefixed text.toList = digits := (Hex.unprefixed_eq_iff has).mpr written
    have narrow : Text.utf8Length digits = digits.length :=
      Text.utf8Length_of_isAlphanum has.isAlphanum
    have padded : HasDigits 16 (List.replicate (64 - digits.length) '0' ++ digits)
        (List.replicate (64 - digits.length) 0 ++ values) :=
      hasDigits_zeros_append_iff.mpr ⟨values, has, rfl⟩
    have full : (List.replicate (64 - digits.length) '0' ++ digits).length = 64 := by
      rw [List.length_append, List.length_replicate]
      omega
    obtain ⟨bytes, spells⟩ := Hex.exists_spells padded (by rw [full])
    have width : bytes.length = 32 := by
      have counted := spells.length_eq
      omega
    -- the bytes have the number of the address, and there is only one such string of 32 bytes
    have number : Bytes.toNatBE bytes = Bytes.toNatBE address.bytes.toList := by
      obtain ⟨values', padded', total'⟩ := spells.hasDigits
      obtain ⟨others, has', rfl⟩ := hasDigits_zeros_append_iff.mp padded'
      rw [ofDigits_reverse_zeros_append] at total'
      rw [← total', has'.unique has]
      exact total
    have same : address.bytes.toList = bytes :=
      ((Bytes.toNatBE_inj (width.trans address.bytes.length_eq.symm)).mp number).symm
    have fixed : FixedBytes.ofList? 32 bytes = some address.bytes :=
      FixedBytes.ofList?_eq_some_iff.mpr same
    unfold parseRelaxed
    simp only [left, List.isEmpty_iff, nonempty, narrow, Nat.not_lt.mpr short,
      Hex.ofDigits?_eq_some_iff.mpr spells, fixed, if_false]

private theorem exists_relaxedText_iff {text : String} :
    (∃ address, RelaxedText text address) ↔ ∃ digits,
      (text.toList = digits ∨ text.toList = '0' :: 'x' :: digits) ∧ digits.length ≤ 64 ∧
        digits ≠ [] ∧ ∀ c ∈ digits, IsHexDigit c := by
  unfold RelaxedText
  rw [exists_comm]
  refine exists_congr fun digits => ?_
  simp only [exists_and_left]
  exact and_congr_right fun _ => and_congr_right exists_writes_toNat_iff

/-- The long text has all digits. -/
theorem longText_eq (address : Address) :
    ∃ digits, address.longText.toList = '0' :: 'x' :: digits ∧ digits.length = 64 ∧
      Writes 16 digits address.toNat := by
  have spells := Hex.spells_digits address.bytes.toList
  have counted : (Hex.digits address.bytes.toList).length = 64 := by
    rw [spells.length_eq, address.bytes.length_eq]
  obtain ⟨values, has, total⟩ := spells.hasDigits
  refine ⟨_, ?_, counted, List.ne_nil_of_length_pos (counted ▸ by decide), values, has, total⟩
  simp [longText, Hex.text, Hex.bare]

private theorem relaxedText_longText (address : Address) :
    RelaxedText address.longText address := by
  obtain ⟨digits, prefixed, counted, writes⟩ := longText_eq address
  exact ⟨digits, .inr prefixed, counted.le, writes⟩

/-- The text of an address is one digit of a special address, or all digits. -/
theorem relaxedText_text (address : Address) : RelaxedText address.text address := by
  rcases Nat.lt_or_ge address.toNat 16 with special | long
  · refine ⟨[hexDigit address.toNat], .inr (text_of_lt special), Nat.one_le_ofNat, ?_⟩
    exact writes_singleton.mpr (digit?_sixteen.mpr (digitValue?_hexDigit _ special))
  · rw [text_of_le long]
    exact relaxedText_longText address

/-- An address is read back from its text. -/
theorem parseRelaxed_text (address : Address) : parseRelaxed address.text = .ok address :=
  parseRelaxed_eq_ok_iff.mpr (relaxedText_text address)

/-- The text of an address has letters and digits only. -/
theorem isAlphanum_of_parseRelaxed {text : String} {address : Address}
    (read : parseRelaxed text = .ok address) : ∀ c ∈ text.toList, c.isAlphanum = true := by
  obtain ⟨digits, written, -, writes⟩ := parseRelaxed_eq_ok_iff.mp read
  have plain := writes.isAlphanum
  rcases written with same | same
  · rwa [same]
  · rw [same]
    refine List.forall_mem_cons.mpr ⟨rfl, ?_⟩
    exact List.forall_mem_cons.mpr ⟨rfl, plain⟩

/-! ## The strict reader -/

/-- The texts that the strict reader takes for an address. -/
def StrictText (text : String) (address : Address) : Prop :=
  ∃ digits, text.toList = '0' :: 'x' :: digits ∧ (digits.length = 64 ∨ digits.length = 1) ∧
    Writes 16 digits address.toNat

section Strict

variable {text : String} {address : Address} {digits : List Char}

/-- `x` is no digit, so that only what follows `0x` is the numeral. -/
private theorem relaxedText_prefixed_iff (prefixed : text.toList = '0' :: 'x' :: digits) :
    RelaxedText text address ↔ digits.length ≤ 64 ∧ Writes 16 digits address.toNat := by
  constructor
  · rintro ⟨numeral, same | same, short, writes⟩
    · rw [← same, prefixed] at writes
      obtain ⟨-, values, has, -⟩ := writes
      rcases has with _ | ⟨-, _ | ⟨second, -⟩⟩
      cases second
    · rw [prefixed] at same
      cases same
      exact ⟨short, writes⟩
  · rintro ⟨short, writes⟩
    exact ⟨digits, .inr prefixed, short, writes⟩

/-- Of what is written behind `0x`, the strict reader refuses leading zeros of special addresses and
whatever leaves out digits of the others. -/
theorem parseStrict_of_parseRelaxed (prefixed : text.toList = '0' :: 'x' :: digits)
    (read : parseRelaxed text = .ok address) :
    parseStrict text =
      if digits.length = 64 then .ok address
      else if 16 ≤ address.toNat then .error (.longFormRequired text)
      else if digits.length = 1 then .ok address
      else .error (.paddingZeroes text) := by
  have found : Text.after? "0x" text.toList = some digits :=
    Text.after?_eq_some_iff.mpr prefixed
  have ordinary : ¬ address.isSpecial = true ↔ 16 ≤ address.toNat := by
    rw [isSpecial_iff, Nat.not_lt]
  unfold parseStrict
  simp only [found, read, bind, Except.bind, ordinary]

private theorem exists_of_parseStrict (read : parseStrict text = .ok address) :
    ∃ digits, text.toList = '0' :: 'x' :: digits ∧ parseRelaxed text = .ok address := by
  unfold parseStrict at read
  split at read
  next => cases read
  next digits found =>
    obtain ⟨other, relaxed, made⟩ := Outcome.bind_eq_ok_iff.mp read
    refine ⟨digits, Text.after?_eq_some_iff.mp found, ?_⟩
    split_ifs at made
    · cases made
      exact relaxed
    · cases made
      exact relaxed

private theorem parseStrict_eq_ok_iff :
    parseStrict text = .ok address ↔ StrictText text address := by
  constructor
  · intro read
    obtain ⟨digits, prefixed, relaxed⟩ := exists_of_parseStrict read
    have writes := ((relaxedText_prefixed_iff prefixed).mp (parseRelaxed_eq_ok_iff.mp relaxed)).2
    rw [parseStrict_of_parseRelaxed prefixed relaxed] at read
    split_ifs at read with long _ short
    · exact ⟨digits, prefixed, .inl long, writes⟩
    · exact ⟨digits, prefixed, .inr short, writes⟩
  · rintro ⟨digits, prefixed, counted, writes⟩
    have relaxed : parseRelaxed text = .ok address :=
      parseRelaxed_eq_ok_iff.mpr ((relaxedText_prefixed_iff prefixed).mpr ⟨by omega, writes⟩)
    rw [parseStrict_of_parseRelaxed prefixed relaxed]
    rcases counted with long | short
    · rw [if_pos long]
    · -- one digit writes a number below sixteen
      have special : address.toNat < 16 := by
        obtain ⟨c, rfl⟩ := List.length_eq_one_iff.mp short
        exact digitValue?_lt (digit?_sixteen.mp (writes_singleton.mp writes))
      rw [if_neg (by omega), if_neg (Nat.not_le.mpr special), if_pos short]

private theorem exists_strictText_iff :
    (∃ address, StrictText text address) ↔ ∃ digits,
      text.toList = '0' :: 'x' :: digits ∧ (digits.length = 64 ∨ digits.length = 1) ∧
        digits ≠ [] ∧ ∀ c ∈ digits, IsHexDigit c := by
  unfold StrictText
  rw [exists_comm]
  refine exists_congr fun digits => ?_
  simp only [exists_and_left]
  exact and_congr_right fun _ => and_congr_right fun counted =>
    exists_writes_toNat_iff (by omega)

private theorem strictText_longText (address : Address) : StrictText address.longText address := by
  obtain ⟨digits, prefixed, counted, writes⟩ := longText_eq address
  exact ⟨digits, prefixed, .inl counted, writes⟩

private theorem strictText_text (address : Address) : StrictText address.text address := by
  rcases Nat.lt_or_ge address.toNat 16 with special | long
  · refine ⟨[hexDigit address.toNat], text_of_lt special, .inr rfl, ?_⟩
    exact writes_singleton.mpr (digit?_sixteen.mpr (digitValue?_hexDigit _ special))
  · rw [text_of_le long]
    exact strictText_longText address

end Strict

/-- The readers take the texts of addresses and nothing else. Where both take a text they agree; a
text behind `0x` that only the relaxed reader takes is refused for its missing digits, or for its
zeros if the address is special. An address has two texts at most, and either is read by both
readers: `0x` with all 64 digits, and a text that is short exactly for the special addresses. -/
theorem readers_agree :
    (∀ text, (∃ address, parseRelaxed text = .ok address) ↔ ∃ digits,
      (text.toList = digits ∨ text.toList = '0' :: 'x' :: digits) ∧ digits.length ≤ 64 ∧
        digits ≠ [] ∧ ∀ c ∈ digits, IsHexDigit c) ∧
    (∀ text address, parseRelaxed text = .ok address ↔ RelaxedText text address) ∧
    (∀ text, (∃ address, parseStrict text = .ok address) ↔ ∃ digits,
      text.toList = '0' :: 'x' :: digits ∧ (digits.length = 64 ∨ digits.length = 1) ∧
        digits ≠ [] ∧ ∀ c ∈ digits, IsHexDigit c) ∧
    (∀ text address, parseStrict text = .ok address ↔ StrictText text address) ∧
    (∀ text strict relaxed, parseStrict text = .ok strict → parseRelaxed text = .ok relaxed →
      strict = relaxed) ∧
    (∀ text digits address, text.toList = '0' :: 'x' :: digits →
      parseRelaxed text = .ok address → (∀ strict, parseStrict text ≠ .ok strict) →
      parseStrict text =
        .error (if 16 ≤ address.toNat then .longFormRequired text else .paddingZeroes text)) ∧
    ∀ address : Address,
      (∀ text ∈ [address.text, address.longText],
        parseStrict text = .ok address ∧ parseRelaxed text = .ok address) ∧
      address.longText.length = 66 ∧
      address.text.length = if address.toNat < 16 then 3 else 66 := by
  refine ⟨fun _ => ?_, fun _ _ => parseRelaxed_eq_ok_iff, fun _ => ?_,
    fun _ _ => parseStrict_eq_ok_iff, fun text strict relaxed readStrict readRelaxed => ?_,
    fun text digits address prefixed relaxed refused => ?_, fun address => ?_⟩
  · simp only [parseRelaxed_eq_ok_iff, exists_relaxedText_iff]
  · simp only [parseStrict_eq_ok_iff, exists_strictText_iff]
  · obtain ⟨digits, -, relaxed'⟩ := exists_of_parseStrict readStrict
    exact Except.ok.inj (relaxed'.symm.trans readRelaxed)
  · have outcome := parseStrict_of_parseRelaxed prefixed relaxed
    rw [outcome] at refused ⊢
    split_ifs at refused ⊢ with _ long
    · exact absurd rfl (refused address)
    · rfl
    · exact absurd rfl (refused address)
    · rfl
  · have width : address.longText.length = 66 := by
      obtain ⟨digits, prefixed, counted, -⟩ := longText_eq address
      rw [← String.length_toList, prefixed, List.length_cons, List.length_cons, counted]
    refine ⟨List.forall_mem_cons.mpr ⟨?_, List.forall_mem_singleton.mpr ?_⟩, width, ?_⟩
    · exact ⟨parseStrict_eq_ok_iff.mpr (strictText_text address),
        parseRelaxed_eq_ok_iff.mpr (relaxedText_text address)⟩
    · exact ⟨parseStrict_eq_ok_iff.mpr (strictText_longText address),
        parseRelaxed_eq_ok_iff.mpr (relaxedText_longText address)⟩
    · split_ifs with special
      · rw [← String.length_toList, text_of_lt special]
        rfl
      · rw [text_of_le (Nat.not_lt.mp special), width]

/-- A special address with a zero too many, and an address that is not special with too few. -/
theorem readers_agree_short :
    (∀ strict, parseStrict "0x0f" ≠ .ok strict) ∧ (∀ strict, parseStrict "0x10" ≠ .ok strict) ∧
      parseStrict "0x0f" = .error (.paddingZeroes "0x0f") ∧
      parseStrict "0x10" = .error (.longFormRequired "0x10") := by
  have refused (text : String) (high low : Char) (two : text.toList = ['0', 'x', high, low])
      (strict : Address) : parseStrict text ≠ .ok strict := by
    intro read
    obtain ⟨digits, prefixed, counted, -⟩ := parseStrict_eq_ok_iff.mp read
    rw [two] at prefixed
    cases prefixed
    simp at counted
  have padded : parseRelaxed "0x0f" = .ok (ofNat 15) := by decide +kernel
  have cut : parseRelaxed "0x10" = .ok (ofNat 16) := by decide +kernel
  refine ⟨refused _ '0' 'f' rfl, refused _ '1' '0' rfl, ?_, ?_⟩
  · exact readers_agree.2.2.2.2.2.1 _ ['0', 'f'] _ rfl padded (refused _ '0' 'f' rfl)
  · exact readers_agree.2.2.2.2.2.1 _ ['1', '0'] _ rfl cut (refused _ '1' '0' rfl)

end MoveWallet.Address
