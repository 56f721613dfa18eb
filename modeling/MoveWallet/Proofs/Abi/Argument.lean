import MoveWallet.Abi.Argument
import MoveWallet.Proofs.Abi.Value
import MoveWallet.Proofs.Address
import MoveWallet.Proofs.Unsigned

/-! # What arguments denote

A JSON value denotes a value of a type by one of a few rules: the kind of the type settles which
kinds of JSON are taken, and the parts of a vector or an optional value denote its items. The
encoder succeeds exactly on what denotes a value, and gives the encoding of this value.
-/

namespace MoveWallet

namespace Json

mutual

/-- Texts and arrays have their lengths in 32 bits, at any depth. -/
def Sized : Json → Prop
  | string text => (Bytes.ofText text).length < UInt32.size
  | array items => items.length < UInt32.size ∧ AllSized items
  | _ => True

def AllSized : List Json → Prop
  | [] => True
  | item :: others => Sized item ∧ AllSized others

end

private theorem allSized_iff (items : List Json) : AllSized items ↔ ∀ item ∈ items, Sized item := by
  induction items with
  | nil => simp [AllSized]
  | cons item others ih => simp only [AllSized, ih, List.forall_mem_cons]

end Json

namespace Argument

/-- The numerals of an integer of a number of bytes: only the widest ones may be hexadecimal. -/
def IsNumeral (width : Nat) (text : List Char) (n : Nat) : Prop :=
  if width = 32 then U256.IsNumeral text n else Numeral.Unsigned text n

/-- The JSON values of a truth value. -/
inductive WritesBool (value : Bool) : Json → Prop
  | bool : WritesBool value (.bool value)
  | text : WritesBool value (.string (if value then "true" else "false"))

/-- The JSON values of an integer of a number of bytes. -/
inductive WritesInteger (width n : Nat) : Json → Prop
  | number : WritesInteger width n (.number (.integer n))
  | numeral {text : String} {body : List Char} (pads : Text.Pads body text.toList)
    (numeral : IsNumeral width body n) : WritesInteger width n (.string text)

/-- The JSON values of an address. -/
inductive WritesAddress (address : Address) : Json → Prop
  | text {text : String} (written : Address.RelaxedText text address) :
    WritesAddress address (.string text)

/-- A byte string as the vector of its bytes. -/
def byteVector (bytes : Bytes) : MoveValue :=
  .vector (bytes.map fun byte => .integer 1 byte.toNat)

/-- The JSON values of a value of a type. Any JSON but null is the item of an optional value, so
that of nested optional values only the outermost can be empty. -/
inductive Denotes : TypeTag → Json → MoveValue → Prop
  | bool {json : Json} {value : Bool} (written : WritesBool value json) :
    Denotes .bool json (.bool value)
  | integer {type : TypeTag} {json : Json} {width n : Nat} (wide : type.width? = some width)
    (written : WritesInteger width n json) (small : n < Bytes.bound width) :
    Denotes type json (.integer width n)
  | address {json : Json} {value : Address} (written : WritesAddress value json) :
    Denotes .address json (.address value)
  | array {element : TypeTag} {items : List Json} {values : List MoveValue}
    (counted : items.length = values.length)
    (each : ∀ item value, (item, value) ∈ items.zip values → Denotes element item value) :
    Denotes (.vector element) (.array items) (.vector values)
  | hex {text : String} {digits : List Char} {bytes : Bytes}
    (written : text.toList = digits ∨ text.toList = '0' :: 'x' :: digits)
    (spells : Hex.Spells digits bytes) : Denotes (.vector .u8) (.string text) (byteVector bytes)
  | text {tag : StructTag} (named : tag.isString = true) (value : String) :
    Denotes tag.toTypeTag (.string value) (.text value)
  | object {tag : StructTag} {json : Json} {value : Address} (named : tag.isObject = true)
    (written : WritesAddress value json) : Denotes tag.toTypeTag json (.address value)
  | absent {tag : StructTag} {inner : TypeTag} (named : tag.isOption = true)
    (sole : tag.arguments = [inner]) : Denotes tag.toTypeTag .null (.vector [])
  | present {tag : StructTag} {inner : TypeTag} {json : Json} {value : MoveValue}
    (named : tag.isOption = true) (sole : tag.arguments = [inner]) (given : json ≠ .null)
    (item : Denotes inner json value) : Denotes tag.toTypeTag json (.vector [value])

/-! ## The parts of the encoder -/

open Outcome

variable {type : TypeTag} {json : Json} {bytes : Bytes}

private theorem bool_eq_ok_iff :
    bool type json = .ok bytes ↔ ∃ value, WritesBool value json ∧ Wire.write value = bytes := by
  constructor
  · intro encoded
    unfold bool at encoded
    split at encoded
    next value =>
      cases encoded
      exact ⟨value, .bool, rfl⟩
    next written =>
      split_ifs at encoded with isTrue isFalse
      · cases encoded
        subst isTrue
        exact ⟨true, .text, rfl⟩
      · cases encoded
        subst isFalse
        exact ⟨false, .text, rfl⟩
    next => cases encoded
  · rintro ⟨value, written, rfl⟩
    cases written with
    | bool => rfl
    | text => cases value <;> rfl

private theorem text_eq_ok_iff {written : String} :
    text type json = .ok written ↔ json = .string written := by
  cases json <;> simp [text]

private theorem address_eq_ok_iff {value : Address} :
    address type json = .ok value ↔ WritesAddress value json := by
  unfold address
  simp only [bind_eq_ok_iff, text_eq_ok_iff, mapError_eq_ok_iff, Address.parseRelaxed_eq_ok_iff]
  constructor
  · rintro ⟨written, rfl, relaxed⟩
    exact .text relaxed
  · intro written
    cases written with
    | text relaxed => exact ⟨_, rfl, relaxed⟩

theorem IsNumeral.isBlank_eq_false {width n : Nat} {body : List Char}
    (numeral : IsNumeral width body n) : ∀ c ∈ body, Text.isBlank c = false := by
  unfold IsNumeral at numeral
  split_ifs at numeral with wide
  · exact U256.IsNumeral.isBlank_eq_false numeral
  · exact Numeral.Unsigned.isBlank_eq_false numeral

/-- A numeral of a number that fits is read as this number. -/
theorem numeral?_eq_some_iff {width n : Nat} {written : String} (small : n < Bytes.bound width) :
    numeral? width written = some n ↔
      ∃ body, Text.Pads body written.toList ∧ IsNumeral width body n := by
  unfold numeral? IsNumeral
  split_ifs with wide
  · subst wide
    rw [Bytes.bound_eq_two_pow] at small
    have same : (BitVec.ofNat 256 n).toNat = n := by
      rw [BitVec.toNat_ofNat, Nat.mod_eq_of_lt small]
    constructor
    · intro read
      obtain ⟨value, parsed, rfl⟩ := Option.map_eq_some_iff.mp read
      exact U256.parse_eq_ok_iff.mp (toOption_eq_some_iff.mp parsed)
    · rintro ⟨body, pads, numeral⟩
      have parsed : U256.parse written = .ok (BitVec.ofNat 256 n) :=
        U256.parse_eq_ok_iff.mpr ⟨body, pads, same.symm ▸ numeral⟩
      rw [parsed]
      exact congrArg some same
  · rw [Numeral.unsigned?_eq_some_iff]
    constructor
    · intro numeral
      exact ⟨_, Text.pads_trim written.toList, numeral⟩
    · rintro ⟨body, pads, numeral⟩
      rwa [Text.trim_of_pads pads numeral.isBlank_eq_false]

private theorem nat?_eq_some_iff {number : Json.Number} {n : Nat} :
    number.nat? = some n ↔ number = .integer n := by
  cases number with
  | integer value =>
    have natural : (if 0 ≤ value then some value.toNat else none) = some n ↔ value = n := by
      split_ifs with sign
      · rw [Option.some.injEq]
        omega
      · refine iff_of_false (by simp) ?_
        omega
    rw [Json.Number.nat?, natural, Json.Number.integer.injEq]
  | real value => simp [Json.Number.nat?]

private theorem encode_eq_ok_iff_of_read {width : Nat} {read : Option Nat} {written : String} :
    integer.encode width type read written = .ok bytes ↔
      ∃ n, read = some n ∧ n < Bytes.bound width ∧ Bytes.ofNatLE width n = bytes := by
  unfold integer.encode
  constructor
  · intro encoded
    split at encoded
    next n fits =>
      cases encoded
      obtain ⟨found, small⟩ := Option.filter_eq_some_iff.mp fits
      exact ⟨n, found, of_decide_eq_true small, rfl⟩
    next => cases encoded
  · rintro ⟨n, rfl, small, rfl⟩
    have fits : (some n).filter (· < Bytes.bound width) = some n :=
      Option.filter_eq_some_iff.mpr ⟨rfl, decide_eq_true small⟩
    rw [fits]

theorem integer_eq_ok_iff {width : Nat} :
    integer width type json = .ok bytes ↔
      ∃ n, WritesInteger width n json ∧ n < Bytes.bound width ∧ Bytes.ofNatLE width n = bytes := by
  constructor
  · intro encoded
    unfold integer at encoded
    split at encoded
    next number =>
      obtain ⟨n, read, small, rfl⟩ := encode_eq_ok_iff_of_read.mp encoded
      obtain rfl := nat?_eq_some_iff.mp read
      exact ⟨n, .number, small, rfl⟩
    next written =>
      obtain ⟨n, read, small, rfl⟩ := encode_eq_ok_iff_of_read.mp encoded
      obtain ⟨body, pads, numeral⟩ := (numeral?_eq_some_iff small).mp read
      exact ⟨n, .numeral pads numeral, small, rfl⟩
    next => cases encoded
  · rintro ⟨n, written, small, rfl⟩
    cases written with
    | number =>
      have read : Json.Number.nat? (.integer n) = some n := nat?_eq_some_iff.mpr rfl
      exact encode_eq_ok_iff_of_read.mpr ⟨n, read, small, rfl⟩
    | numeral pads numeral =>
      have read := (numeral?_eq_some_iff small).mpr ⟨_, pads, numeral⟩
      exact encode_eq_ok_iff_of_read.mpr ⟨n, read, small, rfl⟩

/-! ## The forms of types -/

private theorem sequence_write (values : List MoveValue) :
    sequence (values.map MoveValue.write) = MoveValue.write (.vector values) := by
  rw [sequence, List.length_map, ← List.flatMap_def, MoveValue.write_vector]

/-- The bytes of a byte string are the encodings of its numbers. -/
private theorem write_byteVector (raw : Bytes) :
    MoveValue.write (byteVector raw) = raw.prefixed := by
  have byte (value : UInt8) : Bytes.ofNatLE 1 value.toNat = [value] := by
    simp [Bytes.ofNatLE]
  rw [byteVector, MoveValue.write_vector, List.length_map, List.flatMap_map]
  simp only [MoveValue.write, byte, List.flatMap_singleton']
  rfl

theorem encode_integer {width : Nat} (wide : type.width? = some width) :
    encode type json = integer width type json := by
  cases type <;> cases wide <;> rfl

/-- An array is encoded item by item. -/
theorem encode_array_eq_ok_iff {element : TypeTag} {items : List Json} :
    encode (.vector element) (.array items) = .ok bytes ↔
      ∃ encodings, List.Forall₂ (fun item encoding => encode element item = .ok encoding)
        items encodings ∧ sequence encodings = bytes := by
  have unfolded : encode (.vector element) (.array items) =
      sequence <$> items.mapM fun item => encode element item := by
    cases element <;> rfl
  rw [unfolded, map_eq_ok_iff]
  simp only [mapM_eq_ok_iff]

private theorem encode_hex_eq_ok_iff {written : String} :
    encode (.vector .u8) (.string written) = .ok bytes ↔
      ∃ raw, Hex.parse written = .ok raw ∧ raw.prefixed = bytes := by
  have unfolded : encode (.vector .u8) (.string written) =
      Bytes.prefixed <$> (Hex.parse written).mapError .hex := rfl
  rw [unfolded, map_eq_ok_iff]
  simp only [mapError_eq_ok_iff]

/-- A structure is encoded by its name. -/
theorem encode_toTypeTag (tag : StructTag) :
    encode tag.toTypeTag json =
      if tag.isString then Wire.write <$> text tag.toTypeTag json
      else if tag.isObject then Wire.write <$> address tag.toTypeTag json
      else if tag.isOption then
        match optional? tag.arguments json with
        | some outcome => sequence <$> outcome
        | none => .error (.unsupportedType tag.text)
      else .error (.unsupportedType tag.text) := rfl

private theorem encode_option {tag : StructTag} (named : tag.isOption = true) :
    encode tag.toTypeTag json =
      match optional? tag.arguments json with
      | some outcome => sequence <$> outcome
      | none => .error (.unsupportedType tag.text) := by
  have notString : ¬ tag.isString = true := fun isString =>
    Bool.eq_false_iff.mp (StructTag.isOption_eq_false_of_isString isString) named
  have notObject : ¬ tag.isObject = true := fun isObject =>
    Bool.eq_false_iff.mp (StructTag.isOption_eq_false_of_isObject isObject) named
  rw [encode_toTypeTag, if_neg notString, if_neg notObject, if_pos named]

private theorem optional?_of_ne_null {inner : TypeTag} (given : json ≠ .null) :
    optional? [inner] json = some ((fun encoding => [encoding]) <$> encode inner json) := by
  cases json with
  | null => exact absurd rfl given
  | bool | number | string | array | object => rfl

/-- Only one type has optional values. -/
private theorem exists_sole_of_optional? {types : List TypeTag}
    {outcome : Except ArgumentError (List Bytes)} (found : optional? types json = some outcome) :
    ∃ inner, types = [inner] := by
  cases types with
  | nil => cases found
  | cons first others =>
    cases others with
    | nil => exact ⟨first, rfl⟩
    | cons second rest => cases found

/-! ### What is encoded denotes a value -/

/-- The encodings at a type are those of values that are denoted. -/
def Sound (type : TypeTag) : Prop :=
  ∀ json bytes, encode type json = .ok bytes →
    ∃ value, Denotes type json value ∧ value.write = bytes

private theorem sound_integer {width : Nat} (wide : type.width? = some width) : Sound type := by
  intro json bytes encoded
  rw [encode_integer wide] at encoded
  obtain ⟨n, written, small, rfl⟩ := integer_eq_ok_iff.mp encoded
  exact ⟨_, .integer wide written small, rfl⟩

private theorem sound_bool : Sound .bool := by
  intro json bytes encoded
  obtain ⟨value, written, rfl⟩ := bool_eq_ok_iff.mp encoded
  exact ⟨_, .bool written, rfl⟩

private theorem sound_address : Sound .address := by
  intro json bytes encoded
  obtain ⟨value, read, rfl⟩ := map_eq_ok_iff.mp encoded
  exact ⟨_, .address (address_eq_ok_iff.mp read), rfl⟩

private theorem exists_denotes_items {element : TypeTag} (sound : Sound element) {items : List Json}
    {encodings : List Bytes} (each : List.Forall₂
      (fun item encoding => encode element item = .ok encoding) items encodings) :
    ∃ values, List.Forall₂ (Denotes element) items values ∧
      values.map MoveValue.write = encodings := by
  induction each with
  | nil => exact ⟨[], .nil, rfl⟩
  | cons first _ ih =>
    obtain ⟨value, denotes, written⟩ := sound _ _ first
    obtain ⟨values, others, rest⟩ := ih
    exact ⟨value :: values, .cons denotes others, by rw [List.map_cons, written, rest]⟩

private theorem sound_vector {element : TypeTag} (sound : Sound element) :
    Sound (.vector element) := by
  intro json bytes encoded
  cases json with
  | array items =>
    obtain ⟨encodings, each, rfl⟩ := encode_array_eq_ok_iff.mp encoded
    obtain ⟨values, denotes, rfl⟩ := exists_denotes_items sound each
    obtain ⟨counted, pairs⟩ := List.forall₂_iff_zip.mp denotes
    exact ⟨_, .array counted fun _ _ member => pairs member, (sequence_write values).symm⟩
  | string written =>
    -- only bytes are also written as a text
    cases element with
    | u8 =>
      obtain ⟨raw, read, rfl⟩ := encode_hex_eq_ok_iff.mp encoded
      obtain ⟨digits, spelled, spells⟩ := Hex.parse_eq_ok_iff.mp read
      exact ⟨_, .hex spelled spells, write_byteVector raw⟩
    | _ => cases encoded
  | null | bool | number | object => cases element <;> cases encoded

/-- An optional value needs a single type argument, and is null or one item. -/
private theorem sound_option {tag : StructTag} (named : tag.isOption = true)
    (inner : ∀ type, tag.arguments = [type] → Sound type)
    {outcome : Except ArgumentError (List Bytes)}
    (found : optional? tag.arguments json = some outcome)
    (encoded : sequence <$> outcome = .ok bytes) :
    ∃ value, Denotes tag.toTypeTag json value ∧ value.write = bytes := by
  obtain ⟨encodings, made, rfl⟩ := map_eq_ok_iff.mp encoded
  obtain ⟨type, sole⟩ := exists_sole_of_optional? found
  rw [sole] at found
  by_cases given : json = .null
  · subst given
    cases found
    cases made
    exact ⟨_, .absent named sole, (sequence_write []).symm⟩
  · rw [optional?_of_ne_null given] at found
    cases found
    obtain ⟨encoding, item, rfl⟩ := map_eq_ok_iff.mp made
    obtain ⟨value, denotes, rfl⟩ := inner type sole json encoding item
    exact ⟨_, .present named sole given denotes, (sequence_write [value]).symm⟩

private theorem sound_struct (tag : StructTag)
    (inner : ∀ type, tag.arguments = [type] → Sound type) : Sound tag.toTypeTag := by
  intro json bytes encoded
  rw [encode_toTypeTag] at encoded
  split_ifs at encoded with isString isObject isOption
  · obtain ⟨value, read, rfl⟩ := map_eq_ok_iff.mp encoded
    obtain rfl := text_eq_ok_iff.mp read
    exact ⟨_, .text isString value, rfl⟩
  · obtain ⟨value, read, rfl⟩ := map_eq_ok_iff.mp encoded
    exact ⟨_, .object isObject (address_eq_ok_iff.mp read), rfl⟩
  · split at encoded
    next found => exact sound_option isOption inner found encoded
    next => cases encoded

mutual

/-- An encoding is that of a value that is denoted. -/
theorem sound : (type : TypeTag) → Sound type
  | .bool => sound_bool
  | .u8 | .u16 | .u32 | .u64 | .u128 | .u256 => sound_integer rfl
  | .address => sound_address
  | .vector element => sound_vector (sound element)
  | .struct account moduleName name arguments =>
    sound_struct ⟨account, moduleName, name, arguments⟩ (sole_sound arguments)
  | .signer | .reference _ | .generic _ => fun _ _ encoded => nomatch encoded

private theorem sole_sound : (types : List TypeTag) → ∀ type, types = [type] → Sound type
  | [inner] => by
    rintro _ ⟨⟩
    exact sound inner
  | [] | _ :: _ :: _ => by
    rintro _ ⟨⟩

end

/-! ### What denotes a value is encoded -/

private theorem encode_of_denotes {value : MoveValue} (denotes : Denotes type json value) :
    encode type json = .ok value.write := by
  induction denotes with
  | bool written => exact bool_eq_ok_iff.mpr ⟨_, written, rfl⟩
  | integer wide written small =>
    rw [encode_integer wide]
    exact integer_eq_ok_iff.mpr ⟨_, written, small, rfl⟩
  | address written => exact map_eq_ok_iff.mpr ⟨_, address_eq_ok_iff.mpr written, rfl⟩
  | @array element items values counted _ ih =>
    have each : List.Forall₂ (fun item encoding => encode element item = .ok encoding) items
        (values.map MoveValue.write) :=
      List.forall₂_map_right_iff.mpr
        (List.forall₂_iff_zip.mpr ⟨counted, fun member => ih _ _ member⟩)
    exact encode_array_eq_ok_iff.mpr ⟨_, each, sequence_write values⟩
  | @hex text digits raw written spells =>
    have read := Hex.parse_eq_ok_iff.mpr ⟨digits, written, spells⟩
    exact encode_hex_eq_ok_iff.mpr ⟨raw, read, (write_byteVector raw).symm⟩
  | text named value =>
    rw [encode_toTypeTag, if_pos named]
    rfl
  | @object tag json value named written =>
    have notString : ¬ tag.isString = true := fun isString =>
      Bool.eq_false_iff.mp (StructTag.isObject_eq_false_of_isString isString) named
    rw [encode_toTypeTag, if_neg notString, if_pos named]
    exact map_eq_ok_iff.mpr ⟨_, address_eq_ok_iff.mpr written, rfl⟩
  | absent named sole =>
    rw [encode_option named, sole]
    rfl
  | present named sole given _ ih =>
    rw [encode_option named, sole, optional?_of_ne_null given, ih]
    exact congrArg Except.ok (sequence_write [_])

/-- The encoder gives the encodings of the values that are denoted, and nothing else. -/
theorem encode_eq_ok_iff :
    encode type json = .ok bytes ↔ ∃ value, Denotes type json value ∧ value.write = bytes := by
  constructor
  · exact sound type json bytes
  · rintro ⟨value, denotes, rfl⟩
    exact encode_of_denotes denotes

/-! ### What is denoted is of the type -/

/-- The bytes of a text that is short enough are a vector. -/
private theorem byteVector_inhabits {raw : Bytes} (short : raw.length < UInt32.size) :
    MoveValue.Inhabits (.vector .u8) (byteVector raw) := by
  refine .vector (by rwa [List.length_map]) fun item member => ?_
  obtain ⟨byte, -, rfl⟩ := List.mem_map.mp member
  exact .integer rfl byte.toNat_lt

theorem Denotes.inhabits {value : MoveValue} (denotes : Denotes type json value)
    (sized : json.Sized) : MoveValue.Inhabits type value := by
  induction denotes with
  | bool => exact .bool _
  | integer wide _ small => exact .integer wide small
  | address => exact .address _
  | @array element items values counted _ ih =>
    obtain ⟨short, itemsSized⟩ := sized
    rw [Json.allSized_iff] at itemsSized
    refine .vector (counted ▸ short) fun value member => ?_
    obtain ⟨index, inside, rfl⟩ := List.mem_iff_getElem.mp member
    have inItems : index < items.length := counted ▸ inside
    have inPairs : index < (items.zip values).length := by
      rw [List.length_zip]
      omega
    have paired := List.getElem_mem inPairs
    rw [List.getElem_zip] at paired
    exact ih _ _ paired (itemsSized _ (List.getElem_mem inItems))
  | hex written spells =>
    have read := Hex.parse_eq_ok_iff.mpr ⟨_, written, spells⟩
    exact byteVector_inhabits (Nat.lt_of_le_of_lt (Hex.length_le_of_parse read) sized)
  | text named value => exact .text named sized
  | object named => exact .object named _
  | @absent tag inner named sole =>
    have each : ∀ item ∈ (none : Option MoveValue), MoveValue.Inhabits inner item :=
      fun item absent => nomatch absent
    exact .option named sole each
  | @present tag inner json value named sole _ _ ih =>
    have each : ∀ item ∈ some value, MoveValue.Inhabits inner item := by
      rintro _ ⟨⟩
      exact ih sized
    exact .option named sole each

/-- The text of a byte vector is encoded as the array of its numbers is. -/
theorem encode_array_of_hex {written : String} {raw : Bytes} (read : Hex.parse written = .ok raw)
    (encoded : encode (.vector .u8) (.string written) = .ok bytes) :
    encode (.vector .u8) (.array (raw.map fun byte => .number (.integer byte.toNat))) =
      .ok bytes := by
  obtain ⟨_, read', rfl⟩ := encode_hex_eq_ok_iff.mp encoded
  cases read.symm.trans read'
  have denotes : Denotes (.vector .u8) (.array (raw.map fun byte => .number (.integer byte.toNat)))
      (byteVector raw) := by
    refine .array (by simp) fun item value member => ?_
    rw [List.zip_map'] at member
    obtain ⟨byte, -, same⟩ := List.mem_map.mp member
    cases same
    exact .integer rfl .number byte.toNat_lt
  rw [← write_byteVector]
  exact encode_of_denotes denotes

/-- The values that a JSON value denotes are one at most, which is of the type and is read back from
its encoding with nothing left over. -/
theorem Denotes.unique {value : MoveValue} (denotes : Denotes type json value)
    (sized : json.Sized) :
    (∀ other, Denotes type json other ↔ other = value) ∧
      Reader.run (MoveValue.read type) value.write = .ok value := by
  have exact := MoveValue.read_exact type
  have read : Reader.run (MoveValue.read type) value.write = .ok value :=
    exact.run_eq_ok_iff.mpr ⟨denotes.inhabits sized, rfl⟩
  refine ⟨fun other => ⟨fun otherDenotes => ?_, ?_⟩, read⟩
  · -- both have the encoding that the encoder gives, and only one value is read from it
    have same : other.write = value.write :=
      Except.ok.inj ((encode_of_denotes otherDenotes).symm.trans (encode_of_denotes denotes))
    have otherRead : Reader.run (MoveValue.read type) value.write = .ok other :=
      exact.run_eq_ok_iff.mpr ⟨otherDenotes.inhabits sized, same.symm⟩
    exact Except.ok.inj (otherRead.symm.trans read)
  · rintro rfl
    exact denotes

/-- An argument is encoded exactly if it denotes a value, which is then the only one, of the type
and all that is read back from the encoding. A text of bytes is encoded as the array of its numbers
is, and nothing is encoded at a type without values. -/
theorem encode_sound (sized : json.Sized) :
    (encode type json = .ok bytes ↔ ∃ value, (∀ other, Denotes type json other ↔ other = value) ∧
      MoveValue.Inhabits type value ∧ bytes = value.write ∧
      Reader.run (MoveValue.read type) bytes = .ok value) ∧
    (encode type json = .ok bytes →
      (∀ written, type = .vector .u8 → json = .string written →
        ∃ raw : Bytes, Hex.parse written = .ok raw ∧
          encode type (.array (raw.map fun byte => .number (.integer byte.toNat))) = .ok bytes) ∧
      type ≠ .signer ∧ (∀ referent, type ≠ .reference referent) ∧
      (∀ index, type ≠ .generic index) ∧
      ∀ tag : StructTag, type = tag.toTypeTag →
        tag.isString = true ∨ tag.isObject = true ∨
          tag.isOption = true ∧ tag.arguments.length = 1) := by
  refine ⟨⟨fun encoded => ?_, ?_⟩, fun encoded => ⟨?_, ?_⟩⟩
  · obtain ⟨value, denotes, rfl⟩ := encode_eq_ok_iff.mp encoded
    obtain ⟨only, read⟩ := denotes.unique sized
    exact ⟨value, only, denotes.inhabits sized, rfl, read⟩
  · rintro ⟨value, only, -, rfl, -⟩
    exact encode_of_denotes ((only value).mpr rfl)
  · rintro written rfl rfl
    obtain ⟨raw, parsed, -⟩ := encode_hex_eq_ok_iff.mp encoded
    exact ⟨raw, parsed, encode_array_of_hex parsed encoded⟩
  · obtain ⟨value, denotes, -⟩ := encode_eq_ok_iff.mp encoded
    exact (denotes.inhabits sized).supported

/-- Null, hexadecimal text and an array of a numeral and a number, as optional byte vectors. -/
theorem encode_optionalBytes :
    let type : TypeTag := .vector (StructTag.option (.vector .u8)).toTypeTag
    let json : Json := .array [.null, .string "0x01Ff",
      .array [.string " +7 ", .number (.integer 9)]]
    let bytes : Bytes := [3, 0, 1, 2, 1, 255, 1, 2, 7, 9]
    ∃ value, (∀ other, Denotes type json other ↔ other = value) ∧
      MoveValue.Inhabits type value ∧ bytes = value.write ∧
      Reader.run (MoveValue.read type) bytes = .ok value := by
  intro type json bytes
  have hexShort : (Bytes.ofText "0x01Ff").length < UInt32.size := by decide +kernel
  have numeralShort : (Bytes.ofText " +7 ").length < UInt32.size := by decide +kernel
  have sized : json.Sized :=
    ⟨by decide, trivial, hexShort, ⟨by decide, numeralShort, trivial, trivial⟩, trivial⟩
  have encoded : encode type json = .ok bytes := by decide +kernel
  exact (encode_sound sized).1.mp encoded

end Argument

end MoveWallet
