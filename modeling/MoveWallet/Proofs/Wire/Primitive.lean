import MoveWallet.Proofs.Wire.Exact

/-! # Exactness of the primitive readers

Fixed byte strings and numbers, numbers in groups of seven bits, byte strings and texts behind
their lengths, lists and options. A number in groups has one form: the reader refuses a last group
of zero behind another one and every number of more than 32 bits, and that is all it refuses.
-/

namespace MoveWallet

namespace Bytes

/-- The digits of a width do not depend on the higher ones. -/
theorem ofNatLE_mod (width n : Nat) : ofNatLE width (n % bound width) = ofNatLE width n := by
  have back := ofNatLE_toNatLE (ofNatLE width n)
  rwa [length_ofNatLE, toNatLE_ofNatLE] at back

theorem ofNatLE_inj {width m n : Nat} (small : m < bound width) (small' : n < bound width) :
    ofNatLE width m = ofNatLE width n ↔ m = n := by
  constructor
  · intro same
    have number := congrArg toNatLE same
    rwa [toNatLE_ofNatLE, toNatLE_ofNatLE, Nat.mod_eq_of_lt small, Nat.mod_eq_of_lt small']
      at number
  · rintro rfl
    rfl

/-- The most significant digit stands last. -/
theorem ofNatLE_succ (width n : Nat) :
    ofNatLE (width + 1) n = ofNatLE width n ++ [UInt8.ofNat (n / bound width)] := by
  induction width generalizing n with
  | zero => simp [ofNatLE, bound]
  | succ width ih =>
    rw [ofNatLE, ih, Nat.div_div_eq_div_mul, ← bound_succ]
    rfl

/-- A number that fits a width has zeros behind it at a larger one. -/
theorem ofNatLE_add {width n : Nat} (small : n < bound width) (more : Nat) :
    ofNatLE (width + more) n = ofNatLE width n ++ List.replicate more 0 := by
  induction more with
  | zero => rw [Nat.add_zero, List.replicate_zero, List.append_nil]
  | succ more ih =>
    have fits : n < bound (width + more) :=
      small.trans_le (Nat.pow_le_pow_right (by decide) (Nat.le_add_right width more))
    rw [← Nat.add_assoc, ofNatLE_succ, ih, Nat.div_eq_of_lt fits, List.replicate_succ',
      List.append_assoc]
    rfl

/-- A number is padded to its written form at a larger width. -/
theorem padRight_ofNatLE {width size n : Nat} (narrow : width ≤ size) (fits : n < bound width) :
    padRight size (ofNatLE width n) = ofNatLE size n := by
  rw [padRight, length_ofNatLE, ← ofNatLE_add fits, Nat.add_sub_cancel' narrow]

theorem ofNatLE_toNatLE_of_le {bytes : Bytes} {width : Nat} (fits : bytes.length ≤ width) :
    ofNatLE width (toNatLE bytes) = padRight width bytes := by
  rw [← padRight_ofNatLE fits (toNatLE_lt bytes), ofNatLE_toNatLE]

/-- One byte holds a number below 128. -/
theorem uleb128_of_lt {n : Nat} (small : n < 128) : uleb128 n = [UInt8.ofNat n] := by
  rw [uleb128, if_pos small]

theorem uleb128_of_le {n : Nat} (large : 128 ≤ n) :
    uleb128 n = UInt8.ofNat (n % 128 + 128) :: uleb128 (n / 128) := by
  rw [uleb128, if_neg (Nat.not_lt.mpr large)]

/-- A byte with its high bit clear ends a number. -/
theorem uleb128_last {byte : UInt8} (last : byte.toNat < 128) : uleb128 byte.toNat = [byte] := by
  rw [uleb128_of_lt last, UInt8.ofNat_toNat]

/-- A byte with its high bit set is followed by the groups of a number that is not zero. -/
theorem uleb128_more {byte : UInt8} {others : Nat} (more : 128 ≤ byte.toNat)
    (positive : 0 < others) :
    uleb128 (byte.toNat % 128 + others * 128) = byte :: uleb128 others := by
  have bound := byte.toNat_lt
  have low : (byte.toNat % 128 + others * 128) % 128 + 128 = byte.toNat := by omega
  have high : (byte.toNat % 128 + others * 128) / 128 = others := by omega
  rw [uleb128_of_le (by omega), low, high, UInt8.ofNat_toNat]

/-- A text is found from its UTF-8 form and from nothing else. -/
theorem toText?_eq_some_iff {bytes : Bytes} {text : String} :
    toText? bytes = some text ↔ bytes = ofText text := by
  unfold toText? String.fromUTF8?
  constructor
  · intro found
    split at found
    · cases found
      rfl
    · cases found
  · rintro rfl
    exact dif_pos text.isValidUTF8

theorem ofText_injective : Function.Injective ofText := by
  intro first second same
  have own := toText?_eq_some_iff.mpr (Eq.refl (ofText first))
  have found := toText?_eq_some_iff.mpr same
  exact Option.some.inj (own.symm.trans found)

end Bytes

namespace Reader

variable {α : Type}

namespace Exact

variable {item : Reader α} {write : α → Bytes} {Fits : α → Prop}

theorem take (count : Nat) : Exact (take count) id (·.length = count) := by
  intro input value rest
  unfold Reader.take
  split
  next enough =>
    simp only [Prod.mk.injEq, Except.ok.injEq, id_eq]
    constructor
    · rintro ⟨rfl, rfl⟩
      exact ⟨List.length_take_of_le enough, (List.take_append_drop count input).symm⟩
    · rintro ⟨rfl, rfl⟩
      exact ⟨List.take_left, List.drop_left⟩
  next short =>
    constructor
    · intro ran
      cases ran
    · rintro ⟨rfl, rfl⟩
      exact absurd (by simp) short

theorem fixed (size : Nat) : Exact (fixed size) FixedBytes.toList (fun _ => True) := by
  intro input value rest
  have same : Reader.fixed size input = (.ok value, rest) ↔
      Reader.take size input = (.ok value.toList, rest) := by
    unfold Reader.fixed Reader.take
    split
    · simp [FixedBytes.ext_iff]
    · simp
  rw [same, take size _ _ _]
  simp [value.length_eq]

/-- The bytes of a number below the bound of its width. -/
theorem number (width : Nat) :
    Exact (number width) (Bytes.ofNatLE width) (· < Bytes.bound width) := by
  intro input value rest
  unfold Reader.number
  rw [bind_eq_ok_iff]
  simp only [fixed width _ _ _, pure_eq_ok_iff, true_and]
  constructor
  · rintro ⟨bytes, _, rfl, rfl, rfl⟩
    have back := Bytes.ofNatLE_toNatLE bytes.toList
    have bound := Bytes.toNatLE_lt bytes.toList
    rw [bytes.length_eq] at back bound
    exact ⟨bound, by rw [FixedBytes.toNatLE, back]⟩
  · rintro ⟨bound, rfl⟩
    refine ⟨FixedBytes.ofNatLE width value, rest, rfl, ?_, rfl⟩
    exact (Bytes.toNatLE_ofNatLE width value).trans (Nat.mod_eq_of_lt bound)

theorem byte : Exact byte (fun value => [value]) (fun _ => True) := by
  intro input value rest
  have same : Reader.byte = (fun n => UInt8.ofNat n) <$> Reader.number 1 := by
    simp [Reader.byte, Reader.number]
  have bound : Bytes.bound 1 = 256 := rfl
  rw [same, map_eq_ok_iff]
  simp only [number 1 _ _ _, bound, true_and]
  constructor
  · rintro ⟨n, ⟨small, rfl⟩, rfl⟩
    simp [Bytes.ofNatLE]
  · rintro rfl
    exact ⟨value.toNat, ⟨value.toNat_lt, by simp [Bytes.ofNatLE]⟩, UInt8.ofNat_toNat⟩

theorem bool : Exact bool (fun value => [if value then 1 else 0]) (fun _ => True) := by
  intro input value rest
  unfold Reader.bool
  rw [bind_eq_ok_iff]
  simp only [byte _ _ _, true_and]
  constructor
  · rintro ⟨first, _, rfl, done⟩
    split_ifs at done with zero one
    · obtain ⟨rfl, rfl⟩ := pure_eq_ok_iff.mp done
      simp [zero]
    · obtain ⟨rfl, rfl⟩ := pure_eq_ok_iff.mp done
      simp [one]
    · exact absurd done (by simp)
  · rintro rfl
    exact ⟨_, rest, rfl, by cases value <;> simp⟩

/-- One group: the number so far takes it, and the groups behind it are read only if its high bit
is set. -/
private theorem groups_succ_eq_ok_iff {count shift value : Nat} {input rest : Bytes}
    {sum : UInt32} : groups (count + 1) shift value input = (.ok sum, rest) ↔
      ∃ first middle, input = first :: middle ∧
        value + first.toNat % 128 * 2 ^ shift < UInt32.size ∧
        if first.toNat < 128 then
          ¬ (0 < shift ∧ first.toNat = 0) ∧ middle = rest ∧
            sum.toNat = value + first.toNat * 2 ^ shift
        else
          groups count (shift + 7) (value + first.toNat % 128 * 2 ^ shift) middle =
            (.ok sum, rest) := by
  rw [groups, bind_eq_ok_iff]
  simp only [byte _ _ _, true_and, Nat.pow_eq, List.singleton_append]
  refine exists_congr fun first => exists_congr fun middle => and_congr_right fun _ => ?_
  by_cases overflow : UInt32.size ≤ value + first.toNat % 128 * 2 ^ shift
  · simp [overflow, Nat.not_lt.mpr overflow]
  rw [if_neg overflow]
  have fits := Nat.not_le.mp overflow
  by_cases last : first.toNat < 128
  · have group : first.toNat % 128 = first.toNat := Nat.mod_eq_of_lt last
    rw [group] at fits ⊢
    have total : UInt32.ofNat (value + first.toNat * 2 ^ shift) = sum ↔
        sum.toNat = value + first.toNat * 2 ^ shift := by
      rw [← UInt32.toNat_inj, UInt32.toNat_ofNat', Nat.mod_eq_of_lt fits, eq_comm]
    split_ifs with redundant <;> simp_all [and_comm]
  · simp only [if_neg last, fits, true_and]

/-- Whatever the groups behind are read as, they write it, and they are not a redundant zero. -/
private theorem uleb128_of_groups {count shift value : Nat} {input rest : Bytes} {sum : UInt32}
    (ran : groups count shift value input = (.ok sum, rest)) :
    ∃ others, sum.toNat = value + others * 2 ^ shift ∧ (0 < shift → 0 < others) ∧
      input = Bytes.uleb128 others ++ rest := by
  induction count generalizing shift value input with
  | zero => exact absurd ran (by simp [groups])
  | succ count ih =>
    obtain ⟨first, middle, rfl, -, done⟩ := groups_succ_eq_ok_iff.mp ran
    split_ifs at done with last
    · obtain ⟨needed, rfl, total⟩ := done
      exact ⟨first.toNat, total, by omega, by rw [Bytes.uleb128_last last]; rfl⟩
    · obtain ⟨others, total, positive, rfl⟩ := ih done
      have more := positive (Nat.succ_pos _)
      refine ⟨first.toNat % 128 + others * 128, ?_, by omega, ?_⟩
      · rw [total, Nat.pow_add]
        ring
      · rw [Bytes.uleb128_more (Nat.not_lt.mp last) more]
        rfl

/-- The groups of a number are read if the count and the bound of 32 bits leave room for it. -/
private theorem groups_uleb128 {count shift value others : Nat} (rest : Bytes)
    (room : UInt32.size ≤ 2 ^ shift * 128 ^ count) (positive : 0 < shift → 0 < others)
    (small : value + others * 2 ^ shift < UInt32.size) :
    groups count shift value (Bytes.uleb128 others ++ rest) =
      (.ok (UInt32.ofNat (value + others * 2 ^ shift)), rest) := by
  induction count generalizing shift value others with
  | zero =>
    have wide : 0 < shift := by
      by_contra narrow
      obtain rfl : shift = 0 := by omega
      exact absurd room (by decide)
    have large : 2 ^ shift ≤ others * 2 ^ shift := Nat.le_mul_of_pos_left _ (positive wide)
    rw [Nat.pow_zero, Nat.mul_one] at room
    omega
  | succ count ih =>
    have total : (UInt32.ofNat (value + others * 2 ^ shift)).toNat =
        value + others * 2 ^ shift := by
      rw [UInt32.toNat_ofNat']
      exact Nat.mod_eq_of_lt small
    by_cases last : others < 128
    · have group : (UInt8.ofNat others).toNat = others := by
        rw [UInt8.toNat_ofNat']
        omega
      rw [groups_succ_eq_ok_iff, Bytes.uleb128_of_lt last]
      refine ⟨UInt8.ofNat others, rest, rfl, ?_, ?_⟩
      · rwa [group, Nat.mod_eq_of_lt last]
      · rw [group, if_pos last]
        exact ⟨by omega, rfl, total⟩
    · have group : (UInt8.ofNat (others % 128 + 128)).toNat = others % 128 + 128 := by
        rw [UInt8.toNat_ofNat']
        omega
      have split : value + others * 2 ^ shift =
          value + others % 128 * 2 ^ shift + others / 128 * 2 ^ (shift + 7) := by
        have digits : others = others % 128 + 128 * (others / 128) := by omega
        conv_lhs => rw [digits]
        ring
      rw [groups_succ_eq_ok_iff, Bytes.uleb128_of_le (Nat.not_lt.mp last)]
      refine ⟨_, Bytes.uleb128 (others / 128) ++ rest, rfl, ?_, ?_⟩
      · rw [group, Nat.add_mod_right, Nat.mod_mod]
        omega
      · rw [group, if_neg (by omega), Nat.add_mod_right, Nat.mod_mod, split]
        refine ih ?_ (by omega) (by omega)
        exact room.trans_eq (by ring)

theorem uleb128 : Exact uleb128 (fun value => Bytes.uleb128 value.toNat) (fun _ => True) := by
  intro input value rest
  rw [true_and]
  constructor
  · intro ran
    obtain ⟨others, total, -, rfl⟩ := uleb128_of_groups ran
    rw [Nat.zero_add, Nat.pow_zero, Nat.mul_one] at total
    subst total
    rfl
  · rintro rfl
    have room : UInt32.size ≤ 2 ^ 0 * 128 ^ maxGroups := by decide
    have small : 0 + value.toNat * 2 ^ 0 < UInt32.size := by simpa using value.toNat_lt
    have ran := groups_uleb128 rest room (fun positive => absurd positive (Nat.lt_irrefl 0)) small
    rw [Nat.pow_zero, Nat.mul_one, Nat.zero_add, UInt32.ofNat_toNat] at ran
    exact ran

/-- A length of at most 32 bits. -/
theorem length : Exact length Bytes.uleb128 (· < UInt32.size) := by
  intro input value rest
  unfold Reader.length
  rw [bind_eq_ok_iff]
  simp only [uleb128 _ _ _, pure_eq_ok_iff, true_and]
  constructor
  · rintro ⟨n, _, rfl, rfl, rfl⟩
    exact ⟨n.toNat_lt, rfl⟩
  · rintro ⟨small, rfl⟩
    have back : (UInt32.ofNat value).toNat = value := by
      rw [UInt32.toNat_ofNat']
      exact Nat.mod_eq_of_lt small
    exact ⟨UInt32.ofNat value, rest, by rw [back], back, rfl⟩

theorem bytes : Exact bytes Bytes.prefixed (·.length < UInt32.size) := by
  refine congr (bind List.length length fun count => take count) (fun _ => rfl) ?_
  simp

/-- The bytes of a text are those of one text only. -/
theorem decoded (bytes : Bytes) :
    Exact (match Bytes.toText? bytes with
      | some text => Pure.pure text
      | none => Reader.fail .invalidUtf8) (fun _ => []) (bytes = Bytes.ofText ·) := by
  intro input value rest
  simp only [← Bytes.toText?_eq_some_iff]
  cases Bytes.toText? bytes <;> simp

theorem text : Exact text (fun value => (Bytes.ofText value).prefixed)
    (fun value => (Bytes.ofText value).length < UInt32.size) := by
  refine congr (bind Bytes.ofText bytes decoded) ?_ ?_
  · simp
  · simp

/-- The bytes of a string of fixed size are those of one string only. -/
theorem fitted (typeName : String) (size : Nat) (bytes : Bytes) :
    Exact (match FixedBytes.ofList? size bytes with
      | some value => Pure.pure value
      | none => Reader.fail (.invalidLength typeName size bytes.length))
      (fun _ => []) (·.toList = bytes) := by
  intro input value rest
  simp only [← FixedBytes.ofList?_eq_some_iff]
  cases FixedBytes.ofList? size bytes <;> simp

/-- A byte string of fixed size behind its length, which is then no choice. -/
theorem sized (typeName : String) {size : Nat} (small : size < UInt32.size) :
    Exact (sized typeName size) (fun value => value.toList.prefixed) (fun _ => True) := by
  refine congr (bind FixedBytes.toList bytes (fitted typeName size)) ?_ ?_
  · simp
  · intro value
    simpa [value.length_eq] using small

theorem many (exact : Exact item write Fits) (count : Nat) :
    Exact (many item count) (·.flatMap write)
      (fun values => values.length = count ∧ ∀ value ∈ values, Fits value) := by
  induction count with
  | zero =>
    intro input values rest
    simp only [Reader.many, pure_eq_ok_iff]
    constructor
    · rintro ⟨rfl, rfl⟩
      simp
    · rintro ⟨⟨empty, -⟩, rfl⟩
      obtain rfl := List.length_eq_zero_iff.mp empty
      exact ⟨rfl, rfl⟩
  | succ count ih =>
    intro input values rest
    simp only [Reader.many, bind_eq_ok_iff, exact _ _ _, ih _ _ _, pure_eq_ok_iff]
    constructor
    · rintro ⟨first, _, ⟨fits, rfl⟩, others, _, ⟨⟨rfl, othersFit⟩, rfl⟩, rfl, rfl⟩
      refine ⟨⟨rfl, ?_⟩, by simp⟩
      simpa using ⟨fits, othersFit⟩
    · rintro ⟨⟨counted, allFit⟩, rfl⟩
      obtain ⟨first, others, rfl⟩ := List.exists_cons_of_length_eq_add_one counted
      simp only [List.length_cons, Nat.add_right_cancel_iff] at counted
      obtain ⟨fits, othersFit⟩ := List.forall_mem_cons.mp allFit
      exact ⟨first, _, ⟨fits, by simp⟩, others, _, ⟨⟨counted, othersFit⟩, rfl⟩, rfl, rfl⟩

theorem list (exact : Exact item write Fits) :
    Exact (list item) (fun values => Bytes.uleb128 values.length ++ values.flatMap write)
      (fun values => values.length < UInt32.size ∧ ∀ value ∈ values, Fits value) := by
  refine congr (bind List.length length fun count => many exact count) (fun _ => rfl) ?_
  simp

/-- An optional value behind the byte that tells whether it is there. -/
theorem option (exact : Exact item write Fits) :
    Exact (option item) (fun value => match value with
      | some value => 1 :: write value
      | none => [0]) (fun value => ∀ held ∈ value, Fits held) := by
  intro input value rest
  unfold Reader.option
  simp only [bind_eq_ok_iff, bool _ _ _, true_and]
  constructor
  · rintro ⟨present, middle, rfl, done⟩
    cases present with
    | false =>
      obtain ⟨rfl, rfl⟩ := pure_eq_ok_iff.mp done
      simp
    | true =>
      rw [if_pos rfl] at done
      obtain ⟨held, _, ran, made⟩ := bind_eq_ok_iff.mp done
      obtain ⟨fits, rfl⟩ := (exact _ _ _).mp ran
      obtain ⟨rfl, rfl⟩ := pure_eq_ok_iff.mp made
      simpa using fits
  · rintro ⟨fits, rfl⟩
    cases value with
    | none => exact ⟨false, rest, rfl, by simp⟩
    | some held =>
      refine ⟨true, write held ++ rest, rfl, ?_⟩
      rw [if_pos rfl, bind_eq_ok_iff]
      exact ⟨held, rest, (exact _ _ _).mpr ⟨fits held rfl, rfl⟩, by simp⟩

end Exact

end Reader

end MoveWallet
