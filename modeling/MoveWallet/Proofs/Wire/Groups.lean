import MoveWallet.Proofs.Wire.Primitive

/-! # Every outcome of reading groups of seven bits

A byte string starts with groups of which the fifth at the latest is the last one, or with five
groups that go on, or it ends before. What the reader makes of it is settled by this alone: it
accepts the groups that are written for a number of 32 bits, and each of its errors has the one
cause that it names.
-/

namespace MoveWallet

namespace Bytes

/-- The number that groups of seven bits denote, the lowest group first. -/
def groupNumber : Bytes → Nat
  | [] => 0
  | byte :: rest => byte.toNat % 128 + 128 * groupNumber rest

/-- Each of the groups says that another one follows. -/
def GoOn (groups : Bytes) : Prop := ∀ byte ∈ groups, 128 ≤ byte.toNat

/-- The last of the groups, and no other, says that no group follows. -/
def Terminated (groups : Bytes) : Prop :=
  ∃ before last, groups = before ++ [last] ∧ GoOn before ∧ last.toNat < 128

theorem GoOn.nil : GoOn [] := List.forall_mem_nil _

private theorem goOn_cons_iff {byte : UInt8} {rest : Bytes} :
    GoOn (byte :: rest) ↔ 128 ≤ byte.toNat ∧ GoOn rest := List.forall_mem_cons

private theorem groupNumber_append (first others : Bytes) :
    groupNumber (first ++ others) =
      groupNumber first + 128 ^ first.length * groupNumber others := by
  induction first with
  | nil => simp [groupNumber]
  | cons byte rest ih =>
    rw [List.cons_append, groupNumber, groupNumber, ih, List.length_cons, Nat.pow_succ]
    ring

private theorem groupNumber_singleton (byte : UInt8) : groupNumber [byte] = byte.toNat % 128 := rfl

private theorem groupNumber_lt (groups : Bytes) : groupNumber groups < 128 ^ groups.length := by
  induction groups with
  | nil => exact Nat.one_pos
  | cons byte rest ih =>
    have small : byte.toNat % 128 < 128 := Nat.mod_lt _ (by decide)
    rw [groupNumber, List.length_cons, Nat.pow_succ]
    omega

/-- Fewer than five groups fit 32 bits. -/
private theorem groupNumber_lt_size {groups : Bytes} (few : groups.length < 5) :
    groupNumber groups < UInt32.size := by
  have bound : 128 ^ groups.length ≤ 128 ^ 4 := Nat.pow_le_pow_right (by decide) (by omega)
  have large : 128 ^ 4 ≤ UInt32.size := by decide
  exact (groupNumber_lt groups).trans_le (bound.trans large)

/-- A byte string starts with at most so many groups of which the last one says so, or with that
many groups that go on, or it ends before. -/
private theorem exists_groups (count : Nat) (input : Bytes) :
    (∃ groups rest, input = groups ++ rest ∧ Terminated groups ∧ groups.length ≤ count) ∨
    (∃ groups rest, input = groups ++ rest ∧ GoOn groups ∧ groups.length = count) ∨
    GoOn input ∧ input.length < count := by
  induction count generalizing input with
  | zero => exact .inr (.inl ⟨[], input, rfl, .nil, rfl⟩)
  | succ count ih =>
    cases input with
    | nil => exact .inr (.inr ⟨.nil, Nat.succ_pos count⟩)
    | cons byte input =>
      rcases Nat.lt_or_ge byte.toNat 128 with last | more
      · exact .inl ⟨[byte], input, rfl, ⟨[], byte, rfl, .nil, last⟩, Nat.succ_pos count⟩
      · rcases ih input with ⟨_, rest, rfl, ⟨before, last, rfl, goOn, ends⟩, counted⟩ |
          ⟨groups, rest, rfl, goOn, counted⟩ | ⟨goOn, short⟩
        · refine .inl
            ⟨byte :: before ++ [last], rest, rfl, ⟨byte :: before, last, rfl, ?_, ends⟩, ?_⟩
          · exact goOn_cons_iff.mpr ⟨more, goOn⟩
          · exact Nat.succ_le_succ counted
        · refine .inr (.inl ⟨byte :: groups, rest, rfl, goOn_cons_iff.mpr ⟨more, goOn⟩, ?_⟩)
          exact congrArg Nat.succ counted
        · exact .inr (.inr ⟨goOn_cons_iff.mpr ⟨more, goOn⟩, Nat.succ_lt_succ short⟩)

/-! ## What is written -/

/-- The groups of a number: the last one says so, it is zero only if it is the only one, and they
denote the number. -/
private theorem uleb128_eq_concat (n : Nat) : ∃ before last,
    uleb128 n = before ++ [last] ∧ GoOn before ∧ last.toNat < 128 ∧ (before ≠ [] → last ≠ 0) ∧
      groupNumber (before ++ [last]) = n := by
  fun_induction uleb128 n with
  | case1 n small =>
    have digit : (UInt8.ofNat n).toNat = n := by
      rw [UInt8.toNat_ofNat']
      omega
    refine ⟨[], UInt8.ofNat n, rfl, .nil, by rwa [digit], fun more => absurd rfl more, ?_⟩
    rw [List.nil_append, groupNumber_singleton, digit, Nat.mod_eq_of_lt small]
  | case2 n large ih =>
    obtain ⟨before, last, written, goOn, ends, nonzero, number⟩ := ih
    have digit : (UInt8.ofNat (n % 128 + 128)).toNat = n % 128 + 128 := by
      rw [UInt8.toNat_ofNat']
      omega
    refine ⟨UInt8.ofNat (n % 128 + 128) :: before, last, by rw [written]; rfl, ?_, ends, ?_, ?_⟩
    · exact goOn_cons_iff.mpr ⟨by omega, goOn⟩
    · rintro - rfl
      -- a number that is not zero has a group that is not zero
      have only : before = [] := by
        by_contra more
        exact nonzero more rfl
      subst only
      rw [List.nil_append, groupNumber_singleton] at number
      change 0 % 128 = n / 128 at number
      omega
    · rw [List.cons_append, groupNumber, number, digit]
      omega

private theorem terminated_uleb128 (n : Nat) : Terminated (uleb128 n) := by
  obtain ⟨before, last, written, goOn, ends, -, -⟩ := uleb128_eq_concat n
  exact ⟨before, last, written, goOn, ends⟩

private theorem groupNumber_uleb128 (n : Nat) : groupNumber (uleb128 n) = n := by
  obtain ⟨before, last, written, -, -, -, number⟩ := uleb128_eq_concat n
  rw [written, number]

/-- Groups without a last group of zero behind others are those of their number. -/
theorem uleb128_groupNumber {before : Bytes} {last : UInt8} (goOn : GoOn before)
    (ends : last.toNat < 128) (needed : before ≠ [] → last ≠ 0) :
    uleb128 (groupNumber (before ++ [last])) = before ++ [last] := by
  induction before with
  | nil =>
    rw [List.nil_append, groupNumber_singleton, Nat.mod_eq_of_lt ends]
    exact uleb128_last ends
  | cons byte rest ih =>
    obtain ⟨more, goOn⟩ := goOn_cons_iff.mp goOn
    have nonzero : last ≠ 0 := needed (List.cons_ne_nil byte rest)
    have positive : 0 < groupNumber (rest ++ [last]) := by
      have lastPositive : 0 < last.toNat := Nat.pos_of_ne_zero fun zero =>
        nonzero (UInt8.toNat_inj.mp zero)
      rw [groupNumber_append, groupNumber_singleton, Nat.mod_eq_of_lt ends]
      exact Nat.add_pos_right _ (Nat.mul_pos (Nat.pow_pos (by decide)) lastPositive)
    rw [List.cons_append, groupNumber, Nat.mul_comm 128, uleb128_more more positive,
      ih goOn fun _ => nonzero]

/-- So many groups hold the numbers below a power of 128. -/
private theorem length_uleb128_le {n count : Nat} (small : n < 128 ^ (count + 1)) :
    (uleb128 n).length ≤ count + 1 := by
  induction count generalizing n with
  | zero => rw [uleb128_of_lt (by simpa using small), List.length_singleton]
  | succ count ih =>
    rcases Nat.lt_or_ge n 128 with one | more
    · rw [uleb128_of_lt one, List.length_singleton]
      omega
    · have rest : n / 128 < 128 ^ (count + 1) := by
        rw [Nat.pow_succ] at small
        omega
      rw [uleb128_of_le more, List.length_cons]
      exact Nat.succ_le_succ (ih rest)

/-- A number of 32 bits takes five groups at most. -/
theorem length_uleb128_toNat_le (value : UInt32) : (uleb128 value.toNat).length ≤ 5 := by
  have bound : UInt32.size ≤ 128 ^ (4 + 1) := by decide
  exact length_uleb128_le (value.toNat_lt.trans_le bound)

end Bytes

namespace Reader

open Bytes

/-! ## What is read -/

/-- One group. -/
private theorem groups_cons (count shift value : Nat) (byte : UInt8) (rest : Bytes) :
    groups (count + 1) shift value (byte :: rest) =
      if UInt32.size ≤ value + byte.toNat % 128 * 2 ^ shift then (.error .groupOverflow, rest)
      else if byte.toNat < 128 then
        if 0 < shift ∧ byte.toNat % 128 = 0 then (.error .redundantGroup, rest)
        else (.ok (UInt32.ofNat (value + byte.toNat % 128 * 2 ^ shift)), rest)
      else groups count (shift + 7) (value + byte.toNat % 128 * 2 ^ shift) rest := by
  have first : Reader.byte (byte :: rest) = (.ok byte, rest) :=
    Exact.byte.read_write trivial rest
  rw [groups, bind_apply, first]
  dsimp only [Nat.pow_eq]
  split_ifs <;> rfl

/-- Without a group left the reader asks for a byte. -/
private theorem groups_nil (count shift value : Nat) :
    groups (count + 1) shift value [] = (.error (.unexpectedEnd 1 0), []) := rfl

/-- Groups that go on are taken up as long as their number fits. -/
private theorem groups_append {before : Bytes} (goOn : GoOn before) (count shift value : Nat)
    (rest : Bytes) (fits : value + groupNumber before * 2 ^ shift < UInt32.size) :
    groups (before.length + count) shift value (before ++ rest) =
      groups count (shift + 7 * before.length) (value + groupNumber before * 2 ^ shift) rest := by
  induction before generalizing shift value with
  | nil => simp [groupNumber]
  | cons byte others ih =>
    obtain ⟨more, goOn⟩ := goOn_cons_iff.mp goOn
    have total : value + groupNumber (byte :: others) * 2 ^ shift =
        value + byte.toNat % 128 * 2 ^ shift + groupNumber others * 2 ^ (shift + 7) := by
      rw [groupNumber]
      ring
    have counted : (byte :: others).length + count = others.length + count + 1 := by
      rw [List.length_cons]
      omega
    rw [total] at fits ⊢
    rw [counted, List.cons_append, groups_cons, if_neg (by omega), if_neg (by omega),
      ih goOn _ _ fits, List.length_cons]
    congr 1
    ring

/-- Up to four groups that go on are taken up. -/
private theorem uleb128_append {before : Bytes} (goOn : GoOn before) {count : Nat} (rest : Bytes)
    (five : before.length + count = 5) (more : 0 < count) :
    uleb128 (before ++ rest) = groups count (7 * before.length) (groupNumber before) rest := by
  have fits : groupNumber before < UInt32.size := groupNumber_lt_size (by omega)
  have taken := groups_append goOn count 0 0 rest (by simpa using fits)
  rw [five, Nat.zero_add, Nat.zero_add, Nat.pow_zero, Nat.mul_one] at taken
  exact taken

/-- Several groups, at most five, of which the last one is zero. -/
structure Redundant (groups : Bytes) : Prop where
  terminated : Terminated groups
  several : 2 ≤ groups.length
  few : groups.length ≤ 5
  zero : groups.getLast? = some 0

/-- Five groups that denote a number of more than 32 bits, or that all go on. -/
structure Overflows (groups : Bytes) : Prop where
  five : groups.length = 5
  large : Terminated groups ∧ UInt32.size ≤ groupNumber groups ∨ GoOn groups

private theorem uleb128_of_redundant {groups : Bytes} (redundant : Redundant groups)
    (rest : Bytes) : uleb128 (groups ++ rest) = (.error .redundantGroup, rest) := by
  obtain ⟨⟨before, last, rfl, goOn, -⟩, several, few, zero⟩ := redundant
  obtain rfl : last = 0 := by simpa using zero
  rw [List.length_append, List.length_singleton] at several few
  obtain ⟨count, five⟩ : ∃ count, before.length + (count + 1) = 5 := ⟨4 - before.length, by omega⟩
  have behind : 0 < 7 * before.length := by omega
  have fits : ¬ UInt32.size ≤
      groupNumber before + (0 : UInt8).toNat % 128 * 2 ^ (7 * before.length) := by
    have small : groupNumber before < UInt32.size := groupNumber_lt_size (by omega)
    rw [UInt8.toNat_zero, Nat.zero_mod, Nat.zero_mul, Nat.add_zero]
    exact Nat.not_le.mpr small
  rw [List.append_assoc, List.singleton_append, uleb128_append goOn _ five (Nat.succ_pos count),
    groups_cons, if_neg fits, if_pos (by decide), if_pos ⟨behind, rfl⟩]

private theorem uleb128_of_overflows {groups : Bytes} (overflows : Overflows groups)
    (rest : Bytes) : uleb128 (groups ++ rest) = (.error .groupOverflow, rest) := by
  obtain ⟨five, large⟩ := overflows
  -- either way four groups go on, and the fifth is too large or goes on as well
  obtain ⟨before, last, rfl, goOn, large⟩ : ∃ before last, groups = before ++ [last] ∧ GoOn before ∧
      (UInt32.size ≤ groupNumber (before ++ [last]) ∨ 128 ≤ last.toNat) := by
    rcases large with ⟨⟨before, last, rfl, goOn, -⟩, large⟩ | goOn
    · exact ⟨before, last, rfl, goOn, .inl large⟩
    · obtain ⟨before, last, rfl⟩ := List.eq_nil_or_concat' groups |>.resolve_left (by
        rintro rfl
        cases five)
      obtain ⟨goOn, more⟩ := List.forall_mem_append.mp goOn
      exact ⟨before, last, rfl, goOn, .inr (more last List.mem_cons_self)⟩
  have four : before.length = 4 := by simpa using five
  have total : groupNumber before + last.toNat % 128 * 2 ^ (7 * before.length) =
      groupNumber (before ++ [last]) := by
    rw [groupNumber_append, groupNumber_singleton, four]
    ring
  rw [List.append_assoc, List.singleton_append, uleb128_append goOn _ (by rw [four]) Nat.one_pos,
    groups_cons, total]
  rcases large with large | more
  · rw [if_pos large]
  · rw [if_neg (Nat.not_lt.mpr more)]
    exact ite_self _

private theorem uleb128_of_short {input : Bytes} (goOn : GoOn input) (short : input.length < 5) :
    uleb128 input = (.error (.unexpectedEnd 1 0), []) := by
  obtain ⟨count, five⟩ : ∃ count, input.length + (count + 1) = 5 := ⟨4 - input.length, by omega⟩
  have taken := uleb128_append goOn [] five (Nat.succ_pos count)
  rwa [List.append_nil, groups_nil] at taken

/-- There are four kinds of byte strings: those that start with the groups that are written for a
number of 32 bits, or with groups of one of the two faults, and those that end too early. -/
theorem uleb128_cases (input : Bytes) :
    (∃ (value : UInt32) (rest : Bytes), input = Bytes.uleb128 value.toNat ++ rest) ∨
    (∃ groups rest, input = groups ++ rest ∧ Redundant groups) ∨
    (∃ groups rest, input = groups ++ rest ∧ Overflows groups) ∨
    GoOn input ∧ input.length < 5 := by
  rcases exists_groups 5 input with ⟨groups, rest, rfl, terminated, few⟩ |
    ⟨groups, rest, rfl, goOn, five⟩ | short
  · rcases Nat.lt_or_ge (groupNumber groups) UInt32.size with small | large
    · obtain ⟨before, last, rfl, goOn, ends⟩ := terminated
      by_cases needed : before ≠ [] → last ≠ 0
      · refine .inl ⟨UInt32.ofNat (groupNumber (before ++ [last])), rest, ?_⟩
        rw [UInt32.toNat_ofNat', Nat.mod_eq_of_lt small, uleb128_groupNumber goOn ends needed]
      · obtain ⟨several, zero⟩ := Classical.not_imp.mp needed
        refine .inr (.inl ⟨_, rest, rfl, ⟨before, last, rfl, goOn, ends⟩, ?_, few, ?_⟩)
        · have positive := List.length_pos_of_ne_nil several
          rw [List.length_append, List.length_singleton]
          omega
        · rw [List.getLast?_concat, not_not.mp zero]
    · refine .inr (.inr (.inl ⟨groups, rest, rfl, ?_, .inl ⟨terminated, large⟩⟩))
      by_contra fewer
      exact absurd (groupNumber_lt_size (by omega)) (Nat.not_lt.mpr large)
  · exact .inr (.inr (.inl ⟨groups, rest, rfl, five, .inr goOn⟩))
  · exact .inr (.inr (.inr short))

/-- Each error has the cause that it names. -/
theorem uleb128_eq_error_iff {input rest : Bytes} {error : DecodeError} :
    uleb128 input = (.error error, rest) ↔
      (error = .redundantGroup ∧ ∃ groups, input = groups ++ rest ∧ Redundant groups) ∨
      (error = .groupOverflow ∧ ∃ groups, input = groups ++ rest ∧ Overflows groups) ∨
      error = .unexpectedEnd 1 0 ∧ rest = [] ∧ GoOn input ∧ input.length < 5 := by
  constructor
  · intro ran
    rcases uleb128_cases input with ⟨value, left, rfl⟩ | ⟨groups, left, rfl, redundant⟩ |
      ⟨groups, left, rfl, overflows⟩ | ⟨goOn, short⟩
    · rw [Exact.uleb128.read_write trivial] at ran
      cases ran
    · rw [uleb128_of_redundant redundant] at ran
      cases ran
      exact .inl ⟨rfl, groups, rfl, redundant⟩
    · rw [uleb128_of_overflows overflows] at ran
      cases ran
      exact .inr (.inl ⟨rfl, groups, rfl, overflows⟩)
    · rw [uleb128_of_short goOn short] at ran
      cases ran
      exact .inr (.inr ⟨rfl, rfl, goOn, short⟩)
  · rintro (⟨rfl, groups, rfl, redundant⟩ | ⟨rfl, groups, rfl, overflows⟩ |
      ⟨rfl, rfl, goOn, short⟩)
    · exact uleb128_of_redundant redundant rest
    · exact uleb128_of_overflows overflows rest
    · exact uleb128_of_short goOn short

/-- The groups of a number of more than 32 bits are refused after the fifth. -/
private theorem exists_overflows {n : Nat} (large : UInt32.size ≤ n) :
    ∃ groups rest, Bytes.uleb128 n = groups ++ rest ∧ Overflows groups := by
  have number := groupNumber_uleb128 n
  rcases Nat.lt_or_ge 5 (Bytes.uleb128 n).length with long | few
  · obtain ⟨before, last, written, goOn, -⟩ := terminated_uleb128 n
    rw [written, List.length_append, List.length_singleton] at long
    refine ⟨before.take 5, before.drop 5 ++ [last], ?_, ?_, .inr fun byte listed => ?_⟩
    · rw [written, ← List.append_assoc, List.take_append_drop]
    · exact List.length_take_of_le (by omega)
    · exact goOn byte (List.mem_of_mem_take listed)
  · refine ⟨_, [], (List.append_nil _).symm, ?_, .inl ⟨terminated_uleb128 n, by rwa [number]⟩⟩
    by_contra fewer
    have small : groupNumber (Bytes.uleb128 n) < UInt32.size := groupNumber_lt_size (by omega)
    omega

private theorem length_of_uleb128_error {input rest : Bytes} {error : DecodeError}
    (failed : uleb128 input = (.error error, rest)) : length input = (.error error, rest) := by
  unfold length
  rw [bind_apply, failed]

/-- Numbers of 32 bits are read from the groups that are written for them and from nothing else. A
redundant group is reported exactly behind two to five groups of which the last is zero, and a
number that is too large exactly behind five groups that say so or go on; all else that is refused
ends too early. The length of a longer list is thus never read as a smaller one. -/
theorem uleb128_canonical :
    (∀ (value : UInt32) rest, uleb128 (Bytes.uleb128 value.toNat ++ rest) = (.ok value, rest)) ∧
    (∀ input value rest, uleb128 input = (.ok value, rest) →
      input = Bytes.uleb128 value.toNat ++ rest ∧ (Bytes.uleb128 value.toNat).length ≤ 5) ∧
    (∀ input rest, uleb128 input = (.error .redundantGroup, rest) ↔
      ∃ groups, input = groups ++ rest ∧ Redundant groups) ∧
    (∀ input rest, uleb128 input = (.error .groupOverflow, rest) ↔
      ∃ groups, input = groups ++ rest ∧ Overflows groups) ∧
    (∀ input error rest, uleb128 input = (.error error, rest) →
      error = .redundantGroup ∨ error = .groupOverflow ∨
        error = .unexpectedEnd 1 0 ∧ rest = [] ∧ GoOn input ∧ input.length < 5) ∧
    ∀ n, UInt32.size ≤ n → ∀ rest, ∃ left,
      length (Bytes.uleb128 n ++ rest) = (.error .groupOverflow, left) := by
  refine ⟨fun value rest => Exact.uleb128.read_write trivial rest, fun input value rest ran => ?_,
    fun input rest => ?_, fun input rest => ?_, fun input error rest ran => ?_,
    fun n large rest => ?_⟩
  · exact ⟨((Exact.uleb128 _ _ _).mp ran).2, length_uleb128_toNat_le value⟩
  · simp [uleb128_eq_error_iff]
  · simp [uleb128_eq_error_iff]
  · exact (uleb128_eq_error_iff.mp ran).imp And.left (Or.imp_left And.left)
  · obtain ⟨groups, left, written, overflows⟩ := exists_overflows large
    refine ⟨left ++ rest, length_of_uleb128_error ?_⟩
    rw [written, List.append_assoc]
    exact uleb128_of_overflows overflows _

/-- Two groups for a number below 2^14, a group without its successor, and the first length that
does not fit. -/
theorem uleb128_canonical_borders :
    uleb128 [0xac, 0x02, 0xff] = (.ok 300, [0xff]) ∧
    [0xac, 0x02, 0xff] = Bytes.uleb128 300 ++ [0xff] ∧
    uleb128 [0xac] = (.error (.unexpectedEnd 1 0), []) ∧ GoOn [0xac] ∧
    ∃ left, length (Bytes.uleb128 (2 ^ 32)) = (.error .groupOverflow, left) := by
  obtain ⟨-, accepted, -, -, refused, overflows⟩ := uleb128_canonical
  have two : uleb128 [0xac, 0x02, 0xff] = (.ok 300, [0xff]) := by decide
  have cut : uleb128 [0xac] = (.error (.unexpectedEnd 1 0), []) := by decide
  refine ⟨two, (accepted _ _ _ two).1, cut, ?_, ?_⟩
  · rcases refused _ _ _ cut with other | other | ⟨-, -, goOn, -⟩
    · cases other
    · cases other
    · exact goOn
  · have large : UInt32.size ≤ 2 ^ 32 := by decide
    have failed := overflows (2 ^ 32) large []
    rwa [List.append_nil] at failed

end Reader

end MoveWallet
