import MoveWallet.Proofs.Text.Blank
import MoveWallet.Text.Numeral

/-! # What numerals write

A run of digits writes the number that they are the digits of, the most significant one first.
Each of the readers of numerals accepts the texts of one form and gives the number that is written.
-/

namespace MoveWallet.Numeral

/-! ## Digits -/

private theorem isAlphanum_of_digitValue? {c : Char} {value : Nat}
    (digit : digitValue? c = some value) : c.isAlphanum = true := by
  have le_iff (a b : Char) : a ≤ b ↔ a.toNat ≤ b.toNat := UInt32.le_iff_toNat_le
  unfold digitValue? at digit
  simp only [le_iff, Char.reduceToNat] at digit
  rw [Text.isAlphanum_iff]
  split_ifs at digit <;> omega

theorem digitValue?_lt {c : Char} {value : Nat} (digit : digitValue? c = some value) :
    value < 16 := by
  have le_iff (a b : Char) : a ≤ b ↔ a.toNat ≤ b.toNat := UInt32.le_iff_toNat_le
  unfold digitValue? at digit
  simp only [le_iff, Char.reduceToNat] at digit
  split_ifs at digit with decimal small capital
  · cases digit
    omega
  · cases digit
    omega
  · cases digit
    omega

private theorem digit?_eq_some_iff {base value : Nat} {c : Char} :
    digit? base c = some value ↔ digitValue? c = some value ∧ value < base := by
  simp [digit?, Option.filter_eq_some_iff]

/-- Base sixteen has all the digits. -/
theorem digit?_sixteen {value : Nat} {c : Char} :
    digit? 16 c = some value ↔ digitValue? c = some value :=
  digit?_eq_some_iff.trans (and_iff_left_of_imp digitValue?_lt)

theorem digitValue?_hexDigit : ∀ value < 16, digitValue? (hexDigit value) = some value := by
  decide

private theorem digit?_of_isDigit {c : Char} (digit : c.isDigit = true) :
    digit? 10 c = some (c.toNat - '0'.toNat) := by
  obtain ⟨low, high⟩ := Bool.and_eq_true_iff.mp digit
  have low : '0' ≤ c := of_decide_eq_true low
  have high : c ≤ '9' := of_decide_eq_true high
  have value : digitValue? c = some (c.toNat - '0'.toNat) := if_pos ⟨low, high⟩
  have bound : c.toNat ≤ '9'.toNat := UInt32.le_iff_toNat_le.mp high
  refine digit?_eq_some_iff.mpr ⟨value, ?_⟩
  simp only [Char.reduceToNat] at bound ⊢
  omega

/-! ## Runs of digits -/

/-- The characters of a text are digits with the given values. -/
def HasDigits (base : Nat) (text : List Char) (digits : List Nat) : Prop :=
  List.Forall₂ (fun c digit => digit? base c = some digit) text digits

/-- A text is a run of digits of a number, the most significant one first. -/
def Writes (base : Nat) (text : List Char) (n : Nat) : Prop :=
  text ≠ [] ∧ ∃ digits, HasDigits base text digits ∧ Nat.ofDigits base digits.reverse = n

theorem HasDigits.isAlphanum {base : Nat} {text : List Char} {digits : List Nat}
    (has : HasDigits base text digits) : ∀ c ∈ text, c.isAlphanum = true := by
  induction has with
  | nil => exact List.forall_mem_nil _
  | cons first _ ih =>
    refine List.forall_mem_cons.mpr ⟨?_, ih⟩
    exact isAlphanum_of_digitValue? (digit?_eq_some_iff.mp first).1

theorem HasDigits.unique {base : Nat} {text : List Char} {digits others : List Nat}
    (has : HasDigits base text digits) (has' : HasDigits base text others) : digits = others := by
  have unique : Relator.RightUnique fun (c : Char) (digit : Nat) => digit? base c = some digit :=
    fun _ _ _ read read' => Option.some_inj.mp (read.symm.trans read')
  exact unique.forall₂ has has'

/-- The hexadecimal digits of both cases. -/
def IsHexDigit (c : Char) : Prop := ('0' ≤ c ∧ c ≤ '9') ∨ ('a' ≤ c ∧ c ≤ 'f') ∨ ('A' ≤ c ∧ c ≤ 'F')

private theorem exists_digit?_sixteen_iff {c : Char} :
    (∃ digit, digit? 16 c = some digit) ↔ IsHexDigit c := by
  simp only [digit?_sixteen, digitValue?, IsHexDigit]
  split_ifs with decimal small capital
  · simp [decimal]
  · simp [small]
  · simp [capital]
  · simp [decimal, small, capital]

/-- Every run of hexadecimal digits has values. -/
private theorem exists_hasDigits_iff {text : List Char} :
    (∃ digits, HasDigits 16 text digits) ↔ ∀ c ∈ text, IsHexDigit c := by
  induction text with
  | nil => exact iff_of_true ⟨[], .nil⟩ (List.forall_mem_nil _)
  | cons c rest ih =>
    rw [List.forall_mem_cons, ← ih, ← exists_digit?_sixteen_iff]
    constructor
    · rintro ⟨_, _ | ⟨first, others⟩⟩
      exact ⟨⟨_, first⟩, ⟨_, others⟩⟩
    · rintro ⟨⟨digit, first⟩, digits, others⟩
      exact ⟨digit :: digits, .cons first others⟩

theorem HasDigits.lt {base : Nat} {text : List Char} {digits : List Nat}
    (has : HasDigits base text digits) : ∀ digit ∈ digits, digit < base := by
  induction has with
  | nil => exact List.forall_mem_nil _
  | cons first _ ih => exact List.forall_mem_cons.mpr ⟨(digit?_eq_some_iff.mp first).2, ih⟩

/-- A run of digits writes a number that so many digits can write. -/
theorem Writes.lt {base n : Nat} {text : List Char} (writes : Writes base text n)
    (large : 1 < base) : n < base ^ text.length := by
  obtain ⟨-, digits, has, rfl⟩ := writes
  have small : ∀ digit ∈ digits.reverse, digit < base :=
    fun digit listed => has.lt digit (List.mem_reverse.mp listed)
  have bound := Nat.ofDigits_lt_base_pow_length large small
  rwa [List.length_reverse, ← has.length_eq] at bound

/-- Any hexadecimal digits write a number. -/
theorem exists_writes_iff {text : List Char} :
    (∃ n, Writes 16 text n) ↔ text ≠ [] ∧ ∀ c ∈ text, IsHexDigit c := by
  rw [← exists_hasDigits_iff]
  constructor
  · rintro ⟨n, nonempty, digits, has, -⟩
    exact ⟨nonempty, digits, has⟩
  · rintro ⟨nonempty, digits, has⟩
    exact ⟨_, nonempty, digits, has, rfl⟩

theorem Writes.isAlphanum {base n : Nat} {text : List Char} (writes : Writes base text n) :
    ∀ c ∈ text, c.isAlphanum = true := by
  obtain ⟨-, digits, has, -⟩ := writes
  exact has.isAlphanum

/-- Digits behind others raise them by the base. -/
theorem ofDigits_reverse_cons (base digit : Nat) (digits : List Nat) :
    Nat.ofDigits base (digit :: digits).reverse =
      Nat.ofDigits base digits.reverse + base ^ digits.length * digit := by
  rw [List.reverse_cons, Nat.ofDigits_append, List.length_reverse, Nat.ofDigits_singleton]

private theorem continue?_eq_some_iff {base start n : Nat} {text : List Char} :
    continue? base start text = some n ↔
      ∃ digits, HasDigits base text digits ∧ Nat.ofDigits base (start :: digits).reverse = n := by
  induction text generalizing start with
  | nil => simp [continue?, HasDigits]
  | cons c rest ih =>
    have shift (digit : Nat) (digits : List Nat) :
        Nat.ofDigits base ((start * base + digit) :: digits).reverse =
          Nat.ofDigits base (start :: digit :: digits).reverse := by
      simp only [ofDigits_reverse_cons, List.length_cons]
      ring
    rw [continue?, Option.bind_eq_bind, Option.bind_eq_some_iff]
    simp only [ih, shift, HasDigits, List.forall₂_cons_left_iff]
    constructor
    · rintro ⟨digit, read, digits, has, total⟩
      exact ⟨digit :: digits, ⟨digit, digits, read, has, rfl⟩, total⟩
    · rintro ⟨_, ⟨digit, digits, read, has, rfl⟩, total⟩
      exact ⟨digit, read, digits, has, total⟩

theorem ofDigits?_eq_some_iff {base n : Nat} {text : List Char} :
    ofDigits? base text = some n ↔ Writes base text n := by
  have zero (digits : List Nat) :
      Nat.ofDigits base (0 :: digits).reverse = Nat.ofDigits base digits.reverse := by
    rw [ofDigits_reverse_cons, Nat.mul_zero, Nat.add_zero]
  cases text with
  | nil => simp [ofDigits?, Writes]
  | cons c rest =>
    change continue? base 0 (c :: rest) = some n ↔ _
    rw [continue?_eq_some_iff, Writes, and_iff_right (List.cons_ne_nil c rest)]
    simp only [zero]

private theorem continue?_of_isDigit {text : List Char} (digits : ∀ c ∈ text, c.isDigit = true)
    (start : Nat) : continue? 10 start text = some (Nat.ofDigitChars 10 text start) := by
  induction text generalizing start with
  | nil => rfl
  | cons c rest ih =>
    obtain ⟨first, others⟩ := List.forall_mem_cons.mp digits
    rw [continue?, digit?_of_isDigit first, Option.bind_eq_bind, Option.bind_some, ih others,
      Nat.ofDigitChars_cons, Nat.mul_comm]

/-- Only the ten digits have a value in base ten. -/
private theorem isDigit_of_digit? {c : Char} {value : Nat} (digit : digit? 10 c = some value) :
    c.isDigit = true := by
  obtain ⟨read, small⟩ := digit?_eq_some_iff.mp digit
  unfold digitValue? at read
  split_ifs at read with decimal lower upper
  · exact Bool.and_eq_true_iff.mpr ⟨decide_eq_true decimal.1, decide_eq_true decimal.2⟩
  · cases read
    omega
  · cases read
    omega

private theorem isDigit_of_continue? {start n : Nat} {text : List Char}
    (read : continue? 10 start text = some n) : ∀ c ∈ text, c.isDigit = true := by
  induction text generalizing start with
  | nil => exact List.forall_mem_nil _
  | cons c rest ih =>
    obtain ⟨digit, first, others⟩ := Option.bind_eq_some_iff.mp read
    exact List.forall_mem_cons.mpr ⟨isDigit_of_digit? first, ih others⟩

/-- A decimal numeral is a non-empty run of digits; zeros may lead it. -/
theorem ofDigits?_ten_eq_some_iff {n : Nat} {text : List Char} :
    ofDigits? 10 text = some n ↔
      text ≠ [] ∧ (∀ c ∈ text, c.isDigit = true) ∧ Nat.ofDigitChars 10 text 0 = n := by
  cases text with
  | nil => simp [ofDigits?]
  | cons c rest =>
    change continue? 10 0 (c :: rest) = some n ↔ _
    rw [and_iff_right (List.cons_ne_nil c rest)]
    constructor
    · intro read
      have digits := isDigit_of_continue? read
      rw [continue?_of_isDigit digits] at read
      exact ⟨digits, Option.some.inj read⟩
    · rintro ⟨digits, rfl⟩
      exact continue?_of_isDigit digits 0

/-! ## The numerals that are written -/

/-- One digit writes its value. -/
theorem writes_singleton {base n : Nat} {c : Char} :
    Writes base [c] n ↔ digit? base c = some n := by
  constructor
  · rintro ⟨-, digits, has, total⟩
    rcases has with _ | ⟨digit, _ | _⟩
    rw [digit, ← total]
    simp
  · intro digit
    exact ⟨List.cons_ne_nil c [], [n], .cons digit .nil, by simp⟩

/-- A digit behind others raises them by the base. -/
private theorem Writes.concat {base n digit : Nat} {text : List Char} {c : Char}
    (writes : Writes base text n) (last : digit? base c = some digit) :
    Writes base (text ++ [c]) (n * base + digit) := by
  obtain ⟨-, digits, has, rfl⟩ := writes
  refine ⟨List.concat_ne_nil c text, digits ++ [digit], ?_, ?_⟩
  · exact List.rel_append has (.cons last .nil)
  · rw [List.reverse_concat, Nat.ofDigits_cons]
    ring

private theorem digit?_digitChar {base digit : Nat} (small : digit < base) (bound : base ≤ 16) :
    digit? base digit.digitChar = some digit := by
  have value : ∀ digit < 16, digitValue? (Nat.digitChar digit) = some digit := by decide
  exact digit?_eq_some_iff.mpr ⟨value digit (small.trans_le bound), small⟩

/-- The digits of a number write it. -/
theorem writes_toDigits {base : Nat} (large : 1 < base) (bound : base ≤ 16) (n : Nat) :
    Writes base (Nat.toDigits base n) n := by
  induction n using Nat.strong_induction_on with
  | h n ih =>
    rcases Nat.lt_or_ge n base with small | more
    · rw [Nat.toDigits_of_lt_base small]
      exact writes_singleton.mpr (digit?_digitChar small bound)
    · have shorter : n / base < n := Nat.div_lt_self (by omega) large
      have last := digit?_digitChar (Nat.mod_lt n (Nat.zero_lt_of_lt large)) bound
      have writes := (ih _ shorter).concat last
      rw [Nat.div_add_mod'] at writes
      rwa [Nat.toDigits_of_base_le large more]

/-- Only zero is written with a zero in front. -/
theorem eq_zero_of_head?_toDigits {base n : Nat} (large : 1 < base) (bound : base ≤ 16)
    (first : (Nat.toDigits base n).head? = some '0') : n = 0 := by
  induction n using Nat.strong_induction_on with
  | h n ih =>
    rcases Nat.lt_or_ge n base with small | more
    · rw [Nat.toDigits_of_lt_base small, List.head?_cons, Option.some.injEq] at first
      have digit := digit?_digitChar small bound
      rw [first] at digit
      have value := (digit?_eq_some_iff.mp digit).1
      exact (Option.some.inj value).symm
    · have shorter : n / base < n := Nat.div_lt_self (by omega) large
      rw [Nat.toDigits_of_base_le large more,
        List.head?_append_of_ne_nil _ Nat.toDigits_ne_nil] at first
      have positive := Nat.div_pos more (Nat.zero_lt_of_lt large)
      exact absurd (ih _ shorter first) positive.ne'

theorem ofDigits?_toDigits (n : Nat) : ofDigits? 10 (Nat.toDigits 10 n) = some n :=
  ofDigits?_eq_some_iff.mpr (writes_toDigits (by decide) (by decide) n)

/-! ## Leading zeros -/

/-- Zeros in front of a numeral are digits that add nothing. -/
theorem hasDigits_zeros_append_iff {count : Nat} {text : List Char} {digits : List Nat} :
    HasDigits 16 (List.replicate count '0' ++ text) digits ↔
      ∃ others, HasDigits 16 text others ∧ digits = List.replicate count 0 ++ others := by
  have zero (digit : Nat) : digit? 16 '0' = some digit ↔ digit = 0 := by
    rw [show digit? 16 '0' = some 0 from rfl, Option.some.injEq, eq_comm]
  induction count generalizing digits with
  | zero => simp
  | succ count ih =>
    unfold HasDigits at ih ⊢
    simp only [List.replicate_succ, List.cons_append, List.forall₂_cons_left_iff, zero, ih]
    constructor
    · rintro ⟨_, _, rfl, ⟨others, has, rfl⟩, rfl⟩
      exact ⟨others, has, rfl⟩
    · rintro ⟨others, has, rfl⟩
      exact ⟨0, _, rfl, ⟨others, has, rfl⟩, rfl⟩

theorem ofDigits_reverse_zeros_append (base count : Nat) (digits : List Nat) :
    Nat.ofDigits base (List.replicate count 0 ++ digits).reverse =
      Nat.ofDigits base digits.reverse := by
  induction count with
  | zero => rfl
  | succ count ih =>
    rw [List.replicate_succ, List.cons_append, ofDigits_reverse_cons, ih, Nat.mul_zero,
      Nat.add_zero]

/-! ## Signs and underscores -/

/-- What may stand in front of the digits. -/
def IsSign (sign : List Char) : Prop := sign = [] ∨ sign = ['+']

/-- A decimal numeral with at most one plus sign. -/
def Unsigned (text : List Char) (n : Nat) : Prop :=
  ∃ sign digits, IsSign sign ∧ text = sign ++ digits ∧ Writes 10 digits n

/-- A numeral with at most one plus sign and with underscores anywhere behind the first digit. -/
def Grouped (base : Nat) (text : List Char) (n : Nat) : Prop :=
  ∃ sign digits, IsSign sign ∧ text = sign ++ digits ∧ digits.head? ≠ some '_' ∧
    Writes base (digits.filter (· ≠ '_')) n

private theorem not_writes_plus {base n : Nat} {rest : List Char} :
    ¬ Writes base ('+' :: rest) n := by
  intro writes
  have plain := writes.isAlphanum '+' List.mem_cons_self
  exact absurd plain (by decide)

/-- No sign is blank. -/
theorem IsSign.isBlank_eq_false {sign : List Char} (signed : IsSign sign) :
    ∀ c ∈ sign, Text.isBlank c = false := by
  rcases signed with rfl | rfl
  · exact List.forall_mem_nil _
  · exact List.forall_mem_singleton.mpr (by decide)

theorem Unsigned.isBlank_eq_false {text : List Char} {n : Nat} (numeral : Unsigned text n) :
    ∀ c ∈ text, Text.isBlank c = false := by
  obtain ⟨sign, digits, signed, rfl, writes⟩ := numeral
  refine List.forall_mem_append.mpr ⟨signed.isBlank_eq_false, fun c member => ?_⟩
  exact Text.isBlank_eq_false_of_isAlphanum (writes.isAlphanum c member)

theorem Grouped.isBlank_eq_false {base n : Nat} {text : List Char} (numeral : Grouped base text n) :
    ∀ c ∈ text, Text.isBlank c = false := by
  obtain ⟨sign, digits, signed, rfl, -, writes⟩ := numeral
  refine List.forall_mem_append.mpr ⟨signed.isBlank_eq_false, fun c member => ?_⟩
  by_cases underscore : c = '_'
  · subst underscore
    decide
  · have kept : c ∈ digits.filter (· ≠ '_') :=
      List.mem_filter.mpr ⟨member, by simpa using underscore⟩
    exact Text.isBlank_eq_false_of_isAlphanum (writes.isAlphanum c kept)

/-- A text without underscores is kept as it is. -/
private theorem filter_of_isAlphanum {text : List Char} (plain : ∀ c ∈ text, c.isAlphanum = true) :
    text.filter (· ≠ '_') = text := by
  apply List.filter_eq_self.mpr
  intro c member
  have other : c ≠ '_' := by
    rintro rfl
    exact absurd (plain '_' member) (by decide)
  exact decide_eq_true other

/-- A run of digits has no underscores, and may stand behind a sign. -/
theorem Writes.grouped {base n : Nat} {sign digits : List Char} (writes : Writes base digits n)
    (signed : IsSign sign) : Grouped base (sign ++ digits) n := by
  refine ⟨sign, digits, signed, rfl, fun first => ?_, ?_⟩
  · have plain := writes.isAlphanum '_' (List.mem_of_mem_head? first)
    exact absurd plain (by decide)
  · rwa [filter_of_isAlphanum writes.isAlphanum]

/-- What is read without underscores is read alike where they are allowed. -/
theorem Unsigned.grouped {text : List Char} {n : Nat} (numeral : Unsigned text n) :
    Grouped 10 text n := by
  obtain ⟨sign, digits, signed, rfl, writes⟩ := numeral
  exact writes.grouped signed

/-- A run of digits and nothing else is read alike with and without underscores. -/
theorem Grouped.unsigned {text : List Char} {n : Nat} (numeral : Grouped 10 text n)
    (plain : ∀ c ∈ text, c.isAlphanum = true) : Unsigned text n := by
  obtain ⟨sign, digits, signed, rfl, -, writes⟩ := numeral
  have digitsPlain := (List.forall_mem_append.mp plain).2
  rw [filter_of_isAlphanum digitsPlain] at writes
  exact ⟨sign, digits, signed, rfl, writes⟩

theorem unsigned?_eq_some_iff {text : List Char} {n : Nat} :
    unsigned? text = some n ↔ Unsigned text n := by
  unfold Unsigned
  constructor
  · intro read
    unfold unsigned? at read
    split at read
    next digits => exact ⟨['+'], digits, .inr rfl, rfl, ofDigits?_eq_some_iff.mp read⟩
    next => exact ⟨[], text, .inl rfl, rfl, ofDigits?_eq_some_iff.mp read⟩
  · rintro ⟨_, digits, rfl | rfl, rfl, writes⟩
    · have plain : ∀ rest, text ≠ '+' :: rest := by
        rintro rest rfl
        exact not_writes_plus writes
      rw [unsigned?]
      · exact ofDigits?_eq_some_iff.mpr writes
      · exact plain
    · exact ofDigits?_eq_some_iff.mpr writes

private theorem body_eq_some_iff {base n : Nat} {text : List Char} :
    grouped?.body base text = some n ↔
      text.head? ≠ some '_' ∧ Writes base (text.filter (· ≠ '_')) n := by
  rw [← ofDigits?_eq_some_iff]
  unfold grouped?.body
  split
  next rest => simp
  next plain =>
    refine (and_iff_right fun first => ?_).symm
    obtain ⟨rest, rfl⟩ := List.head?_eq_some_iff.mp first
    exact plain rest rfl

theorem grouped?_eq_some_iff {base n : Nat} {text : List Char} :
    grouped? base text = some n ↔ Grouped base text n := by
  unfold Grouped
  constructor
  · intro read
    unfold grouped? at read
    split at read
    next rest => exact ⟨['+'], rest, .inr rfl, rfl, body_eq_some_iff.mp read⟩
    next => exact ⟨[], text, .inl rfl, rfl, body_eq_some_iff.mp read⟩
  · rintro ⟨_, digits, rfl | rfl, rfl, first, writes⟩
    · have plain : ∀ rest, text ≠ '+' :: rest := by
        rintro rest rfl
        rw [List.filter_cons_of_pos (by decide)] at writes
        exact not_writes_plus writes
      rw [grouped?]
      · exact body_eq_some_iff.mpr ⟨first, writes⟩
      · exact plain
    · exact body_eq_some_iff.mpr ⟨first, writes⟩

end MoveWallet.Numeral
