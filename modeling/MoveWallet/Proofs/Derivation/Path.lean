import MoveWallet.Proofs.Derivation.Tree
import MoveWallet.Proofs.Text.Numeral
import MoveWallet.Proofs.Text.Segment

/-! # The language of derivation paths

A path is read exactly if it is spelled as its scheme wants it: three runs of digits behind
`m/44'/637'/`, each below the hardened offset, with quotes where the rules of the scheme put them.
The two schemes differ in the quote of the second number, so that no path belongs to both. A key
depends on the numbers of its path and not on their spelling, and a path that is not spelled well is
refused before the phrase is looked at.
-/

namespace MoveWallet

open Outcome

namespace DerivationPath

/-! ## Spellings -/

/-- A run of decimal digits writes a number below the hardened offset. Zeros may lead it. -/
structure IsNumber (digits : String) (n : Nat) : Prop where
  nonempty : digits ≠ ""
  isDigit : ∀ c ∈ digits.toList, c.isDigit = true
  value : Nat.ofDigitChars 10 digits.toList 0 = n
  small : n < 2 ^ 31

/-- Three runs of digits write the numbers of a path. -/
structure Spells (account change index : String) (indices : Indices) : Prop where
  account : IsNumber account indices.account
  change : IsNumber change indices.change
  index : IsNumber index indices.index

/-- The paths with all numbers hardened, where the last quote may be left out. -/
def IsHardened (path : String) (indices : Indices) : Prop :=
  ∃ account change index, Spells account change index indices ∧
    (path = "m/44'/637'/" ++ account ++ "'/" ++ change ++ "'/" ++ index ∨
      path = "m/44'/637'/" ++ account ++ "'/" ++ change ++ "'/" ++ index ++ "'")

/-- The paths with only the first of the three numbers hardened. -/
def IsBip44 (path : String) (indices : Indices) : Prop :=
  ∃ account change index, Spells account change index indices ∧
    path = "m/44'/637'/" ++ account ++ "'/" ++ change ++ "/" ++ index

/-- What stands behind the digits of a number. -/
def quote (quoted : Bool) : String := if quoted then "'" else ""

/-! ## Segments -/

private theorem unquote_quoted (digits : List Char) :
    unquote (digits ++ ['\'']) = (digits, true) := by
  simp [unquote]

private theorem unquote_plain {segment : List Char} (plain : '\'' ∉ segment) :
    unquote segment = (segment, false) := by
  unfold unquote
  split
  next digits reversed =>
    have marked : '\'' ∈ segment.reverse := reversed ▸ List.mem_cons_self
    exact absurd (List.mem_reverse.mp marked) plain
  next => rfl

/-- What stands in front of a quote is not looked into. -/
private theorem eq_of_unquote {segment digits : List Char} {quoted : Bool}
    (cut : unquote segment = (digits, quoted)) : segment = digits ++ (quote quoted).toList := by
  unfold unquote at cut
  split at cut
  next front reversed =>
    cases cut
    rw [← List.reverse_reverse segment, reversed]
    simp [quote]
  next =>
    cases cut
    simp [quote]

/-- The digits of a number are told from what stands around them. -/
private theorem IsNumber.not_mem {digits : String} {n : Nat} (number : IsNumber digits n) {c : Char}
    (other : c.isDigit = false) : c ∉ digits.toList := by
  intro member
  rw [number.isDigit c member] at other
  cases other

theorem IsNumber.unquote {digits : String} {n : Nat} (number : IsNumber digits n) (quoted : Bool) :
    unquote (digits ++ quote quoted).toList = (digits.toList, quoted) := by
  rw [String.toList_append]
  cases quoted with
  | false => simpa [quote] using unquote_plain (number.not_mem rfl)
  | true => exact unquote_quoted digits.toList

private theorem isNumber_iff {digits : String} {n : Nat} : IsNumber digits n ↔
    (Numeral.ofDigits? 10 digits.toList).filter (· < hardenedOffset) = some n := by
  rw [Option.filter_eq_some_iff, Numeral.ofDigits?_ten_eq_some_iff, decide_eq_true_eq]
  have offset : hardenedOffset = 2 ^ 31 := rfl
  rw [offset, ne_eq, String.toList_eq_nil_iff]
  constructor
  · rintro ⟨nonempty, digits, value, small⟩
    exact ⟨⟨nonempty, digits, value⟩, small⟩
  · rintro ⟨⟨nonempty, digits, value⟩, small⟩
    exact ⟨nonempty, digits, value, small⟩

/-- A segment is read as the number of its digits if the rule allows its quote. -/
theorem segment?_eq_some_iff {rule : Hardening} {segment : List Char} {n : Nat} :
    segment? rule segment = some n ↔ ∃ digits quoted, IsNumber digits n ∧
      Hardening.allows rule quoted = true ∧ segment = (digits ++ quote quoted).toList := by
  constructor
  · intro read
    rcases cut : DerivationPath.unquote segment with ⟨digits, quoted⟩
    unfold segment? at read
    rw [cut] at read
    dsimp only at read
    split at read
    next allowed =>
      refine ⟨String.ofList digits, quoted, isNumber_iff.mpr ?_, allowed, ?_⟩
      · rwa [String.toList_ofList]
      · rw [String.toList_append, String.toList_ofList]
        exact eq_of_unquote cut
    next => cases read
  · rintro ⟨digits, quoted, number, allowed, rfl⟩
    unfold segment?
    rw [number.unquote]
    dsimp only
    rw [if_pos allowed]
    exact isNumber_iff.mp number

private theorem IsNumber.slash_not_mem {digits : String} {n : Nat} (number : IsNumber digits n)
    (quoted : Bool) : '/' ∉ (digits ++ quote quoted).toList := by
  rw [String.toList_append, List.mem_append, not_or]
  refine ⟨number.not_mem rfl, ?_⟩
  cases quoted <;> decide

/-! ## Paths -/

private theorem parse?_eq_some_iff_segments {account change index : Hardening} {path : String}
    {indices : Indices} : parse? account change index path = some indices ↔
      ∃ rest a c i, Text.after? start path.toList = some rest ∧ Text.atChar '/' rest = [a, c, i] ∧
        segment? account a = some indices.account ∧ segment? change c = some indices.change ∧
        segment? index i = some indices.index := by
  unfold parse?
  rw [Option.bind_eq_bind, Option.bind_eq_some_iff]
  refine exists_congr fun rest => ?_
  constructor
  · rintro ⟨found, read⟩
    split at read
    next a c i cut =>
      simp only [Option.bind_eq_bind, Option.bind_eq_some_iff] at read
      obtain ⟨first, firstRead, second, secondRead, last, lastRead, made⟩ := read
      cases made
      exact ⟨a, c, i, found, cut, firstRead, secondRead, lastRead⟩
    next => cases read
  · rintro ⟨a, c, i, found, cut, first, second, last⟩
    refine ⟨found, ?_⟩
    simp [cut, first, second, last]

/-- The general form of a path: each number has a quote that its rule allows. -/
theorem parse?_eq_some_iff {account change index : Hardening} {path : String} {indices : Indices} :
    parse? account change index path = some indices ↔
      ∃ a c i, Spells a c i indices ∧ ∃ first second last, Hardening.allows account first = true ∧
        Hardening.allows change second = true ∧ Hardening.allows index last = true ∧
        path = start ++ (a ++ quote first) ++ "/" ++ (c ++ quote second) ++ "/" ++
          (i ++ quote last) := by
  rw [parse?_eq_some_iff_segments]
  constructor
  · rintro ⟨rest, _, _, _, found, cut, firstRead, secondRead, lastRead⟩
    obtain ⟨a, first, number, allowed, rfl⟩ := segment?_eq_some_iff.mp firstRead
    obtain ⟨c, second, number', allowed', rfl⟩ := segment?_eq_some_iff.mp secondRead
    obtain ⟨i, last, number'', allowed'', rfl⟩ := segment?_eq_some_iff.mp lastRead
    refine ⟨a, c, i, ⟨number, number', number''⟩, first, second, last, allowed, allowed',
      allowed'', ?_⟩
    rw [← String.toList_inj, Text.after?_eq_some_iff.mp found, Text.eq_of_atChar cut]
    simp
  · rintro ⟨a, c, i, ⟨number, number', number''⟩, first, second, last, allowed, allowed',
      allowed'', rfl⟩
    refine ⟨_, _, _, _, ?_, Text.atChar_of_three (number.slash_not_mem first)
      (number'.slash_not_mem second) (number''.slash_not_mem last), ?_, ?_, ?_⟩
    · apply Text.after?_eq_some_iff.mpr
      simp
    · exact segment?_eq_some_iff.mpr ⟨a, first, number, allowed, rfl⟩
    · exact segment?_eq_some_iff.mpr ⟨c, second, number', allowed', rfl⟩
    · exact segment?_eq_some_iff.mpr ⟨i, last, number'', allowed'', rfl⟩

private theorem quote_slash (rest : String) : "'" ++ ("/" ++ rest) = "'/" ++ rest := by
  rw [← String.append_assoc]
  rfl

private theorem hardened?_eq_some_iff {path : String} {indices : Indices} :
    hardened? path = some indices ↔ IsHardened path indices := by
  unfold hardened? IsHardened
  rw [parse?_eq_some_iff]
  refine exists_congr fun a => exists_congr fun c => exists_congr fun i =>
    and_congr_right fun _ => ?_
  simp [Hardening.allows, quote, start, String.append_assoc, quote_slash]

/-- A quote behind a path is that of the last number. -/
private theorem IsHardened.of_quoted {path : String} {indices : Indices}
    (spelled : IsHardened (path ++ "'") indices) : IsHardened path indices := by
  obtain ⟨a, c, i, spells, plain | quoted⟩ := spelled
  · have last : '\'' ∈ i.toList := by
      have nonempty : i.toList ≠ [] := String.toList_eq_nil_iff.not.mpr spells.index.nonempty
      have ends := congrArg (·.toList.getLast?) plain
      rw [String.toList_append, String.toList_append, List.getLast?_append_of_ne_nil _ nonempty,
        show "'".toList = ['\''] from rfl, List.getLast?_concat] at ends
      exact List.mem_of_getLast? ends.symm
    exact absurd last (spells.index.not_mem rfl)
  · exact ⟨a, c, i, spells, .inl (String.append_left_inj _ |>.mp quoted)⟩

private theorem bip44?_eq_some_iff {path : String} {indices : Indices} :
    bip44? path = some indices ↔ IsBip44 path indices := by
  unfold bip44? IsBip44
  rw [parse?_eq_some_iff]
  refine exists_congr fun a => exists_congr fun c => exists_congr fun i =>
    and_congr_right fun _ => ?_
  simp [Hardening.allows, quote, start, String.append_assoc, quote_slash]

/-- The second of the three numbers has a quote in one scheme and none in the other. -/
theorem hardened?_or_bip44?_eq_none (path : String) :
    hardened? path = none ∨ bip44? path = none := by
  rcases hardened : hardened? path with _ | indices
  · exact .inl rfl
  rcases plain : bip44? path with _ | indices'
  · exact .inr rfl
  obtain ⟨rest, a, c, i, found, cut, -, quoted, -⟩ := parse?_eq_some_iff_segments.mp hardened
  obtain ⟨_, _, _, _, found', cut', -, unquoted, -⟩ := parse?_eq_some_iff_segments.mp plain
  cases found.symm.trans found'
  cases cut.symm.trans cut'
  obtain ⟨digits, mark, number, required, rfl⟩ := segment?_eq_some_iff.mp quoted
  obtain ⟨digits', mark', number', forbidden, same⟩ := segment?_eq_some_iff.mp unquoted
  have cuts := (number.unquote mark).symm.trans (same ▸ number'.unquote mark')
  obtain rfl : mark = mark' := congrArg Prod.snd cuts
  cases mark with
  | false => cases required
  | true => cases forbidden

end DerivationPath

namespace Derivation

open DerivationPath

variable {path : String} {indices : Indices} {mnemonic : String}

/-- The Ed25519 key of a phrase at the numbers of a path. -/
def ed25519At (indices : Indices) (mnemonic : String) :
    Except DerivationError Ed25519PrivateKey := do
  let seed ← seed mnemonic
  let node := ExtendedKey.walkHardened hash seed indices.hardened
  (Ed25519PrivateKey.ofBytes node.key.toList).mapError .key

private theorem ed25519_of_hardened? (read : hardened? path = some indices) :
    ed25519 path mnemonic = ed25519At indices mnemonic := by
  unfold ed25519
  rw [read]
  rfl

private theorem ed25519At_ne_invalidPath (other : String) :
    ed25519At indices mnemonic ≠ .error (.invalidPath other) := by
  intro failed
  rcases bind_eq_error_iff.mp failed with noSeed | ⟨seed, -, failed⟩
  · obtain ⟨_, mismatch⟩ := exists_eq_invalidMnemonic noSeed
    cases mismatch
  · obtain ⟨cause, -, reworded⟩ := mapError_eq_error_iff.mp failed
    cases reworded

/-- Only the path itself is refused, and whatever the phrase is. -/
theorem ed25519_eq_invalidPath_iff :
    ed25519 path mnemonic = .error (.invalidPath path) ↔ hardened? path = none := by
  rcases read : hardened? path with _ | indices
  · unfold ed25519
    rw [read]
    exact iff_of_true rfl rfl
  · rw [ed25519_of_hardened? read]
    exact iff_of_false (ed25519At_ne_invalidPath path) nofun

private theorem secp256k1_eq_invalidPath_iff :
    secp256k1 path mnemonic = .error (.invalidPath path) ↔ bip44? path = none := by
  unfold secp256k1
  split
  next refused => exact iff_of_true rfl refused
  next indices read =>
    refine iff_of_false (fun failed => ?_) (by simp [read])
    rcases bind_eq_error_iff.mp failed with noSeed | ⟨seed, -, failed⟩
    · obtain ⟨_, mismatch⟩ := exists_eq_invalidMnemonic noSeed
      cases mismatch
    rcases bind_eq_error_iff.mp failed with stopped | ⟨node, -, failed⟩
    · rcases ExtendedKey.walk_fails_or_reaches hash seed indices.bip44 with fails | ⟨node, reached⟩
      · cases fails.symm.trans stopped
      · cases reached.symm.trans stopped
    · obtain ⟨cause, -, reworded⟩ := mapError_eq_error_iff.mp failed
      cases reworded

/-- Each scheme reads the paths that are spelled as it wants them, as the numbers that are written,
and no path belongs to both. All spellings of some numbers lead to one Ed25519 key, with and without
the last quote. A path is refused by name, for any phrase, exactly if it is not spelled well. -/
theorem paths_exact :
    (∀ path indices, hardened? path = some indices ↔ IsHardened path indices) ∧
    (∀ path indices, bip44? path = some indices ↔ IsBip44 path indices) ∧
    (∀ path, hardened? path = none ∨ bip44? path = none) ∧
    (∀ path indices mnemonic, IsHardened (path ++ "'") indices →
      ed25519 (path ++ "'") mnemonic = ed25519 path mnemonic) ∧
    (∀ path path' indices mnemonic, IsHardened path indices → IsHardened path' indices →
      ed25519 path mnemonic = ed25519 path' mnemonic) ∧
    (∀ path mnemonic, ed25519 path mnemonic = .error (.invalidPath path) ↔
      ¬ ∃ indices, IsHardened path indices) ∧
    ∀ path mnemonic, secp256k1 path mnemonic = .error (.invalidPath path) ↔
      ¬ ∃ indices, IsBip44 path indices := by
  have same {path path' : String} {indices : Indices} (mnemonic : String)
      (spelled : IsHardened path indices) (spelled' : IsHardened path' indices) :
      ed25519 path mnemonic = ed25519 path' mnemonic := by
    rw [ed25519_of_hardened? (hardened?_eq_some_iff.mpr spelled),
      ed25519_of_hardened? (hardened?_eq_some_iff.mpr spelled')]
  refine ⟨fun _ _ => hardened?_eq_some_iff, fun _ _ => bip44?_eq_some_iff,
    hardened?_or_bip44?_eq_none, fun path indices mnemonic spelled => ?_,
    fun path path' indices mnemonic => same mnemonic, fun path mnemonic => ?_,
    fun path mnemonic => ?_⟩
  · exact same mnemonic spelled spelled.of_quoted
  · rw [ed25519_eq_invalidPath_iff, Option.eq_none_iff_forall_ne_some, not_exists]
    simp only [ne_eq, hardened?_eq_some_iff]
  · rw [secp256k1_eq_invalidPath_iff, Option.eq_none_iff_forall_ne_some, not_exists]
    simp only [ne_eq, bip44?_eq_some_iff]

/-- Zeros in front of the numbers and the last quote change nothing. -/
theorem paths_exact_zeros :
    IsHardened "m/44'/637'/0'/7'/2147483647'" ⟨0, 7, 2147483647⟩ ∧
    ed25519 "m/44'/637'/0'/7'/2147483647'" "" = ed25519 "m/44'/637'/0'/7'/2147483647" "" ∧
    ed25519 "m/44'/637'/0'/7'/2147483647'" "" = ed25519 "m/44'/637'/000'/07'/02147483647" "" := by
  obtain ⟨hardened, -, -, unquoted, spellings, -⟩ := paths_exact
  have first : IsHardened "m/44'/637'/0'/7'/2147483647'" ⟨0, 7, 2147483647⟩ :=
    (hardened _ _).mp (by decide +kernel)
  have second : IsHardened "m/44'/637'/000'/07'/02147483647" ⟨0, 7, 2147483647⟩ :=
    (hardened _ _).mp (by decide +kernel)
  exact ⟨first, unquoted "m/44'/637'/0'/7'/2147483647" _ _ first, spellings _ _ _ _ first second⟩

end Derivation

end MoveWallet
