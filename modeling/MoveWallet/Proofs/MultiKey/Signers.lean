import MoveWallet.Proofs.MultiKey.Threshold
import MoveWallet.Proofs.Wire.Key

/-! # Signer lists and bitmaps

A bitmap is settled by the positions that it names, and a list of positions makes one exactly when
they are in range and different; what is refused otherwise is the first position that is not. The
signatures of a multi-key thus correspond one to one to the ascending lists of positions with a
signature beside each of them.
-/

namespace MoveWallet

open Outcome

namespace Bitmap

/-- A bit is set: position `i` is bit `7 - i % 8` of byte `i / 8`, the lowest bit of a byte being
bit 0. -/
def HasBit (bitmap : Bitmap) (position : Nat) : Prop :=
  (bitmap.toList.getD (position / 8) 0).toNat.testBit (7 - position % 8) = true

private theorem hasBit_iff {bitmap : Bitmap} {position : Nat} :
    bitmap.HasBit position ↔ bitmap.contains position = true := by
  rw [contains_eq_testBit]
  rfl

/-- Bitmaps with the same bits are the same. -/
theorem ext_hasBit {first second : Bitmap}
    (same : ∀ position < 32, first.HasBit position ↔ second.HasBit position) : first = second := by
  apply FixedBytes.ext
  apply List.ext_getElem (first.length_eq.trans second.length_eq.symm)
  intro index inFirst inSecond
  rw [← UInt8.toNat_inj]
  apply Nat.eq_of_testBit_eq
  intro bit
  by_cases low : bit < 8
  · have inside : index < 4 := first.length_eq ▸ inFirst
    have byte : (8 * index + (7 - bit)) / 8 = index := by omega
    have place : 7 - (8 * index + (7 - bit)) % 8 = bit := by omega
    have bits := same (8 * index + (7 - bit)) (by omega)
    unfold HasBit at bits
    rw [byte, place, List.getD_eq_getElem _ _ inFirst, List.getD_eq_getElem _ _ inSecond] at bits
    exact Bool.eq_iff_iff.mpr bits
  · have high (byte : UInt8) : byte.toNat.testBit bit = false := by
      have wide : 2 ^ 8 ≤ 2 ^ bit := Nat.pow_le_pow_right (by decide) (Nat.not_lt.mp low)
      exact Nat.testBit_lt_two_pow (Nat.lt_of_lt_of_le byte.toNat_lt wide)
    rw [high, high]

private theorem positions_inj {first second : Bitmap} :
    first.positions = second.positions ↔ first = second := by
  constructor
  · intro same
    apply ext_hasBit
    intro position inside
    have listed (bitmap : Bitmap) : position ∈ bitmap.positions ↔ bitmap.HasBit position :=
      mem_positions.trans ((and_iff_right inside).trans hasBit_iff.symm)
    rw [← listed, ← listed, same]
  · rintro rfl
    rfl

/-- Positions that a bitmap can be made of: they are in range and no two are the same. -/
structure AreNameable (positions : List UInt8) : Prop where
  inside : ∀ position ∈ positions, position.toNat < 32
  distinct : positions.Nodup

/-- The bits of a bitmap are those of some positions. -/
def Names (bitmap : Bitmap) (positions : List UInt8) : Prop :=
  ∀ position < 32, bitmap.HasBit position ↔ position ∈ positions.map UInt8.toNat

/-- A bitmap is made of a list of positions when it has the bits of these positions. -/
theorem ofPositions_eq_ok_iff_names {positions : List UInt8} {bitmap : Bitmap} :
    ofPositions positions = .ok bitmap ↔ AreNameable positions ∧ bitmap.Names positions := by
  have names {made : Bitmap} (done : ofPositions positions = .ok made) : made.Names positions :=
    fun position _ => hasBit_iff.trans (contains_ofPositions done)
  constructor
  · intro done
    obtain ⟨inside, distinct, -⟩ := ofPositions_eq_ok_iff.mp done
    exact ⟨⟨inside, distinct⟩, names done⟩
  · rintro ⟨⟨inside, distinct⟩, named⟩
    have done := ofPositions_eq_ok_iff.mpr ⟨inside, distinct, rfl⟩
    have same : (positions.map UInt8.toNat).foldl insert (FixedBytes.zero 4) = bitmap :=
      ext_hasBit fun position small => (names done position small).trans (named position small).symm
    rw [done, same]

private theorem exists_ofPositions_iff {positions : List UInt8} :
    (∃ bitmap, ofPositions positions = .ok bitmap) ↔ AreNameable positions := by
  constructor
  · rintro ⟨bitmap, made⟩
    exact (ofPositions_eq_ok_iff_names.mp made).1
  · rintro ⟨inside, distinct⟩
    exact ⟨_, ofPositions_eq_ok_iff.mpr ⟨inside, distinct, rfl⟩⟩

/-- What is wrong with the first position, in the order of a list, that cannot be named: all
positions before it can, and it is out of range or one of them. -/
inductive Refusal : List UInt8 → MultiKeyError → Prop
  | outOfRange {before after : List UInt8} {position : UInt8} (fine : AreNameable before)
    (outside : 32 ≤ position.toNat) :
    Refusal (before ++ position :: after) (.positionOutOfRange position)
  | duplicate {before after : List UInt8} {position : UInt8} (fine : AreNameable before)
    (inside : position.toNat < 32) (repeated : position ∈ before) :
    Refusal (before ++ position :: after) (.duplicatePosition position)

private theorem add_eq_error_iff {bitmap : Bitmap} {position : UInt8} {error : MultiKeyError} :
    bitmap.add position = .error error ↔
      32 ≤ position.toNat ∧ error = .positionOutOfRange position ∨
        position.toNat < 32 ∧ bitmap.contains position.toNat = true ∧
          error = .duplicatePosition position := by
  change (if 32 ≤ position.toNat then _ else _) = _ ↔ _
  by_cases outside : 32 ≤ position.toNat
  · rw [if_pos outside, Except.error.injEq]
    constructor
    · rintro rfl
      exact .inl ⟨outside, rfl⟩
    · rintro (⟨-, rfl⟩ | ⟨inside, -⟩)
      · rfl
      · exact absurd outside (Nat.not_le.mpr inside)
  · rw [if_neg outside]
    by_cases named : bitmap.contains position.toNat = true
    · rw [if_pos named, Except.error.injEq]
      constructor
      · rintro rfl
        exact .inr ⟨Nat.not_le.mp outside, named, rfl⟩
      · rintro (⟨outside', -⟩ | ⟨-, -, rfl⟩)
        · exact absurd outside' outside
        · rfl
    · simp [outside, named]

/-- The first position that cannot be named is what is refused. -/
theorem ofPositions_eq_error_iff {positions : List UInt8} {error : MultiKeyError} :
    ofPositions positions = .error error ↔ Refusal positions error := by
  have named {before : List UInt8} {bitmap : Bitmap} (made : ofPositions before = .ok bitmap)
      (position : UInt8) : bitmap.contains position.toNat = true ↔ position ∈ before := by
    rw [contains_ofPositions made, List.mem_map_of_injective fun _ _ => UInt8.toNat_inj.mp]
  rw [ofPositions, foldlM_eq_error_iff]
  constructor
  · rintro ⟨before, position, after, bitmap, rfl, made, refused⟩
    have fine := exists_ofPositions_iff.mp ⟨bitmap, made⟩
    rcases add_eq_error_iff.mp refused with ⟨outside, rfl⟩ | ⟨inside, repeated, rfl⟩
    · exact .outOfRange fine outside
    · exact .duplicate fine inside ((named made position).mp repeated)
  · intro refused
    cases refused with
    | outOfRange fine outside =>
      obtain ⟨bitmap, made⟩ := exists_ofPositions_iff.mpr fine
      exact ⟨_, _, _, bitmap, rfl, made, add_eq_error_iff.mpr (.inl ⟨outside, rfl⟩)⟩
    | duplicate fine inside repeated =>
      obtain ⟨bitmap, made⟩ := exists_ofPositions_iff.mpr fine
      have present := (named made _).mpr repeated
      exact ⟨_, _, _, bitmap, rfl, made, add_eq_error_iff.mpr (.inr ⟨inside, present, rfl⟩)⟩

end Bitmap

namespace MultiKeySignature

/-- Signers in ascending order of their positions, all of which are in range. -/
structure AreAscending (signers : List (UInt8 × AnySignature)) : Prop where
  ascending : (signers.map (·.1)).Pairwise (· < ·)
  inside : ∀ signer ∈ signers, signer.1.toNat < 32

/-- A signature is made of some signers when it has their positions and signatures in order. -/
theorem ofSigners_eq_ok_iff {signers : List (UInt8 × AnySignature)}
    {signature : MultiKeySignature} :
    ofSigners signers = .ok signature ↔ AreAscending signers ∧
      signature.positions = signers.map (·.1.toNat) ∧ signature.signatures = signers.map (·.2) := by
  constructor
  · intro made
    obtain ⟨_, checked, named⟩ := bind_eq_ok_iff.mp made
    obtain ⟨bitmap, named, -⟩ := bind_eq_ok_iff.mp named
    have ascending := checkAscending_eq_ok_iff.mp checked
    have inside := List.forall_mem_map.mp (Bitmap.ofPositions_eq_ok_iff.mp named).1
    obtain ⟨signature', made', parts⟩ := ofSigners_of_ascending ascending inside
    cases made.symm.trans made'
    exact ⟨⟨ascending, inside⟩, parts⟩
  · rintro ⟨⟨ascending, inside⟩, positions, signatures⟩
    obtain ⟨signature', made, positions', signatures'⟩ :=
      ofSigners_of_ascending ascending inside
    have sameBitmap : signature'.bitmap = signature.bitmap :=
      Bitmap.positions_inj.mp (positions'.trans positions.symm)
    have same : signature' = signature :=
      MultiKeySignature.ext (signatures'.trans signatures.symm) sameBitmap
    exact same ▸ made

private theorem exists_ofSigners_iff {signers : List (UInt8 × AnySignature)} :
    (∃ signature, ofSigners signers = .ok signature) ↔ AreAscending signers := by
  constructor
  · rintro ⟨signature, made⟩
    exact (ofSigners_eq_ok_iff.mp made).1
  · rintro ⟨ascending, inside⟩
    obtain ⟨signature, made, -⟩ := ofSigners_of_ascending ascending inside
    exact ⟨signature, made⟩

def signers (signature : MultiKeySignature) : List (UInt8 × AnySignature) :=
  (signature.positions.map UInt8.ofNat).zip signature.signatures

/-- A signature is that of its signers. -/
theorem ofSigners_signers (signature : MultiKeySignature) :
    ofSigners signature.signers = .ok signature := by
  have counted : (signature.positions.map UInt8.ofNat).length = signature.signatures.length :=
    (List.length_map _).trans signature.count_eq
  have inside : ∀ position ∈ signature.positions, position < 32 :=
    fun position listed => (Bitmap.mem_positions.mp listed).1
  have kept : ∀ position ∈ signature.positions, (UInt8.ofNat position).toNat = position :=
    fun position listed =>
      UInt8.toNat_ofNat_of_lt' (Nat.lt_trans (inside position listed) (by decide))
  have first : signature.signers.map (·.1) = signature.positions.map UInt8.ofNat :=
    List.map_fst_zip counted.le
  have positions : signature.signers.map (·.1.toNat) = signature.positions := by
    calc
      signature.signers.map (·.1.toNat) = (signature.signers.map (·.1)).map UInt8.toNat := by
        rw [List.map_map]
        rfl
      _ = signature.positions.map (UInt8.toNat ∘ UInt8.ofNat) := by rw [first, List.map_map]
      _ = signature.positions := (List.map_congr_left kept).trans (List.map_id _)
  rw [ofSigners_eq_ok_iff]
  refine ⟨⟨?_, ?_⟩, positions.symm, (List.map_snd_zip counted.ge).symm⟩
  · rw [first, List.pairwise_map]
    refine (Bitmap.positions_pairwise signature.bitmap).imp_of_mem fun listed listed' below => ?_
    rw [UInt8.lt_iff_toNat_lt, kept _ listed, kept _ listed']
    exact below
  · intro signer member
    exact inside _ (positions ▸ List.mem_map_of_mem member)

/-- Lists of positions and bitmaps correspond one to one, and so do lists of signers and signatures
of multi-keys. -/
theorem signers_correspond :
    (∀ positions : List UInt8,
      ((∃ bitmap, Bitmap.ofPositions positions = .ok bitmap) ↔ Bitmap.AreNameable positions) ∧
      (∀ bitmap, Bitmap.ofPositions positions = .ok bitmap →
        bitmap.Names positions ∧ bitmap.count = positions.length) ∧
      ∀ error, Bitmap.ofPositions positions = .error error ↔ Bitmap.Refusal positions error) ∧
    (∀ signers : List (UInt8 × AnySignature),
      ((∃ signature, ofSigners signers = .ok signature) ↔ AreAscending signers) ∧
      ∀ signature, ofSigners signers = .ok signature →
        signature.positions = signers.map (·.1.toNat) ∧
          signature.signatures = signers.map (·.2)) ∧
    ∀ signature : MultiKeySignature, ofSigners signature.signers = .ok signature := by
  refine ⟨fun positions => ?_, fun signers => ?_, ofSigners_signers⟩
  · refine ⟨Bitmap.exists_ofPositions_iff, fun bitmap made => ?_, fun error => ?_⟩
    · exact ⟨(Bitmap.ofPositions_eq_ok_iff_names.mp made).2, Bitmap.count_ofPositions made⟩
    · exact Bitmap.ofPositions_eq_error_iff
  · refine ⟨exists_ofSigners_iff, fun signature made => ?_⟩
    exact (ofSigners_eq_ok_iff.mp made).2

/-- Signers on both sides of the border between two bytes, and at the last position. -/
def borderSigners : List (UInt8 × AnySignature) :=
  [(7, .ed25519 ⟨.zero 64⟩), (8, .secp256k1 ⟨.zero 64⟩), (31, .ed25519 ⟨.zero 64⟩)]

theorem signers_correspond_borders :
    (∃ signature, ofSigners borderSigners = .ok signature ∧
      signature.positions = [7, 8, 31] ∧ ofSigners signature.signers = .ok signature) ∧
    Bitmap.ofPositions [31, 5, 31, 40] = .error (.duplicatePosition 31) := by
  obtain ⟨bitmaps, signatures, back⟩ := signers_correspond
  have ascending : AreAscending borderSigners := ⟨by decide, by decide⟩
  obtain ⟨signature, made⟩ := (signatures borderSigners).1.mpr ascending
  have positions := ((signatures borderSigners).2 signature made).1
  refine ⟨⟨signature, made, positions, back signature⟩, ?_⟩
  have inside : ∀ position ∈ [(31 : UInt8), 5], position.toNat < 32 :=
    List.forall_mem_cons.mpr ⟨by decide, List.forall_mem_singleton.mpr (by decide)⟩
  have fine : Bitmap.AreNameable [31, 5] := ⟨inside, by decide⟩
  exact ((bitmaps _).2.2 _).mpr (.duplicate fine (by decide) (by decide))

end MultiKeySignature

end MoveWallet
