import MoveWallet.Proofs.Bytes.Basic
import MoveWallet.Proofs.Poseidon.Arity
import MoveWallet.Proofs.Wire.Primitive

/-! # What scalars tell

A piece of 31 bytes is below the modulus, so that no piece is reduced and the scalars give the
padded byte string back. The length behind them tells the zeros of a byte string from its padding:
with it the scalars tell the byte string. There are fewer digests than lists of scalars, so that
some lists collide. Two byte strings with one hash are the same, or the lists of scalars that they
are packed into collide.
-/

namespace MoveWallet

open Outcome

namespace Scalar

theorem ofNat_inj {m n : Nat} (small : m < modulus) (small' : n < modulus) :
    ofNat m = ofNat n ↔ m = n := by
  rw [ofNat, ofNat, Fin.mk.injEq, Nat.mod_eq_of_lt small, Nat.mod_eq_of_lt small']

/-- A byte string that fits a scalar is below the modulus. -/
private theorem toNatLE_lt_modulus {bytes : Bytes}
    (short : bytes.length ≤ Poseidon.bytesPerScalar) : Bytes.toNatLE bytes < modulus := by
  have largest : Bytes.bound Poseidon.bytesPerScalar < modulus := by decide
  exact (Bytes.toNatLE_lt_of_le short).trans largest

/-- A byte string that fits a scalar is not reduced. -/
theorem val_ofBytes {bytes : Bytes} (short : bytes.length ≤ Poseidon.bytesPerScalar) :
    (ofBytes bytes).val = Bytes.toNatLE bytes :=
  Nat.mod_eq_of_lt (toNatLE_lt_modulus short)

theorem ofBytes_inj {first second : Bytes} (widths : first.length = second.length)
    (short : first.length ≤ Poseidon.bytesPerScalar) :
    ofBytes first = ofBytes second ↔ first = second := by
  unfold ofBytes
  rw [ofNat_inj (toNatLE_lt_modulus short) (toNatLE_lt_modulus (widths ▸ short)),
    Bytes.toNatLE_inj widths]

private theorem ofBytes_toBytes (scalar : Scalar) : ofBytes scalar.toBytes.toList = scalar := by
  have below : scalar.val < Bytes.bound 32 := Nat.lt_trans scalar.isLt (by decide)
  have number : Bytes.toNatLE scalar.toBytes.toList = scalar.val :=
    (Bytes.toNatLE_ofNatLE 32 scalar.val).trans (Nat.mod_eq_of_lt below)
  rw [ofBytes, number]
  exact Fin.ext (Nat.mod_eq_of_lt scalar.isLt)

theorem toBytes_injective : Function.Injective toBytes := by
  intro first second same
  rw [← ofBytes_toBytes first, same, ofBytes_toBytes]

/-- The bytes of a scalar are those that it was made of, with zeros behind them. -/
theorem toList_toBytes_ofBytes {bytes : Bytes} (short : bytes.length ≤ Poseidon.bytesPerScalar) :
    (ofBytes bytes).toBytes.toList = Bytes.padRight 32 bytes := by
  have written : (ofBytes bytes).toBytes.toList = Bytes.ofNatLE 32 (ofBytes bytes).val := rfl
  rw [written, val_ofBytes short, Bytes.ofNatLE_toNatLE_of_le (short.trans (by decide))]

/-- A number is what its decimal digits make up. -/
theorem decimal_injective : Function.Injective decimal := by
  intro first second same
  have digits : Nat.toDigits 10 first.val = Nat.toDigits 10 second.val := by
    rw [← Nat.toList_repr, ← Nat.toList_repr]
    exact congrArg String.toList same
  have numbers := congrArg (Nat.ofDigitChars 10 · 0) digits
  rw [Nat.ofDigitChars_toDigits (by decide) (by decide),
    Nat.ofDigitChars_toDigits (by decide) (by decide)] at numbers
  exact Fin.ext numbers

end Scalar

namespace Poseidon

/-- The byte string of a size whose pieces are the scalars. -/
def unpack (size : Nat) (scalars : List Scalar) : Bytes :=
  (scalars.flatMap fun scalar => Bytes.ofNatLE bytesPerScalar scalar.val).take size

/-- No piece is reduced, so that the scalars of a byte string give it back. -/
theorem unpack_pieces (bytes : Bytes) :
    unpack bytes.length ((chunks bytesPerScalar bytes).map Scalar.ofBytes) = bytes := by
  have kept : ∀ piece ∈ chunks bytesPerScalar bytes,
      Bytes.ofNatLE bytesPerScalar (Scalar.ofBytes piece).val =
        Bytes.padRight bytesPerScalar piece := by
    intro piece listed
    have short := length_le_of_mem_chunks (by decide) listed
    rw [Scalar.val_ofBytes short, Bytes.ofNatLE_toNatLE_of_le short]
  rw [unpack, List.flatMap_map, List.flatMap_congr kept]
  exact (List.prefix_iff_eq_take.mp (Bytes.prefix_padded_pieces (by decide) bytes)).symm

section Packed

variable {bytes first second : Bytes} {size : Nat} {scalars scalars' : List Scalar}

private theorem exists_pack_iff : (∃ scalars, pack bytes size = .ok scalars) ↔
    bytes.length ≤ size ∧ size ⌈/⌉ bytesPerScalar < maxPacked := by
  constructor
  · rintro ⟨_, packed⟩
    exact (pack_eq_ok_iff.mp packed).1
  · intro within
    exact ⟨_, pack_eq_ok_iff.mpr ⟨within, rfl⟩⟩

private theorem length_of_pack (packed : pack bytes size = .ok scalars) :
    scalars.length = size ⌈/⌉ bytesPerScalar := by
  obtain ⟨⟨fits, -⟩, rfl⟩ := pack_eq_ok_iff.mp packed
  exact length_pieces fits

/-- Each scalar is the number of its piece of the padded byte string. -/
private theorem val_getElem_of_pack (packed : pack bytes size = .ok scalars) {index : Nat}
    (inside : index < scalars.length) : scalars[index].val = Bytes.toNatLE
      (((Bytes.padRight size bytes).drop (bytesPerScalar * index)).take bytesPerScalar) := by
  obtain ⟨-, rfl⟩ := pack_eq_ok_iff.mp packed
  rw [List.getElem_map, getElem_chunks (by decide),
    Scalar.val_ofBytes (List.length_take_le bytesPerScalar _)]

private theorem val_getElem_lt_of_pack (packed : pack bytes size = .ok scalars) {index : Nat}
    (inside : index < scalars.length) : scalars[index].val < 2 ^ 248 := by
  have width : Bytes.bound bytesPerScalar = 2 ^ 248 := Bytes.bound_eq_two_pow bytesPerScalar
  rw [val_getElem_of_pack packed inside, ← width]
  exact Bytes.toNatLE_lt_of_le (List.length_take_le bytesPerScalar _)

private theorem unpack_of_pack (packed : pack bytes size = .ok scalars) :
    unpack size scalars = Bytes.padRight size bytes := by
  obtain ⟨⟨fits, -⟩, rfl⟩ := pack_eq_ok_iff.mp packed
  have back := unpack_pieces (Bytes.padRight size bytes)
  rwa [Bytes.length_padRight fits] at back

/-- The scalars tell the padded byte string, and thus all but the zeros at the end. -/
theorem eq_iff_of_pack (packed : pack first size = .ok scalars)
    (packed' : pack second size = .ok scalars') :
    scalars = scalars' ↔ first.trimZeros = second.trimZeros := by
  obtain ⟨⟨fits, -⟩, made⟩ := pack_eq_ok_iff.mp packed
  obtain ⟨⟨fits', -⟩, made'⟩ := pack_eq_ok_iff.mp packed'
  rw [← Bytes.padRight_eq_padRight_iff fits fits']
  constructor
  · rintro rfl
    rw [← unpack_of_pack packed, unpack_of_pack packed']
  · intro padded
    rw [made, made', padded]

/-- No length of a byte string that is packed is reduced. -/
private theorem length_lt_modulus_of_pack (packed : pack bytes size = .ok scalars) :
    bytes.length < Scalar.modulus := by
  obtain ⟨⟨fits, few⟩, -⟩ := pack_eq_ok_iff.mp packed
  have small : size < 500 := by
    unfold maxPacked at few
    omega
  have large : 500 < Scalar.modulus := by decide
  omega

private theorem packWithLength_eq_ok_iff : packWithLength bytes size = .ok scalars ↔
    ∃ packed, pack bytes size = .ok packed ∧ scalars = packed ++ [Scalar.ofNat bytes.length] := by
  rw [packWithLength, bind_eq_ok_iff]
  simp [eq_comm]

private theorem exists_packWithLength_iff : (∃ scalars, packWithLength bytes size = .ok scalars) ↔
    bytes.length ≤ size ∧ size ⌈/⌉ bytesPerScalar < maxPacked := by
  simp only [packWithLength_eq_ok_iff, ← exists_pack_iff]
  constructor
  · rintro ⟨_, packed, pieces, -⟩
    exact ⟨packed, pieces⟩
  · rintro ⟨packed, pieces⟩
    exact ⟨_, packed, pieces, rfl⟩

/-- The length tells where the padding starts, and the pieces tell what is in front of it. -/
theorem packWithLength_inj (packed : packWithLength first size = .ok scalars)
    (packed' : packWithLength second size = .ok scalars) : first = second := by
  obtain ⟨_, pieces, rfl⟩ := packWithLength_eq_ok_iff.mp packed
  obtain ⟨_, pieces', same⟩ := packWithLength_eq_ok_iff.mp packed'
  obtain ⟨rfl, counts⟩ := List.append_inj' same rfl
  have widths : first.length = second.length :=
    (Scalar.ofNat_inj (length_lt_modulus_of_pack pieces) (length_lt_modulus_of_pack pieces')).mp
      (List.singleton_inj.mp counts)
  have padded : Bytes.padRight size first = Bytes.padRight size second := by
    rw [← unpack_of_pack pieces, unpack_of_pack pieces']
  exact (List.append_inj padded widths).1

theorem length_of_packWithLength (packed : packWithLength bytes size = .ok scalars) :
    scalars.length = (size + 30) / 31 + 1 := by
  obtain ⟨_, pieces, rfl⟩ := packWithLength_eq_ok_iff.mp packed
  rw [List.length_append, length_of_pack pieces]
  rfl

end Packed

/-- A byte string is packed exactly if it is within its size and the size within fifteen scalars.
The number of scalars is that of the size, each of them is the number of its piece, which no modulus
reduces, and together they give the padded byte string back. They tell all but the zeros at the end,
and with the length behind them everything. A scalar is what is read from its bytes, and its bytes
are those that it was read from, with zeros behind them. -/
theorem packing_lossless :
    (∀ bytes size, ((∃ scalars, pack bytes size = .ok scalars) ↔
      bytes.length ≤ size ∧ size ⌈/⌉ bytesPerScalar < maxPacked) ∧
      ((∃ scalars, packWithLength bytes size = .ok scalars) ↔
        bytes.length ≤ size ∧ size ⌈/⌉ bytesPerScalar < maxPacked)) ∧
    (∀ bytes size scalars, pack bytes size = .ok scalars →
      scalars.length = size ⌈/⌉ bytesPerScalar ∧
      (∀ index (inside : index < scalars.length),
        scalars[index].val = Bytes.toNatLE
          (((Bytes.padRight size bytes).drop (bytesPerScalar * index)).take bytesPerScalar) ∧
        scalars[index].val < 2 ^ 248) ∧
      unpack size scalars = Bytes.padRight size bytes) ∧
    (∀ first second size scalars, packWithLength first size = .ok scalars →
      packWithLength second size = .ok scalars → first = second) ∧
    (∀ first second size scalars scalars', pack first size = .ok scalars →
      pack second size = .ok scalars' →
      (scalars = scalars' ↔ first.trimZeros = second.trimZeros)) ∧
    (∀ scalar, Scalar.ofBytes scalar.toBytes.toList = scalar) ∧
    ∀ bytes, bytes.length ≤ bytesPerScalar →
      (Scalar.ofBytes bytes).toBytes.toList = Bytes.padRight 32 bytes := by
  refine ⟨fun bytes size => ⟨exists_pack_iff, exists_packWithLength_iff⟩,
    fun bytes size scalars packed => ?_, fun first second size scalars => packWithLength_inj,
    fun first second size scalars scalars' => eq_iff_of_pack, Scalar.ofBytes_toBytes,
    fun bytes => Scalar.toList_toBytes_ofBytes⟩
  refine ⟨length_of_pack packed, fun index inside => ?_, unpack_of_pack packed⟩
  exact ⟨val_getElem_of_pack packed inside, val_getElem_lt_of_pack packed inside⟩

/-- A byte and the same with a zero behind it, at a size whose last piece has two bytes. -/
theorem packing_lossless_shortPiece :
    pack [7] 33 = .ok [Scalar.ofNat 7, Scalar.zero] ∧
    pack [7, 0] 33 = .ok [Scalar.ofNat 7, Scalar.zero] ∧
    (Scalar.ofNat 7).val = 7 ∧
    unpack 33 [Scalar.ofNat 7, Scalar.zero] = Bytes.padRight 33 [7] ∧
    Bytes.trimZeros [7] = Bytes.trimZeros [7, 0] ∧
    (∃ scalars, packWithLength [7] 33 = .ok scalars) ∧
    packWithLength [7] 33 ≠ packWithLength [7, 0] 33 ∧
    (Scalar.ofBytes [7]).toBytes.toList = Bytes.padRight 32 [7] := by
  obtain ⟨accepted, content, numbered, zeros, -, bytes⟩ := packing_lossless
  have packed : pack [7] 33 = .ok [Scalar.ofNat 7, Scalar.zero] := rfl
  have packed' : pack [7, 0] 33 = .ok [Scalar.ofNat 7, Scalar.zero] := rfl
  obtain ⟨-, pieces, back⟩ := content _ _ _ packed
  have first : (Scalar.ofNat 7).val = 7 := (pieces 0 (by decide)).1
  obtain ⟨scalars, counted⟩ := (accepted [7] 33).2.mpr (by decide)
  refine ⟨packed, packed', first, back, (zeros _ _ _ _ _ packed packed').mp rfl,
    ⟨scalars, counted⟩, fun same => ?_, bytes [7] (by decide)⟩
  cases numbered [7] [7, 0] 33 scalars counted (same.symm.trans counted)

/-- Two different lists of as many scalars with one hash. -/
def IsCollision (first second : List Scalar) : Prop :=
  first ≠ second ∧ first.length = second.length ∧
    ∃ digest, hash first = .ok digest ∧ hash second = .ok digest

theorem eq_or_isCollision {first second : List Scalar} {digest : Scalar}
    (lengths : first.length = second.length) (hashed : hash first = .ok digest)
    (hashed' : hash second = .ok digest) : first = second ∨ IsCollision first second := by
  by_cases same : first = second
  · exact .inl same
  · exact .inr ⟨same, lengths, digest, hashed, hashed'⟩

private theorem hashText_eq_ok_iff {text : String} {size : Nat} {digest : Scalar} :
    hashText text size = .ok digest ↔ ∃ inputs,
      packWithLength (Bytes.ofText text) size = .ok inputs ∧ hash inputs = .ok digest :=
  bind_eq_ok_iff

/-- Two texts with one hash are the same, or the scalars that they are packed into collide. -/
theorem text_eq_or_isCollision {first second : String} {size : Nat} {digest : Scalar}
    (hashed : hashText first size = .ok digest) (hashed' : hashText second size = .ok digest) :
    first = second ∨ ∃ inputs inputs', packWithLength (Bytes.ofText first) size = .ok inputs ∧
      packWithLength (Bytes.ofText second) size = .ok inputs' ∧ IsCollision inputs inputs' := by
  obtain ⟨inputs, packed, digested⟩ := hashText_eq_ok_iff.mp hashed
  obtain ⟨inputs', packed', digested'⟩ := hashText_eq_ok_iff.mp hashed'
  have lengths : inputs.length = inputs'.length :=
    (length_of_packWithLength packed).trans (length_of_packWithLength packed').symm
  rcases eq_or_isCollision lengths digested digested' with rfl | collision
  · exact .inl (Bytes.ofText_injective (packWithLength_inj packed packed'))
  · exact .inr ⟨inputs, inputs', packed, packed', collision⟩

/-- A text that is longer than its size is refused with its length. -/
theorem hashText_of_long {text : String} {size : Nat} (long : size < (Bytes.ofText text).length) :
    hashText text size = .error (.inputTooLong (Bytes.ofText text).length size) := by
  have refused : pack (Bytes.ofText text) size =
      .error (.inputTooLong (Bytes.ofText text).length size) := if_pos long
  rw [hashText, hashBytes, packWithLength, refused]
  rfl

end Poseidon

end MoveWallet
