import MoveWallet.Proofs.Identifier
import MoveWallet.Proofs.Wire.Primitive
import MoveWallet.Unsigned

/-! # Canonical types

A type is canonical when its reader is exact for its writer. The class carries the rule of the
values that fit with the type: sequences have at most as many items as 32 bits count, and a
Secp256k1 key is a point of the curve; what the other constructors check stands in their types.
Alternatives are read by their tag, and their exactness follows from what each tag reads and from
how each value is written.
-/

namespace MoveWallet

/-- A format that leaves no choice and tells where it ends: a value that fits is read back before
any other bytes, and bytes that are read as a value are those that write it. -/
structure CanonicalFormat (α : Type) [Wire α] (Fits : α → Prop) : Prop where
  read_write : ∀ value rest, Fits value → Wire.read (Wire.write value ++ rest) = (.ok value, rest)
  write_read : ∀ input value rest, Wire.read input = (.ok value, rest) →
    Fits value ∧ input = Wire.write value ++ rest
  decode_write : ∀ value, Fits value → Wire.decode α (Wire.write value) = .ok value
  decode_injective : ∀ first second (value : α), Wire.decode α first = .ok value →
    Wire.decode α second = .ok value → first = second

/-- The types whose reader accepts what the writer makes of the values that fit, and nothing
else. -/
class Canonical (α : Type) [Wire α] where
  /-- The values that can be written. -/
  Fits : α → Prop
  exact : Reader.Exact Wire.read Wire.write Fits

namespace Canonical

variable {α : Type} [Wire α] [Canonical α]

@[simp] theorem read_eq_ok_iff {input rest : Bytes} {value : α} :
    Wire.read input = (.ok value, rest) ↔ Fits value ∧ input = Wire.write value ++ rest :=
  exact input value rest

theorem read_write (value : α) (fits : Fits value) (rest : Bytes) :
    Wire.read (Wire.write value ++ rest) = (.ok value, rest) :=
  exact.read_write fits rest

theorem map_read_eq_ok_iff {β : Type} {make : α → β} {input rest : Bytes} {value : β} :
    (make <$> Wire.read) input = (.ok value, rest) ↔
      ∃ part, (Fits part ∧ input = Wire.write part ++ rest) ∧ make part = value := by
  simp only [Reader.map_eq_ok_iff, read_eq_ok_iff]

theorem bind_read_write {β : Type} {value : α} (fits : Fits value) (next : α → Reader β)
    (rest : Bytes) : (Wire.read >>= next) (Wire.write value ++ rest) = next value rest :=
  exact.bind_write fits next rest

theorem map_read_write {β : Type} {value : α} (fits : Fits value) (make : α → β) (rest : Bytes) :
    (make <$> Wire.read) (Wire.write value ++ rest) = (.ok (make value), rest) :=
  map_read_eq_ok_iff.mpr ⟨value, ⟨fits, rfl⟩, rfl⟩

theorem decode_eq_ok_iff {input : Bytes} {value : α} :
    Wire.decode α input = .ok value ↔ Fits value ∧ input = Wire.write value :=
  exact.run_eq_ok_iff

theorem format : CanonicalFormat α Fits where
  read_write value rest fits := read_write value fits rest
  write_read _ _ _ ran := read_eq_ok_iff.mp ran
  decode_write value fits := decode_eq_ok_iff.mpr ⟨fits, rfl⟩
  decode_injective first second value decoded again := by
    rw [decode_eq_ok_iff] at decoded again
    exact decoded.2.trans again.2.symm

/-- Encodings are told apart even when other bytes follow them. -/
theorem write_append_inj {first second : α} {rest others : Bytes} (fits : Fits first)
    (fits' : Fits second) :
    Wire.write first ++ rest = Wire.write second ++ others ↔ first = second ∧ rest = others := by
  constructor
  · intro same
    have back := read_write first fits rest
    rw [same, read_write second fits' others] at back
    cases back
    exact ⟨rfl, rfl⟩
  · rintro ⟨rfl, rfl⟩
    rfl

theorem write_inj {first second : α} (fits : Fits first) (fits' : Fits second) :
    Wire.write first = Wire.write second ↔ first = second := by
  have whole : Wire.write first ++ [] = Wire.write second ++ [] ↔ first = second ∧ [] = [] :=
    write_append_inj fits fits'
  simpa using whole

end Canonical

namespace Reader.Exact

variable {α : Type} {Fits : α → Prop} {body : α → Bytes}

/-- A value is written behind the tag of its form, which settles how it is read. -/
theorem headed {alternatives : UInt32 → Reader α} (head : α → UInt32) (body : α → Bytes)
    (reads : ∀ n input value rest, alternatives n input = (.ok value, rest) →
      (Fits value ∧ head value = n) ∧ input = body value ++ rest)
    (writes : ∀ value rest, Fits value →
      alternatives (head value) (body value ++ rest) = (.ok value, rest)) :
    Exact (Reader.tag >>= alternatives)
      (fun value => Bytes.uleb128 (head value).toNat ++ body value) Fits := by
  have others : ∀ n, Exact (alternatives n) body (fun value => Fits value ∧ head value = n) := by
    intro n input value rest
    constructor
    · exact reads n input value rest
    · rintro ⟨⟨fits, rfl⟩, rfl⟩
      exact writes value rest fits
  refine (bind head uleb128 others).congr (fun _ => rfl) ?_
  simp

/-- A tag below 128 is written as one byte. -/
theorem tagged {alternatives : UInt32 → Reader α} (tag : α → UInt8) (body : α → Bytes)
    (short : ∀ value, tag value < 128)
    (reads : ∀ n input value rest, alternatives n input = (.ok value, rest) →
      (Fits value ∧ (tag value).toUInt32 = n) ∧ input = body value ++ rest)
    (writes : ∀ value rest, Fits value →
      alternatives (tag value).toUInt32 (body value ++ rest) = (.ok value, rest)) :
    Exact (Reader.tag >>= alternatives) (fun value => tag value :: body value) Fits := by
  refine (headed _ body reads writes).congr ?_ (fun _ => Iff.rfl)
  intro value
  have tagByte := Bytes.uleb128_last (UInt8.lt_iff_toNat_lt.mp (short value))
  simp [tagByte]

/-- A value of the only form there is. -/
theorem soleTag {reader : Reader α} (error : UInt32 → DecodeError)
    (exact : Exact reader body Fits) :
    Exact (do
      let tag ← Reader.tag
      if tag = 0 then reader else Reader.fail (error tag))
      (fun value => 0 :: body value) Fits := by
  apply tagged (fun _ => 0) body
  · intro value
    decide
  · intro n input value rest ran
    rcases ite_eq_ok_iff.mp ran with ⟨zero, ran⟩ | ⟨-, ran⟩
    · obtain ⟨fits, rfl⟩ := (exact _ _ _).mp ran
      exact ⟨⟨fits, zero.symm⟩, rfl⟩
    · cases ran
  · intro value rest fits
    exact exact.read_write fits rest

/-- A number of fixed width under another type. -/
theorem word {width : Nat} {make : Nat → α} {part : α → Nat}
    (left : ∀ n < Bytes.bound width, part (make n) = n)
    (small : ∀ value, part value < Bytes.bound width) (right : ∀ value, make (part value) = value) :
    Exact (make <$> Reader.number width) (fun value => Bytes.ofNatLE width (part value))
      (fun _ => True) := by
  refine (map make part (number width) left).congr (fun _ => rfl) ?_
  intro value
  simp [small value, right value]

end Reader.Exact

namespace Canonical

open Reader

variable {α : Type} [Wire α] [Canonical α]

instance : Canonical Bool := ⟨fun _ => True, Exact.bool⟩

instance : Canonical UInt8 := ⟨fun _ => True, Exact.byte⟩

instance : Canonical UInt16 where
  Fits _ := True
  exact := Exact.word (fun _ small => UInt16.toNat_ofNat_of_lt small) UInt16.toNat_lt
    (fun _ => UInt16.ofNat_toNat)

instance : Canonical UInt32 where
  Fits _ := True
  exact := Exact.word (fun _ small => UInt32.toNat_ofNat_of_lt small) UInt32.toNat_lt
    (fun _ => UInt32.ofNat_toNat)

instance : Canonical UInt64 where
  Fits _ := True
  exact := Exact.word (fun _ small => UInt64.toNat_ofNat_of_lt small) UInt64.toNat_lt
    (fun _ => UInt64.ofNat_toNat)

instance {width : Nat} : Canonical (BitVec (8 * width)) where
  Fits _ := True
  exact := by
    have bound : Bytes.bound width = 2 ^ (8 * width) := (Nat.pow_mul 2 8 width).symm
    refine Exact.word ?_ ?_ ?_
    · intro n small
      rw [bound] at small
      rw [BitVec.toNat_ofNat, Nat.mod_eq_of_lt small]
    · intro value
      exact bound ▸ value.isLt
    · intro value
      simp

instance : Canonical (BitVec 128) := inferInstanceAs (Canonical (BitVec (8 * 16)))

instance : Canonical (BitVec 256) := inferInstanceAs (Canonical (BitVec (8 * 32)))

instance : Canonical String :=
  ⟨fun text => (Bytes.ofText text).length < UInt32.size, Exact.text⟩

instance {size : Nat} : Canonical (FixedBytes size) := ⟨fun _ => True, Exact.fixed size⟩

instance : Canonical (List α) :=
  ⟨fun values => values.length < UInt32.size ∧ ∀ value ∈ values, Fits value, Exact.list exact⟩

instance : Canonical (Option α) :=
  ⟨fun value => ∀ held ∈ value, Fits held, Exact.option exact⟩

instance : Canonical Address where
  Fits _ := True
  exact := by
    refine (Exact.map Address.mk Address.bytes (Exact.fixed 32)).congr ?_ ?_
    · intro address
      rfl
    · simp

instance : Canonical Identifier where
  Fits identifier := Fits identifier.text
  exact := by
    refine (Exact.bind Identifier.text Exact.text fun text =>
      Exact.checked _ _ (Identifier.parse text)).congr ?_ ?_
    · intro identifier
      exact List.append_nil _
    · simp [Fits, Identifier.parse_eq_ok_iff]

instance : Canonical ModuleId where
  Fits id := Fits id.name
  exact := by
    refine (Exact.bind ModuleId.address exact fun address =>
      Exact.bind ModuleId.name exact fun name => Exact.pure _).congr ?_ ?_
    · intro id
      simp [Wire.write]
    · simp [Fits]

end Canonical

end MoveWallet
