/-! # Byte strings and the numbers they write

A byte string is a list of octets. Numbers are written in both byte orders at a given width, and
`FixedBytes` is the type of byte strings of one length, used wherever a format fixes the width:
addresses, digests, keys and signatures.
-/

namespace MoveWallet

/-- Consecutive pieces of `size` items, the last one possibly shorter. -/
def chunks {α : Type} (size : Nat) (items : List α) : List (List α) :=
  go items.length items
where
  /-- At most `count` pieces; no piece is empty, so the length of the list bounds their number. -/
  go : (count : Nat) → List α → List (List α)
    | 0, _ => []
    | _ + 1, [] => []
    | count + 1, item :: rest =>
      (item :: rest.take (size - 1)) :: go count (rest.drop (size - 1))

/-- A byte string. -/
abbrev Bytes := List UInt8

namespace Bytes

/-- The low `width` bytes of a number, least significant first. -/
def ofNatLE : (width : Nat) → (n : Nat) → Bytes
  | 0, _ => []
  | width + 1, n => UInt8.ofNat n :: ofNatLE width (n / 256)

/-- The number whose base-256 digits, least significant first, are the bytes. -/
def toNatLE : Bytes → Nat
  | [] => 0
  | byte :: rest => byte.toNat + 256 * toNatLE rest

/-- The number of byte strings of a width: numbers below it fit the width. -/
def bound (width : Nat) : Nat := Nat.pow 256 width

/-- The low `width` bytes of a number, most significant first. -/
def ofNatBE (width n : Nat) : Bytes := (ofNatLE width n).reverse

/-- The number whose base-256 digits, most significant first, are the bytes. -/
def toNatBE (bytes : Bytes) : Nat := bytes.foldl (fun n byte => n * 256 + byte.toNat) 0

/-- The UTF-8 form of a text. -/
def ofText (text : String) : Bytes := text.toUTF8.data.toList

/-- The text with the given UTF-8 form, if there is one. -/
def toText? (bytes : Bytes) : Option String := String.fromUTF8? ⟨bytes.toArray⟩

/-- Zero bytes appended up to a length; a longer string is kept. -/
def padRight (size : Nat) (bytes : Bytes) : Bytes :=
  bytes ++ List.replicate (size - bytes.length) 0

@[simp] theorem length_ofNatLE (width n : Nat) : (ofNatLE width n).length = width := by
  induction width generalizing n with
  | zero => rfl
  | succ width ih => simp [ofNatLE, ih]

@[simp] theorem length_ofNatBE (width n : Nat) : (ofNatBE width n).length = width := by
  simp [ofNatBE]

theorem bound_succ (width : Nat) : bound (width + 1) = 256 * bound width := Nat.mul_comm _ _

/-- Reading back what was written keeps the number modulo the bound of the width. -/
theorem toNatLE_ofNatLE (width n : Nat) : toNatLE (ofNatLE width n) = n % bound width := by
  induction width generalizing n with
  | zero => simp [ofNatLE, toNatLE, bound, Nat.mod_one]
  | succ width ih =>
    have low : (UInt8.ofNat n).toNat = n % 256 := by simp
    rw [ofNatLE, toNatLE, ih, low, bound_succ, Nat.mod_mul]

/-- A byte string is the written form of its number at its own length. -/
theorem ofNatLE_toNatLE (bytes : Bytes) : ofNatLE bytes.length (toNatLE bytes) = bytes := by
  induction bytes with
  | nil => rfl
  | cons byte rest ih =>
    have small := byte.toNat_lt
    have low : UInt8.ofNat (byte.toNat + 256 * toNatLE rest) = byte := by
      apply UInt8.toNat_inj.mp
      rw [UInt8.toNat_ofNat']
      omega
    have high : (byte.toNat + 256 * toNatLE rest) / 256 = toNatLE rest := by omega
    simp only [List.length_cons, ofNatLE, toNatLE, low, high, ih]

theorem toNatLE_lt (bytes : Bytes) : toNatLE bytes < bound bytes.length := by
  induction bytes with
  | nil => exact Nat.one_pos
  | cons byte rest ih =>
    have small := byte.toNat_lt
    rw [toNatLE, List.length_cons, bound_succ]
    omega

end Bytes

/-- The byte strings of one length. -/
structure FixedBytes (size : Nat) where
  /-- The bytes in order. -/
  toList : Bytes
  length_eq : toList.length = size
  deriving DecidableEq

namespace FixedBytes

variable {size : Nat}

@[ext] theorem ext {a b : FixedBytes size} (same : a.toList = b.toList) : a = b := by
  cases a
  cases b
  cases same
  rfl

/-- A byte string of exactly the right length. -/
def ofList? (size : Nat) (bytes : Bytes) : Option (FixedBytes size) :=
  if exact : bytes.length = size then some ⟨bytes, exact⟩ else none

theorem ofList?_eq_some_iff {bytes : Bytes} {value : FixedBytes size} :
    ofList? size bytes = some value ↔ value.toList = bytes := by
  unfold ofList?
  split
  next exact =>
    rw [Option.some.injEq]
    constructor
    · rintro rfl
      rfl
    · intro same
      exact FixedBytes.ext same.symm
  next wrong =>
    constructor
    · intro none
      cases none
    · intro same
      exact absurd (same ▸ value.length_eq) wrong

@[simp] theorem ofList?_toList (value : FixedBytes size) : ofList? size value.toList = some value :=
  ofList?_eq_some_iff.mpr rfl

/-- The first `size` bytes, with zeros where the string is too short. -/
def ofPrefix (size : Nat) (bytes : Bytes) : FixedBytes size :=
  ⟨(Bytes.padRight size bytes).take size, by simp [Bytes.padRight]; omega⟩

def zero (size : Nat) : FixedBytes size := ⟨List.replicate size 0, List.length_replicate⟩

/-- The low bytes of a number, least significant first. -/
def ofNatLE (size n : Nat) : FixedBytes size := ⟨Bytes.ofNatLE size n, Bytes.length_ofNatLE size n⟩

/-- The low bytes of a number, most significant first. -/
def ofNatBE (size n : Nat) : FixedBytes size := ⟨Bytes.ofNatBE size n, Bytes.length_ofNatBE size n⟩

def toNatLE (bytes : FixedBytes size) : Nat := Bytes.toNatLE bytes.toList

def toNatBE (bytes : FixedBytes size) : Nat := Bytes.toNatBE bytes.toList

instance : Inhabited (FixedBytes size) := ⟨zero size⟩

end FixedBytes

end MoveWallet
