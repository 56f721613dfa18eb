import MoveWallet.Bytes.Basic
import MoveWallet.MultiKey.Error

/-! # Signer bitmaps

A bitmap of four bytes names positions from 0 to 31. Position `i` is bit `7 - i % 8` of byte
`i / 8`, so that the positions run from the high end of each byte to its low end.
-/

namespace MoveWallet

/-- A set of signer positions. -/
abbrev Bitmap := FixedBytes 4

namespace Bitmap

def capacity : Nat := 32

/-- The mask of a position in its byte. -/
def mask (position : Nat) : UInt8 := (0x80 : UInt8) >>> UInt8.ofNat (position % 8)

def contains (bitmap : Bitmap) (position : Nat) : Bool :=
  bitmap.toList.getD (position / 8) 0 &&& mask position != 0

def insert (bitmap : Bitmap) (position : Nat) : Bitmap :=
  ⟨bitmap.toList.modify (position / 8) (· ||| mask position), by
    rw [List.length_modify, bitmap.length_eq]⟩

/-- The positions that are named, in ascending order. -/
def positions (bitmap : Bitmap) : List Nat := (List.range capacity).filter bitmap.contains

def count (bitmap : Bitmap) : Nat := bitmap.positions.length

/-- Name one more position, which must be in range and new. -/
def add (bitmap : Bitmap) (position : UInt8) : Except MultiKeyError Bitmap :=
  if capacity ≤ position.toNat then .error (.positionOutOfRange position)
  else if bitmap.contains position.toNat then .error (.duplicatePosition position)
  else .ok (bitmap.insert position.toNat)

/-- The bitmap of some positions, which must be in range and different. -/
def ofPositions (positions : List UInt8) : Except MultiKeyError Bitmap :=
  positions.foldlM add (FixedBytes.zero 4)

end Bitmap

end MoveWallet
