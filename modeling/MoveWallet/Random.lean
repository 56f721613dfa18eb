import MoveWallet.Bytes.Basic

/-! # Sources of random bytes

A source is an endless sequence of bytes that is drawn from at a position.
-/

namespace MoveWallet

/-- A source of random bytes. -/
structure RandomSource where
  /-- The byte at each position. -/
  byte : Nat → UInt8
  /-- The position of the next byte. -/
  position : Nat

namespace RandomSource

/-- The source that repeats a byte string from its start; zeros if the string is empty. -/
def cycle (bytes : Bytes) : RandomSource :=
  let tape := bytes.toArray
  ⟨fun position => tape.getD (position % tape.size) 0, 0⟩

def draw (count : Nat) (source : RandomSource) : FixedBytes count × RandomSource :=
  (⟨(List.range count).map fun offset => source.byte (source.position + offset), by simp⟩,
    { source with position := source.position + count })

end RandomSource

end MoveWallet
