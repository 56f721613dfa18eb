import MoveWallet.Keyless.Error
import MoveWallet.Poseidon.Permutation

/-! # Hashing byte strings into scalars

Byte strings are padded with zeros to a size that depends on their kind only and cut into pieces of
31 bytes, each of which is below the modulus. The length behind the pieces tells padding from zeros
of the byte string itself.
-/

namespace MoveWallet.Poseidon

/-- Bytes in a scalar. -/
def bytesPerScalar : Nat := 31

/-- A byte string packs into fewer scalars than this. -/
def maxPacked : Nat := 16

/-- The hash of some scalars; there is one for one to twelve. -/
def hash (inputs : List Scalar) : Except KeylessError Scalar :=
  match hash? inputs with
  | some digest => .ok digest
  | none => .error (.unsupportedArity inputs.length)

/-- The scalars of a byte string padded to a size. -/
def pack (bytes : Bytes) (size : Nat) : Except KeylessError (List Scalar) :=
  if size < bytes.length then .error (.inputTooLong bytes.length size)
  else
    let scalars := (chunks bytesPerScalar (Bytes.padRight size bytes)).map Scalar.ofBytes
    if maxPacked ≤ scalars.length then
      .error (.inputTooLong size ((maxPacked - 1) * bytesPerScalar))
    else .ok scalars

/-- The scalars of a byte string padded to a size, and then its length. -/
def packWithLength (bytes : Bytes) (size : Nat) : Except KeylessError (List Scalar) := do
  let scalars ← pack bytes size
  .ok (scalars ++ [Scalar.ofNat bytes.length])

/-- The hash of a byte string padded to a size. -/
def hashBytes (bytes : Bytes) (size : Nat) : Except KeylessError Scalar := do
  let scalars ← packWithLength bytes size
  hash scalars

/-- The hash of a text padded to a size in bytes. -/
def hashText (text : String) (size : Nat) : Except KeylessError Scalar :=
  hashBytes (Bytes.ofText text) size

end MoveWallet.Poseidon
