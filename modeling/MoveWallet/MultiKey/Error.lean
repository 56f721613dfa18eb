/-! # Errors of multi-keys -/

namespace MoveWallet

/-- Why keys, positions and signatures do not form a multi-key or a signature of one. -/
inductive MultiKeyError
  /-- There are more than 32 keys. -/
  | tooManyKeys (count : Nat)
  /-- The threshold is zero or more than the number of keys. -/
  | invalidThreshold (threshold : UInt8) (keys : Nat)
  /-- A position is 32 or more. -/
  | positionOutOfRange (position : UInt8)
  /-- A position occurs twice. -/
  | duplicatePosition (position : UInt8)
  /-- The bitmap names another number of signers than there are signatures. -/
  | signatureCount (positions signatures : Nat)
  /-- A position does not exceed the one before it. -/
  | notAscending (previous next : UInt8)
  /-- A key is not one of the keys. -/
  | keyNotFound
  deriving DecidableEq

def MultiKeyError.message : MultiKeyError → String
  | tooManyKeys count => s!"a multi-key holds at most 32 keys, got {count}"
  | invalidThreshold threshold keys => s!"threshold {threshold} is not within 1..={keys}"
  | positionOutOfRange position => s!"signer index {position} does not fit the 32-bit bitmap"
  | duplicatePosition position => s!"duplicate signer index {position}"
  | signatureCount positions signatures =>
    s!"bitmap names {positions} signers but {signatures} signatures were given"
  | notAscending previous next =>
    s!"signer indices must be strictly ascending: {next} follows {previous}"
  | keyNotFound => "public key is not part of the multi-key"

end MoveWallet
