import MoveWallet.Address
import MoveWallet.Poseidon.Packing
import MoveWallet.Wire.Basic

/-! # Keyless public keys

A keyless account is known by the issuer of its logins and a commitment to the user: the hash of a
secret pepper with the audience, the value and the name of the claim that identifies the user.
-/

namespace MoveWallet

namespace IdCommitment

/-- Bytes of a pepper. -/
def pepperSize : Nat := 31

/-- The size that an audience is padded to. -/
def audienceSize : Nat := 120

/-- The size that the value of the identifying claim is padded to. -/
def userValueSize : Nat := 330

/-- The size that the name of the identifying claim is padded to. -/
def userKeySize : Nat := 30

/-- The commitment to a user. The length of the pepper is checked first, then those of the
audience, the value and the name. -/
def commit (userKey userValue audience : String) (pepper : Bytes) :
    Except KeylessError (FixedBytes 32) := do
  if pepper.length ≠ pepperSize then throw (.invalidPepperLength pepper.length)
  let audienceHash ← Poseidon.hashText audience audienceSize
  let valueHash ← Poseidon.hashText userValue userValueSize
  let keyHash ← Poseidon.hashText userKey userKeySize
  let digest ← Poseidon.hash [Scalar.ofBytes pepper, audienceHash, valueHash, keyHash]
  return digest.toBytes

end IdCommitment

/-- The issuer and the identity commitment of a keyless account. -/
structure KeylessPublicKey where
  issuer : String
  commitment : FixedBytes 32
  deriving DecidableEq

namespace KeylessPublicKey

def ofClaims (issuer userKey userValue audience : String) (pepper : Bytes) :
    Except KeylessError KeylessPublicKey := do
  let commitment ← IdCommitment.commit userKey userValue audience pepper
  return ⟨issuer, commitment⟩

instance : Wire KeylessPublicKey where
  write key := Wire.write key.issuer ++ key.commitment.toList.prefixed
  read := do
    let issuer ← Reader.text
    let commitment ← Reader.sized "KeylessPublicKey" 32
    pure ⟨issuer, commitment⟩

end KeylessPublicKey

/-- A keyless key whose issuer publishes its own keys at an account. -/
structure FederatedKeylessPublicKey where
  /-- The account with the issuer's keys. -/
  jwkAddress : Address
  keyless : KeylessPublicKey
  deriving DecidableEq

instance : Wire FederatedKeylessPublicKey where
  write key := Wire.write key.jwkAddress ++ Wire.write key.keyless
  read := do
    let jwkAddress ← Wire.read
    let keyless ← Wire.read
    pure ⟨jwkAddress, keyless⟩

end MoveWallet
