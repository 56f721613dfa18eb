import MoveWallet.Key.Ed25519
import MoveWallet.Poseidon.Packing

/-! # Ephemeral keys

A keyless account signs with a key that lives for some days. The nonce of the login commits to the
public key, its expiry and a random blinder.
-/

namespace MoveWallet

/-- The public half of an ephemeral key. -/
inductive EphemeralPublicKey
  | ed25519 (key : Ed25519PublicKey)
  deriving DecidableEq

/-- A signature of an ephemeral key. -/
inductive EphemeralSignature
  | ed25519 (signature : Ed25519Signature)
  deriving DecidableEq

namespace EphemeralSignature

instance : Wire EphemeralSignature where
  write
    | ed25519 signature => 0 :: Wire.write signature
  read := do
    let tag ← Reader.tag
    if tag = 0 then ed25519 <$> Wire.read
    else Reader.fail (.unknownVariant "EphemeralSignature" tag)

end EphemeralSignature

namespace EphemeralPublicKey

def verify (message : Bytes) : EphemeralPublicKey → EphemeralSignature → Bool
  | ed25519 key, .ed25519 signature => key.verify message signature

instance : Wire EphemeralPublicKey where
  write
    | ed25519 key => 0 :: Wire.write key
  read := do
    let tag ← Reader.tag
    if tag = 0 then ed25519 <$> Wire.read
    else Reader.fail (.unknownVariant "EphemeralPublicKey" tag)

end EphemeralPublicKey

/-- An ephemeral key with its expiry, its blinder and the nonce that commits to them. -/
structure EphemeralKeyPair where
  privateKey : Ed25519PrivateKey
  publicKey : EphemeralPublicKey
  /-- The last second at which the key signs. -/
  expiry : UInt64
  blinder : FixedBytes 31
  nonce : String
  deriving DecidableEq

namespace EphemeralKeyPair

/-- The size that the encoding of the public key is padded to. -/
def publicKeySize : Nat := 93

/-- Seconds from the making of a key to its expiry, before rounding. -/
def lifetime : UInt64 := 14 * 24 * 60 * 60

/-- Seconds in an hour. -/
def hour : UInt64 := 3600

/-- The nonce of a key: the hash of its encoding, its expiry and its blinder. -/
def commit (key : EphemeralPublicKey) (expiry : UInt64) (blinder : FixedBytes 31) :
    Except KeylessError String := do
  let packed ← Poseidon.packWithLength (Wire.write key) publicKeySize
  let digest ← Poseidon.hash (packed ++ [Scalar.ofNat expiry.toNat, Scalar.ofBytes blinder.toList])
  return digest.decimal

/-- The pair of a private key; the blinder must have 31 bytes. -/
def make (privateKey : Ed25519PrivateKey) (expiry : UInt64) (blinder : Bytes) :
    Except KeylessError EphemeralKeyPair :=
  match FixedBytes.ofList? 31 blinder with
  | none => .error (.invalidBlinderLength blinder.length)
  | some blinder => do
    let publicKey := EphemeralPublicKey.ed25519 privateKey.publicKey
    let nonce ← commit publicKey expiry blinder
    return ⟨privateKey, publicKey, expiry, blinder, nonce⟩

/-- The expiry of a key made now: the lifetime added, rounded down to the hour. -/
def defaultExpiry (now : UInt64) : UInt64 :=
  let expiry := now + lifetime
  expiry - expiry % hour

/-- A pair drawn from a source: first the key and then the blinder. -/
def generate (source : RandomSource) (now : UInt64) : Except KeylessError EphemeralKeyPair :=
  let (privateKey, source) := Ed25519PrivateKey.generate source
  let (blinder, _) := source.draw 31
  make privateKey (defaultExpiry now) blinder.toList

/-- Whether a time is past the expiry. -/
def isExpiredAt (pair : EphemeralKeyPair) (now : UInt64) : Bool := pair.expiry < now

/-- The signature of a message at a time. -/
def signAt (pair : EphemeralKeyPair) (message : Bytes) (now : UInt64) :
    Except KeylessError EphemeralSignature :=
  if pair.isExpiredAt now then .error (.ephemeralKeyExpired pair.expiry now)
  else .ok (.ed25519 (pair.privateKey.sign message))

end EphemeralKeyPair

end MoveWallet
