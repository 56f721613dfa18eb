import MoveWallet.Envelope.Basic
import MoveWallet.MultiKey.Basic

/-! # Keys and signatures in envelopes

The plain schemes carry the bytes of a key or a signature as they stand; all others carry its
encoding.
-/

namespace MoveWallet

/-- A public key with the scheme of its envelope. -/
inductive PublicKeyEnvelope
  | ed25519 (key : Ed25519PublicKey)
  | secp256k1 (key : Secp256k1PublicKey)
  | keyless (key : KeylessPublicKey)
  | federatedKeyless (key : FederatedKeylessPublicKey)
  | multiKey (key : MultiKey)
  | singleKey (key : AnyPublicKey)
  deriving DecidableEq

/-- A signature with the scheme of its envelope. -/
inductive SignatureEnvelope
  | ed25519 (signature : Ed25519Signature)
  | secp256k1 (signature : Secp256k1Signature)
  | keyless (signature : KeylessSignature)
  | multiKey (signature : MultiKeySignature)
  | singleKey (signature : AnySignature)
  deriving DecidableEq

/-- A value of an encoded scheme. -/
def Envelope.decode (α : Type) [Wire α] (bytes : Bytes) : Except EnvelopeError α :=
  (Wire.decode α bytes).mapError .decode

namespace PublicKeyEnvelope

def scheme : PublicKeyEnvelope → EnvelopeScheme
  | ed25519 _ => .ed25519
  | secp256k1 _ => .secp256k1
  | keyless _ => .keyless
  | federatedKeyless _ => .federatedKeyless
  | multiKey _ => .multiKey
  | singleKey _ => .singleKey

def value : PublicKeyEnvelope → Bytes
  | ed25519 key => key.bytes.toList
  | secp256k1 key => key.bytes.toList
  | keyless key => Wire.write key
  | federatedKeyless key => Wire.write key
  | multiKey key => Wire.write key
  | singleKey key => Wire.write key

def envelope (key : PublicKeyEnvelope) : Envelope := ⟨key.scheme.name, key.value⟩

def toJson (key : PublicKeyEnvelope) : Json := key.envelope.toJson

/-- The form of a key within a document. -/
def serialized (key : PublicKeyEnvelope) : Json := key.envelope.serialized

def ofValue (bytes : Bytes) : EnvelopeScheme → Except EnvelopeError PublicKeyEnvelope
  | .ed25519 => ed25519 <$> (Ed25519PublicKey.ofBytes bytes).mapError .key
  | .secp256k1 => secp256k1 <$> (Secp256k1PublicKey.ofBytes bytes).mapError .key
  | .keyless => keyless <$> Envelope.decode _ bytes
  | .federatedKeyless => federatedKeyless <$> Envelope.decode _ bytes
  | .multiKey => multiKey <$> Envelope.decode _ bytes
  | .singleKey => singleKey <$> Envelope.decode _ bytes

def ofJson (json : Json) : Except EnvelopeError PublicKeyEnvelope := do
  let envelope ← (Envelope.ofJson json).mapError .fault
  let scheme ← EnvelopeScheme.parse envelope.scheme
  ofValue envelope.value scheme

end PublicKeyEnvelope

namespace SignatureEnvelope

def scheme : SignatureEnvelope → EnvelopeScheme
  | ed25519 _ => .ed25519
  | secp256k1 _ => .secp256k1
  | keyless _ => .keyless
  | multiKey _ => .multiKey
  | singleKey _ => .singleKey

def value : SignatureEnvelope → Bytes
  | ed25519 signature => signature.bytes.toList
  | secp256k1 signature => signature.bytes.toList
  | keyless signature => Wire.write signature
  | multiKey signature => Wire.write signature
  | singleKey signature => Wire.write signature

def envelope (signature : SignatureEnvelope) : Envelope := ⟨signature.scheme.name, signature.value⟩

def toJson (signature : SignatureEnvelope) : Json := signature.envelope.toJson

/-- The form of a signature within a document. -/
def serialized (signature : SignatureEnvelope) : Json := signature.envelope.serialized

/-- The signature of a scheme with the given bytes. A federated keyless key signs as a keyless key
does, so that there are no signatures of that scheme. -/
def ofValue (bytes : Bytes) : EnvelopeScheme → Except EnvelopeError SignatureEnvelope
  | .ed25519 => ed25519 <$> (Ed25519Signature.ofBytes bytes).mapError .key
  | .secp256k1 => secp256k1 <$> (Secp256k1Signature.ofBytes bytes).mapError .key
  | .keyless => keyless <$> Envelope.decode _ bytes
  | .federatedKeyless =>
    .error (.unsupportedScheme EnvelopeScheme.federatedKeyless.name "signature")
  | .multiKey => multiKey <$> Envelope.decode _ bytes
  | .singleKey => singleKey <$> Envelope.decode _ bytes

def ofJson (json : Json) : Except EnvelopeError SignatureEnvelope := do
  let envelope ← (Envelope.ofJson json).mapError .fault
  let scheme ← EnvelopeScheme.parse envelope.scheme
  ofValue envelope.value scheme

end SignatureEnvelope

end MoveWallet
