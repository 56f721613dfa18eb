import MoveWallet.Keyless.Ephemeral

/-! # Keyless signatures

A keyless signature is the signature of an ephemeral key with a proof that a login binds the key to
the account. The proof is carried as it stands; only the ephemeral signature is checked here.
-/

namespace MoveWallet

/-- The three compressed points of a Groth16 proof. -/
structure Groth16Proof where
  a : FixedBytes 32
  b : FixedBytes 64
  c : FixedBytes 32
  deriving DecidableEq

instance : Wire Groth16Proof where
  write proof := Wire.write proof.a ++ Wire.write proof.b ++ Wire.write proof.c
  read := do
    let a ← Wire.read
    let b ← Wire.read
    let c ← Wire.read
    pure ⟨a, b, c⟩

/-- A proof of any system. -/
inductive ZkProof
  | groth16 (proof : Groth16Proof)
  deriving DecidableEq

instance : Wire ZkProof where
  write
    | .groth16 proof => 0 :: Wire.write proof
  read := do
    let tag ← Reader.tag
    if tag = 0 then ZkProof.groth16 <$> Wire.read
    else Reader.fail (.unknownVariant "ZkProof" tag)

/-- A proof with what it was made for. -/
structure ZeroKnowledgeSig where
  proof : ZkProof
  /-- How long past the issue of the token the ephemeral key may live, in seconds. -/
  horizon : UInt64
  /-- A further field of the token that the proof reveals. -/
  extraField : Option String
  /-- An audience that replaces the one of the token. -/
  overrideAudience : Option String
  /-- A further signature over the proof. -/
  trainingWheels : Option EphemeralSignature
  deriving DecidableEq

instance : Wire ZeroKnowledgeSig where
  write sig := Wire.write sig.proof ++ Wire.write sig.horizon ++ Wire.write sig.extraField ++
    Wire.write sig.overrideAudience ++ Wire.write sig.trainingWheels
  read := do
    let proof ← Wire.read
    let horizon ← Wire.read
    let extraField ← Wire.read
    let overrideAudience ← Wire.read
    let trainingWheels ← Wire.read
    pure ⟨proof, horizon, extraField, overrideAudience, trainingWheels⟩

/-- What binds an ephemeral key to an account. -/
inductive EphemeralCertificate
  | zeroKnowledge (sig : ZeroKnowledgeSig)
  deriving DecidableEq

instance : Wire EphemeralCertificate where
  write
    | .zeroKnowledge sig => 0 :: Wire.write sig
  read := do
    let tag ← Reader.tag
    if tag = 0 then EphemeralCertificate.zeroKnowledge <$> Wire.read
    else Reader.fail (.unknownVariant "EphemeralCertificate" tag)

/-- The signature of a keyless account. -/
structure KeylessSignature where
  certificate : EphemeralCertificate
  /-- The decoded header of the token, which names the issuer's key. -/
  tokenHeader : String
  /-- The expiry of the ephemeral key. -/
  expiry : UInt64
  publicKey : EphemeralPublicKey
  signature : EphemeralSignature
  deriving DecidableEq

namespace KeylessSignature

def proof (signature : KeylessSignature) : ZkProof :=
  match signature.certificate with
  | .zeroKnowledge sig => sig.proof

/-- Whether the ephemeral signature of a message is valid. -/
def verifyEphemeral (signature : KeylessSignature) (message : Bytes) : Bool :=
  signature.publicKey.verify message signature.signature

instance : Wire KeylessSignature where
  write signature := Wire.write signature.certificate ++ Wire.write signature.tokenHeader ++
    Wire.write signature.expiry ++ Wire.write signature.publicKey ++
    Wire.write signature.signature
  read := do
    let certificate ← Wire.read
    let tokenHeader ← Wire.read
    let expiry ← Wire.read
    let publicKey ← Wire.read
    let signature ← Wire.read
    pure ⟨certificate, tokenHeader, expiry, publicKey, signature⟩

end KeylessSignature

end MoveWallet
