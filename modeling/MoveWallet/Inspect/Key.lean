import MoveWallet.Inspect.Basic
import MoveWallet.MultiKey.Basic

/-! # Keys and signatures shown as JSON

Every key that an account can have is shown with its authentication key and address. Private keys
are shown in full: this is for their owner only.
-/

namespace MoveWallet.Inspect

instance : Inspect Ed25519PublicKey := ⟨fun key => .string key.text⟩

instance : Inspect Secp256k1PublicKey := ⟨fun key => .string key.text⟩

instance : Inspect Secp256k1Signature := ⟨fun signature => .string signature.text⟩

instance : Inspect Ed25519Signature where
  inspect signature :=
    .object [("hex", .string signature.text), ("canonical", .bool signature.isCanonical)]

instance : Inspect KeylessPublicKey where
  inspect key := .object [("iss", inspect key.issuer), ("idc", inspect key.commitment),
    ("auth", authentication key.authenticationKey)]

instance : Inspect FederatedKeylessPublicKey where
  inspect key := .object [("jwk_address", inspect key.jwkAddress), ("keyless", inspect key.keyless),
    ("auth", authentication key.authenticationKey)]

instance : Inspect Scalar where
  inspect scalar :=
    .object [("decimal", inspect scalar.decimal), ("le", inspect scalar.toBytes)]

def bareKey : AnyPublicKey → Json
  | .ed25519 key => inspect key
  | .secp256k1 key => inspect key
  | .keyless key => inspect key
  | .federatedKeyless key => inspect key

instance : Inspect AnyPublicKey where
  inspect key := .object [("variant", inspect key.tag), ("key", bareKey key),
    ("auth", authentication key.authenticationKey)]

instance : Inspect Ed25519PrivateKey where
  inspect key := .object [("bytes", inspect key.seed), ("aip80", inspect key.text),
    ("public", inspect (AnyPublicKey.ed25519 key.publicKey)),
    ("legacy_auth_key", inspect key.publicKey.authenticationKey),
    ("debug", inspect key.described)]

instance : Inspect Secp256k1PrivateKey where
  inspect key := .object [("bytes", inspect key.bytes), ("aip80", inspect key.text),
    ("public", inspect (AnyPublicKey.secp256k1 key.publicKey)), ("debug", inspect key.described)]

instance : Inspect PrivateKey where
  inspect
    | .ed25519 key => .object [("ed25519", inspect key)]
    | .secp256k1 key => .object [("secp256k1", inspect key)]

instance : Inspect EphemeralPublicKey where
  inspect
    | .ed25519 key => .object [("ed25519", inspect key)]

instance : Inspect EphemeralSignature where
  inspect
    | .ed25519 signature => .object [("ed25519", inspect signature)]

instance : Inspect Groth16Proof where
  inspect proof := .object [("a", inspect proof.a), ("b", inspect proof.b), ("c", inspect proof.c)]

instance : Inspect ZkProof where
  inspect
    | .groth16 proof => .object [("groth16", inspect proof)]

instance : Inspect ZeroKnowledgeSig where
  inspect sig := .object [("proof", inspect sig.proof), ("exp_horizon_secs", inspect sig.horizon),
    ("extra_field", inspect sig.extraField), ("override_aud_val", inspect sig.overrideAudience),
    ("training_wheels_signature", inspect sig.trainingWheels)]

instance : Inspect EphemeralCertificate where
  inspect
    | .zeroKnowledge sig => .object [("zero_knowledge_sig", inspect sig)]

instance : Inspect KeylessSignature where
  inspect signature := .object [("certificate", inspect signature.certificate),
    ("jwt_header", inspect signature.tokenHeader), ("exp_date_secs", inspect signature.expiry),
    ("ephemeral_public_key", inspect signature.publicKey),
    ("ephemeral_signature", inspect signature.signature), ("zk_proof", inspect signature.proof)]

def bareSignature : AnySignature → Json
  | .ed25519 signature => inspect signature
  | .secp256k1 signature => inspect signature
  | .keyless signature => inspect signature

instance : Inspect AnySignature where
  inspect signature :=
    .object [("variant", inspect signature.tag), ("signature", bareSignature signature)]

instance : Inspect MultiKey where
  inspect key := .object [("keys", inspect key.keys), ("threshold", inspect key.threshold),
    ("auth", authentication key.authenticationKey)]

instance : Inspect MultiKeySignature where
  inspect signature := .object [("signatures", inspect signature.signatures),
    ("bitmap", inspect signature.bitmap), ("indices", inspect signature.positions)]

end MoveWallet.Inspect
