import MoveWallet.Account.Basic
import MoveWallet.Envelope.Key
import MoveWallet.Inspect.Key

/-! # Accounts and envelopes shown as JSON

An account is shown with what it signs with, private keys included: this is for their owner only.
-/

namespace MoveWallet.Inspect

instance : Inspect SoleAccount where
  inspect
    | .ed25519 account => .object [("kind", .string "ed25519"),
        ("key", inspect account.privateKey.seed), ("public_key", inspect account.publicKey)]
    | .singleKey account => .object [("kind", .string "single"),
        ("key", .string account.privateKey.text), ("public_key", inspect account.publicKey)]
    | .keyless account => .object [("kind", .string "keyless"),
        ("public_key", inspect account.publicKey), ("nonce", inspect account.keyPair.nonce),
        ("uid_key", inspect account.userKey), ("uid_val", inspect account.userValue),
        ("aud", inspect account.audience), ("pepper", inspect account.pepper),
        ("proof", inspect (Wire.write account.proof))]

instance : Inspect MultiKeyAccount where
  inspect account := .object [("kind", .string "multi"), ("multi_key", inspect account.multiKey),
    ("indices", .array (account.positions.map inspect)),
    ("signers", .array (account.members.map fun member => inspect member.2.address))]

def bareAccount : Account → Json
  | .sole account => inspect account
  | .multiKey account => inspect account

instance : Inspect Account where
  inspect account := .object [("address", inspect account.address),
    ("auth_key", inspect account.authenticationKey), ("account", bareAccount account)]

def envelopeKey : PublicKeyEnvelope → Json
  | .ed25519 key => inspect key
  | .secp256k1 key => inspect key
  | .keyless key => inspect key
  | .federatedKeyless key => inspect key
  | .multiKey key => inspect key
  | .singleKey key => inspect key

def envelopeSignature : SignatureEnvelope → Json
  | .ed25519 signature => inspect signature
  | .secp256k1 signature => inspect signature
  | .keyless signature => inspect signature
  | .multiKey signature => inspect signature
  | .singleKey signature => inspect signature

end MoveWallet.Inspect
