import MoveWallet.Authentication
import MoveWallet.Key.Secp256k1
import MoveWallet.Keyless.PublicKey
import MoveWallet.Keyless.Signature

/-! # Keys and signatures of any kind

A tag in front tells the kinds apart. A key verifies signatures of its own kind only, and a keyless
signature verifies nowhere here, since that takes the keys of the issuer.
-/

namespace MoveWallet

/-- A public key of any kind. -/
inductive AnyPublicKey
  | ed25519 (key : Ed25519PublicKey)
  | secp256k1 (key : Secp256k1PublicKey)
  | keyless (key : KeylessPublicKey)
  | federatedKeyless (key : FederatedKeylessPublicKey)
  deriving DecidableEq

/-- A signature of any kind. -/
inductive AnySignature
  | ed25519 (signature : Ed25519Signature)
  | secp256k1 (signature : Secp256k1Signature)
  | keyless (signature : KeylessSignature)
  deriving DecidableEq

/-- A private key of either scheme. -/
inductive PrivateKey
  | ed25519 (key : Ed25519PrivateKey)
  | secp256k1 (key : Secp256k1PrivateKey)
  deriving DecidableEq

namespace AnyPublicKey

def tag : AnyPublicKey → UInt8
  | ed25519 _ => 0
  | secp256k1 _ => 1
  | keyless _ => 3
  | federatedKeyless _ => 4

def body : AnyPublicKey → Bytes
  | ed25519 key => Wire.write key
  | secp256k1 key => Wire.write key
  | keyless key => Wire.write key
  | federatedKeyless key => Wire.write key

instance : Wire AnyPublicKey where
  write key := key.tag :: key.body
  read := do
    let tag ← Reader.tag
    if tag = 0 then ed25519 <$> Wire.read
    else if tag = 1 then secp256k1 <$> Wire.read
    else if tag = 3 then keyless <$> Wire.read
    else if tag = 4 then federatedKeyless <$> Wire.read
    else Reader.fail (.unknownVariant "AnyPublicKey" tag)

def verify (message : Bytes) : AnyPublicKey → AnySignature → Bool
  | ed25519 key, .ed25519 signature => key.verify message signature
  | secp256k1 key, .secp256k1 signature => key.verify message signature
  | _, _ => false

def authenticationKey (key : AnyPublicKey) : AuthenticationKey :=
  AuthenticationKey.ofScheme .singleKey (Wire.write key)

/-- The address of an account that is created with the key. -/
def address (key : AnyPublicKey) : Address := key.authenticationKey.address

end AnyPublicKey

/-- The authentication key of an Ed25519 key on its own: its bytes are hashed, not its encoding. -/
def Ed25519PublicKey.authenticationKey (key : Ed25519PublicKey) : AuthenticationKey :=
  AuthenticationKey.ofScheme .ed25519 key.bytes.toList

/-- The authentication key of a keyless key. -/
def KeylessPublicKey.authenticationKey (key : KeylessPublicKey) : AuthenticationKey :=
  (AnyPublicKey.keyless key).authenticationKey

/-- The authentication key of a federated keyless key. -/
def FederatedKeylessPublicKey.authenticationKey (key : FederatedKeylessPublicKey) :
    AuthenticationKey :=
  (AnyPublicKey.federatedKeyless key).authenticationKey

namespace AnySignature

def tag : AnySignature → UInt8
  | ed25519 _ => 0
  | secp256k1 _ => 1
  | keyless _ => 3

def body : AnySignature → Bytes
  | ed25519 signature => Wire.write signature
  | secp256k1 signature => Wire.write signature
  | keyless signature => Wire.write signature

instance : Wire AnySignature where
  write signature := signature.tag :: signature.body
  read := do
    let tag ← Reader.tag
    if tag = 0 then ed25519 <$> Wire.read
    else if tag = 1 then secp256k1 <$> Wire.read
    else if tag = 3 then keyless <$> Wire.read
    else Reader.fail (.unknownVariant "AnySignature" tag)

end AnySignature

namespace PrivateKey

/-- Read the text of a private key, whose prefix names its scheme. -/
def parse (text : String) : Except KeyError PrivateKey :=
  let trimmed := Text.trim text.toList
  if (Text.after? KeyText.secp256k1Prefix trimmed).isSome then
    secp256k1 <$> Secp256k1PrivateKey.parse (String.ofList trimmed)
  else if (Text.after? KeyText.ed25519Prefix trimmed).isSome then
    ed25519 <$> Ed25519PrivateKey.parse (String.ofList trimmed)
  else .error (.schemePrefix KeyText.ed25519Prefix)

def text : PrivateKey → String
  | ed25519 key => key.text
  | secp256k1 key => key.text

def publicKey : PrivateKey → AnyPublicKey
  | ed25519 key => .ed25519 key.publicKey
  | secp256k1 key => .secp256k1 key.publicKey

def sign (message : Bytes) : PrivateKey → AnySignature
  | ed25519 key => .ed25519 (key.sign message)
  | secp256k1 key => .secp256k1 (key.sign message)

end PrivateKey

end MoveWallet
