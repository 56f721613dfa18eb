import MoveWallet.Curve.Secp256k1
import MoveWallet.Hash.Sha3
import MoveWallet.Key.Error
import MoveWallet.Random
import MoveWallet.Wire.Basic

/-! # Secp256k1 keys and signatures

Public keys are points in uncompressed form, private keys are scalars other than zero, and messages
are signed through their SHA3-256 digest.
-/

namespace MoveWallet

/-- A Secp256k1 public key: 65 bytes. The rule for them, `IsValid`, stands apart: that the key of a
private key obeys it is a theorem on the curve, which nothing that runs depends on. -/
structure Secp256k1PublicKey where
  bytes : FixedBytes 65
  deriving DecidableEq

/-- A Secp256k1 signature: its two halves, most significant byte first. -/
structure Secp256k1Signature where
  bytes : FixedBytes 64
  deriving DecidableEq

/-- A Secp256k1 private key: a scalar, most significant byte first. -/
@[ext]
structure Secp256k1PrivateKey where
  bytes : FixedBytes 32
  scalar : Secp256k1.isScalar bytes.toNatBE = true
  deriving DecidableEq

namespace Secp256k1Signature

def ofBytes (bytes : Bytes) : Except KeyError Secp256k1Signature :=
  mk <$> FixedBytes.ofKeyBytes "Secp256k1Signature" 64 bytes

def parse (text : String) : Except KeyError Secp256k1Signature := do
  let bytes ← (Hex.parse text).mapError .hex
  ofBytes bytes

def text (signature : Secp256k1Signature) : String := Hex.text signature.bytes.toList

def described (signature : Secp256k1Signature) : String :=
  "Secp256k1Signature(" ++ signature.text ++ ")"

instance : Wire Secp256k1Signature where
  write signature := signature.bytes.toList.prefixed
  read := mk <$> Reader.sized "Secp256k1Signature" 64

end Secp256k1Signature

namespace Secp256k1PublicKey

/-- The rule that every key made by this library satisfies: it is a point of the curve. -/
def IsValid (key : Secp256k1PublicKey) : Prop := Secp256k1.isPublicKey key.bytes = true

instance (key : Secp256k1PublicKey) : Decidable key.IsValid := inferInstanceAs (Decidable (_ = _))

/-- A key of 65 bytes that are a point in uncompressed form. -/
def ofBytes (bytes : Bytes) : Except KeyError Secp256k1PublicKey := do
  let bytes ← FixedBytes.ofKeyBytes "Secp256k1PublicKey" 65 bytes
  if Secp256k1.isPublicKey bytes then .ok ⟨bytes⟩ else .error (.invalidKey "Secp256k1PublicKey")

def parse (text : String) : Except KeyError Secp256k1PublicKey := do
  let bytes ← (Hex.parse text).mapError .hex
  ofBytes bytes

def text (key : Secp256k1PublicKey) : String := Hex.text key.bytes.toList

def described (key : Secp256k1PublicKey) : String := "Secp256k1PublicKey(" ++ key.text ++ ")"

def verify (key : Secp256k1PublicKey) (message : Bytes) (signature : Secp256k1Signature) : Bool :=
  Secp256k1.verify key.bytes (Sha3.sha3_256 message) signature.bytes

instance : Wire Secp256k1PublicKey where
  write key := key.bytes.toList.prefixed
  read := do
    let bytes ← Reader.sized "Secp256k1PublicKey" 65
    Reader.checked "Secp256k1PublicKey" ((ofBytes bytes.toList).mapError KeyError.message)

end Secp256k1PublicKey

namespace Secp256k1PrivateKey

def secret (key : Secp256k1PrivateKey) : Nat := key.bytes.toNatBE

/-- A key of 32 bytes whose number is in the range of scalars. -/
def ofBytes (bytes : Bytes) : Except KeyError Secp256k1PrivateKey := do
  let bytes ← FixedBytes.ofKeyBytes "Secp256k1PrivateKey" 32 bytes
  if scalar : Secp256k1.isScalar bytes.toNatBE then .ok ⟨bytes, scalar⟩
  else .error (.invalidKey "Secp256k1PrivateKey")

def parse (text : String) : Except KeyError Secp256k1PrivateKey := do
  let bytes ← KeyText.parse KeyText.secp256k1Prefix text
  ofBytes bytes

def text (key : Secp256k1PrivateKey) : String :=
  KeyText.write KeyText.secp256k1Prefix key.bytes.toList

/-- The text that hides the key. -/
def described (_key : Secp256k1PrivateKey) : String := "Secp256k1PrivateKey(\"..\")"

/-- The first of at most `attempts` draws of 32 bytes whose number is in the range of scalars. -/
def generate? : (attempts : Nat) → RandomSource → Option (Secp256k1PrivateKey × RandomSource)
  | 0, _ => none
  | attempts + 1, source =>
    let (bytes, source) := source.draw 32
    if scalar : Secp256k1.isScalar bytes.toNatBE then some (⟨bytes, scalar⟩, source)
    else generate? attempts source

def publicKey (key : Secp256k1PrivateKey) : Secp256k1PublicKey := ⟨Secp256k1.publicKey key.secret⟩

def sign (key : Secp256k1PrivateKey) (message : Bytes) : Secp256k1Signature :=
  ⟨Secp256k1.sign key.secret (Sha3.sha3_256 message)⟩

end Secp256k1PrivateKey

end MoveWallet
