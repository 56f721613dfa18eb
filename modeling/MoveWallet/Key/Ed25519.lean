import MoveWallet.Curve.Ed25519
import MoveWallet.Key.Error
import MoveWallet.Random
import MoveWallet.Wire.Basic

/-! # Ed25519 keys and signatures

Any 32 bytes are taken as a public key and any 64 bytes as a signature; bytes that are no point of
the curve verify nothing.
-/

namespace MoveWallet

/-- An Ed25519 public key. -/
structure Ed25519PublicKey where
  bytes : FixedBytes 32
  deriving DecidableEq

/-- An Ed25519 signature: the commitment and then the scalar. -/
structure Ed25519Signature where
  bytes : FixedBytes 64
  deriving DecidableEq

/-- An Ed25519 private key: its seed. -/
structure Ed25519PrivateKey where
  seed : FixedBytes 32
  deriving DecidableEq

namespace Ed25519Signature

def ofBytes (bytes : Bytes) : Except KeyError Ed25519Signature :=
  mk <$> FixedBytes.ofKeyBytes "Ed25519Signature" 64 bytes

def parse (text : String) : Except KeyError Ed25519Signature := do
  let bytes ← (Hex.parse text).mapError .hex
  ofBytes bytes

def text (signature : Ed25519Signature) : String := Hex.text signature.bytes.toList

def described (signature : Ed25519Signature) : String :=
  "Ed25519Signature(" ++ signature.text ++ ")"

/-- Whether a big-endian digit string is less than another of the same length, decided at the first
place where they differ. -/
def isBelow : Bytes → Bytes → Bool
  | a :: as, b :: bs => if a < b then true else if b < a then false else isBelow as bs
  | _, _ => false

/-- Whether the scalar is below the order of the group. Adding the order to the scalar would give a
second signature, so that no other scalar is accepted. -/
def isCanonical (signature : Ed25519Signature) : Bool :=
  isBelow (signature.bytes.toList.drop 32).reverse (Bytes.ofNatBE 32 Ed25519.groupOrder)

instance : Wire Ed25519Signature where
  write signature := signature.bytes.toList.prefixed
  read := mk <$> Reader.sized "Ed25519Signature" 64

end Ed25519Signature

namespace Ed25519PublicKey

def ofBytes (bytes : Bytes) : Except KeyError Ed25519PublicKey :=
  mk <$> FixedBytes.ofKeyBytes "Ed25519PublicKey" 32 bytes

def parse (text : String) : Except KeyError Ed25519PublicKey := do
  let bytes ← (Hex.parse text).mapError .hex
  ofBytes bytes

def text (key : Ed25519PublicKey) : String := Hex.text key.bytes.toList

def described (key : Ed25519PublicKey) : String := "Ed25519PublicKey(" ++ key.text ++ ")"

/-- Whether a signature of a message is valid. The scalar of the signature is checked first. -/
def verify (key : Ed25519PublicKey) (message : Bytes) (signature : Ed25519Signature) : Bool :=
  signature.isCanonical && Ed25519.verify key.bytes message signature.bytes

instance : Wire Ed25519PublicKey where
  write key := key.bytes.toList.prefixed
  read := mk <$> Reader.sized "Ed25519PublicKey" 32

end Ed25519PublicKey

namespace Ed25519PrivateKey

def ofBytes (bytes : Bytes) : Except KeyError Ed25519PrivateKey :=
  mk <$> FixedBytes.ofKeyBytes "Ed25519PrivateKey" 32 bytes

def parse (text : String) : Except KeyError Ed25519PrivateKey := do
  let bytes ← KeyText.parse KeyText.ed25519Prefix text
  ofBytes bytes

def text (key : Ed25519PrivateKey) : String := KeyText.write KeyText.ed25519Prefix key.seed.toList

/-- The text that hides the key. -/
def described (_key : Ed25519PrivateKey) : String := "Ed25519PrivateKey(\"..\")"

def generate (source : RandomSource) : Ed25519PrivateKey × RandomSource :=
  let (seed, source) := source.draw 32
  (⟨seed⟩, source)

def publicKey (key : Ed25519PrivateKey) : Ed25519PublicKey := ⟨Ed25519.publicKey key.seed⟩

def sign (key : Ed25519PrivateKey) (message : Bytes) : Ed25519Signature :=
  ⟨Ed25519.sign key.seed message⟩

end Ed25519PrivateKey

end MoveWallet
