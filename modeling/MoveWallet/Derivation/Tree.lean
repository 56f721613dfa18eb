import MoveWallet.Derivation.Mnemonic
import MoveWallet.Derivation.Path
import MoveWallet.Key.Ed25519
import MoveWallet.Key.Secp256k1

/-! # Trees of derived keys

The seed of a mnemonic phrase is the root of a tree of keys. Each step hashes the parent with the
number of the child; the hash is a parameter of the walk. Ed25519 takes the left half of the hash
as the key of the child, Secp256k1 adds it to the key of the parent.
-/

namespace MoveWallet

/-- Why no key is derived. -/
inductive DerivationError
  /-- The path does not fit the scheme. -/
  | invalidPath (path : String)
  /-- The text is not a mnemonic phrase. -/
  | invalidMnemonic (error : MnemonicError)
  /-- A number on the way is not a scalar. -/
  | invalidChildKey
  /-- The derived bytes are not a private key. -/
  | key (error : KeyError)
  deriving DecidableEq

def DerivationError.message : DerivationError → String
  | invalidPath path => s!"invalid derivation path: {path}"
  | invalidMnemonic error => s!"invalid mnemonic: {error.message}"
  | invalidChildKey => "derived secp256k1 key is out of range"
  | key error => error.message

/-- A node of a tree of keys. -/
structure ExtendedKey where
  key : FixedBytes 32
  /-- What the children are hashed with. -/
  chainCode : FixedBytes 32
  deriving DecidableEq

namespace ExtendedKey

/-- A keyed hash to 64 bytes. -/
abbrev KeyedHash := Bytes → Bytes → FixedBytes 64

/-- The two halves of a digest. -/
def ofDigest (digest : FixedBytes 64) : ExtendedKey :=
  ⟨⟨digest.toList.take 32, by simp [digest.length_eq]⟩,
    ⟨digest.toList.drop 32, by simp [digest.length_eq]⟩⟩

/-- The hash of a parent's key and a number, for a hardened child. -/
def hardenedChild (hash : KeyedHash) (node : ExtendedKey) (index : Nat) : ExtendedKey :=
  ofDigest (hash node.chainCode.toList (0 :: node.key.toList ++ Bytes.ofNatBE 4 index))

/-- The hash of a parent's public key and a number, for a child that is not hardened. -/
def plainChild (hash : KeyedHash) (node : ExtendedKey) (index : Nat) : ExtendedKey :=
  let point := Secp256k1.compressedPublicKey node.key.toNatBE
  ofDigest (hash node.chainCode.toList (point.toList ++ Bytes.ofNatBE 4 index))

/-- The key at the end of a path of hardened numbers, for Ed25519. -/
def walkHardened (hash : KeyedHash) (seed : Bytes) (indices : List Nat) : ExtendedKey :=
  indices.foldl (hardenedChild hash) (ofDigest (hash (Bytes.ofText "ed25519 seed") seed))

/-- Add the left half of a hash to the key of the parent, if both are scalars and so is the sum. -/
def tweak (parent child : ExtendedKey) : Except DerivationError ExtendedKey :=
  let sum := (child.key.toNatBE + parent.key.toNatBE) % Secp256k1.groupOrder
  if Secp256k1.isScalar child.key.toNatBE && Secp256k1.isScalar parent.key.toNatBE && sum ≠ 0 then
    .ok ⟨FixedBytes.ofNatBE 32 sum, child.chainCode⟩
  else .error .invalidChildKey

/-- One step of a path for Secp256k1: numbers from the offset on are hardened. -/
def step (hash : KeyedHash) (node : ExtendedKey) (index : Nat) :
    Except DerivationError ExtendedKey :=
  if DerivationPath.hardenedOffset ≤ index then tweak node (hardenedChild hash node index)
  else if Secp256k1.isScalar node.key.toNatBE then tweak node (plainChild hash node index)
  else .error .invalidChildKey

/-- The key at the end of a path for Secp256k1. -/
def walk (hash : KeyedHash) (seed : Bytes) (indices : List Nat) :
    Except DerivationError ExtendedKey :=
  let root := ofDigest (hash (Bytes.ofText "Bitcoin seed") seed)
  if Secp256k1.isScalar root.key.toNatBE then indices.foldlM (step hash) root
  else .error .invalidChildKey

end ExtendedKey

namespace Derivation

/-- The hash of the trees: HMAC with SHA-512. -/
def hash : ExtendedKey.KeyedHash := Hmac.sha512

def seed (mnemonic : String) : Except DerivationError Bytes :=
  match Mnemonic.parse mnemonic with
  | .ok words => .ok (Mnemonic.seed words)
  | .error error => .error (.invalidMnemonic error)

/-- The Ed25519 key of a phrase at a path. The path is checked before the phrase. -/
def ed25519 (path mnemonic : String) : Except DerivationError Ed25519PrivateKey :=
  match DerivationPath.hardened? path with
  | none => .error (.invalidPath path)
  | some indices => do
    let seed ← seed mnemonic
    let node := ExtendedKey.walkHardened hash seed indices.hardened
    (Ed25519PrivateKey.ofBytes node.key.toList).mapError .key

/-- The Secp256k1 key of a phrase at a path. The path is checked before the phrase. -/
def secp256k1 (path mnemonic : String) : Except DerivationError Secp256k1PrivateKey :=
  match DerivationPath.bip44? path with
  | none => .error (.invalidPath path)
  | some indices => do
    let seed ← seed mnemonic
    let node ← ExtendedKey.walk hash seed indices.bip44
    (Secp256k1PrivateKey.ofBytes node.key.toList).mapError .key

end Derivation

end MoveWallet
