import MoveWallet.Address
import MoveWallet.Hash.Sha3
import MoveWallet.Key.Error

/-! # Authentication keys and derived addresses

An authentication key is the digest of some bytes and a last byte that tells what they are. The
address of a new account is its authentication key, and the addresses of objects and resource
accounts are digests of the same kind, so that the last byte keeps all of them apart.
-/

namespace MoveWallet

/-- What the hashed bytes of an authentication key are. -/
inductive AuthenticationScheme
  /-- A single Ed25519 key, its bytes alone. -/
  | ed25519
  /-- Several Ed25519 keys and a threshold. -/
  | multiEd25519
  /-- The encoding of one key of any kind. -/
  | singleKey
  /-- The encoding of several keys of any kind. -/
  | multiKey
  /-- The address of an object and another address. -/
  | objectFromObject
  /-- The address of a creator and a seed, for an object. -/
  | objectFromSeed
  /-- The address of a creator and a seed, for a resource account. -/
  | resourceAccount
  deriving DecidableEq

/-- The last hashed byte. -/
def AuthenticationScheme.byte : AuthenticationScheme → UInt8
  | ed25519 => 0x00
  | multiEd25519 => 0x01
  | singleKey => 0x02
  | multiKey => 0x03
  | objectFromObject => 0xFC
  | objectFromSeed => 0xFE
  | resourceAccount => 0xFF

/-- The schemes with their names. -/
def AuthenticationScheme.names : List (String × AuthenticationScheme) :=
  [("ed25519", ed25519), ("multi_ed25519", multiEd25519), ("single_key", singleKey),
    ("multi_key", multiKey), ("object_from_object", objectFromObject),
    ("object_from_seed", objectFromSeed), ("resource", resourceAccount)]

def AuthenticationScheme.ofName? (name : String) : Option AuthenticationScheme :=
  names.lookup name

/-- The digest that authenticates an account. -/
structure AuthenticationKey where
  bytes : FixedBytes 32
  deriving DecidableEq

namespace AuthenticationKey

def preimage (scheme : AuthenticationScheme) (bytes : Bytes) : Bytes := bytes ++ [scheme.byte]

/-- The key of some bytes under a scheme. -/
def ofScheme (scheme : AuthenticationScheme) (bytes : Bytes) : AuthenticationKey :=
  ⟨Sha3.sha3_256 (preimage scheme bytes)⟩

def ofBytes (bytes : Bytes) : Except KeyError AuthenticationKey :=
  mk <$> FixedBytes.ofKeyBytes "AuthenticationKey" 32 bytes

def parse (text : String) : Except KeyError AuthenticationKey := do
  let bytes ← (Hex.parse text).mapError .hex
  ofBytes bytes

def text (key : AuthenticationKey) : String := Hex.text key.bytes.toList

def described (key : AuthenticationKey) : String := "AuthenticationKey(" ++ key.text ++ ")"

/-- The address of an account that is created with the key. -/
def address (key : AuthenticationKey) : Address := ⟨key.bytes⟩

instance : Wire AuthenticationKey where
  write key := key.bytes.toList
  read := mk <$> Reader.fixed 32

end AuthenticationKey

namespace Address

def described (address : Address) : String := "AccountAddress(" ++ address.text ++ ")"

/-- The address derived from another address and some bytes. -/
def derived (scheme : AuthenticationScheme) (source : Address) (seed : Bytes) : Address :=
  (AuthenticationKey.ofScheme scheme (source.bytes.toList ++ seed)).address

/-- The address of an object that a creator makes from a seed. -/
def object (creator : Address) (seed : Bytes) : Address := derived .objectFromSeed creator seed

/-- The address of a resource account that a creator makes from a seed. -/
def resource (creator : Address) (seed : Bytes) : Address := derived .resourceAccount creator seed

/-- The address of an object that is derived from another address. -/
def userObject (source origin : Address) : Address :=
  derived .objectFromObject source origin.bytes.toList

end Address

end MoveWallet
