import MoveWallet.Key.Any
import MoveWallet.MultiKey.Bitmap

/-! # Multi-keys

A multi-key is a list of keys with a threshold. A signature of it holds signatures of some of the
keys, in the order of the keys, and a bitmap that names them.
-/

namespace MoveWallet

/-- The largest number of keys. -/
def MultiKey.maxKeys : Nat := Bitmap.capacity

/-- Keys of which some must sign together. -/
@[ext]
structure MultiKey where
  keys : List AnyPublicKey
  threshold : UInt8
  within : 1 ≤ threshold.toNat ∧ threshold.toNat ≤ keys.length
  length_le : keys.length ≤ MultiKey.maxKeys
  deriving DecidableEq

/-- Signatures of some of the keys of a multi-key, as many as its bitmap has positions. -/
@[ext]
structure MultiKeySignature where
  signatures : List AnySignature
  bitmap : Bitmap
  count_eq : bitmap.count = signatures.length
  deriving DecidableEq

namespace MultiKey

/-- The multi-key of some keys and a threshold from one to their number. -/
def make (keys : List AnyPublicKey) (threshold : UInt8) : Except MultiKeyError MultiKey :=
  if many : maxKeys < keys.length then .error (.tooManyKeys keys.length)
  else if within : 1 ≤ threshold.toNat ∧ threshold.toNat ≤ keys.length then
    .ok ⟨keys, threshold, within, Nat.le_of_not_lt many⟩
  else .error (.invalidThreshold threshold keys.length)

/-- The first position of a key. -/
def position (multiKey : MultiKey) (key : AnyPublicKey) : Except MultiKeyError UInt8 :=
  match multiKey.keys.findIdx? (· = key) with
  | some index => if index < 256 then .ok (UInt8.ofNat index) else .error .keyNotFound
  | none => .error .keyNotFound

/-- Whether a signature of a message is valid: it has as many signatures as its bitmap has
positions, all positions are those of keys, there are enough of them, and each signature is valid
under the key at its position. -/
def verify (multiKey : MultiKey) (message : Bytes) (signature : MultiKeySignature) : Bool :=
  let positions := signature.bitmap.positions
  positions.length = signature.signatures.length &&
    positions.all (· < multiKey.keys.length) &&
    multiKey.threshold.toNat ≤ signature.signatures.length &&
    (positions.zip signature.signatures).all fun pair =>
      match multiKey.keys[pair.1]? with
      | some key => key.verify message pair.2
      | none => false

instance : Wire MultiKey where
  write multiKey := Wire.write multiKey.keys ++ Wire.write multiKey.threshold
  read := do
    let keys ← Wire.read
    let threshold ← Wire.read
    Reader.checked "MultiKey" ((make keys threshold).mapError MultiKeyError.message)

def authenticationKey (multiKey : MultiKey) : AuthenticationKey :=
  AuthenticationKey.ofScheme .multiKey (Wire.write multiKey)

/-- The address of an account that is created with the multi-key. -/
def address (multiKey : MultiKey) : Address := multiKey.authenticationKey.address

end MultiKey

namespace MultiKeySignature

/-- The signature of some signatures and a bitmap with as many positions. -/
def make (signatures : List AnySignature) (bitmap : Bitmap) :
    Except MultiKeyError MultiKeySignature :=
  if same : bitmap.count = signatures.length then .ok ⟨signatures, bitmap, same⟩
  else .error (.signatureCount bitmap.count signatures.length)

/-- Fail at the first position that does not exceed the one before it. -/
def checkAscending : List UInt8 → Except MultiKeyError Unit
  | previous :: next :: rest =>
    if next ≤ previous then .error (.notAscending previous next)
    else checkAscending (next :: rest)
  | _ => .ok ()

/-- The signature of signatures with their positions, which must ascend: the order tells which key
checks which signature. -/
def ofSigners (signers : List (UInt8 × AnySignature)) :
    Except MultiKeyError MultiKeySignature := do
  let positions := signers.map (·.1)
  checkAscending positions
  let bitmap ← Bitmap.ofPositions positions
  make (signers.map (·.2)) bitmap

/-- The positions of the keys that signed, in ascending order. -/
def positions (signature : MultiKeySignature) : List Nat := signature.bitmap.positions

instance : Wire MultiKeySignature where
  write signature := Wire.write signature.signatures ++ signature.bitmap.toList.prefixed
  read := do
    let signatures ← Wire.read
    let bitmap ← Reader.sized "MultiKeySignature bitmap" 4
    Reader.checked "MultiKeySignature" ((make signatures bitmap).mapError MultiKeyError.message)

end MultiKeySignature

end MoveWallet
