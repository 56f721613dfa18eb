import MoveWallet.Bytes.Hex
import MoveWallet.Text.Blank

/-! # Errors of keys and the text of private keys

Private keys are written as the name of their scheme, `-priv-` and hexadecimal digits.
-/

namespace MoveWallet

/-- Why bytes or a text are not a key or a signature. -/
inductive KeyError
  /-- The number of bytes is wrong. -/
  | invalidLength (typeName : String) (expected actual : Nat)
  /-- The bytes are no point or scalar of the curve. -/
  | invalidKey (typeName : String)
  /-- The text is not hexadecimal. -/
  | hex (error : HexError)
  /-- The text is a private key of another scheme, or of none. -/
  | schemePrefix (expected : String)
  deriving DecidableEq

def KeyError.message : KeyError → String
  | invalidLength typeName expected actual => s!"{typeName} must be {expected} bytes, got {actual}"
  | invalidKey typeName => s!"invalid {typeName}"
  | hex error => error.message
  | schemePrefix expected => s!"expected an AIP-80 '{expected}' private key"

/-- A byte string of the size of a type. -/
def FixedBytes.ofKeyBytes (typeName : String) (size : Nat) (bytes : Bytes) :
    Except KeyError (FixedBytes size) :=
  match FixedBytes.ofList? size bytes with
  | some value => .ok value
  | none => .error (.invalidLength typeName size bytes.length)

namespace KeyText

/-- What private key texts of the first scheme start with. -/
def ed25519Prefix : String := "ed25519-priv-"

/-- What private key texts of the second scheme start with. -/
def secp256k1Prefix : String := "secp256k1-priv-"

/-- Whether a text starts like a private key of either scheme. -/
def hasScheme (text : List Char) : Bool :=
  (Text.after? ed25519Prefix text).isSome || (Text.after? secp256k1Prefix text).isSome

/-- The bytes of a private key text of one scheme: hexadecimal digits behind the prefix of the
scheme or behind none. Blanks around the text are dropped. -/
def parse (start text : String) : Except KeyError Bytes :=
  let trimmed := Text.trim text.toList
  match Text.after? start trimmed with
  | some digits => (Hex.parse (String.ofList digits)).mapError .hex
  | none =>
    if hasScheme trimmed then .error (.schemePrefix start)
    else (Hex.parse (String.ofList trimmed)).mapError .hex

/-- The text of a private key with the given bytes. -/
def write (start : String) (bytes : Bytes) : String := start ++ Hex.text bytes

end KeyText

end MoveWallet
