import MoveWallet.Bytes.Hex
import MoveWallet.Json.Basic
import MoveWallet.Json.Fault
import MoveWallet.Key.Error
import MoveWallet.Wire.Reader

/-! # Envelopes

Keys and signatures are exchanged as JSON objects with the name of a scheme and a value in
hexadecimal digits. An envelope may also be written as an array of the two; further members of an
object are not looked at.
-/

namespace MoveWallet

/-- The schemes that an envelope names. -/
inductive EnvelopeScheme
  | ed25519
  | secp256k1
  | keyless
  | federatedKeyless
  | multiKey
  | singleKey
  deriving DecidableEq

/-- Why a JSON value is not an envelope. -/
inductive EnvelopeFault
  /-- The value is not an object or a pair, or a part of it is not a text. -/
  | malformed
  /-- A member is missing. -/
  | missingMember (name : String)
  /-- The value is not hexadecimal. -/
  | hex (error : HexError)
  deriving DecidableEq

def EnvelopeFault.message : EnvelopeFault → String
  | malformed => "not an object with a type and a value"
  | missingMember name => s!"missing field `{name}`"
  | hex error => Json.Fault.wording error.message

/-- Why a JSON value is not a key or a signature. -/
inductive EnvelopeError
  /-- The value is not an envelope. -/
  | fault (cause : EnvelopeFault)
  /-- There is no scheme with the name. -/
  | unknownScheme (name : String)
  /-- The scheme has no values of this kind. -/
  | unsupportedScheme (scheme kind : String)
  /-- The bytes are not a key or a signature of the scheme. -/
  | key (error : KeyError)
  /-- The bytes are not an encoding of the scheme. -/
  | decode (error : DecodeError)
  deriving DecidableEq

def EnvelopeError.message : EnvelopeError → String
  | fault cause => cause.message
  | unknownScheme name => s!"unknown scheme '{name}'"
  | unsupportedScheme scheme kind => s!"scheme '{scheme}' has no {kind} form"
  | key error => error.message
  | decode error => error.message

namespace EnvelopeScheme

def name : EnvelopeScheme → String
  | ed25519 => "ed25519"
  | secp256k1 => "secp256k1_ecdsa"
  | keyless => "keyless"
  | federatedKeyless => "federated_keyless"
  | multiKey => "multi_key"
  | singleKey => "single_key"

def all : List EnvelopeScheme :=
  [ed25519, secp256k1, keyless, federatedKeyless, multiKey, singleKey]

def parse (name : String) : Except EnvelopeError EnvelopeScheme :=
  match all.find? fun scheme => scheme.name = name with
  | some scheme => .ok scheme
  | none => .error (.unknownScheme name)

end EnvelopeScheme

/-- The name of a scheme with a value. -/
structure Envelope where
  scheme : String
  value : Bytes
  deriving DecidableEq

namespace Envelope

/-- The key of the member with the name of the scheme. -/
def schemeMember : String := "type"

/-- The key of the member with the value. -/
def valueMember : String := "value"

def toJson (envelope : Envelope) : Json :=
  .object [(schemeMember, .string envelope.scheme),
    (valueMember, .string (Hex.text envelope.value))]

/-- An envelope as it is serialized within a document: its fields in order, and bytes as their
text. -/
def serialized (envelope : Envelope) : Json :=
  .ofFields [(schemeMember, .string envelope.scheme),
    (valueMember, .string (Hex.text envelope.value))]

def readScheme : Json → Except EnvelopeFault String
  | .string text => .ok text
  | _ => .error .malformed

def readValue : Json → Except EnvelopeFault Bytes
  | .string text => (Hex.parse text).mapError .hex
  | _ => .error .malformed

def required {α : Type} (name : String) : Option α → Except EnvelopeFault α
  | some value => .ok value
  | none => .error (.missingMember name)

/-- Read an envelope. What is wrong with a member is found before what is missing. -/
def ofJson : Json → Except EnvelopeFault Envelope
  | .object members => do
    let scheme ← (Json.member? members schemeMember).mapM readScheme
    let value ← (Json.member? members valueMember).mapM readValue
    let scheme ← required schemeMember scheme
    let value ← required valueMember value
    return ⟨scheme, value⟩
  | .array (scheme :: value :: rest) => do
    let scheme ← readScheme scheme
    let value ← readValue value
    if rest.isEmpty then return ⟨scheme, value⟩ else throw .malformed
  | _ => .error .malformed

end Envelope

end MoveWallet
