/-! # Errors of keyless accounts -/

namespace MoveWallet

/-- Why a token is not three encoded parts with a JSON object in the second. -/
inductive TokenFault
  /-- The token has another number of parts. -/
  | segmentCount (count : Nat)
  /-- A part is not Base64 text. -/
  | encoding
  /-- The first part is not UTF-8. -/
  | headerText
  /-- The second part is not a JSON document. -/
  | claimsDocument
  /-- The second part is not a JSON object. -/
  | claimsNotObject
  deriving DecidableEq

def TokenFault.message : TokenFault → String
  | segmentCount count => s!"expected 3 segments, got {count}"
  | encoding => "a segment is not base64url"
  | headerText => "the header is not utf-8"
  | claimsDocument => "the claims are not json"
  | claimsNotObject => "claims are not a json object"

/-- Why a keyless account cannot be made or cannot sign. -/
inductive KeylessError
  /-- There is no hash for this number of scalars. -/
  | unsupportedArity (count : Nat)
  /-- A byte string is longer than the size it is padded to. -/
  | inputTooLong (length maximum : Nat)
  /-- The pepper has another length. -/
  | invalidPepperLength (length : Nat)
  /-- The blinder has another length. -/
  | invalidBlinderLength (length : Nat)
  /-- The ephemeral key is used after its expiry. -/
  | ephemeralKeyExpired (expiry now : UInt64)
  /-- The token cannot be read. -/
  | malformedToken (fault : TokenFault)
  /-- The token lacks a claim, or the claim is not a text. -/
  | missingClaim (name : String)
  /-- The token was issued for another ephemeral key. -/
  | nonceMismatch (found expected : String)
  deriving DecidableEq

def KeylessError.message : KeylessError → String
  | unsupportedArity count => s!"poseidon does not support {count} inputs"
  | inputTooLong length maximum => s!"input of {length} bytes exceeds the maximum of {maximum}"
  | invalidPepperLength length => s!"pepper must be 31 bytes, got {length}"
  | invalidBlinderLength length => s!"blinder must be 31 bytes, got {length}"
  | ephemeralKeyExpired expiry now => s!"ephemeral key pair expired at {expiry}, now {now}"
  | malformedToken fault => s!"malformed jwt: {fault.message}"
  | missingClaim name => s!"jwt is missing the '{name}' claim"
  | nonceMismatch found expected =>
    s!"jwt nonce '{found}' does not match the ephemeral key nonce '{expected}'"

end MoveWallet
