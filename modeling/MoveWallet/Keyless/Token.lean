import MoveWallet.Bytes.Base64Url
import MoveWallet.Json.Parser
import MoveWallet.Keyless.Error
import MoveWallet.Text.Blank
import MoveWallet.Text.Segment

/-! # Identity tokens

A token has three parts with a dot between them, each in Base64: a header, a JSON object of claims
and a signature, which is not looked at.
-/

namespace MoveWallet

/-- The claims of a token. -/
structure TokenClaims where
  members : List (String × Json)

namespace Token

/-- The header and the claims of a token, still encoded. Blanks around the token are dropped. -/
def segments (token : String) : Except KeylessError (List Char × List Char) :=
  match Text.atChar '.' (Text.trim token.toList) with
  | [header, claims, _] => .ok (header, claims)
  | parts => .error (.malformedToken (.segmentCount parts.length))

/-- The bytes of a part, which may have equals signs behind it. -/
def decodeSegment (segment : List Char) : Except KeylessError Bytes :=
  let bare := (segment.reverse.dropWhile (· = '=')).reverse
  match Base64Url.decode? bare with
  | some bytes => .ok bytes
  | none => .error (.malformedToken .encoding)

def header (token : String) : Except KeylessError String := do
  let (encoded, _) ← segments token
  let bytes ← decodeSegment encoded
  match Bytes.toText? bytes with
  | some text => .ok text
  | none => .error (.malformedToken .headerText)

def claims (token : String) : Except KeylessError TokenClaims := do
  let (_, encoded) ← segments token
  let bytes ← decodeSegment encoded
  match (Bytes.toText? bytes).bind Json.parse? with
  | none => .error (.malformedToken .claimsDocument)
  | some (.object members) => .ok ⟨members⟩
  | some _ => .error (.malformedToken .claimsNotObject)

end Token

namespace TokenClaims

/-- The text of a claim, if it is there and is a text. -/
def text? (claims : TokenClaims) (name : String) : Option String :=
  (Json.member? claims.members name).bind Json.string?

/-- The text of a claim that must be there. -/
def required (claims : TokenClaims) (name : String) : Except KeylessError String :=
  match claims.text? name with
  | some value => .ok value
  | none => .error (.missingClaim name)

def issuer (claims : TokenClaims) : Except KeylessError String := claims.required "iss"

def audience (claims : TokenClaims) : Except KeylessError String := claims.required "aud"

/-- The nonce that the login was requested with, if it is there and is a text. -/
def nonce? (claims : TokenClaims) : Option String := claims.text? "nonce"

end TokenClaims

end MoveWallet
