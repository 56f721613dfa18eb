import MoveWallet.Key.Any
import MoveWallet.Keyless.Token
import MoveWallet.Transaction.Raw

/-! # Keyless accounts

A keyless account is made from a login: the token names the user, the pepper hides who that is, the
ephemeral key signs, and the proof binds the key to the token. The issuer and the commitment of the
login never change; the account may become federated and may have its address set.
-/

namespace MoveWallet

/-- An account that signs with the ephemeral key of a login. -/
structure KeylessAccount where
  /-- The issuer of the login and the commitment to the user. -/
  identity : KeylessPublicKey
  /-- The account with the issuer's keys, for a federated account. -/
  jwkAddress : Option Address
  keyPair : EphemeralKeyPair
  /-- The name of the claim that identifies the user. -/
  userKey : String
  /-- The value of that claim. -/
  userValue : String
  audience : String
  pepper : FixedBytes 31
  proof : ZeroKnowledgeSig
  /-- The decoded header of the token. -/
  tokenHeader : String
  address : Address
  deriving DecidableEq

namespace KeylessAccount

/-- The public key of an identity, federated if the account with the issuer's keys is given. -/
def keyOf (identity : KeylessPublicKey) : Option Address → AnyPublicKey
  | none => .keyless identity
  | some jwkAddress => .federatedKeyless ⟨jwkAddress, identity⟩

def publicKey (account : KeylessAccount) : AnyPublicKey := keyOf account.identity account.jwkAddress

def authenticationKey (account : KeylessAccount) : AuthenticationKey :=
  account.publicKey.authenticationKey

/-- Fail if a token was requested with another nonce. A token without one is taken. -/
def checkNonce (claims : TokenClaims) (keyPair : EphemeralKeyPair) : Except KeylessError Unit :=
  match claims.nonce? with
  | some nonce =>
    if nonce = keyPair.nonce then .ok () else .error (.nonceMismatch nonce keyPair.nonce)
  | none => .ok ()

/-- A pepper of the right length. -/
def readPepper (pepper : Bytes) : Except KeylessError (FixedBytes 31) :=
  match FixedBytes.ofList? 31 pepper with
  | some pepper => .ok pepper
  | none => .error (.invalidPepperLength pepper.length)

/-- The account of a login. The token's claims are read first, then the nonce, the pepper, the
user, the audience and the issuer are checked, and the header is read last. -/
def ofToken (token : String) (keyPair : EphemeralKeyPair) (pepper : Bytes)
    (proof : ZeroKnowledgeSig) (userKey : String) : Except KeylessError KeylessAccount := do
  let claims ← Token.claims token
  checkNonce claims keyPair
  let pepper ← readPepper pepper
  let userValue ← claims.required userKey
  let audience ← claims.audience
  let issuer ← claims.issuer
  let identity ← KeylessPublicKey.ofClaims issuer userKey userValue audience pepper.toList
  let tokenHeader ← Token.header token
  return ⟨identity, none, keyPair, userKey, userValue, audience, pepper, proof, tokenHeader,
    (keyOf identity none).address⟩

/-- The federated account of the same login, at the address of its new key. -/
def federated (account : KeylessAccount) (jwkAddress : Address) : KeylessAccount :=
  { account with
    jwkAddress := some jwkAddress
    address := (keyOf account.identity (some jwkAddress)).address }

/-- The signature of a message at a time. -/
def signAt (account : KeylessAccount) (message : Bytes) (now : UInt64) :
    Except KeylessError KeylessSignature := do
  let signature ← account.keyPair.signAt message now
  return ⟨.zeroKnowledge account.proof, account.tokenHeader, account.keyPair.expiry,
    account.keyPair.publicKey, signature⟩

/-- The bytes that the account signs for a transaction: the proof is part of them. -/
def transactionMessage (account : KeylessAccount) (transaction : UnsignedTransaction) : Bytes :=
  transaction.proofMessage (some account.proof.proof)

end KeylessAccount

end MoveWallet
