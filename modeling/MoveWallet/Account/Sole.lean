import MoveWallet.Account.Key
import MoveWallet.Account.Keyless
import MoveWallet.Transaction.Authenticator

/-! # Accounts that sign alone

An account that signs alone has one key and gives one signature, so that it can also be a member of
an account with several keys. Signing takes the current time, which only ephemeral keys look at.
-/

namespace MoveWallet

/-- An account with one key. -/
inductive SoleAccount
  | ed25519 (account : Ed25519Account)
  | singleKey (account : SingleKeyAccount)
  | keyless (account : KeylessAccount)
  deriving DecidableEq

namespace SoleAccount

def address : SoleAccount → Address
  | ed25519 account => account.address
  | singleKey account => account.address
  | keyless account => account.address

def withAddress (address : Address) : SoleAccount → SoleAccount
  | ed25519 account => ed25519 { account with address }
  | singleKey account => singleKey { account with address }
  | keyless account => keyless { account with address }

/-- The public key in the form that a multi-key lists. -/
def publicKey : SoleAccount → AnyPublicKey
  | ed25519 account => .ed25519 account.publicKey
  | singleKey account => account.publicKey
  | keyless account => account.publicKey

def authenticationKey : SoleAccount → AuthenticationKey
  | ed25519 account => account.authenticationKey
  | singleKey account => account.authenticationKey
  | keyless account => account.authenticationKey

def sign (message : Bytes) (now : UInt64) : SoleAccount → Except KeylessError AnySignature
  | ed25519 account => .ok (.ed25519 (account.privateKey.sign message))
  | singleKey account => .ok (account.privateKey.sign message)
  | keyless account => AnySignature.keyless <$> account.signAt message now

/-- The bytes that the account signs for a transaction. -/
def transactionMessage (transaction : UnsignedTransaction) : SoleAccount → Bytes
  | keyless account => account.transactionMessage transaction
  | _ => transaction.signingMessage

def authenticate (message : Bytes) (now : UInt64) :
    SoleAccount → Except KeylessError AccountAuthenticator
  | ed25519 account => .ok (.ed25519 account.publicKey (account.privateKey.sign message))
  | singleKey account => .ok (.singleKey account.publicKey (account.privateKey.sign message))
  | keyless account => do
    let signature ← account.signAt message now
    return .singleKey account.publicKey (.keyless signature)

end SoleAccount

end MoveWallet
