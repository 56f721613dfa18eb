import MoveWallet.Account.MultiKey

/-! # Accounts

An account of any kind has an address and signs messages and transactions. Each member of an
account with several keys signs a transaction as it would alone.
-/

namespace MoveWallet.Account

/-- The account of a private key: an Ed25519 key is used on its own, a Secp256k1 key is tagged. -/
def ofKey : PrivateKey → Account
  | .ed25519 key => sole (.ed25519 (Ed25519Account.ofKey key))
  | .secp256k1 key => sole (.singleKey (SingleKeyAccount.ofKey (.secp256k1 key)))

def address : Account → Address
  | sole account => account.address
  | multiKey account => account.address

/-- The same account at a given address: keys can be changed while the address stays. -/
def withAddress (address : Address) : Account → Account
  | sole account => sole (account.withAddress address)
  | multiKey account => multiKey { account with address }

def authenticationKey : Account → AuthenticationKey
  | sole account => account.authenticationKey
  | multiKey account => account.multiKey.authenticationKey

def signMessage (message : Bytes) (now : UInt64) :
    Account → Except SigningError AccountAuthenticator
  | sole account => (account.authenticate message now).mapError .keyless
  | multiKey account => account.authenticateWith (SoleAccount.sign message now)

def signTransaction (transaction : UnsignedTransaction) (now : UInt64) :
    Account → Except SigningError AccountAuthenticator
  | sole account =>
    (account.authenticate (account.transactionMessage transaction) now).mapError .keyless
  | multiKey account => account.authenticateWith fun member =>
    member.sign (member.transactionMessage transaction) now

end MoveWallet.Account
