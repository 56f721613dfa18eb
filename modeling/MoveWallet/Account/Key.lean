import MoveWallet.Derivation.Tree
import MoveWallet.Key.Any

/-! # Accounts with one private key

The address of an account is that of its key unless the key was changed after the account was made;
an account with a changed key keeps its address, which is then given.
-/

namespace MoveWallet

/-- An account with an Ed25519 key on its own. -/
structure Ed25519Account where
  privateKey : Ed25519PrivateKey
  address : Address
  deriving DecidableEq

namespace Ed25519Account

def ofKey (key : Ed25519PrivateKey) : Ed25519Account :=
  ⟨key, key.publicKey.authenticationKey.address⟩

/-- The account with a key drawn from a source. -/
def generate (source : RandomSource) : Ed25519Account :=
  ofKey (Ed25519PrivateKey.generate source).1

/-- The account with the key of a phrase at a path. -/
def derive (path mnemonic : String) : Except DerivationError Ed25519Account :=
  ofKey <$> Derivation.ed25519 path mnemonic

def publicKey (account : Ed25519Account) : Ed25519PublicKey := account.privateKey.publicKey

def authenticationKey (account : Ed25519Account) : AuthenticationKey :=
  account.publicKey.authenticationKey

end Ed25519Account

/-- An account with one key of either scheme, tagged with the scheme. -/
structure SingleKeyAccount where
  privateKey : PrivateKey
  address : Address
  deriving DecidableEq

namespace SingleKeyAccount

def ofKey (key : PrivateKey) : SingleKeyAccount := ⟨key, key.publicKey.address⟩

/-- The account with an Ed25519 key drawn from a source. -/
def generateEd25519 (source : RandomSource) : SingleKeyAccount :=
  ofKey (.ed25519 (Ed25519PrivateKey.generate source).1)

/-- The account with a Secp256k1 key drawn from a source in at most `attempts` draws. -/
def generateSecp256k1? (attempts : Nat) (source : RandomSource) : Option SingleKeyAccount :=
  (Secp256k1PrivateKey.generate? attempts source).map fun drawn => ofKey (.secp256k1 drawn.1)

/-- The account with the Ed25519 key of a phrase at a path. -/
def deriveEd25519 (path mnemonic : String) : Except DerivationError SingleKeyAccount :=
  (fun key => ofKey (.ed25519 key)) <$> Derivation.ed25519 path mnemonic

/-- The account with the Secp256k1 key of a phrase at a path. -/
def deriveSecp256k1 (path mnemonic : String) : Except DerivationError SingleKeyAccount :=
  (fun key => ofKey (.secp256k1 key)) <$> Derivation.secp256k1 path mnemonic

def publicKey (account : SingleKeyAccount) : AnyPublicKey := account.privateKey.publicKey

def authenticationKey (account : SingleKeyAccount) : AuthenticationKey :=
  account.publicKey.authenticationKey

end SingleKeyAccount

end MoveWallet
