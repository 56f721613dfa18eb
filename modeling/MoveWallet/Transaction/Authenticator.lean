import MoveWallet.MultiKey.Basic

/-! # Who signed a transaction

The authenticator of an account shows that the account agrees; the authenticator of a transaction
holds those of all parties.
-/

namespace MoveWallet

/-- The agreement of one account. -/
inductive AccountAuthenticator
  | ed25519 (key : Ed25519PublicKey) (signature : Ed25519Signature)
  | singleKey (key : AnyPublicKey) (signature : AnySignature)
  | multiKey (key : MultiKey) (signature : MultiKeySignature)
  /-- The place of a signer that has not signed. -/
  | placeholder
  deriving DecidableEq

namespace AccountAuthenticator

/-- The tag of a form of authenticator. Tag 1 is a form that is not taken. -/
def tag : AccountAuthenticator → UInt8
  | ed25519 _ _ => 0
  | singleKey _ _ => 2
  | multiKey _ _ => 3
  | placeholder => 4

def body : AccountAuthenticator → Bytes
  | ed25519 key signature => Wire.write key ++ Wire.write signature
  | singleKey key signature => Wire.write key ++ Wire.write signature
  | multiKey key signature => Wire.write key ++ Wire.write signature
  | placeholder => []

instance : Wire AccountAuthenticator where
  write authenticator := authenticator.tag :: authenticator.body
  read := do
    let tag ← Reader.tag
    if tag = 0 then do
      let key ← Wire.read
      let signature ← Wire.read
      pure (ed25519 key signature)
    else if tag = 2 then do
      let key ← Wire.read
      let signature ← Wire.read
      pure (singleKey key signature)
    else if tag = 3 then do
      let key ← Wire.read
      let signature ← Wire.read
      pure (multiKey key signature)
    else if tag = 4 then pure placeholder
    else Reader.fail (.unknownVariant "AccountAuthenticator" tag)

/-- Whether the signatures are valid for a message. A placeholder never is. -/
def verify (message : Bytes) : AccountAuthenticator → Bool
  | ed25519 key signature => key.verify message signature
  | singleKey key signature => key.verify message signature
  | multiKey key signature => key.verify message signature
  | placeholder => false

end AccountAuthenticator

/-- The agreement of all parties of a transaction. -/
inductive TransactionAuthenticator
  /-- A lone sender with an Ed25519 key. -/
  | ed25519 (key : Ed25519PublicKey) (signature : Ed25519Signature)
  | multiAgent (sender : AccountAuthenticator) (secondary : List Address)
      (secondarySigners : List AccountAuthenticator)
  | feePayer (sender : AccountAuthenticator) (secondary : List Address)
      (secondarySigners : List AccountAuthenticator) (sponsor : Address)
      (sponsorSigner : AccountAuthenticator)
  /-- A lone sender of any other kind. -/
  | singleSender (sender : AccountAuthenticator)
  deriving DecidableEq

namespace TransactionAuthenticator

/-- The tag of a form of authenticator. Tag 1 is a form that is not taken. -/
def tag : TransactionAuthenticator → UInt8
  | ed25519 _ _ => 0
  | multiAgent _ _ _ => 2
  | feePayer _ _ _ _ _ => 3
  | singleSender _ => 4

def body : TransactionAuthenticator → Bytes
  | ed25519 key signature => Wire.write key ++ Wire.write signature
  | multiAgent sender secondary secondarySigners =>
    Wire.write sender ++ Wire.write secondary ++ Wire.write secondarySigners
  | feePayer sender secondary secondarySigners sponsor sponsorSigner =>
    Wire.write sender ++ Wire.write secondary ++ Wire.write secondarySigners ++
      Wire.write sponsor ++ Wire.write sponsorSigner
  | singleSender sender => Wire.write sender

instance : Wire TransactionAuthenticator where
  write authenticator := authenticator.tag :: authenticator.body
  read := do
    let tag ← Reader.tag
    if tag = 0 then do
      let key ← Wire.read
      let signature ← Wire.read
      pure (ed25519 key signature)
    else if tag = 2 then do
      let sender ← Wire.read
      let secondary ← Wire.read
      let secondarySigners ← Wire.read
      pure (multiAgent sender secondary secondarySigners)
    else if tag = 3 then do
      let sender ← Wire.read
      let secondary ← Wire.read
      let secondarySigners ← Wire.read
      let sponsor ← Wire.read
      let sponsorSigner ← Wire.read
      pure (feePayer sender secondary secondarySigners sponsor sponsorSigner)
    else if tag = 4 then singleSender <$> Wire.read
    else Reader.fail (.unknownVariant "TransactionAuthenticator" tag)

def single : AccountAuthenticator → TransactionAuthenticator
  | .ed25519 key signature => ed25519 key signature
  | sender => singleSender sender

def sender : TransactionAuthenticator → AccountAuthenticator
  | ed25519 key signature => .ed25519 key signature
  | multiAgent sender _ _ => sender
  | feePayer sender _ _ _ _ => sender
  | singleSender sender => sender

end TransactionAuthenticator

end MoveWallet
