import MoveWallet.Account.Basic
import MoveWallet.Transaction.Signed

/-! # Collecting the signatures of a transaction

Every party of a transaction signs it, and their authenticators are put together in its form. The
sponsor is named before anyone signs; a sponsored transaction without a sponsor has a placeholder
in its place and is good for simulation only.
-/

namespace MoveWallet

/-- Why signatures do not form a signed transaction. -/
inductive AssemblyError
  /-- A signer fails to sign. -/
  | signing (error : SigningError)
  /-- The number of secondary signers is wrong. -/
  | secondarySignerCount (expected actual : Nat)
  /-- A signer is another account than the transaction names. -/
  | signerMismatch (expected actual : Address)
  /-- A sponsor signs a transaction without one. -/
  | unexpectedSponsor
  deriving DecidableEq

def AssemblyError.message : AssemblyError → String
  | signing error => error.message
  | secondarySignerCount expected actual =>
    s!"expected {expected} secondary signers, got {actual}"
  | signerMismatch expected actual =>
    "expected a signer for " ++ expected.text ++ ", got " ++ actual.text
  | unexpectedSponsor => "only fee payer transactions take a fee payer signer"

namespace UnsignedTransaction

/-- Fail unless there are as many secondary signers as the transaction names. -/
def checkSecondaryCount (transaction : UnsignedTransaction) (count : Nat) :
    Except AssemblyError Unit :=
  if transaction.secondary.length = count then .ok ()
  else .error (.secondarySignerCount transaction.secondary.length count)

/-- The signed transaction of authenticators made elsewhere. -/
def assemble (transaction : UnsignedTransaction) (sender : AccountAuthenticator)
    (secondarySigners : List AccountAuthenticator) (sponsorSigner : Option AccountAuthenticator) :
    Except AssemblyError SignedTransaction := do
  transaction.checkSecondaryCount secondarySigners.length
  if sponsorSigner.isSome && transaction.sponsor?.isNone then throw .unexpectedSponsor
  match transaction with
  | simple raw => return ⟨raw, .single sender⟩
  | withSigners (.multiAgent raw secondary) =>
    return ⟨raw, .multiAgent sender secondary secondarySigners⟩
  | withSigners (.feePayer raw secondary sponsor) =>
    return ⟨raw, .feePayer sender secondary secondarySigners sponsor
      (sponsorSigner.getD .placeholder)⟩

/-- Fail unless an account is the one at an address. -/
def checkSigner (expected : Address) (signer : Account) : Except AssemblyError Unit :=
  if signer.address = expected then .ok () else .error (.signerMismatch expected signer.address)

def sponsoredBy (transaction : UnsignedTransaction) :
    Option Account → Except AssemblyError UnsignedTransaction
  | none => .ok transaction
  | some sponsor =>
    match transaction.setSponsor? sponsor.address with
    | some transaction => .ok transaction
    | none => .error .unexpectedSponsor

/-- The transaction signed by all parties. The sender is checked first, then the number of the
secondary signers and each of them, and last the sponsor; then they sign in the same order. -/
def sign (transaction : UnsignedTransaction) (now : UInt64) (sender : Account)
    (secondarySigners : List Account) (sponsor : Option Account) :
    Except AssemblyError SignedTransaction := do
  checkSigner transaction.raw.sender sender
  transaction.checkSecondaryCount secondarySigners.length
  (transaction.secondary.zip secondarySigners).forM fun pair => checkSigner pair.1 pair.2
  let transaction ← transaction.sponsoredBy sponsor
  let authenticate (account : Account) :=
    (account.signTransaction transaction now).mapError AssemblyError.signing
  let senderSigned ← authenticate sender
  let secondarySigned ← secondarySigners.mapM authenticate
  let sponsorSigned ← sponsor.mapM authenticate
  transaction.assemble senderSigned secondarySigned sponsorSigned

end UnsignedTransaction

end MoveWallet
