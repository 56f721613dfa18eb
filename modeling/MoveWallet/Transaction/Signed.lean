import MoveWallet.Transaction.Authenticator
import MoveWallet.Transaction.Raw

/-! # Signed transactions

A signed transaction is what a sender proposed with the agreement of all parties. The signatures
that need nothing from the chain can be checked, over bytes that are put together again from the
parties that the authenticator names.
-/

namespace MoveWallet

/-- A transaction ready to be submitted. -/
structure SignedTransaction where
  raw : RawTransaction
  authenticator : TransactionAuthenticator

namespace SignedTransaction

instance : Wire SignedTransaction where
  write signed := Wire.write signed.raw ++ Wire.write signed.authenticator
  read := do
    let raw ← Wire.read
    let authenticator ← Wire.read
    pure ⟨raw, authenticator⟩

/-- The hash of the transaction once it is committed: the zero byte marks it as sent by a user. -/
def hash (signed : SignedTransaction) : FixedBytes 32 :=
  Sha3.sha3_256 (Domain.transaction.message (0 :: Wire.write signed))

/-- Whether all signatures are valid. The sender and the secondary signers of a sponsored
transaction may have signed before the sponsor was known. -/
def verify (signed : SignedTransaction) : Bool :=
  match signed.authenticator with
  | .ed25519 _ _ | .singleSender _ =>
    signed.authenticator.sender.verify signed.raw.signingMessage
  | .multiAgent sender secondary secondarySigners =>
    let message := (TransactionWithSigners.multiAgent signed.raw secondary).signingMessage
    secondarySigners.length = secondary.length &&
      (sender :: secondarySigners).all fun signer => signer.verify message
  | .feePayer sender secondary secondarySigners sponsor sponsorSigner =>
    let named := (TransactionWithSigners.feePayer signed.raw secondary sponsor).signingMessage
    let unnamed :=
      (TransactionWithSigners.feePayer signed.raw secondary Address.zero).signingMessage
    secondarySigners.length = secondary.length && sponsorSigner.verify named &&
      (sender :: secondarySigners).all fun signer => signer.verify named || signer.verify unnamed

end SignedTransaction

end MoveWallet
