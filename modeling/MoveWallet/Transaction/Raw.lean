import MoveWallet.Keyless.Signature
import MoveWallet.Transaction.Domain
import MoveWallet.Transaction.Payload

/-! # Unsigned transactions

A transaction is proposed by its sender. It may have secondary signers and a sponsor that pays for
it; then every party signs the list of all of them too.
-/

namespace MoveWallet

/-- What a sender proposes. -/
structure RawTransaction where
  sender : Address
  sequenceNumber : UInt64
  payload : Payload
  /-- The most gas units that the sender pays for. -/
  maxGasAmount : UInt64
  /-- The price of a gas unit. -/
  gasUnitPrice : UInt64
  /-- The second after which the transaction is void. -/
  expiration : UInt64
  chainId : UInt8

instance : Wire RawTransaction where
  write raw := Wire.write raw.sender ++ Wire.write raw.sequenceNumber ++ Wire.write raw.payload ++
    Wire.write raw.maxGasAmount ++ Wire.write raw.gasUnitPrice ++ Wire.write raw.expiration ++
    Wire.write raw.chainId
  read := do
    let sender ← Wire.read
    let sequenceNumber ← Wire.read
    let payload ← Wire.read
    let maxGasAmount ← Wire.read
    let gasUnitPrice ← Wire.read
    let expiration ← Wire.read
    let chainId ← Wire.read
    pure ⟨sender, sequenceNumber, payload, maxGasAmount, gasUnitPrice, expiration, chainId⟩

/-- A transaction with the other parties that sign it. -/
inductive TransactionWithSigners
  | multiAgent (raw : RawTransaction) (secondary : List Address)
  /-- The sponsor is the zero address while it is not known. -/
  | feePayer (raw : RawTransaction) (secondary : List Address) (sponsor : Address)

namespace TransactionWithSigners

instance : Wire TransactionWithSigners where
  write
    | multiAgent raw secondary => 0 :: (Wire.write raw ++ Wire.write secondary)
    | feePayer raw secondary sponsor =>
      1 :: (Wire.write raw ++ Wire.write secondary ++ Wire.write sponsor)
  read := do
    let tag ← Reader.tag
    if tag = 0 then do
      let raw ← Wire.read
      let secondary ← Wire.read
      pure (multiAgent raw secondary)
    else if tag = 1 then do
      let raw ← Wire.read
      let secondary ← Wire.read
      let sponsor ← Wire.read
      pure (feePayer raw secondary sponsor)
    else Reader.fail (.unknownVariant "RawTransactionWithData" tag)

/-- The bytes that every party signs. -/
def signingMessage (transaction : TransactionWithSigners) : Bytes :=
  Domain.rawTransactionWithData.message (Wire.write transaction)

end TransactionWithSigners

/-- The bytes that a lone sender signs. -/
def RawTransaction.signingMessage (raw : RawTransaction) : Bytes :=
  Domain.rawTransaction.message (Wire.write raw)

/-- A transaction with any parties, ready to be signed. -/
inductive UnsignedTransaction
  | simple (raw : RawTransaction)
  | withSigners (transaction : TransactionWithSigners)

namespace UnsignedTransaction

/-- The transaction with some secondary signers and perhaps a sponsor; with neither it is simple. -/
def make (raw : RawTransaction) (secondary : List Address) (sponsor : Option Address) :
    UnsignedTransaction :=
  match sponsor with
  | some sponsor => withSigners (.feePayer raw secondary sponsor)
  | none => if secondary.isEmpty then simple raw else withSigners (.multiAgent raw secondary)

/-- What the sender proposes. -/
def raw : UnsignedTransaction → RawTransaction
  | simple raw => raw
  | withSigners (.multiAgent raw _) => raw
  | withSigners (.feePayer raw _ _) => raw

def secondary : UnsignedTransaction → List Address
  | simple _ => []
  | withSigners (.multiAgent _ secondary) => secondary
  | withSigners (.feePayer _ secondary _) => secondary

/-- The sponsor of a sponsored transaction. -/
def sponsor? : UnsignedTransaction → Option Address
  | withSigners (.feePayer _ _ sponsor) => some sponsor
  | _ => none

/-- Name the sponsor of a sponsored transaction; `none` for any other. -/
def setSponsor? (sponsor : Address) : UnsignedTransaction → Option UnsignedTransaction
  | withSigners (.feePayer raw secondary _) => some (withSigners (.feePayer raw secondary sponsor))
  | _ => none

/-- The encoding: that of what the sender proposes, alone or with the other parties. -/
def encoding : UnsignedTransaction → Bytes
  | simple raw => Wire.write raw
  | withSigners transaction => Wire.write transaction

/-- The bytes that every party with a key signs. -/
def signingMessage : UnsignedTransaction → Bytes
  | simple raw => raw.signingMessage
  | withSigners transaction => transaction.signingMessage

/-- The bytes that an ephemeral key signs: the transaction and then the proof, which cannot be
exchanged afterwards. -/
def proofMessage (transaction : UnsignedTransaction) (proof : Option ZkProof) : Bytes :=
  Domain.transactionAndProof.message (transaction.encoding ++ Wire.write proof)

end UnsignedTransaction

end MoveWallet
