import MoveWallet.Chain.Session
import MoveWallet.Transaction.Raw

/-! # Building transactions

A transaction is built from a sender, a payload and options. What the options leave open comes from
the configuration or from the chain. A nonce or a multisig account needs the inner form of the
payload; a nonce also takes the place of the sequence number.
-/

namespace MoveWallet

/-- What transactions are built with unless an option says otherwise. -/
structure BuilderConfig where
  maxGasAmount : UInt64
  gasUnitPrice : UInt64
  /-- Seconds from the building of a transaction to its expiry. -/
  lifetime : UInt64
  /-- The number of the chain; asked for if it is not given. -/
  chainId : Option UInt8
  deriving DecidableEq

def BuilderConfig.default : BuilderConfig := ⟨200000, 100, 20, none⟩

/-- What is fixed for one transaction. -/
structure TransactionOptions where
  maxGasAmount : Option UInt64
  gasUnitPrice : Option UInt64
  /-- The second of the expiry. -/
  expiration : Option UInt64
  sequenceNumber : Option UInt64
  /-- The number that protects the transaction from being run twice. -/
  nonce : Option UInt64
  /-- The account on whose behalf it runs. -/
  multisigAddress : Option Address
  deriving DecidableEq

namespace TransactionOptions

def none : TransactionOptions := ⟨.none, .none, .none, .none, .none, .none⟩

/-- The configuration that the inner form of a payload takes, if one is needed. -/
def extraConfig? (options : TransactionOptions) : Option ExtraConfig :=
  if options.nonce.isNone && options.multisigAddress.isNone then .none
  else some ⟨options.multisigAddress, options.nonce⟩

/-- The payload in the form that the options need. -/
def upgrade (options : TransactionOptions) (payload : Payload) : Payload :=
  match options.extraConfig? with
  | some config => .inner (InnerPayload.ofPayload config payload)
  | .none => payload

end TransactionOptions

/-- Why a transaction is not built. -/
inductive BuildError (ε : Type)
  /-- A lookup failed. -/
  | lookup (error : ε)
  /-- The arguments do not fit the function. -/
  | argument (error : ArgumentError)
  /-- The parts do not form a payload. -/
  | payload (error : PayloadError)
  /-- The text is not a function id. -/
  | invalidFunctionId (text : String)
  deriving DecidableEq

def BuildError.message {ε : Type} (describe : ε → String) : BuildError ε → String
  | lookup error => "chain lookup failed: " ++ describe error
  | argument error => error.message
  | payload error => error.message
  | invalidFunctionId text => s!"invalid entry function id '{text}'"

namespace Builder

variable {ε : Type}

/-- The sequence number of transactions that are protected by a nonce. -/
def orderlessSequenceNumber : UInt64 := 0xDEADBEEF

/-- A lookup on the way to a transaction. -/
def asking {α : Type} (lookup : Asking ε α) : Asking (BuildError ε) α :=
  ExceptT.adapt BuildError.lookup lookup

/-- The outcome of a step that asks nothing. -/
def checked {α δ : Type} (wrap : δ → BuildError ε) (outcome : Except δ α) :
    Asking (BuildError ε) α :=
  MonadExcept.ofExcept (outcome.mapError wrap)

/-- The call of the function with a textual id, its arguments given in JSON. -/
def entryFunction (node : Node ε) (id : String) (types : List TypeTag) (arguments : List Json) :
    Asking (BuildError ε) EntryFunction := do
  let some function := FunctionId.parse? id | throw (.invalidFunctionId id)
  let abi ← asking (node.cachedEntryFunction function)
  let encodings ← checked .argument (abi.encodeArguments types arguments)
  checked .payload (EntryFunction.make function.module function.function types encodings)

/-- The sequence number of a transaction: the given one, the fixed one of a transaction with a
nonce, or the next one of the sender. -/
def sequenceNumber (node : Node ε) (sender : Address) (options : TransactionOptions) :
    Asking (BuildError ε) UInt64 :=
  match options.sequenceNumber, options.nonce with
  | some given, _ => pure given
  | none, some _ => pure orderlessSequenceNumber
  | none, none => asking (node.askSequenceNumber sender)

/-- The number of the chain: the configured one, or that of the node. -/
def chainId (node : Node ε) (config : BuilderConfig) : Asking (BuildError ε) UInt8 :=
  match config.chainId with
  | some given => pure given
  | none => asking node.cachedChainId

/-- The sum of two numbers, or the largest number if the sum is larger. -/
def saturatingAdd (a b : UInt64) : UInt64 :=
  if a.toNat + b.toNat < UInt64.size then a + b else UInt64.ofNat (UInt64.size - 1)

/-- What the sender proposes; `now` is the time of building. -/
def buildRaw (node : Node ε) (config : BuilderConfig) (now : UInt64) (sender : Address)
    (payload : Payload) (options : TransactionOptions) : Asking (BuildError ε) RawTransaction := do
  let number ← sequenceNumber node sender options
  let chain ← chainId node config
  return {
    sender
    sequenceNumber := number
    payload := options.upgrade payload
    maxGasAmount := options.maxGasAmount.getD config.maxGasAmount
    gasUnitPrice := options.gasUnitPrice.getD config.gasUnitPrice
    expiration := options.expiration.getD (saturatingAdd now config.lifetime)
    chainId := chain }

/-- The parties that sign a transaction besides its sender. -/
inductive Parties
  | none
  | secondary (signers : List Address)
  /-- Secondary signers and a sponsor that is named later. -/
  | sponsored (signers : List Address)
  deriving DecidableEq

def Parties.transaction (raw : RawTransaction) : Parties → UnsignedTransaction
  | none => .simple raw
  | secondary signers => UnsignedTransaction.make raw signers .none
  | sponsored signers => UnsignedTransaction.make raw signers (some Address.zero)

/-- A transaction ready to be signed by its parties. -/
def build (node : Node ε) (config : BuilderConfig) (now : UInt64) (sender : Address)
    (parties : Parties) (payload : Payload) (options : TransactionOptions) :
    Asking (BuildError ε) UnsignedTransaction := do
  let raw ← buildRaw node config now sender payload options
  return parties.transaction raw

/-- The address that a key signs for: the account it was changed to sign for, or its own. -/
def resolveAddress (node : Node ε) (key : AuthenticationKey) : Asking (BuildError ε) Address := do
  let origin ← asking (node.askOriginatingAddress key)
  return origin.getD key.address

end Builder

end MoveWallet
