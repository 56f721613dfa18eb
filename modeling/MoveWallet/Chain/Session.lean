import MoveWallet.Chain.Node

/-! # Asking a node

A session records every lookup and remembers the answers that do not change: the number of the
chain and the parameters of functions. Sequence numbers are asked for every time.
-/

namespace MoveWallet

/-- The answers that are remembered. -/
structure ChainCache where
  chainId : Option UInt8
  functions : List (FunctionId × EntryFunctionAbi)

namespace ChainCache

def empty : ChainCache := ⟨none, []⟩

/-- The remembered parameters of a function. -/
def entryFunction? (cache : ChainCache) (function : FunctionId) : Option EntryFunctionAbi :=
  cache.functions.lookup function

def setChainId (cache : ChainCache) (chainId : UInt8) : ChainCache :=
  { cache with chainId := some chainId }

def insertFunction (cache : ChainCache) (function : FunctionId) (abi : EntryFunctionAbi) :
    ChainCache :=
  { cache with functions := (function, abi) :: cache.functions }

end ChainCache

/-- What is known of a node and what it was asked. -/
structure Session where
  cache : ChainCache
  /-- The lookups so far, the last one in front. -/
  lookups : List Lookup

namespace Session

def start : Session := ⟨ChainCache.empty, []⟩

def counts (session : Session) : LookupCounts := LookupCounts.ofLookups session.lookups

end Session

/-- A computation that asks a node. What it was asked is recorded even if it fails. -/
abbrev Asking (ε α : Type) : Type := ExceptT ε (StateM Session) α

namespace Node

variable {ε : Type}

/-- Record a lookup and give its answer. -/
def ask {α : Type} (lookup : Lookup) (answer : Except ε α) : Asking ε α := do
  modify fun session => { session with lookups := lookup :: session.lookups }
  MonadExcept.ofExcept answer

/-- Ask for the next sequence number of an account. -/
def askSequenceNumber (node : Node ε) (account : Address) : Asking ε UInt64 :=
  ask (.sequenceNumber account) (node.sequenceNumber account)

def askChainId (node : Node ε) : Asking ε UInt8 := ask .chainId node.chainId

def askEntryFunction (node : Node ε) (function : FunctionId) : Asking ε EntryFunctionAbi :=
  ask (.entryFunction function) (node.entryFunction function)

/-- Ask for the account that a key was changed to sign for. -/
def askOriginatingAddress (node : Node ε) (key : AuthenticationKey) : Asking ε (Option Address) :=
  ask (.originatingAddress key) (node.originatingAddress key)

/-- The number of the chain, asked for once. -/
def cachedChainId (node : Node ε) : Asking ε UInt8 := do
  let session ← get
  match session.cache.chainId with
  | some chainId => pure chainId
  | none =>
    let chainId ← node.askChainId
    modify fun session => { session with cache := session.cache.setChainId chainId }
    pure chainId

/-- The parameters of a function, asked for once. -/
def cachedEntryFunction (node : Node ε) (function : FunctionId) : Asking ε EntryFunctionAbi := do
  let session ← get
  match session.cache.entryFunction? function with
  | some abi => pure abi
  | none =>
    let abi ← node.askEntryFunction function
    modify fun session => { session with cache := session.cache.insertFunction function abi }
    pure abi

end Node

end MoveWallet
