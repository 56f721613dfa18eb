import MoveWallet.Chain.Node

/-! # Chains in memory

A chain in memory stands in for a node: it holds a few accounts, functions and changed keys, and it
can be taken offline. What is set last counts.
-/

namespace MoveWallet

/-- Why a chain does not answer. -/
inductive ChainError
  /-- There is no account at the address. -/
  | accountNotFound (account : Address)
  /-- There is no such function. -/
  | functionNotFound (function : FunctionId)
  /-- The chain is offline. -/
  | offline
  deriving DecidableEq

def ChainError.message : ChainError → String
  | accountNotFound account => "account " ++ account.text ++ " not found"
  | functionNotFound function => "function " ++ function.text ++ " not found"
  | offline => "node unreachable"

/-- A chain held in memory. -/
structure Chain where
  chainId : UInt8
  /-- Accounts with their sequence numbers, the one set last in front. -/
  accounts : List (Address × UInt64)
  /-- Published functions, the one set last in front. -/
  functions : List (FunctionId × EntryFunctionAbi)
  /-- Changed keys with the accounts they sign for, the one set last in front. -/
  rotations : List (AuthenticationKey × Address)
  isOffline : Bool

namespace Chain

def empty (chainId : UInt8) : Chain := ⟨chainId, [], [], [], false⟩

def withAccount (chain : Chain) (account : Address) (sequenceNumber : UInt64) : Chain :=
  { chain with accounts := (account, sequenceNumber) :: chain.accounts }

def withFunction (chain : Chain) (function : FunctionId) (abi : EntryFunctionAbi) : Chain :=
  { chain with functions := (function, abi) :: chain.functions }

/-- Change a key to sign for an account. -/
def withRotation (chain : Chain) (key : AuthenticationKey) (origin : Address) : Chain :=
  { chain with rotations := (key, origin) :: chain.rotations }

/-- The chain with some accounts, functions and changed keys. Of two entries for the same key the
later one counts. -/
def ofEntries (chainId : UInt8) (accounts : List (Address × UInt64))
    (functions : List (FunctionId × EntryFunctionAbi))
    (rotations : List (AuthenticationKey × Address)) : Chain :=
  let chain := accounts.foldl (fun chain entry => chain.withAccount entry.1 entry.2) (empty chainId)
  let chain := functions.foldl (fun chain entry => chain.withFunction entry.1 entry.2) chain
  rotations.foldl (fun chain entry => chain.withRotation entry.1 entry.2) chain

def setOffline (chain : Chain) (isOffline : Bool) : Chain := { chain with isOffline }

def sequenceNumber? (chain : Chain) (account : Address) : Option UInt64 :=
  chain.accounts.lookup account

/-- Commit a transaction of an account, which starts at zero if it is new. -/
def commit (chain : Chain) (sender : Address) : Chain :=
  chain.withAccount sender ((chain.sequenceNumber? sender).getD 0 + 1)

/-- An answer, if the chain is online. -/
def answer {α : Type} (chain : Chain) (answer : Except ChainError α) : Except ChainError α :=
  if chain.isOffline then .error .offline else answer

def node (chain : Chain) : Node ChainError where
  sequenceNumber account := chain.answer <|
    match chain.sequenceNumber? account with
    | some sequenceNumber => .ok sequenceNumber
    | none => .error (.accountNotFound account)
  chainId := chain.answer (.ok chain.chainId)
  entryFunction function := chain.answer <|
    match chain.functions.lookup function with
    | some abi => .ok abi
    | none => .error (.functionNotFound function)
  originatingAddress key := chain.answer (.ok (chain.rotations.lookup key))

end Chain

end MoveWallet
