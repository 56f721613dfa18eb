import MoveWallet.Abi.Basic
import MoveWallet.Authentication

/-! # What a node is asked

Transactions are built from what a node of the chain tells about accounts and functions. A node is
given by its answers at one moment; what it was asked is kept as a list of lookups.
-/

namespace MoveWallet

/-- A question to a node. -/
inductive Lookup
  | sequenceNumber (account : Address)
  | chainId
  | entryFunction (function : FunctionId)
  | originatingAddress (key : AuthenticationKey)
  deriving DecidableEq

/-- The answers of a node, or the errors it gives instead. -/
structure Node (ε : Type) where
  /-- The number of the next transaction of an account. -/
  sequenceNumber : Address → Except ε UInt64
  /-- The number of the chain. -/
  chainId : Except ε UInt8
  /-- The parameters of a published function. -/
  entryFunction : FunctionId → Except ε EntryFunctionAbi
  /-- The account that a key was changed to sign for. -/
  originatingAddress : AuthenticationKey → Except ε (Option Address)

/-- How often each question was asked. -/
structure LookupCounts where
  sequenceNumber : Nat
  chainId : Nat
  entryFunction : Nat
  originatingAddress : Nat
  deriving DecidableEq

namespace Lookup

def isSequenceNumber : Lookup → Bool
  | sequenceNumber _ => true
  | _ => false

def isChainId : Lookup → Bool
  | chainId => true
  | _ => false

def isEntryFunction : Lookup → Bool
  | entryFunction _ => true
  | _ => false

/-- Whether a lookup asks for the account of a changed key. -/
def isOriginatingAddress : Lookup → Bool
  | originatingAddress _ => true
  | _ => false

end Lookup

def LookupCounts.ofLookups (lookups : List Lookup) : LookupCounts :=
  ⟨lookups.countP Lookup.isSequenceNumber, lookups.countP Lookup.isChainId,
    lookups.countP Lookup.isEntryFunction, lookups.countP Lookup.isOriginatingAddress⟩

end MoveWallet
