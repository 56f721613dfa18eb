import MoveWallet.Hash.Sha3

/-! # Domains of signed messages

A signed message starts with the digest of the name of its domain, so that a signature of one kind
of message is none of another kind.
-/

namespace MoveWallet

/-- The name of a domain. -/
structure Domain where
  name : String
  deriving DecidableEq

/-- A name that is not that of a domain. -/
structure DomainError where
  name : String
  deriving DecidableEq

def DomainError.message (error : DomainError) : String :=
  s!"domain separator must start with 'APTOS::', got '{error.name}'"

namespace Domain

/-- What the name of every domain starts with. -/
def space : String := "APTOS::"

/-- Transactions with one signer. -/
def rawTransaction : Domain := ⟨"APTOS::RawTransaction"⟩

/-- Transactions with more signers. -/
def rawTransactionWithData : Domain := ⟨"APTOS::RawTransactionWithData"⟩

/-- Transactions that are signed with a proof. -/
def transactionAndProof : Domain := ⟨"APTOS::TransactionAndProof"⟩

/-- Transactions that are committed. -/
def transaction : Domain := ⟨"APTOS::Transaction"⟩

/-- The domain with a name in the space. -/
def parse (name : String) : Except DomainError Domain :=
  if space.toList.isPrefixOf name.toList then .ok ⟨name⟩ else .error ⟨name⟩

def digest (domain : Domain) : FixedBytes 32 := Sha3.sha3_256 (Bytes.ofText domain.name)

def message (domain : Domain) (bytes : Bytes) : Bytes := domain.digest.toList ++ bytes

end Domain

/-- The message of some bytes in the domain with a given name. -/
def signingMessage (name : String) (bytes : Bytes) : Except DomainError Bytes := do
  let domain ← Domain.parse name
  return domain.message bytes

end MoveWallet
