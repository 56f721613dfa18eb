import MoveWallet.Proofs.Transaction.ProofMessage

/-! # What a signature with a key commits to

The message that a key signs starts with the digest of its domain. A digest has a fixed length and
the digests of the domains of transactions differ, so that messages of different domains differ,
whatever stands behind the digests. Transactions with one signer and with more are in different
domains, which takes the place of the tag that the encoding of the former lacks; within a domain
the encoding tells the transaction.
-/

namespace MoveWallet

open Canonical

namespace Domain

/-- A message tells the digest of its domain and the bytes behind it. -/
theorem message_eq_iff {first second : Domain} {bytes others : Bytes} :
    first.message bytes = second.message others ↔
      first.digest = second.digest ∧ bytes = others := by
  have widths : first.digest.toList.length = second.digest.toList.length :=
    first.digest.length_eq.trans second.digest.length_eq.symm
  unfold message
  rw [List.append_eq_append_iff_of_size_eq_left widths]
  refine and_congr_left fun _ => ?_
  constructor
  · exact FixedBytes.ext
  · exact congrArg FixedBytes.toList

/-- The domains that transactions are signed in. -/
def transactionDomains : List Domain :=
  [rawTransaction, rawTransactionWithData, transactionAndProof]

def firstByte? (domain : Domain) : Option UInt8 := domain.digest.toList.head?

-- The kernel runs the permutation once in each of the next three proofs.
private theorem firstByte?_rawTransaction : rawTransaction.firstByte? = some 0xb5 := by
  decide +kernel

private theorem firstByte?_rawTransactionWithData :
    rawTransactionWithData.firstByte? = some 0x5e := by
  decide +kernel

private theorem firstByte?_transactionAndProof : transactionAndProof.firstByte? = some 0xa5 := by
  decide +kernel

private theorem digests_nodup : (transactionDomains.map digest).Nodup := by
  have firstBytes : transactionDomains.map firstByte? = [some 0xb5, some 0x5e, some 0xa5] := by
    simp only [transactionDomains, List.map_cons, List.map_nil, firstByte?_rawTransaction,
      firstByte?_rawTransactionWithData, firstByte?_transactionAndProof]
  apply List.Nodup.of_map (fun digest : FixedBytes 32 => digest.toList.head?)
  rw [List.map_map]
  change (transactionDomains.map firstByte?).Nodup
  rw [firstBytes]
  decide

private theorem rawTransaction_ne_rawTransactionWithData :
    rawTransaction ≠ rawTransactionWithData := by
  decide

/-- Messages of two of the domains differ. -/
theorem message_ne {first second : Domain} {bytes others : Bytes}
    (listed : first ∈ transactionDomains) (listed' : second ∈ transactionDomains)
    (apart : first ≠ second) : first.message bytes ≠ second.message others := by
  intro same
  have digests : first.digest = second.digest := (message_eq_iff.mp same).1
  exact apart (List.inj_on_of_nodup_map digests_nodup listed listed' digests)

end Domain

namespace UnsignedTransaction

/-- The domain that the parties with keys sign in. -/
def domain : UnsignedTransaction → Domain
  | simple _ => .rawTransaction
  | withSigners _ => .rawTransactionWithData

private theorem signingMessage_eq (transaction : UnsignedTransaction) :
    transaction.signingMessage = transaction.domain.message transaction.encoding := by
  cases transaction <;> rfl

private theorem domain_mem (transaction : UnsignedTransaction) :
    transaction.domain ∈ Domain.transactionDomains := by
  cases transaction <;> simp [domain, Domain.transactionDomains]

private theorem domain_ne_transactionAndProof (transaction : UnsignedTransaction) :
    transaction.domain ≠ .transactionAndProof := by
  cases transaction with
  | simple raw =>
    have apart : Domain.rawTransaction ≠ .transactionAndProof := by decide
    exact apart
  | withSigners other =>
    have apart : Domain.rawTransactionWithData ≠ .transactionAndProof := by decide
    exact apart

/-- Within a domain the encoding tells the transaction. -/
theorem eq_of_encoding_eq {first second : UnsignedTransaction} (fits : first.Fits)
    (fits' : second.Fits) (domains : first.domain = second.domain)
    (encodings : first.encoding = second.encoding) : first = second := by
  cases first with
  | simple raw =>
    cases second with
    | simple raw' => exact congrArg simple ((write_inj fits fits').mp encodings)
    | withSigners other =>
      exact absurd domains Domain.rawTransaction_ne_rawTransactionWithData
  | withSigners transaction =>
    cases second with
    | simple raw =>
      exact absurd domains.symm Domain.rawTransaction_ne_rawTransactionWithData
    | withSigners other => exact congrArg withSigners ((write_inj fits fits').mp encodings)

/-- The plain message commits to the transaction with all its parties, and no message with a proof
is one. -/
theorem signingMessage_commits :
    (∀ first second : UnsignedTransaction, first.Fits → second.Fits →
      (first.signingMessage = second.signingMessage ↔ first = second)) ∧
    ∀ (transaction other : UnsignedTransaction) (proof : Option ZkProof),
      transaction.signingMessage ≠ other.proofMessage proof := by
  refine ⟨fun first second fits fits' => ?_, fun transaction other proof => ?_⟩
  · constructor
    · intro same
      rw [signingMessage_eq, signingMessage_eq] at same
      have domains : first.domain = second.domain := by
        by_contra apart
        exact Domain.message_ne first.domain_mem second.domain_mem apart same
      exact eq_of_encoding_eq fits fits' domains (Domain.message_eq_iff.mp same).2
    · exact congrArg signingMessage
  · rw [signingMessage_eq]
    have listed : Domain.transactionAndProof ∈ Domain.transactionDomains := by
      simp [Domain.transactionDomains]
    exact Domain.message_ne transaction.domain_mem listed transaction.domain_ne_transactionAndProof

/-- The two transactions that share a message with a proof have plain messages of their own. -/
theorem signingMessage_overlapping :
    (simple overlappingScript).Fits ∧ (withSigners overlappingCall).Fits ∧
      (simple overlappingScript).signingMessage ≠ (withSigners overlappingCall).signingMessage := by
  refine ⟨overlappingScript_fits, overlappingCall_fits, fun same => ?_⟩
  have equal := (signingMessage_commits.1 _ _ overlappingScript_fits overlappingCall_fits).mp same
  cases equal

end UnsignedTransaction

end MoveWallet
