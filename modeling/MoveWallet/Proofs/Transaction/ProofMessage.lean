import MoveWallet.Proofs.Wire.Transaction

/-! # What an ephemeral signature commits to

Transactions of all forms are signed with a proof under one domain. Within a form the message tells
the transaction and the proof. A simple transaction has no tag, though, so that it can be written
with the same bytes as one with more signers: its sender then starts with the tag of the other, and
every later field falls one byte behind. `Overlaps` is what the fields of both satisfy, and there
are no other collisions.
-/

namespace MoveWallet

open Canonical

namespace RawTransaction

/-- The encoding of a transaction behind the tag of its payload. -/
def afterTag (raw : RawTransaction) : Bytes :=
  raw.payload.body ++ Wire.write raw.maxGasAmount ++ Wire.write raw.gasUnitPrice ++
    Wire.write raw.expiration ++ Wire.write raw.chainId

theorem write_eq (raw : RawTransaction) :
    Wire.write raw = raw.sender.bytes.toList ++ (Bytes.ofNatLE 8 raw.sequenceNumber.toNat ++
      raw.payload.tag :: raw.afterTag) := by
  simp [Wire.write, afterTag]

end RawTransaction

namespace TransactionWithSigners

/-- What the sender proposes. -/
def raw : TransactionWithSigners → RawTransaction
  | multiAgent raw _ => raw
  | feePayer raw _ _ => raw

def parties : TransactionWithSigners → Bytes
  | multiAgent _ secondary => Wire.write secondary
  | feePayer _ secondary sponsor => Wire.write secondary ++ Wire.write sponsor

theorem write_eq (transaction : TransactionWithSigners) :
    Wire.write transaction =
      transaction.tag :: (Wire.write transaction.raw ++ transaction.parties) := by
  cases transaction <;> simp [Wire.write, tag, raw, parties]

end TransactionWithSigners

/-- A simple transaction with a proof and one with more signers and a proof, whose fields fall on
the same bytes one place apart. -/
structure Overlaps (raw : RawTransaction) (proof : Option ZkProof) (other : TransactionWithSigners)
    (otherProof : Option ZkProof) : Prop where
  /-- The sender starts with the tag of the other transaction and goes on with its sender. -/
  sender : raw.sender.bytes.toList = other.tag :: other.raw.sender.bytes.toList.take 31
  /-- The last byte of the other sender is the low byte of the sequence number. -/
  sequenceNumber : raw.sequenceNumber.toNat =
    (other.raw.sender.bytes.toList.getD 31 0).toNat +
      256 * (other.raw.sequenceNumber.toNat % 2 ^ 56)
  /-- The high byte of the other sequence number is the tag of the payload. -/
  payload : raw.payload.tag.toNat = other.raw.sequenceNumber.toNat / 2 ^ 56
  /-- The payload and all behind it read as the other payload and all behind that. -/
  rest : raw.afterTag ++ Wire.write proof =
    other.raw.payload.tag :: (other.raw.afterTag ++ other.parties ++ Wire.write otherProof)

/-- With sequence numbers as they are used, only a script can share a message. -/
theorem Overlaps.payload_eq_script {raw : RawTransaction} {other : TransactionWithSigners}
    {proof otherProof : Option ZkProof} (overlaps : Overlaps raw proof other otherProof)
    (small : other.raw.sequenceNumber.toNat < 2 ^ 56) : ∃ code, raw.payload = .script code := by
  have tag := overlaps.payload
  rw [Nat.div_eq_of_lt small] at tag
  cases payload : raw.payload with
  | script code => exact ⟨code, rfl⟩
  | entryFunction call | multisig approved | inner payload =>
    simp [payload, Payload.tag] at tag

namespace UnsignedTransaction

def Fits : UnsignedTransaction → Prop
  | simple raw => Canonical.Fits raw
  | withSigners transaction => Canonical.Fits transaction

/-- Two transactions of different forms with proofs that share a message. -/
def Collide : UnsignedTransaction → Option ZkProof → UnsignedTransaction → Option ZkProof → Prop
  | simple raw, proof, withSigners other, otherProof => Overlaps raw proof other otherProof
  | withSigners other, otherProof, simple raw, proof => Overlaps raw proof other otherProof
  | _, _, _, _ => False

/-- The fields of both encodings, cut where those of the simple transaction end. -/
private theorem shifted_eq (other : TransactionWithSigners) (behind : Bytes) :
    Wire.write other ++ behind =
      (other.tag :: other.raw.sender.bytes.toList.take 31) ++
        (other.raw.sender.bytes.toList.getD 31 0 ::
          Bytes.ofNatLE 7 other.raw.sequenceNumber.toNat ++
        (UInt8.ofNat (other.raw.sequenceNumber.toNat / Bytes.bound 7) ::
          other.raw.payload.tag :: (other.raw.afterTag ++ other.parties ++ behind))) := by
  have width := other.raw.sender.bytes.length_eq
  have last : other.raw.sender.bytes.toList =
      other.raw.sender.bytes.toList.take 31 ++ [other.raw.sender.bytes.toList.getD 31 0] := by
    have inside : 31 < other.raw.sender.bytes.toList.length := by omega
    rw [List.getD_eq_getElem?_getD, List.getElem?_eq_getElem inside, Option.getD_some,
      List.take_append_getElem, List.take_of_length_le (by omega)]
  rw [TransactionWithSigners.write_eq, RawTransaction.write_eq, Bytes.ofNatLE_succ]
  conv_lhs => rw [last]
  simp

/-- A number whose low byte is given and whose other bytes are the low bytes of another one. -/
private theorem sequenceNumber_iff {number shift : UInt64} {byte : UInt8} :
    Bytes.ofNatLE 8 number.toNat = byte :: Bytes.ofNatLE 7 shift.toNat ↔
      number.toNat = byte.toNat + 256 * (shift.toNat % 2 ^ 56) := by
  have small := byte.toNat_lt
  have low : UInt8.ofNat (byte.toNat + 256 * (shift.toNat % 2 ^ 56)) = byte := by
    apply UInt8.toNat_inj.mp
    rw [UInt8.toNat_ofNat']
    omega
  have high : (byte.toNat + 256 * (shift.toNat % 2 ^ 56)) / 256 = shift.toNat % Bytes.bound 7 := by
    change _ = shift.toNat % 2 ^ 56
    omega
  have written : byte :: Bytes.ofNatLE 7 shift.toNat =
      Bytes.ofNatLE 8 (byte.toNat + 256 * (shift.toNat % 2 ^ 56)) := by
    change _ = UInt8.ofNat _ :: Bytes.ofNatLE 7 (_ / 256)
    rw [low, high, Bytes.ofNatLE_mod]
  have bound : Bytes.bound 8 = 2 ^ 64 := rfl
  rw [written]
  refine Bytes.ofNatLE_inj ?_ ?_
  · exact number.toNat_lt
  · omega

/-- The top byte of a number is a given one. -/
private theorem topByte_iff {number : UInt64} {byte : UInt8} :
    byte = UInt8.ofNat (number.toNat / Bytes.bound 7) ↔ byte.toNat = number.toNat / 2 ^ 56 := by
  have bound := number.toNat_lt
  have width : Bytes.bound 7 = 2 ^ 56 := rfl
  rw [← UInt8.toNat_inj, UInt8.toNat_ofNat', width, Nat.mod_eq_of_lt (by omega)]

/-- The fields of a simple transaction end where the bytes of the other one are cut. -/
private theorem overlaps_iff {raw : RawTransaction} {other : TransactionWithSigners}
    {proof otherProof : Option ZkProof} :
    Wire.write raw ++ Wire.write proof = Wire.write other ++ Wire.write otherProof ↔
      Overlaps raw proof other otherProof := by
  have width := other.raw.sender.bytes.length_eq
  rw [shifted_eq, RawTransaction.write_eq, List.append_assoc, List.append_assoc,
    List.append_eq_append_iff_of_size_eq_left (by simp [raw.sender.bytes.length_eq, width]),
    List.append_eq_append_iff_of_size_eq_left (by simp), sequenceNumber_iff, List.cons_append,
    List.cons.injEq, topByte_iff]
  constructor
  · rintro ⟨sender, sequenceNumber, payload, rest⟩
    exact ⟨sender, sequenceNumber, payload, rest⟩
  · rintro ⟨sender, sequenceNumber, payload, rest⟩
    exact ⟨sender, sequenceNumber, payload, rest⟩

/-- The message with a proof commits to the transaction and the proof, up to the collisions of a
simple transaction with one of another form. -/
theorem proofMessage_eq_iff {first second : UnsignedTransaction} {proof proof' : Option ZkProof}
    (fits : first.Fits) (fits' : second.Fits) :
    first.proofMessage proof = second.proofMessage proof' ↔
      first = second ∧ proof = proof' ∨ Collide first proof second proof' := by
  have proofFits : ∀ proof : Option ZkProof, Canonical.Fits proof := fun _ _ _ => trivial
  have proofs := write_inj (proofFits proof) (proofFits proof')
  unfold proofMessage Domain.message
  rw [List.append_right_inj]
  cases first with
  | simple raw =>
    cases second with
    | simple raw' =>
      simp only [encoding, Collide, or_false, simple.injEq]
      rw [write_append_inj fits fits', proofs]
    | withSigners other =>
      simp only [encoding, Collide, reduceCtorEq, false_and, false_or]
      exact overlaps_iff
  | withSigners other =>
    cases second with
    | simple raw =>
      simp only [encoding, Collide, reduceCtorEq, false_and, false_or]
      rw [eq_comm]
      exact overlaps_iff
    | withSigners other' =>
      simp only [encoding, Collide, or_false, withSigners.injEq]
      rw [write_append_inj fits fits', proofs]

/-- A script whose argument holds most of the other transaction. -/
def overlappingScript : RawTransaction where
  sender := ⟨⟨0 :: List.replicate 31 0x11, rfl⟩⟩
  sequenceNumber := 0x11
  payload := .script ⟨[0xa1, 0x1c], [], [.bytes (List.replicate 26 0 ++ [1, 97, 1, 102, 0, 0] ++
    Bytes.ofNatLE 8 200000 ++ Bytes.ofNatLE 8 100 ++ Bytes.ofNatLE 8 1700000000 ++ [2] ++
    1 :: List.replicate 7 0)], TypeTag.concrete_nil⟩
  maxGasAmount := 2000
  gasUnitPrice := 100
  expiration := 1800000000
  chainId := 2

/-- A call with one more signer, whose address holds the prices of the script. -/
def overlappingCall : TransactionWithSigners :=
  .multiAgent {
    sender := ⟨⟨List.replicate 32 0x11, rfl⟩⟩
    sequenceNumber := 0
    payload := .entryFunction ⟨
      ⟨⟨⟨[0xa1, 0x1c, 0, 1, 4, 65] ++ List.replicate 26 0, rfl⟩⟩, ⟨"a", by decide⟩⟩,
      ⟨"f", by decide⟩, [], [], TypeTag.concrete_nil⟩
    maxGasAmount := 200000
    gasUnitPrice := 100
    expiration := 1700000000
    chainId := 2 }
    [⟨⟨List.replicate 7 0 ++ Bytes.ofNatLE 8 2000 ++ Bytes.ofNatLE 8 100 ++
      Bytes.ofNatLE 8 1800000000 ++ [2], rfl⟩⟩]

theorem overlappingScript_fits : (simple overlappingScript).Fits := by
  refine ⟨by decide, ⟨by decide, List.forall_mem_nil _⟩, by decide, ?_⟩
  rw [List.forall_mem_singleton]
  show List.length _ < UInt32.size
  decide

theorem overlappingCall_fits : (withSigners overlappingCall).Fits := by
  have moduleFits : Canonical.Fits "a" := show List.length _ < UInt32.size by decide
  have functionFits : Canonical.Fits "f" := show List.length _ < UInt32.size by decide
  refine ⟨⟨moduleFits, functionFits, ⟨by decide, ?_⟩, by decide, ?_⟩, by decide, ?_⟩
  · exact List.forall_mem_nil _
  · exact List.forall_mem_nil _
  · exact fun _ _ => trivial

private theorem overlapping (proof : Option ZkProof) :
    Overlaps overlappingScript proof overlappingCall proof where
  sender := rfl
  sequenceNumber := rfl
  payload := rfl
  rest := by
    have moduleName : Bytes.ofText "a" = [97] := by decide
    have functionName : Bytes.ofText "f" = [102] := by decide
    simp [RawTransaction.afterTag, TransactionWithSigners.parties, TransactionWithSigners.raw,
      overlappingScript, overlappingCall, Payload.tag, Payload.body, Wire.write, Bytes.prefixed,
      Bytes.uleb128_of_lt, moduleName, functionName]

theorem proofMessage_not_injective :
    ¬ ∀ (first second : UnsignedTransaction) (proof proof' : Option ZkProof), first.Fits →
      second.Fits → first.proofMessage proof = second.proofMessage proof' →
        first = second ∧ proof = proof' := by
  intro injective
  have shared := congrArg Domain.transactionAndProof.message (overlaps_iff.mpr (overlapping none))
  have same := injective _ _ none none overlappingScript_fits overlappingCall_fits shared
  cases same.1

theorem proofMessage_collision :
    (simple overlappingScript).Fits ∧ (withSigners overlappingCall).Fits ∧
      (simple overlappingScript).proofMessage none =
        (withSigners overlappingCall).proofMessage none :=
  ⟨overlappingScript_fits, overlappingCall_fits,
    (proofMessage_eq_iff overlappingScript_fits overlappingCall_fits).mpr (.inr (overlapping none))⟩

end UnsignedTransaction

end MoveWallet
