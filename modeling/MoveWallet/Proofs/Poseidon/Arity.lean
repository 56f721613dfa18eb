import Mathlib.Lean.Thunk
import MoveWallet.Keyless.PublicKey
import MoveWallet.Proofs.Bytes.Pieces
import MoveWallet.Proofs.Outcome

/-! # What can be hashed

There are parameters for one to twelve scalars, and with them every list of so many scalars has a
hash: a round leaves as many lanes as the matrix has rows, and the matrix has one row for each lane.
A byte string that is no longer than the size of its kind is packed into a number of scalars that
depends on the size only.
-/

namespace MoveWallet

open Outcome

namespace Poseidon

theorem Register.length_draw (value : Register → Scalar × Register) (count : Nat)
    (register : Register) : (draw value count register).1.length = count := by
  induction count generalizing register with
  | zero => rfl
  | succ count ih => simp [draw, ih]

/-- The matrix has a row for each lane. -/
theorem length_matrix_generate (width partialRounds : Nat) :
    (generate width partialRounds).matrix.length = width := by
  rw [generate, List.length_map, Register.length_draw]

theorem parameters?_succ {index partialRounds : Nat}
    (listed : partialRoundCounts[index]? = some partialRounds) :
    parameters? (index + 1) = some (generate (index + 2) partialRounds) := by
  have entry : partialRoundCounts.zipIdx[index]? = some (partialRounds, index) := by
    rw [List.getElem?_zipIdx, listed, Option.map_some, Nat.zero_add]
  rw [parameters?, tables, List.getElem?_map, entry, Option.map_some, Option.map_some,
    Thunk.get_mk]

/-- A matrix with rows never leaves a state without lanes. -/
private theorem Parameters.exists_hash? {parameters : Parameters}
    (rows : 0 < parameters.matrix.length)
    (inputs : List Scalar) : ∃ digest, parameters.hash? inputs = some digest := by
  have kept : ∀ (rounds : List (List Scalar × Nat)) (state : List Scalar), 0 < state.length →
      0 < (rounds.foldl (fun state entry =>
        round parameters.matrix (parameters.isFull entry.2) entry.1 state) state).length := by
    intro rounds
    induction rounds with
    | nil => exact fun _ => id
    | cons entry others ih =>
      intro state _
      refine ih _ ?_
      simp only [Poseidon.round, mix, List.length_map]
      exact rows
  have lanes := kept (chunks parameters.width parameters.constants).zipIdx
    (Scalar.zero :: inputs) (Nat.succ_pos _)
  exact ⟨_, List.head?_eq_some_head (List.ne_nil_of_length_pos lanes)⟩

/-- One to twelve scalars have a hash. -/
theorem exists_hash {inputs : List Scalar} (nonempty : 0 < inputs.length)
    (few : inputs.length ≤ maxArity) : ∃ digest, hash inputs = .ok digest := by
  obtain ⟨index, arity⟩ := Nat.exists_eq_succ_of_ne_zero (Nat.ne_of_gt nonempty)
  have inside : index < partialRoundCounts.length := by
    rw [maxArity, arity] at few
    exact few
  have parameters := parameters?_succ (List.getElem?_eq_getElem inside)
  have rows : 0 < (generate (index + 2) partialRoundCounts[index]).matrix.length := by
    rw [length_matrix_generate]
    exact Nat.succ_pos _
  obtain ⟨digest, made⟩ := Parameters.exists_hash? rows inputs
  refine ⟨digest, ?_⟩
  rw [hash, hash?, arity, parameters, Option.bind_eq_bind, Option.bind_some, made]

/-- The number of scalars is that of the size. -/
theorem length_pieces {bytes : Bytes} {size : Nat} (fits : bytes.length ≤ size) :
    ((chunks bytesPerScalar (Bytes.padRight size bytes)).map Scalar.ofBytes).length =
      (size + 30) / 31 := by
  rw [List.length_map, length_chunks (by decide), Bytes.length_padRight fits]
  rfl

/-- A byte string is packed if it is within its size and the size within the largest one. -/
theorem pack_eq_ok_iff {bytes : Bytes} {size : Nat} {scalars : List Scalar} :
    pack bytes size = .ok scalars ↔
      (bytes.length ≤ size ∧ (size + 30) / 31 < maxPacked) ∧
        scalars = (chunks bytesPerScalar (Bytes.padRight size bytes)).map Scalar.ofBytes := by
  unfold pack
  constructor
  · intro packed
    split at packed
    next => cases packed
    next within =>
      have fits := Nat.not_lt.mp within
      dsimp only at packed
      rw [length_pieces fits] at packed
      split at packed
      next => cases packed
      next few =>
        cases packed
        exact ⟨⟨fits, Nat.not_le.mp few⟩, rfl⟩
  · rintro ⟨⟨fits, few⟩, rfl⟩
    dsimp only
    rw [if_neg (Nat.not_lt.mpr fits), length_pieces fits, if_neg (Nat.not_le.mpr few)]

/-- A byte string within its size is packed, and the number of scalars is that of the size. -/
theorem exists_pack {bytes : Bytes} {size : Nat} (fits : bytes.length ≤ size)
    (few : (size + 30) / 31 < maxPacked) :
    ∃ scalars, pack bytes size = .ok scalars ∧ scalars.length = (size + 30) / 31 :=
  ⟨_, pack_eq_ok_iff.mpr ⟨⟨fits, few⟩, rfl⟩, length_pieces fits⟩

theorem exists_packWithLength {bytes : Bytes} {size : Nat} (fits : bytes.length ≤ size)
    (few : (size + 30) / 31 < maxPacked) :
    ∃ scalars, packWithLength bytes size = .ok scalars ∧
      scalars.length = (size + 30) / 31 + 1 := by
  obtain ⟨scalars, packed, count⟩ := exists_pack fits few
  refine ⟨scalars ++ [Scalar.ofNat bytes.length], ?_, ?_⟩
  · rw [packWithLength, packed]
    rfl
  · rw [List.length_append, count]
    rfl

/-- A text within its size has a hash if the scalars of the size and one more can be hashed. -/
theorem exists_hashText {text : String} {size : Nat} (fits : (Bytes.ofText text).length ≤ size)
    (few : (size + 30) / 31 < maxArity) : ∃ digest, hashText text size = .ok digest := by
  have packable : (size + 30) / 31 < maxPacked := Nat.lt_trans few (by decide)
  obtain ⟨scalars, packed, count⟩ := exists_packWithLength fits packable
  have arity : scalars.length ≤ maxArity := count ▸ few
  obtain ⟨digest, made⟩ := exists_hash (count ▸ Nat.succ_pos _) arity
  exact ⟨digest, bind_eq_ok_iff.mpr ⟨scalars, packed, made⟩⟩

end Poseidon

/-- A user whose claims are within their sizes is committed to with a pepper of the right size. -/
theorem IdCommitment.exists_commit {userKey userValue audience : String} {pepper : Bytes}
    (peppered : pepper.length = pepperSize)
    (audienceFits : (Bytes.ofText audience).length ≤ audienceSize)
    (valueFits : (Bytes.ofText userValue).length ≤ userValueSize)
    (keyFits : (Bytes.ofText userKey).length ≤ userKeySize) :
    ∃ commitment, commit userKey userValue audience pepper = .ok commitment := by
  obtain ⟨audienceHash, first⟩ := Poseidon.exists_hashText audienceFits (by decide)
  obtain ⟨valueHash, second⟩ := Poseidon.exists_hashText valueFits (by decide)
  obtain ⟨keyHash, third⟩ := Poseidon.exists_hashText keyFits (by decide)
  have nonempty : 0 < [Scalar.ofBytes pepper, audienceHash, valueHash, keyHash].length :=
    Nat.succ_pos _
  obtain ⟨digest, last⟩ := Poseidon.exists_hash nonempty (Nat.le_of_ble_eq_true rfl)
  refine ⟨digest.toBytes, ?_⟩
  simp only [commit, peppered, ne_eq, not_true_eq_false, ↓reduceIte, bind_eq_ok_iff, first, second,
    third]
  exact ⟨_, rfl, _, rfl, _, rfl, _, last, rfl⟩

end MoveWallet
