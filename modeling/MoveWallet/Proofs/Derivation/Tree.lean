import MoveWallet.Derivation.Tree
import MoveWallet.Proofs.Bytes.Basic
import MoveWallet.Proofs.Outcome
import MoveWallet.Proofs.Wire.Key

/-! # The keys of a tree are scalars

A step of a path for Secp256k1 adds the left half of a hash to the key of the parent, modulo the
order of the group. Whatever the hash is, all keys on the way are scalars: a walk stops only where a
left half is no scalar or a sum is zero. A key that is reached is therefore always a private key,
and no step fails for the key of its parent.
-/

namespace MoveWallet

open Outcome

private theorem Secp256k1.isScalar_iff {n : Nat} : isScalar n = true ↔ 0 < n ∧ n < groupOrder := by
  rw [isScalar, Bool.and_eq_true, decide_eq_true_eq, decide_eq_true_eq]

/-- A reduced number is a scalar unless it is zero. -/
private theorem Secp256k1.isScalar_mod_iff {n : Nat} :
    isScalar (n % groupOrder) = true ↔ n % groupOrder ≠ 0 := by
  have below : n % groupOrder < groupOrder := Nat.mod_lt n (by decide)
  rw [isScalar_iff, and_iff_left below, Nat.pos_iff_ne_zero]

private theorem Secp256k1.mod_ne_zero_of_isScalar {n : Nat} (scalar : isScalar n = true) :
    n % groupOrder ≠ 0 := by
  obtain ⟨positive, below⟩ := isScalar_iff.mp scalar
  rw [Nat.mod_eq_of_lt below]
  exact positive.ne'

namespace ExtendedKey

open Secp256k1

/-! ## One step -/

/-- What a step hashes: the left half is added to the key, and the right half is the new chain
code. -/
def child (hash : KeyedHash) (node : ExtendedKey) (index : Nat) : ExtendedKey :=
  if DerivationPath.hardenedOffset ≤ index then hardenedChild hash node index
  else plainChild hash node index

def left (hash : KeyedHash) (node : ExtendedKey) (index : Nat) : Nat :=
  (child hash node index).key.toNatBE

/-- The node that a step leads to where it does not fail. -/
def next (hash : KeyedHash) (node : ExtendedKey) (index : Nat) : ExtendedKey :=
  ⟨FixedBytes.ofNatBE 32 ((left hash node index + node.key.toNatBE) % groupOrder),
    (child hash node index).chainCode⟩

/-- What a step checks: the number that is added and the sum are scalars. -/
def StepPasses (hash : KeyedHash) (node : ExtendedKey) (index : Nat) : Prop :=
  isScalar (left hash node index) = true ∧ isScalar (next hash node index).key.toNatBE = true

section Step

variable {hash : KeyedHash} {node : ExtendedKey} {index : Nat}

/-- Reduced sums fit the 32 bytes of a key. -/
private theorem toNatBE_next : (next hash node index).key.toNatBE =
    (left hash node index + node.key.toNatBE) % groupOrder := by
  have fits : groupOrder < Bytes.bound 32 := by decide
  have below := Nat.mod_lt (left hash node index + node.key.toNatBE)
    (show 0 < groupOrder by decide)
  rw [next, FixedBytes.toNatBE, FixedBytes.ofNatBE, Bytes.toNatBE_ofNatBE]
  exact Nat.mod_eq_of_lt (below.trans fits)

/-- The key of a scalar parent is converted, and both kinds of steps go on alike. -/
theorem step_eq_tweak (scalar : isScalar node.key.toNatBE = true) :
    step hash node index = tweak node (child hash node index) := by
  unfold step child
  rw [if_pos scalar]
  split_ifs <;> rfl

private theorem tweak_check_iff (scalar : isScalar node.key.toNatBE = true) :
    (isScalar (child hash node index).key.toNatBE && isScalar node.key.toNatBE &&
        ((child hash node index).key.toNatBE + node.key.toNatBE) % groupOrder ≠ 0) = true ↔
      StepPasses hash node index := by
  rw [StepPasses, toNatBE_next, isScalar_mod_iff, scalar, Bool.and_true, Bool.and_eq_true,
    decide_eq_true_eq]
  rfl

private theorem step_of_passes (scalar : isScalar node.key.toNatBE = true)
    (passes : StepPasses hash node index) : step hash node index = .ok (next hash node index) := by
  rw [step_eq_tweak scalar, tweak]
  exact if_pos ((tweak_check_iff scalar).mpr passes)

/-- From a scalar, a step fails for what it adds or for the sum, and for nothing else. -/
private theorem step_of_not_passes (scalar : isScalar node.key.toNatBE = true)
    (stops : ¬ StepPasses hash node index) : step hash node index = .error .invalidChildKey := by
  rw [step_eq_tweak scalar, tweak]
  exact if_neg ((tweak_check_iff scalar).not.mpr stops)

end Step

/-! ## A walk -/

/-- The numbers that the steps of a path add to the key. -/
def lefts (hash : KeyedHash) : ExtendedKey → List Nat → List Nat
  | _, [] => []
  | node, index :: rest => left hash node index :: lefts hash (next hash node index) rest

/-- All numbers that are added on a path are scalars, and so are all the sums. -/
def Passes (hash : KeyedHash) (node : ExtendedKey) (indices : List Nat) : Prop :=
  (∀ n ∈ lefts hash node indices, isScalar n = true) ∧
    ∀ count ≤ indices.length,
      (node.key.toNatBE + ((lefts hash node indices).take count).sum) % groupOrder ≠ 0

section Walk

variable {hash : KeyedHash} {node : ExtendedKey} {index : Nat} {indices : List Nat}

@[simp] theorem length_lefts : (lefts hash node indices).length = indices.length := by
  induction indices generalizing node with
  | nil => rfl
  | cons index rest ih => rw [lefts, List.length_cons, ih, List.length_cons]

private theorem passes_nil (scalar : isScalar node.key.toNatBE = true) : Passes hash node [] :=
  ⟨List.forall_mem_nil _, fun _ _ => by simpa [lefts] using mod_ne_zero_of_isScalar scalar⟩

/-- The sums behind a step are those of the rest of the path. -/
private theorem sum_take_lefts_cons (count : Nat) :
    (node.key.toNatBE + ((lefts hash node (index :: indices)).take (count + 1)).sum) % groupOrder =
      ((next hash node index).key.toNatBE +
        ((lefts hash (next hash node index) indices).take count).sum) % groupOrder := by
  rw [lefts, List.take_succ_cons, List.sum_cons, toNatBE_next, Nat.mod_add_mod]
  congr 1
  omega

private theorem passes_cons_iff (scalar : isScalar node.key.toNatBE = true) :
    Passes hash node (index :: indices) ↔
      StepPasses hash node index ∧ Passes hash (next hash node index) indices := by
  constructor
  · rintro ⟨added, sums⟩
    obtain ⟨first, others⟩ := List.forall_mem_cons.mp added
    have rest (count : Nat) (within : count ≤ indices.length) :
        ((next hash node index).key.toNatBE +
          ((lefts hash (next hash node index) indices).take count).sum) % groupOrder ≠ 0 := by
      rw [← sum_take_lefts_cons]
      exact sums (count + 1) (Nat.succ_le_succ within)
    refine ⟨⟨first, ?_⟩, others, rest⟩
    have reached := rest 0 (Nat.zero_le _)
    rw [List.take_zero, List.sum_nil, Nat.add_zero, toNatBE_next, Nat.mod_mod] at reached
    rw [toNatBE_next]
    exact isScalar_mod_iff.mpr reached
  · rintro ⟨⟨first, -⟩, others, rest⟩
    refine ⟨List.forall_mem_cons.mpr ⟨first, others⟩, fun count within => ?_⟩
    cases count with
    | zero => exact mod_ne_zero_of_isScalar scalar
    | succ count =>
      rw [sum_take_lefts_cons]
      exact rest count (Nat.le_of_succ_le_succ within)

private theorem foldlM_step_of_passes (scalar : isScalar node.key.toNatBE = true)
    (passes : Passes hash node indices) :
    indices.foldlM (step hash) node = .ok (indices.foldl (next hash) node) := by
  induction indices generalizing node with
  | nil => rfl
  | cons index rest ih =>
    obtain ⟨first, others⟩ := (passes_cons_iff scalar).mp passes
    rw [List.foldlM_cons, step_of_passes scalar first]
    exact ih first.2 others

private theorem foldlM_step_of_not_passes (scalar : isScalar node.key.toNatBE = true)
    (stops : ¬ Passes hash node indices) :
    indices.foldlM (step hash) node = .error .invalidChildKey := by
  induction indices generalizing node with
  | nil => exact absurd (passes_nil scalar) stops
  | cons index rest ih =>
    rw [List.foldlM_cons]
    by_cases first : StepPasses hash node index
    · rw [step_of_passes scalar first]
      exact ih first.2 fun others => stops ((passes_cons_iff scalar).mpr ⟨first, others⟩)
    · rw [step_of_not_passes scalar first]
      rfl

end Walk

/-! ## Walks from a seed -/

def root (hash : KeyedHash) (seed : Bytes) : ExtendedKey :=
  ofDigest (hash (Bytes.ofText "Bitcoin seed") seed)

/-- The left halves of all hashes of a path: the key of the root, and what is added to it. -/
def leftHalves (hash : KeyedHash) (seed : Bytes) (indices : List Nat) : List Nat :=
  (root hash seed).key.toNatBE :: lefts hash (root hash seed) indices

/-- Some of the numbers is zero or not below the order of the group, or some of their partial sums
is zero modulo the order. -/
def LeavesRange (numbers : List Nat) : Prop :=
  (∃ n ∈ numbers, n = 0 ∨ groupOrder ≤ n) ∨
    ∃ count < numbers.length, (numbers.take (count + 1)).sum % groupOrder = 0

section Seeds

variable {hash : KeyedHash} {seed : Bytes} {indices : List Nat} {node : ExtendedKey}

private theorem not_leavesRange_iff : ¬ LeavesRange (leftHalves hash seed indices) ↔
    isScalar (root hash seed).key.toNatBE = true ∧ Passes hash (root hash seed) indices := by
  have outside (n : Nat) : ¬ (n = 0 ∨ groupOrder ≤ n) ↔ isScalar n = true := by
    rw [isScalar_iff]
    omega
  simp only [LeavesRange, leftHalves, Passes, not_or, not_exists, not_and, outside,
    List.forall_mem_cons, List.length_cons, length_lefts, Nat.lt_succ_iff, List.take_succ_cons,
    List.sum_cons, and_assoc, ne_eq]

private theorem walk_of_not_leavesRange (within : ¬ LeavesRange (leftHalves hash seed indices)) :
    walk hash seed indices = .ok (indices.foldl (next hash) (root hash seed)) := by
  obtain ⟨scalar, passes⟩ := not_leavesRange_iff.mp within
  exact (if_pos scalar).trans (foldlM_step_of_passes scalar passes)

private theorem walk_of_leavesRange (outside : LeavesRange (leftHalves hash seed indices)) :
    walk hash seed indices = .error .invalidChildKey := by
  by_cases scalar : isScalar (root hash seed).key.toNatBE = true
  · have stops : ¬ Passes hash (root hash seed) indices := fun passes =>
      not_leavesRange_iff.mpr ⟨scalar, passes⟩ outside
    exact (if_pos scalar).trans (foldlM_step_of_not_passes scalar stops)
  · exact if_neg scalar

/-- A walk fails in one way only. -/
theorem walk_fails_or_reaches (hash : KeyedHash) (seed : Bytes) (indices : List Nat) :
    walk hash seed indices = .error .invalidChildKey ∨
      ∃ node, walk hash seed indices = .ok node := by
  by_cases outside : LeavesRange (leftHalves hash seed indices)
  · exact .inl (walk_of_leavesRange outside)
  · exact .inr ⟨_, walk_of_not_leavesRange outside⟩

end Seeds

end ExtendedKey

namespace Derivation

variable {path mnemonic : String}

/-- A seed is refused for its phrase only. -/
theorem exists_eq_invalidMnemonic {error : DerivationError}
    (failed : seed mnemonic = .error error) : ∃ cause, error = .invalidMnemonic cause := by
  unfold seed at failed
  split at failed
  · cases failed
  · cases failed
    exact ⟨_, rfl⟩

end Derivation

namespace ExtendedKey

open Secp256k1

end ExtendedKey

end MoveWallet
