import Mathlib.Data.Nat.Bitwise
import MoveWallet.Proofs.MultiKey.Signature

/-! # Who has signed with a multi-key

A bitmap lists positions by its bits, from the high end of each byte to its low end. A signature is
accepted exactly when its bitmap lists as many positions as it has signatures, they are enough, and
each signature is valid under the key at the position that it stands beside. Signatures of enough
different keys are thus needed, and they are also enough.
-/

namespace MoveWallet

namespace Bitmap

/-- The ascending list of the positions whose bits are set: position `i` is bit `7 - i % 8` of byte
`i / 8`, the lowest bit of a byte being bit 0. -/
structure Lists (bitmap : Bitmap) (positions : List Nat) : Prop where
  ascending : positions.Pairwise (· < ·)
  mem_iff : ∀ position, position ∈ positions ↔
    position < 32 ∧ (bitmap.toList.getD (position / 8) 0).toNat.testBit (7 - position % 8) = true

private theorem toNat_mask (position : Nat) : (mask position).toNat = 2 ^ (7 - position % 8) := by
  have places : ∀ place : Fin 8, (mask place).toNat = 2 ^ (7 - place.val) := by decide
  have place := places ⟨position % 8, Nat.mod_lt _ (by decide)⟩
  have same : mask (position % 8) = mask position := by
    unfold mask
    rw [Nat.mod_mod]
  rwa [same] at place

/-- The mask of a position picks out its bit. -/
theorem contains_eq_testBit (bitmap : Bitmap) (position : Nat) :
    bitmap.contains position =
      (bitmap.toList.getD (position / 8) 0).toNat.testBit (7 - position % 8) := by
  unfold contains
  generalize bitmap.toList.getD (position / 8) 0 = byte
  rw [Bool.eq_iff_iff, bne_iff_ne, ne_eq, ← UInt8.toNat_inj, UInt8.toNat_and, toNat_mask,
    UInt8.toNat_zero, Nat.and_two_pow, Nat.mul_eq_zero]
  cases byte.toNat.testBit (7 - position % 8) with
  | false => simp
  | true => simp

/-- The positions that are read off a bitmap are the ones that it lists. -/
theorem lists_iff {bitmap : Bitmap} {positions : List Nat} :
    bitmap.Lists positions ↔ bitmap.positions = positions := by
  have read : ∀ position, position ∈ bitmap.positions ↔ position < 32 ∧
      (bitmap.toList.getD (position / 8) 0).toNat.testBit (7 - position % 8) = true := by
    intro position
    rw [mem_positions, contains_eq_testBit]
    rfl
  constructor
  · rintro ⟨ascending, listed⟩
    have distinct : bitmap.positions.Nodup := (positions_pairwise bitmap).imp Nat.ne_of_lt
    have distinct' : positions.Nodup := ascending.imp Nat.ne_of_lt
    have same : bitmap.positions.Perm positions := by
      rw [List.perm_ext_iff_of_nodup distinct distinct']
      intro position
      rw [read, listed]
    exact same.eq_of_pairwise' (positions_pairwise bitmap) ascending
  · rintro rfl
    exact ⟨positions_pairwise bitmap, read⟩

end Bitmap

namespace MultiKey

/-- Whether the key at a position accepts a signature. -/
def AcceptsAt (multiKey : MultiKey) (message : Bytes) (position : Nat) (part : AnySignature) :
    Prop :=
  ∃ key, multiKey.keys[position]? = some key ∧ key.verify message part = true

/-- A signature by the keys at some positions: each of its signatures is one by the key at the
position beside it, and they are enough. -/
structure Accepts (multiKey : MultiKey) (message : Bytes) (signature : MultiKeySignature)
    (positions : List Nat) : Prop where
  lists : signature.bitmap.Lists positions
  count : positions.length = signature.signatures.length
  enough : multiKey.threshold.toNat ≤ positions.length
  inside : ∀ position ∈ positions, position < multiKey.keys.length
  valid : ∀ (index : Nat) position part, positions[index]? = some position →
    signature.signatures[index]? = some part → multiKey.AcceptsAt message position part

variable {multiKey : MultiKey} {message : Bytes}

/-- Checking pairs is checking by index. -/
private theorem forall_mem_zip_iff {α β : Type} {first : List α} {second : List β}
    {Holds : α → β → Prop} : (∀ pair ∈ first.zip second, Holds pair.1 pair.2) ↔
      ∀ (index : Nat) a b, first[index]? = some a → second[index]? = some b → Holds a b := by
  constructor
  · intro each index a b left right
    have beside : (a, b) ∈ first.zip second :=
      List.mem_of_getElem? (List.getElem?_zip_eq_some.mpr ⟨left, right⟩)
    exact each (a, b) beside
  · intro each pair member
    obtain ⟨index, found⟩ := List.mem_iff_getElem?.mp member
    obtain ⟨left, right⟩ := List.getElem?_zip_eq_some.mp found
    exact each index pair.1 pair.2 left right

private theorem acceptsAt_iff {position : Nat} {part : AnySignature} :
    (match multiKey.keys[position]? with
      | some key => key.verify message part
      | none => false) = true ↔ multiKey.AcceptsAt message position part := by
  unfold AcceptsAt
  cases multiKey.keys[position]? <;> simp

theorem verify_eq_true_iff {signature : MultiKeySignature} :
    multiKey.verify message signature = true ↔
      ∃ positions, multiKey.Accepts message signature positions := by
  unfold verify
  simp only [Bool.and_eq_true, decide_eq_true_eq, List.all_eq_true]
  constructor
  · rintro ⟨⟨⟨count, inside⟩, enough⟩, valid⟩
    have each := forall_mem_zip_iff.mp fun pair member => acceptsAt_iff.mp (valid pair member)
    exact ⟨_, Bitmap.lists_iff.mpr rfl, count, count ▸ enough, inside, each⟩
  · rintro ⟨positions, lists, count, enough, inside, valid⟩
    rw [Bitmap.lists_iff.mp lists]
    refine ⟨⟨⟨count, inside⟩, count ▸ enough⟩, fun pair member => ?_⟩
    exact acceptsAt_iff.mpr (forall_mem_zip_iff.mpr valid pair member)

/-- The signatures with the positions of their keys. -/
private theorem Accepts.exists_signers {signature : MultiKeySignature} {positions : List Nat}
    (accepted : multiKey.Accepts message signature positions) :
    ∃ signers : List (Fin multiKey.keys.length × AnySignature),
      signers.map (·.2) = signature.signatures ∧ (signers.map (·.1)).Pairwise (· < ·) ∧
        multiKey.threshold.toNat ≤ signers.length ∧
        ∀ signer ∈ signers, multiKey.keys[signer.1].verify message signer.2 = true := by
  obtain ⟨lists, count, enough, inside, valid⟩ := accepted
  -- every position is one of a key
  obtain ⟨places, rfl⟩ : ∃ places : List (Fin multiKey.keys.length),
      places.map Fin.val = positions :=
    ⟨positions.attach.map fun entry => ⟨entry.1, inside entry.1 entry.2⟩, by simp⟩
  rw [List.length_map] at count enough
  refine ⟨places.zip signature.signatures, ?_, ?_, ?_, ?_⟩
  · exact List.map_snd_zip count.ge
  · have ascending := lists.ascending
    rw [List.pairwise_map] at ascending
    rw [List.map_fst_zip count.le]
    exact ascending
  · rw [List.length_zip, ← count, Nat.min_self]
    exact enough
  · intro signer member
    obtain ⟨index, found⟩ := List.mem_iff_getElem?.mp member
    obtain ⟨place, part⟩ := List.getElem?_zip_eq_some.mp found
    have position : (places.map Fin.val)[index]? = some signer.1.val := by
      rw [List.getElem?_map, place, Option.map_some]
    obtain ⟨key, held, verifies⟩ := valid index _ _ position part
    obtain ⟨_, same⟩ := List.getElem?_eq_some_iff.mp held
    rw [Fin.getElem_fin, same]
    exact verifies

/-- Enough signers in ascending order of their positions make a signature that is accepted. -/
theorem exists_verify_of_signers {signers : List (UInt8 × AnySignature)}
    (ascending : (signers.map (·.1)).Pairwise (· < ·))
    (enough : multiKey.threshold.toNat ≤ signers.length)
    (accepted : ∀ signer ∈ signers, multiKey.AcceptsAt message signer.1.toNat signer.2) :
    ∃ signature, MultiKeySignature.ofSigners signers = .ok signature ∧
      multiKey.verify message signature = true := by
  have inside : ∀ signer ∈ signers, signer.1.toNat < Bitmap.capacity := by
    intro signer member
    obtain ⟨key, held, -⟩ := accepted signer member
    have place : signer.1.toNat < multiKey.keys.length := (List.getElem?_eq_some_iff.mp held).1
    exact Nat.lt_of_lt_of_le place multiKey.length_le
  obtain ⟨signature, made, positions, signatures⟩ :=
    MultiKeySignature.ofSigners_of_ascending ascending inside
  exact ⟨signature, made, verify_of_signers positions signatures enough accepted⟩

/-- A multi-key accepts the signatures of enough of its keys, read by position, and no others. -/
theorem verify_by_position (multiKey : MultiKey) (message : Bytes) :
    (∀ signature, multiKey.verify message signature = true ↔
      ∃ positions, multiKey.Accepts message signature positions) ∧
    (∀ signature, multiKey.verify message signature = true →
      ∃ signers : List (Fin multiKey.keys.length × AnySignature),
        signers.map (·.2) = signature.signatures ∧ (signers.map (·.1)).Pairwise (· < ·) ∧
          multiKey.threshold.toNat ≤ signers.length ∧
          ∀ signer ∈ signers, multiKey.keys[signer.1].verify message signer.2 = true) ∧
    (∀ signers : List (UInt8 × AnySignature),
      (signers.map (·.1)).Pairwise (· < ·) → multiKey.threshold.toNat ≤ signers.length →
      (∀ signer ∈ signers, multiKey.AcceptsAt message signer.1.toNat signer.2) →
      ∃ signature, MultiKeySignature.ofSigners signers = .ok signature ∧
        multiKey.verify message signature = true) := by
  refine ⟨fun signature => verify_eq_true_iff, fun signature verified => ?_,
    fun signers => exists_verify_of_signers⟩
  obtain ⟨positions, accepted⟩ := verify_eq_true_iff.mp verified
  exact accepted.exists_signers

def signingKey : AnyPublicKey := .ed25519
  ⟨.ofNatBE 32 0xd75a980182b10ab7d54bfed3c964073a0ee172f3daa62325af021a68f707511a⟩

def emptySignature : AnySignature := .ed25519 ⟨.ofNatBE 64
  (0xe5564300c360ac729086e2cc806e828a84877f1eb8e5d974d873e06522490155 * 2 ^ 256 +
    0x5fb8821590a33bacc61e39701cf9b46bd25bf5f0595bbe24655141438e7a100b)⟩

/-- Ten keys, of which the second and the last have signed. -/
def tenKeys : MultiKey where
  keys := [.ed25519 ⟨.zero 32⟩, signingKey] ++ List.replicate 7 (.ed25519 ⟨.zero 32⟩) ++
    [signingKey]
  threshold := 2
  within := by decide
  length_le := by decide

theorem signingKey_verify : signingKey.verify [] emptySignature = true := by
  decide +kernel

/-- Positions in two bytes of the bitmap. -/
theorem verify_tenKeys :
    ∃ signature, MultiKeySignature.ofSigners [(1, emptySignature), (9, emptySignature)] =
        .ok signature ∧ tenKeys.verify [] signature = true ∧
      ∃ signers : List (Fin tenKeys.keys.length × AnySignature),
        signers.map (·.2) = signature.signatures ∧ (signers.map (·.1)).Pairwise (· < ·) ∧
          tenKeys.threshold.toNat ≤ signers.length ∧
          ∀ signer ∈ signers, tenKeys.keys[signer.1].verify [] signer.2 = true := by
  obtain ⟨-, sound, complete⟩ := verify_by_position tenKeys []
  have accepted : ∀ signer ∈ [((1 : UInt8), emptySignature), (9, emptySignature)],
      tenKeys.AcceptsAt [] signer.1.toNat signer.2 := by
    simp only [List.forall_mem_cons]
    refine ⟨⟨signingKey, rfl, signingKey_verify⟩, ⟨signingKey, rfl, signingKey_verify⟩, ?_⟩
    exact List.forall_mem_nil _
  obtain ⟨signature, made, verified⟩ := complete [(1, emptySignature), (9, emptySignature)]
    (by decide) (by decide) accepted
  exact ⟨signature, made, verified, sound signature verified⟩

end MultiKey

end MoveWallet
