import MoveWallet.MultiKey.Basic
import MoveWallet.Proofs.MultiKey.Bitmap

/-! # Signatures of multi-keys

Signatures with their positions form a signature of a multi-key exactly when the positions ascend
and are in range; the signature then has these positions and signatures in this order. It is
accepted when each position holds a key that accepts the signature beside it.
-/

namespace MoveWallet

namespace MultiKeySignature

theorem checkAscending_eq_ok_iff {positions : List UInt8} :
    checkAscending positions = .ok () ↔ positions.Pairwise (· < ·) := by
  induction positions with
  | nil => simp [checkAscending]
  | cons previous rest ih =>
    cases rest with
    | nil => simp [checkAscending]
    | cons next rest =>
      unfold checkAscending
      by_cases falls : next ≤ previous
      · have broken : ¬ previous < next := UInt8.not_lt.mpr falls
        simp [falls, broken]
      · have rises : previous < next := UInt8.not_le.mp falls
        rw [if_neg falls, ih, List.pairwise_cons (a := previous), iff_and_self,
          List.forall_mem_cons]
        intro ascending
        refine ⟨rises, fun position member => ?_⟩
        exact UInt8.lt_trans rises ((List.pairwise_cons.mp ascending).1 position member)

/-- Signers in ascending order of positions in range form a signature. -/
theorem ofSigners_of_ascending {signers : List (UInt8 × AnySignature)}
    (ascending : (signers.map (·.1)).Pairwise (· < ·))
    (inside : ∀ signer ∈ signers, signer.1.toNat < Bitmap.capacity) :
    ∃ signature, ofSigners signers = .ok signature ∧
      signature.positions = signers.map (·.1.toNat) ∧
      signature.signatures = signers.map (·.2) := by
  have checked := checkAscending_eq_ok_iff.mpr ascending
  have made : ∃ bitmap, Bitmap.ofPositions (signers.map (·.1)) = .ok bitmap := by
    refine ⟨_, Bitmap.ofPositions_eq_ok_iff.mpr ⟨?_, ?_, rfl⟩⟩
    · exact List.forall_mem_map.mpr inside
    · exact ascending.imp fun below => UInt8.ne_of_lt below
  obtain ⟨bitmap, made⟩ := made
  have counted : bitmap.count = (signers.map (·.2)).length := by
    simp [Bitmap.count_ofPositions made]
  refine ⟨⟨signers.map (·.2), bitmap, counted⟩, ?_, ?_, rfl⟩
  · simp only [ofSigners, checked, made]
    exact dif_pos counted
  · change bitmap.positions = _
    rw [Bitmap.positions_ofPositions made ascending, List.map_map]
    rfl

end MultiKeySignature

namespace MultiKey

/-- Enough signatures, each accepted by the key at its position, are accepted together. -/
theorem verify_of_signers {multiKey : MultiKey} {message : Bytes} {signature : MultiKeySignature}
    {signers : List (UInt8 × AnySignature)}
    (positions : signature.positions = signers.map (·.1.toNat))
    (signatures : signature.signatures = signers.map (·.2))
    (enough : multiKey.threshold.toNat ≤ signers.length)
    (accepted : ∀ signer ∈ signers, ∃ key, multiKey.keys[signer.1.toNat]? = some key ∧
      key.verify message signer.2 = true) :
    multiKey.verify message signature = true := by
  have positions' : signature.bitmap.positions = signers.map (·.1.toNat) := positions
  have paired : (signers.map (·.1.toNat)).zip (signers.map (·.2)) =
      signers.map fun signer => (signer.1.toNat, signer.2) := List.zip_map' ..
  unfold verify
  simp only [positions', signatures, paired, List.length_map, decide_true, Bool.true_and,
    Bool.and_eq_true, List.all_map, List.all_eq_true, decide_eq_true_eq, Function.comp_apply]
  refine ⟨⟨?_, enough⟩, ?_⟩
  · intro signer member
    obtain ⟨key, held, -⟩ := accepted signer member
    exact (List.getElem?_eq_some_iff.mp held).1
  · intro signer member
    obtain ⟨key, held, valid⟩ := accepted signer member
    rw [held]
    exact valid

end MultiKey

end MoveWallet
