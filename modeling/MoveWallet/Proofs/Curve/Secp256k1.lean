import Mathlib.AlgebraicGeometry.EllipticCurve.Affine.Point
import Mathlib.GroupTheory.OrderOfElement
import MoveWallet.Proofs.Bytes.Basic
import MoveWallet.Proofs.Curve.Primality

/-! # The public key of a secret key is a point

Doubling and adding in Jacobian coordinates are the group law of the curve, so repeated doubling
multiplies in the group. The base point has the prime order of the group, so no secret key takes it
to the neutral point, and the coordinates of the multiple satisfy the equation.
-/

namespace MoveWallet.Secp256k1

open MoveWallet.Modular WeierstrassCurve.Affine
open WeierstrassCurve.Affine.Point (add_of_X_ne add_of_Y_eq add_self_of_Y_eq add_self_of_Y_ne)

abbrev BaseField : Type := ZMod prime

/-- The curve `y² = x³ + 7`. -/
def curve : WeierstrassCurve.Affine BaseField := ⟨0, 0, 0, 0, 7⟩

instance : NeZero (2 : BaseField) := ⟨by decide +kernel⟩

section Law

private theorem equation_iff {x y : BaseField} : curve.Equation x y ↔ y ^ 2 = x ^ 3 + 7 := by
  simp [curve, WeierstrassCurve.Affine.equation_iff]

/-- No point of the curve is singular. -/
private theorem nonsingular_iff {x y : BaseField} : curve.Nonsingular x y ↔ y ^ 2 = x ^ 3 + 7 := by
  have discriminant : curve.Δ ≠ 0 := by
    have value : curve.Δ = -21168 := by
      simp [curve, WeierstrassCurve.Δ, WeierstrassCurve.b₂, WeierstrassCurve.b₄,
        WeierstrassCurve.b₆, WeierstrassCurve.b₈]
      norm_num
    rw [value]
    decide +kernel
  rw [← equation_iff_nonsingular_of_Δ_ne_zero discriminant, equation_iff]

@[simp] theorem negY_eq (x y : BaseField) : curve.negY x y = -y := by
  simp [curve, negY]

/-- Only the points of order two are their own opposites. -/
private theorem eq_neg_iff {y : BaseField} : y = -y ↔ y = 0 := by
  rw [eq_neg_iff_add_eq_zero, ← two_mul, mul_eq_zero, or_iff_right two_ne_zero]

private theorem ne_negY {x y : BaseField} (proper : y ≠ 0) : y ≠ curve.negY x y := by
  rw [negY_eq]
  exact eq_neg_iff.not.mpr proper

private theorem addX_eq (x₁ x₂ slope : BaseField) :
    curve.addX x₁ x₂ slope = slope ^ 2 - x₁ - x₂ := by
  simp [curve, addX]

private theorem addY_eq (x₁ x₂ y₁ slope : BaseField) :
    curve.addY x₁ x₂ y₁ slope = slope * (x₁ - curve.addX x₁ x₂ slope) - y₁ := by
  rw [addY, negY_eq, negAddY]
  ring

private theorem slope_tangent {x y : BaseField} (proper : y ≠ 0) :
    curve.slope x x y y = 3 * x ^ 2 / (2 * y) := by
  rw [slope_of_Y_ne rfl (ne_negY proper), negY_eq, sub_neg_eq_add, ← two_mul]
  simp [curve]

end Law

/-- The coordinates that are compared with zero are reduced. -/
structure Point.IsReduced (p : Point) : Prop where
  y : p.y < prime
  z : p.z < prime

/-- A point in Jacobian coordinates stands for a point of the curve. The neutral point has many
forms, and so has every other point. -/
inductive Represents (p : Point) : curve.Point → Prop
  | neutral (zero : p.z = 0) : Represents p 0
  | proper {x y : BaseField} (on : curve.Nonsingular x y) (reduced : p.IsReduced)
      (nonzero : (p.z : BaseField) ≠ 0) (xScaled : (p.x : BaseField) = x * p.z ^ 2)
      (yScaled : (p.y : BaseField) = y * p.z ^ 3) : Represents p (.some x y on)

section Coordinates

variable {p q : Point}

private theorem mod_le (n : Nat) : n % prime ≤ prime := (Nat.mod_lt n prime_prime.pos).le

private theorem sub_le (a b : Nat) : sub prime a b ≤ prime := (sub_lt prime_prime.pos a b).le

/-- Points are scaled to the same `z` when their `x` are compared. -/
private theorem scaledX_eq_iff :
    p.x * (q.z * q.z % prime) % prime = q.x * (p.z * p.z % prime) % prime ↔
    (p.x * q.z ^ 2 : BaseField) = q.x * p.z ^ 2 := by
  rw [← ZMod.natCast_eq_natCast_iff']
  simp [pow_two]

private theorem scaledY_eq_iff : p.y * (q.z * q.z % prime) % prime * q.z % prime =
      q.y * (p.z * p.z % prime) % prime * p.z % prime ↔
    (p.y * q.z ^ 3 : BaseField) = q.y * p.z ^ 3 := by
  rw [← ZMod.natCast_eq_natCast_iff']
  simp [pow_succ, mul_assoc]

/-- The double of a point other than the neutral one and those of order two. -/
theorem cast_double (zNonzero : p.z ≠ 0) (yNonzero : p.y ≠ 0) :
    let s : BaseField := 4 * p.x * p.y ^ 2
    let m : BaseField := 3 * p.x ^ 2
    let x : BaseField := m ^ 2 - 2 * s
    (p.double.x : BaseField) = x ∧ (p.double.y : BaseField) = m * (s - x) - 8 * p.y ^ 4 ∧
      (p.double.z : BaseField) = 2 * p.y * p.z := by
  have distinct : ¬(p.z = 0 ∨ p.y = 0) := not_or.mpr ⟨zNonzero, yNonzero⟩
  simp only [Point.double, if_neg distinct, cast_sub (mod_le _), cast_sub (sub_le _ _),
    ZMod.natCast_mod, Nat.cast_mul, Nat.cast_ofNat]
  refine ⟨?_, ?_, trivial⟩ <;> ring

/-- The sum of two points with different `x`. -/
theorem cast_add (pNonzero : p.z ≠ 0) (qNonzero : q.z ≠ 0)
    (different : (p.x * q.z ^ 2 : BaseField) ≠ q.x * p.z ^ 2) :
    let h : BaseField := q.x * p.z ^ 2 - p.x * q.z ^ 2
    let r : BaseField := q.y * p.z ^ 3 - p.y * q.z ^ 3
    let v : BaseField := p.x * q.z ^ 2 * h ^ 2
    let x : BaseField := r ^ 2 - h ^ 3 - 2 * v
    ((p.add q).x : BaseField) = x ∧
      ((p.add q).y : BaseField) = r * (v - x) - p.y * q.z ^ 3 * h ^ 3 ∧
      ((p.add q).z : BaseField) = p.z * q.z * h := by
  simp only [Point.add, if_neg pNonzero, if_neg qNonzero, scaledX_eq_iff, if_neg different,
    cast_sub (mod_le _), cast_sub (sub_le _ _), ZMod.natCast_mod, Nat.cast_mul, Nat.cast_ofNat]
  refine ⟨?_, ?_, ?_⟩ <;> ring

/-- Where two points have the same `x`, the sum is the double or the neutral point. -/
private theorem add_of_cast_eq (pNonzero : p.z ≠ 0) (qNonzero : q.z ≠ 0)
    (same : (p.x * q.z ^ 2 : BaseField) = q.x * p.z ^ 2) :
    p.add q = if (p.y * q.z ^ 3 : BaseField) = q.y * p.z ^ 3 then p.double else Point.zero := by
  simp only [Point.add, if_neg pNonzero, if_neg qNonzero, scaledX_eq_iff, scaledY_eq_iff,
    if_pos same]

private theorem zero_isReduced : Point.zero.IsReduced := ⟨by decide +kernel, by decide +kernel⟩

private theorem double_isReduced (p : Point) : p.double.IsReduced := by
  rw [Point.double]
  split
  · exact zero_isReduced
  · exact ⟨sub_lt prime_prime.pos _ _, Nat.mod_lt _ prime_prime.pos⟩

private theorem add_isReduced (pReduced : p.IsReduced) (qReduced : q.IsReduced) :
    (p.add q).IsReduced := by
  simp only [Point.add]
  split_ifs
  · exact qReduced
  · exact pReduced
  · exact double_isReduced p
  · exact zero_isReduced
  · exact ⟨sub_lt prime_prime.pos _ _, Nat.mod_lt _ prime_prime.pos⟩

end Coordinates

namespace Represents

variable {p q : Point} {P Q : curve.Point}

/-- Doubling is the group law on the tangent. -/
theorem double (represents : Represents p P) : Represents p.double (P + P) := by
  cases represents with
  | neutral zero =>
    rw [Point.double, if_pos (.inl zero), add_zero]
    exact .neutral rfl
  | @proper x y on reduced nonzero xScaled yScaled =>
    have zNonzero : p.z ≠ 0 := (cast_eq_zero_iff reduced.z).not.mp nonzero
    by_cases vertical : p.y = 0
    · have opposite : y = curve.negY x y := by
        rw [vertical, Nat.cast_zero, eq_comm, mul_eq_zero,
          or_iff_left (pow_ne_zero 3 nonzero)] at yScaled
        rw [yScaled, negY_eq, neg_zero]
      rw [Point.double, if_pos (.inr vertical), add_self_of_Y_eq opposite]
      exact .neutral rfl
    · have yNonzero : (p.y : BaseField) ≠ 0 := (cast_eq_zero_iff reduced.y).not.mpr vertical
      have proper : y ≠ 0 := fun zero => yNonzero (by rw [yScaled, zero, zero_mul])
      obtain ⟨xCast, yCast, zCast⟩ := cast_double zNonzero vertical
      rw [add_self_of_Y_ne (ne_negY proper)]
      refine .proper _ (double_isReduced p) ?_ ?_ ?_
      · rw [zCast]
        exact mul_ne_zero (mul_ne_zero two_ne_zero yNonzero) nonzero
      · rw [xCast, zCast, addX_eq, slope_tangent proper, xScaled, yScaled]
        field_simp
        ring
      · rw [yCast, zCast, addY_eq, addX_eq, slope_tangent proper, xScaled, yScaled]
        field_simp
        ring

/-- Adding is the group law: on the chord, on the tangent, or on the vertical line. -/
theorem add (left : Represents p P) (right : Represents q Q) : Represents (p.add q) (P + Q) := by
  cases left with
  | neutral zero =>
    rw [Point.add, if_pos zero, zero_add]
    exact right
  | @proper x₁ y₁ on₁ reduced₁ nonzero₁ xScaled₁ yScaled₁ =>
    have left : Represents p (.some x₁ y₁ on₁) :=
      .proper on₁ reduced₁ nonzero₁ xScaled₁ yScaled₁
    have zNonzero₁ : p.z ≠ 0 := (cast_eq_zero_iff reduced₁.z).not.mp nonzero₁
    cases right with
    | neutral zero =>
      rw [Point.add, if_neg zNonzero₁, if_pos zero, add_zero]
      exact left
    | @proper x₂ y₂ on₂ reduced₂ nonzero₂ xScaled₂ yScaled₂ =>
      have zNonzero₂ : q.z ≠ 0 := (cast_eq_zero_iff reduced₂.z).not.mp nonzero₂
      -- Both points are scaled to the same `z`.
      have compareX : (p.x * q.z ^ 2 : BaseField) = q.x * p.z ^ 2 ↔ x₁ = x₂ := by
        rw [xScaled₁, xScaled₂, mul_right_comm, mul_left_inj' (pow_ne_zero 2 nonzero₁),
          mul_left_inj' (pow_ne_zero 2 nonzero₂)]
      have compareY : (p.y * q.z ^ 3 : BaseField) = q.y * p.z ^ 3 ↔ y₁ = y₂ := by
        rw [yScaled₁, yScaled₂, mul_right_comm, mul_left_inj' (pow_ne_zero 3 nonzero₁),
          mul_left_inj' (pow_ne_zero 3 nonzero₂)]
      by_cases same : x₁ = x₂
      · rw [add_of_cast_eq zNonzero₁ zNonzero₂ (compareX.mpr same)]
        by_cases equal : y₁ = y₂
        · subst same equal
          rw [if_pos (compareY.mpr rfl)]
          exact left.double
        · have opposite : y₁ = curve.negY x₂ y₂ :=
            (Y_eq_of_X_eq on₁.1 on₂.1 same).resolve_left equal
          rw [if_neg (compareY.not.mpr equal), add_of_Y_eq same opposite]
          exact .neutral rfl
      · have apart := compareX.not.mpr same
        obtain ⟨xCast, yCast, zCast⟩ := cast_add zNonzero₁ zNonzero₂ apart
        have distance : x₁ - x₂ ≠ 0 := sub_ne_zero.mpr same
        rw [add_of_X_ne same]
        refine .proper _ (add_isReduced reduced₁ reduced₂) ?_ ?_ ?_
        · rw [zCast]
          exact mul_ne_zero (mul_ne_zero nonzero₁ nonzero₂) (sub_ne_zero.mpr (Ne.symm apart))
        · rw [xCast, zCast, addX_eq, slope_of_X_ne same, xScaled₁, xScaled₂, yScaled₁, yScaled₂]
          field_simp
          ring
        · rw [yCast, zCast, addY_eq, addX_eq, slope_of_X_ne same, xScaled₁, xScaled₂, yScaled₁,
            yScaled₂]
          field_simp
          ring

/-- Repeated doubling multiplies in the group. -/
theorem mul (represents : Represents p P) (n : Nat) : Represents (p.mul n) (n • P) := by
  have start : Represents Point.zero (0 • P) := by
    rw [zero_nsmul]
    exact .neutral rfl
  have next (number : Nat) (sum : Point) (digit : Bool) (holds : Represents sum (number • P)) :
      Represents (let double := sum.double
        if digit then double.add p else double) ((2 * number + digit.toNat) • P) := by
    have doubled : Represents sum.double ((2 * number) • P) := by
      rw [two_mul, add_nsmul]
      exact holds.double
    cases digit with
    | false => exact doubled
    | true =>
      have added := doubled.add represents
      rwa [← succ_nsmul] at added
  exact foldl_bits_log2 next start n

end Represents

private theorem onCurve_iff {x y : Nat} :
    onCurve x y = true ↔ x < prime ∧ y < prime ∧ curve.Nonsingular x y := by
  have equation : y * y % prime = (x * x % prime * x + 7) % prime ↔
      (y ^ 2 : BaseField) = x ^ 3 + 7 := by
    rw [← ZMod.natCast_eq_natCast_iff']
    simp [pow_succ]
  rw [onCurve, Bool.and_eq_true, Bool.and_eq_true, decide_eq_true_eq, decide_eq_true_eq,
    decide_eq_true_eq, and_assoc, equation, nonsingular_iff]

/-- The affine coordinates are those of the point that is stood for. -/
theorem cast_affine {p : Point} {x y : BaseField} {on : curve.Nonsingular x y}
    (represents : Represents p (.some x y on)) :
    (p.affine.1 : BaseField) = x ∧ (p.affine.2 : BaseField) = y := by
  cases represents with
  | proper _ _ nonzero xScaled yScaled =>
    have large : 2 < prime := by decide +kernel
    simp only [Point.affine, ZMod.natCast_mod, Nat.cast_mul, cast_inverse large, xScaled, yScaled]
    constructor <;> field_simp

private theorem onCurve_affine {p : Point} {P : curve.Point} (represents : Represents p P)
    (nonzero : P ≠ 0) : onCurve p.affine.1 p.affine.2 = true := by
  cases P with
  | zero => exact absurd rfl nonzero
  | some x y on =>
    obtain ⟨xCast, yCast⟩ := cast_affine represents
    rw [onCurve_iff, xCast, yCast]
    exact ⟨Nat.mod_lt _ prime_prime.pos, Nat.mod_lt _ prime_prime.pos, on⟩

section Base

/-- The point of the curve that the base point stands for. -/
def base : curve.Point :=
  .some basePoint.x basePoint.y (onCurve_iff.mp (by decide +kernel)).2.2

private theorem represents_basePoint : Represents basePoint base :=
  .proper _ ⟨by decide +kernel, by decide +kernel⟩ (by decide +kernel) (by decide +kernel)
    (by decide +kernel)

private theorem groupOrder_nsmul_base : groupOrder • base = 0 := by
  have multiple := represents_basePoint.mul groupOrder
  have neutral : (basePoint.mul groupOrder).z = 0 := by
    decide +kernel
  generalize groupOrder • base = P at multiple
  cases multiple with
  | neutral => rfl
  | proper _ _ nonzero =>
    rw [neutral, Nat.cast_zero] at nonzero
    exact absurd rfl nonzero

/-- The base point has the order of the group. -/
theorem addOrderOf_base : addOrderOf base = groupOrder :=
  have : Fact groupOrder.Prime := ⟨groupOrder_prime⟩
  addOrderOf_eq_prime groupOrder_nsmul_base (WeierstrassCurve.Affine.Point.some_ne_zero _)

private theorem nsmul_base_ne_zero {n : Nat} (scalar : isScalar n = true) : n • base ≠ 0 := by
  rw [isScalar, Bool.and_eq_true, decide_eq_true_eq, decide_eq_true_eq] at scalar
  rw [Ne, ← addOrderOf_dvd_iff_nsmul_eq_zero, addOrderOf_base]
  exact Nat.not_dvd_of_pos_of_lt scalar.1 scalar.2

end Base

/-- The public key of a secret key passes the check of public keys. -/
theorem isPublicKey_publicKey {secret : Nat} (scalar : isScalar secret = true) :
    isPublicKey (publicKey secret) = true := by
  have on := onCurve_affine (represents_basePoint.mul secret) (nsmul_base_ne_zero scalar)
  obtain ⟨xReduced, yReduced, -⟩ := onCurve_iff.mp on
  have fits {n : Nat} (reduced : n < prime) : Bytes.toNatBE (Bytes.ofNatBE 32 n) = n := by
    rw [Bytes.toNatBE_ofNatBE]
    exact Nat.mod_eq_of_lt (reduced.trans (by decide +kernel))
  rw [isPublicKey, publicKey, Bool.and_eq_true]
  refine ⟨rfl, ?_⟩
  simpa [fits xReduced, fits yReduced] using on

end MoveWallet.Secp256k1
