import MoveWallet.Bytes.Basic

/-! # Scalars of BN254

The prime field that the circuits compute in, with the little-endian form of its elements.
-/

namespace MoveWallet

/-- The order of the scalar field of BN254. -/
def Scalar.modulus : Nat :=
  21888242871839275222246405745257275088548364400416034343698204186575808495617

theorem Scalar.modulus_pos : 0 < Scalar.modulus := by decide

abbrev Scalar := Fin Scalar.modulus

namespace Scalar

/-- A number reduced into the field. -/
def ofNat (n : Nat) : Scalar := ⟨n % modulus, Nat.mod_lt n modulus_pos⟩

def zero : Scalar := ofNat 0

/-- The scalar of a byte string of any length, least significant byte first. -/
def ofBytes (bytes : Bytes) : Scalar := ofNat (Bytes.toNatLE bytes)

/-- The 32 bytes of a scalar, least significant first. -/
def toBytes (scalar : Scalar) : FixedBytes 32 := FixedBytes.ofNatLE 32 scalar.val

def decimal (scalar : Scalar) : String := Nat.repr scalar.val

end Scalar

end MoveWallet
