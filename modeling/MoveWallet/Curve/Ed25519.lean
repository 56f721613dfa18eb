import MoveWallet.Curve.Modular
import MoveWallet.Hash.Sha2

/-! # Ed25519

Signatures over the twisted Edwards curve `-x² + y² = 1 + d x² y²` modulo `2 ^ 255 - 19`.
Verification is strict: neither point may have small order, and the commitment is compared byte by
byte with the recomputed one.
-/

namespace MoveWallet.Ed25519

open MoveWallet.Modular

def prime : Nat := Nat.pow 2 255 - 19

/-- The order of the group that the base point generates. -/
def groupOrder : Nat := Nat.pow 2 252 + 27742317777372353535851937790883648493

/-- The coefficient of the curve, `-121665 / 121666`. -/
def coefficient : Nat := (prime - 121665) * inverse prime 121666 % prime

/-- A square root of `-1`. -/
def rootOfMinusOne : Nat := power prime 2 ((prime - 1) / 4)

/-- A point in extended coordinates: `x / z`, `y / z` and the product `t = x y / z`. -/
structure Point where
  x : Nat
  y : Nat
  z : Nat
  t : Nat

def Point.zero : Point := ⟨0, 1, 1, 0⟩

/-- The sum of two points. The formula is complete: it has no exceptions. -/
def Point.add (p q : Point) : Point :=
  let a := sub prime p.y p.x * sub prime q.y q.x % prime
  let b := (p.y + p.x) * (q.y + q.x) % prime
  let c := 2 * p.t * q.t % prime * coefficient % prime
  let d := 2 * p.z * q.z % prime
  let e := sub prime b a
  let f := sub prime d c
  let g := (d + c) % prime
  let h := (b + a) % prime
  ⟨e * f % prime, g * h % prime, f * g % prime, e * h % prime⟩

def Point.neg (p : Point) : Point := ⟨sub prime 0 p.x % prime, p.y, p.z, sub prime 0 p.t % prime⟩

def Point.mul (n : Nat) (p : Point) : Point :=
  (bits (n.log2 + 1) n).foldl
    (fun sum bit =>
      let double := sum.add sum
      if bit then double.add p else double)
    Point.zero

/-- The 32-byte form: the coordinate `y` with the parity of `x` in the top bit. -/
def Point.compress (p : Point) : FixedBytes 32 :=
  let inverseZ := inverse prime p.z
  let x := p.x * inverseZ % prime
  let y := p.y * inverseZ % prime
  FixedBytes.ofNatLE 32 (y + Nat.pow 2 255 * (x % 2))

/-- A square root of `u / v`, if there is one. -/
def rootOfQuotient? (u v : Nat) : Option Nat :=
  let v3 := v * v % prime * v % prime
  let v7 := v3 * v3 % prime * v % prime
  let candidate := u * v3 % prime * power prime (u * v7 % prime) ((prime - 5) / 8) % prime
  let square := v * (candidate * candidate % prime) % prime
  if square = u then some candidate
  else if square = sub prime 0 u % prime then some (candidate * rootOfMinusOne % prime)
  else none

/-- The point with the given 32-byte form. The coordinate `y` need not be reduced, and the sign of
`x` is ignored when `x` is zero. -/
def Point.decompress? (bytes : FixedBytes 32) : Option Point := do
  let value := bytes.toNatLE
  let sign := value / Nat.pow 2 255
  let y := value % Nat.pow 2 255 % prime
  let square := y * y % prime
  let root ← rootOfQuotient? (sub prime square 1) ((coefficient * square + 1) % prime)
  let x := if root % 2 = sign then root else sub prime 0 root % prime
  some ⟨x, y, 1, x * y % prime⟩

/-- Whether eight times the point is neutral. -/
def Point.hasSmallOrder (p : Point) : Bool :=
  let q := p.mul 8
  q.x % prime = 0 && q.y = q.z

/-- The base point: the even point with `y = 4 / 5`. -/
def basePoint : Point :=
  (Point.decompress? (FixedBytes.ofNatLE 32 (4 * inverse prime 5 % prime))).getD Point.zero

/-- The secret scalar and the nonce key of a seed. -/
def expand (seed : FixedBytes 32) : Nat × Bytes :=
  let digest := (Sha2.sha512 seed.toList).toList
  let low := Bytes.toNatLE (digest.take 32)
  -- the three lowest bits and the highest are cleared, the second highest is set
  ((low % Nat.pow 2 254 / 8 * 8) + Nat.pow 2 254, digest.drop 32)

/-- A SHA-512 digest as a scalar. -/
def hashToScalar (message : Bytes) : Nat := (Sha2.sha512 message).toNatLE % groupOrder

/-- The public key of a seed. -/
def publicKey (seed : FixedBytes 32) : FixedBytes 32 := (basePoint.mul (expand seed).1).compress

/-- The signature of a message under a seed: the commitment and then the scalar. -/
def sign (seed : FixedBytes 32) (message : Bytes) : FixedBytes 64 :=
  let (secret, nonceKey) := expand seed
  let key := (basePoint.mul secret).compress
  let nonce := hashToScalar (nonceKey ++ message)
  let commitment := (basePoint.mul nonce).compress
  let challenge := hashToScalar (commitment.toList ++ key.toList ++ message)
  let scalar := FixedBytes.ofNatLE 32 ((nonce + challenge * secret) % groupOrder)
  ⟨commitment.toList ++ scalar.toList, by simp [commitment.length_eq, scalar.length_eq]⟩

/-- Whether a signature of a message fits a key. The scalar is not bounded here: a caller that wants
one signature for each commitment refuses scalars that are not reduced. -/
def verify (key : FixedBytes 32) (message : Bytes) (signature : FixedBytes 64) : Bool :=
  let commitment := FixedBytes.ofPrefix 32 signature.toList
  let scalar := Bytes.toNatLE (signature.toList.drop 32)
  match Point.decompress? key, Point.decompress? commitment with
  | some keyPoint, some commitmentPoint =>
    if keyPoint.hasSmallOrder || commitmentPoint.hasSmallOrder then false
    else
      let challenge := hashToScalar (commitment.toList ++ key.toList ++ message)
      let recomputed := (basePoint.mul scalar).add (keyPoint.neg.mul challenge)
      recomputed.compress = commitment
  | _, _ => false

end MoveWallet.Ed25519
