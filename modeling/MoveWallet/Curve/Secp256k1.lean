import MoveWallet.Curve.Modular
import MoveWallet.Hash.Hmac

/-! # Secp256k1

ECDSA over the curve `y² = x³ + 7`. Digests are signed with nonces derived from the key and the
digest, and a signature is made and accepted with the lower of the two possible values of `s` only.
-/

namespace MoveWallet.Secp256k1

open MoveWallet.Modular

def prime : Nat := Nat.pow 2 256 - Nat.pow 2 32 - 977

def groupOrder : Nat := 0xFFFFFFFFFFFFFFFFFFFFFFFFFFFFFFFEBAAEDCE6AF48A03BBFD25E8CD0364141

/-- A point in Jacobian coordinates: `x / z²` and `y / z³`, and the neutral point when `z` is
zero. -/
structure Point where
  x : Nat
  y : Nat
  z : Nat

def Point.zero : Point := ⟨1, 1, 0⟩

def Point.double (p : Point) : Point :=
  if p.z = 0 ∨ p.y = 0 then Point.zero
  else
    let ySquare := p.y * p.y % prime
    let s := 4 * p.x * ySquare % prime
    let m := 3 * p.x * p.x % prime
    let x := sub prime (m * m % prime) (2 * s % prime)
    let y := sub prime (m * sub prime s x % prime) (8 * ySquare * ySquare % prime)
    ⟨x, y, 2 * p.y * p.z % prime⟩

def Point.add (p q : Point) : Point :=
  if p.z = 0 then q
  else if q.z = 0 then p
  else
    let pz2 := p.z * p.z % prime
    let qz2 := q.z * q.z % prime
    let u1 := p.x * qz2 % prime
    let u2 := q.x * pz2 % prime
    let s1 := p.y * qz2 % prime * q.z % prime
    let s2 := q.y * pz2 % prime * p.z % prime
    if u1 = u2 then if s1 = s2 then p.double else Point.zero
    else
      let h := sub prime u2 u1
      let r := sub prime s2 s1
      let h2 := h * h % prime
      let h3 := h2 * h % prime
      let v := u1 * h2 % prime
      let x := sub prime (sub prime (r * r % prime) h3) (2 * v % prime)
      let y := sub prime (r * sub prime v x % prime) (s1 * h3 % prime)
      ⟨x, y, p.z * q.z % prime * h % prime⟩

def Point.mul (n : Nat) (p : Point) : Point :=
  (bits (n.log2 + 1) n).foldl
    (fun sum bit =>
      let double := sum.double
      if bit then double.add p else double)
    Point.zero

/-- The affine coordinates of a point other than the neutral one. -/
def Point.affine (p : Point) : Nat × Nat :=
  let inverseZ := inverse prime p.z
  let square := inverseZ * inverseZ % prime
  (p.x * square % prime, p.y * square % prime * inverseZ % prime)

def basePoint : Point :=
  ⟨0x79BE667EF9DCBBAC55A06295CE870B07029BFCDB2DCE28D959F2815B16F81798,
    0x483ADA7726A3C4655DA4FBFC0E1108A8FD17B448A68554199C47D08FFB10D4B8, 1⟩

/-- Whether affine coordinates are reduced and satisfy the equation of the curve. -/
def onCurve (x y : Nat) : Bool :=
  x < prime && y < prime && y * y % prime = (x * x % prime * x + 7) % prime

/-- Whether 65 bytes are the uncompressed form of a point: the tag 4 and both coordinates. -/
def isPublicKey (bytes : FixedBytes 65) : Bool :=
  bytes.toList.head? = some 4 &&
    onCurve (Bytes.toNatBE ((bytes.toList.drop 1).take 32)) (Bytes.toNatBE (bytes.toList.drop 33))

/-- Whether a number is a secret key: not zero and below the group order. -/
def isScalar (n : Nat) : Bool := 0 < n && n < groupOrder

/-- The uncompressed public key of a secret key. -/
def publicKey (secret : Nat) : FixedBytes 65 :=
  let (x, y) := (basePoint.mul secret).affine
  ⟨4 :: (Bytes.ofNatBE 32 x ++ Bytes.ofNatBE 32 y), by simp⟩

/-- The compressed public key of a secret key: the parity of `y` in the tag, and `x`. -/
def compressedPublicKey (secret : Nat) : FixedBytes 33 :=
  let (x, y) := (basePoint.mul secret).affine
  ⟨(if y % 2 = 0 then 2 else 3) :: Bytes.ofNatBE 32 x, by simp⟩

/-- The state of the nonce generator. -/
structure Generator where
  key : Bytes
  value : Bytes

/-- Mix data into the generator. -/
def Generator.update (state : Generator) (data : Bytes) : Generator :=
  let key := (Hmac.sha256 state.key (state.value ++ data)).toList
  ⟨key, (Hmac.sha256 key state.value).toList⟩

/-- The generator of a secret key and a digest. -/
def Generator.start (secret : Nat) (digest : FixedBytes 32) : Generator :=
  let seed := Bytes.ofNatBE 32 secret ++ digest.toList
  let empty : Generator := ⟨List.replicate 32 0, List.replicate 32 1⟩
  (empty.update (0 :: seed)).update (1 :: seed)

/-- The pair of a signature for one nonce, unless one of its halves is zero. Of `s` and its
opposite the lower one is taken. -/
def signWithNonce? (secret z nonce : Nat) : Option (Nat × Nat) :=
  let r := (basePoint.mul nonce).affine.1 % groupOrder
  let s := inverse groupOrder nonce * (z + r * secret) % groupOrder
  if r = 0 || s = 0 then none
  else some (r, if groupOrder / 2 < s then groupOrder - s else s)

/-- The first signature that the generator's nonces give. A nonce is refused with probability
below `2 ^ (-127)`, so a few attempts always suffice. -/
def signWith (secret z : Nat) : (attempts : Nat) → Generator → Nat × Nat
  | 0, _ => (0, 0)
  | attempts + 1, state =>
    let value := (Hmac.sha256 state.key state.value).toList
    let nonce := Bytes.toNatBE value
    let next : Generator := Generator.update ⟨state.key, value⟩ [0]
    if isScalar nonce then
      match signWithNonce? secret z nonce with
      | some pair => pair
      | none => signWith secret z attempts next
    else signWith secret z attempts next

/-- The signature of a digest: `r` and `s`, most significant byte first. -/
def sign (secret : Nat) (digest : FixedBytes 32) : FixedBytes 64 :=
  let z := digest.toNatBE % groupOrder
  let (r, s) := signWith secret z 16 (Generator.start secret digest)
  ⟨Bytes.ofNatBE 32 r ++ Bytes.ofNatBE 32 s, by simp⟩

/-- Verification of a signature of a digest under an uncompressed public key. -/
def verify (key : FixedBytes 65) (digest : FixedBytes 32) (signature : FixedBytes 64) : Bool :=
  let r := Bytes.toNatBE (signature.toList.take 32)
  let s := Bytes.toNatBE (signature.toList.drop 32)
  if ¬ isPublicKey key ∨ ¬ isScalar r ∨ ¬ isScalar s ∨ groupOrder / 2 < s then false
  else
    let keyPoint : Point :=
      ⟨Bytes.toNatBE ((key.toList.drop 1).take 32), Bytes.toNatBE (key.toList.drop 33), 1⟩
    let inverseS := inverse groupOrder s
    let z := digest.toNatBE % groupOrder
    let sum := (basePoint.mul (z * inverseS % groupOrder)).add
      (keyPoint.mul (r * inverseS % groupOrder))
    sum.z ≠ 0 && sum.affine.1 % groupOrder = r

end MoveWallet.Secp256k1
