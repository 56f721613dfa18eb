import MoveWallet.Bytes.Basic

/-! # SHA3-256

The sponge over the Keccak permutation of 25 lanes of 64 bits, with a rate of 136 bytes and a
digest of 32 bytes.
-/

namespace MoveWallet.Sha3

/-- The lanes of a state, lane `(x, y)` at index `x + 5 * y`. -/
abbrev State := Array UInt64

/-- A lane; lanes outside the state are zero. -/
def State.lane (state : State) (index : Nat) : UInt64 := state.getD index 0

/-- Rotate a lane towards its high end. -/
def rotate (lane : UInt64) (distance : UInt64) : UInt64 :=
  if distance = 0 then lane else (lane <<< distance) ||| (lane >>> (64 - distance))

/-- The rotation distance of each lane. -/
def rotations : Array UInt64 :=
  #[0, 1, 62, 28, 27,
    36, 44, 6, 55, 20,
    3, 10, 43, 25, 39,
    41, 45, 15, 21, 8,
    18, 2, 61, 56, 14]

/-- The constants that tell the rounds apart. -/
def roundConstants : List UInt64 :=
  [0x0000000000000001, 0x0000000000008082, 0x800000000000808A, 0x8000000080008000,
    0x000000000000808B, 0x0000000080000001, 0x8000000080008081, 0x8000000000008009,
    0x000000000000008A, 0x0000000000000088, 0x0000000080008009, 0x000000008000000A,
    0x000000008000808B, 0x800000000000008B, 0x8000000000008089, 0x8000000000008003,
    0x8000000000008002, 0x8000000000000080, 0x000000000000800A, 0x800000008000000A,
    0x8000000080008081, 0x8000000000008080, 0x0000000080000001, 0x8000000080008008]

/-- A state given lane by lane. -/
def tabulate (lane : Nat → UInt64) : State := Array.ofFn fun index : Fin 25 => lane index.val

/-- Every lane takes the parity of two neighbouring columns. -/
def theta (state : State) : State :=
  let parity := Array.ofFn fun x : Fin 5 =>
    state.lane x ^^^ state.lane (x + 5) ^^^ state.lane (x + 10) ^^^ state.lane (x + 15) ^^^
      state.lane (x + 20)
  let effect := Array.ofFn fun x : Fin 5 =>
    parity.getD ((x.val + 4) % 5) 0 ^^^ rotate (parity.getD ((x.val + 1) % 5) 0) 1
  tabulate fun index => state.lane index ^^^ effect.getD (index % 5) 0

/-- Lanes are rotated and moved: the lane at `(x, y)` goes to `(y, 2 * x + 3 * y)`. -/
def rhoPi (state : State) : State :=
  tabulate fun index =>
    let x := index % 5
    let y := index / 5
    let source := (x + 3 * y) % 5 + 5 * x
    rotate (state.lane source) (rotations.getD source 0)

/-- Every lane takes the conjunction of the two lanes to its right, the first one inverted. -/
def chi (state : State) : State :=
  tabulate fun index =>
    let row := 5 * (index / 5)
    let x := index % 5
    state.lane index ^^^
      (~~~ state.lane (row + (x + 1) % 5) &&& state.lane (row + (x + 2) % 5))

def round (state : State) (constant : UInt64) : State :=
  (chi (rhoPi (theta state))).modify 0 (· ^^^ constant)

def permute (state : State) : State := roundConstants.foldl round state

/-- The bytes taken up by each permutation. -/
def rate : Nat := 136

/-- Take up a block: its lanes are added to the first lanes of the state. -/
def absorb (state : State) (block : Bytes) : State :=
  let lanes := ((chunks 8 block).map fun lane => UInt64.ofNat (Bytes.toNatLE lane)).toArray
  permute (tabulate fun index => state.lane index ^^^ lanes.getD index 0)

/-- The message with the bits `01` and the padding `10*1` behind it, up to a whole block. -/
def padded (message : Bytes) : Bytes :=
  let free := rate - message.length % rate
  if free = 1 then message ++ [0x86]
  else message ++ 0x06 :: List.replicate (free - 2) 0 ++ [0x80]

def absorbed (message : Bytes) : State :=
  (chunks rate (padded message)).foldl absorb (tabulate fun _ => 0)

/-- The digest of a message: the first four lanes. -/
def sha3_256 (message : Bytes) : FixedBytes 32 :=
  let state := absorbed message
  ⟨(List.range 4).flatMap fun index => Bytes.ofNatLE 8 (state.lane index).toNat, by
    simp [List.range, List.range.loop]⟩

end MoveWallet.Sha3
