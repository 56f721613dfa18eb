import MoveWallet.Poseidon.Grain

/-! # Poseidon

A permutation of a state of scalars in rounds: constants are added, lanes are raised to the fifth
power, and a matrix mixes them. The hash of `n` scalars is the first lane after permuting a zero
followed by the scalars.
-/

namespace MoveWallet.Poseidon

def fifthPower (lane : Scalar) : Scalar :=
  let square := lane * lane
  lane * (square * square)

def addConstants (constants state : List Scalar) : List Scalar :=
  List.zipWith (· + ·) state constants

/-- The power map on all lanes of a full round and on the first lane of a partial round. -/
def applyPower (full : Bool) : List Scalar → List Scalar
  | [] => []
  | first :: others =>
    fifthPower first :: if full then others.map fifthPower else others

def innerProduct (row state : List Scalar) : Scalar :=
  (List.zipWith (· * ·) row state).foldl (· + ·) Scalar.zero

def mix (matrix : List (List Scalar)) (state : List Scalar) : List Scalar :=
  matrix.map fun row => innerProduct row state

def round (matrix : List (List Scalar)) (full : Bool) (constants state : List Scalar) :
    List Scalar :=
  mix matrix (applyPower full (addConstants constants state))

/-- Whether a round is full: the first four and the last four are. -/
def Parameters.isFull (parameters : Parameters) (index : Nat) : Bool :=
  index < fullRounds / 2 || fullRounds / 2 + parameters.partialRounds ≤ index

/-- The permutation: a round for each `width` constants. -/
def Parameters.permute (parameters : Parameters) (state : List Scalar) : List Scalar :=
  (chunks parameters.width parameters.constants).zipIdx.foldl
    (fun state entry => round parameters.matrix (parameters.isFull entry.2) entry.1 state) state

def Parameters.hash? (parameters : Parameters) (inputs : List Scalar) : Option Scalar :=
  (parameters.permute (Scalar.zero :: inputs)).head?

/-- The hash of one to `maxArity` scalars. -/
def hash? (inputs : List Scalar) : Option Scalar := do
  let parameters ← parameters? inputs.length
  parameters.hash? inputs

end MoveWallet.Poseidon
