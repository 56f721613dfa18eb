import Mathlib.Data.Matrix.Mul
import Mathlib.Data.ZMod.Basic
import MoveWallet.Proofs.Poseidon.Arity

/-! # The phases of Poseidon

The permutation goes over the constants once and tells by the number of a round whether it is full.
Here it is described without numbers of rounds: as full rounds, then partial rounds and then full
rounds again, each of which takes the next constants off a list, on vectors of scalars that a matrix
multiplies. Both agree for tables of any content, and in the end no constant is left.
-/

namespace MoveWallet

namespace Poseidon

open scoped Fin.CommRing

instance : NeZero Scalar.modulus := ⟨Scalar.modulus_pos.ne'⟩

/-! ## The phases -/

/-- The lanes of a state and the constants that no round has used so far. -/
structure Stage (width : Nat) where
  unused : List Scalar
  lanes : Fin width → Scalar

section Phases

variable {arity : Nat}

/-- A round takes the next constants, one for each lane, and adds them. All lanes of a full round
and the first lane of a partial one are raised to the fifth power, and the matrix multiplies the
lanes. -/
def Round (matrix : Matrix (Fin (arity + 1)) (Fin (arity + 1)) Scalar) (full : Bool)
    (first next : Stage (arity + 1)) : Prop :=
  ∃ constants : Fin (arity + 1) → Scalar, first.unused = List.ofFn constants ++ next.unused ∧
    next.lanes = matrix.mulVec fun lane =>
      if full = true ∨ lane = 0 then (first.lanes lane + constants lane) ^ 5
      else first.lanes lane + constants lane

/-- A number of rounds of one kind. -/
inductive Rounds (matrix : Matrix (Fin (arity + 1)) (Fin (arity + 1)) Scalar) (full : Bool) :
    Nat → Stage (arity + 1) → Stage (arity + 1) → Prop
  | nil (stage : Stage (arity + 1)) : Rounds matrix full 0 stage stage
  | cons {first middle last : Stage (arity + 1)} {count : Nat} : Round matrix full first middle →
      Rounds matrix full count middle last → Rounds matrix full (count + 1) first last

/-- Four full rounds, the partial rounds, and four full rounds. -/
def Phases (matrix : Matrix (Fin (arity + 1)) (Fin (arity + 1)) Scalar) (partialRounds : Nat)
    (first last : Stage (arity + 1)) : Prop :=
  ∃ second third, Rounds matrix true 4 first second ∧
    Rounds matrix false partialRounds second third ∧ Rounds matrix true 4 third last

variable {matrix : Matrix (Fin (arity + 1)) (Fin (arity + 1)) Scalar} {full : Bool}
  {first next next' last last' : Stage (arity + 1)} {count partialRounds : Nat}

/-! ### There is one way through the phases -/

private theorem exists_ofFn_eq {α : Type} {items : List α} {count : Nat}
    (exact : items.length = count) : ∃ item : Fin count → α, List.ofFn item = items := by
  subst exact
  exact ⟨items.get, List.ofFn_get items⟩

/-- There is a round as long as there are constants for all lanes, and it uses so many. -/
private theorem exists_round (matrix : Matrix (Fin (arity + 1)) (Fin (arity + 1)) Scalar)
    (full : Bool)
    (enough : arity + 1 ≤ first.unused.length) : ∃ next, Round matrix full first next ∧
      first.unused.length = next.unused.length + (arity + 1) := by
  obtain ⟨constants, taken⟩ := exists_ofFn_eq (List.length_take_of_le enough)
  refine ⟨⟨first.unused.drop (arity + 1), _⟩, ⟨constants, ?_, rfl⟩, ?_⟩
  · rw [taken, List.take_append_drop]
  · rw [List.length_drop]
    omega

private theorem exists_rounds (matrix : Matrix (Fin (arity + 1)) (Fin (arity + 1)) Scalar)
    (full : Bool) (count : Nat) (enough : count * (arity + 1) ≤ first.unused.length) :
    ∃ last, Rounds matrix full count first last ∧
      first.unused.length = last.unused.length + count * (arity + 1) := by
  induction count generalizing first with
  | zero => exact ⟨first, .nil first, by omega⟩
  | succ count ih =>
    rw [Nat.succ_mul] at enough ⊢
    obtain ⟨next, round, left⟩ := exists_round matrix full (Nat.le_of_add_left_le enough)
    have others : count * (arity + 1) ≤ next.unused.length := by omega
    obtain ⟨last, rounds, left'⟩ := ih others
    exact ⟨last, .cons round rounds, by omega⟩

theorem Round.unique (round : Round matrix full first next)
    (round' : Round matrix full first next') : next = next' := by
  obtain ⟨constants, taken, lanes⟩ := round
  obtain ⟨constants', taken', lanes'⟩ := round'
  obtain ⟨same, left⟩ := List.append_inj (taken.symm.trans taken') (by simp)
  obtain rfl := List.ofFn_inj.mp same
  obtain ⟨unused, lanes⟩ := next
  obtain ⟨unused', lanes'⟩ := next'
  simp_all

theorem Rounds.unique (rounds : Rounds matrix full count first last)
    (rounds' : Rounds matrix full count first last') : last = last' := by
  induction rounds with
  | nil => cases rounds' with | nil => rfl
  | cons round _ ih =>
    cases rounds' with
    | cons round' others =>
      obtain rfl := round.unique round'
      exact ih others

theorem Phases.unique (phases : Phases matrix partialRounds first last)
    (phases' : Phases matrix partialRounds first last') : last = last' := by
  obtain ⟨second, third, opening, middle, closing⟩ := phases
  obtain ⟨second', third', opening', middle', closing'⟩ := phases'
  obtain rfl := opening.unique opening'
  obtain rfl := middle.unique middle'
  exact closing.unique closing'

/-- Constants for all rounds are used up by the phases. -/
private theorem exists_phases (matrix : Matrix (Fin (arity + 1)) (Fin (arity + 1)) Scalar)
    (partialRounds : Nat) (first : Stage (arity + 1))
    (exact : first.unused.length = (arity + 1) * (8 + partialRounds)) :
    ∃ lanes, Phases matrix partialRounds first ⟨[], lanes⟩ := by
  have total : first.unused.length =
      4 * (arity + 1) + partialRounds * (arity + 1) + 4 * (arity + 1) := by
    rw [exact]
    ring
  have enough : 4 * (arity + 1) ≤ first.unused.length := by omega
  obtain ⟨second, opening, left⟩ := exists_rounds matrix true 4 enough
  have enough' : partialRounds * (arity + 1) ≤ second.unused.length := by omega
  obtain ⟨third, middle, left'⟩ := exists_rounds matrix false partialRounds enough'
  have enough'' : 4 * (arity + 1) ≤ third.unused.length := by omega
  obtain ⟨⟨unused, lanes⟩, closing, left''⟩ := exists_rounds matrix true 4 enough''
  have none : unused.length = 0 := by
    dsimp only at left''
    omega
  obtain rfl := List.eq_nil_of_length_eq_zero none
  exact ⟨lanes, second, third, opening, middle, closing⟩

end Phases

/-! ## The loop -/

section Loop

variable {arity : Nat} {matrix : Matrix (Fin (arity + 1)) (Fin (arity + 1)) Scalar} {full : Bool}
  {first next last : Stage (arity + 1)} {count partialRounds : Nat}

def Parameters.ofMatrix (partialRounds : Nat) (constants : List Scalar)
    (matrix : Matrix (Fin (arity + 1)) (Fin (arity + 1)) Scalar) : Parameters :=
  ⟨arity + 1, partialRounds, constants, List.ofFn fun row => List.ofFn (matrix row)⟩

private theorem fifthPower_eq (lane : Scalar) : fifthPower lane = lane ^ 5 := by
  unfold fifthPower
  ring

private theorem zipWith_ofFn {α β γ : Type} (combine : α → β → γ) (left : Fin count → α)
    (right : Fin count → β) : List.zipWith combine (List.ofFn left) (List.ofFn right) =
      List.ofFn fun place => combine (left place) (right place) := by
  apply List.ext_getElem <;> simp

private theorem addConstants_ofFn (constants lanes : Fin count → Scalar) :
    addConstants (List.ofFn constants) (List.ofFn lanes) =
      List.ofFn fun lane => lanes lane + constants lane :=
  zipWith_ofFn ..

private theorem applyPower_ofFn (full : Bool) (lanes : Fin (arity + 1) → Scalar) :
    applyPower full (List.ofFn lanes) =
      List.ofFn fun lane => if full = true ∨ lane = 0 then lanes lane ^ 5 else lanes lane := by
  rw [List.ofFn_succ, List.ofFn_succ, applyPower, fifthPower_eq]
  cases full with
  | false => simp
  | true => simp [List.map_ofFn, Function.comp_def, fifthPower_eq]

private theorem innerProduct_ofFn (row lanes : Fin count → Scalar) :
    innerProduct (List.ofFn row) (List.ofFn lanes) = row ⬝ᵥ lanes := by
  rw [innerProduct, zipWith_ofFn]
  exact List.sum_eq_foldl.symm.trans List.sum_ofFn

/-- A round of lists of scalars is one of vectors. -/
private theorem round_ofFn (constants lanes : Fin (arity + 1) → Scalar) :
    round (List.ofFn fun row => List.ofFn (matrix row)) full (List.ofFn constants)
        (List.ofFn lanes) =
      List.ofFn (matrix.mulVec fun lane =>
        if full = true ∨ lane = 0 then (lanes lane + constants lane) ^ 5
        else lanes lane + constants lane) := by
  rw [round, addConstants_ofFn, applyPower_ofFn, mix, List.map_ofFn]
  congr 1
  funext row
  exact innerProduct_ofFn ..

/-- The rounds of a permutation from the round with the given number on. -/
def Parameters.loop (parameters : Parameters) (index : Nat) (constants state : List Scalar) :
    List Scalar :=
  ((chunks parameters.width constants).zipIdx index).foldl
    (fun state entry => round parameters.matrix (parameters.isFull entry.2) entry.1 state) state

section Rounds

variable {constants : List Scalar}

private theorem loop_of_round {index : Nat} (round : Round matrix full first next)
    (kind : (Parameters.ofMatrix partialRounds constants matrix).isFull index = full) :
    (Parameters.ofMatrix partialRounds constants matrix).loop index first.unused
        (List.ofFn first.lanes) =
      (Parameters.ofMatrix partialRounds constants matrix).loop (index + 1) next.unused
        (List.ofFn next.lanes) := by
  obtain ⟨added, taken, lanes⟩ := round
  have pieces : chunks (Parameters.ofMatrix partialRounds constants matrix).width first.unused =
      List.ofFn added ::
        chunks (Parameters.ofMatrix partialRounds constants matrix).width next.unused := by
    rw [taken]
    exact chunks_append List.length_ofFn (Nat.succ_pos arity) next.unused
  have state : Poseidon.round (Parameters.ofMatrix partialRounds constants matrix).matrix full
      (List.ofFn added) (List.ofFn first.lanes) = List.ofFn next.lanes := by
    rw [lanes]
    exact round_ofFn ..
  rw [Parameters.loop, pieces, List.zipIdx_cons, List.foldl_cons, kind, state]
  rfl

/-- Rounds whose numbers are all of one kind. -/
private theorem loop_of_rounds {index : Nat} (rounds : Rounds matrix full count first last)
    (kind : ∀ place < count,
      (Parameters.ofMatrix partialRounds constants matrix).isFull (index + place) = full) :
    (Parameters.ofMatrix partialRounds constants matrix).loop index first.unused
        (List.ofFn first.lanes) =
      (Parameters.ofMatrix partialRounds constants matrix).loop (index + count) last.unused
        (List.ofFn last.lanes) := by
  induction rounds generalizing index with
  | nil => rfl
  | @cons first middle last count round _ ih =>
    have others : ∀ place < count, (Parameters.ofMatrix partialRounds constants matrix).isFull
        (index + 1 + place) = full := by
      intro place inside
      rw [Nat.add_assoc, Nat.add_comm 1]
      exact kind (place + 1) (Nat.succ_lt_succ inside)
    have here : (Parameters.ofMatrix partialRounds constants matrix).isFull index = full :=
      kind 0 (Nat.succ_pos count)
    rw [loop_of_round round here, ih others, Nat.add_assoc, Nat.add_comm 1]

/-- The numbers of the rounds tell the phases apart. -/
theorem permute_of_phases (phases : Phases matrix partialRounds first last)
    (empty : last.unused = []) :
    (Parameters.ofMatrix partialRounds first.unused matrix).permute (List.ofFn first.lanes) =
      List.ofFn last.lanes := by
  obtain ⟨second, third, opening, middle, closing⟩ := phases
  have kind (index : Nat) : (Parameters.ofMatrix partialRounds first.unused matrix).isFull index =
      decide (index < 4 ∨ 4 + partialRounds ≤ index) := by
    rw [Bool.decide_or]
    rfl
  calc (Parameters.ofMatrix partialRounds first.unused matrix).permute (List.ofFn first.lanes)
    _ = (Parameters.ofMatrix partialRounds first.unused matrix).loop 0 first.unused
          (List.ofFn first.lanes) := rfl
    _ = (Parameters.ofMatrix partialRounds first.unused matrix).loop (0 + 4) second.unused
          (List.ofFn second.lanes) := by
      refine loop_of_rounds opening fun place inside => ?_
      rw [kind, decide_eq_true_eq]
      omega
    _ = (Parameters.ofMatrix partialRounds first.unused matrix).loop (0 + 4 + partialRounds)
          third.unused (List.ofFn third.lanes) := by
      refine loop_of_rounds middle fun place inside => ?_
      rw [kind, decide_eq_false_iff_not]
      omega
    _ = (Parameters.ofMatrix partialRounds first.unused matrix).loop (0 + 4 + partialRounds + 4)
          last.unused (List.ofFn last.lanes) := by
      refine loop_of_rounds closing fun place inside => ?_
      rw [kind, decide_eq_true_eq]
      omega
    _ = List.ofFn last.lanes := by
      rw [empty]
      rfl

end Rounds

end Loop

/-! ## The hash -/

/-- Before the first round the lanes are a zero and the inputs. -/
def Stage.start (constants inputs : List Scalar) : Stage (inputs.length + 1) :=
  ⟨constants, (0 :: inputs).get⟩

/-- The hash is the first lane after the phases. -/
theorem hash?_of_phases {constants inputs : List Scalar}
    {matrix : Matrix (Fin (inputs.length + 1)) (Fin (inputs.length + 1)) Scalar}
    {partialRounds : Nat} {lanes : Fin (inputs.length + 1) → Scalar}
    (phases : Phases matrix partialRounds (.start constants inputs) ⟨[], lanes⟩) :
    (Parameters.ofMatrix partialRounds constants matrix).hash? inputs = some (lanes 0) := by
  have start : List.ofFn (Stage.start constants inputs).lanes = Scalar.zero :: inputs :=
    List.ofFn_get (0 :: inputs)
  have permuted : (Parameters.ofMatrix partialRounds constants matrix).permute
      (List.ofFn (Stage.start constants inputs).lanes) = List.ofFn lanes :=
    permute_of_phases phases rfl
  rw [Parameters.hash?, ← start, permuted, List.ofFn_succ, List.head?_cons]

/-- All rows of the matrix have a place for each lane. -/
private theorem length_of_mem_matrix {width partialRounds : Nat} {row : List Scalar}
    (listed : row ∈ (generate width partialRounds).matrix) : row.length = width := by
  rw [generate, List.mem_map] at listed
  obtain ⟨_, _, rfl⟩ := listed
  rw [List.length_map, Register.length_draw]

private theorem length_constants_generate (width partialRounds : Nat) :
    (generate width partialRounds).constants.length = width * (8 + partialRounds) := by
  rw [generate, Register.length_draw]
  rfl

private theorem width_generate (width partialRounds : Nat) :
    (generate width partialRounds).width = width := by
  rw [generate]

private theorem partialRounds_generate (width partialRounds : Nat) :
    (generate width partialRounds).partialRounds = partialRounds := by
  rw [generate]

/-- As many rows as places in each of them are the rows of a matrix. -/
private theorem exists_rows_eq {α : Type} {rows : List (List α)} {width : Nat}
    (count : rows.length = width) (square : ∀ row ∈ rows, row.length = width) :
    ∃ matrix : Matrix (Fin width) (Fin width) α,
      (List.ofFn fun row => List.ofFn (matrix row)) = rows := by
  obtain ⟨row, rfl⟩ := exists_ofFn_eq count
  have each (place : Fin width) : ∃ entry : Fin width → α, List.ofFn entry = row place :=
    exists_ofFn_eq (square _ (List.mem_ofFn.mpr ⟨place, rfl⟩))
  choose matrix same using each
  exact ⟨matrix, by simp only [same]⟩

/-- The parameters of a width are constants for all rounds and a square matrix. -/
theorem exists_generate (arity partialRounds : Nat) :
    ∃ (constants : List Scalar) (matrix : Matrix (Fin (arity + 1)) (Fin (arity + 1)) Scalar),
      constants.length = (arity + 1) * (8 + partialRounds) ∧
        generate (arity + 1) partialRounds = .ofMatrix partialRounds constants matrix := by
  obtain ⟨matrix, rows⟩ :=
    exists_rows_eq (length_matrix_generate (arity + 1) partialRounds) fun _ => length_of_mem_matrix
  have all := length_constants_generate (arity + 1) partialRounds
  have width := width_generate (arity + 1) partialRounds
  have rounds := partialRounds_generate (arity + 1) partialRounds
  -- from here on it does not matter how the parameters are drawn
  generalize generate (arity + 1) partialRounds = made at rows all width rounds ⊢
  obtain ⟨_, _, constants, _⟩ := made
  cases width
  cases rounds
  cases rows
  exact ⟨constants, matrix, all, rfl⟩

/-- There are parameters for one to twelve inputs. -/
theorem exists_parameters {arity : Nat} (nonempty : 1 ≤ arity) (few : arity ≤ 12) :
    ∃ (partialRounds : Nat) (constants : List Scalar)
      (matrix : Matrix (Fin (arity + 1)) (Fin (arity + 1)) Scalar),
      partialRoundCounts[arity - 1]? = some partialRounds ∧
        constants.length = (arity + 1) * (8 + partialRounds) ∧
        parameters? arity = some (.ofMatrix partialRounds constants matrix) := by
  obtain ⟨index, rfl⟩ := Nat.exists_eq_succ_of_ne_zero (Nat.ne_of_gt nonempty)
  have listed := List.getElem?_eq_getElem (show index < partialRoundCounts.length from few)
  obtain ⟨constants, matrix, all, made⟩ := exists_generate (index + 1) partialRoundCounts[index]
  exact ⟨_, constants, matrix, listed, all, (parameters?_succ listed).trans (congrArg some made)⟩

private theorem parameters?_eq_none {arity : Nat} (unsupported : arity = 0 ∨ 12 < arity) :
    parameters? arity = none := by
  rcases unsupported with rfl | many
  · rfl
  · obtain ⟨index, rfl⟩ := Nat.exists_eq_succ_of_ne_zero (Nat.ne_zero_of_lt many)
    have outside : tables.length ≤ index := by
      rw [tables, List.length_map, List.length_zipIdx]
      exact Nat.le_of_lt_succ many
    rw [parameters?, List.getElem?_eq_none outside]
    rfl

/-- The hash of one to twelve inputs, for whatever constants and matrix of their sizes, is the first
lane after four full rounds, the partial rounds and four full rounds, which use each of the
constants once. Any other number of inputs is refused. -/
theorem hash_phases :
    (∀ (inputs : List Scalar) (partialRounds : Nat) (constants : List Scalar)
      (matrix : Matrix (Fin (inputs.length + 1)) (Fin (inputs.length + 1)) Scalar),
      constants.length = (inputs.length + 1) * (8 + partialRounds) →
        ∃ lanes,
          (∀ last, Phases matrix partialRounds (.start constants inputs) last ↔
            last = ⟨[], lanes⟩) ∧
          (Parameters.ofMatrix partialRounds constants matrix).hash? inputs = some (lanes 0)) ∧
    (∀ inputs : List Scalar, 1 ≤ inputs.length → inputs.length ≤ 12 →
      ∃ partialRounds constants matrix lanes,
        partialRoundCounts[inputs.length - 1]? = some partialRounds ∧
        constants.length = (inputs.length + 1) * (8 + partialRounds) ∧
        parameters? inputs.length = some (.ofMatrix partialRounds constants matrix) ∧
        Phases matrix partialRounds (.start constants inputs) ⟨[], lanes⟩ ∧
        hash inputs = .ok (lanes 0)) ∧
    ∀ inputs : List Scalar, inputs.length = 0 ∨ 12 < inputs.length →
      hash inputs = .error (.unsupportedArity inputs.length) := by
  refine ⟨?_, ?_, ?_⟩
  · intro inputs partialRounds constants matrix exact
    obtain ⟨lanes, phases⟩ := exists_phases matrix partialRounds (.start constants inputs) exact
    refine ⟨lanes, fun last => ⟨fun phases' => phases'.unique phases, ?_⟩, hash?_of_phases phases⟩
    rintro rfl
    exact phases
  · intro inputs nonempty few
    obtain ⟨partialRounds, constants, matrix, listed, exact, parameters⟩ :=
      exists_parameters nonempty few
    obtain ⟨lanes, phases⟩ := exists_phases matrix partialRounds (.start constants inputs) exact
    refine ⟨partialRounds, constants, matrix, lanes, listed, exact, parameters, phases, ?_⟩
    rw [hash, hash?, parameters, Option.bind_eq_bind, Option.bind_some, hash?_of_phases phases]
  · intro inputs unsupported
    rw [hash, hash?, parameters?_eq_none unsupported]
    rfl

/-- One input with made-up constants, a made-up matrix and one partial round; the same input has a
hash, and no inputs have none. -/
theorem hash_phases_seven :
    ((List.range 18).map Scalar.ofNat).length = ([Scalar.ofNat 7].length + 1) * (8 + 1) ∧
    (∃ lanes,
      (∀ last, Phases (fun row column => Scalar.ofNat (1 + row.val + column.val)) 1
        (.start ((List.range 18).map Scalar.ofNat) [Scalar.ofNat 7]) last ↔ last = ⟨[], lanes⟩) ∧
      lanes 0 = Scalar.ofNat
        18768264137653401590594913783651350002585295694418204582485419402419643940195) ∧
    (1 ≤ [Scalar.ofNat 7].length ∧ [Scalar.ofNat 7].length ≤ 12 ∧
      ∃ digest, hash [Scalar.ofNat 7] = .ok digest) ∧
    hash [] = .error (.unsupportedArity 0) := by
  have exact : ((List.range 18).map Scalar.ofNat).length =
      ([Scalar.ofNat 7].length + 1) * (8 + 1) := rfl
  have few : [Scalar.ofNat 7].length ≤ 12 := by decide
  refine ⟨exact, ?_, ⟨le_rfl, few, ?_⟩, hash_phases.2.2 [] (.inl rfl)⟩
  · obtain ⟨lanes, phases, first⟩ := hash_phases.1 [Scalar.ofNat 7] 1 _
      (fun row column => Scalar.ofNat (1 + row.val + column.val)) exact
    refine ⟨lanes, phases, Option.some.inj (first.symm.trans ?_)⟩
    decide +kernel
  · obtain ⟨_, _, _, lanes, _, _, _, _, hashed⟩ := hash_phases.2.1 [Scalar.ofNat 7] le_rfl few
    exact ⟨lanes 0, hashed⟩

end Poseidon

end MoveWallet
