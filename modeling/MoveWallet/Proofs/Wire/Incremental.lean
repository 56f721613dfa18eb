import MoveWallet.Proofs.Wire.Canonical

/-! # Readers that more bytes do not mislead

A reader either runs out of bytes, and then says that it asked for more than there were, or its
outcome stays the same when more bytes follow. The law passes through sequences and alternatives,
so that it holds of every reader that is put together from the primitive ones. It is stated of two
readers: one that is bounded by the depth of nesting goes on as one with a larger bound does.
-/

namespace MoveWallet

namespace Reader

variable {α β : Type}

/-- The outcome of a reader that asked for more bytes than there were. -/
def RunsOut (outcome : Except DecodeError α) : Prop :=
  ∃ requested remaining,
    outcome = .error (.unexpectedEnd requested remaining) ∧ remaining < requested

/-- Unless a reader runs out of bytes, the longer one has the same outcome when more bytes follow,
and leaves them. -/
class Extends (longer reader : Reader α) : Prop where
  settled : ∀ input outcome rest, reader input = (outcome, rest) →
    RunsOut outcome ∨ ∀ more, longer (input ++ more) = (outcome, rest ++ more)

/-- A reader that more bytes do not mislead. -/
abbrev Incremental (reader : Reader α) : Prop := Extends reader reader

private theorem not_runsOut_ok {value : α} : ¬ RunsOut (.ok value) := by
  rintro ⟨_, _, same, _⟩
  cases same

private theorem runsOut_error_iff {error : DecodeError} :
    RunsOut (.error error : Except DecodeError α) ↔
      ∃ requested remaining,
        error = .unexpectedEnd requested remaining ∧ remaining < requested := by
  simp [RunsOut]

namespace Extends

variable {reader longer item longerItem : Reader α}

/-! ## Sequences and alternatives -/

instance pure (value : α) : Incremental (Pure.pure value) where
  settled input outcome rest ran := by
    cases ran
    exact .inr fun _ => rfl

instance fail (error : DecodeError) : Incremental (Reader.fail error : Reader α) where
  settled input outcome rest ran := by
    cases ran
    exact .inr fun _ => rfl

instance bind {next longerNext : α → Reader β} [first : Extends longer reader]
    [others : ∀ value, Extends (longerNext value) (next value)] :
    Extends (longer >>= longerNext) (reader >>= next) where
  settled input outcome rest ran := by
    rw [bind_apply] at ran
    rcases read : reader input with ⟨error | value, middle⟩
    · rw [read] at ran
      cases ran
      refine (first.settled _ _ _ read).imp (fun short => ?_) fun settled more => ?_
      · exact runsOut_error_iff.mpr (runsOut_error_iff.mp short)
      · rw [bind_apply, settled]
    · rw [read] at ran
      have settled := (first.settled _ _ _ read).resolve_left not_runsOut_ok
      refine ((others value).settled _ _ _ ran).imp_right fun settledOthers more => ?_
      rw [bind_apply, settled]
      exact settledOthers more

instance map {make : α → β} [Extends longer reader] :
    Extends (make <$> longer) (make <$> reader) := by
  rw [map_eq_pure_bind, map_eq_pure_bind]
  infer_instance

instance ite {condition : Prop} [Decidable condition] {other longerOther : Reader α}
    [first : Extends longer reader] [second : Extends longerOther other] :
    Extends (if condition then longer else longerOther) (if condition then reader else other) := by
  split
  · exact first
  · exact second

instance checked (typeName : String) (outcome : Except String α) :
    Incremental (Reader.checked typeName outcome) := by
  unfold Reader.checked
  split <;> infer_instance

/-! ## Primitive readers -/

/-- What is accepted is accepted before any other bytes if the reader is exact, and only running
out of bytes is left as a failure. -/
theorem of_exact {write : α → Bytes} {Fits : α → Prop} (exact : Exact reader write Fits)
    (short : ∀ input error rest, reader input = (.error error, rest) →
      ∃ requested remaining, error = .unexpectedEnd requested remaining ∧ remaining < requested) :
    Incremental reader where
  settled input outcome rest ran := by
    cases outcome with
    | ok value =>
      obtain ⟨fits, rfl⟩ := (exact _ _ _).mp ran
      refine .inr fun more => ?_
      rw [List.append_assoc]
      exact exact.read_write fits _
    | error error => exact .inl (runsOut_error_iff.mpr (short _ _ _ ran))

instance take (count : Nat) : Incremental (Reader.take count) := by
  refine of_exact (Exact.take count) fun input error rest ran => ?_
  unfold Reader.take at ran
  split at ran
  next => cases ran
  next short =>
    cases ran
    exact ⟨count, input.length, rfl, Nat.not_le.mp short⟩

instance fixed (size : Nat) : Incremental (Reader.fixed size) := by
  refine of_exact (Exact.fixed size) fun input error rest ran => ?_
  unfold Reader.fixed at ran
  split at ran
  next => cases ran
  next short =>
    cases ran
    exact ⟨size, input.length, rfl, Nat.not_le.mp short⟩

instance byte : Incremental Reader.byte := by
  unfold Reader.byte
  infer_instance

instance number (width : Nat) : Incremental (Reader.number width) := by
  unfold Reader.number
  infer_instance

instance bool : Incremental Reader.bool := by
  unfold Reader.bool
  infer_instance

instance groups (count shift value : Nat) : Incremental (Reader.groups count shift value) := by
  induction count generalizing shift value with
  | zero =>
    unfold Reader.groups
    infer_instance
  | succ count ih =>
    unfold Reader.groups
    dsimp only
    infer_instance

instance tag : Incremental Reader.tag := groups maxGroups 0 0

instance length : Incremental Reader.length := by
  change Incremental (Reader.tag >>= _)
  infer_instance

instance bytes : Incremental Reader.bytes := by
  unfold Reader.bytes
  infer_instance

instance text : Incremental Reader.text := by
  have decoded (bytes : Bytes) : Incremental (match Bytes.toText? bytes with
      | some text => Pure.pure text
      | none => Reader.fail .invalidUtf8) := by
    split <;> infer_instance
  unfold Reader.text
  infer_instance

instance sized (typeName : String) (size : Nat) : Incremental (Reader.sized typeName size) := by
  have fitted (bytes : Bytes) : Incremental (match FixedBytes.ofList? size bytes with
      | some value => Pure.pure value
      | none => Reader.fail (.invalidLength typeName size bytes.length)) := by
    split <;> infer_instance
  unfold Reader.sized
  infer_instance

instance many [Extends longerItem item] (count : Nat) :
    Extends (Reader.many longerItem count) (Reader.many item count) := by
  induction count with
  | zero =>
    unfold Reader.many
    infer_instance
  | succ count ih =>
    unfold Reader.many
    infer_instance

instance list [Extends longerItem item] : Extends (Reader.list longerItem) (Reader.list item) := by
  unfold Reader.list
  infer_instance

instance option [Incremental item] : Incremental (Reader.option item) := by
  unfold Reader.option
  infer_instance

end Extends

/-! ## Whole byte strings -/

theorem run_of_error {reader : Reader α} {input rest : Bytes} {error : DecodeError}
    (ran : reader input = (.error error, rest)) : run reader input = .error error := by
  unfold run
  rw [bind_apply, ran]

theorem run_of_trailing {reader : Reader α} {input rest : Bytes} {value : α}
    (ran : reader input = (.ok value, rest)) (left : rest ≠ []) :
    run reader input = .error (.trailingBytes rest.length) := by
  have unfinished : finish rest = (.error (.trailingBytes rest.length), rest) := by
    unfold finish
    rw [if_neg (by simpa using left)]
  unfold run
  rw [bind_apply, ran]
  dsimp only
  rw [bind_apply, unfinished]

/-- What is read of the front of an encoding misses the rest of it. -/
theorem Exact.runsOut_of_cut {reader : Reader α} {write : α → Bytes} {Fits : α → Prop}
    (exact : Exact reader write Fits) [incremental : Incremental reader] {value : α}
    (fits : Fits value) {cut rest : Bytes} {outcome : Except DecodeError α}
    (front : cut <+: write value) (proper : cut ≠ write value)
    (ran : reader cut = (outcome, rest)) : RunsOut outcome := by
  obtain ⟨missing, whole⟩ := front
  refine (incremental.settled _ _ _ ran).resolve_right fun settled => ?_
  have complete := exact.read_write fits []
  rw [List.append_nil, ← whole, settled missing, Prod.mk.injEq, List.append_eq_nil_iff] at complete
  obtain ⟨-, -, rfl⟩ := complete
  rw [List.append_nil] at whole
  exact proper whole

end Reader

end MoveWallet
