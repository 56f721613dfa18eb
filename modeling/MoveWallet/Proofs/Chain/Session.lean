import MoveWallet.Chain.Session
import Mathlib.Tactic

/-! # What asking a node leaves

A computation that asks a node has an outcome in each session, and it leaves a session behind. The
outcome of a sequence of steps is that of the first step that fails, and the lookups before it stay
recorded.
-/

namespace MoveWallet

namespace Asking

variable {ε α β : Type}

/-- The outcome of a computation in a session, and the session afterwards. -/
def outcome (action : Asking ε α) (session : Session) : Except ε α × Session :=
  action.run.run session

@[simp] theorem outcome_pure (value : α) (session : Session) :
    outcome (pure value : Asking ε α) session = (.ok value, session) := rfl

theorem outcome_bind (action : Asking ε α) (next : α → Asking ε β) (session : Session) :
    outcome (action >>= next) session =
      match outcome action session with
      | (.ok value, after) => outcome (next value) after
      | (.error error, after) => (.error error, after) := by
  change (match (outcome action session).1 with
    | .ok value => (next value).run.run
    | .error error => (pure (.error error) : StateM Session (Except ε β)).run)
    (outcome action session).2 = _
  rcases outcome action session with ⟨value | error, after⟩ <;> rfl

/-- A sequence succeeds when each step does in the session that the one before leaves. -/
theorem outcome_bind_eq_ok_iff {action : Asking ε α} {next : α → Asking ε β}
    {session after : Session} {value : β} :
    outcome (action >>= next) session = (.ok value, after) ↔
      ∃ first middle, outcome action session = (.ok first, middle) ∧
        outcome (next first) middle = (.ok value, after) := by
  rw [outcome_bind]
  rcases outcome action session with ⟨error | first, middle⟩
  · simp
  · constructor
    · intro rest
      exact ⟨first, middle, rfl, rest⟩
    · rintro ⟨_, _, same, rest⟩
      cases same
      exact rest

/-- A sequence fails when one of its steps does, and the lookups before it stay recorded. -/
theorem outcome_bind_eq_error_iff {action : Asking ε α} {next : α → Asking ε β}
    {session after : Session} {error : ε} :
    outcome (action >>= next) session = (.error error, after) ↔
      outcome action session = (.error error, after) ∨
        ∃ first middle, outcome action session = (.ok first, middle) ∧
          outcome (next first) middle = (.error error, after) := by
  rw [outcome_bind]
  rcases outcome action session with ⟨lost | first, middle⟩
  · simp
  · constructor
    · intro rest
      exact .inr ⟨first, middle, rfl, rest⟩
    · rintro (lost | ⟨_, _, same, rest⟩)
      · cases lost
      · cases same
        exact rest

/-- A last step that asks nothing does not fail. -/
theorem outcome_bind_pure_eq_error_iff {action : Asking ε α} {make : α → β}
    {session after : Session} {error : ε} :
    outcome (action >>= fun value => pure (make value)) session = (.error error, after) ↔
      outcome action session = (.error error, after) := by
  rw [outcome_bind_eq_error_iff]
  constructor
  · rintro (lost | ⟨_, _, -, lost⟩)
    · exact lost
    · cases lost
  · exact .inl

end Asking

namespace Session

/-- The lookups of sequence numbers so far, the last one in front. -/
def sequenceLookups (session : Session) : List Lookup :=
  session.lookups.filter Lookup.isSequenceNumber

/-- The session after one more lookup. -/
def record (session : Session) (lookup : Lookup) : Session :=
  { session with lookups := lookup :: session.lookups }

end Session

namespace Node

open Asking

variable {ε : Type} (node : Node ε) (session : Session)

/-- A lookup is recorded whether or not it is answered. -/
@[simp] theorem outcome_ask {α : Type} (lookup : Lookup) (answer : Except ε α) :
    outcome (ask lookup answer) session = (answer, session.record lookup) := by
  cases answer <;> rfl

@[simp] theorem outcome_askSequenceNumber (account : Address) :
    outcome (node.askSequenceNumber account) session =
      (node.sequenceNumber account, session.record (.sequenceNumber account)) :=
  outcome_ask session _ _

/-- The number of the chain is remembered, or asked for and remembered if there is an answer. -/
theorem outcome_cachedChainId :
    outcome node.cachedChainId session =
      match session.cache.chainId with
      | some chainId => (.ok chainId, session)
      | none =>
        match node.chainId with
        | .ok chainId =>
          (.ok chainId, { session.record .chainId with cache := session.cache.setChainId chainId })
        | .error error => (.error error, session.record .chainId) := by
  have start : outcome node.cachedChainId session =
      outcome (match session.cache.chainId with
        | some chainId => pure chainId
        | none => do
          let chainId ← node.askChainId
          modify fun session => { session with cache := session.cache.setChainId chainId }
          pure chainId : Asking ε UInt8) session := rfl
  rw [start]
  cases session.cache.chainId with
  | some chainId => rfl
  | none =>
    have asked : outcome node.askChainId session = (node.chainId, session.record .chainId) :=
      outcome_ask session _ _
    dsimp only
    rw [outcome_bind, asked]
    cases node.chainId <;> rfl

/-- The parameters of a function are remembered, or asked for and remembered if there is an
answer. -/
theorem outcome_cachedEntryFunction (function : FunctionId) :
    outcome (node.cachedEntryFunction function) session =
      match session.cache.entryFunction? function with
      | some abi => (.ok abi, session)
      | none =>
        match node.entryFunction function with
        | .ok abi =>
          (.ok abi, { session.record (.entryFunction function) with
            cache := session.cache.insertFunction function abi })
        | .error error => (.error error, session.record (.entryFunction function)) := by
  have start : outcome (node.cachedEntryFunction function) session =
      outcome (match session.cache.entryFunction? function with
        | some abi => pure abi
        | none => do
          let abi ← node.askEntryFunction function
          modify fun session =>
            { session with cache := session.cache.insertFunction function abi }
          pure abi : Asking ε EntryFunctionAbi) session := rfl
  rw [start]
  cases session.cache.entryFunction? function with
  | some abi => rfl
  | none =>
    have asked : outcome (node.askEntryFunction function) session =
        (node.entryFunction function, session.record (.entryFunction function)) :=
      outcome_ask session _ _
    dsimp only
    rw [outcome_bind, asked]
    cases node.entryFunction function <;> rfl

/-- Whatever the outcome, no sequence number is asked for on the way. -/
theorem sequenceLookups_cachedChainId :
    (outcome node.cachedChainId session).2.sequenceLookups = session.sequenceLookups := by
  rw [outcome_cachedChainId]
  cases session.cache.chainId with
  | some chainId => rfl
  | none => cases node.chainId <;> rfl

end Node

end MoveWallet
