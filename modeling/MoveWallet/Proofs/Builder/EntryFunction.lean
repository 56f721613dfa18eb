import MoveWallet.Proofs.Builder.Cache
import MoveWallet.Proofs.Identifier

/-! # The function that a builder calls

A builder is given the text of a function id. What it looks up and what it calls is the function
that the text names, and a text that names none is refused before the node is asked.
-/

namespace MoveWallet

open Asking

/-- The call of a function with the arguments that its parameters take. -/
def FunctionId.call {ε : Type} (id : FunctionId) (abi : EntryFunctionAbi) (types : List TypeTag)
    (arguments : List Json) : Except (BuildError ε) EntryFunction := do
  let encodings ← (abi.encodeArguments types arguments).mapError .argument
  (EntryFunction.make id.module id.function types encodings).mapError .payload

/-- A call is of the function that it was made for. -/
theorem FunctionId.call_eq_ok {ε : Type} {id : FunctionId} {abi : EntryFunctionAbi}
    {types : List TypeTag} {arguments : List Json} {made : EntryFunction}
    (called : id.call (ε := ε) abi types arguments = .ok made) :
    made.module = id.module ∧ made.function = id.function := by
  obtain ⟨encodings, -, called⟩ := Outcome.bind_eq_ok_iff.mp called
  rw [Outcome.mapError_eq_ok_iff] at called
  obtain ⟨_, -, called⟩ := Outcome.bind_eq_ok_iff.mp called
  cases called
  exact ⟨rfl, rfl⟩

namespace Builder

section Named

variable {ε : Type} {node : Node ε} {session : Session} {text : String} {id : FunctionId}
  {types : List TypeTag} {arguments : List Json}

/-- The parameters of the function are looked up, and then it is called. -/
theorem outcome_entryFunction (parsed : FunctionId.parse? text = some id) :
    outcome (entryFunction node text types arguments) session =
      match outcome (node.cachedEntryFunction id) session with
      | (.ok abi, after) => (id.call abi types arguments, after)
      | (.error error, after) => (.error (.lookup error), after) := by
  unfold entryFunction
  rw [parsed]
  dsimp only
  rw [outcome_bind, outcome_asking]
  rcases outcome (node.cachedEntryFunction id) session with ⟨error | abi, after⟩
  · rfl
  · change outcome (checked _ _ >>= fun encodings => checked _ _) after =
      (id.call abi types arguments, after)
    rw [outcome_bind, outcome_checked, FunctionId.call]
    cases abi.encodeArguments types arguments with
    | error error => rfl
    | ok encodings => exact outcome_checked _ _ _

end Named

/-- The texts that are read as a function id are those that name it. The text of a function id is
read back between any blanks, and that of a module id as it is. For a text that names a function,
its parameters are remembered or are the one thing that is looked up, and the call is of this
function; any other text is refused without a lookup. -/
theorem entryFunction_of_named {ε : Type} :
    (∀ text id, FunctionId.parse? text = some id ↔ id.NamedBy text) ∧
    (∀ (id : FunctionId) (text : String),
      Text.Pads id.text.toList text.toList → FunctionId.parse? text = some id) ∧
    (∀ id : ModuleId, ModuleId.parse id.text = .ok id) ∧
    (∀ (node : Node ε) (session : Session) (text : String) (id : FunctionId)
      (types : List TypeTag) (arguments : List Json), id.NamedBy text →
      outcome (entryFunction node text types arguments) session =
        match session.cache.entryFunction? id with
        | some abi => (id.call abi types arguments, session)
        | none =>
          match node.entryFunction id with
          | .ok abi => (id.call abi types arguments, { session.record (.entryFunction id) with
              cache := session.cache.insertFunction id abi })
          | .error error => (.error (.lookup error), session.record (.entryFunction id))) ∧
    (∀ (id : FunctionId) (abi : EntryFunctionAbi) (types : List TypeTag) (arguments : List Json)
      (made : EntryFunction), id.call (ε := ε) abi types arguments = .ok made →
      made.module = id.module ∧ made.function = id.function) ∧
    ∀ (node : Node ε) (session : Session) (text : String) (types : List TypeTag)
      (arguments : List Json), (∀ id : FunctionId, ¬ id.NamedBy text) →
      outcome (entryFunction node text types arguments) session =
        (.error (.invalidFunctionId text), session) := by
  refine ⟨fun _ _ => FunctionId.parse?_eq_some_iff, fun _ _ => FunctionId.parse?_of_pads,
    ModuleId.parse_ownText, fun node session text id types arguments named => ?_,
    fun _ _ _ _ _ => FunctionId.call_eq_ok, fun node session text types arguments nameless => ?_⟩
  · rw [outcome_entryFunction (FunctionId.parse?_eq_some_iff.mpr named),
      Node.outcome_cachedEntryFunction]
    cases session.cache.entryFunction? id with
    | some abi => rfl
    | none => cases node.entryFunction id <;> rfl
  · have unread : FunctionId.parse? text = none := by
      rw [Option.eq_none_iff_forall_ne_some]
      intro id read
      exact nameless id (FunctionId.parse?_eq_some_iff.mp read)
    rw [entryFunction, unread]
    rfl

/-- A transfer is looked up and called, and with a third colon between its names it is refused. -/
theorem entryFunction_of_named_transfer :
    let id : FunctionId := ⟨⟨.ofNat 1, ⟨"coin", by decide⟩⟩, ⟨"transfer", by decide⟩⟩
    let abi : EntryFunctionAbi := ⟨1, 0, []⟩
    let node : Node Unit := ⟨fun _ => .error (), .error (), fun _ => .ok abi, fun _ => .error ()⟩
    ModuleId.parse "0x1::coin" = .ok id.module ∧
      (∃ made after, outcome (entryFunction node " 0x1::coin::transfer\n" [] []) .start =
        (.ok made, after) ∧ after.lookups = [.entryFunction id] ∧ made.module = id.module ∧
          made.function = id.function) ∧
      outcome (entryFunction node "0x1::coin:::transfer" [] []) .start =
        (.error (.invalidFunctionId "0x1::coin:::transfer"), .start) := by
  intro id abi node
  obtain ⟨reads, readsBack, moduleReadsBack, calls, owns, refuses⟩ :=
    entryFunction_of_named (ε := Unit)
  have pads : Text.Pads id.text.toList " 0x1::coin::transfer\n".toList := by
    refine ⟨[' '], ['\n'], List.forall_mem_singleton.mpr rfl, List.forall_mem_singleton.mpr rfl, ?_⟩
    decide +kernel
  have named := (reads _ _).mp (readsBack id _ pads)
  have unread : FunctionId.parse? "0x1::coin:::transfer" = none := by decide +kernel
  have nameless (other : FunctionId) : ¬ other.NamedBy "0x1::coin:::transfer" := by
    rw [← reads, unread]
    exact nofun
  refine ⟨moduleReadsBack id.module, ⟨_, _, calls node .start _ id [] [] named, ?_⟩,
    refuses node _ _ _ _ nameless⟩
  exact ⟨rfl, owns id abi [] [] _ rfl⟩

end Builder

end MoveWallet
