import MoveWallet.Proofs.Builder.Nonce

/-! # What a builder remembers

A builder remembers the number of the chain and the parameters of functions and hands them to the
next builder. Neither changes on a chain, so all that is remembered is what the chain would answer.
Because of this invariant the outcome of a step is the same whatever is remembered, except that an
answer may be missing when the chain is offline.
-/

namespace MoveWallet

open Asking

namespace Chain

variable {chain : Chain}

private theorem answer_eq_ok_iff {α : Type} {told : Except ChainError α} {value : α} :
    chain.answer told = .ok value ↔ chain.isOffline = false ∧ told = .ok value := by
  unfold answer
  cases chain.isOffline <;> simp

private theorem sequenceNumber_eq_ok_iff {account : Address} {number : UInt64} :
    chain.node.sequenceNumber account = .ok number ↔
      chain.isOffline = false ∧ chain.sequenceNumber? account = some number := by
  rw [node, answer_eq_ok_iff]
  cases chain.sequenceNumber? account <;> simp

private theorem entryFunction_eq_ok_iff {function : FunctionId} {abi : EntryFunctionAbi} :
    chain.node.entryFunction function = .ok abi ↔
      chain.isOffline = false ∧ chain.functions.lookup function = some abi := by
  rw [node, answer_eq_ok_iff]
  cases chain.functions.lookup function <;> simp

end Chain

namespace ChainCache

/-- All that is remembered is what the chain would answer. -/
structure Faithful (cache : ChainCache) (chain : Chain) : Prop where
  chainId : ∀ number, cache.chainId = some number → number = chain.chainId
  function : ∀ function abi, cache.entryFunction? function = some abi →
    chain.functions.lookup function = some abi

namespace Faithful

variable {cache : ChainCache} {chain : Chain}

theorem empty (chain : Chain) : ChainCache.empty.Faithful chain where
  chainId _ remembered := nomatch remembered
  function _ _ remembered := nomatch remembered

theorem setChainId (faithful : cache.Faithful chain) :
    (cache.setChainId chain.chainId).Faithful chain :=
  ⟨fun _ remembered => (Option.some.inj remembered).symm, faithful.function⟩

theorem insertFunction (faithful : cache.Faithful chain) {function : FunctionId}
    {abi : EntryFunctionAbi} (found : chain.functions.lookup function = some abi) :
    (cache.insertFunction function abi).Faithful chain := by
  refine ⟨faithful.chainId, fun other remembered looked => ?_⟩
  change ((function, abi) :: cache.functions).lookup other = some remembered at looked
  rw [List.lookup_cons] at looked
  split at looked
  next same =>
    rw [eq_of_beq same, found]
    exact looked
  next => exact faithful.function other remembered looked

/-- Going offline changes no answer. -/
theorem setOffline (faithful : cache.Faithful chain) (isOffline : Bool) :
    cache.Faithful (chain.setOffline isOffline) :=
  ⟨faithful.chainId, faithful.function⟩

/-- A commit changes a sequence number, and these are not remembered. -/
theorem commit (faithful : cache.Faithful chain) (sender : Address) :
    cache.Faithful (chain.commit sender) :=
  ⟨faithful.chainId, faithful.function⟩

end Faithful

end ChainCache

namespace Builder

/-- A step that asks nothing leaves the session as it is. -/
theorem outcome_checked {ε α δ : Type} (wrap : δ → BuildError ε) (made : Except δ α)
    (session : Session) :
    outcome (checked wrap made) session = (made.mapError wrap, session) := by
  cases made <;> rfl

section Transparent

variable {α β : Type}

/-- The outcome of a step is the answer unless the chain is offline, and what is remembered
afterwards is true of the chain. -/
structure Tells (chain : Chain) (answer : Except (BuildError ChainError) α)
    (made : Except (BuildError ChainError) α × Session) : Prop where
  result : made.1 = answer ∨ chain.isOffline = true ∧ made.1 = .error (.lookup .offline)
  faithful : made.2.cache.Faithful chain

theorem Tells.bind {chain : Chain} {action : Asking (BuildError ChainError) α}
    {next : α → Asking (BuildError ChainError) β} {answer : Except (BuildError ChainError) α}
    {rest : α → Except (BuildError ChainError) β} {session : Session}
    (told : Tells chain answer (outcome action session))
    (goesOn : ∀ value after, after.cache.Faithful chain →
      Tells chain (rest value) (outcome (next value) after)) :
    Tells chain (answer >>= rest) (outcome (action >>= next) session) := by
  rw [outcome_bind]
  generalize outcome action session = made at told
  rcases made with ⟨error | value, after⟩
  · refine ⟨?_, told.faithful⟩
    rcases told.result with rfl | ⟨offline, lost⟩
    · exact .inl rfl
    · cases lost
      exact .inr ⟨offline, rfl⟩
  · have given : .ok value = answer := by
      rcases told.result with given | ⟨-, lost⟩
      · exact given
      · cases lost
    subst given
    exact goesOn value after told.faithful

/-- What a computation tells does not depend on what is remembered: a chain has one answer to it,
whether it is online or not. -/
def Transparent (action : Node ChainError → Asking (BuildError ChainError) α) : Prop :=
  ∀ chain : Chain, ∃ answer, ∀ isOffline session, session.cache.Faithful chain →
    Tells (chain.setOffline isOffline) answer
      (outcome (action (chain.setOffline isOffline).node) session)

namespace Transparent

private theorem of_outcome {action : Asking (BuildError ChainError) α}
    {answer : Except (BuildError ChainError) α}
    (silent : ∀ session, outcome action session = (answer, session)) :
    Transparent fun _ => action := by
  refine fun chain => ⟨answer, fun isOffline session faithful => ?_⟩
  rw [silent]
  exact ⟨.inl rfl, faithful.setOffline isOffline⟩

protected theorem pure (value : α) : Transparent fun _ => pure value :=
  of_outcome fun _ => rfl

theorem checked {δ : Type} (wrap : δ → BuildError ChainError) (made : Except δ α) :
    Transparent fun _ => checked wrap made :=
  of_outcome (outcome_checked wrap made)

protected theorem bind {action : Node ChainError → Asking (BuildError ChainError) α}
    {next : Node ChainError → α → Asking (BuildError ChainError) β} (first : Transparent action)
    (rest : ∀ value, Transparent fun node => next node value) :
    Transparent fun node => action node >>= next node := by
  intro chain
  obtain ⟨answer, told⟩ := first chain
  choose answers goesOn using fun value => rest value chain
  refine ⟨answer >>= answers, fun isOffline session faithful => ?_⟩
  exact (told isOffline session faithful).bind fun value after kept =>
    goesOn value isOffline after (kept.setOffline chain.isOffline)

end Transparent

/-- A question whose answer is not remembered. -/
theorem transparent_ask (lookup : Lookup) {question : Node ChainError → Except ChainError α}
    (unreachable : ∀ chain : Chain, question (chain.setOffline true).node = .error .offline) :
    Transparent fun node => asking (Node.ask lookup (question node)) := by
  refine fun chain => ⟨(question (chain.setOffline false).node).mapError .lookup,
    fun isOffline session faithful => ?_⟩
  rw [outcome_asking, Node.outcome_ask]
  refine ⟨?_, faithful.setOffline isOffline⟩
  cases isOffline with
  | false => exact .inl rfl
  | true => exact .inr ⟨rfl, congrArg (Except.mapError _) (unreachable chain)⟩

private theorem transparent_cachedChainId : Transparent fun node => asking node.cachedChainId := by
  refine fun chain => ⟨.ok chain.chainId, fun isOffline session faithful => ?_⟩
  rw [outcome_asking, Node.outcome_cachedChainId]
  cases remembered : session.cache.chainId with
  | some number =>
    have same := faithful.chainId number remembered
    exact ⟨.inl (congrArg Except.ok same), faithful.setOffline isOffline⟩
  | none =>
    cases isOffline with
    | false => exact ⟨.inl rfl, faithful.setChainId.setOffline false⟩
    | true => exact ⟨.inr ⟨rfl, rfl⟩, faithful.setOffline true⟩

private theorem transparent_cachedEntryFunction (function : FunctionId) :
    Transparent fun node => asking (node.cachedEntryFunction function) := by
  intro chain
  refine ⟨((chain.setOffline false).node.entryFunction function).mapError .lookup,
    fun isOffline session faithful => ?_⟩
  rw [outcome_asking, Node.outcome_cachedEntryFunction]
  cases remembered : session.cache.entryFunction? function with
  | some abi =>
    have found := faithful.function function abi remembered
    have answered : (chain.setOffline false).node.entryFunction function = .ok abi :=
      Chain.entryFunction_eq_ok_iff.mpr ⟨rfl, found⟩
    rw [answered]
    exact ⟨.inl rfl, faithful.setOffline isOffline⟩
  | none =>
    cases isOffline with
    | true => exact ⟨.inr ⟨rfl, rfl⟩, faithful.setOffline true⟩
    | false =>
      cases answered : (chain.setOffline false).node.entryFunction function with
      | error error => exact ⟨.inl rfl, faithful.setOffline false⟩
      | ok abi =>
        have found := (Chain.entryFunction_eq_ok_iff.mp answered).2
        exact ⟨.inl rfl, (faithful.insertFunction found).setOffline false⟩

/-! ## The functions of the builder -/

private theorem transparent_entryFunction (id : String) (types : List TypeTag)
    (arguments : List Json) : Transparent fun node => entryFunction node id types arguments := by
  unfold entryFunction
  cases FunctionId.parse? id with
  | none => exact .of_outcome fun _ => rfl
  | some function =>
    refine (transparent_cachedEntryFunction function).bind fun abi => ?_
    exact (Transparent.checked _ _).bind fun _ => .checked _ _

private theorem transparent_sequenceNumber (sender : Address) (options : TransactionOptions) :
    Transparent fun node => sequenceNumber node sender options := by
  unfold sequenceNumber
  cases options.sequenceNumber with
  | some given => exact .pure given
  | none =>
    cases options.nonce with
    | some nonce => exact .pure _
    | none => exact transparent_ask _ fun _ => rfl

private theorem transparent_chainId (config : BuilderConfig) :
    Transparent fun node => chainId node config := by
  unfold chainId
  cases config.chainId with
  | some given => exact .pure given
  | none => exact transparent_cachedChainId

private theorem transparent_buildRaw (config : BuilderConfig) (now : UInt64) (sender : Address)
    (payload : Payload) (options : TransactionOptions) :
    Transparent fun node => buildRaw node config now sender payload options :=
  (transparent_sequenceNumber sender options).bind fun _ =>
    (transparent_chainId config).bind fun _ => .pure _

private theorem transparent_build (config : BuilderConfig) (now : UInt64) (sender : Address)
    (parties : Parties) (payload : Payload) (options : TransactionOptions) :
    Transparent fun node => build node config now sender parties payload options :=
  (transparent_buildRaw config now sender payload options).bind fun _ => .pure _

private theorem transparent_resolveAddress (key : AuthenticationKey) :
    Transparent fun node => resolveAddress node key :=
  (transparent_ask _ fun _ => rfl).bind fun _ => .pure _

end Transparent

/-! ## Failed lookups -/

section Failures

variable {ε : Type} {node : Node ε} {session after : Session} {error : ε}

private theorem cache_of_cachedChainId_failed
    (failed : outcome (asking node.cachedChainId) session = (.error (.lookup error), after)) :
    after.cache = session.cache := by
  rw [outcome_asking, Node.outcome_cachedChainId] at failed
  cases remembered : session.cache.chainId with
  | some number =>
    rw [remembered] at failed
    cases failed
  | none =>
    rw [remembered] at failed
    cases answered : node.chainId with
    | ok number =>
      rw [answered] at failed
      cases failed
    | error lost =>
      rw [answered] at failed
      cases failed
      rfl

private theorem cache_of_cachedEntryFunction_failed {function : FunctionId}
    (failed : outcome (asking (node.cachedEntryFunction function)) session =
      (.error (.lookup error), after)) :
    after.cache = session.cache := by
  rw [outcome_asking, Node.outcome_cachedEntryFunction] at failed
  cases remembered : session.cache.entryFunction? function with
  | some abi =>
    rw [remembered] at failed
    cases failed
  | none =>
    rw [remembered] at failed
    cases answered : node.entryFunction function with
    | ok abi =>
      rw [answered] at failed
      cases failed
    | error lost =>
      rw [answered] at failed
      cases failed
      rfl

/-- Sequence numbers are not remembered. -/
private theorem cache_sequenceNumber (node : Node ε) (session : Session) (sender : Address)
    (options : TransactionOptions) :
    (outcome (sequenceNumber node sender options) session).2.cache = session.cache := by
  rw [outcome_sequenceNumber_eq]
  cases numbered? sender options <;> rfl

/-- What is worked out without a lookup does not fail as one. -/
private theorem outcome_checked_ne_lookup {α δ : Type} {wrap : δ → BuildError ε} {made : Except δ α}
    (other : ∀ reason, wrap reason ≠ .lookup error) :
    outcome (checked wrap made) session ≠ (.error (.lookup error), after) := by
  rw [outcome_checked]
  cases made with
  | ok value => exact nofun
  | error reason =>
    intro same
    exact other reason (Except.error.inj (Prod.mk.inj same).1)

private theorem cache_of_entryFunction_failed {id : String} {types : List TypeTag}
    {arguments : List Json} (failed : outcome (entryFunction node id types arguments) session =
      (.error (.lookup error), after)) :
    after.cache = session.cache := by
  unfold entryFunction at failed
  cases parsed : FunctionId.parse? id with
  | none =>
    rw [parsed] at failed
    cases failed
  | some function =>
    rw [parsed] at failed
    rcases outcome_bind_eq_error_iff.mp failed with lost | ⟨abi, middle, -, rest⟩
    · exact cache_of_cachedEntryFunction_failed lost
    · rcases outcome_bind_eq_error_iff.mp rest with lost | ⟨encodings, last, -, lost⟩
      · exact absurd lost (outcome_checked_ne_lookup nofun)
      · exact absurd lost (outcome_checked_ne_lookup nofun)

private theorem cache_of_buildRaw_failed {config : BuilderConfig} {now : UInt64} {sender : Address}
    {payload : Payload} {options : TransactionOptions}
    (failed : outcome (buildRaw node config now sender payload options) session =
      (.error (.lookup error), after)) :
    after.cache = session.cache := by
  have kept := cache_sequenceNumber node session sender options
  rcases outcome_bind_eq_error_iff.mp failed with lost | ⟨number, middle, numbered, rest⟩
  · rw [lost] at kept
    exact kept
  · rw [numbered] at kept
    rcases outcome_bind_eq_error_iff.mp rest with lost | ⟨chain, last, -, lost⟩
    · unfold chainId at lost
      cases configured : config.chainId with
      | some given =>
        rw [configured] at lost
        cases lost
      | none =>
        rw [configured] at lost
        exact (cache_of_cachedChainId_failed lost).trans kept
    · cases lost

end Failures

/-- Without a number or a nonce in the options the sequence number is that of the sender. -/
private theorem number_of_buildRaw {chain : Chain} {session after : Session}
    {config : BuilderConfig}
    {now : UInt64} {sender : Address} {payload : Payload} {options : TransactionOptions}
    {raw : RawTransaction}
    (unfixed : (options.sequenceNumber.isNone && options.nonce.isNone) = true)
    (built : outcome (buildRaw chain.node config now sender payload options) session =
      (.ok raw, after)) :
    raw.sender = sender ∧ chain.sequenceNumber? sender = some raw.sequenceNumber := by
  rw [Bool.and_eq_true, Option.isNone_iff_eq_none, Option.isNone_iff_eq_none] at unfixed
  obtain ⟨unnumbered, unprotected⟩ := unfixed
  have answered := ((isOrderless_or_isOrdered unnumbered built).2 unprotected).answered
  refine ⟨?_, (Chain.sequenceNumber_eq_ok_iff.mp answered).2⟩
  obtain ⟨number, middle, -, rest⟩ := outcome_bind_eq_ok_iff.mp built
  obtain ⟨found, last, -, made⟩ := outcome_bind_eq_ok_iff.mp rest
  cases made
  rfl

private theorem Parties.raw_transaction (parties : Parties) (raw : RawTransaction) :
    (parties.transaction raw).raw = raw := by
  cases parties with
  | none | sponsored => rfl
  | secondary signers => cases signers <;> rfl

/-- What is made by a step of a builder. -/
inductive Product
  | call (function : EntryFunction)
  | raw (raw : RawTransaction)
  | transaction (transaction : UnsignedTransaction)
  | address (address : Address)
  | nothing

/-- The transaction that a product proposes. -/
def Product.raw? : Product → Option RawTransaction
  | raw made => some made
  | transaction made => some made.raw
  | call _ | address _ | nothing => none

end Builder

open Builder

/-- What is done with a builder, and between one builder and the next. -/
inductive BuilderStep
  | entryFunction (id : String) (types : List TypeTag) (arguments : List Json)
  | buildRaw (now : UInt64) (sender : Address) (payload : Payload) (options : TransactionOptions)
  | build (now : UInt64) (sender : Address) (parties : Parties) (payload : Payload)
    (options : TransactionOptions)
  | resolveAddress (key : AuthenticationKey)
  | setOffline (isOffline : Bool)
  | commit (sender : Address)
  /-- The next builder takes over what this one remembers. -/
  | handOver (config : BuilderConfig)
  /-- The next builder starts with nothing remembered. -/
  | renew (config : BuilderConfig)

namespace BuilderStep

/-- What a step asks of a node, and what it makes. -/
def action (config : BuilderConfig) (node : Node ChainError) :
    BuilderStep → Asking (BuildError ChainError) Product
  | entryFunction id types arguments => do
    return .call (← Builder.entryFunction node id types arguments)
  | buildRaw now sender payload options => do
    return .raw (← Builder.buildRaw node config now sender payload options)
  | build now sender parties payload options => do
    return .transaction (← Builder.build node config now sender parties payload options)
  | resolveAddress key => do
    return .address (← Builder.resolveAddress node key)
  | setOffline _ | commit _ | handOver _ | renew _ => pure .nothing

private theorem transparent (config : BuilderConfig) (step : BuilderStep) :
    Transparent fun node => step.action config node := by
  cases step with
  | entryFunction id types arguments =>
    exact (transparent_entryFunction id types arguments).bind fun _ => .pure _
  | buildRaw now sender payload options =>
    exact (transparent_buildRaw config now sender payload options).bind fun _ => .pure _
  | build now sender parties payload options =>
    exact (transparent_build config now sender parties payload options).bind fun _ => .pure _
  | resolveAddress key => exact (transparent_resolveAddress key).bind fun _ => .pure _
  | setOffline | commit | handOver | renew => exact .pure Product.nothing

/-- The sender of the transaction that a step builds with a sequence number of the chain. -/
def numbers? : BuilderStep → Option Address
  | buildRaw _ sender _ options | build _ sender _ _ options => Builder.numbered? sender options
  | _ => none

end BuilderStep

/-- A builder on a chain. -/
structure BuilderState where
  chain : Chain
  config : BuilderConfig
  session : Session

namespace BuilderState

def start (chain : Chain) (config : BuilderConfig) : BuilderState := ⟨chain, config, Session.start⟩

def forget (state : BuilderState) : BuilderState :=
  { state with session := { state.session with cache := .empty } }

def online (state : BuilderState) : BuilderState :=
  { state with chain := state.chain.setOffline false }

/-- The outcome of a step, and the session afterwards. -/
def made (state : BuilderState) (step : BuilderStep) :
    Except (BuildError ChainError) Product × Session :=
  outcome (step.action state.config state.chain.node) state.session

def result (state : BuilderState) (step : BuilderStep) : Except (BuildError ChainError) Product :=
  (state.made step).1

/-- The builder after a step, whether or not it failed. -/
def next (state : BuilderState) (step : BuilderStep) : BuilderState :=
  match step with
  | .setOffline isOffline => { state with chain := state.chain.setOffline isOffline }
  | .commit sender => { state with chain := state.chain.commit sender }
  | .handOver config => { state with config }
  | .renew config => { state.forget with config }
  | step => { state with session := (state.made step).2 }

/-- The builder after some steps. -/
def run (state : BuilderState) (steps : List BuilderStep) : BuilderState := steps.foldl next state

/-- All that the builder remembers is what its chain would answer. -/
def Faithful (state : BuilderState) : Prop := state.session.cache.Faithful state.chain

variable {state : BuilderState} {step : BuilderStep}

private theorem faithful_start (chain : Chain) (config : BuilderConfig) :
    (start chain config).Faithful :=
  ChainCache.Faithful.empty chain

/-- The chain has one answer to a step, and the builder gives it whether or not it remembers
anything, unless the chain is offline. -/
theorem Faithful.exists_answer (faithful : state.Faithful) (step : BuilderStep) :
    ∃ answer, Tells state.chain answer (state.made step) ∧
      state.online.forget.result step = answer := by
  obtain ⟨answer, told⟩ := step.transparent state.config state.chain
  refine ⟨answer, told state.chain.isOffline state.session faithful, ?_⟩
  have fresh : state.forget.session.cache.Faithful state.chain := .empty state.chain
  rcases (told false state.forget.session fresh).result with same | ⟨offline, -⟩
  · exact same
  · cases offline

/-- What is remembered stays true, whatever is done. -/
theorem Faithful.next (faithful : state.Faithful) (step : BuilderStep) :
    (state.next step).Faithful := by
  obtain ⟨answer, told, -⟩ := faithful.exists_answer step
  cases step with
  | entryFunction | buildRaw | build | resolveAddress => exact told.faithful
  | setOffline isOffline => exact ChainCache.Faithful.setOffline faithful isOffline
  | commit sender => exact ChainCache.Faithful.commit faithful sender
  | handOver config => exact faithful
  | renew config => exact ChainCache.Faithful.empty state.chain

theorem Faithful.run (faithful : state.Faithful) (steps : List BuilderStep) :
    (state.run steps).Faithful := by
  induction steps generalizing state with
  | nil => exact faithful
  | cons step later ih => exact ih (faithful.next step)

/-- A lookup that fails changes nothing of what is remembered. -/
theorem cache_next_of_failed {error : ChainError}
    (failed : state.result step = .error (.lookup error)) :
    (state.next step).session.cache = state.session.cache := by
  have ran : state.made step = (.error (.lookup error), (state.made step).2) :=
    Prod.ext failed rfl
  cases step with
  | entryFunction id types arguments =>
    exact cache_of_entryFunction_failed (outcome_bind_pure_eq_error_iff.mp ran)
  | buildRaw now sender payload options =>
    exact cache_of_buildRaw_failed (outcome_bind_pure_eq_error_iff.mp ran)
  | build now sender parties payload options =>
    have unbuilt := outcome_bind_pure_eq_error_iff.mp ran
    exact cache_of_buildRaw_failed (outcome_bind_pure_eq_error_iff.mp unbuilt)
  | resolveAddress key =>
    have unresolved := outcome_bind_pure_eq_error_iff.mp ran
    have asked := outcome_bind_pure_eq_error_iff.mp unresolved
    rw [outcome_asking, Node.askOriginatingAddress, Node.outcome_ask] at asked
    exact congrArg (fun made => made.2.cache) asked.symm
  | setOffline | commit | handOver | renew => cases failed

/-- A transaction without a given number has the one that its sender has on the chain now. -/
theorem sequenceNumber_of_result {sender : Address} {product : Product} {raw : RawTransaction}
    (numbers : step.numbers? = some sender) (made : state.result step = .ok product)
    (proposed : product.raw? = some raw) :
    raw.sender = sender ∧ state.chain.sequenceNumber? sender = some raw.sequenceNumber := by
  have ran : state.made step = (.ok product, (state.made step).2) := Prod.ext made rfl
  cases step with
  | buildRaw now account payload options =>
    obtain ⟨unfixed, same⟩ := Option.ite_none_right_eq_some.mp numbers
    cases same
    obtain ⟨built, middle, ran, made⟩ := outcome_bind_eq_ok_iff.mp ran
    cases made
    cases proposed
    exact number_of_buildRaw unfixed ran
  | build now account parties payload options =>
    obtain ⟨unfixed, same⟩ := Option.ite_none_right_eq_some.mp numbers
    cases same
    obtain ⟨joint, middle, ran, made⟩ := outcome_bind_eq_ok_iff.mp ran
    cases made
    obtain ⟨built, last, ran, made⟩ := outcome_bind_eq_ok_iff.mp ran
    cases made
    obtain rfl : built = raw :=
      (parties.raw_transaction built).symm.trans (Option.some.inj proposed)
    exact number_of_buildRaw unfixed ran
  | entryFunction | resolveAddress | setOffline | commit | handOver | renew => cases numbers

/-- Whatever was done before, a step has the outcome that it has when nothing is remembered; when
the chain is offline, it has the outcome that it has online, or it finds the chain offline. A
sequence number is always the one on the chain, and a failed lookup changes nothing of what is
remembered. -/
theorem result_transparent (chain : Chain) (config : BuilderConfig) (before : List BuilderStep)
    (state : BuilderState) (reached : (start chain config).run before = state)
    (step : BuilderStep) :
    (state.chain.isOffline = false → state.result step = state.forget.result step) ∧
    (state.chain.isOffline = true →
      state.result step = state.online.forget.result step ∨
        state.result step = .error (.lookup .offline)) ∧
    (∀ sender product raw, step.numbers? = some sender → state.result step = .ok product →
      product.raw? = some raw →
      raw.sender = sender ∧ state.chain.sequenceNumber? sender = some raw.sequenceNumber) ∧
    ∀ error, state.result step = .error (.lookup error) →
      (state.next step).session.cache = state.session.cache := by
  have faithful : state.Faithful := reached ▸ (faithful_start chain config).run before
  obtain ⟨answer, told, answered⟩ := faithful.exists_answer step
  refine ⟨fun reachable => ?_, fun offline => ?_, fun _ _ _ => sequenceNumber_of_result,
    fun _ => cache_next_of_failed⟩
  · have same : state.online = state := by
      rw [online, ← reachable]
      rfl
    rw [same] at answered
    rcases told.result with given | ⟨offline, -⟩
    · exact given.trans answered.symm
    · rw [reachable] at offline
      cases offline
  · rcases told.result with given | ⟨-, lost⟩
    · exact .inl (given.trans answered.symm)
    · exact .inr lost

/-- A transaction of the account at ten. -/
def tenBuilds (options : TransactionOptions) : BuilderStep :=
  .buildRaw 0 Address.ten noncePayload options

/-- After a commit the next sequence number is used, and without the chain what is remembered
serves where no sequence number is needed. -/
theorem result_transparent_sevenSent :
    (∃ raw, ((start sevenSent .default).run [tenBuilds .none, .commit Address.ten]).result
        (tenBuilds .none) = .ok (.raw raw) ∧ raw.sequenceNumber = 8) ∧
    ∃ raw, ((start sevenSent .default).run [tenBuilds .none, .setOffline true]).result
        (tenBuilds { TransactionOptions.none with sequenceNumber := some 9 }) = .ok (.raw raw) ∧
      ((start sevenSent .default).run [tenBuilds .none, .setOffline true]).online.forget.result
        (tenBuilds { TransactionOptions.none with sequenceNumber := some 9 }) = .ok (.raw raw) := by
  obtain ⟨-, -, numbered, -⟩ := result_transparent sevenSent .default
    [tenBuilds .none, .commit Address.ten] _ rfl (tenBuilds .none)
  obtain ⟨-, agrees, -⟩ := result_transparent sevenSent .default
    [tenBuilds .none, .setOffline true] _ rfl
    (tenBuilds { TransactionOptions.none with sequenceNumber := some 9 })
  obtain ⟨built, made⟩ : ∃ raw,
      ((start sevenSent .default).run [tenBuilds .none, .commit Address.ten]).result
        (tenBuilds .none) = .ok (.raw raw) := ⟨_, rfl⟩
  obtain ⟨-, counted⟩ := numbered Address.ten _ built rfl made rfl
  obtain ⟨kept, served⟩ : ∃ raw,
      ((start sevenSent .default).run [tenBuilds .none, .setOffline true]).result
        (tenBuilds { TransactionOptions.none with sequenceNumber := some 9 }) =
          .ok (.raw raw) := ⟨_, rfl⟩
  refine ⟨⟨built, made, (Option.some.inj counted).symm⟩, kept, served, ?_⟩
  rcases agrees rfl with same | lost
  · exact same.symm.trans served
  · cases served.symm.trans lost

end BuilderState

end MoveWallet
