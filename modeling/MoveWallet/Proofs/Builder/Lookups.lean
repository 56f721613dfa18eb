import MoveWallet.Proofs.Builder.Cache

/-! # What a chain is asked

A chain is asked for its number, and for the parameters of a function, until it has answered once;
a builder that takes over what another remembers does not ask again. Sequence numbers and changed
keys are asked for each time they are needed. A lookup counts whether or not it is answered.
-/

namespace MoveWallet

open Asking Builder

namespace Lookup

/-- Whether the answer to a lookup is remembered. -/
def isKept (lookup : Lookup) : Bool := lookup.isChainId || lookup.isEntryFunction

/-- A lookup that is made unless it was answered before. -/
def once (lookup : Lookup) (fetched : List Lookup) : List Lookup :=
  if lookup ∈ fetched then [] else [lookup]

@[simp] theorem mem_once {lookup other : Lookup} {fetched : List Lookup} :
    other ∈ lookup.once fetched ↔ other = lookup ∧ lookup ∉ fetched := by
  unfold once
  split <;> simp_all

private theorem nodup_once (lookup : Lookup) (fetched : List Lookup) :
    (lookup.once fetched).Nodup := by
  unfold once
  split <;> simp

end Lookup

namespace LookupCounts

def bump (counts : LookupCounts) : Lookup → LookupCounts
  | .sequenceNumber _ => { counts with sequenceNumber := counts.sequenceNumber + 1 }
  | .chainId => { counts with chainId := counts.chainId + 1 }
  | .entryFunction _ => { counts with entryFunction := counts.entryFunction + 1 }
  | .originatingAddress _ => { counts with originatingAddress := counts.originatingAddress + 1 }

private theorem ofLookups_cons (lookup : Lookup) (lookups : List Lookup) :
    ofLookups (lookup :: lookups) = (ofLookups lookups).bump lookup := by
  cases lookup <;> simp [ofLookups, bump, List.countP_cons, Lookup.isSequenceNumber,
    Lookup.isChainId, Lookup.isEntryFunction, Lookup.isOriginatingAddress]

/-- The last lookup is in front. -/
private theorem ofLookups_reverse_append (asked lookups : List Lookup) :
    ofLookups (asked.reverse ++ lookups) = asked.foldl bump (ofLookups lookups) := by
  induction asked generalizing lookups with
  | nil => rfl
  | cons lookup later ih =>
    rw [List.reverse_cons, List.append_assoc, List.singleton_append, ih, ofLookups_cons,
      List.foldl_cons]

end LookupCounts

/-- Whether a node answers a lookup. -/
def Node.answers {ε : Type} (node : Node ε) : Lookup → Bool
  | .sequenceNumber account => (node.sequenceNumber account).isOk
  | .chainId => node.chainId.isOk
  | .entryFunction function => (node.entryFunction function).isOk
  | .originatingAddress key => (node.originatingAddress key).isOk

/-- The lookups between two sessions, the first one in front. -/
def Session.since (session after : Session) : List Lookup :=
  (after.lookups.take (after.lookups.length - session.lookups.length)).reverse

namespace ChainCache

/-- What is remembered is what was fetched. -/
structure Tracks (cache : ChainCache) (fetched : List Lookup) : Prop where
  chainId : cache.chainId.isSome ↔ .chainId ∈ fetched
  function : ∀ function, (cache.entryFunction? function).isSome ↔ .entryFunction function ∈ fetched

namespace Tracks

variable {cache : ChainCache} {fetched : List Lookup}

theorem empty : ChainCache.empty.Tracks [] where
  chainId := by simp [ChainCache.empty]
  function _ := by simp [ChainCache.empty, entryFunction?]

/-- Only lookups whose answers are remembered matter. -/
private theorem of_mem_iff (tracks : cache.Tracks fetched) {others : List Lookup}
    (same : ∀ lookup : Lookup, lookup.isKept = true → (lookup ∈ fetched ↔ lookup ∈ others)) :
    cache.Tracks others where
  chainId := tracks.chainId.trans (same .chainId rfl)
  function function := (tracks.function function).trans (same (.entryFunction function) rfl)

theorem setChainId (tracks : cache.Tracks fetched) (number : UInt8) :
    (cache.setChainId number).Tracks (fetched ++ [.chainId]) where
  chainId := by simp [ChainCache.setChainId]
  function function := by
    rw [List.mem_append, List.mem_singleton, or_iff_left Lookup.noConfusion]
    exact tracks.function function

theorem insertFunction (tracks : cache.Tracks fetched) (function : FunctionId)
    (abi : EntryFunctionAbi) :
    (cache.insertFunction function abi).Tracks (fetched ++ [.entryFunction function]) where
  chainId := by
    rw [List.mem_append, List.mem_singleton, or_iff_left Lookup.noConfusion]
    exact tracks.chainId
  function other := by
    change (((function, abi) :: cache.functions).lookup other).isSome ↔ _
    rw [List.lookup_cons, List.mem_append, List.mem_singleton, Lookup.entryFunction.injEq,
      ← tracks.function]
    split
    next same => simp [eq_of_beq same]
    next different =>
      rw [beq_eq_false_iff_ne] at different
      simp [different, entryFunction?]

end Tracks

end ChainCache

/-- Between two sessions a node was asked some lookups, and the answers are remembered. -/
structure Asks {ε : Type} (node : Node ε) (fetched : List Lookup) (session after : Session)
    (asked : List Lookup) : Prop where
  recorded : after.lookups = asked.reverse ++ session.lookups
  tracks : after.cache.Tracks (fetched ++ asked.filter node.answers)

namespace Asks

variable {ε : Type} {node : Node ε} {fetched asked later : List Lookup} {session after : Session}

theorem refl (tracks : session.cache.Tracks fetched) : Asks node fetched session session [] where
  recorded := rfl
  tracks := by rwa [List.filter_nil, List.append_nil]

private theorem since_eq (asks : Asks node fetched session after asked) :
    session.since after = asked := by
  rw [Session.since, asks.recorded, List.length_append, Nat.add_sub_cancel, List.take_left,
    List.reverse_reverse]

private theorem counts_eq (asks : Asks node fetched session after asked) :
    after.counts = asked.foldl LookupCounts.bump session.counts := by
  rw [Session.counts, asks.recorded, LookupCounts.ofLookups_reverse_append, Session.counts]

/-- A lookup whose answer is not remembered, before some others. -/
private theorem unkept {lookup : Lookup} (unkept : lookup.isKept = false)
    (rest : Asks node fetched (session.record lookup) after later) :
    Asks node fetched session after (lookup :: later) where
  recorded := by
    rw [rest.recorded, List.reverse_cons, List.append_assoc]
    rfl
  tracks := rest.tracks.of_mem_iff fun other kept => by
    have different : other ≠ lookup := by
      rintro rfl
      cases kept.symm.trans unkept
    simp [different]

/-- A lookup whose answer is remembered. -/
private theorem of_answers {lookup : Lookup} (recorded : after.lookups = lookup :: session.lookups)
    (answers : node.answers lookup = true) (tracks : after.cache.Tracks (fetched ++ [lookup])) :
    Asks node fetched session after [lookup] where
  recorded := recorded
  tracks := by rwa [List.filter_singleton, answers]

/-- A lookup without an answer. -/
private theorem of_fails (tracks : session.cache.Tracks fetched) {lookup : Lookup}
    (fails : node.answers lookup = false) :
    Asks node fetched session (session.record lookup) [lookup] where
  recorded := rfl
  tracks := by
    rw [List.filter_singleton, fails, cond_false, List.append_nil]
    exact tracks

theorem cachedChainId (tracks : session.cache.Tracks fetched) :
    Asks node fetched session (outcome (asking node.cachedChainId) session).2
      (Lookup.chainId.once fetched) := by
  have known := tracks.chainId
  rw [outcome_asking, Node.outcome_cachedChainId]
  cases remembered : session.cache.chainId with
  | some number =>
    rw [remembered] at known
    rw [Lookup.once, if_pos (known.mp rfl)]
    exact refl tracks
  | none =>
    rw [remembered] at known
    rw [Lookup.once, if_neg fun listed => nomatch known.mpr listed]
    cases answered : node.chainId with
    | ok number =>
      have answers : node.answers .chainId = true := congrArg Except.isOk answered
      exact of_answers rfl answers (tracks.setChainId number)
    | error lost =>
      have fails : node.answers .chainId = false := congrArg Except.isOk answered
      exact of_fails tracks fails

theorem cachedEntryFunction (tracks : session.cache.Tracks fetched) (function : FunctionId) :
    Asks node fetched session (outcome (asking (node.cachedEntryFunction function)) session).2
      ((Lookup.entryFunction function).once fetched) := by
  have known := tracks.function function
  rw [outcome_asking, Node.outcome_cachedEntryFunction]
  cases remembered : session.cache.entryFunction? function with
  | some abi =>
    rw [remembered] at known
    rw [Lookup.once, if_pos (known.mp rfl)]
    exact refl tracks
  | none =>
    rw [remembered] at known
    rw [Lookup.once, if_neg fun listed => nomatch known.mpr listed]
    cases answered : node.entryFunction function with
    | ok abi =>
      have answers : node.answers (.entryFunction function) = true := congrArg Except.isOk answered
      exact of_answers rfl answers (tracks.insertFunction function abi)
    | error lost =>
      have fails : node.answers (.entryFunction function) = false := congrArg Except.isOk answered
      exact of_fails tracks fails

end Asks

namespace Builder

variable {ε α β : Type} {node : Node ε} {fetched : List Lookup} {session : Session}

/-- Steps that ask nothing leave the session as it is. -/
private theorem session_bind {action : Asking ε α} {next : α → Asking ε β}
    (silent : ∀ value middle, (outcome (next value) middle).2 = middle) :
    (outcome (action >>= next) session).2 = (outcome action session).2 := by
  rw [outcome_bind]
  rcases outcome action session with ⟨error | value, after⟩
  · rfl
  · exact silent value after

private theorem asks_entryFunction (tracks : session.cache.Tracks fetched) (id : String)
    (types : List TypeTag) (arguments : List Json) :
    Asks node fetched session (outcome (entryFunction node id types arguments) session).2
      ((FunctionId.parse? id).elim [] fun function =>
        (Lookup.entryFunction function).once fetched) := by
  unfold entryFunction
  cases FunctionId.parse? id with
  | none => exact .refl tracks
  | some function =>
    dsimp only
    rw [session_bind fun abi middle => ?_]
    · exact .cachedEntryFunction tracks function
    · rw [session_bind fun encodings last => ?_, outcome_checked]
      rw [outcome_checked]

/-- The number of the chain is looked up once if it is not configured. -/
def chainLookups (config : BuilderConfig) (fetched : List Lookup) : List Lookup :=
  if config.chainId.isNone then Lookup.chainId.once fetched else []

private theorem mem_chainLookups {config : BuilderConfig} {lookup : Lookup} :
    lookup ∈ chainLookups config fetched ↔
      lookup = .chainId ∧ config.chainId = none ∧ Lookup.chainId ∉ fetched := by
  unfold chainLookups
  cases config.chainId <;> simp

private theorem nodup_chainLookups (config : BuilderConfig) (fetched : List Lookup) :
    (chainLookups config fetched).Nodup := by
  unfold chainLookups
  split
  · exact Lookup.nodup_once _ _
  · exact List.nodup_nil

private theorem asks_chainId (tracks : session.cache.Tracks fetched) (config : BuilderConfig) :
    Asks node fetched session (outcome (chainId node config) session).2
      (chainLookups config fetched) := by
  unfold chainId chainLookups
  cases config.chainId with
  | some given => exact .refl tracks
  | none => exact .cachedChainId tracks

/-- The lookups of a build. Without an answer about the sequence number there is no other. -/
def rawLookups (node : Node ε) (config : BuilderConfig) (fetched : List Lookup) :
    Option Address → List Lookup
  | none => chainLookups config fetched
  | some account => .sequenceNumber account ::
    if node.answers (.sequenceNumber account) then chainLookups config fetched else []

private theorem asks_buildRaw (tracks : session.cache.Tracks fetched) (config : BuilderConfig)
    (now : UInt64) (sender : Address) (payload : Payload) (options : TransactionOptions) :
    Asks node fetched session
      (outcome (buildRaw node config now sender payload options) session).2
      (rawLookups node config fetched (numbered? sender options)) := by
  unfold buildRaw
  rw [outcome_bind, outcome_sequenceNumber_eq]
  cases numbered? sender options with
  | none =>
    dsimp only
    rw [session_bind fun chain last => rfl]
    exact asks_chainId tracks config
  | some account =>
    -- a build that gets no sequence number ends before the number of the chain is asked for
    refine .unkept rfl ?_
    dsimp only
    cases answered : node.sequenceNumber account with
    | error lost =>
      have fails : node.answers (.sequenceNumber account) = false := congrArg Except.isOk answered
      rw [fails]
      exact .refl tracks
    | ok number =>
      have answers : node.answers (.sequenceNumber account) = true := congrArg Except.isOk answered
      rw [answers, if_pos rfl]
      change Asks _ _ _ (outcome (chainId node config >>= _) _).2 _
      rw [session_bind fun chain last => rfl]
      have kept : (session.record (.sequenceNumber account)).cache.Tracks fetched := tracks
      exact asks_chainId kept config

section RawLookups

variable {config : BuilderConfig} {account? : Option Address}

private theorem mem_rawLookups {lookup : Lookup} :
    lookup ∈ rawLookups node config fetched account? ↔
      (∃ account, account? = some account ∧ lookup = .sequenceNumber account) ∨
      (lookup = .chainId ∧ config.chainId = none ∧ Lookup.chainId ∉ fetched) ∧
        ∀ account, account? = some account → node.answers (.sequenceNumber account) = true := by
  cases account? with
  | none => simp [rawLookups, mem_chainLookups]
  | some account =>
    cases answered : node.answers (.sequenceNumber account) <;>
      simp [rawLookups, mem_chainLookups, answered]

private theorem filter_rawLookups :
    (rawLookups node config fetched account?).filter Lookup.isSequenceNumber =
      account?.toList.map Lookup.sequenceNumber := by
  have others : (chainLookups config fetched).filter Lookup.isSequenceNumber = [] := by
    rw [List.filter_eq_nil_iff]
    intro lookup listed
    rw [(mem_chainLookups.mp listed).1]
    exact nofun
  cases account? with
  | none => exact others
  | some account =>
    rw [rawLookups, List.filter_cons_of_pos rfl]
    split
    · rw [others]
      rfl
    · rfl

private theorem nodup_rawLookups : (rawLookups node config fetched account?).Nodup := by
  have chain := nodup_chainLookups config fetched
  cases account? with
  | none => exact chain
  | some account =>
    rw [rawLookups, List.nodup_cons]
    split
    · exact ⟨fun listed => Lookup.noConfusion (mem_chainLookups.mp listed).1, chain⟩
    · exact ⟨List.not_mem_nil, List.nodup_nil⟩

end RawLookups

end Builder

namespace BuilderStep

/-- Whether what is remembered stays with the next builder. -/
def KeepsCache : BuilderStep → Prop
  | renew _ => False
  | _ => True

/-- The function that a step calls, if its id is one. -/
def function? : BuilderStep → Option FunctionId
  | entryFunction id _ _ => FunctionId.parse? id
  | _ => none

def Builds : BuilderStep → Prop
  | buildRaw .. | build .. => True
  | _ => False

/-- The lookups of a step after some others were answered. -/
def lookups (config : BuilderConfig) (node : Node ChainError) (fetched : List Lookup) :
    BuilderStep → List Lookup
  | entryFunction id _ _ => (FunctionId.parse? id).elim [] fun function =>
    (Lookup.entryFunction function).once fetched
  | buildRaw _ sender _ options | build _ sender _ _ options =>
    rawLookups node config fetched (numbered? sender options)
  | resolveAddress key => [.originatingAddress key]
  | setOffline _ | commit _ | handOver _ | renew _ => []

variable {config : BuilderConfig} {node : Node ChainError} {fetched : List Lookup}
  {step : BuilderStep}

private theorem filter_lookups_sequenceNumber :
    (step.lookups config node fetched).filter Lookup.isSequenceNumber =
      step.numbers?.toList.map Lookup.sequenceNumber := by
  cases step with
  | entryFunction id types arguments =>
    cases parsed : FunctionId.parse? id <;>
      simp [lookups, numbers?, parsed, List.filter_eq_nil_iff, Lookup.isSequenceNumber]
  | buildRaw | build => exact filter_rawLookups
  | resolveAddress | setOffline | commit | handOver | renew => rfl

private theorem chainId_mem_lookups :
    Lookup.chainId ∈ step.lookups config node fetched ↔
      step.Builds ∧ config.chainId = none ∧ Lookup.chainId ∉ fetched ∧
        ∀ sender, step.numbers? = some sender → node.answers (.sequenceNumber sender) = true := by
  cases step with
  | entryFunction id types arguments =>
    cases parsed : FunctionId.parse? id <;> simp [lookups, Builds, parsed]
  | buildRaw | build =>
    simp [lookups, Builds, mem_rawLookups, numbers?, numbered?, and_assoc]
  | resolveAddress | setOffline | commit | handOver | renew => simp [lookups, Builds]

private theorem entryFunction_mem_lookups {function : FunctionId} :
    Lookup.entryFunction function ∈ step.lookups config node fetched ↔
      step.function? = some function ∧ Lookup.entryFunction function ∉ fetched := by
  cases step with
  | entryFunction id types arguments =>
    cases parsed : FunctionId.parse? id with
    | none => simp [lookups, function?, parsed]
    | some called =>
      simp only [lookups, function?, parsed, Option.elim_some, Lookup.mem_once,
        Lookup.entryFunction.injEq, Option.some.injEq]
      constructor <;>
      · rintro ⟨rfl, missing⟩
        exact ⟨rfl, missing⟩
  | buildRaw | build => simp [lookups, function?, mem_rawLookups]
  | resolveAddress | setOffline | commit | handOver | renew => simp [lookups, function?]

private theorem originatingAddress_mem_lookups {key : AuthenticationKey} :
    Lookup.originatingAddress key ∈ step.lookups config node fetched ↔
      step = .resolveAddress key := by
  cases step with
  | entryFunction id types arguments =>
    cases parsed : FunctionId.parse? id <;> simp [lookups, parsed]
  | buildRaw | build => simp [lookups, mem_rawLookups]
  | resolveAddress other => simp [lookups, eq_comm]
  | setOffline | commit | handOver | renew => simp [lookups]

private theorem nodup_lookups : (step.lookups config node fetched).Nodup := by
  cases step with
  | entryFunction id types arguments =>
    rw [lookups]
    cases FunctionId.parse? id with
    | none => exact List.nodup_nil
    | some function => exact Lookup.nodup_once _ _
  | buildRaw | build => exact nodup_rawLookups
  | resolveAddress => exact List.nodup_singleton _
  | setOffline | commit | handOver | renew => exact List.nodup_nil

end BuilderStep

namespace BuilderState

def asked (state : BuilderState) (step : BuilderStep) : List Lookup :=
  state.session.since (state.next step).session

def fetched (first : BuilderState) : List BuilderStep → List Lookup
  | [] => []
  | step :: later =>
    (first.asked step).filter first.chain.node.answers ++ (first.next step).fetched later

variable {state : BuilderState} {step : BuilderStep} {known : List Lookup}

private theorem asks_next (tracks : state.session.cache.Tracks known) (keeps : step.KeepsCache) :
    Asks state.chain.node known state.session (state.next step).session
      (step.lookups state.config state.chain.node known) := by
  -- wrapping up what a step has made asks nothing
  cases step with
  | entryFunction id types arguments =>
    change Asks _ _ _ (outcome (_ >>= _) _).2 _
    rw [session_bind fun _ _ => rfl]
    exact asks_entryFunction tracks id types arguments
  | buildRaw now sender payload options =>
    change Asks _ _ _ (outcome (_ >>= _) _).2 _
    rw [session_bind fun _ _ => rfl]
    exact asks_buildRaw tracks state.config now sender payload options
  | build now sender parties payload options =>
    change Asks _ _ _ (outcome ((_ >>= _) >>= _) _).2 _
    rw [session_bind fun _ _ => rfl, session_bind fun _ _ => rfl]
    exact asks_buildRaw tracks state.config now sender payload options
  | resolveAddress key =>
    change Asks _ _ _ (outcome ((_ >>= _) >>= _) _).2 _
    rw [session_bind fun _ _ => rfl, session_bind fun _ _ => rfl, outcome_asking,
      Node.askOriginatingAddress, Node.outcome_ask]
    exact .unkept rfl (.refl tracks)
  | setOffline | commit | handOver => exact .refl tracks
  | renew config => exact keeps.elim

private theorem asked_eq (tracks : state.session.cache.Tracks known) (keeps : step.KeepsCache) :
    state.asked step = step.lookups state.config state.chain.node known :=
  (asks_next tracks keeps).since_eq

/-- After a run all that was answered before and on the way is remembered, and nothing else. -/
theorem tracks_run (tracks : state.session.cache.Tracks known) {steps : List BuilderStep}
    (keeps : ∀ step ∈ steps, step.KeepsCache) :
    (state.run steps).session.cache.Tracks (known ++ state.fetched steps) := by
  induction steps generalizing state known with
  | nil => rwa [fetched, List.append_nil]
  | cons step later ih =>
    obtain ⟨keep, keepLater⟩ := List.forall_mem_cons.mp keeps
    rw [fetched, asked_eq tracks keep, ← List.append_assoc]
    exact ih (asks_next tracks keep).tracks keepLater

/-- The lookups of a step are those that the steps before it leave open. -/
structure IsAccounted (first : BuilderState) (before : List BuilderStep) (step : BuilderStep) :
    Prop where
  /-- Each lookup, answered or not, raises its own count by one. -/
  counted : ((first.run before).next step).session.counts =
    ((first.run before).asked step).foldl LookupCounts.bump (first.run before).session.counts
  nodup : ((first.run before).asked step).Nodup
  /-- A build looks up a sequence number if its options give neither a number nor a nonce. -/
  numbers : ((first.run before).asked step).filter Lookup.isSequenceNumber =
    step.numbers?.toList.map Lookup.sequenceNumber
  /-- A build looks up the number of the chain unless it is configured, was answered before, or the
  sequence number was not answered. -/
  chainId : Lookup.chainId ∈ (first.run before).asked step ↔
    step.Builds ∧ (first.run before).config.chainId = none ∧
      Lookup.chainId ∉ first.fetched before ∧
      ∀ sender, step.numbers? = some sender →
        (first.run before).chain.node.answers (.sequenceNumber sender) = true
  /-- A call looks up its function unless that was answered before. -/
  function : ∀ function, Lookup.entryFunction function ∈ (first.run before).asked step ↔
    step.function? = some function ∧ Lookup.entryFunction function ∉ first.fetched before
  malformed : ∀ id types arguments, step = .entryFunction id types arguments →
    FunctionId.parse? id = none → (first.run before).asked step = []
  origin : ∀ key, Lookup.originatingAddress key ∈ (first.run before).asked step ↔
    step = .resolveAddress key

/-- Whatever was done before with one cache, whether or not it succeeded, a step makes the lookups
that it needs and that were not answered yet, and no other. -/
theorem isAccounted_of_run (first : BuilderState) (unseeded : first.session.cache = .empty)
    (before : List BuilderStep) (step : BuilderStep)
    (keeps : ∀ other ∈ step :: before, other.KeepsCache) : first.IsAccounted before step := by
  obtain ⟨keep, keepBefore⟩ := List.forall_mem_cons.mp keeps
  have nothing : first.session.cache.Tracks [] := unseeded ▸ ChainCache.Tracks.empty
  have tracks := tracks_run nothing keepBefore
  rw [List.nil_append] at tracks
  have asked := asked_eq tracks keep
  constructor
  · rw [(asks_next tracks keep).counts_eq, asked]
  all_goals rw [asked]
  · exact BuilderStep.nodup_lookups
  · exact BuilderStep.filter_lookups_sequenceNumber
  · exact BuilderStep.chainId_mem_lookups
  · exact fun function => BuilderStep.entryFunction_mem_lookups
  · rintro id types arguments rfl malformed
    rw [BuilderStep.lookups, malformed]
    rfl
  · exact fun key => BuilderStep.originatingAddress_mem_lookups

/-- A build that finds the chain offline, the same build later, and a change of builders. -/
def recovered : List BuilderStep :=
  [.setOffline true, tenBuilds .none, .setOffline false, tenBuilds .none, .handOver .default]

theorem isAccounted_recovered :
    (start sevenSent .default).IsAccounted recovered (tenBuilds .none) ∧
      (start sevenSent .default).fetched recovered = [.sequenceNumber Address.ten, .chainId] ∧
      Lookup.chainId ∉ ((start sevenSent .default).run recovered).asked (tenBuilds .none) ∧
      (((start sevenSent .default).run recovered).next (tenBuilds .none)).session.counts =
        ⟨3, 1, 0, 0⟩ := by
  have accounted := isAccounted_of_run (start sevenSent .default) rfl recovered (tenBuilds .none)
    (by simp [recovered, tenBuilds, BuilderStep.KeepsCache])
  have fetched : (start sevenSent .default).fetched recovered =
      [.sequenceNumber Address.ten, .chainId] := rfl
  refine ⟨accounted, fetched, fun again => ?_, rfl⟩
  have missing := (accounted.chainId.mp again).2.2.1
  rw [fetched] at missing
  simp at missing

end BuilderState

end MoveWallet
