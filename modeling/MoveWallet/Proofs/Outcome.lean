import Mathlib.Tactic

/-! # Steps that can fail

A sequence of steps succeeds exactly when each of them does on what the one before gave.
-/

namespace MoveWallet.Outcome

variable {ε ε' α β γ : Type}

theorem bind_eq_ok_iff {outcome : Except ε α} {next : α → Except ε β} {value : β} :
    outcome >>= next = .ok value ↔ ∃ first, outcome = .ok first ∧ next first = .ok value := by
  cases outcome <;> simp [bind, Except.bind]

/-- A sequence of steps fails where the first of them fails, or behind it. -/
theorem bind_eq_error_iff {outcome : Except ε α} {next : α → Except ε β} {error : ε} :
    outcome >>= next = .error error ↔
      outcome = .error error ∨ ∃ first, outcome = .ok first ∧ next first = .error error := by
  cases outcome <;> simp [bind, Except.bind]

/-- Rewording an error keeps the values. -/
@[simp] theorem mapError_eq_ok_iff {reword : ε → ε'} {outcome : Except ε α} {value : α} :
    outcome.mapError reword = .ok value ↔ outcome = .ok value := by
  cases outcome <;> simp [Except.mapError]

theorem mapError_eq_error_iff {reword : ε → ε'} {outcome : Except ε α} {error : ε'} :
    outcome.mapError reword = .error error ↔
      ∃ cause, outcome = .error cause ∧ reword cause = error := by
  cases outcome <;> simp [Except.mapError]

theorem map_eq_ok_iff {make : α → β} {outcome : Except ε α} {value : β} :
    make <$> outcome = .ok value ↔ ∃ part, outcome = .ok part ∧ make part = value := by
  cases outcome <;> simp [Functor.map, Except.map]

/-- What is made of the outcome of a sequence is made of its last step. -/
theorem map_bind (make : β → γ) (outcome : Except ε α) (next : α → Except ε β) :
    (outcome >>= next).map make = outcome >>= fun value => (next value).map make := by
  cases outcome <;> rfl

theorem toOption_eq_some_iff {outcome : Except ε α} {value : α} :
    outcome.toOption = some value ↔ outcome = .ok value := by
  cases outcome <;> simp [Except.toOption]

theorem mapM_eq_ok_iff {step : α → Except ε β} {items : List α} {values : List β} :
    items.mapM step = .ok values ↔
      List.Forall₂ (fun item value => step item = .ok value) items values := by
  induction items generalizing values with
  | nil => cases values <;> simp [pure, Except.pure]
  | cons item others ih =>
    rw [List.mapM_cons]
    simp only [bind_eq_ok_iff, ih, List.forall₂_cons_left_iff]
    simp [pure, Except.pure, eq_comm]

/-- Steps that agree on the items give the same values. -/
theorem mapM_congr {step step' : α → Except ε β} {items : List α}
    (agree : ∀ item ∈ items, step item = step' item) : items.mapM step = items.mapM step' := by
  induction items with
  | nil => rfl
  | cons item others ih =>
    obtain ⟨first, rest⟩ := List.forall_mem_cons.mp agree
    rw [List.mapM_cons, List.mapM_cons, first, ih rest]

/-- Each value comes from one of the items. -/
theorem exists_of_mem_mapM {step : α → Except ε β} {items : List α} {values : List β} {value : β}
    (ran : List.Forall₂ (fun item value => step item = .ok value) items values)
    (member : value ∈ values) : ∃ item ∈ items, step item = .ok value := by
  induction ran with
  | nil => cases member
  | cons first _ ih =>
    rcases List.mem_cons.mp member with rfl | later
    · exact ⟨_, List.mem_cons_self, first⟩
    · obtain ⟨item, listed, done⟩ := ih later
      exact ⟨item, List.mem_cons_of_mem _ listed, done⟩

theorem mapM_option_eq_ok_iff {step : α → Except ε β} {item : Option α} {value : Option β} :
    item.mapM step = .ok value ↔
      Option.Rel (fun item value => step item = .ok value) item value := by
  cases item with
  | none => cases value <;> simp [pure, Except.pure]
  | some item =>
    change (step item >>= fun made => pure (some made)) = _ ↔ _
    rw [bind_eq_ok_iff]
    cases value <;> simp [pure, Except.pure]

theorem forM_eq_ok_iff {check : α → Except ε Unit} {items : List α} :
    items.forM check = .ok () ↔ ∀ item ∈ items, check item = .ok () := by
  induction items with
  | nil => simp [pure, Except.pure]
  | cons item others ih =>
    change (check item >>= fun _ => others.forM check) = _ ↔ _
    rw [bind_eq_ok_iff, List.forall_mem_cons, ← ih]
    constructor
    · rintro ⟨_, first, rest⟩
      exact ⟨first, rest⟩
    · rintro ⟨first, rest⟩
      exact ⟨(), first, rest⟩

/-- Steps that each succeed on their items succeed together. -/
theorem exists_mapM_eq_ok {step : α → Except ε β} {items : List α}
    (each : ∀ item ∈ items, ∃ value, step item = .ok value) :
    ∃ values, items.mapM step = .ok values := by
  induction items with
  | nil => exact ⟨[], rfl⟩
  | cons item others ih =>
    obtain ⟨⟨value, done⟩, othersEach⟩ := List.forall_mem_cons.mp each
    obtain ⟨values, allDone⟩ := ih othersEach
    refine ⟨value :: values, mapM_eq_ok_iff.mpr ?_⟩
    exact .cons done (mapM_eq_ok_iff.mp allDone)

/-- A fold stops at the first item that its step refuses. -/
theorem foldlM_eq_error_iff {step : β → α → Except ε β} {items : List α} {start : β} {error : ε} :
    items.foldlM step start = .error error ↔ ∃ before item after state,
      items = before ++ item :: after ∧ before.foldlM step start = .ok state ∧
        step state item = .error error := by
  induction items generalizing start with
  | nil => simp [pure, Except.pure]
  | cons first others ih =>
    rw [List.foldlM_cons]
    constructor
    · intro stopped
      cases done : step start first with
      | error cause =>
        rw [done] at stopped
        cases stopped
        exact ⟨[], first, others, start, rfl, rfl, done⟩
      | ok next =>
        rw [done] at stopped
        obtain ⟨before, item, after, state, rfl, ran, refused⟩ := ih.mp stopped
        refine ⟨first :: before, item, after, state, rfl, ?_, refused⟩
        rw [List.foldlM_cons, done]
        exact ran
    · rintro ⟨before, item, after, state, split, ran, refused⟩
      cases before with
      | nil =>
        cases split
        cases ran
        rw [refused]
        rfl
      | cons head before =>
        cases split
        rw [List.foldlM_cons] at ran
        obtain ⟨next, done, ran⟩ := bind_eq_ok_iff.mp ran
        rw [done]
        exact ih.mpr ⟨before, item, after, state, rfl, ran, refused⟩

end MoveWallet.Outcome
