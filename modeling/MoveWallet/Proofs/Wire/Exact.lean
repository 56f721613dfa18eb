import MoveWallet.Proofs.Outcome
import MoveWallet.Wire.Basic

/-! # Exact readers

A reader is exact for a writer when it accepts precisely what the writer makes of the values that
fit, and leaves precisely what follows. One law thus holds both directions: what is written is read
back before any other bytes, and nothing else is read as the same value. The law passes through
sequences, alternatives and lists, so that each type follows from its parts.
-/

namespace MoveWallet

open Outcome

namespace Reader

variable {α β : Type}

/-- A reader accepts what a writer makes of the values that fit, and nothing else. -/
def Exact (reader : Reader α) (write : α → Bytes) (Fits : α → Prop) : Prop :=
  ∀ input value rest,
    reader input = (.ok value, rest) ↔ Fits value ∧ input = write value ++ rest

@[simp] theorem pure_eq_ok_iff {made value : α} {input rest : Bytes} :
    (pure made : Reader α) input = (.ok value, rest) ↔ made = value ∧ input = rest := by
  simp [pure_apply]

@[simp] theorem fail_eq_ok_iff {error : DecodeError} {value : α} {input rest : Bytes} :
    (fail error : Reader α) input = (.ok value, rest) ↔ False := by
  simp [fail]

@[simp] theorem checked_eq_ok_iff {typeName : String} {outcome : Except String α} {value : α}
    {input rest : Bytes} :
    checked typeName outcome input = (.ok value, rest) ↔ outcome = .ok value ∧ input = rest := by
  cases outcome <;> simp [checked]

theorem map_eq_ok_iff {make : α → β} {reader : Reader α} {value : β} {input rest : Bytes} :
    (make <$> reader) input = (.ok value, rest) ↔
      ∃ part, reader input = (.ok part, rest) ∧ make part = value := by
  rw [map_eq_pure_bind, bind_eq_ok_iff]
  simp

theorem ite_eq_ok_iff {condition : Prop} [Decidable condition] {reader other : Reader α} {value : α}
    {input rest : Bytes} :
    (if condition then reader else other) input = (.ok value, rest) ↔
      condition ∧ reader input = (.ok value, rest) ∨
        ¬ condition ∧ other input = (.ok value, rest) := by
  by_cases holds : condition <;> simp [holds]

namespace Exact

variable {reader : Reader α} {next : α → Reader β} {write write' : α → Bytes}
  {Fits Fits' : α → Prop} {writeOthers : β → Bytes} {Others : α → β → Prop}

theorem congr (exact : Exact reader write Fits) (written : ∀ value, write value = write' value)
    (fits : ∀ value, Fits value ↔ Fits' value) : Exact reader write' Fits' := by
  intro input value rest
  rw [exact input value rest, written value, fits value]

theorem pure (made : α) : Exact (pure made) (fun _ => []) (made = ·) := by
  intro input value rest
  simp

/-- The last step of a reader whose parts are checked; the check keeps the parts. -/
theorem checked {ε : Type} (typeName : String) (message : ε → String) (outcome : Except ε α) :
    Exact (Reader.checked typeName (outcome.mapError message)) (fun _ => [])
      (outcome = .ok ·) := by
  intro input value rest
  simp

/-- A part of a value is read before the others, which settle what value it is a part of. -/
theorem bind (part : β → α) (first : Exact reader write Fits)
    (others : ∀ value, Exact (next value) writeOthers (Others value))
    (names : ∀ value whole, Others value whole → part whole = value := by grind) :
    Exact (reader >>= next) (fun whole => write (part whole) ++ writeOthers whole)
      (fun whole => Fits (part whole) ∧ Others (part whole) whole) := by
  intro input whole rest
  rw [bind_eq_ok_iff]
  constructor
  · rintro ⟨value, middle, ran, done⟩
    obtain ⟨fits, rfl⟩ := (first _ _ _).mp ran
    obtain ⟨othersFit, rfl⟩ := (others _ _ _ _).mp done
    obtain rfl := names _ _ othersFit
    exact ⟨⟨fits, othersFit⟩, (List.append_assoc ..).symm⟩
  · rintro ⟨⟨fits, othersFit⟩, rfl⟩
    refine ⟨part whole, writeOthers whole ++ rest, (first _ _ _).mpr ⟨fits, ?_⟩,
      (others _ _ _ _).mpr ⟨othersFit, rfl⟩⟩
    exact List.append_assoc ..

/-- A value of one part. -/
theorem map (make : α → β) (part : β → α) (exact : Exact reader write Fits)
    (left : ∀ value, Fits value → part (make value) = value := by intros; rfl) :
    Exact (make <$> reader) (fun whole => write (part whole))
      (fun whole => Fits (part whole) ∧ make (part whole) = whole) := by
  intro input whole rest
  rw [map_eq_ok_iff]
  constructor
  · rintro ⟨value, ran, rfl⟩
    obtain ⟨fits, rfl⟩ := (exact _ _ _).mp ran
    simp only [left value fits, fits, true_and]
  · rintro ⟨⟨fits, made⟩, rfl⟩
    exact ⟨part whole, (exact _ _ _).mpr ⟨fits, rfl⟩, made⟩

/-- The values that are made of one part and written as this part is. -/
theorem image (make : α → β) {writeWhole : β → Bytes} {Whole : β → Prop}
    (exact : Exact reader write Fits) (written : ∀ value, writeWhole (make value) = write value)
    (made : ∀ whole, Whole whole ↔ ∃ value, Fits value ∧ make value = whole) :
    Exact (make <$> reader) writeWhole Whole := by
  intro input whole rest
  rw [map_eq_ok_iff, made]
  constructor
  · rintro ⟨value, ran, rfl⟩
    obtain ⟨fits, rfl⟩ := (exact _ _ _).mp ran
    exact ⟨⟨value, fits, rfl⟩, by rw [written]⟩
  · rintro ⟨⟨value, fits, rfl⟩, rfl⟩
    exact ⟨value, (exact _ _ _).mpr ⟨fits, by rw [written]⟩, rfl⟩

/-- What is written is read back, whatever follows it. -/
theorem read_write (exact : Exact reader write Fits) {value : α} (fits : Fits value)
    (rest : Bytes) : reader (write value ++ rest) = (.ok value, rest) :=
  (exact _ _ _).mpr ⟨fits, rfl⟩

/-- A part that was written is read before the others. -/
theorem bind_write (exact : Exact reader write Fits) {value : α} (fits : Fits value)
    (next : α → Reader β) (rest : Bytes) :
    (reader >>= next) (write value ++ rest) = next value rest := by
  rw [bind_apply, exact.read_write fits rest]

/-- Reading a whole byte string accepts the encodings of the values that fit. -/
theorem run_eq_ok_iff (exact : Exact reader write Fits) {input : Bytes} {value : α} :
    run reader input = .ok value ↔ Fits value ∧ input = write value := by
  have finished : ∀ rest left : Bytes, finish rest = (.ok (), left) ↔ rest = [] ∧ left = [] := by
    intro rest left
    cases rest <;> simp [finish, eq_comm]
  have whole : run reader input = .ok value ↔ ∃ left, (do
      let value ← reader
      finish
      Pure.pure value : Reader α) input = (.ok value, left) := by
    simp [run, Prod.ext_iff]
  rw [whole]
  simp only [bind_eq_ok_iff, exact _ _ _, finished, pure_eq_ok_iff]
  constructor
  · rintro ⟨_, _, _, ⟨fits, rfl⟩, _, _, ⟨rfl, rfl⟩, rfl, rfl⟩
    exact ⟨fits, List.append_nil _⟩
  · rintro ⟨fits, rfl⟩
    exact ⟨[], value, [], ⟨fits, (List.append_nil _).symm⟩, (), [], ⟨rfl, rfl⟩, rfl, rfl⟩

end Exact

end Reader

end MoveWallet
