import MoveWallet.Proofs.Wire.Exact

/-! # How far a reader gets

Whether it succeeds or not, a reader leaves the end of the bytes it was given, and most readers that
succeed leave fewer bytes than there were. A sequence does so as soon as its first reader does. A
list of items that all take a byte therefore has no more items than there are bytes behind its
length, and a length that claims more is refused.
-/

namespace MoveWallet

namespace Reader

variable {α β : Type}

/-- A reader that leaves the end of the bytes it was given, also when it fails. -/
class Forward (reader : Reader α) : Prop where
  suffix : ∀ input outcome rest, reader input = (outcome, rest) → rest <:+ input

/-- A reader that takes at least one byte whenever it succeeds. -/
class Advances (reader : Reader α) : Prop extends Forward reader where
  shorter : ∀ input value rest, reader input = (.ok value, rest) → rest.length < input.length

namespace Forward

variable {reader other item : Reader α}

/-! ## Sequences and alternatives -/

instance pure (value : α) : Forward (Pure.pure value) where
  suffix input outcome rest ran := by
    cases ran
    exact List.suffix_rfl

instance fail (error : DecodeError) : Forward (Reader.fail error : Reader α) where
  suffix input outcome rest ran := by
    cases ran
    exact List.suffix_rfl

instance bind {next : α → Reader β} [first : Forward reader]
    [others : ∀ value, Forward (next value)] : Forward (reader >>= next) where
  suffix input outcome rest ran := by
    rw [bind_apply] at ran
    rcases read : reader input with ⟨error | value, middle⟩
    · rw [read] at ran
      cases ran
      exact first.suffix _ _ _ read
    · rw [read] at ran
      exact ((others value).suffix _ _ _ ran).trans (first.suffix _ _ _ read)

instance map {make : α → β} [Forward reader] : Forward (make <$> reader) := by
  rw [map_eq_pure_bind]
  infer_instance

instance ite {condition : Prop} [Decidable condition] [first : Forward reader]
    [second : Forward other] : Forward (if condition then reader else other) := by
  split
  · exact first
  · exact second

instance checked (typeName : String) (outcome : Except String α) :
    Forward (Reader.checked typeName outcome) := by
  unfold Reader.checked
  split <;> infer_instance

/-! ## Primitive readers -/

instance take (count : Nat) : Forward (Reader.take count) where
  suffix input outcome rest ran := by
    unfold Reader.take at ran
    split at ran
    · cases ran
      exact List.drop_suffix count input
    · cases ran
      exact List.suffix_rfl

instance fixed (size : Nat) : Forward (Reader.fixed size) where
  suffix input outcome rest ran := by
    unfold Reader.fixed at ran
    split at ran
    · cases ran
      exact List.drop_suffix size input
    · cases ran
      exact List.suffix_rfl

instance byte : Forward Reader.byte := by
  unfold Reader.byte
  infer_instance

instance number (width : Nat) : Forward (Reader.number width) := by
  unfold Reader.number
  infer_instance

instance groups (count shift value : Nat) : Forward (Reader.groups count shift value) := by
  induction count generalizing shift value with
  | zero =>
    unfold Reader.groups
    infer_instance
  | succ count ih =>
    unfold Reader.groups
    dsimp only
    infer_instance

instance finish : Forward Reader.finish where
  suffix input outcome rest ran := by
    unfold Reader.finish at ran
    split at ran <;> cases ran <;> exact List.suffix_rfl

instance many [Forward item] (count : Nat) : Forward (Reader.many item count) := by
  induction count with
  | zero =>
    unfold Reader.many
    infer_instance
  | succ count ih =>
    unfold Reader.many
    infer_instance

end Forward

namespace Advances

variable {reader item : Reader α}

/-! ## Readers that take a byte -/

/-- There is no success to speak of. -/
instance fail (error : DecodeError) : Advances (Reader.fail error : Reader α) where
  shorter input value rest ran := by cases ran

instance bind {next : α → Reader β} [first : Advances reader]
    [others : ∀ value, Forward (next value)] : Advances (reader >>= next) where
  shorter input value rest ran := by
    obtain ⟨part, middle, read, done⟩ := bind_eq_ok_iff.mp ran
    exact ((others part).suffix _ _ _ done).length_le.trans_lt (first.shorter _ _ _ read)

instance map {make : α → β} [Advances reader] : Advances (make <$> reader) := by
  rw [map_eq_pure_bind]
  infer_instance

instance fixed (size : Nat) : Advances (Reader.fixed (size + 1)) where
  shorter input value rest ran := by
    unfold Reader.fixed at ran
    split at ran
    next enough =>
      cases ran
      rw [List.length_drop]
      omega
    next => cases ran

instance byte : Advances Reader.byte := by
  unfold Reader.byte
  infer_instance

instance number (width : Nat) : Advances (Reader.number (width + 1)) := by
  unfold Reader.number
  infer_instance

instance bool : Advances Reader.bool := by
  unfold Reader.bool
  infer_instance

instance groups (count shift value : Nat) : Advances (Reader.groups (count + 1) shift value) := by
  unfold Reader.groups
  dsimp only
  infer_instance

instance uleb128 : Advances Reader.uleb128 := groups 4 0 0

instance tag : Advances Reader.tag := uleb128

instance length : Advances Reader.length := by
  unfold Reader.length
  infer_instance

instance bytes : Advances Reader.bytes := by
  unfold Reader.bytes
  infer_instance

instance text : Advances Reader.text := by
  have decoded (bytes : Bytes) : Forward (match Bytes.toText? bytes with
      | some text => Pure.pure text
      | none => Reader.fail .invalidUtf8) := by
    split <;> infer_instance
  unfold Reader.text
  infer_instance

instance sized (typeName : String) (size : Nat) : Advances (Reader.sized typeName size) := by
  have fitted (bytes : Bytes) : Forward (match FixedBytes.ofList? size bytes with
      | some value => Pure.pure value
      | none => Reader.fail (.invalidLength typeName size bytes.length)) := by
    split <;> infer_instance
  unfold Reader.sized
  infer_instance

instance list [Forward item] : Advances (Reader.list item) := by
  unfold Reader.list
  infer_instance

instance option [Forward item] : Advances (Reader.option item) := by
  unfold Reader.option
  infer_instance

end Advances

/-! ## Reads that are too long -/

variable {input middle rest : Bytes} {count : Nat}

theorem take_of_short (short : input.length < count) :
    take count input = (.error (.unexpectedEnd count input.length), input) :=
  if_neg (Nat.not_le.mpr short)

theorem fixed_of_short (short : input.length < count) :
    fixed count input = (.error (.unexpectedEnd count input.length), input) :=
  dif_neg (Nat.not_le.mpr short)

theorem number_of_short (short : input.length < count) :
    number count input = (.error (.unexpectedEnd count input.length), input) := by
  rw [number, bind_apply, fixed_of_short short]

/-- The length stays consumed, and the bytes behind it are all left. -/
theorem bytes_of_short (declared : length input = (.ok count, middle))
    (short : middle.length < count) :
    bytes input = (.error (.unexpectedEnd count middle.length), middle) := by
  rw [bytes, bind_apply, declared]
  exact take_of_short short

/-! ## Lists -/

variable {item : Reader α} {values : List α}

private theorem length_of_many (ran : many item count input = (.ok values, rest)) :
    values.length = count := by
  induction count generalizing input values with
  | zero =>
    obtain ⟨rfl, -⟩ := pure_eq_ok_iff.mp ran
    rfl
  | succ count ih =>
    obtain ⟨first, middle, -, done⟩ := bind_eq_ok_iff.mp ran
    obtain ⟨others, rest', ran', made⟩ := bind_eq_ok_iff.mp done
    obtain ⟨rfl, rfl⟩ := pure_eq_ok_iff.mp made
    rw [List.length_cons, ih ran']

/-- Each item takes a byte. -/
private theorem length_add_of_many [advances : Advances item]
    (ran : many item count input = (.ok values, rest)) : count + rest.length ≤ input.length := by
  induction count generalizing input values with
  | zero =>
    obtain ⟨-, rfl⟩ := pure_eq_ok_iff.mp ran
    exact (Nat.zero_add _).le
  | succ count ih =>
    obtain ⟨first, middle, read, done⟩ := bind_eq_ok_iff.mp ran
    obtain ⟨others, rest', ran', made⟩ := bind_eq_ok_iff.mp done
    obtain ⟨rfl, rfl⟩ := pure_eq_ok_iff.mp made
    have taken := advances.shorter _ _ _ read
    have left := ih ran'
    omega

/-- A list has as many items as its length says. -/
theorem exists_length_of_list (ran : list item input = (.ok values, rest)) :
    ∃ middle, length input = (.ok values.length, middle) ∧
      many item values.length middle = (.ok values, rest) := by
  obtain ⟨count, middle, declared, read⟩ := bind_eq_ok_iff.mp ran
  obtain rfl := length_of_many read
  exact ⟨middle, declared, read⟩

/-- The bytes behind the length bound the lists of an item. -/
structure BoundsLists (item : Reader α) : Prop where
  bounded : ∀ input values rest, list item input = (.ok values, rest) →
    ∃ middle, length input = (.ok values.length, middle) ∧
      values.length + rest.length ≤ middle.length
  refused : ∀ input count middle, length input = (.ok count, middle) → middle.length < count →
    ∃ error rest, list item input = (.error error, rest)

theorem Advances.boundsLists (advances : Advances item) : BoundsLists item where
  bounded input values rest ran := by
    obtain ⟨middle, declared, read⟩ := exists_length_of_list ran
    exact ⟨middle, declared, length_add_of_many read⟩
  refused input count middle declared short := by
    rcases read : many item count middle with ⟨error | values, rest⟩
    · refine ⟨error, rest, ?_⟩
      rw [Reader.list, bind_apply, declared]
      exact read
    · have enough := length_add_of_many read
      omega

end Reader

end MoveWallet
