import MoveWallet.Bytes.Basic
import MoveWallet.Bytes.Hex

/-! # Reading the wire format

A reader takes a byte string and gives a value or an error, together with the bytes it has left.
The bytes left are part of a failure too: a reader keeps what it consumed before it failed, except
that a read that asks for more bytes than there are consumes none of them.
-/

namespace MoveWallet

/-- Why bytes are not the encoding of a value. -/
inductive DecodeError
  /-- A read asked for more bytes than were left. -/
  | unexpectedEnd (requested remaining : Nat)
  /-- The byte of a truth value is neither 0 nor 1. -/
  | invalidBool (byte : UInt8)
  /-- The bytes of a text are not UTF-8. -/
  | invalidUtf8
  /-- A number in groups of seven bits does not fit 32 bits. -/
  | groupOverflow
  /-- A number in groups of seven bits ends in a zero group. -/
  | redundantGroup
  /-- There is no alternative with this tag. -/
  | unknownVariant (typeName : String) (tag : UInt32)
  /-- A byte string of fixed size was written with another length. -/
  | invalidLength (typeName : String) (expected actual : Nat)
  /-- The parts were read but do not form a value. -/
  | invalidValue (typeName reason : String)
  /-- A complete value is followed by more bytes. -/
  | trailingBytes (count : Nat)
  deriving DecidableEq

def DecodeError.message : DecodeError → String
  | unexpectedEnd requested remaining =>
    s!"unexpected end of input: requested {requested} bytes, {remaining} remaining"
  | invalidBool byte => "invalid bool byte " ++ Hex.text [byte]
  | invalidUtf8 => "string is not valid utf-8"
  | groupOverflow => "uleb128 value overflows u32"
  | redundantGroup => "non-canonical uleb128 encoding"
  | unknownVariant typeName tag => s!"unknown variant {tag} for {typeName}"
  | invalidLength typeName expected actual =>
    s!"{typeName} must be {expected} bytes, got {actual}"
  | invalidValue typeName reason => s!"invalid {typeName}: {reason}"
  | trailingBytes count => s!"{count} trailing bytes after value"

/-- A reader of values of one type. -/
def Reader (α : Type) : Type := Bytes → Except DecodeError α × Bytes

namespace Reader

variable {α β : Type}

instance : Monad Reader where
  pure value := fun input => (.ok value, input)
  bind reader next := fun input =>
    match reader input with
    | (.ok value, rest) => next value rest
    | (.error error, rest) => (.error error, rest)

theorem pure_apply (value : α) (input : Bytes) :
    (pure value : Reader α) input = (.ok value, input) := rfl

theorem bind_apply (reader : Reader α) (next : α → Reader β) (input : Bytes) :
    (reader >>= next) input =
      match reader input with
      | (.ok value, rest) => next value rest
      | (.error error, rest) => (.error error, rest) := rfl

/-- A sequence of readers succeeds exactly when each of them does on what the one before left. -/
theorem bind_eq_ok_iff {reader : Reader α} {next : α → Reader β} {input rest : Bytes} {value : β} :
    (reader >>= next) input = (.ok value, rest) ↔
      ∃ first middle,
        reader input = (.ok first, middle) ∧ next first middle = (.ok value, rest) := by
  rw [bind_apply]
  cases ran : reader input with
  | mk outcome left =>
    cases outcome with
    | error error => simp
    | ok first =>
      constructor
      · intro done
        exact ⟨first, left, rfl, done⟩
      · rintro ⟨_, _, same, done⟩
        cases same
        exact done

private theorem map_id (reader : Reader α) : id <$> reader = reader := by
  funext input
  show (match reader input with
    | (.ok value, rest) => (.ok value, rest)
    | (.error error, rest) => (.error error, rest)) = reader input
  split <;> simp_all

private theorem bind_bind {γ : Type} (reader : Reader α) (next : α → Reader β)
    (last : β → Reader γ) :
    reader >>= next >>= last = reader >>= fun value => next value >>= last := by
  funext input
  simp only [bind_apply]
  cases reader input with
  | mk outcome left => cases outcome <;> rfl

instance : LawfulMonad Reader := LawfulMonad.mk' Reader map_id (fun _ _ => rfl) bind_bind

def fail (error : DecodeError) : Reader α := fun input => (.error error, input)

/-- A given number of bytes. -/
def take (count : Nat) : Reader Bytes := fun input =>
  if count ≤ input.length then (.ok (input.take count), input.drop count)
  else (.error (.unexpectedEnd count input.length), input)

/-- A byte string of fixed size, as it stands. -/
def fixed (size : Nat) : Reader (FixedBytes size) := fun input =>
  if enough : size ≤ input.length then
    (.ok ⟨input.take size, by rw [List.length_take, Nat.min_eq_left enough]⟩, input.drop size)
  else (.error (.unexpectedEnd size input.length), input)

def byte : Reader UInt8 := do
  let bytes ← fixed 1
  pure (UInt8.ofNat bytes.toNatLE)

/-- A number of the given width, least significant byte first. -/
def number (width : Nat) : Reader Nat := do
  let bytes ← fixed width
  pure bytes.toNatLE

/-- A truth value: the byte 0 or 1. -/
def bool : Reader Bool := do
  let byte ← byte
  if byte = 0 then pure false
  else if byte = 1 then pure true
  else fail (.invalidBool byte)

/-- The largest number of groups of seven bits. -/
def maxGroups : Nat := 5

/-- The remaining groups of a number, at most the given count, the next one shifted by `shift`. -/
def groups : (count shift value : Nat) → Reader UInt32
  | 0, _, _ => fail .groupOverflow
  | count + 1, shift, value => do
    let byte ← byte
    let group := byte.toNat % 128
    let sum := value + group * Nat.pow 2 shift
    if UInt32.size ≤ sum then fail .groupOverflow
    else if byte.toNat < 128 then
      if 0 < shift ∧ group = 0 then fail .redundantGroup else pure (UInt32.ofNat sum)
    else groups count (shift + 7) sum

/-- A 32-bit number in groups of seven bits, the lowest first, each but the last with its high bit
set. The last of several groups may not be zero, so every number has one form. -/
def uleb128 : Reader UInt32 := groups maxGroups 0 0

def length : Reader Nat := do
  let length ← uleb128
  pure length.toNat

def tag : Reader UInt32 := uleb128

/-- A byte string behind its length. -/
def bytes : Reader Bytes := do
  let length ← length
  take length

/-- A text: its UTF-8 form behind its length in bytes. -/
def text : Reader String := do
  let bytes ← bytes
  match Bytes.toText? bytes with
  | some text => pure text
  | none => fail .invalidUtf8

/-- A given number of values one after the other. -/
def many (item : Reader α) : Nat → Reader (List α)
  | 0 => pure []
  | count + 1 => do
    let first ← item
    let others ← many item count
    pure (first :: others)

/-- A list: its length and then its items. -/
def list (item : Reader α) : Reader (List α) := do
  let count ← length
  many item count

/-- An optional value behind the truth value that tells whether it is there. -/
def option (item : Reader α) : Reader (Option α) := do
  let present ← bool
  if present then do
    let value ← item
    pure (some value)
  else pure none

/-- A byte string of fixed size that is written behind its length all the same. -/
def sized (typeName : String) (size : Nat) : Reader (FixedBytes size) := do
  let bytes ← bytes
  match FixedBytes.ofList? size bytes with
  | some value => pure value
  | none => fail (.invalidLength typeName size bytes.length)

/-- The value that a check makes of the parts that were read. -/
def checked (typeName : String) (outcome : Except String α) : Reader α :=
  match outcome with
  | .ok value => pure value
  | .error reason => fail (.invalidValue typeName reason)

/-- Fail unless all bytes are consumed. -/
def finish : Reader Unit := fun input =>
  if input.isEmpty then (.ok (), input) else (.error (.trailingBytes input.length), input)

/-- Read a whole byte string. -/
def run (reader : Reader α) (input : Bytes) : Except DecodeError α :=
  ((do
    let value ← reader
    finish
    pure value : Reader α) input).1

end Reader

end MoveWallet
