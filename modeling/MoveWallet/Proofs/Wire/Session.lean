import MoveWallet.Proofs.Wire.Progress
import MoveWallet.Transaction.Signed

/-! # Sessions

Values of any types of the wire format and single parts of them can be read one after the other of
one byte string, and reading can go on where a read failed. What is left is the end of the byte
string all the time. The only values that take no byte are byte strings of size zero, whose encoding
is empty; lists of all others are no longer than what is behind their length.
-/

namespace MoveWallet

open Reader

/-! ## Readers of the types -/

section Plain

variable {α : Type} [Wire α]

instance : Advances (Wire.read : Reader Bool) := Advances.bool

instance : Advances (Wire.read : Reader UInt8) := Advances.byte

instance : Advances (Wire.read : Reader String) := Advances.text

instance {size : Nat} : Forward (Wire.read : Reader (FixedBytes size)) := Forward.fixed size

instance {size : Nat} : Advances (Wire.read : Reader (FixedBytes (size + 1))) :=
  Advances.fixed size

instance [Forward (Wire.read : Reader α)] : Advances (Wire.read : Reader (List α)) :=
  Advances.list

instance [Forward (Wire.read : Reader α)] : Advances (Wire.read : Reader (Option α)) :=
  Advances.option

instance : Advances (Wire.read : Reader UInt16) := by
  change Advances (_ <$> _)
  infer_instance

instance : Advances (Wire.read : Reader UInt32) := by
  change Advances (_ <$> _)
  infer_instance

instance : Advances (Wire.read : Reader UInt64) := by
  change Advances (_ <$> _)
  infer_instance

instance {width : Nat} : Advances (Wire.read : Reader (BitVec (8 * (width + 1)))) := by
  change Advances (_ <$> _)
  infer_instance

instance : Advances (Wire.read : Reader U128) :=
  inferInstanceAs (Advances (Wire.read : Reader (BitVec (8 * (15 + 1)))))

instance : Advances (Wire.read : Reader U256) :=
  inferInstanceAs (Advances (Wire.read : Reader (BitVec (8 * (31 + 1)))))

instance : Advances (Wire.read : Reader Address) := by
  change Advances (_ <$> _)
  infer_instance

instance : Advances (Wire.read : Reader AuthenticationKey) := by
  change Advances (_ <$> _)
  infer_instance

instance : Advances (Wire.read : Reader Identifier) := by
  change Advances (_ >>= _)
  infer_instance

instance : Advances (Wire.read : Reader ModuleId) := by
  change Advances (_ >>= _)
  infer_instance

end Plain

/-! ### Types of the language -/

section TypeTags

variable {inner : Reader TypeTag} [Forward inner]

instance : Advances (TypeTag.readParts inner) := by
  unfold TypeTag.readParts
  infer_instance

instance (tag : UInt32) : Forward (TypeTag.readForm inner tag) := by
  unfold TypeTag.readForm
  infer_instance

instance (depth : Nat) : Advances (TypeTag.readNested depth) := by
  induction depth with
  | zero =>
    unfold TypeTag.readNested
    infer_instance
  | succ depth ih =>
    unfold TypeTag.readNested
    infer_instance

/-- The bound of the nesting depends on the input, and the law holds for every bound. -/
instance : Advances (Wire.read : Reader TypeTag) where
  suffix input :=
    have bounded : Forward (TypeTag.readNested (input.length + 1)) := inferInstance
    bounded.suffix input
  shorter input :=
    have bounded : Advances (TypeTag.readNested (input.length + 1)) := inferInstance
    bounded.shorter input

instance : Advances (Wire.read : Reader StructTag) :=
  inferInstanceAs (Advances (TypeTag.readParts Wire.read))

end TypeTags

/-! ### Keys and signatures -/

instance : Advances (Wire.read : Reader Ed25519PublicKey) := by
  change Advances (_ <$> _)
  infer_instance

instance : Advances (Wire.read : Reader Ed25519Signature) := by
  change Advances (_ <$> _)
  infer_instance

instance : Advances (Wire.read : Reader Secp256k1Signature) := by
  change Advances (_ <$> _)
  infer_instance

instance : Advances (Wire.read : Reader Secp256k1PublicKey) := by
  change Advances (_ >>= _)
  infer_instance

instance : Advances (Wire.read : Reader KeylessPublicKey) := by
  change Advances (_ >>= _)
  infer_instance

instance : Advances (Wire.read : Reader FederatedKeylessPublicKey) := by
  change Advances (_ >>= _)
  infer_instance

instance : Advances (Wire.read : Reader EphemeralPublicKey) := by
  change Advances (_ >>= _)
  infer_instance

instance : Advances (Wire.read : Reader EphemeralSignature) := by
  change Advances (_ >>= _)
  infer_instance

instance : Advances (Wire.read : Reader Groth16Proof) := by
  change Advances (_ >>= _)
  infer_instance

instance : Advances (Wire.read : Reader ZkProof) := by
  change Advances (_ >>= _)
  infer_instance

instance : Advances (Wire.read : Reader ZeroKnowledgeSig) := by
  change Advances (_ >>= _)
  infer_instance

instance : Advances (Wire.read : Reader EphemeralCertificate) := by
  change Advances (_ >>= _)
  infer_instance

instance : Advances (Wire.read : Reader KeylessSignature) := by
  change Advances (_ >>= _)
  infer_instance

instance : Advances (Wire.read : Reader AnyPublicKey) := by
  change Advances (_ >>= _)
  infer_instance

instance : Advances (Wire.read : Reader AnySignature) := by
  change Advances (_ >>= _)
  infer_instance

instance : Advances (Wire.read : Reader MultiKey) := by
  change Advances (_ >>= _)
  infer_instance

instance : Advances (Wire.read : Reader MultiKeySignature) := by
  change Advances (_ >>= _)
  infer_instance

/-! ### Payloads and transactions -/

instance : Advances (Wire.read : Reader ScriptArgument) := by
  change Advances (_ >>= _)
  infer_instance

instance : Advances (Wire.read : Reader Script) := by
  change Advances (_ >>= _)
  infer_instance

instance : Advances (Wire.read : Reader EntryFunction) := by
  change Advances (_ >>= _)
  infer_instance

instance : Advances (Wire.read : Reader MultisigCall) := by
  change Advances (_ >>= _)
  infer_instance

instance : Advances (Wire.read : Reader Multisig) := by
  change Advances (_ >>= _)
  infer_instance

instance : Advances (Wire.read : Reader Executable) := by
  change Advances (_ >>= _)
  infer_instance

instance : Advances (Wire.read : Reader ExtraConfig) := by
  change Advances (_ >>= _)
  infer_instance

instance : Advances (Wire.read : Reader InnerPayload) := by
  change Advances (_ >>= _)
  infer_instance

instance : Advances (Wire.read : Reader Payload) := by
  change Advances (_ >>= _)
  infer_instance

instance : Advances (Wire.read : Reader RawTransaction) := by
  change Advances (_ >>= _)
  infer_instance

instance : Advances (Wire.read : Reader TransactionWithSigners) := by
  change Advances (_ >>= _)
  infer_instance

instance : Advances (Wire.read : Reader AccountAuthenticator) := by
  change Advances (_ >>= _)
  infer_instance

instance : Advances (Wire.read : Reader TransactionAuthenticator) := by
  change Advances (_ >>= _)
  infer_instance

instance : Advances (Wire.read : Reader SignedTransaction) := by
  change Advances (_ >>= _)
  infer_instance

/-! ## The types of the wire format -/

/-- The types of the wire format: those of single values, and lists and options of all of them. A
boxed value is its content on the wire and the id of a chain is one byte, so that a `Box` of a type
stands here as the type itself and a `ChainId` as `UInt8`. -/
inductive WireType : (α : Type) → [Wire α] → Prop
  | bool : WireType Bool
  | u8 : WireType UInt8
  | u16 : WireType UInt16
  | u32 : WireType UInt32
  | u64 : WireType UInt64
  | u128 : WireType U128
  | u256 : WireType U256
  | text : WireType String
  | fixed (size : Nat) : WireType (FixedBytes size)
  | address : WireType Address
  | authenticationKey : WireType AuthenticationKey
  | identifier : WireType Identifier
  | moduleId : WireType ModuleId
  | typeTag : WireType TypeTag
  | structTag : WireType StructTag
  | ed25519PublicKey : WireType Ed25519PublicKey
  | ed25519Signature : WireType Ed25519Signature
  | secp256k1Signature : WireType Secp256k1Signature
  | secp256k1PublicKey : WireType Secp256k1PublicKey
  | keylessPublicKey : WireType KeylessPublicKey
  | federatedKeylessPublicKey : WireType FederatedKeylessPublicKey
  | ephemeralPublicKey : WireType EphemeralPublicKey
  | ephemeralSignature : WireType EphemeralSignature
  | groth16Proof : WireType Groth16Proof
  | zkProof : WireType ZkProof
  | zeroKnowledgeSig : WireType ZeroKnowledgeSig
  | ephemeralCertificate : WireType EphemeralCertificate
  | keylessSignature : WireType KeylessSignature
  | anyPublicKey : WireType AnyPublicKey
  | anySignature : WireType AnySignature
  | multiKey : WireType MultiKey
  | multiKeySignature : WireType MultiKeySignature
  | scriptArgument : WireType ScriptArgument
  | script : WireType Script
  | entryFunction : WireType EntryFunction
  | multisigCall : WireType MultisigCall
  | multisig : WireType Multisig
  | executable : WireType Executable
  | extraConfig : WireType ExtraConfig
  | innerPayload : WireType InnerPayload
  | payload : WireType Payload
  | rawTransaction : WireType RawTransaction
  | transactionWithSigners : WireType TransactionWithSigners
  | accountAuthenticator : WireType AccountAuthenticator
  | transactionAuthenticator : WireType TransactionAuthenticator
  | signedTransaction : WireType SignedTransaction
  | list {α : Type} [Wire α] : WireType α → WireType (List α)
  | option {α : Type} [Wire α] : WireType α → WireType (Option α)

namespace WireType

variable {α : Type} [Wire α]

theorem forward (wire : WireType α) : Forward (Wire.read : Reader α) := by
  induction wire <;> infer_instance

/-- The encodings of byte strings of size zero are empty, and there are no others like them. -/
theorem advances (wire : WireType α) (nonempty : α ≠ FixedBytes 0) :
    Advances (Wire.read : Reader α) := by
  cases wire with
  | fixed size =>
    cases size with
    | zero => exact absurd rfl nonempty
    | succ size => infer_instance
  | list item =>
    have := item.forward
    infer_instance
  | option item =>
    have := item.forward
    infer_instance
  | _ => infer_instance

end WireType

/-! ## Sessions -/

/-- What can be read: single parts of values, and values of all types. -/
inductive Offered : {α : Type} → Reader α → Prop
  | take (count : Nat) : Offered (take count)
  | fixed (size : Nat) : Offered (fixed size)
  | byte : Offered byte
  | bool : Offered bool
  | number (width : Nat) : Offered (number width)
  | uleb128 : Offered uleb128
  | length : Offered length
  | tag : Offered tag
  | bytes : Offered bytes
  | text : Offered text
  | finish : Offered finish
  | value {α : Type} [Wire α] : WireType α → Offered (Wire.read : Reader α)

theorem Offered.forward {α : Type} {reader : Reader α} (offered : Offered reader) :
    Forward reader := by
  cases offered with
  | value wire => exact wire.forward
  | _ => infer_instance

/-- A read of a session. -/
structure Read where
  {α : Type}
  reader : Reader α
  offered : Offered reader

/-- What is left of a byte string after some reads, the failed ones among them. -/
def leftAfter (reads : List Read) (input : Bytes) : Bytes :=
  reads.foldl (fun left read => (read.reader left).2) input

private theorem leftAfter_append (reads later : List Read) (input : Bytes) :
    leftAfter (reads ++ later) input = leftAfter later (leftAfter reads input) :=
  List.foldl_append

private theorem leftAfter_suffix (reads : List Read) (input : Bytes) :
    leftAfter reads input <:+ input := by
  induction reads generalizing input with
  | nil => exact List.suffix_rfl
  | cons read others ih => exact (ih _).trans (read.offered.forward.suffix _ _ _ rfl)

/-- Types with two values are told from the byte strings of size zero. -/
private theorem ne_fixedBytes_zero {α : Type} {value other : α} (distinct : value ≠ other) :
    α ≠ FixedBytes 0 := by
  rintro rfl
  obtain ⟨bytes, none⟩ := value
  obtain ⟨bytes', none'⟩ := other
  obtain rfl := List.eq_nil_of_length_eq_zero none
  obtain rfl := List.eq_nil_of_length_eq_zero none'
  exact distinct rfl

/-- Whatever is read one after the other, what is left is the end of what was left before, so that
it and what was consumed make up the input. A read that is too long consumes nothing and tells how
many bytes it asked for and how many there are. Values take a byte at least, lists have as many
items as their length says and are bounded by the bytes behind it, and so are the arguments of a
call, which are lists of byte strings. Only byte strings of size zero take no byte and are not
bounded in lists. -/
theorem reads_disciplined :
    (∀ (input : Bytes) (reads later : List Read),
      leftAfter (reads ++ later) input <:+ leftAfter reads input ∧
        ∃ consumed, consumed ++ leftAfter reads input = input) ∧
    (∀ (input : Bytes) (count : Nat), input.length < count →
      take count input = (.error (.unexpectedEnd count input.length), input) ∧
      fixed count input = (.error (.unexpectedEnd count input.length), input) ∧
      number count input = (.error (.unexpectedEnd count input.length), input)) ∧
    (∀ (input middle : Bytes) (count : Nat), length input = (.ok count, middle) →
      middle.length < count →
      bytes input = (.error (.unexpectedEnd count middle.length), middle)) ∧
    (∀ (α : Type) [Wire α], WireType α →
      (∀ input values rest, (Wire.read : Reader (List α)) input = (.ok values, rest) →
        ∃ middle, length input = (.ok values.length, middle) ∧ middle.length < input.length) ∧
      (α ≠ FixedBytes 0 →
        (∀ input value rest, (Wire.read : Reader α) input = (.ok value, rest) →
          rest.length < input.length) ∧
        BoundsLists (Wire.read : Reader α))) ∧
    BoundsLists bytes := by
  refine ⟨?_, ?_, fun _ _ _ => bytes_of_short, ?_, Advances.bytes.boundsLists⟩
  · intro input reads later
    rw [leftAfter_append]
    exact ⟨leftAfter_suffix later _, leftAfter_suffix reads input⟩
  · exact fun input count short =>
      ⟨take_of_short short, fixed_of_short short, number_of_short short⟩
  · intro α _ wire
    refine ⟨fun input values rest ran => ?_, fun nonempty => ?_⟩
    · obtain ⟨middle, declared, -⟩ := exists_length_of_list ran
      exact ⟨middle, declared, Advances.length.shorter _ _ _ declared⟩
    · have advances := wire.advances nonempty
      exact ⟨advances.shorter, advances.boundsLists⟩

/-- A byte that is no truth value is consumed, a byte string of 32 bytes is then refused, and a list
of types that is longer than its bytes fails. -/
theorem reads_disciplined_bool :
    (leftAfter [⟨bool, .bool⟩] [7, 9, 1, 2] = [9, 1, 2] ∧
      leftAfter [⟨bool, .bool⟩, ⟨fixed 32, .fixed 32⟩, ⟨Wire.read, .value (.list .typeTag)⟩]
        [7, 9, 1, 2] <:+ [9, 1, 2]) ∧
    (([9, 1, 2] : Bytes).length < 32 ∧
      fixed 32 [9, 1, 2] = (.error (.unexpectedEnd 32 3), [9, 1, 2])) ∧
    (length [9, 1, 2] = (.ok 9, [1, 2]) ∧
      bytes [9, 1, 2] = (.error (.unexpectedEnd 9 2), [1, 2])) ∧
    (WireType TypeTag ∧ TypeTag ≠ FixedBytes 0 ∧
      (Wire.read : Reader TypeTag) [1, 2] = (.ok .u8, [2]) ∧ ([2] : Bytes).length < 2 ∧
      ∃ error rest, list (Wire.read : Reader TypeTag) [9, 1, 2] = (.error error, rest)) := by
  obtain ⟨left, short, short', values, -⟩ := reads_disciplined
  have declared : length [9, 1, 2] = (.ok 9, [1, 2]) := by decide
  have several : TypeTag ≠ FixedBytes 0 := ne_fixedBytes_zero (show TypeTag.u8 ≠ .u16 by simp)
  have typed : (Wire.read : Reader TypeTag) [1, 2] = (.ok .u8, [2]) := rfl
  have taken := ((values TypeTag .typeTag).2 several).1 _ _ _ typed
  have bounds := ((values TypeTag .typeTag).2 several).2
  have first : leftAfter [⟨bool, .bool⟩] [7, 9, 1, 2] = [9, 1, 2] := rfl
  refine ⟨⟨first, ?_⟩, ⟨by decide, (short _ _ (by decide)).2.1⟩,
    ⟨declared, short' _ _ _ declared (by decide)⟩, .typeTag, several, typed, taken,
    bounds.refused _ _ _ declared (by decide)⟩
  have others := (left [7, 9, 1, 2] [⟨bool, .bool⟩]
    [⟨fixed 32, .fixed 32⟩, ⟨Wire.read, .value (.list .typeTag)⟩]).1
  rwa [first] at others

/-- Five byte strings of size zero are read of the one byte that says how many there are. -/
theorem emptyItems_unbounded :
    (WireType (FixedBytes 0) ∧
      (Wire.read : Reader (FixedBytes 0)) [5] = (.ok ⟨[], rfl⟩, [5])) ∧
    length [5] = (.ok 5, []) ∧
    (Wire.read : Reader (List (FixedBytes 0))) [5] = (.ok (List.replicate 5 ⟨[], rfl⟩), []) ∧
    ¬ ∀ (α : Type) [Wire α], WireType α → ∀ input values rest,
      (Wire.read : Reader (List α)) input = (.ok values, rest) →
        values.length + rest.length ≤ input.length := by
  have read : (Wire.read : Reader (List (FixedBytes 0))) [5] =
      (.ok (List.replicate 5 ⟨[], rfl⟩), []) := rfl
  refine ⟨⟨.fixed 0, rfl⟩, rfl, read, fun bounded => ?_⟩
  exact absurd (bounded (FixedBytes 0) (.fixed 0) _ _ _ read) (by decide)

end MoveWallet
