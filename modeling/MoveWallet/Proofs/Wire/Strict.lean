import MoveWallet.Proofs.Wire.Incremental
import MoveWallet.Proofs.Wire.Transaction
import MoveWallet.Wire.Shape

/-! # Encodings that are cut off or padded are refused

Every type of the wire format is read incrementally and exactly. A proper front of an encoding
therefore runs out of bytes before any check of the value fails, wherever it is cut, and a whole
encoding with more bytes behind it is told from one without by the bytes that are left.
-/

namespace MoveWallet

open Reader

/-! ## Types of the wire format are read incrementally -/

section Plain

variable {α : Type} [Wire α]

instance : Incremental (Wire.read : Reader Bool) := Extends.bool

instance : Incremental (Wire.read : Reader UInt8) := Extends.byte

instance : Incremental (Wire.read : Reader String) := Extends.text

instance {size : Nat} : Incremental (Wire.read : Reader (FixedBytes size)) := Extends.fixed size

instance [Incremental (Wire.read : Reader α)] : Incremental (Wire.read : Reader (List α)) :=
  Extends.list

instance [Incremental (Wire.read : Reader α)] : Incremental (Wire.read : Reader (Option α)) :=
  Extends.option

instance : Incremental (Wire.read : Reader UInt16) := by
  change Incremental (_ <$> _)
  infer_instance

instance : Incremental (Wire.read : Reader UInt32) := by
  change Incremental (_ <$> _)
  infer_instance

instance : Incremental (Wire.read : Reader UInt64) := by
  change Incremental (_ <$> _)
  infer_instance

instance {width : Nat} : Incremental (Wire.read : Reader (BitVec (8 * width))) := by
  change Incremental (_ <$> _)
  infer_instance

instance : Incremental (Wire.read : Reader U128) :=
  inferInstanceAs (Incremental (Wire.read : Reader (BitVec (8 * 16))))

instance : Incremental (Wire.read : Reader U256) :=
  inferInstanceAs (Incremental (Wire.read : Reader (BitVec (8 * 32))))

instance : Incremental (Wire.read : Reader Address) := by
  change Incremental (_ <$> _)
  infer_instance

instance : Incremental (Wire.read : Reader AuthenticationKey) := by
  change Incremental (_ <$> _)
  infer_instance

instance : Incremental (Wire.read : Reader Identifier) := by
  change Incremental (_ >>= _)
  infer_instance

instance : Incremental (Wire.read : Reader ModuleId) := by
  change Incremental (_ >>= _)
  infer_instance

end Plain

/-- The values of a shape are read as their types are. -/
instance incrementalShape : (shape : Shape) → Incremental (Wire.read : Reader shape.Value)
  | .bool => inferInstanceAs (Incremental (Wire.read : Reader Bool))
  | .u8 => inferInstanceAs (Incremental (Wire.read : Reader UInt8))
  | .u16 => inferInstanceAs (Incremental (Wire.read : Reader UInt16))
  | .u32 => inferInstanceAs (Incremental (Wire.read : Reader UInt32))
  | .u64 => inferInstanceAs (Incremental (Wire.read : Reader UInt64))
  | .u128 => inferInstanceAs (Incremental (Wire.read : Reader U128))
  | .u256 => inferInstanceAs (Incremental (Wire.read : Reader U256))
  | .text => inferInstanceAs (Incremental (Wire.read : Reader String))
  | .address => inferInstanceAs (Incremental (Wire.read : Reader Address))
  | .fixed size => inferInstanceAs (Incremental (Wire.read : Reader (FixedBytes size)))
  | .list item =>
    have := incrementalShape item
    inferInstanceAs (Incremental (Wire.read : Reader (List item.Value)))
  | .option item =>
    have := incrementalShape item
    inferInstanceAs (Incremental (Wire.read : Reader (Option item.Value)))

instance canonicalShape : (shape : Shape) → Canonical shape.Value
  | .bool => inferInstanceAs (Canonical Bool)
  | .u8 => inferInstanceAs (Canonical UInt8)
  | .u16 => inferInstanceAs (Canonical UInt16)
  | .u32 => inferInstanceAs (Canonical UInt32)
  | .u64 => inferInstanceAs (Canonical UInt64)
  | .u128 => inferInstanceAs (Canonical U128)
  | .u256 => inferInstanceAs (Canonical U256)
  | .text => inferInstanceAs (Canonical String)
  | .address => inferInstanceAs (Canonical Address)
  | .fixed size => inferInstanceAs (Canonical (FixedBytes size))
  | .list item =>
    have := canonicalShape item
    inferInstanceAs (Canonical (List item.Value))
  | .option item =>
    have := canonicalShape item
    inferInstanceAs (Canonical (Option item.Value))

section TypeTags

variable {inner longer : Reader TypeTag} [Extends longer inner]

instance : Extends (TypeTag.readParts longer) (TypeTag.readParts inner) := by
  unfold TypeTag.readParts
  infer_instance

instance (tag : UInt32) : Extends (TypeTag.readForm longer tag) (TypeTag.readForm inner tag) := by
  unfold TypeTag.readForm
  infer_instance

/-- A larger bound of the nesting is of use only to a reader that runs out of bytes. -/
private theorem TypeTag.readNested_extends {depth deeper : Nat} (within : depth ≤ deeper) :
    Extends (readNested deeper) (readNested depth) := by
  induction depth generalizing deeper with
  | zero =>
    constructor
    intro input outcome rest ran
    cases ran
    exact .inl ⟨1, 0, rfl, Nat.one_pos⟩
  | succ depth ih =>
    obtain ⟨deeper, rfl⟩ := Nat.exists_eq_add_of_le' within
    have nested : Extends (readNested (deeper + depth)) (readNested depth) :=
      ih (Nat.le_add_left depth deeper)
    change Extends (Reader.tag >>= _) (Reader.tag >>= _)
    infer_instance

instance : Incremental (Wire.read : Reader TypeTag) where
  settled input outcome rest ran := by
    have extends' (more : Bytes) : Extends (TypeTag.readNested ((input ++ more).length + 1))
        (TypeTag.readNested (input.length + 1)) := by
      refine TypeTag.readNested_extends ?_
      rw [List.length_append]
      omega
    refine or_iff_not_imp_left.mpr fun enough more => ?_
    exact (((extends' more).settled _ _ _ ran).resolve_left enough) more

instance : Incremental (Wire.read : Reader StructTag) :=
  inferInstanceAs (Incremental (TypeTag.readParts Wire.read))

end TypeTags

/-! ### Keys and signatures -/

instance : Incremental (Wire.read : Reader Ed25519PublicKey) := by
  change Incremental (_ <$> _)
  infer_instance

instance : Incremental (Wire.read : Reader Ed25519Signature) := by
  change Incremental (_ <$> _)
  infer_instance

instance : Incremental (Wire.read : Reader Secp256k1Signature) := by
  change Incremental (_ <$> _)
  infer_instance

instance : Incremental (Wire.read : Reader Secp256k1PublicKey) := by
  change Incremental (_ >>= _)
  infer_instance

instance : Incremental (Wire.read : Reader KeylessPublicKey) := by
  change Incremental (_ >>= _)
  infer_instance

instance : Incremental (Wire.read : Reader FederatedKeylessPublicKey) := by
  change Incremental (_ >>= _)
  infer_instance

instance : Incremental (Wire.read : Reader EphemeralPublicKey) := by
  change Incremental (_ >>= _)
  infer_instance

instance : Incremental (Wire.read : Reader EphemeralSignature) := by
  change Incremental (_ >>= _)
  infer_instance

instance : Incremental (Wire.read : Reader Groth16Proof) := by
  change Incremental (_ >>= _)
  infer_instance

instance : Incremental (Wire.read : Reader ZkProof) := by
  change Incremental (_ >>= _)
  infer_instance

instance : Incremental (Wire.read : Reader ZeroKnowledgeSig) := by
  change Incremental (_ >>= _)
  infer_instance

instance : Incremental (Wire.read : Reader EphemeralCertificate) := by
  change Incremental (_ >>= _)
  infer_instance

instance : Incremental (Wire.read : Reader KeylessSignature) := by
  change Incremental (_ >>= _)
  infer_instance

instance : Incremental (Wire.read : Reader AnyPublicKey) := by
  change Incremental (_ >>= _)
  infer_instance

instance : Incremental (Wire.read : Reader AnySignature) := by
  change Incremental (_ >>= _)
  infer_instance

instance : Incremental (Wire.read : Reader MultiKey) := by
  change Incremental (_ >>= _)
  infer_instance

instance : Incremental (Wire.read : Reader MultiKeySignature) := by
  change Incremental (_ >>= _)
  infer_instance

/-! ### Payloads and transactions -/

instance : Incremental (Wire.read : Reader ScriptArgument) := by
  change Incremental (_ >>= _)
  infer_instance

instance : Incremental (Wire.read : Reader Script) := by
  change Incremental (_ >>= _)
  infer_instance

instance : Incremental (Wire.read : Reader EntryFunction) := by
  change Incremental (_ >>= _)
  infer_instance

instance : Incremental (Wire.read : Reader MultisigCall) := by
  change Incremental (_ >>= _)
  infer_instance

instance : Incremental (Wire.read : Reader Multisig) := by
  change Incremental (_ >>= _)
  infer_instance

instance : Incremental (Wire.read : Reader Executable) := by
  change Incremental (_ >>= _)
  infer_instance

instance : Incremental (Wire.read : Reader ExtraConfig) := by
  change Incremental (_ >>= _)
  infer_instance

instance : Incremental (Wire.read : Reader InnerPayload) := by
  change Incremental (_ >>= _)
  infer_instance

instance : Incremental (Wire.read : Reader Payload) := by
  change Incremental (_ >>= _)
  infer_instance

instance : Incremental (Wire.read : Reader RawTransaction) := by
  change Incremental (_ >>= _)
  infer_instance

instance : Incremental (Wire.read : Reader TransactionWithSigners) := by
  change Incremental (_ >>= _)
  infer_instance

instance : Incremental (Wire.read : Reader AccountAuthenticator) := by
  change Incremental (_ >>= _)
  infer_instance

instance : Incremental (Wire.read : Reader TransactionAuthenticator) := by
  change Incremental (_ >>= _)
  infer_instance

instance : Incremental (Wire.read : Reader SignedTransaction) := by
  change Incremental (_ >>= _)
  infer_instance

/-! ## Strict formats -/

/-- A format in which an encoding that is cut off or padded is refused, and for that reason. -/
structure StrictFormat (α : Type) [Wire α] [Canonical α] : Prop where
  truncated : ∀ (value : α) (cut : Bytes), Canonical.Fits value → cut <+: Wire.write value →
    cut ≠ Wire.write value → ∃ requested remaining,
      Wire.decode α cut = .error (.unexpectedEnd requested remaining) ∧ remaining < requested
  padded : ∀ (value : α) (padding : Bytes), Canonical.Fits value → padding ≠ [] →
    Wire.decode α (Wire.write value ++ padding) = .error (.trailingBytes padding.length)

theorem Canonical.strict {α : Type} [Wire α] [Canonical α] [Incremental (Wire.read : Reader α)] :
    StrictFormat α where
  truncated value cut fits front proper := by
    rcases ran : (Wire.read : Reader α) cut with ⟨outcome, rest⟩
    obtain ⟨requested, remaining, rfl, less⟩ := exact.runsOut_of_cut fits front proper ran
    exact ⟨requested, remaining, run_of_error ran, less⟩
  padded value padding fits left := run_of_trailing (read_write value fits padding) left

open Canonical in
/-- Wherever the encoding of a value is cut, the bytes that are missing are reported and nothing
else, and so are the bytes behind a whole encoding. This holds of all types of the wire format, of
plain values of every shape, and of lists and options of any type of which it holds. -/
theorem encodings_delimited :
    (StrictFormat SignedTransaction ∧ StrictFormat RawTransaction ∧
      StrictFormat TransactionWithSigners) ∧
    (StrictFormat Payload ∧ StrictFormat InnerPayload ∧ StrictFormat ExtraConfig ∧
      StrictFormat Executable ∧ StrictFormat Multisig ∧ StrictFormat MultisigCall ∧
      StrictFormat EntryFunction ∧ StrictFormat Script ∧ StrictFormat ScriptArgument) ∧
    (StrictFormat TransactionAuthenticator ∧ StrictFormat AccountAuthenticator ∧
      StrictFormat AuthenticationKey) ∧
    (StrictFormat AnyPublicKey ∧ StrictFormat MultiKey ∧ StrictFormat Ed25519PublicKey ∧
      StrictFormat Secp256k1PublicKey ∧ StrictFormat KeylessPublicKey ∧
      StrictFormat FederatedKeylessPublicKey ∧ StrictFormat EphemeralPublicKey) ∧
    (StrictFormat AnySignature ∧ StrictFormat MultiKeySignature ∧ StrictFormat Ed25519Signature ∧
      StrictFormat Secp256k1Signature ∧ StrictFormat KeylessSignature ∧
      StrictFormat EphemeralSignature ∧ StrictFormat EphemeralCertificate ∧
      StrictFormat ZeroKnowledgeSig ∧ StrictFormat ZkProof ∧ StrictFormat Groth16Proof) ∧
    (StrictFormat TypeTag ∧ StrictFormat StructTag ∧ StrictFormat ModuleId ∧
      StrictFormat Identifier) ∧
    (∀ shape : Shape, StrictFormat shape.Value) ∧
    ∀ (α : Type) [Wire α] [Canonical α] [Incremental (Wire.read : Reader α)],
      StrictFormat α ∧ StrictFormat (List α) ∧ StrictFormat (Option α) :=
  ⟨⟨strict, strict, strict⟩,
    ⟨strict, strict, strict, strict, strict, strict, strict, strict, strict⟩,
    ⟨strict, strict, strict⟩,
    ⟨strict, strict, strict, strict, strict, strict, strict⟩,
    ⟨strict, strict, strict, strict, strict, strict, strict, strict, strict, strict⟩,
    ⟨strict, strict, strict, strict⟩,
    fun _ => strict, fun _ _ _ _ => ⟨strict, strict, strict⟩⟩

/-- A list of types cut inside the tag of the second one, and the whole list with two more bytes. -/
theorem encodings_delimited_references :
    (∃ requested remaining,
      Wire.decode (List TypeTag) [2, 1, 254] = .error (.unexpectedEnd requested remaining) ∧
        remaining < requested) ∧
    Wire.decode (List TypeTag) [2, 1, 254, 1, 2, 0, 0] = .error (.trailingBytes 2) := by
  have written : Wire.write [TypeTag.u8, .reference .u64] = [2, 1, 254, 1, 2] := by
    simp [Wire.write, TypeTag.encode, Bytes.uleb128]
  have fits : Canonical.Fits [TypeTag.u8, .reference .u64] :=
    ⟨by decide, by simp [Canonical.Fits, TypeTag.Fits]⟩
  obtain ⟨-, -, -, -, -, -, -, any⟩ := encodings_delimited
  obtain ⟨truncated, padded⟩ := (any TypeTag).2.1
  have cut := truncated _ [2, 1, 254] fits
  have whole := padded _ [0, 0] fits (by decide)
  rw [written] at cut whole
  exact ⟨cut (by decide) (by decide), whole⟩

end MoveWallet
