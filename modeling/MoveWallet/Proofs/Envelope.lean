import MoveWallet.Envelope.Key
import MoveWallet.Proofs.Bytes.Hex
import MoveWallet.Proofs.Wire.Key

/-! # Envelopes

An envelope names a scheme and carries bytes, and the bytes of a scheme are those of one key or
signature. What is read from a JSON value is thus written back with the same name and the same
bytes, in the one text that bytes have, and what is written is read back.
-/

namespace MoveWallet

open Outcome

theorem EnvelopeScheme.parse_eq_ok_iff {name : String} {scheme : EnvelopeScheme} :
    parse name = .ok scheme ↔ scheme.name = name := by
  constructor
  · intro found
    unfold parse at found
    split at found
    next known =>
      cases found
      simpa using List.find?_some known
    next => cases found
  · rintro rfl
    cases scheme <;> rfl

namespace Envelope

/-- A JSON value that carries the name of a scheme and the text of a value: an object with these
members, or the pair of them. -/
inductive Carries : Json → String → String → Prop
  | object {members : List (String × Json)} {name text : String}
    (scheme : Json.member? members "type" = some (.string name))
    (value : Json.member? members "value" = some (.string text)) :
    Carries (.object members) name text
  | array {name text : String} : Carries (.array [.string name, .string text]) name text

theorem Carries.unique {json : Json} {name name' text text' : String}
    (carries : Carries json name text) (carries' : Carries json name' text') :
    name = name' ∧ text = text' := by
  cases carries with
  | object scheme value =>
    cases carries' with
    | object scheme' value' =>
      cases scheme.symm.trans scheme'
      cases value.symm.trans value'
      exact ⟨rfl, rfl⟩
  | array =>
    cases carries'
    exact ⟨rfl, rfl⟩

private theorem readScheme_eq_ok_iff {json : Json} {name : String} :
    readScheme json = .ok name ↔ json = .string name := by
  cases json <;> simp [readScheme]

private theorem readValue_eq_ok_iff {json : Json} {bytes : Bytes} :
    readValue json = .ok bytes ↔ ∃ text, json = .string text ∧ Hex.parse text = .ok bytes := by
  cases json <;> simp [readValue]

private theorem required_eq_ok_iff {α : Type} {name : String} {part : Option α} {value : α} :
    required name part = .ok value ↔ part = some value := by
  cases part <;> simp [required]

/-- A JSON value is an envelope if it carries a name and the text of some bytes. -/
theorem ofJson_eq_ok_iff {json : Json} {envelope : Envelope} :
    ofJson json = .ok envelope ↔
      ∃ text, Carries json envelope.scheme text ∧ Hex.parse text = .ok envelope.value := by
  constructor
  · intro read
    unfold ofJson at read
    split at read
    next members =>
      simp only [bind_eq_ok_iff, mapM_option_eq_ok_iff, required_eq_ok_iff] at read
      obtain ⟨_, named, _, valued, scheme, rfl, value, rfl, made⟩ := read
      cases made
      generalize scheme? : Json.member? members schemeMember = found at named
      generalize value? : Json.member? members valueMember = found' at valued
      cases named with
      | some named =>
        cases valued with
        | some valued =>
          obtain rfl := readScheme_eq_ok_iff.mp named
          obtain ⟨text, rfl, spelled⟩ := readValue_eq_ok_iff.mp valued
          exact ⟨text, .object scheme? value?, spelled⟩
    next first second rest =>
      simp only [bind_eq_ok_iff, readScheme_eq_ok_iff, readValue_eq_ok_iff] at read
      obtain ⟨name, rfl, bytes, ⟨text, rfl, spelled⟩, read⟩ := read
      cases rest with
      | nil =>
        cases read
        exact ⟨text, .array, spelled⟩
      | cons => cases read
    next => cases read
  · rintro ⟨text, carries, spelled⟩
    have valued : readValue (.string text) = .ok envelope.value :=
      readValue_eq_ok_iff.mpr ⟨text, rfl, spelled⟩
    cases carries with
    | object scheme value =>
      have scheme' : Json.member? _ schemeMember = _ := scheme
      have value' : Json.member? _ valueMember = _ := value
      simp only [ofJson, scheme', value', Option.mapM_some, valued]
      rfl
    | array =>
      simp only [ofJson, valued]
      rfl

theorem decode_eq_ok_iff {α : Type} [Wire α] [Canonical α] {bytes : Bytes} {value : α} :
    Envelope.decode α bytes = .ok value ↔ Wire.write value = bytes ∧ Canonical.Fits value := by
  rw [Envelope.decode, mapError_eq_ok_iff, Canonical.decode_eq_ok_iff, and_comm, eq_comm]

end Envelope

/-- A format in which the name and the bytes of an envelope settle the value, and the value settles
both: what fits is read back, and a JSON value that is read is written again with its own name and
the one text of its own bytes. -/
structure EnvelopeFormat {α : Type} (ofJson : Json → Except EnvelopeError α)
    (toJson serialized : α → Json) (Fits : α → Prop) : Prop where
  ofJson_toJson : ∀ value, Fits value → ofJson (toJson value) = .ok value
  serialized_eq : ∀ value, serialized value = toJson value
  toJson_of_ofJson : ∀ json value, ofJson json = .ok value →
    Fits value ∧ ∃ name text bytes written, Envelope.Carries json name text ∧
      Hex.parse text = .ok bytes ∧ Hex.IsText written bytes ∧
      toJson value = .object [("type", .string name), ("value", .string written)]
  same_envelope : ∀ first second value name name' text text', ofJson first = .ok value →
    ofJson second = .ok value → Envelope.Carries first name text →
    Envelope.Carries second name' text' → name = name' ∧ Hex.parse text = Hex.parse text'

/-- Whether the values of a type are read exactly from the envelopes that carry them. -/
def Envelope.IsExact {α : Type} (ofJson : Json → Except EnvelopeError α)
    (envelope : α → Envelope) (Fits : α → Prop) : Prop :=
  ∀ json value, ofJson json = .ok value ↔ Fits value ∧ ∃ text,
    Carries json (envelope value).scheme text ∧ Hex.parse text = .ok (envelope value).value

section Format

variable {α : Type} {ofJson : Json → Except EnvelopeError α} {envelope : α → Envelope}
  {Fits : α → Prop}

/-- Reading takes the scheme by its name and then the bytes by the scheme. -/
private theorem Envelope.isExact_of_ofValue {scheme : α → EnvelopeScheme}
    {ofValue : Bytes → EnvelopeScheme → Except EnvelopeError α}
    (named : ∀ value, (envelope value).scheme = (scheme value).name)
    (exact : ∀ bytes of value, ofValue bytes of = .ok value ↔
      scheme value = of ∧ (envelope value).value = bytes ∧ Fits value) :
    IsExact (fun json => do
      let envelope ← (Envelope.ofJson json).mapError .fault
      let scheme ← EnvelopeScheme.parse envelope.scheme
      ofValue envelope.value scheme) envelope Fits := by
  intro json value
  simp only [bind_eq_ok_iff, mapError_eq_ok_iff, ofJson_eq_ok_iff, EnvelopeScheme.parse_eq_ok_iff,
    exact, named]
  constructor
  · rintro ⟨⟨name, bytes⟩, ⟨text, carries, spelled⟩, of, rfl, rfl, rfl, fits⟩
    exact ⟨fits, text, carries, spelled⟩
  · rintro ⟨fits, text, carries, spelled⟩
    exact ⟨⟨_, _⟩, ⟨text, carries, spelled⟩, scheme value, rfl, rfl, rfl, fits⟩

/-- What is read exactly has the format. -/
theorem Envelope.IsExact.format (exact : IsExact ofJson envelope Fits) :
    EnvelopeFormat ofJson (fun value => (envelope value).toJson)
      (fun value => (envelope value).serialized) Fits where
  ofJson_toJson value fits := by
    refine (exact _ value).mpr ⟨fits, _, .object rfl rfl, ?_⟩
    exact (Hex.isText_text _).parse_eq_ok
  serialized_eq value := rfl
  toJson_of_ofJson json value read := by
    obtain ⟨fits, text, carries, spelled⟩ := (exact json value).mp read
    exact ⟨fits, _, text, _, _, carries, spelled, Hex.isText_text _, rfl⟩
  same_envelope first second value name name' text text' read read' carries carries' := by
    obtain ⟨-, firstText, firstCarries, firstSpelled⟩ := (exact first value).mp read
    obtain ⟨-, secondText, secondCarries, secondSpelled⟩ := (exact second value).mp read'
    obtain ⟨rfl, rfl⟩ := firstCarries.unique carries
    obtain ⟨rfl, rfl⟩ := secondCarries.unique carries'
    exact ⟨rfl, firstSpelled.trans secondSpelled.symm⟩

end Format

namespace PublicKeyEnvelope

def Fits : PublicKeyEnvelope → Prop
  | ed25519 _ => True
  | secp256k1 key => key.IsValid
  | keyless key => Canonical.Fits key
  | federatedKeyless key => Canonical.Fits key
  | multiKey key => Canonical.Fits key
  | singleKey key => Canonical.Fits key

/-- The bytes of a scheme are those of one key. -/
theorem ofValue_eq_ok_iff {bytes : Bytes} {scheme : EnvelopeScheme} {key : PublicKeyEnvelope} :
    ofValue bytes scheme = .ok key ↔ key.scheme = scheme ∧ key.value = bytes ∧ key.Fits := by
  have ed25519Key {key : Ed25519PublicKey} :
      Ed25519PublicKey.ofBytes bytes = .ok key ↔ key.bytes.toList = bytes :=
    FixedBytes.map_ofKeyBytes_eq_ok_iff (fun _ => rfl) (fun _ => rfl)
  cases scheme <;>
    simp only [ofValue, map_eq_ok_iff, mapError_eq_ok_iff, Envelope.decode_eq_ok_iff, ed25519Key,
      Secp256k1PublicKey.ofBytes_eq_ok_iff] <;>
    cases key <;> simp [PublicKeyEnvelope.scheme, value, Fits]

end PublicKeyEnvelope

namespace SignatureEnvelope

def Fits : SignatureEnvelope → Prop
  | ed25519 _ | secp256k1 _ => True
  | keyless signature => Canonical.Fits signature
  | multiKey signature => Canonical.Fits signature
  | singleKey signature => Canonical.Fits signature

/-- The bytes of a scheme are those of one signature. -/
theorem ofValue_eq_ok_iff {bytes : Bytes} {scheme : EnvelopeScheme}
    {signature : SignatureEnvelope} :
    ofValue bytes scheme = .ok signature ↔
      signature.scheme = scheme ∧ signature.value = bytes ∧ signature.Fits := by
  have ed25519Signature {signature : Ed25519Signature} :
      Ed25519Signature.ofBytes bytes = .ok signature ↔ signature.bytes.toList = bytes :=
    FixedBytes.map_ofKeyBytes_eq_ok_iff (fun _ => rfl) (fun _ => rfl)
  have secp256k1Signature {signature : Secp256k1Signature} :
      Secp256k1Signature.ofBytes bytes = .ok signature ↔ signature.bytes.toList = bytes :=
    FixedBytes.map_ofKeyBytes_eq_ok_iff (fun _ => rfl) (fun _ => rfl)
  cases scheme <;>
    simp only [ofValue, map_eq_ok_iff, mapError_eq_ok_iff, Envelope.decode_eq_ok_iff,
      ed25519Signature, secp256k1Signature] <;>
    cases signature <;> simp [SignatureEnvelope.scheme, value, Fits]

end SignatureEnvelope

/-- Envelopes of keys and of signatures have one written form each. No signature has the scheme of
federated keyless keys, whatever its bytes are. -/
theorem envelopes_canonical :
    EnvelopeFormat PublicKeyEnvelope.ofJson PublicKeyEnvelope.toJson PublicKeyEnvelope.serialized
      PublicKeyEnvelope.Fits ∧
    EnvelopeFormat SignatureEnvelope.ofJson SignatureEnvelope.toJson SignatureEnvelope.serialized
      SignatureEnvelope.Fits ∧
    ∀ json text bytes, Envelope.Carries json "federated_keyless" text →
      Hex.parse text = .ok bytes →
      SignatureEnvelope.ofJson json =
        .error (.unsupportedScheme "federated_keyless" "signature") := by
  have keys : Envelope.IsExact PublicKeyEnvelope.ofJson PublicKeyEnvelope.envelope
      PublicKeyEnvelope.Fits :=
    Envelope.isExact_of_ofValue (fun _ => rfl) fun _ _ _ => PublicKeyEnvelope.ofValue_eq_ok_iff
  have signatures : Envelope.IsExact SignatureEnvelope.ofJson SignatureEnvelope.envelope
      SignatureEnvelope.Fits :=
    Envelope.isExact_of_ofValue (fun _ => rfl) fun _ _ _ => SignatureEnvelope.ofValue_eq_ok_iff
  refine ⟨keys.format, signatures.format, fun json text bytes carries spelled => ?_⟩
  have read : Envelope.ofJson json = .ok ⟨"federated_keyless", bytes⟩ :=
    Envelope.ofJson_eq_ok_iff.mpr ⟨text, carries, spelled⟩
  rw [SignatureEnvelope.ofJson, read]
  rfl

/-- A key of equal bytes. -/
def evenKey : PublicKeyEnvelope := .ed25519 ⟨⟨List.replicate 32 0xab, rfl⟩⟩

/-- The key as a pair, with capital digits and without `0x`. -/
def evenPair : Json := .array [.string "ed25519",
  .string "ABABABABABABABABABABABABABABABABABABABABABABABABABABABABABABABAB"]

/-- The pair is written again as an object with small digits, which is read back. -/
theorem envelopes_canonical_evenKey :
    PublicKeyEnvelope.ofJson evenPair = .ok evenKey ∧
    evenKey.toJson = .object [("type", .string "ed25519"), ("value", .string
      "0xabababababababababababababababababababababababababababababababab")] ∧
    PublicKeyEnvelope.ofJson evenKey.toJson = .ok evenKey ∧
    SignatureEnvelope.ofJson
        (.object [("value", .string "00FF"), ("type", .string "federated_keyless")]) =
      .error (.unsupportedScheme "federated_keyless" "signature") := by
  obtain ⟨keys, -, refused⟩ := envelopes_canonical
  have read : PublicKeyEnvelope.ofJson evenPair = .ok evenKey := rfl
  obtain ⟨fits, -⟩ := keys.toJson_of_ofJson evenPair evenKey read
  refine ⟨read, rfl, keys.ofJson_toJson evenKey fits, ?_⟩
  exact refused _ "00FF" [0, 255] (.object rfl rfl) rfl

end MoveWallet
