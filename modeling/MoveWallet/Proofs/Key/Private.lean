import MoveWallet.Key.Any
import MoveWallet.Proofs.Bytes.Hex
import MoveWallet.Proofs.Text.Segment
import MoveWallet.Proofs.Wire.Key

/-! # The text of a private key belongs to its scheme

What is written for a private key starts with the prefix of its scheme, and neither of the two
prefixes starts like the other. The reader of one scheme therefore refuses the texts of the other,
and the reader of both schemes reads a text as the scheme does whose prefix it has. Only bare
hexadecimal digits, which have no prefix, are read by both schemes.
-/

namespace MoveWallet

/-- The schemes of private keys. -/
inductive KeyScheme
  | ed25519
  | secp256k1
  deriving DecidableEq

namespace PrivateKey

def scheme : PrivateKey → KeyScheme
  | ed25519 _ => .ed25519
  | secp256k1 _ => .secp256k1

def bytes : PrivateKey → FixedBytes 32
  | ed25519 key => key.seed
  | secp256k1 key => key.bytes

end PrivateKey

namespace KeyText

/-- A text that is bare hexadecimal digits for a byte string, with or without `0x`, and blanks
around them. -/
def IsBare (text : String) (bytes : Bytes) : Prop :=
  ∃ digits, (Text.trim text.toList = digits ∨ Text.trim text.toList = '0' :: 'x' :: digits) ∧
    Hex.Spells digits bytes

private theorem isBare_iff {text : String} {bytes : Bytes} :
    IsBare text bytes ↔ Hex.parse (String.ofList (Text.trim text.toList)) = .ok bytes := by
  rw [Hex.parse_eq_ok_iff, String.toList_ofList]
  rfl

/-- Bare digits are the digits of one byte string. -/
theorem IsBare.unique {text : String} {bytes bytes' : Bytes} (bare : IsBare text bytes)
    (bare' : IsBare text bytes') : bytes = bytes' :=
  Except.ok.inj ((isBare_iff.mp bare).symm.trans (isBare_iff.mp bare'))

end KeyText

namespace KeyScheme

def other : KeyScheme → KeyScheme
  | ed25519 => secp256k1
  | secp256k1 => ed25519

/-- What the texts of a scheme start with. -/
def start : KeyScheme → String
  | ed25519 => KeyText.ed25519Prefix
  | secp256k1 => KeyText.secp256k1Prefix

def ofBytes : KeyScheme → Bytes → Except KeyError PrivateKey
  | ed25519, bytes => .ed25519 <$> Ed25519PrivateKey.ofBytes bytes
  | secp256k1, bytes => .secp256k1 <$> Secp256k1PrivateKey.ofBytes bytes

def read : KeyScheme → String → Except KeyError PrivateKey
  | ed25519, text => .ed25519 <$> Ed25519PrivateKey.parse text
  | secp256k1, text => .secp256k1 <$> Secp256k1PrivateKey.parse text

/-- A text that starts with the prefix of a scheme, behind its first blanks. -/
def Names (scheme : KeyScheme) (text : String) : Prop :=
  scheme.start.toList <+: Text.trim text.toList

variable {scheme : KeyScheme} {text : String} {key : PrivateKey}

@[simp] theorem other_other (scheme : KeyScheme) : scheme.other.other = scheme := by
  cases scheme <;> rfl

private theorem eq_or_eq_other (named scheme : KeyScheme) :
    named = scheme ∨ named = scheme.other := by
  cases named <;> cases scheme <;> simp [other]

/-! ## The prefixes -/

/-- A text starts with one prefix at most. -/
private theorem Names.not_other (named : scheme.Names text) : ¬ scheme.other.Names text := by
  intro crossed
  obtain ⟨rest, same⟩ := named
  obtain ⟨rest', same'⟩ := crossed
  -- the prefixes differ in their first letter
  have first := congrArg List.head? (same.trans same'.symm)
  cases scheme <;> cases first

private theorem hasScheme_iff :
    KeyText.hasScheme (Text.trim text.toList) = true ↔ ∃ scheme : KeyScheme, scheme.Names text := by
  simp only [KeyText.hasScheme, Bool.or_eq_true, Text.isSome_after?_iff]
  constructor
  · rintro (named | named)
    · exact ⟨.ed25519, named⟩
    · exact ⟨.secp256k1, named⟩
  · rintro ⟨_ | _, named⟩
    · exact .inl named
    · exact .inr named

/-! ## The reader of one scheme -/

/-- The readers of the schemes are one reader, with the prefix and the check of each. -/
theorem read_eq (scheme : KeyScheme) (text : String) :
    scheme.read text = KeyText.parse scheme.start text >>= scheme.ofBytes := by
  cases scheme <;> exact Outcome.map_bind _ _ _

/-- The blanks around a text do not matter. -/
private theorem read_congr {text' : String}
    (same : Text.trim text.toList = Text.trim text'.toList) :
    scheme.read text = scheme.read text' := by
  rw [read_eq, read_eq, KeyText.parse, KeyText.parse, same]

theorem ofBytes_eq_ok_iff {bytes : Bytes} :
    scheme.ofBytes bytes = .ok key ↔ key.scheme = scheme ∧ key.bytes.toList = bytes := by
  cases scheme <;> cases key <;>
    simp [ofBytes, Outcome.map_eq_ok_iff, Ed25519PrivateKey.ofBytes_eq_ok_iff,
      Secp256k1PrivateKey.ofBytes_eq_ok_iff, PrivateKey.scheme, PrivateKey.bytes]

/-- The reader of the other scheme refuses a text that has the prefix of one. -/
private theorem Names.read_other (named : scheme.Names text) :
    scheme.other.read text = .error (.schemePrefix scheme.other.start) := by
  have foreign : KeyText.hasScheme (Text.trim text.toList) = true := hasScheme_iff.mpr ⟨_, named⟩
  have absent := Text.after?_eq_none_iff.mpr named.not_other
  rw [read_eq, KeyText.parse, absent]
  simp only [foreign, if_true]
  rfl

/-- A reader takes the digits behind its prefix. -/
private theorem parse_of_prefixed {digits : List Char}
    (prefixed : Text.trim text.toList = scheme.start.toList ++ digits) :
    KeyText.parse scheme.start text = (Hex.parse (String.ofList digits)).mapError .hex := by
  rw [KeyText.parse, Text.after?_eq_some_iff.mpr prefixed]

/-- A text without a prefix is digits for every reader. -/
private theorem parse_of_bare (bare : ∀ scheme : KeyScheme, ¬ scheme.Names text) :
    KeyText.parse scheme.start text =
      (Hex.parse (String.ofList (Text.trim text.toList))).mapError .hex := by
  have named : KeyText.hasScheme (Text.trim text.toList) = false := by
    rw [← Bool.not_eq_true, hasScheme_iff]
    exact not_exists.mpr bare
  rw [KeyText.parse, Text.after?_eq_none_iff.mpr (bare scheme), named]
  rfl

/-! ## Texts without a prefix -/

/-- No prefix is made of letters and digits only. -/
private theorem not_names_of_isBare {bytes : Bytes} (bare : KeyText.IsBare text bytes)
    (scheme : KeyScheme) : ¬ scheme.Names text := by
  intro named
  obtain ⟨digits, written, spells⟩ := bare
  have dash : '-' ∈ scheme.start.toList := by cases scheme <;> decide
  exact absurd (spells.isAlphanum_of_eq written '-' (named.subset dash)) (by decide)

/-- A reader takes bare digits for the key that they spell. -/
private theorem read_eq_ok_iff_of_bare (bare : ∀ scheme : KeyScheme, ¬ scheme.Names text) :
    scheme.read text = .ok key ↔
      key.scheme = scheme ∧ KeyText.IsBare text key.bytes.toList := by
  rw [read_eq, parse_of_bare bare, Outcome.bind_eq_ok_iff]
  simp only [Outcome.mapError_eq_ok_iff, ← KeyText.isBare_iff, ofBytes_eq_ok_iff]
  constructor
  · rintro ⟨_, spelled, own, rfl⟩
    exact ⟨own, spelled⟩
  · rintro ⟨own, spelled⟩
    exact ⟨_, spelled, own, rfl⟩

/-- What both readers take is bare digits for the bytes of both keys. -/
private theorem isBare_of_read_both {key' : PrivateKey} (accepted : scheme.read text = .ok key)
    (accepted' : scheme.other.read text = .ok key') :
    KeyText.IsBare text key.bytes.toList ∧ key'.bytes.toList = key.bytes.toList := by
  have bare : ∀ scheme : KeyScheme, ¬ scheme.Names text := by
    intro named prefixed
    have refused := prefixed.read_other
    rcases eq_or_eq_other named scheme with rfl | rfl
    · rw [accepted'] at refused
      cases refused
    · rw [other_other, accepted] at refused
      cases refused
  obtain ⟨-, spelled⟩ := (read_eq_ok_iff_of_bare bare).mp accepted
  obtain ⟨-, spelled'⟩ := (read_eq_ok_iff_of_bare bare).mp accepted'
  exact ⟨spelled, spelled'.unique spelled⟩

/-! ## The text of a key -/

/-- A key that is read is of the scheme. -/
theorem scheme_of_read (accepted : scheme.read text = .ok key) : key.scheme = scheme := by
  rw [read_eq] at accepted
  obtain ⟨bytes, -, made⟩ := Outcome.bind_eq_ok_iff.mp accepted
  exact (ofBytes_eq_ok_iff.mp made).1

/-- No character of a prefix is blank. -/
private theorem isBlank_of_mem_start (scheme : KeyScheme) :
    ∀ c ∈ scheme.start.toList, Text.isBlank c = false := by
  have solid : scheme.start.toList.all (fun c => !Text.isBlank c) = true := by
    cases scheme <;> decide
  intro c listed
  simpa using List.all_eq_true.mp solid c listed

private theorem toList_text (key : PrivateKey) :
    key.text.toList = key.scheme.start.toList ++ (Hex.text key.bytes.toList).toList := by
  cases key <;> exact String.toList_append

/-- No character of the text of a key is blank. -/
private theorem isBlank_of_mem_text (key : PrivateKey) :
    ∀ c ∈ key.text.toList, Text.isBlank c = false := by
  rw [toList_text]
  refine List.forall_mem_append.mpr ⟨isBlank_of_mem_start key.scheme, fun c listed => ?_⟩
  exact Text.isBlank_eq_false_of_isAlphanum ((Hex.isText_text _).isAlphanum c listed)

/-- A key is read from its text, which has the prefix of its scheme. -/
theorem read_of_pads (pads : Text.Pads key.text.toList text.toList) :
    key.scheme.Names text ∧ key.scheme.read text = .ok key := by
  have trimmed : Text.trim text.toList = key.text.toList :=
    Text.trim_of_pads pads (isBlank_of_mem_text key)
  rw [toList_text] at trimmed
  refine ⟨⟨_, trimmed.symm⟩, ?_⟩
  rw [read_eq, parse_of_prefixed trimmed, String.ofList_toList,
    (Hex.isText_text key.bytes.toList).parse_eq_ok]
  exact ofBytes_eq_ok_iff.mpr ⟨rfl, rfl⟩

end KeyScheme

namespace PrivateKey

variable {key : PrivateKey} {text : String}

/-! ## The reader of both schemes -/

/-- A text with a prefix is left to the reader of its scheme. -/
theorem parse_of_names {scheme : KeyScheme} (named : scheme.Names text) :
    parse text = scheme.read text := by
  have again :
      Text.trim (String.ofList (Text.trim text.toList)).toList = Text.trim text.toList := by
    rw [String.toList_ofList, Text.trim_trim]
  have present := Text.isSome_after?_iff.mpr named
  have absent := mt Text.isSome_after?_iff.mp named.not_other
  rw [← KeyScheme.read_congr again]
  cases scheme with
  | ed25519 => exact (if_neg absent).trans (if_pos present)
  | secp256k1 => exact if_pos present

private theorem parse_of_bare (bare : ∀ scheme : KeyScheme, ¬ scheme.Names text) :
    parse text = .error (.schemePrefix KeyText.ed25519Prefix) := by
  have noSecp256k1 := mt Text.isSome_after?_iff.mp (bare .secp256k1)
  have noEd25519 := mt Text.isSome_after?_iff.mp (bare .ed25519)
  exact (if_neg noSecp256k1).trans (if_neg noEd25519)

/-- Bare digits are no key to the reader of both schemes. -/
theorem parse_of_isBare {bytes : Bytes} (bare : KeyText.IsBare text bytes) :
    parse text = .error (.schemePrefix KeyText.ed25519Prefix) :=
  parse_of_bare (KeyScheme.not_names_of_isBare bare)

theorem parse_eq_ok_iff :
    parse text = .ok key ↔ key.scheme.Names text ∧ key.scheme.read text = .ok key := by
  constructor
  · intro accepted
    by_cases bare : ∀ scheme : KeyScheme, ¬ scheme.Names text
    · rw [parse_of_bare bare] at accepted
      cases accepted
    · obtain ⟨scheme, named⟩ := not_forall_not.mp bare
      rw [parse_of_names named] at accepted
      obtain rfl := KeyScheme.scheme_of_read accepted
      exact ⟨named, accepted⟩
  · rintro ⟨named, accepted⟩
    rwa [parse_of_names named]

/-- The text of a key between any blanks is read as the key, by the reader of both schemes and
by the reader of its own, and the other reader names its prefix. What the reader of both schemes
takes starts with the prefix of the scheme of the key, and the other reader refuses it. What both
readers of one scheme take is 64 bare digits for the bytes of both keys. -/
theorem text_bound_to_scheme :
    (∀ (key : PrivateKey) (text : String), Text.Pads key.text.toList text.toList →
      parse text = .ok key ∧ key.scheme.read text = .ok key ∧
        key.scheme.other.read text = .error (.schemePrefix key.scheme.other.start)) ∧
    (∀ (text : String) (key : PrivateKey), parse text = .ok key →
      key.scheme.start.toList <+: Text.trim text.toList ∧ key.scheme.read text = .ok key ∧
        key.scheme.other.read text = .error (.schemePrefix key.scheme.other.start)) ∧
    ∀ (text : String) (key : Ed25519PrivateKey) (key' : Secp256k1PrivateKey),
      Ed25519PrivateKey.parse text = .ok key → Secp256k1PrivateKey.parse text = .ok key' →
        ∃ digits : List Char, digits.length = 64 ∧
          (Text.trim text.toList = digits ∨ Text.trim text.toList = '0' :: 'x' :: digits) ∧
          Hex.Spells digits key.seed.toList ∧ Hex.Spells digits key'.bytes.toList := by
  refine ⟨fun key text pads => ?_, fun text key accepted => ?_,
    fun text key key' accepted accepted' => ?_⟩
  · obtain ⟨named, own⟩ := KeyScheme.read_of_pads pads
    exact ⟨parse_eq_ok_iff.mpr ⟨named, own⟩, own, named.read_other⟩
  · obtain ⟨named, own⟩ := parse_eq_ok_iff.mp accepted
    exact ⟨named, own, named.read_other⟩
  · have first : KeyScheme.ed25519.read text = .ok (.ed25519 key) :=
      Outcome.map_eq_ok_iff.mpr ⟨key, accepted, rfl⟩
    have second : KeyScheme.ed25519.other.read text = .ok (.secp256k1 key') :=
      Outcome.map_eq_ok_iff.mpr ⟨key', accepted', rfl⟩
    obtain ⟨⟨digits, written, spells⟩, same⟩ := KeyScheme.isBare_of_read_both first second
    refine ⟨digits, ?_, written, spells, ?_⟩
    · rw [spells.length_eq, FixedBytes.length_eq]
    · rwa [← same] at spells

/-- The scalar one between blanks, and the seed of the same bytes as bare digits. -/
theorem text_bound_to_scheme_one :
    let scalar : Secp256k1PrivateKey := ⟨FixedBytes.ofNatBE 32 1, by decide +kernel⟩
    let seed : Ed25519PrivateKey := ⟨FixedBytes.ofNatBE 32 1⟩
    let padded := " " ++ (secp256k1 scalar).text ++ "\n"
    let bare := Hex.bare seed.seed.toList
    KeyScheme.ed25519.read padded = .error (.schemePrefix "ed25519-priv-") ∧
      parse padded = .ok (.secp256k1 scalar) ∧
      "secp256k1-priv-".toList <+: Text.trim padded.toList ∧
      KeyScheme.secp256k1.read padded = .ok (.secp256k1 scalar) ∧
      ∃ digits : List Char, digits.length = 64 ∧
        (Text.trim bare.toList = digits ∨ Text.trim bare.toList = '0' :: 'x' :: digits) ∧
        Hex.Spells digits seed.seed.toList := by
  intro scalar seed padded bare
  have pads : Text.Pads (secp256k1 scalar).text.toList padded.toList := by
    refine ⟨[' '], ['\n'], List.forall_mem_singleton.mpr rfl, List.forall_mem_singleton.mpr rfl, ?_⟩
    simp [padded]
  have readSeed : Ed25519PrivateKey.parse bare = .ok seed := by decide +kernel
  have readScalar : Secp256k1PrivateKey.parse bare = .ok scalar := by decide +kernel
  obtain ⟨accepted, -, refused⟩ := text_bound_to_scheme.1 (secp256k1 scalar) padded pads
  obtain ⟨named, own, -⟩ := text_bound_to_scheme.2.1 padded _ accepted
  obtain ⟨digits, count, written, spells, -⟩ :=
    text_bound_to_scheme.2.2 bare _ _ readSeed readScalar
  exact ⟨refused, accepted, named, own, digits, count, written, spells⟩

end PrivateKey

end MoveWallet
