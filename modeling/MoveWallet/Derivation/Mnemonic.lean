import MoveWallet.Derivation.WordList
import MoveWallet.Hash.Hmac
import MoveWallet.Text.Blank
import MoveWallet.Text.LetterForms

/-! # Mnemonic phrases

A phrase of 12, 15, 18, 21 or 24 words of the list writes eleven bits with each word: entropy, and
the first bits of its SHA-256 digest as a checksum. The seed of a phrase is its stretched hash.
-/

namespace MoveWallet

/-- Why a text is not a mnemonic phrase. -/
inductive MnemonicError
  /-- A word is not in the list; a phrase without words counts as one empty word. -/
  | unknownWord
  /-- There is no phrase of this length. -/
  | wordCount (count : Nat)
  /-- The last bits are not those of the digest. -/
  | checksum
  deriving DecidableEq

def MnemonicError.message : MnemonicError → String
  | unknownWord => "invalid word in phrase"
  | wordCount count => s!"invalid number of words in phrase: {count}"
  | checksum => "invalid checksum"

namespace Mnemonic

/-- The words of a text, folded to small letters; an empty text has one empty word. -/
def phrase (text : String) : List String :=
  match (Text.words text.toList).map fun word => String.ofList (Text.foldWord word) with
  | [] => [""]
  | words => words

def index? (word : String) : Option Nat := wordList.findIdx? (· = word)

def isWordCount (count : Nat) : Bool := 12 ≤ count && count ≤ 24 && count % 3 = 0

/-- Whether the last bits of a phrase are the first bits of the digest of its entropy: one bit for
each three words. -/
def hasChecksum (indices : List Nat) : Bool :=
  let checksumBits := indices.length / 3
  let value := indices.foldl (fun value index => value * 2048 + index) 0
  let entropy := Bytes.ofNatBE (4 * checksumBits) (value / Nat.pow 2 checksumBits)
  let digest := (Sha2.sha256 entropy).toNatBE
  value % Nat.pow 2 checksumBits = digest / Nat.pow 2 (256 - checksumBits)

/-- The words of a text, if they form a phrase. -/
def parse (text : String) : Except MnemonicError (List String) :=
  let words := phrase text
  match words.mapM index? with
  | none => .error .unknownWord
  | some indices =>
    if ¬ isWordCount indices.length then .error (.wordCount indices.length)
    else if ¬ hasChecksum indices then .error .checksum
    else .ok words

/-- The seed of a phrase, without a passphrase. -/
def seed (words : List String) : Bytes :=
  Hmac.stretch (fun key message => (Hmac.sha512 key message).toList)
    (Bytes.ofText (" ".intercalate words)) (Bytes.ofText "mnemonic") 2048

end Mnemonic

end MoveWallet
