import MoveWallet.Bytes.Hex
import MoveWallet.Wire.Basic

/-! # Account addresses

An address is 32 bytes. Its text is hexadecimal with `0x` in front: one digit for the special
addresses, which are the numbers below sixteen, and all 64 digits for the others. The strict reader
takes these texts (and the long text of special addresses) only; the relaxed reader takes up to 64
digits with or without `0x`.
-/

namespace MoveWallet

/-- The address of an account. -/
structure Address where
  bytes : FixedBytes 32
  deriving DecidableEq

/-- Why a text or byte string is not an address. The causes found in a text carry the whole text. -/
inductive AddressError
  /-- The strict form starts with `0x`. -/
  | missingPrefix (text : String)
  /-- There are no digits. -/
  | tooShort (text : String)
  /-- There are more than 64 digits. -/
  | tooLong (text : String)
  /-- A character is not a hexadecimal digit. -/
  | invalidHexChars (text : String)
  /-- A special address has leading zeros, but not 64 digits. -/
  | paddingZeroes (text : String)
  /-- An address that is not special has fewer than 64 digits. -/
  | longFormRequired (text : String)
  /-- A byte string does not have 32 bytes. -/
  | invalidLength (length : Nat)
  deriving DecidableEq

def AddressError.message : AddressError → String
  | missingPrefix text => s!"address must start with 0x: {text}"
  | tooShort text => s!"address is empty: {text}"
  | tooLong text => s!"address has more than 64 hex digits: {text}"
  | invalidHexChars text => s!"address contains invalid hex characters: {text}"
  | paddingZeroes text => s!"special address must be written as 0x0 through 0xf: {text}"
  | longFormRequired text => s!"address must be 64 hex digits unless special: {text}"
  | invalidLength length => s!"address must be 32 bytes, got {length}"

namespace Address

instance : Inhabited Address := ⟨⟨FixedBytes.zero 32⟩⟩

def ofNat (n : Nat) : Address := ⟨FixedBytes.ofNatBE 32 n⟩

/-- The number that the bytes of an address write, the most significant byte first. -/
def toNat (address : Address) : Nat := address.bytes.toNatBE

/-- The address that stands for an unknown sponsor. -/
def zero : Address := ofNat 0

/-- The address of the framework. -/
def one : Address := ofNat 1

/-- The address of the first token module. -/
def three : Address := ofNat 3

/-- The address of the digital asset module. -/
def four : Address := ofNat 4

/-- The address of the native coin's metadata. -/
def ten : Address := ofNat 10

def ofBytes (bytes : Bytes) : Except AddressError Address :=
  match FixedBytes.ofList? 32 bytes with
  | some bytes => .ok ⟨bytes⟩
  | none => .error (.invalidLength bytes.length)

/-- Whether all bytes but the last are zero and the last is below sixteen. -/
def isSpecial (address : Address) : Bool :=
  (address.bytes.toList.take 31).all (· = 0) && (address.bytes.toList.drop 31).all (· < 16)

/-- The text with all 64 digits. -/
def longText (address : Address) : String := Hex.text address.bytes.toList

/-- The text: one digit for a special address, all digits otherwise. -/
def text (address : Address) : String :=
  if address.isSpecial then
    String.ofList ('0' :: 'x' :: ((address.bytes.toList.drop 31).map fun byte =>
      Numeral.hexDigit byte.toNat))
  else address.longText

/-- Read one to 64 digits, with or without `0x`. -/
def parseRelaxed (text : String) : Except AddressError Address :=
  let digits := Hex.unprefixed text.toList
  if digits.isEmpty then .error (.tooShort text)
  else if 64 < Text.utf8Length digits then .error (.tooLong text)
  else
    match Hex.ofDigits? (List.replicate (64 - digits.length) '0' ++ digits) with
    | none => .error (.invalidHexChars text)
    | some bytes =>
      match FixedBytes.ofList? 32 bytes with
      | some bytes => .ok ⟨bytes⟩
      | none => .error (.invalidHexChars text)

/-- Read `0x` with 64 digits, or with one digit for a special address. -/
def parseStrict (text : String) : Except AddressError Address :=
  match Text.after? "0x" text.toList with
  | none => .error (.missingPrefix text)
  | some digits => do
    let address ← parseRelaxed text
    if digits.length = 64 then .ok address
    else if ¬ address.isSpecial then .error (.longFormRequired text)
    else if digits.length = 1 then .ok address
    else .error (.paddingZeroes text)

instance : Wire Address where
  write address := address.bytes.toList
  read := Address.mk <$> Reader.fixed 32

end Address

end MoveWallet
