import MoveWallet.Text.Numeral

/-! # Derivation paths

A path is `m/44'/637'/` with three more numbers. A quote behind a number marks it as hardened, and
each scheme has a rule for each of the three quotes.
-/

namespace MoveWallet

/-- Whether a number of a path has a quote. -/
inductive Hardening
  | required
  | forbidden
  | optional
  deriving DecidableEq

namespace DerivationPath

/-- What every path starts with. -/
def start : String := "m/44'/637'/"

/-- The purpose of the paths, the first number. -/
def purpose : Nat := 44

/-- The registered number of the coin, the second number. -/
def coinType : Nat := 637

/-- Numbers of a path are below this; a hardened one has it added. -/
def hardenedOffset : Nat := 0x80000000

/-- Whether a number may be written with or without a quote. -/
def Hardening.allows (rule : Hardening) (quoted : Bool) : Bool :=
  match rule with
  | .required => quoted
  | .forbidden => !quoted
  | .optional => true

/-- The digits of a segment and whether a quote follows them. -/
def unquote (segment : List Char) : List Char × Bool :=
  match segment.reverse with
  | '\'' :: digits => (digits.reverse, true)
  | _ => (segment, false)

def segment? (rule : Hardening) (segment : List Char) : Option Nat :=
  let (digits, quoted) := unquote segment
  if Hardening.allows rule quoted then
    (Numeral.ofDigits? 10 digits).filter (· < hardenedOffset)
  else none

/-- The last three numbers of a path. -/
structure Indices where
  account : Nat
  change : Nat
  index : Nat
  deriving DecidableEq

/-- Read a path under the rules for its last three numbers. -/
def parse? (account change index : Hardening) (path : String) : Option Indices := do
  let rest ← Text.after? start path.toList
  match Text.atChar '/' rest with
  | [a, c, i] => do
    let a ← segment? account a
    let c ← segment? change c
    let i ← segment? index i
    some ⟨a, c, i⟩
  | _ => none

/-- Read a path with all numbers hardened; the last quote may be left out. -/
def hardened? (path : String) : Option Indices := parse? .required .required .optional path

/-- Read a path with only the first of the three numbers hardened. -/
def bip44? (path : String) : Option Indices := parse? .required .forbidden .forbidden path

/-- The numbers of a path with every number hardened. -/
def Indices.hardened (indices : Indices) : List Nat :=
  [purpose, coinType, indices.account, indices.change, indices.index].map (· + hardenedOffset)

/-- The numbers of a path with the first three hardened. -/
def Indices.bip44 (indices : Indices) : List Nat :=
  [purpose + hardenedOffset, coinType + hardenedOffset, indices.account + hardenedOffset,
    indices.change, indices.index]

end DerivationPath

end MoveWallet
