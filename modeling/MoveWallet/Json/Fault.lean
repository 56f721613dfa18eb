import MoveWallet.Text.Numeral

/-! # Faults in documents

What is wrong with a document is told by a message, with the position of the fault behind it where
the position is known. A message that already ends in a position gives that position to the fault.
-/

namespace MoveWallet.Json

/-- A place in a document. Lines count from one. -/
structure Position where
  line : Nat
  column : Nat
  deriving DecidableEq

/-- What is wrong with a document. -/
structure Fault where
  message : String
  /-- Where it is wrong, if that is known. -/
  position : Option Position
  deriving DecidableEq

namespace Position

/-- What stands before the number of the line. -/
def lineMark : String := " at line "

/-- What stands before the number of the column. -/
def columnMark : String := " column "

/-- The text of a position behind a message. -/
def text (position : Position) : String :=
  lineMark ++ Numeral.decimal position.line ++ columnMark ++ Numeral.decimal position.column

/-- A decimal numeral of a number that fits 64 bits. -/
def number? (digits : List Char) : Option Nat :=
  (Numeral.ofDigits? 10 digits).filter (· < UInt64.size)

/-- Read a position behind the mark of its line. -/
def parse? (text : List Char) : Option Position := do
  let column ← Text.after? columnMark (text.dropWhile Char.isDigit)
  let line ← number? (text.takeWhile Char.isDigit)
  let column ← number? column
  some ⟨line, column⟩

end Position

namespace Fault

/-- The fault that a message tells of. Line zero is no position, and its text is dropped all the
same. -/
def ofMessage (message : String) : Fault :=
  let located := do
    let (before, after) ← Text.atLast? Position.lineMark message.toList
    let position ← Position.parse? after
    some (⟨String.ofList before, if position.line = 0 then none else some position⟩ : Fault)
  located.getD ⟨message, none⟩

def text (fault : Fault) : String :=
  match fault.position with
  | some position => fault.message ++ position.text
  | none => fault.message

def wording (message : String) : String := (ofMessage message).text

end Fault

end MoveWallet.Json
