import MoveWallet.Json.Number
import MoveWallet.Text.Numeral

/-! # Reading JSON documents

A document is one value with blanks around it. Readers take a text and return what they read with
the text behind it, or `none` where the text does not start with such a thing. Arrays and objects
may nest up to `maxDepth` deep.
-/

namespace MoveWallet.Json

/-- How deep arrays and objects may nest. -/
def maxDepth : Nat := 127

/-- The blanks between the tokens of a document. -/
def isSpace (c : Char) : Bool := c = ' ' || c = '\t' || c = '\n' || c = '\r'

def skipSpace (text : List Char) : List Char := text.dropWhile isSpace

namespace Read

/-- A code unit of four hexadecimal digits. -/
def codeUnit? : List Char → Option (Nat × List Char)
  | a :: b :: c :: d :: rest => (Numeral.ofDigits? 16 [a, b, c, d]).map fun unit => (unit, rest)
  | _ => none

/-- A character written as one code unit or as a pair of surrogates, behind its first escape. -/
def escapedUnit? (text : List Char) : Option (Char × List Char) := do
  let (unit, rest) ← codeUnit? text
  if 0xDC00 ≤ unit ∧ unit ≤ 0xDFFF then none
  else if 0xD800 ≤ unit ∧ unit ≤ 0xDBFF then
    match rest with
    | '\\' :: 'u' :: rest => do
      let (low, rest) ← codeUnit? rest
      if 0xDC00 ≤ low ∧ low ≤ 0xDFFF then
        some (Char.ofNat (0x10000 + (unit - 0xD800) * 0x400 + (low - 0xDC00)), rest)
      else none
    | _ => none
  else some (Char.ofNat unit, rest)

/-- The character of an escape, behind the backslash. -/
def escaped? : List Char → Option (Char × List Char)
  | '"' :: rest => some ('"', rest)
  | '\\' :: rest => some ('\\', rest)
  | '/' :: rest => some ('/', rest)
  | 'b' :: rest => some ('\x08', rest)
  | 'f' :: rest => some ('\x0c', rest)
  | 'n' :: rest => some ('\n', rest)
  | 'r' :: rest => some ('\r', rest)
  | 't' :: rest => some ('\t', rest)
  | 'u' :: rest => escapedUnit? rest
  | _ => none

/-- The characters up to the closing quote. Control characters must be escaped. Every step takes a
character, so the length of the text bounds their number. -/
def stringTail? : (steps : Nat) → List Char → Option (List Char × List Char)
  | 0, _ => none
  | _ + 1, [] => none
  | _ + 1, '"' :: rest => some ([], rest)
  | steps + 1, '\\' :: rest => do
    let (c, rest) ← escaped? rest
    let (tail, rest) ← stringTail? steps rest
    some (c :: tail, rest)
  | steps + 1, c :: rest =>
    if c.toNat < 0x20 then none
    else do
      let (tail, rest) ← stringTail? steps rest
      some (c :: tail, rest)

/-- A string, behind its opening quote. -/
def string? (text : List Char) : Option (String × List Char) := do
  let (chars, rest) ← stringTail? text.length text
  some (String.ofList chars, rest)

/-- The values of a run of decimal digits and the text behind it. -/
def digits (text : List Char) : List Nat × List Char :=
  ((text.takeWhile Char.isDigit).map fun c => c.toNat - '0'.toNat, text.dropWhile Char.isDigit)

/-- The digits of a whole number: zero alone, or a run that does not start with zero. -/
def whole? (text : List Char) : Option (List Nat × List Char) :=
  match digits text with
  | ([], _) => none
  | (0 :: _ :: _, _) => none
  | (run, rest) => some (run, rest)

/-- The digits behind a point, if there is one. -/
def fraction? : List Char → Option (Option (List Nat) × List Char)
  | '.' :: rest =>
    match digits rest with
    | ([], _) => none
    | (run, rest) => some (some run, rest)
  | text => some (none, text)

/-- The digits of an exponent and whether it is negative. -/
def signedExponent? (down : Bool) (text : List Char) : Option (Option (Bool × Nat) × List Char) :=
  match digits text with
  | ([], _) => none
  | (run, rest) => some (some (down, run.foldl (fun power digit => power * 10 + digit) 0), rest)

/-- The exponent behind its mark, if there is one. -/
def exponent? : List Char → Option (Option (Bool × Nat) × List Char)
  | mark :: rest =>
    if mark = 'e' ∨ mark = 'E' then
      match rest with
      | '+' :: rest => signedExponent? false rest
      | '-' :: rest => signedExponent? true rest
      | rest => signedExponent? false rest
    else some (none, mark :: rest)
  | [] => some (none, [])

/-- A number behind its sign. -/
def number? (negative : Bool) (text : List Char) : Option (Number × List Char) := do
  let (whole, rest) ← whole? text
  let (fraction, rest) ← fraction? rest
  let (exponent, rest) ← exponent? rest
  let value ←
    if fraction.isNone ∧ exponent.isNone then Number.ofWhole? negative whole
    else Number.ofParts? negative whole (fraction.getD []) exponent
  some (value, rest)

mutual

/-- A value. Every step takes at least one character or passes to a part of the value, so twice the
length of the text bounds the steps. -/
def value? : (depth steps : Nat) → List Char → Option (Json × List Char)
  | _, 0, _ => none
  | depth, steps + 1, text =>
    match skipSpace text with
    | 'n' :: 'u' :: 'l' :: 'l' :: rest => some (.null, rest)
    | 't' :: 'r' :: 'u' :: 'e' :: rest => some (.bool true, rest)
    | 'f' :: 'a' :: 'l' :: 's' :: 'e' :: rest => some (.bool false, rest)
    | '"' :: rest => (string? rest).map fun (value, rest) => (.string value, rest)
    | '-' :: rest => (number? true rest).map fun (value, rest) => (.number value, rest)
    | '[' :: rest =>
      match depth with
      | 0 => none
      | depth + 1 =>
        match skipSpace rest with
        | ']' :: rest => some (.array [], rest)
        | rest => (items? depth steps rest).map fun (items, rest) => (.array items, rest)
    | '\x7b' :: rest =>
      match depth with
      | 0 => none
      | depth + 1 =>
        match skipSpace rest with
        | '\x7d' :: rest => some (.object [], rest)
        | rest => (members? depth steps [] rest).map fun (members, rest) => (.object members, rest)
    | rest => (number? false rest).map fun (value, rest) => (.number value, rest)

/-- The items of an array up to its closing bracket. -/
def items? : (depth steps : Nat) → List Char → Option (List Json × List Char)
  | _, 0, _ => none
  | depth, steps + 1, text => do
    let (first, rest) ← value? depth steps text
    match skipSpace rest with
    | ']' :: rest => some ([first], rest)
    | ',' :: rest => do
      let (others, rest) ← items? depth steps rest
      some (first :: others, rest)
    | _ => none

/-- The members of an object up to its closing brace, put into those read before. -/
def members? : (depth steps : Nat) → List (String × Json) → List Char →
    Option (List (String × Json) × List Char)
  | _, 0, _, _ => none
  | depth, steps + 1, before, text =>
    match skipSpace text with
    | '"' :: rest => do
      let (key, rest) ← string? rest
      match skipSpace rest with
      | ':' :: rest => do
        let (value, rest) ← value? depth steps rest
        let members := insert before key value
        match skipSpace rest with
        | '\x7d' :: rest => some (members, rest)
        | ',' :: rest => members? depth steps members rest
        | _ => none
      | _ => none
    | _ => none

end

end Read

def parse? (text : String) : Option Json := do
  let chars := text.toList
  let (value, rest) ← Read.value? maxDepth (2 * chars.length + 1) chars
  if (skipSpace rest).isEmpty then some value else none

end MoveWallet.Json
