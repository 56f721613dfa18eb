import MoveWallet.Bytes.Hex
import MoveWallet.Json.Number

/-! # The text of JSON values

Values are written without any blanks. In a string only quotes, backslashes and control characters
are escaped.
-/

namespace MoveWallet.Json

/-- The written form of a character of a string. -/
def escaped (c : Char) : List Char :=
  if c = '"' then ['\\', '"']
  else if c = '\\' then ['\\', '\\']
  else if c.toNat < 0x20 then '\\' :: 'u' :: '0' :: '0' :: Hex.ofByte (UInt8.ofNat c.toNat)
  else [c]

def quoted (text : String) : List Char := '"' :: text.toList.flatMap escaped ++ ['"']

mutual

def chars : Json → List Char
  | null => "null".toList
  | bool value => if value then "true".toList else "false".toList
  | number value => value.text.toList
  | string value => quoted value
  | array items => '[' :: itemChars items ++ [']']
  | object members => '\x7b' :: memberChars members ++ ['\x7d']

/-- The characters of the items of an array, a comma between them. -/
def itemChars : List Json → List Char
  | [] => []
  | [item] => chars item
  | item :: others => chars item ++ ',' :: itemChars others

/-- The characters of the members of an object, a comma between them. -/
def memberChars : List (String × Json) → List Char
  | [] => []
  | [(key, value)] => quoted key ++ ':' :: chars value
  | (key, value) :: others => quoted key ++ ':' :: chars value ++ ',' :: memberChars others

end

def text (value : Json) : String := String.ofList (chars value)

end MoveWallet.Json
