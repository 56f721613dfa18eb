/-! # JSON values

Numbers are integers where they fit the range of the two 64-bit integer types, and doubles
otherwise. An object holds each key once, with the value written last.
-/

namespace MoveWallet

/-- A JSON number. -/
inductive Json.Number
  /-- An integer from `-2 ^ 63` to `2 ^ 64 - 1`. -/
  | integer (value : Int)
  /-- Any other number. -/
  | real (value : Float)
  deriving BEq

/-- A JSON value. -/
inductive Json
  | null
  | bool (value : Bool)
  | number (value : Json.Number)
  | string (value : String)
  | array (items : List Json)
  | object (members : List (String × Json))

namespace Json

/-- The noun phrase for the kind of a value. -/
def kind : Json → String
  | null => "null"
  | bool _ => "a boolean"
  | number _ => "a number"
  | string _ => "a string"
  | array _ => "an array"
  | object _ => "an object"

/-- The member of an object with the given key. -/
def member? (members : List (String × Json)) (key : String) : Option Json :=
  (members.find? fun entry => entry.1 = key).map (·.2)

/-- Set a member, in the place of an earlier one with the same key. -/
def insert (members : List (String × Json)) (key : String) (value : Json) : List (String × Json) :=
  match members with
  | [] => [(key, value)]
  | entry :: rest =>
    if entry.1 = key then (key, value) :: rest else entry :: insert rest key value

/-- The object of some fields, which are set one after the other. -/
def ofFields (fields : List (String × Json)) : Json :=
  .object (fields.foldl (fun members field => insert members field.1 field.2) [])

def string? : Json → Option String
  | string value => some value
  | _ => none

def bool? : Json → Option Bool
  | bool value => some value
  | _ => none

def items? : Json → Option (List Json)
  | array items => some items
  | _ => none

/-- A number that is an integer from zero to `2 ^ 64 - 1`. -/
def Number.nat? : Number → Option Nat
  | integer value => if 0 ≤ value then some value.toNat else none
  | real _ => none

/-- The member of a value with the given key, null if there is none. -/
def get (value : Json) (key : String) : Json :=
  match value with
  | object members => (member? members key).getD null
  | _ => null

end Json

end MoveWallet
