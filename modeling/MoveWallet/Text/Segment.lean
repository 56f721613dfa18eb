/-! # Cutting a text at its separators

Paths of names are separated by a double colon. A run of colons is cut from the left by
`atColons` and from the right by `atLast?`, so `a:::b` has the pieces `a`, `:b` in the first and
`a:`, `b` in the second.
-/

namespace MoveWallet.Text

/-- The pieces of a text between double colons, the leftmost ones taken first. -/
def atColons : List Char → List (List Char)
  | [] => [[]]
  | ':' :: ':' :: rest => [] :: atColons rest
  | c :: rest =>
    match atColons rest with
    | [] => [[c]]
    | piece :: pieces => (c :: piece) :: pieces

/-- The pieces of a text between occurrences of one character. -/
def atChar (separator : Char) : List Char → List (List Char)
  | [] => [[]]
  | c :: rest =>
    if c = separator then [] :: atChar separator rest
    else
      match atChar separator rest with
      | [] => [[c]]
      | piece :: pieces => (c :: piece) :: pieces

/-- What follows a given beginning, if the text starts with it. -/
def after? (start : String) (text : List Char) : Option (List Char) :=
  List.isPrefixOf? start.toList text

/-- What stands before and after the last occurrence of a separator, which is not empty. -/
def atLast? (separator : String) : List Char → Option (List Char × List Char)
  | [] => none
  | c :: rest =>
    match atLast? separator rest with
    | some (before, after) => some (c :: before, after)
    | none => (after? separator (c :: rest)).map fun after => ([], after)

def utf8Length : List Char → Nat
  | [] => 0
  | c :: rest => c.utf8Size + utf8Length rest

/-- The capital ASCII letters made small, all else kept. -/
def asciiLower (text : List Char) : List Char := text.map Char.toLower

end MoveWallet.Text
