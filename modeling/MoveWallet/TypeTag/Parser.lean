import MoveWallet.TypeTag.Basic

/-! # Reading types

A type is read in one pass over its characters. An opening bracket starts a level of arguments, a
closing bracket ends it and hands the arguments to the name in front of the bracket, and a comma or
a run of blanks ends a name. A level counts its commas, so that names and commas must agree when it
closes. Blanks may follow an opening bracket, a comma or a complete name at the end of an argument;
before anything else a name may not be followed by them.
-/

namespace MoveWallet

/-- Why a text is not a type. -/
inductive TypeTagErrorKind
  /-- A name is not a type. -/
  | invalidTypeTag
  /-- A placeholder stands where none is allowed. -/
  | unexpectedGenericType
  /-- A closing bracket has no opening one. -/
  | unexpectedTypeArgumentClose
  /-- Blanks divide a name or two types. -/
  | unexpectedWhitespaceCharacter
  /-- A comma stands outside brackets. -/
  | unexpectedComma
  /-- Names and commas of an argument list do not agree. -/
  | typeArgumentCountMismatch
  /-- An opening bracket has no closing one. -/
  | missingTypeArgumentClose
  /-- A primitive type has arguments. -/
  | unexpectedPrimitiveTypeArguments
  /-- A vector does not have exactly one argument. -/
  | unexpectedVectorTypeArgumentCount
  /-- A name with colons does not have three parts. -/
  | unexpectedStructFormat
  /-- The second part is not an identifier. -/
  | invalidModuleNameCharacter
  /-- The third part is not an identifier. -/
  | invalidStructNameCharacter
  /-- The first part is not an address. -/
  | invalidAddress
  deriving DecidableEq

def TypeTagErrorKind.message : TypeTagErrorKind → String
  | invalidTypeTag => "unknown type"
  | unexpectedGenericType => "generic types are not allowed here"
  | unexpectedTypeArgumentClose => "unexpected '>'"
  | unexpectedWhitespaceCharacter => "unexpected whitespace"
  | unexpectedComma => "unexpected ','"
  | typeArgumentCountMismatch => "type argument count mismatch"
  | missingTypeArgumentClose => "missing '>'"
  | unexpectedPrimitiveTypeArguments => "primitive types take no type arguments"
  | unexpectedVectorTypeArgumentCount => "vector takes exactly one type argument"
  | unexpectedStructFormat => "struct must be address::module::Name"
  | invalidModuleNameCharacter => "invalid module name"
  | invalidStructNameCharacter => "invalid struct name"
  | invalidAddress => "invalid address"

/-- A text that is not a type, with the cause. -/
structure TypeTagError where
  input : String
  kind : TypeTagErrorKind
  deriving DecidableEq

def TypeTagError.message (error : TypeTagError) : String :=
  "failed to parse type tag '" ++ error.input ++ "': " ++ error.kind.message

namespace TypeTag

/-- The primitive types by their names. -/
def primitives : List (String × TypeTag) :=
  [("bool", bool), ("u8", u8), ("u16", u16), ("u32", u32), ("u64", u64), ("u128", u128),
    ("u256", u256), ("address", address), ("signer", signer)]

/-- The primitive type with a name in small letters. -/
def primitive? (name : List Char) : Option TypeTag :=
  (primitives.find? fun entry => entry.1.toList = name).map (·.2)

/-- The digits of a placeholder's name. -/
def genericDigits? : List Char → Option (List Char)
  | 'T' :: digit :: rest =>
    if (digit :: rest).all Char.isDigit then some (digit :: rest) else none
  | _ => none

/-- The structure type with a path of three parts. -/
def ofPath (arguments : List TypeTag) (path : List Char) : Except TypeTagErrorKind TypeTag :=
  match Text.atColons path with
  | [account, moduleName, name] => do
    let account ← (Address.parseRelaxed (String.ofList account)).mapError fun _ => .invalidAddress
    let moduleName ← (Identifier.parse (String.ofList moduleName)).mapError
      fun _ => .invalidModuleNameCharacter
    let name ← (Identifier.parse (String.ofList name)).mapError
      fun _ => .invalidStructNameCharacter
    .ok (struct account moduleName name arguments)
  | _ => .error .unexpectedStructFormat

/-- The type that a name without ampersands forms with arguments. -/
def ofPlainName (generics : Bool) (arguments : List TypeTag) (name : List Char) :
    Except TypeTagErrorKind TypeTag :=
  let small := Text.asciiLower name
  if small = "vector".toList then
    match arguments with
    | [element] => .ok (vector element)
    | _ => .error .unexpectedVectorTypeArgumentCount
  else
    match primitive? small with
    | some tag => if arguments.isEmpty then .ok tag else .error .unexpectedPrimitiveTypeArguments
    | none =>
      match genericDigits? name with
      | some digits =>
        if ¬ generics then .error .unexpectedGenericType
        else
          match Numeral.ofDigits? 10 digits with
          | some index =>
            if index < UInt32.size then .ok (generic (UInt32.ofNat index))
            else .error .invalidTypeTag
          | none => .error .invalidTypeTag
      | none => if name.contains ':' then ofPath arguments name else .error .invalidTypeTag

/-- The type that a name forms with arguments; each leading ampersand makes a reference. -/
def ofName (generics : Bool) (arguments : List TypeTag) :
    List Char → Except TypeTagErrorKind TypeTag
  | '&' :: rest => reference <$> ofName generics arguments rest
  | name => ofPlainName generics arguments name

/-- What is known of one level of brackets. -/
structure Level where
  /-- One more than the commas seen. -/
  expected : Nat
  /-- The characters of the name that is being read. -/
  name : List Char
  /-- The types that are complete. -/
  types : List TypeTag

/-- The state of the reader. -/
structure Scan where
  /-- The levels around the current one, the innermost first. -/
  outer : List Level
  current : Level
  /-- The arguments that the next name takes. -/
  arguments : List TypeTag

namespace Scan

def start : Scan := ⟨[], ⟨1, [], []⟩, []⟩

/-- End the current name, if there is one: it takes the arguments and joins the types. -/
def endName (generics : Bool) (scan : Scan) : Except TypeTagErrorKind Scan :=
  if scan.current.name.isEmpty then .ok scan
  else do
    let tag ← ofName generics scan.arguments scan.current.name
    .ok { scan with
      current := { scan.current with name := [], types := scan.current.types ++ [tag] }
      arguments := [] }

/-- Close the current level and return to the one around it. -/
def close (scan : Scan) : Except TypeTagErrorKind Scan :=
  match scan.outer with
  | [] => .error .unexpectedTypeArgumentClose
  | level :: outer =>
    if scan.current.expected ≠ scan.current.types.length then .error .typeArgumentCountMismatch
    else .ok ⟨outer, level, scan.current.types⟩

/-- Whether what follows a run of blanks may not come after a name. -/
def splitsName (rest : List Char) : Bool :=
  match (Text.trimLeft rest).head? with
  | some next => next ≠ ',' && next ≠ '>'
  | none => false

/-- Take one character; `rest` is the text behind it. -/
def step (generics : Bool) (scan : Scan) (c : Char) (rest : List Char) :
    Except TypeTagErrorKind Scan :=
  if c = '<' then .ok { scan with outer := scan.current :: scan.outer, current := ⟨1, [], []⟩ }
  else if c = '>' then do
    let scan ← scan.endName generics
    scan.close
  else if c = ',' then
    if scan.outer.isEmpty then .error .unexpectedComma
    else do
      let scan ← scan.endName generics
      .ok { scan with current := { scan.current with expected := scan.current.expected + 1 } }
  else if Text.isBlank c then
    if ¬ scan.current.name.isEmpty ∧ splitsName rest then .error .unexpectedWhitespaceCharacter
    else scan.endName generics
  else .ok { scan with current := { scan.current with name := scan.current.name ++ [c] } }

def run (generics : Bool) (scan : Scan) : List Char → Except TypeTagErrorKind Scan
  | [] => .ok scan
  | c :: rest => do
    let scan ← scan.step generics c rest
    scan.run generics rest

def result (generics : Bool) (scan : Scan) : Except TypeTagErrorKind TypeTag :=
  if ¬ scan.outer.isEmpty then .error .missingTypeArgumentClose
  else
    match scan.current.types with
    | [] => ofName generics scan.arguments scan.current.name
    | [tag] => if scan.current.name.isEmpty then .ok tag else .error .unexpectedComma
    | _ => .error .unexpectedWhitespaceCharacter

end Scan

/-- Read a type; placeholders are taken if `generics` is set. -/
def parse (text : String) (generics : Bool) : Except TypeTagError TypeTag :=
  let outcome := do
    let scan ← Scan.start.run generics text.toList
    scan.result generics
  outcome.mapError fun kind => ⟨text, kind⟩

end TypeTag

end MoveWallet
