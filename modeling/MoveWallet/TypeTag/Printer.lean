import MoveWallet.TypeTag.Basic

/-! # The text of types

Arguments stand in angle brackets with a comma and a space between them.
-/

namespace MoveWallet.TypeTag

mutual

def chars : TypeTag → List Char
  | bool => "bool".toList
  | u8 => "u8".toList
  | u16 => "u16".toList
  | u32 => "u32".toList
  | u64 => "u64".toList
  | u128 => "u128".toList
  | u256 => "u256".toList
  | address => "address".toList
  | signer => "signer".toList
  | vector element => "vector<".toList ++ chars element ++ ['>']
  | struct account moduleName name arguments =>
    account.text.toList ++ "::".toList ++ moduleName.text.toList ++ "::".toList ++
      name.text.toList ++ argumentChars arguments
  | reference referent => '&' :: chars referent
  | generic index => 'T' :: Nat.toDigits 10 index.toNat

/-- The characters of an argument list with its brackets; nothing for an empty one. -/
def argumentChars : List TypeTag → List Char
  | [] => []
  | first :: others => '<' :: chars first ++ otherChars others ++ ['>']

/-- The characters of the arguments behind the first, each behind its comma. -/
def otherChars : List TypeTag → List Char
  | [] => []
  | next :: others => ',' :: ' ' :: chars next ++ otherChars others

end

def text (tag : TypeTag) : String := String.ofList (chars tag)

end MoveWallet.TypeTag

namespace MoveWallet.StructTag

def text (tag : StructTag) : String := tag.toTypeTag.text

end MoveWallet.StructTag
