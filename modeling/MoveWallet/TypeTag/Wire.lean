import MoveWallet.TypeTag.Basic

/-! # The wire form of types

A type starts with the tag of its form. The tags of the narrow integers come after those of the
composite types.
-/

namespace MoveWallet.TypeTag

mutual

def encode : TypeTag → Bytes
  | bool => [0]
  | u8 => [1]
  | u64 => [2]
  | u128 => [3]
  | address => [4]
  | signer => [5]
  | vector element => 6 :: encode element
  | struct account moduleName name arguments =>
    7 :: Wire.write account ++ Wire.write moduleName ++ Wire.write name ++
      Bytes.uleb128 arguments.length ++ encodeAll arguments
  | u16 => [8]
  | u32 => [9]
  | u256 => [10]
  | reference referent => Bytes.uleb128 254 ++ encode referent
  | generic index => Bytes.uleb128 255 ++ Wire.write index

/-- The encodings of some types one after the other. -/
def encodeAll : List TypeTag → Bytes
  | [] => []
  | tag :: others => encode tag ++ encodeAll others

end

theorem encodeAll_eq (tags : List TypeTag) : encodeAll tags = tags.flatMap encode := by
  induction tags with
  | nil => rfl
  | cons tag others ih => simp only [encodeAll, List.flatMap_cons, ih]

/-- The parts of a structure type whose arguments are read by the given reader. -/
def readParts (argument : Reader TypeTag) : Reader StructTag := do
  let account ← Wire.read
  let moduleName ← Wire.read
  let name ← Wire.read
  let arguments ← Reader.list argument
  pure ⟨account, moduleName, name, arguments⟩

/-- What follows a tag, where the given reader reads the types inside. -/
def readForm (inner : Reader TypeTag) (tag : UInt32) : Reader TypeTag :=
  if tag = 0 then pure bool
  else if tag = 1 then pure u8
  else if tag = 2 then pure u64
  else if tag = 3 then pure u128
  else if tag = 4 then pure address
  else if tag = 5 then pure signer
  else if tag = 6 then vector <$> inner
  else if tag = 7 then StructTag.toTypeTag <$> readParts inner
  else if tag = 8 then pure u16
  else if tag = 9 then pure u32
  else if tag = 10 then pure u256
  else if tag = 254 then reference <$> inner
  else if tag = 255 then generic <$> Wire.read
  else Reader.fail (.unknownVariant "TypeTag" tag)

/-- Read a type that nests less deep than the given bound. -/
def readNested : (depth : Nat) → Reader TypeTag
  | 0 => Reader.fail (.unexpectedEnd 1 0)
  | depth + 1 => do
    let tag ← Reader.tag
    readForm (readNested depth) tag

/-- Each level of nesting takes a byte at least, so the length of the input bounds the depth. -/
instance : Wire TypeTag where
  write := encode
  read := fun input => readNested (input.length + 1) input

instance : Wire StructTag where
  write tag := Wire.write tag.account ++ Wire.write tag.moduleName ++ Wire.write tag.name ++
    Wire.write tag.arguments
  read := readParts Wire.read

end MoveWallet.TypeTag
