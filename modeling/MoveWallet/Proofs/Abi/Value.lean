import MoveWallet.Proofs.Wire.Canonical
import MoveWallet.TypeTag.Printer

/-! # The values of types

The types that arguments have are those of truth values, integers, addresses and vectors, and three
structures of the framework: a text is its UTF-8 form, an object is its address and an optional
value is a vector of at most one item. A value of one of these types is read back from its encoding.
-/

namespace MoveWallet

/-- A value of a type that arguments have. -/
inductive MoveValue
  | bool (value : Bool)
  /-- An integer of a number of bytes. -/
  | integer (width n : Nat)
  | address (value : Address)
  | text (value : String)
  | vector (items : List MoveValue)

/-- The number of bytes of the integers of a type. -/
def TypeTag.width? : TypeTag → Option Nat
  | u8 => some 1
  | u16 => some 2
  | u32 => some 4
  | u64 => some 8
  | u128 => some 16
  | u256 => some 32
  | _ => none

namespace StructTag

variable {tag : StructTag}

/-- A structure of the framework is told by its address, its module and its name alone. -/
theorem isFramework_iff {moduleName name : String} : tag.isFramework moduleName name = true ↔
    tag.account = Address.one ∧ tag.moduleName.text = moduleName ∧ tag.name.text = name := by
  rw [isFramework, Bool.and_eq_true, Bool.and_eq_true, decide_eq_true_eq, decide_eq_true_eq,
    decide_eq_true_eq, and_assoc]

/-- A structure stands in one module of the framework. -/
private theorem isFramework_eq_false {moduleName name other otherName : String}
    (named : tag.isFramework moduleName name = true) (differ : moduleName ≠ other) :
    tag.isFramework other otherName = false := by
  obtain ⟨-, rfl, -⟩ := isFramework_iff.mp named
  simp [isFramework, differ]

theorem isObject_eq_false_of_isString (named : tag.isString = true) : tag.isObject = false :=
  isFramework_eq_false named (by decide)

theorem isOption_eq_false_of_isString (named : tag.isString = true) : tag.isOption = false :=
  isFramework_eq_false named (by decide)

theorem isOption_eq_false_of_isObject (named : tag.isObject = true) : tag.isOption = false :=
  isFramework_eq_false named (by decide)

end StructTag

namespace MoveValue

mutual

def write : MoveValue → Bytes
  | bool value => Wire.write value
  | integer width n => Bytes.ofNatLE width n
  | address value => Wire.write value
  | text value => Wire.write value
  | vector items => Bytes.uleb128 items.length ++ writeAll items

/-- The encodings of some values one after the other. -/
def writeAll : List MoveValue → Bytes
  | [] => []
  | item :: others => write item ++ writeAll others

end

private theorem writeAll_eq (items : List MoveValue) : writeAll items = items.flatMap write := by
  induction items with
  | nil => rfl
  | cons item others ih => rw [writeAll, ih, List.flatMap_cons]

theorem write_vector (items : List MoveValue) :
    write (vector items) = Bytes.uleb128 items.length ++ items.flatMap write := by
  rw [write, writeAll_eq]

/-- The values of a type. Texts and vectors have their lengths in 32 bits, and what a text or an
object is applied to does not matter. -/
inductive Inhabits : TypeTag → MoveValue → Prop
  | bool (value : Bool) : Inhabits .bool (.bool value)
  | integer {type : TypeTag} {width n : Nat} (wide : type.width? = some width)
    (small : n < Bytes.bound width) : Inhabits type (.integer width n)
  | address (value : Address) : Inhabits .address (.address value)
  | vector {element : TypeTag} {items : List MoveValue} (short : items.length < UInt32.size)
    (each : ∀ item ∈ items, Inhabits element item) : Inhabits (.vector element) (.vector items)
  | text {tag : StructTag} {value : String} (named : tag.isString = true)
    (short : (Bytes.ofText value).length < UInt32.size) : Inhabits tag.toTypeTag (.text value)
  | object {tag : StructTag} (named : tag.isObject = true) (value : Address) :
    Inhabits tag.toTypeTag (.address value)
  | option {tag : StructTag} {inner : TypeTag} {held : Option MoveValue}
    (named : tag.isOption = true) (sole : tag.arguments = [inner])
    (each : ∀ item ∈ held, Inhabits inner item) : Inhabits tag.toTypeTag (.vector held.toList)

/-- The error where no value of a type can be read. -/
def unreadable (type : TypeTag) : Reader MoveValue :=
  Reader.fail (.invalidValue "MoveValue" type.text)

def readInteger (width : Nat) : Reader MoveValue := integer width <$> Reader.number width

mutual

def read : TypeTag → Reader MoveValue
  | .bool => bool <$> Wire.read
  | .u8 => readInteger 1
  | .u16 => readInteger 2
  | .u32 => readInteger 4
  | .u64 => readInteger 8
  | .u128 => readInteger 16
  | .u256 => readInteger 32
  | .address => address <$> Wire.read
  | .vector element => vector <$> Reader.list (read element)
  | .struct account moduleName name arguments =>
    let tag : StructTag := ⟨account, moduleName, name, arguments⟩
    if tag.isString then text <$> Wire.read
    else if tag.isObject then address <$> Wire.read
    else if tag.isOption then readOptional arguments
    else unreadable tag.toTypeTag
  | type => unreadable type

/-- Read an optional value of the only one of some types. -/
def readOptional : List TypeTag → Reader MoveValue
  | [inner] => (fun held => vector held.toList) <$> Reader.option (read inner)
  | types =>
    unreadable (StructTag.framework ⟨"option", by decide⟩ ⟨"Option", by decide⟩ types).toTypeTag

end

/-! ## The values of each type -/

variable {type : TypeTag} {value : MoveValue}

private theorem inhabits_integer_iff {width : Nat} (wide : type.width? = some width) :
    Inhabits type value ↔ ∃ n, n < Bytes.bound width ∧ integer width n = value := by
  constructor
  · intro inhabits
    cases inhabits with
    | integer wide' small =>
      cases wide.symm.trans wide'
      exact ⟨_, small, rfl⟩
    | bool | address | vector | text | object | option => cases wide
  · rintro ⟨n, small, rfl⟩
    exact .integer wide small

private theorem inhabits_bool_iff :
    Inhabits .bool value ↔ ∃ held : Bool, Canonical.Fits held ∧ bool held = value := by
  constructor
  · intro inhabits
    cases inhabits with
    | bool held => exact ⟨held, trivial, rfl⟩
    | integer wide => cases wide
  · rintro ⟨held, -, rfl⟩
    exact .bool held

private theorem inhabits_address_iff :
    Inhabits .address value ↔ ∃ held : Address, Canonical.Fits held ∧ address held = value := by
  constructor
  · intro inhabits
    cases inhabits with
    | address held => exact ⟨held, trivial, rfl⟩
    | integer wide => cases wide
  · rintro ⟨held, -, rfl⟩
    exact .address held

private theorem inhabits_vector_iff {element : TypeTag} :
    Inhabits (.vector element) value ↔ ∃ items : List MoveValue,
      (items.length < UInt32.size ∧ ∀ item ∈ items, Inhabits element item) ∧
        vector items = value := by
  constructor
  · intro inhabits
    cases inhabits with
    | vector short each => exact ⟨_, ⟨short, each⟩, rfl⟩
    | integer wide => cases wide
  · rintro ⟨items, ⟨short, each⟩, rfl⟩
    exact .vector short each

/-- The values of the only one of some types, as optional ones. -/
def InhabitsOptional (types : List TypeTag) (value : MoveValue) : Prop :=
  ∃ inner held, types = [inner] ∧ (∀ item ∈ held, Inhabits inner item) ∧
    vector (Option.toList held) = value

private theorem inhabits_toTypeTag_iff {tag : StructTag} :
    Inhabits tag.toTypeTag value ↔
      (tag.isString = true ∧ ∃ held : String, Canonical.Fits held ∧ text held = value) ∨
      (tag.isObject = true ∧ ∃ held : Address, Canonical.Fits held ∧ address held = value) ∨
      (tag.isOption = true ∧ InhabitsOptional tag.arguments value) := by
  constructor
  · obtain ⟨account, moduleName, name, arguments⟩ := tag
    intro inhabits
    cases inhabits with
    | integer wide => cases wide
    | text named short => exact .inl ⟨named, _, short, rfl⟩
    | object named held => exact .inr (.inl ⟨named, held, trivial, rfl⟩)
    | option named sole each => exact .inr (.inr ⟨named, _, _, sole, each, rfl⟩)
  · rintro (⟨named, held, short, rfl⟩ | ⟨named, held, -, rfl⟩ | ⟨named, _, _, sole, each, rfl⟩)
    · exact .text named short
    · exact .object named held
    · exact .option named sole each

/-- Of the structures those have values that stand at address one under three names. The arguments
of `0x1::string::String` and `0x1::object::Object` are not looked at, and `0x1::option::Option`
takes exactly one. -/
theorem inhabits_struct_iff {account : Address} {moduleName name : Identifier}
    {arguments : List TypeTag} :
    Inhabits (.struct account moduleName name arguments) value ↔ account = Address.one ∧
      ((moduleName.text = "string" ∧ name.text = "String" ∧
          ∃ held : String, (Bytes.ofText held).length < UInt32.size ∧ text held = value) ∨
        (moduleName.text = "object" ∧ name.text = "Object" ∧
          ∃ held : Address, address held = value) ∨
        (moduleName.text = "option" ∧ name.text = "Option" ∧ ∃ inner, ∃ held : Option MoveValue,
          arguments = [inner] ∧ (∀ item ∈ held, Inhabits inner item) ∧
            vector held.toList = value)) := by
  have anyAddress (held : Address) : Canonical.Fits held := trivial
  change Inhabits (StructTag.toTypeTag ⟨account, moduleName, name, arguments⟩) value ↔ _
  simp only [inhabits_toTypeTag_iff, StructTag.isString, StructTag.isObject, StructTag.isOption,
    StructTag.isFramework_iff, anyAddress, true_and, InhabitsOptional, and_or_left, and_assoc]
  rfl

/-- Signers, references, placeholders and other structures have no values. -/
theorem Inhabits.supported (inhabits : Inhabits type value) :
    type ≠ .signer ∧ (∀ referent, type ≠ .reference referent) ∧ (∀ index, type ≠ .generic index) ∧
      ∀ tag : StructTag, type = tag.toTypeTag →
        tag.isString = true ∨ tag.isObject = true ∨
          tag.isOption = true ∧ tag.arguments.length = 1 := by
  refine ⟨?_, ?_, ?_, ?_⟩
  · rintro rfl
    cases inhabits with
    | integer wide => cases wide
  · rintro referent rfl
    cases inhabits with
    | integer wide => cases wide
  · rintro index rfl
    cases inhabits with
    | integer wide => cases wide
  · rintro tag rfl
    rcases inhabits_toTypeTag_iff.mp inhabits with ⟨named, -⟩ | ⟨named, -⟩ | ⟨named, sole⟩
    · exact .inl named
    · exact .inr (.inl named)
    · obtain ⟨inner, _, single, -⟩ := sole
      exact .inr (.inr ⟨named, congrArg List.length single⟩)

/-! ## What is read back -/

open Reader

/-- Nothing is read where a type has no values. -/
theorem unreadable_exact {Fits : MoveValue → Prop} (empty : ∀ value, ¬ Fits value) :
    Exact (unreadable type) write Fits := by
  intro input value rest
  rw [unreadable, fail_eq_ok_iff, false_iff]
  rintro ⟨fits, -⟩
  exact empty value fits

private theorem readOptional_sole_exact {inner : TypeTag}
    (item : Exact (read inner) write (Inhabits inner)) :
    Exact (readOptional [inner]) write (InhabitsOptional [inner]) := by
  apply Exact.image _ (Exact.option item)
  · intro held
    rw [write_vector]
    cases held with
    | none => simp [Bytes.uleb128_of_lt]
    | some value => simp [Bytes.uleb128_of_lt]
  · intro value
    constructor
    · rintro ⟨_, held, ⟨⟩, each, rfl⟩
      exact ⟨held, each, rfl⟩
    · rintro ⟨held, each, rfl⟩
      exact ⟨inner, held, rfl, each, rfl⟩

private theorem read_struct_exact (tag : StructTag)
    (optional : Exact (readOptional tag.arguments) write (InhabitsOptional tag.arguments)) :
    Exact (read tag.toTypeTag) write (Inhabits tag.toTypeTag) := by
  have unfolded : read tag.toTypeTag =
      if tag.isString then text <$> Wire.read
      else if tag.isObject then address <$> Wire.read
      else if tag.isOption then readOptional tag.arguments
      else unreadable tag.toTypeTag := rfl
  rw [unfolded]
  split_ifs with isString isObject isOption
  · refine Exact.image text Canonical.exact (fun _ => rfl) fun value => ?_
    have notObject := StructTag.isObject_eq_false_of_isString isString
    have notOption := StructTag.isOption_eq_false_of_isString isString
    simp [inhabits_toTypeTag_iff, isString, notObject, notOption]
  · refine Exact.image address Canonical.exact (fun _ => rfl) fun value => ?_
    have notOption := StructTag.isOption_eq_false_of_isObject isObject
    simp [inhabits_toTypeTag_iff, isString, isObject, notOption]
  · refine optional.congr (fun _ => rfl) fun value => ?_
    simp [inhabits_toTypeTag_iff, isString, isObject, isOption]
  · refine unreadable_exact fun value => ?_
    simp [inhabits_toTypeTag_iff, isString, isObject, isOption]

mutual

/-- A value of a type is read from its encoding, and nothing else is. -/
theorem read_exact : (type : TypeTag) → Exact (read type) write (Inhabits type)
  | .bool => Exact.image bool Canonical.exact (fun _ => rfl) fun _ => inhabits_bool_iff
  | .u8 | .u16 | .u32 | .u64 | .u128 | .u256 =>
    Exact.image (integer _) (Exact.number _) (fun _ => rfl) fun _ => inhabits_integer_iff rfl
  | .address => Exact.image address Canonical.exact (fun _ => rfl) fun _ => inhabits_address_iff
  | .vector element =>
    Exact.image vector (Exact.list (read_exact element)) write_vector fun _ => inhabits_vector_iff
  | .struct account moduleName name arguments =>
    read_struct_exact ⟨account, moduleName, name, arguments⟩ (readOptional_exact arguments)
  | .signer => unreadable_exact fun _ inhabits => inhabits.supported.1 rfl
  | .reference referent => unreadable_exact fun _ inhabits => inhabits.supported.2.1 referent rfl
  | .generic index => unreadable_exact fun _ inhabits => inhabits.supported.2.2.1 index rfl

private theorem readOptional_exact :
    (types : List TypeTag) → Exact (readOptional types) write (InhabitsOptional types)
  | [inner] => readOptional_sole_exact (read_exact inner)
  | [] | _ :: _ :: _ => unreadable_exact (by
    rintro value ⟨_, _, ⟨⟩, -⟩)

end

end MoveValue

end MoveWallet
