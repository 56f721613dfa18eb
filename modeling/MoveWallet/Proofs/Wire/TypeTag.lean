import MoveWallet.Proofs.Wire.Canonical
import MoveWallet.TypeTag.Wire

/-! # The wire form of types is canonical

The reader of types is bounded by the depth of nesting. At each depth it is exact for the types
that nest less deep, by induction on the depth; a type nests less deep than its encoding is long,
so that the bound which the length of the input gives leaves nothing out.
-/

namespace MoveWallet.TypeTag

open Reader

mutual

/-- The types that can be written: texts and lists have their lengths in 32 bits. -/
def Fits : TypeTag → Prop
  | vector element => Fits element
  | struct _ moduleName name arguments =>
    Canonical.Fits moduleName ∧ Canonical.Fits name ∧ arguments.length < UInt32.size ∧
      AllFit arguments
  | reference referent => Fits referent
  | _ => True

def AllFit : List TypeTag → Prop
  | [] => True
  | tag :: others => Fits tag ∧ AllFit others

end

private theorem allFit_iff (tags : List TypeTag) : AllFit tags ↔ ∀ tag ∈ tags, Fits tag := by
  induction tags with
  | nil => simp [AllFit]
  | cons tag others ih => simp only [AllFit, ih, List.forall_mem_cons]

mutual

/-- How many forms stand around the innermost one. -/
def nesting : TypeTag → Nat
  | vector element => nesting element + 1
  | struct _ _ _ arguments => nestingAll arguments
  | reference referent => nesting referent + 1
  | _ => 0

/-- The level at which some types stand: above the deepest of them. -/
def nestingAll : List TypeTag → Nat
  | [] => 0
  | tag :: others => max (nesting tag + 1) (nestingAll others)

end

private theorem nestingAll_le_iff (tags : List TypeTag) (depth : Nat) :
    nestingAll tags ≤ depth ↔ ∀ tag ∈ tags, nesting tag < depth := by
  induction tags with
  | nil => simp [nestingAll]
  | cons tag others ih =>
    rw [nestingAll, Nat.max_le, ih, List.forall_mem_cons, Nat.succ_le_iff]

mutual

/-- Each level of nesting takes a byte. -/
private theorem nesting_lt_length : (tag : TypeTag) → nesting tag < (encode tag).length
  | vector element => by
    have inner := nesting_lt_length element
    simp only [nesting, encode, List.length_cons]
    omega
  | struct _ _ _ arguments => by
    have inner := nestingAll_le_length arguments
    simp only [nesting, encode, List.length_append, List.length_cons]
    omega
  | reference referent => by
    have inner := nesting_lt_length referent
    have head : 0 < (Bytes.uleb128 254).length := by
      rw [Bytes.uleb128_of_le (by decide)]
      exact Nat.succ_pos _
    simp only [nesting, encode, List.length_append]
    omega
  | generic index => by
    rw [encode, Bytes.uleb128_of_le (by decide)]
    exact Nat.succ_pos _
  | bool | u8 | u16 | u32 | u64 | u128 | u256 | address | signer => by
    exact Nat.one_pos

private theorem nestingAll_le_length :
    (tags : List TypeTag) → nestingAll tags ≤ (encodeAll tags).length
  | [] => Nat.le_refl 0
  | tag :: others => by
    have first := nesting_lt_length tag
    have rest := nestingAll_le_length others
    simp only [nestingAll, encodeAll, List.length_append]
    omega

end

def head : TypeTag → UInt32
  | bool => 0
  | u8 => 1
  | u64 => 2
  | u128 => 3
  | address => 4
  | signer => 5
  | vector _ => 6
  | struct _ _ _ _ => 7
  | u16 => 8
  | u32 => 9
  | u256 => 10
  | reference _ => 254
  | generic _ => 255

def body : TypeTag → Bytes
  | vector element => encode element
  | struct account moduleName name arguments =>
    Wire.write account ++ Wire.write moduleName ++ Wire.write name ++
      (Bytes.uleb128 arguments.length ++ arguments.flatMap encode)
  | reference referent => encode referent
  | generic index => Wire.write index
  | _ => []

private theorem encode_eq (tag : TypeTag) :
    encode tag = Bytes.uleb128 tag.head.toNat ++ body tag := by
  cases tag <;> simp [encode, head, body, encodeAll_eq, Bytes.uleb128_of_lt]

/-- The parts of a structure type follow from its arguments. -/
theorem readParts_exact {argument : Reader TypeTag} {Fits : TypeTag → Prop}
    (exact : Exact argument encode Fits) :
    Exact (readParts argument) (fun tag => tag.toTypeTag.body) (fun tag =>
      Canonical.Fits tag.moduleName ∧ Canonical.Fits tag.name ∧
        tag.arguments.length < UInt32.size ∧ ∀ type ∈ tag.arguments, Fits type) := by
  refine (Exact.bind StructTag.account Canonical.exact fun account =>
    Exact.bind StructTag.moduleName Canonical.exact fun moduleName =>
    Exact.bind StructTag.name Canonical.exact fun name =>
    Exact.bind StructTag.arguments (Exact.list exact) fun arguments => Exact.pure _).congr ?_ ?_
  · intro tag
    simp [StructTag.toTypeTag, body]
  · simp [Canonical.Fits]

/-- A form without parts. -/
private theorem reads_leaf {leaf tag : TypeTag} {n : UInt32} {depth : Nat} {input rest : Bytes}
    (ran : (pure leaf : Reader TypeTag) input = (.ok tag, rest)) (named : n = head leaf)
    (fits : Fits leaf) (flat : nesting leaf = 0) (empty : body leaf = []) :
    ((Fits tag ∧ nesting tag < depth + 1) ∧ head tag = n) ∧ input = body tag ++ rest := by
  obtain ⟨rfl, rfl⟩ := pure_eq_ok_iff.mp ran
  rw [flat, empty]
  exact ⟨⟨⟨fits, Nat.succ_pos depth⟩, named.symm⟩, rfl⟩

variable {inner : Reader TypeTag} {depth : Nat}

/-- What is read behind a tag is the body of a type with this tag. -/
private theorem readForm_sound
    (exact : Exact inner encode (fun tag => Fits tag ∧ nesting tag < depth)) (n : UInt32)
    (input : Bytes) (tag : TypeTag) (rest : Bytes)
    (ran : readForm inner n input = (.ok tag, rest)) :
    ((Fits tag ∧ nesting tag < depth + 1) ∧ head tag = n) ∧ input = body tag ++ rest := by
  unfold readForm at ran
  rcases ite_eq_ok_iff.mp ran with ⟨isBool, ran⟩ | ⟨-, ran⟩
  · exact reads_leaf ran isBool trivial rfl rfl
  rcases ite_eq_ok_iff.mp ran with ⟨isU8, ran⟩ | ⟨-, ran⟩
  · exact reads_leaf ran isU8 trivial rfl rfl
  rcases ite_eq_ok_iff.mp ran with ⟨isU64, ran⟩ | ⟨-, ran⟩
  · exact reads_leaf ran isU64 trivial rfl rfl
  rcases ite_eq_ok_iff.mp ran with ⟨isU128, ran⟩ | ⟨-, ran⟩
  · exact reads_leaf ran isU128 trivial rfl rfl
  rcases ite_eq_ok_iff.mp ran with ⟨isAddress, ran⟩ | ⟨-, ran⟩
  · exact reads_leaf ran isAddress trivial rfl rfl
  rcases ite_eq_ok_iff.mp ran with ⟨isSigner, ran⟩ | ⟨-, ran⟩
  · exact reads_leaf ran isSigner trivial rfl rfl
  rcases ite_eq_ok_iff.mp ran with ⟨isVector, ran⟩ | ⟨-, ran⟩
  · obtain ⟨element, done, rfl⟩ := map_eq_ok_iff.mp ran
    obtain ⟨⟨fits, nested⟩, rfl⟩ := (exact _ _ _).mp done
    exact ⟨⟨⟨fits, Nat.succ_lt_succ nested⟩, isVector.symm⟩, rfl⟩
  rcases ite_eq_ok_iff.mp ran with ⟨isStruct, ran⟩ | ⟨-, ran⟩
  · obtain ⟨parts, done, rfl⟩ := map_eq_ok_iff.mp ran
    obtain ⟨⟨moduleFits, nameFits, counted, argumentsFit⟩, rfl⟩ :=
      (readParts_exact exact _ _ _).mp done
    have fit := (allFit_iff _).mpr fun type member => (argumentsFit type member).1
    have nested := (nestingAll_le_iff _ _).mpr fun type member => (argumentsFit type member).2
    exact ⟨⟨⟨⟨moduleFits, nameFits, counted, fit⟩, Nat.lt_succ_of_le nested⟩, isStruct.symm⟩, rfl⟩
  rcases ite_eq_ok_iff.mp ran with ⟨isU16, ran⟩ | ⟨-, ran⟩
  · exact reads_leaf ran isU16 trivial rfl rfl
  rcases ite_eq_ok_iff.mp ran with ⟨isU32, ran⟩ | ⟨-, ran⟩
  · exact reads_leaf ran isU32 trivial rfl rfl
  rcases ite_eq_ok_iff.mp ran with ⟨isU256, ran⟩ | ⟨-, ran⟩
  · exact reads_leaf ran isU256 trivial rfl rfl
  rcases ite_eq_ok_iff.mp ran with ⟨isReference, ran⟩ | ⟨-, ran⟩
  · obtain ⟨referent, done, rfl⟩ := map_eq_ok_iff.mp ran
    obtain ⟨⟨fits, nested⟩, rfl⟩ := (exact _ _ _).mp done
    exact ⟨⟨⟨fits, Nat.succ_lt_succ nested⟩, isReference.symm⟩, rfl⟩
  rcases ite_eq_ok_iff.mp ran with ⟨isGeneric, ran⟩ | ⟨-, ran⟩
  · obtain ⟨index, done, rfl⟩ := map_eq_ok_iff.mp ran
    obtain ⟨-, rfl⟩ := Canonical.read_eq_ok_iff.mp done
    exact ⟨⟨⟨trivial, Nat.succ_pos depth⟩, isGeneric.symm⟩, rfl⟩
  cases ran

/-- The body of a type is read behind its tag. -/
private theorem readForm_complete
    (exact : Exact inner encode (fun tag => Fits tag ∧ nesting tag < depth)) (tag : TypeTag)
    (rest : Bytes) (fits : Fits tag ∧ nesting tag < depth + 1) :
    readForm inner (head tag) (body tag ++ rest) = (.ok tag, rest) := by
  obtain ⟨fits, nested⟩ := fits
  cases tag with
  | bool | u8 | u16 | u32 | u64 | u128 | u256 | address | signer => rfl
  | vector element =>
    have part : Fits element ∧ nesting element < depth := ⟨fits, Nat.lt_of_succ_lt_succ nested⟩
    have read := exact.read_write part rest
    exact map_eq_ok_iff.mpr ⟨element, read, rfl⟩
  | struct account moduleName name arguments =>
    obtain ⟨moduleFits, nameFits, counted, fit⟩ := fits
    have allFit := (allFit_iff _).mp fit
    have allNested := (nestingAll_le_iff _ _).mp (Nat.le_of_lt_succ nested)
    let parts : StructTag := ⟨account, moduleName, name, arguments⟩
    have read := ((readParts_exact exact) _ parts rest).mpr ⟨⟨moduleFits, nameFits, counted,
      fun type member => ⟨allFit type member, allNested type member⟩⟩, rfl⟩
    exact map_eq_ok_iff.mpr ⟨parts, read, rfl⟩
  | reference referent =>
    have part : Fits referent ∧ nesting referent < depth := ⟨fits, Nat.lt_of_succ_lt_succ nested⟩
    have read := exact.read_write part rest
    exact map_eq_ok_iff.mpr ⟨referent, read, rfl⟩
  | generic index =>
    have read := Canonical.read_write index trivial rest
    exact map_eq_ok_iff.mpr ⟨index, read, rfl⟩

private theorem readNested_exact (depth : Nat) :
    Exact (readNested depth) encode (fun tag => Fits tag ∧ nesting tag < depth) := by
  induction depth with
  | zero =>
    intro input tag rest
    simp [readNested]
  | succ depth ih =>
    exact (Exact.headed head body (readForm_sound ih) (readForm_complete ih)).congr
      (fun tag => (encode_eq tag).symm) (fun _ => Iff.rfl)

end MoveWallet.TypeTag

namespace MoveWallet.Canonical

open Reader TypeTag

instance : Canonical TypeTag where
  Fits := TypeTag.Fits
  exact := by
    intro input tag rest
    refine (readNested_exact (input.length + 1) input tag rest).trans (and_congr_left ?_)
    rintro rfl
    refine and_iff_left ?_
    have shorter := nesting_lt_length tag
    rw [List.length_append]
    omega

instance : Canonical StructTag where
  Fits tag := Fits tag.moduleName ∧ Fits tag.name ∧ Fits tag.arguments
  exact := by
    refine (readParts_exact exact).congr ?_ (fun _ => Iff.rfl)
    intro tag
    simp [StructTag.toTypeTag, body, Wire.write]

end MoveWallet.Canonical
