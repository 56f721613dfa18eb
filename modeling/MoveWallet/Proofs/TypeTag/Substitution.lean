import MoveWallet.Proofs.TypeTag.Content

/-! # Type arguments in the places of placeholders

The nodes of a type are named by the paths that lead to them from its root. Each type argument
stands, as it was given, at the paths of its placeholder, and all other nodes stay where they were.
The placeholders of an argument are therefore not replaced again, two substitutions are one, and
only what was left over in the type can make it unfit for a transaction.
-/

namespace MoveWallet.TypeTag

/-! ## Nodes -/

/-- The types that a type is formed of, in order. -/
def parts : TypeTag → List TypeTag
  | vector element => [element]
  | reference referent => [referent]
  | struct _ _ _ arguments => arguments
  | _ => []

/-- The type at the end of a path that takes the part with the given number at each step. -/
def nodeAt? : TypeTag → List Nat → Option TypeTag
  | tag, [] => some tag
  | tag, step :: path => (parts tag)[step]?.bind fun part => nodeAt? part path

/-- Two types have the same root: the form and the names in it are the same, and so is the number
of parts. -/
inductive SameRoot : TypeTag → TypeTag → Prop
  | vector {element element' : TypeTag} : SameRoot (.vector element) (.vector element')
  | reference {referent referent' : TypeTag} : SameRoot (.reference referent) (.reference referent')
  | struct {account : Address} {moduleName name : Identifier} {arguments arguments' : List TypeTag}
    (counted : arguments.length = arguments'.length) :
    SameRoot (.struct account moduleName name arguments)
      (.struct account moduleName name arguments')
  | leaf {tag : TypeTag} (plain : parts tag = []) : SameRoot tag tag

def IsFilled (types : List TypeTag) (tag : TypeTag) : Prop :=
  ∃ index : UInt32, tag = .generic index ∧ index.toNat < types.length

section Nodes

variable {inner tag : TypeTag}

private theorem nodeAt?_cons_eq_some_iff {step : Nat} {path : List Nat} :
    tag.nodeAt? (step :: path) = some inner ↔
      ∃ part, (parts tag)[step]? = some part ∧ part.nodeAt? path = some inner :=
  Option.bind_eq_some_iff

/-- What a part is formed of, the whole is formed of. -/
private theorem OccursIn.of_mem_parts {part : TypeTag} (listed : part ∈ parts tag)
    (occurs : OccursIn inner part) : OccursIn inner tag := by
  cases tag with
  | vector element =>
    obtain rfl := List.mem_singleton.mp listed
    exact .element occurs
  | reference referent =>
    obtain rfl := List.mem_singleton.mp listed
    exact .referent occurs
  | struct account moduleName name arguments => exact .argument listed occurs
  | bool | u8 | u16 | u32 | u64 | u128 | u256 | address | signer | generic => cases listed

/-- The types that occur in a type are its nodes. -/
theorem occursIn_iff : OccursIn inner tag ↔ ∃ path, tag.nodeAt? path = some inner := by
  constructor
  · intro occurs
    induction occurs with
    | here => exact ⟨[], rfl⟩
    | element _ ih | referent _ ih =>
      obtain ⟨path, found⟩ := ih
      exact ⟨0 :: path, nodeAt?_cons_eq_some_iff.mpr ⟨_, rfl, found⟩⟩
    | argument listed _ ih =>
      obtain ⟨path, found⟩ := ih
      obtain ⟨step, present⟩ := List.mem_iff_getElem?.mp listed
      exact ⟨step :: path, nodeAt?_cons_eq_some_iff.mpr ⟨_, present, found⟩⟩
  · rintro ⟨path, found⟩
    induction path generalizing tag with
    | nil =>
      cases found
      exact .here
    | cons step path ih =>
      obtain ⟨part, present, found⟩ := nodeAt?_cons_eq_some_iff.mp found
      exact (ih found).of_mem_parts (List.mem_of_getElem? present)

private theorem SameRoot.isParameterForm (same : SameRoot inner tag) (form : IsParameterForm tag) :
    IsParameterForm inner := by
  cases same with
  | reference => trivial
  | leaf => exact form
  | vector | struct => cases form

end Nodes

/-! ## One substitution -/

section One

variable {types : List TypeTag} {tag node : TypeTag}

private theorem instantiate_generic_of_getElem? {index : UInt32} {type : TypeTag}
    (given : types[index.toNat]? = some type) : instantiate types (.generic index) = type := by
  rw [instantiate, List.getD_eq_getElem?_getD, given, Option.getD_some]

private theorem instantiate_generic_of_not_isFilled {index : UInt32}
    (plain : ¬ IsFilled types (.generic index)) :
    instantiate types (.generic index) = .generic index := by
  have beyond : types.length ≤ index.toNat := Nat.not_lt.mp fun given => plain ⟨index, rfl, given⟩
  rw [instantiate, List.getD_eq_getElem?_getD, List.getElem?_eq_none beyond, Option.getD_none]

/-- All that is no placeholder is put together again from its parts. -/
private theorem parts_instantiate (plain : ¬ IsFilled types tag) :
    parts (instantiate types tag) = (parts tag).map (instantiate types) := by
  cases tag with
  | struct account moduleName name arguments => exact instantiateAll_eq types arguments
  | generic index =>
    rw [instantiate_generic_of_not_isFilled plain]
    rfl
  | bool | u8 | u16 | u32 | u64 | u128 | u256 | address | signer | vector | reference => rfl

private theorem sameRoot_instantiate (plain : ¬ IsFilled types tag) :
    SameRoot tag (instantiate types tag) := by
  cases tag with
  | vector element => exact .vector
  | reference referent => exact .reference
  | struct account moduleName name arguments =>
    refine .struct ?_
    rw [instantiateAll_eq, List.length_map]
  | generic index =>
    rw [instantiate_generic_of_not_isFilled plain]
    exact .leaf rfl
  | bool | u8 | u16 | u32 | u64 | u128 | u256 | address | signer => exact .leaf rfl

/-- What only describes parameters and has no argument: references and the other placeholders. -/
private theorem isParameterForm_and_not_isFilled_iff :
    IsParameterForm tag ∧ ¬ IsFilled types tag ↔ (∃ referent, tag = .reference referent) ∨
      ∃ index : UInt32, tag = .generic index ∧ types.length ≤ index.toNat := by
  cases tag with
  | reference referent => simp [IsParameterForm, IsFilled]
  | generic index => simp [IsParameterForm, IsFilled]
  | bool | u8 | u16 | u32 | u64 | u128 | u256 | address | signer | vector | struct =>
    simp [IsParameterForm]

private theorem not_isFilled_of_getElem?_parts {step : Nat} {part : TypeTag}
    (present : (parts tag)[step]? = some part) : ¬ IsFilled types tag := by
  rintro ⟨index, rfl, -⟩
  cases present

/-- What stands at a path of a type is replaced there. -/
theorem nodeAt?_instantiate {path : List Nat} (found : tag.nodeAt? path = some node) :
    (instantiate types tag).nodeAt? path = some (instantiate types node) := by
  induction path generalizing tag with
  | nil =>
    cases found
    rfl
  | cons step path ih =>
    obtain ⟨part, present, found⟩ := nodeAt?_cons_eq_some_iff.mp found
    refine nodeAt?_cons_eq_some_iff.mpr ⟨instantiate types part, ?_, ih found⟩
    rw [parts_instantiate (not_isFilled_of_getElem?_parts present), List.getElem?_map, present,
      Option.map_some]

/-- A path that goes on from the place of a placeholder to a node of the argument for it. -/
def LeadsIntoArgument (types : List TypeTag) (tag : TypeTag) (path : List Nat) (node : TypeTag) :
    Prop :=
  ∃ outer rest index type, path = outer ++ rest ∧ tag.nodeAt? outer = some (.generic index) ∧
    types[index.toNat]? = some type ∧ type.nodeAt? rest = some node

private theorem leadsIntoArgument_of_isFilled {path : List Nat} (filled : IsFilled types tag)
    (found : (instantiate types tag).nodeAt? path = some node) :
    LeadsIntoArgument types tag path node := by
  obtain ⟨index, rfl, small⟩ := filled
  have given := List.getElem?_eq_getElem small
  rw [instantiate_generic_of_getElem? given] at found
  exact ⟨[], path, index, _, rfl, rfl, given, found⟩

/-- Each path leads to a node that stood there, or into an argument. -/
private theorem nodeAt?_of_instantiate {path : List Nat}
    (found : (instantiate types tag).nodeAt? path = some node) :
    (∃ before, tag.nodeAt? path = some before ∧ ¬ IsFilled types before ∧
        instantiate types before = node) ∨ LeadsIntoArgument types tag path node := by
  induction path generalizing tag with
  | nil =>
    by_cases filled : IsFilled types tag
    · exact .inr (leadsIntoArgument_of_isFilled filled found)
    · exact .inl ⟨tag, rfl, filled, Option.some.inj found⟩
  | cons step path ih =>
    by_cases filled : IsFilled types tag
    · exact .inr (leadsIntoArgument_of_isFilled filled found)
    · obtain ⟨made, present, found⟩ := nodeAt?_cons_eq_some_iff.mp found
      rw [parts_instantiate filled, List.getElem?_map] at present
      obtain ⟨part, stands, rfl⟩ := Option.map_eq_some_iff.mp present
      rcases ih found with ⟨before, stood, kept⟩ | ⟨outer, rest, index, type, rfl, stood, given⟩
      · exact .inl ⟨before, nodeAt?_cons_eq_some_iff.mpr ⟨part, stands, stood⟩, kept⟩
      · exact .inr ⟨step :: outer, rest, index, type, rfl,
          nodeAt?_cons_eq_some_iff.mpr ⟨part, stands, stood⟩, given⟩

/-- With concrete arguments, what only describes parameters is what was left over. -/
theorem isAbiOnly_instantiate_iff (concrete : ∀ type ∈ types, isAbiOnly type = false) :
    isAbiOnly (instantiate types tag) = true ↔
      ∃ inner, OccursIn inner tag ∧ IsParameterForm inner ∧ ¬ IsFilled types inner := by
  constructor
  · intro unfit
    obtain ⟨inner, occurs, form⟩ := exists_of_isAbiOnly _ unfit
    obtain ⟨path, found⟩ := occursIn_iff.mp occurs
    rcases nodeAt?_of_instantiate found with ⟨before, stood, kept, rfl⟩ |
      ⟨outer, rest, index, type, -, -, given, found⟩
    · exact ⟨before, occursIn_iff.mpr ⟨path, stood⟩,
        (sameRoot_instantiate kept).isParameterForm form, kept⟩
    · have fit := concrete type (List.mem_of_getElem? given)
      exact absurd form (isAbiOnly_eq_false_iff.mp fit inner (occursIn_iff.mpr ⟨rest, found⟩))
  · rintro ⟨inner, occurs, form, kept⟩
    obtain ⟨path, stood⟩ := occursIn_iff.mp occurs
    have found : OccursIn (instantiate types inner) (instantiate types tag) :=
      occursIn_iff.mpr ⟨path, nodeAt?_instantiate stood⟩
    refine isAbiOnly_of_occursIn found ?_
    cases inner with
    | reference referent => trivial
    | generic index =>
      rw [instantiate_generic_of_not_isFilled kept]
      trivial
    | bool | u8 | u16 | u32 | u64 | u128 | u256 | address | signer | vector | struct => cases form

end One

/-! ## Two substitutions -/

mutual

/-- One substitution and then another are one: the arguments of the first with the second carried
out in them, and then those of the second that are for the placeholders beyond. -/
theorem instantiate_instantiate (first second : List TypeTag) : (tag : TypeTag) →
    instantiate second (instantiate first tag) =
      instantiate (first.map (instantiate second) ++ second.drop first.length) tag
  | generic index => by
    rw [instantiate, instantiate, List.getD_eq_getElem?_getD, List.getD_eq_getElem?_getD]
    rcases Nat.lt_or_ge index.toNat first.length with given | beyond
    · rw [List.getElem?_append_left (by rwa [List.length_map]), List.getElem?_map,
        List.getElem?_eq_getElem given]
      rfl
    · rw [List.getElem?_append_right (by rwa [List.length_map]), List.length_map,
        List.getElem?_drop, Nat.add_sub_cancel' beyond, List.getElem?_eq_none beyond,
        Option.getD_none, instantiate, List.getD_eq_getElem?_getD]
  | vector element => congrArg vector (instantiate_instantiate first second element)
  | reference referent => congrArg reference (instantiate_instantiate first second referent)
  | struct account moduleName name arguments =>
    congrArg (struct account moduleName name) (instantiateAll_instantiateAll first second arguments)
  | bool | u8 | u16 | u32 | u64 | u128 | u256 | address | signer => rfl

private theorem instantiateAll_instantiateAll (first second : List TypeTag) :
    (tags : List TypeTag) → instantiateAll second (instantiateAll first tags) =
      instantiateAll (first.map (instantiate second) ++ second.drop first.length) tags
  | [] => rfl
  | tag :: others =>
    congrArg₂ List.cons (instantiate_instantiate first second tag)
      (instantiateAll_instantiateAll first second others)

end

mutual

/-- Only the arguments for the placeholders that occur matter. -/
theorem instantiate_append_of_filled (types others : List TypeTag) : (tag : TypeTag) →
    (∀ index, OccursIn (.generic index) tag → index.toNat < types.length) →
    instantiate (types ++ others) tag = instantiate types tag
  | generic index, filled => by
    rw [instantiate, instantiate, List.getD_eq_getElem?_getD, List.getD_eq_getElem?_getD,
      List.getElem?_append_left (filled index .here)]
  | vector element, filled =>
    congrArg vector (instantiate_append_of_filled types others element
      fun index occurs => filled index (.element occurs))
  | reference referent, filled =>
    congrArg reference (instantiate_append_of_filled types others referent
      fun index occurs => filled index (.referent occurs))
  | struct account moduleName name arguments, filled =>
    congrArg (struct account moduleName name)
      (instantiateAll_append_of_filled types others arguments
        fun _ listed index occurs => filled index (.argument listed occurs))
  | bool, _ | u8, _ | u16, _ | u32, _ | u64, _ | u128, _ | u256, _ | address, _ | signer, _ => rfl

private theorem instantiateAll_append_of_filled (types others : List TypeTag) :
    (tags : List TypeTag) →
    (∀ tag ∈ tags, ∀ index, OccursIn (.generic index) tag → index.toNat < types.length) →
    instantiateAll (types ++ others) tags = instantiateAll types tags
  | [], _ => rfl
  | tag :: rest, filled =>
    congrArg₂ List.cons
      (instantiate_append_of_filled types others tag (filled tag List.mem_cons_self))
      (instantiateAll_append_of_filled types others rest
        fun tag listed => filled tag (List.mem_cons_of_mem _ listed))

end

/-- Instantiation is a substitution. Two of them are one where the first has an argument for each
placeholder. All nodes but the placeholders that have an argument stay, each argument stands as it
was given in the places of its placeholder, and there is nothing else in the result. With concrete
arguments the result is unfit for a transaction exactly if a reference or a placeholder without an
argument was left in the type at any depth. -/
theorem instantiate_substitutes (types : List TypeTag) (tag : TypeTag) :
    ((∀ index, OccursIn (.generic index) tag → index.toNat < types.length) →
      ∀ others : List TypeTag, instantiate others (instantiate types tag) =
        instantiate (types.map (instantiate others)) tag) ∧
    (∀ path node, tag.nodeAt? path = some node → ¬ IsFilled types node →
      ∃ kept, (instantiate types tag).nodeAt? path = some kept ∧ SameRoot node kept) ∧
    (∀ path index type, tag.nodeAt? path = some (.generic index) →
      types[index.toNat]? = some type → (instantiate types tag).nodeAt? path = some type) ∧
    (∀ path node, (instantiate types tag).nodeAt? path = some node →
      (∃ before, tag.nodeAt? path = some before ∧ ¬ IsFilled types before ∧ SameRoot before node) ∨
        LeadsIntoArgument types tag path node) ∧
    ((∀ type ∈ types, isAbiOnly type = false) →
      (isAbiOnly (instantiate types tag) = true ↔
        ∃ inner, OccursIn inner tag ∧ ((∃ referent, inner = .reference referent) ∨
          ∃ index : UInt32, inner = .generic index ∧ types.length ≤ index.toNat))) := by
  refine ⟨fun filled others => ?_, fun path node stood plain => ?_,
    fun path index type stood given => ?_, fun path node found => ?_, fun concrete => ?_⟩
  · rw [instantiate_instantiate]
    apply instantiate_append_of_filled
    simpa using filled
  · exact ⟨_, nodeAt?_instantiate stood, sameRoot_instantiate plain⟩
  · rw [nodeAt?_instantiate stood, instantiate_generic_of_getElem? given]
  · rcases nodeAt?_of_instantiate found with ⟨before, stood, plain, rfl⟩ | argument
    · exact .inl ⟨before, stood, plain, sameRoot_instantiate plain⟩
    · exact .inr argument
  · rw [isAbiOnly_instantiate_iff concrete]
    simp only [isParameterForm_and_not_isFilled_iff]

/-- A pair of a vector and another type. -/
def pairOfVector (element second : TypeTag) : TypeTag :=
  .struct Address.one ⟨"pairs", by decide⟩ ⟨"Pair", by decide⟩ [.vector element, second]

/-- An argument with a placeholder of its own, and a placeholder without an argument. -/
theorem instantiate_substitutes_pair :
    (∀ index, OccursIn (.generic index) (pairOfVector (.generic 0) (.generic 1)) →
      index.toNat < [generic 1, u8].length) ∧
    instantiate [bool, address]
        (instantiate [generic 1, u8] (pairOfVector (.generic 0) (.generic 1))) =
      pairOfVector .address .u8 ∧
    (∀ type ∈ [u8], isAbiOnly type = false) ∧
    isAbiOnly (instantiate [u8] (pairOfVector (.generic 0) (.generic 1))) = true := by
  have filled : ∀ index, OccursIn (.generic index) (pairOfVector (.generic 0) (.generic 1)) →
      index.toNat < [generic 1, u8].length := by
    intro index occurs
    rcases occurs with _ | _ | _ | ⟨listed, occurs⟩
    rcases List.mem_pair.mp listed with rfl | rfl
    · rcases occurs with _ | ⟨_ | _⟩
      decide
    · cases occurs
      decide
  have concrete : ∀ type ∈ [u8], isAbiOnly type = false := List.forall_mem_singleton.mpr rfl
  have left : OccursIn (.generic 1) (pairOfVector (.generic 0) (.generic 1)) :=
    .argument (List.mem_cons_of_mem _ List.mem_cons_self) .here
  refine ⟨filled, ?_, concrete, ?_⟩
  · exact (instantiate_substitutes _ _).1 filled [bool, address]
  · exact ((instantiate_substitutes _ _).2.2.2.2 concrete).mpr
      ⟨_, left, .inr ⟨1, rfl, by decide⟩⟩

end MoveWallet.TypeTag
