import MoveWallet.Proofs.Wire.TypeTag
import MoveWallet.Transaction.Payload

/-! # The wire forms of payloads are canonical

Scripts and calls are read only with concrete type arguments, which every one of them has.
-/

namespace MoveWallet

open Canonical Reader

namespace TypeTag

private theorem checkConcrete_of_concrete {types : List TypeTag}
    (concrete : ∀ type ∈ types, type.isAbiOnly = false) : checkConcrete types = .ok ⟨concrete⟩ := by
  unfold checkConcrete
  split
  next type found =>
    have listed := List.mem_of_find?_eq_some found
    exact absurd (List.find?_some found) (Bool.eq_false_iff.mp (concrete type listed))
  next => rfl

end TypeTag

namespace ScriptArgument

def tag : ScriptArgument → UInt8
  | u8 _ => 0
  | u64 _ => 1
  | u128 _ => 2
  | address _ => 3
  | bytes _ => 4
  | bool _ => 5
  | u16 _ => 6
  | u32 _ => 7
  | u256 _ => 8
  | serialized _ => 9

def body : ScriptArgument → Bytes
  | u8 value => Wire.write value
  | u64 value => Wire.write value
  | u128 value => Wire.write value
  | address value => Wire.write value
  | bytes value => value.prefixed
  | bool value => Wire.write value
  | u16 value => Wire.write value
  | u32 value => Wire.write value
  | u256 value => Wire.write value
  | serialized encoding => encoding.prefixed

/-- The arguments that can be written: byte strings have their lengths in 32 bits. -/
def Fits : ScriptArgument → Prop
  | bytes value => value.length < UInt32.size
  | serialized encoding => encoding.length < UInt32.size
  | _ => True

end ScriptArgument

instance : Canonical ScriptArgument where
  Fits := ScriptArgument.Fits
  exact := by
    refine (Exact.tagged ScriptArgument.tag ScriptArgument.body ?_ ?_ ?_).congr ?_
      (fun _ => Iff.rfl)
    · intro argument
      cases argument <;> simp [ScriptArgument.tag]
    · intro n input argument rest ran
      rcases ite_eq_ok_iff.mp ran with ⟨isU8, ran⟩ | ⟨-, ran⟩
      · obtain ⟨value, ⟨fits, rfl⟩, rfl⟩ := map_read_eq_ok_iff.mp ran
        exact ⟨⟨fits, isU8.symm⟩, rfl⟩
      rcases ite_eq_ok_iff.mp ran with ⟨isU64, ran⟩ | ⟨-, ran⟩
      · obtain ⟨value, ⟨fits, rfl⟩, rfl⟩ := map_read_eq_ok_iff.mp ran
        exact ⟨⟨fits, isU64.symm⟩, rfl⟩
      rcases ite_eq_ok_iff.mp ran with ⟨isU128, ran⟩ | ⟨-, ran⟩
      · obtain ⟨value, ⟨fits, rfl⟩, rfl⟩ := map_read_eq_ok_iff.mp ran
        exact ⟨⟨fits, isU128.symm⟩, rfl⟩
      rcases ite_eq_ok_iff.mp ran with ⟨isAddress, ran⟩ | ⟨-, ran⟩
      · obtain ⟨value, ⟨fits, rfl⟩, rfl⟩ := map_read_eq_ok_iff.mp ran
        exact ⟨⟨fits, isAddress.symm⟩, rfl⟩
      rcases ite_eq_ok_iff.mp ran with ⟨isBytes, ran⟩ | ⟨-, ran⟩
      · obtain ⟨value, done, rfl⟩ := map_eq_ok_iff.mp ran
        obtain ⟨fits, rfl⟩ := (Exact.bytes _ _ _).mp done
        exact ⟨⟨fits, isBytes.symm⟩, rfl⟩
      rcases ite_eq_ok_iff.mp ran with ⟨isBool, ran⟩ | ⟨-, ran⟩
      · obtain ⟨value, ⟨fits, rfl⟩, rfl⟩ := map_read_eq_ok_iff.mp ran
        exact ⟨⟨fits, isBool.symm⟩, rfl⟩
      rcases ite_eq_ok_iff.mp ran with ⟨isU16, ran⟩ | ⟨-, ran⟩
      · obtain ⟨value, ⟨fits, rfl⟩, rfl⟩ := map_read_eq_ok_iff.mp ran
        exact ⟨⟨fits, isU16.symm⟩, rfl⟩
      rcases ite_eq_ok_iff.mp ran with ⟨isU32, ran⟩ | ⟨-, ran⟩
      · obtain ⟨value, ⟨fits, rfl⟩, rfl⟩ := map_read_eq_ok_iff.mp ran
        exact ⟨⟨fits, isU32.symm⟩, rfl⟩
      rcases ite_eq_ok_iff.mp ran with ⟨isU256, ran⟩ | ⟨-, ran⟩
      · obtain ⟨value, ⟨fits, rfl⟩, rfl⟩ := map_read_eq_ok_iff.mp ran
        exact ⟨⟨fits, isU256.symm⟩, rfl⟩
      rcases ite_eq_ok_iff.mp ran with ⟨isSerialized, ran⟩ | ⟨-, ran⟩
      · obtain ⟨value, done, rfl⟩ := map_eq_ok_iff.mp ran
        obtain ⟨fits, rfl⟩ := (Exact.bytes _ _ _).mp done
        exact ⟨⟨fits, isSerialized.symm⟩, rfl⟩
      cases ran
    · intro argument rest fits
      cases argument <;>
        simp [ScriptArgument.tag, ScriptArgument.body, map_eq_ok_iff, Exact.bytes _ _ _] <;>
        exact fits
    · intro argument
      cases argument <;> rfl

def Script.Fits (script : Script) : Prop :=
  script.code.length < UInt32.size ∧ Canonical.Fits script.typeArguments ∧
    Canonical.Fits script.arguments

/-- A script is made of its own parts. -/
@[grind =] theorem Script.make_eq_ok_iff {code : Bytes} {typeArguments : List TypeTag}
    {arguments : List ScriptArgument} {script : Script} :
    make code typeArguments arguments = .ok script ↔
      script.code = code ∧ script.typeArguments = typeArguments ∧
        script.arguments = arguments := by
  unfold make
  constructor
  · intro made
    obtain ⟨⟨concrete⟩, -, made⟩ := Outcome.bind_eq_ok_iff.mp made
    cases made
    exact ⟨rfl, rfl, rfl⟩
  · rintro ⟨rfl, rfl, rfl⟩
    rw [TypeTag.checkConcrete_of_concrete script.concrete]
    rfl

theorem Script.exists_make_iff {code : Bytes} {typeArguments : List TypeTag}
    {arguments : List ScriptArgument} :
    (∃ script, make code typeArguments arguments = .ok script) ↔
      ∀ type ∈ typeArguments, type.isAbiOnly = false := by
  constructor
  · rintro ⟨script, made⟩
    obtain ⟨-, rfl, -⟩ := make_eq_ok_iff.mp made
    exact script.concrete
  · exact fun concrete =>
      ⟨⟨code, typeArguments, arguments, concrete⟩, make_eq_ok_iff.mpr ⟨rfl, rfl, rfl⟩⟩

instance : Canonical Script where
  Fits := Script.Fits
  exact := by
    refine (Exact.bind Script.code Exact.bytes fun code =>
      Exact.bind Script.typeArguments exact fun typeArguments =>
      Exact.bind Script.arguments exact fun arguments =>
      Exact.checked _ _ (Script.make code typeArguments arguments)).congr ?_ ?_
    · intro script
      simp [Wire.write]
    · simp [Script.make_eq_ok_iff, Script.Fits]

def EntryFunction.Fits (call : EntryFunction) : Prop :=
  Canonical.Fits call.module ∧ Canonical.Fits call.function ∧ Canonical.Fits call.typeArguments ∧
    (call.arguments.length < UInt32.size ∧ ∀ bytes ∈ call.arguments, bytes.length < UInt32.size)

/-- A call is made of its own parts. -/
@[grind =] theorem EntryFunction.make_eq_ok_iff {module : ModuleId} {function : Identifier}
    {typeArguments : List TypeTag} {arguments : List Bytes} {call : EntryFunction} :
    make module function typeArguments arguments = .ok call ↔
      call.module = module ∧ call.function = function ∧ call.typeArguments = typeArguments ∧
        call.arguments = arguments := by
  unfold make
  constructor
  · intro made
    obtain ⟨⟨concrete⟩, -, made⟩ := Outcome.bind_eq_ok_iff.mp made
    cases made
    exact ⟨rfl, rfl, rfl, rfl⟩
  · rintro ⟨rfl, rfl, rfl, rfl⟩
    rw [TypeTag.checkConcrete_of_concrete call.concrete]
    rfl

theorem EntryFunction.exists_make_iff {module : ModuleId} {function : Identifier}
    {typeArguments : List TypeTag} {arguments : List Bytes} :
    (∃ call, make module function typeArguments arguments = .ok call) ↔
      ∀ type ∈ typeArguments, type.isAbiOnly = false := by
  constructor
  · rintro ⟨call, made⟩
    obtain ⟨-, -, rfl, -⟩ := make_eq_ok_iff.mp made
    exact call.concrete
  · exact fun concrete => ⟨⟨module, function, typeArguments, arguments, concrete⟩,
      make_eq_ok_iff.mpr ⟨rfl, rfl, rfl, rfl⟩⟩

instance : Canonical EntryFunction where
  Fits := EntryFunction.Fits
  exact := by
    refine (Exact.bind EntryFunction.module exact fun module =>
      Exact.bind EntryFunction.function exact fun function =>
      Exact.bind EntryFunction.typeArguments exact fun typeArguments =>
      Exact.bind EntryFunction.arguments (Exact.list Exact.bytes) fun arguments =>
      Exact.checked _ _ (EntryFunction.make module function typeArguments arguments)).congr ?_ ?_
    · intro call
      simp [Wire.write]
    · simp [EntryFunction.make_eq_ok_iff, EntryFunction.Fits]

instance : Canonical MultisigCall where
  Fits | .entryFunction call => Canonical.Fits call
  exact := by
    refine (Exact.soleTag _ (Exact.map MultisigCall.entryFunction
      (fun | .entryFunction call => call) exact)).congr ?_ ?_
    · rintro ⟨call⟩
      rfl
    · rintro ⟨call⟩
      simp

instance : Canonical Multisig where
  Fits multisig := Canonical.Fits multisig.call
  exact := by
    refine (Exact.bind Multisig.account exact fun account =>
      Exact.bind Multisig.call exact fun call => Exact.pure _).congr ?_ ?_
    · intro multisig
      simp [Wire.write]
    · simp [Canonical.Fits]

namespace Executable

def tag : Executable → UInt8
  | script _ => 0
  | entryFunction _ => 1
  | empty => 2

def body : Executable → Bytes
  | script code => Wire.write code
  | entryFunction call => Wire.write call
  | empty => []

def Fits : Executable → Prop
  | script code => Canonical.Fits code
  | entryFunction call => Canonical.Fits call
  | empty => True

end Executable

instance : Canonical Executable where
  Fits := Executable.Fits
  exact := by
    refine (Exact.tagged Executable.tag Executable.body ?_ ?_ ?_).congr ?_ (fun _ => Iff.rfl)
    · intro executable
      cases executable <;> simp [Executable.tag]
    · intro n input executable rest ran
      rcases ite_eq_ok_iff.mp ran with ⟨isScript, ran⟩ | ⟨-, ran⟩
      · obtain ⟨value, ⟨fits, rfl⟩, rfl⟩ := map_read_eq_ok_iff.mp ran
        exact ⟨⟨fits, isScript.symm⟩, rfl⟩
      rcases ite_eq_ok_iff.mp ran with ⟨isCall, ran⟩ | ⟨-, ran⟩
      · obtain ⟨value, ⟨fits, rfl⟩, rfl⟩ := map_read_eq_ok_iff.mp ran
        exact ⟨⟨fits, isCall.symm⟩, rfl⟩
      rcases ite_eq_ok_iff.mp ran with ⟨isEmpty, ran⟩ | ⟨-, ran⟩
      · obtain ⟨rfl, rfl⟩ := pure_eq_ok_iff.mp ran
        exact ⟨⟨trivial, isEmpty.symm⟩, rfl⟩
      cases ran
    · intro executable rest fits
      cases executable <;> simp [Executable.tag, Executable.body, map_read_eq_ok_iff] <;> exact fits
    · intro executable
      cases executable <;> rfl

instance : Canonical ExtraConfig where
  Fits _ := True
  exact := by
    refine (Exact.soleTag _ (Exact.bind ExtraConfig.multisigAddress exact fun multisigAddress =>
      Exact.bind ExtraConfig.nonce exact fun nonce => Exact.pure _)).congr ?_ ?_
    · intro config
      simp [Wire.write]
    · simp [Canonical.Fits]

instance : Canonical InnerPayload where
  Fits inner := Canonical.Fits inner.executable
  exact := by
    refine (Exact.soleTag _ (Exact.bind InnerPayload.executable exact fun executable =>
      Exact.bind InnerPayload.config exact fun config => Exact.pure _)).congr ?_ ?_
    · intro inner
      simp [Wire.write]
    · simp [Canonical.Fits]

def Payload.Fits : Payload → Prop
  | script code => Canonical.Fits code
  | entryFunction call => Canonical.Fits call
  | multisig approved => Canonical.Fits approved
  | inner payload => Canonical.Fits payload

instance : Canonical Payload where
  Fits := Payload.Fits
  exact := by
    refine Exact.tagged Payload.tag Payload.body ?_ ?_ ?_
    · intro payload
      cases payload <;> simp [Payload.tag]
    · intro n input payload rest ran
      rcases ite_eq_ok_iff.mp ran with ⟨isScript, ran⟩ | ⟨-, ran⟩
      · obtain ⟨value, ⟨fits, rfl⟩, rfl⟩ := map_read_eq_ok_iff.mp ran
        exact ⟨⟨fits, isScript.symm⟩, rfl⟩
      rcases ite_eq_ok_iff.mp ran with ⟨isCall, ran⟩ | ⟨-, ran⟩
      · obtain ⟨value, ⟨fits, rfl⟩, rfl⟩ := map_read_eq_ok_iff.mp ran
        exact ⟨⟨fits, isCall.symm⟩, rfl⟩
      rcases ite_eq_ok_iff.mp ran with ⟨isMultisig, ran⟩ | ⟨-, ran⟩
      · obtain ⟨value, ⟨fits, rfl⟩, rfl⟩ := map_read_eq_ok_iff.mp ran
        exact ⟨⟨fits, isMultisig.symm⟩, rfl⟩
      rcases ite_eq_ok_iff.mp ran with ⟨isInner, ran⟩ | ⟨-, ran⟩
      · obtain ⟨value, ⟨fits, rfl⟩, rfl⟩ := map_read_eq_ok_iff.mp ran
        exact ⟨⟨fits, isInner.symm⟩, rfl⟩
      cases ran
    · intro payload rest fits
      cases payload <;> simp [Payload.tag, Payload.body, map_read_eq_ok_iff] <;> exact fits

end MoveWallet
