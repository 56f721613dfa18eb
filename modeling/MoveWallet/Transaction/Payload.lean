import MoveWallet.TypeTag.Printer
import MoveWallet.TypeTag.Wire

/-! # What a transaction runs

A payload is a script, a call of a published function, a call on behalf of a multisig account, or
an inner payload that separates what is run from how it is run. Type arguments of a script or a
call must not contain references or placeholders.
-/

namespace MoveWallet

/-- Why parts do not form a payload. -/
inductive PayloadError
  /-- A type argument contains a reference or a placeholder. -/
  | abiOnlyTypeArgument (type : String)
  deriving DecidableEq

def PayloadError.message : PayloadError → String
  | abiOnlyTypeArgument type => s!"type argument {type} cannot be used in a transaction"

/-- Fail at the first type that contains a reference or a placeholder. -/
def TypeTag.checkConcrete (types : List TypeTag) :
    Except PayloadError (PLift (∀ type ∈ types, type.isAbiOnly = false)) :=
  match found : types.find? TypeTag.isAbiOnly with
  | some type => .error (.abiOnlyTypeArgument type.text)
  | none =>
    .ok ⟨fun type listed => Bool.eq_false_iff.mpr (List.find?_eq_none.mp found type listed)⟩

theorem TypeTag.concrete_nil : ∀ type ∈ ([] : List TypeTag), type.isAbiOnly = false :=
  fun _ => nofun

/-- An argument of a script. -/
inductive ScriptArgument
  | u8 (value : UInt8)
  | u64 (value : UInt64)
  | u128 (value : U128)
  | address (value : Address)
  | bytes (value : Bytes)
  | bool (value : Bool)
  | u16 (value : UInt16)
  | u32 (value : UInt32)
  | u256 (value : U256)
  /-- The encoding of a value of any other type. -/
  | serialized (encoding : Bytes)
  deriving DecidableEq

namespace ScriptArgument

instance : Wire ScriptArgument where
  write
    | u8 value => 0 :: Wire.write value
    | u64 value => 1 :: Wire.write value
    | u128 value => 2 :: Wire.write value
    | address value => 3 :: Wire.write value
    | bytes value => 4 :: value.prefixed
    | bool value => 5 :: Wire.write value
    | u16 value => 6 :: Wire.write value
    | u32 value => 7 :: Wire.write value
    | u256 value => 8 :: Wire.write value
    | serialized encoding => 9 :: encoding.prefixed
  read := do
    let tag ← Reader.tag
    if tag = 0 then u8 <$> Wire.read
    else if tag = 1 then u64 <$> Wire.read
    else if tag = 2 then u128 <$> Wire.read
    else if tag = 3 then address <$> Wire.read
    else if tag = 4 then bytes <$> Reader.bytes
    else if tag = 5 then bool <$> Wire.read
    else if tag = 6 then u16 <$> Wire.read
    else if tag = 7 then u32 <$> Wire.read
    else if tag = 8 then u256 <$> Wire.read
    else if tag = 9 then serialized <$> Reader.bytes
    else Reader.fail (.unknownVariant "ScriptArgument" tag)

end ScriptArgument

/-- Code that is run once. -/
@[ext]
structure Script where
  code : Bytes
  typeArguments : List TypeTag
  arguments : List ScriptArgument
  concrete : ∀ type ∈ typeArguments, type.isAbiOnly = false

namespace Script

/-- The script of some code with concrete type arguments. -/
def make (code : Bytes) (typeArguments : List TypeTag) (arguments : List ScriptArgument) :
    Except PayloadError Script := do
  let ⟨concrete⟩ ← TypeTag.checkConcrete typeArguments
  return ⟨code, typeArguments, arguments, concrete⟩

instance : Wire Script where
  write script := script.code.prefixed ++ Wire.write script.typeArguments ++
    Wire.write script.arguments
  read := do
    let code ← Reader.bytes
    let typeArguments ← Wire.read
    let arguments ← Wire.read
    Reader.checked "Script" ((make code typeArguments arguments).mapError PayloadError.message)

end Script

/-- A call of a published function. -/
@[ext]
structure EntryFunction where
  module : ModuleId
  function : Identifier
  typeArguments : List TypeTag
  /-- The encodings of the arguments. -/
  arguments : List Bytes
  concrete : ∀ type ∈ typeArguments, type.isAbiOnly = false

namespace EntryFunction

/-- The call of a function with concrete type arguments. -/
def make (module : ModuleId) (function : Identifier) (typeArguments : List TypeTag)
    (arguments : List Bytes) : Except PayloadError EntryFunction := do
  let ⟨concrete⟩ ← TypeTag.checkConcrete typeArguments
  return ⟨module, function, typeArguments, arguments, concrete⟩

instance : Wire EntryFunction where
  write call := Wire.write call.module ++ Wire.write call.function ++
    Wire.write call.typeArguments ++ Bytes.uleb128 call.arguments.length ++
    call.arguments.flatMap Bytes.prefixed
  read := do
    let module ← Wire.read
    let function ← Wire.read
    let typeArguments ← Wire.read
    let arguments ← Reader.list Reader.bytes
    Reader.checked "EntryFunction"
      ((make module function typeArguments arguments).mapError PayloadError.message)

end EntryFunction

/-- The call that the owners of a multisig account have approved. -/
inductive MultisigCall
  | entryFunction (call : EntryFunction)

instance : Wire MultisigCall where
  write
    | .entryFunction call => 0 :: Wire.write call
  read := do
    let tag ← Reader.tag
    if tag = 0 then MultisigCall.entryFunction <$> Wire.read
    else Reader.fail (.unknownVariant "MultisigTransactionPayload" tag)

/-- Running what a multisig account has approved; without a call, the one stored on chain. -/
structure Multisig where
  account : Address
  call : Option MultisigCall

instance : Wire Multisig where
  write multisig := Wire.write multisig.account ++ Wire.write multisig.call
  read := do
    let account ← Wire.read
    let call ← Wire.read
    pure ⟨account, call⟩

/-- What an inner payload runs. -/
inductive Executable
  | script (script : Script)
  | entryFunction (call : EntryFunction)
  /-- Nothing: what runs is stored on chain. -/
  | empty

instance : Wire Executable where
  write
    | .script script => 0 :: Wire.write script
    | .entryFunction call => 1 :: Wire.write call
    | .empty => [2]
  read := do
    let tag ← Reader.tag
    if tag = 0 then Executable.script <$> Wire.read
    else if tag = 1 then Executable.entryFunction <$> Wire.read
    else if tag = 2 then pure Executable.empty
    else Reader.fail (.unknownVariant "TransactionExecutable" tag)

/-- How an inner payload runs. -/
structure ExtraConfig where
  /-- The account on whose behalf it runs. -/
  multisigAddress : Option Address
  /-- The number that protects it from being run twice, in place of a sequence number. -/
  nonce : Option UInt64
  deriving DecidableEq

namespace ExtraConfig

def default : ExtraConfig := ⟨none, none⟩

instance : Wire ExtraConfig where
  write config := 0 :: (Wire.write config.multisigAddress ++ Wire.write config.nonce)
  read := do
    let tag ← Reader.tag
    if tag = 0 then do
      let multisigAddress ← Wire.read
      let nonce ← Wire.read
      pure ⟨multisigAddress, nonce⟩
    else Reader.fail (.unknownVariant "TransactionExtraConfig" tag)

end ExtraConfig

/-- What is run and how. -/
structure InnerPayload where
  executable : Executable
  config : ExtraConfig

instance : Wire InnerPayload where
  write inner := 0 :: (Wire.write inner.executable ++ Wire.write inner.config)
  read := do
    let tag ← Reader.tag
    if tag = 0 then do
      let executable ← Wire.read
      let config ← Wire.read
      pure ⟨executable, config⟩
    else Reader.fail (.unknownVariant "TransactionInnerPayload" tag)

/-- What a transaction runs. -/
inductive Payload
  | script (script : Script)
  | entryFunction (call : EntryFunction)
  | multisig (multisig : Multisig)
  | inner (inner : InnerPayload)

namespace Payload

/-- The tag of a form of payload. Tag 1 is retired. -/
def tag : Payload → UInt8
  | .script _ => 0
  | .entryFunction _ => 2
  | .multisig _ => 3
  | .inner _ => 4

def body : Payload → Bytes
  | .script code => Wire.write code
  | .entryFunction call => Wire.write call
  | .multisig approved => Wire.write approved
  | .inner payload => Wire.write payload

instance : Wire Payload where
  write payload := payload.tag :: payload.body
  read := do
    let tag ← Reader.tag
    if tag = 0 then Payload.script <$> Wire.read
    else if tag = 2 then Payload.entryFunction <$> Wire.read
    else if tag = 3 then Payload.multisig <$> Wire.read
    else if tag = 4 then Payload.inner <$> Wire.read
    else Reader.fail (.unknownVariant "TransactionPayload" tag)

def nonce? : Payload → Option UInt64
  | .inner payload => payload.config.nonce
  | _ => none

end Payload

/-- The inner form of a payload with a configuration. The account of a multisig payload is kept
unless the configuration names one; the configuration of an inner payload is replaced. -/
def InnerPayload.ofPayload (config : ExtraConfig) : Payload → InnerPayload
  | .script script => ⟨.script script, config⟩
  | .entryFunction call => ⟨.entryFunction call, config⟩
  | .multisig multisig =>
    let executable :=
      match multisig.call with
      | some (.entryFunction call) => Executable.entryFunction call
      | none => Executable.empty
    ⟨executable, { config with
      multisigAddress := config.multisigAddress.or (some multisig.account) }⟩
  | .inner inner => ⟨inner.executable, config⟩

end MoveWallet
