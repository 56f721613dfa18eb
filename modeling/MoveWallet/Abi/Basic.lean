import MoveWallet.Abi.Argument
import MoveWallet.TypeTag.Parser

/-! # Parameters of functions

The signers of a transaction are the leading parameters of the functions that it calls. They are no
arguments of the call.
-/

namespace MoveWallet

/-- The parameters of a published function. -/
structure EntryFunctionAbi where
  /-- The number of leading parameters that are signers. -/
  signers : Nat
  /-- The number of type parameters. -/
  typeParameters : Nat
  /-- The types of the other parameters. -/
  parameters : List TypeTag

namespace EntryFunctionAbi

/-- Whether a parameter is a signer or a reference to one. -/
def isSigner : TypeTag → Bool
  | .signer => true
  | .reference .signer => true
  | _ => false

/-- The parameters of the given types, with the leading signers counted. -/
def make (typeParameters : Nat) (types : List TypeTag) : EntryFunctionAbi :=
  ⟨(types.takeWhile isSigner).length, typeParameters, types.dropWhile isSigner⟩

/-- Read the types of parameters. -/
def parse (typeParameters : Nat) (types : List String) : Except TypeTagError EntryFunctionAbi :=
  make typeParameters <$> types.mapM fun text => TypeTag.parse text true

/-- The encodings of some arguments, with type arguments in the places of placeholders. The number
of type arguments is checked first, and then the number of arguments. -/
def encodeArguments (abi : EntryFunctionAbi) (types : List TypeTag) (arguments : List Json) :
    Except ArgumentError (List Bytes) :=
  if types.length ≠ abi.typeParameters then
    .error (.typeArgumentCount abi.typeParameters types.length)
  else if arguments.length ≠ abi.parameters.length then
    .error (.argumentCount abi.parameters.length arguments.length)
  else (abi.parameters.zip arguments).mapM fun pair =>
    Argument.encode (pair.1.instantiate types) pair.2

end EntryFunctionAbi

end MoveWallet
