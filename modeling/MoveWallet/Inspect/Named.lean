import MoveWallet.Inspect.Transaction

/-! # Types by their names

An encoding can be looked at when the name of its type is known.
-/

namespace MoveWallet.Inspect

/-- Decode a value of a type and show it with its encoding. -/
def withEncodingOf (α : Type) [Wire α] [Inspect α] (bytes : Bytes) : Except DecodeError Json :=
  withEncoding <$> Wire.decode α bytes

/-- Decode the number of a chain and show it as a numeral. -/
def chainId (bytes : Bytes) : Except DecodeError Json := do
  let value ← Wire.decode UInt8 bytes
  return .object [("value", decimal value.toNat), ("bcs", inspect (Wire.write value))]

def decoders : List (String × (Bytes → Except DecodeError Json)) :=
  [("AccountAddress", withEncodingOf Address),
    ("AccountAuthenticator", withEncodingOf AccountAuthenticator),
    ("AnyPublicKey", withEncodingOf AnyPublicKey),
    ("AnySignature", withEncodingOf AnySignature),
    ("AuthenticationKey", withEncodingOf AuthenticationKey),
    ("ChainId", chainId),
    ("Ed25519PublicKey", withEncodingOf Ed25519PublicKey),
    ("Ed25519Signature", withEncodingOf Ed25519Signature),
    ("EntryFunction", withEncodingOf EntryFunction),
    ("EphemeralCertificate", withEncodingOf EphemeralCertificate),
    ("EphemeralPublicKey", withEncodingOf EphemeralPublicKey),
    ("EphemeralSignature", withEncodingOf EphemeralSignature),
    ("FederatedKeylessPublicKey", withEncodingOf FederatedKeylessPublicKey),
    ("Groth16Proof", withEncodingOf Groth16Proof),
    ("Identifier", withEncodingOf Identifier),
    ("KeylessPublicKey", withEncodingOf KeylessPublicKey),
    ("KeylessSignature", withEncodingOf KeylessSignature),
    ("ModuleId", withEncodingOf ModuleId),
    ("MultiKey", withEncodingOf MultiKey),
    ("MultiKeySignature", withEncodingOf MultiKeySignature),
    ("Multisig", withEncodingOf Multisig),
    ("MultisigTransactionPayload", withEncodingOf MultisigCall),
    ("Option<ZkProof>", withEncodingOf (Option ZkProof)),
    ("RawTransaction", withEncodingOf RawTransaction),
    ("RawTransactionWithData", withEncodingOf TransactionWithSigners),
    ("Script", withEncodingOf Script),
    ("ScriptArgument", withEncodingOf ScriptArgument),
    ("Secp256k1PublicKey", withEncodingOf Secp256k1PublicKey),
    ("Secp256k1Signature", withEncodingOf Secp256k1Signature),
    ("SignedTransaction", withEncodingOf SignedTransaction),
    ("StructTag", withEncodingOf StructTag),
    ("TransactionAuthenticator", withEncodingOf TransactionAuthenticator),
    ("TransactionExecutable", withEncodingOf Executable),
    ("TransactionExtraConfig", withEncodingOf ExtraConfig),
    ("TransactionInnerPayload", withEncodingOf InnerPayload),
    ("TransactionPayload", withEncodingOf Payload),
    ("TypeTag", withEncodingOf TypeTag),
    ("U256", withEncodingOf U256),
    ("List<AnyPublicKey>", withEncodingOf (List AnyPublicKey)),
    ("List<ScriptArgument>", withEncodingOf (List ScriptArgument)),
    ("List<TypeTag>", withEncodingOf (List TypeTag)),
    ("ZeroKnowledgeSig", withEncodingOf ZeroKnowledgeSig),
    ("ZkProof", withEncodingOf ZkProof)]

/-- What decodes a value of the type with a name and shows it. -/
def decoder? (typeName : String) : Option (Bytes → Except DecodeError Json) :=
  decoders.lookup typeName

end MoveWallet.Inspect
