import MoveWallet.Abi.Basic
import MoveWallet.Inspect.Key
import MoveWallet.Transaction.Signed

/-! # Transactions shown as JSON

A transaction is shown with the bytes that its parties sign, a signed one with its hash and whether
its signatures are valid.
-/

namespace MoveWallet.Inspect

instance : Inspect ScriptArgument where
  inspect
    | .u8 value => .object [("u8", inspect value)]
    | .u16 value => .object [("u16", inspect value)]
    | .u32 value => .object [("u32", inspect value)]
    | .u64 value => .object [("u64", inspect value)]
    | .u128 value => .object [("u128", inspect value)]
    | .u256 value => .object [("u256", inspect value)]
    | .bool value => .object [("bool", inspect value)]
    | .address value => .object [("address", inspect value)]
    | .bytes value => .object [("u8_vector", inspect value)]
    | .serialized value => .object [("serialized", inspect value)]

instance : Inspect Script where
  inspect script := .object [("code", inspect script.code),
    ("ty_args", types script.typeArguments), ("args", inspect script.arguments)]

instance : Inspect EntryFunction where
  inspect call := .object [("module", .string call.module.text),
    ("function", inspect call.function), ("ty_args", types call.typeArguments),
    ("args", inspect call.arguments)]

instance : Inspect MultisigCall where
  inspect
    | .entryFunction call => .object [("entry_function", inspect call)]

instance : Inspect Multisig where
  inspect multisig := .object [("multisig_address", inspect multisig.account),
    ("payload", inspect multisig.call)]

instance : Inspect Executable where
  inspect
    | .script script => .object [("script", inspect script)]
    | .entryFunction call => .object [("entry_function", inspect call)]
    | .empty => .string "empty"

instance : Inspect ExtraConfig where
  inspect config := .object [("multisig_address", inspect config.multisigAddress),
    ("nonce", inspect config.nonce)]

instance : Inspect InnerPayload where
  inspect inner := .object [("executable", inspect inner.executable),
    ("extra_config", inspect inner.config)]

def barePayload : Payload → Json
  | .script script => inspect script
  | .entryFunction call => inspect call
  | .multisig multisig => inspect multisig
  | .inner inner => inspect inner

instance : Inspect Payload where
  inspect payload := .object [("variant", inspect payload.tag), ("body", barePayload payload),
    ("nonce", inspect payload.nonce?)]

instance : Inspect RawTransaction where
  inspect raw := .object [("sender", inspect raw.sender),
    ("sequence_number", inspect raw.sequenceNumber), ("payload", inspect raw.payload),
    ("max_gas_amount", inspect raw.maxGasAmount), ("gas_unit_price", inspect raw.gasUnitPrice),
    ("expiration", inspect raw.expiration), ("chain_id", inspect raw.chainId),
    ("signing_message", inspect raw.signingMessage)]

instance : Inspect TransactionWithSigners where
  inspect transaction :=
    let message := ("signing_message", inspect transaction.signingMessage)
    match transaction with
    | .multiAgent raw secondary =>
      .object [("multi_agent", inspect raw), ("secondary", inspect secondary), message]
    | .feePayer raw secondary sponsor =>
      .object [("fee_payer", inspect raw), ("secondary", inspect secondary),
        ("fee_payer_address", inspect sponsor), message]

def credentials : AccountAuthenticator → Json × Json
  | .ed25519 key signature => (inspect key, inspect signature)
  | .singleKey key signature => (inspect key, inspect signature)
  | .multiKey key signature => (inspect key, inspect signature)
  | .placeholder => (.null, .null)

instance : Inspect AccountAuthenticator where
  inspect authenticator := .object [("variant", inspect authenticator.tag),
    ("public_key", (credentials authenticator).1), ("signature", (credentials authenticator).2)]

def otherParties : TransactionAuthenticator → List (String × Json)
  | .multiAgent _ secondary secondarySigners =>
    [("secondary_addresses", inspect secondary), ("secondary_signers", inspect secondarySigners)]
  | .feePayer _ secondary secondarySigners sponsor sponsorSigner =>
    [("secondary_addresses", inspect secondary), ("secondary_signers", inspect secondarySigners),
      ("fee_payer_address", inspect sponsor), ("fee_payer_signer", inspect sponsorSigner)]
  | _ => []

instance : Inspect TransactionAuthenticator where
  inspect authenticator := .object ([("variant", inspect authenticator.tag),
    ("sender", inspect authenticator.sender)] ++ otherParties authenticator)

instance : Inspect SignedTransaction where
  inspect signed := .object [("raw", inspect signed.raw),
    ("authenticator", inspect signed.authenticator), ("hash", inspect signed.hash),
    ("verify", .bool signed.verify)]

def topology : UnsignedTransaction → String
  | .simple _ => "simple"
  | .withSigners _ => "with_data"

instance : Inspect UnsignedTransaction where
  inspect transaction := .object [("topology", .string (topology transaction)),
    ("raw", inspect (Wire.write transaction.raw)), ("secondary", inspect transaction.secondary),
    ("fee_payer", inspect transaction.sponsor?), ("bcs", inspect transaction.encoding),
    ("signing_message", inspect transaction.signingMessage)]

instance : Inspect EntryFunctionAbi where
  inspect abi := .object [("signers", inspect abi.signers),
    ("type_parameters", inspect abi.typeParameters), ("parameters", types abi.parameters)]

end MoveWallet.Inspect
