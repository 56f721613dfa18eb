import MoveWallet.Chain.Memory
import MoveWallet.Inspect.Account
import MoveWallet.Inspect.Builder
import MoveWallet.Inspect.Named
import MoveWallet.Inspect.Shape
import MoveWallet.Json.Printer
import MoveWallet.Proofs.Abi.Width
import MoveWallet.Proofs.Account.Keyless
import MoveWallet.Proofs.Account.Members
import MoveWallet.Proofs.Authentication
import MoveWallet.Proofs.Builder.EntryFunction
import MoveWallet.Proofs.Builder.Lookups
import MoveWallet.Proofs.Builder.Payload
import MoveWallet.Proofs.Derivation.Path
import MoveWallet.Proofs.Derivation.Tree
import MoveWallet.Proofs.Envelope
import MoveWallet.Proofs.Key.Ed25519
import MoveWallet.Proofs.Key.Private
import MoveWallet.Proofs.Keyless.Commitment
import MoveWallet.Proofs.MultiKey.Signers
import MoveWallet.Proofs.Poseidon.Packing
import MoveWallet.Proofs.Poseidon.Rounds
import MoveWallet.Proofs.Transaction.SigningMessage
import MoveWallet.Proofs.Transaction.Verification
import MoveWallet.Proofs.TypeTag.Blanks
import MoveWallet.Proofs.TypeTag.Printer
import MoveWallet.Proofs.TypeTag.Retention
import MoveWallet.Proofs.TypeTag.Substitution
import MoveWallet.Proofs.Wire.Groups
import MoveWallet.Proofs.Wire.Session
import MoveWallet.Proofs.Wire.Strict
import MoveWallet.Proofs.Wire.Validity
