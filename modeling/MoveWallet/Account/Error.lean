import MoveWallet.Keyless.Error
import MoveWallet.MultiKey.Error

/-! # Errors of accounts that sign -/

namespace MoveWallet

/-- Why an account cannot be made or cannot sign. -/
inductive SigningError
  /-- A login does not fit the account, or its ephemeral key has expired. -/
  | keyless (error : KeylessError)
  /-- A member does not fit the multi-key. -/
  | multiKey (error : MultiKeyError)
  /-- There are fewer members than the threshold. -/
  | notEnoughSigners (required : UInt8) (provided : Nat)
  /-- A member is itself an account with several keys. -/
  | unsupportedMember
  deriving DecidableEq

def SigningError.message : SigningError → String
  | keyless error => error.message
  | multiKey error => error.message
  | notEnoughSigners required provided =>
    s!"multi-key requires {required} signers, got {provided}"
  | unsupportedMember => "multi-key members must be single-key signers"

end MoveWallet
