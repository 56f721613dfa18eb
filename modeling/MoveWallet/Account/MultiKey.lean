import MoveWallet.Account.Error
import MoveWallet.Account.Sole

/-! # Accounts with several keys

The account holds a multi-key and the members that sign here, each at the position of its key. The
members are sorted by position, which is the order in which signatures are checked.
-/

namespace MoveWallet

/-- An account with several keys and enough members to reach its threshold. -/
structure MultiKeyAccount where
  multiKey : MultiKey
  /-- The members with the positions of their keys, in ascending order. -/
  members : List (UInt8 × SoleAccount)
  address : Address
  deriving DecidableEq

/-- An account of any kind. -/
inductive Account
  | sole (account : SoleAccount)
  | multiKey (account : MultiKeyAccount)
  deriving DecidableEq

namespace MultiKeyAccount

/-- The position of an account among the keys of a multi-key. -/
def place (multiKey : MultiKey) : Account → Except SigningError (UInt8 × SoleAccount)
  | .sole account => do
    let position ← (multiKey.position account.publicKey).mapError .multiKey
    return (position, account)
  | .multiKey _ => .error .unsupportedMember

/-- The account of some members. Their number is checked first, then the key of each in the given
order, and last that no key occurs twice. -/
def make (multiKey : MultiKey) (accounts : List Account) : Except SigningError MultiKeyAccount :=
  if accounts.length < multiKey.threshold.toNat then
    .error (.notEnoughSigners multiKey.threshold accounts.length)
  else do
    let placed ← accounts.mapM (place multiKey)
    let members := placed.mergeSort fun first second => first.1 ≤ second.1
    let _ ← (Bitmap.ofPositions (members.map (·.1))).mapError SigningError.multiKey
    return ⟨multiKey, members, multiKey.address⟩

def positions (account : MultiKeyAccount) : List UInt8 := account.members.map (·.1)

/-- The signature of a member with the position of its key. -/
def signMember (sign : SoleAccount → Except KeylessError AnySignature)
    (member : UInt8 × SoleAccount) : Except SigningError (UInt8 × AnySignature) := do
  let signature ← (sign member.2).mapError SigningError.keyless
  return (member.1, signature)

/-- The authenticator of the signatures that the members make, one after the other. -/
def authenticateWith (account : MultiKeyAccount)
    (sign : SoleAccount → Except KeylessError AnySignature) :
    Except SigningError AccountAuthenticator := do
  let signatures ← account.members.mapM (signMember sign)
  let signature ← (MultiKeySignature.ofSigners signatures).mapError SigningError.multiKey
  return .multiKey account.multiKey signature

end MultiKeyAccount

end MoveWallet
