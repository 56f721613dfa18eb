import MoveWallet.Account.Basic
import MoveWallet.Proofs.MultiKey.Signature
import MoveWallet.Proofs.Outcome

/-! # Accounts that sign with private keys

An account with several keys holds its members in ascending order of their positions, and the
multi-key holds the key of each member at its position. With members that are not keyless it
therefore always signs, and so does every account with one private key.
-/

namespace MoveWallet

open Outcome

namespace SoleAccount

/-- The private key of an account that is not keyless. -/
def privateKey? : SoleAccount → Option PrivateKey
  | ed25519 account => some (.ed25519 account.privateKey)
  | singleKey account => some account.privateKey
  | keyless _ => none

variable {account : SoleAccount} {key : PrivateKey}

private theorem publicKey_eq (found : account.privateKey? = some key) :
    account.publicKey = key.publicKey := by
  cases account <;> cases found <;> rfl

theorem sign_eq (found : account.privateKey? = some key) (message : Bytes) (now : UInt64) :
    account.sign message now = .ok (key.sign message) := by
  cases account <;> cases found <;> rfl

theorem transactionMessage_eq (found : account.privateKey? = some key)
    (transaction : UnsignedTransaction) :
    account.transactionMessage transaction = transaction.signingMessage := by
  cases account <;> cases found <;> rfl

/-- The authenticator holds the key and its signature. -/
theorem authenticate_eq (found : account.privateKey? = some key) (message : Bytes) (now : UInt64) :
    ∃ authenticator, account.authenticate message now = .ok authenticator ∧
      ∀ other, authenticator.verify other = key.publicKey.verify other (key.sign message) := by
  cases account with
  | ed25519 account | singleKey account =>
    cases found
    exact ⟨_, rfl, fun _ => rfl⟩
  | keyless account => cases found

end SoleAccount

namespace MultiKey

variable {multiKey : MultiKey} {key : AnyPublicKey} {position : UInt8}

theorem position_eq_ok_iff_findIdx? :
    multiKey.position key = .ok position ↔
      multiKey.keys.findIdx? (· = key) = some position.toNat := by
  unfold MultiKey.position
  cases multiKey.keys.findIdx? (· = key) with
  | none => exact ⟨nofun, nofun⟩
  | some index =>
    dsimp only
    split
    next small =>
      rw [Except.ok.injEq, Option.some.injEq]
      constructor
      · rintro rfl
        exact (UInt8.toNat_ofNat_of_lt' small).symm
      · rintro rfl
        exact UInt8.ofNat_toNat
    next large =>
      refine ⟨nofun, fun same => absurd ?_ large⟩
      rw [Option.some.inj same]
      exact position.toNat_lt

theorem getElem?_of_position (found : multiKey.position key = .ok position) :
    multiKey.keys[position.toNat]? = some key := by
  obtain ⟨inside, same, -⟩ :=
    List.findIdx?_eq_some_iff_getElem.mp (position_eq_ok_iff_findIdx?.mp found)
  rw [List.getElem?_eq_getElem inside, of_decide_eq_true same]

end MultiKey

namespace MultiKeyAccount

/-- What holds of every account with several keys. -/
structure WellFormed (account : MultiKeyAccount) : Prop where
  ascending : account.positions.Pairwise (· < ·)
  inside : ∀ member ∈ account.members, member.1.toNat < Bitmap.capacity
  placed : ∀ member ∈ account.members,
    account.multiKey.keys[member.1.toNat]? = some member.2.publicKey
  enough : account.multiKey.threshold.toNat ≤ account.members.length

theorem place_eq_ok_iff {multiKey : MultiKey} {account : Account} {member : UInt8 × SoleAccount} :
    place multiKey account = .ok member ↔
      account = .sole member.2 ∧ multiKey.position member.2.publicKey = .ok member.1 := by
  cases account with
  | sole account =>
    simp only [place, bind_eq_ok_iff, mapError_eq_ok_iff]
    constructor
    · rintro ⟨position, found, made⟩
      cases made
      exact ⟨rfl, found⟩
    · rintro ⟨same, found⟩
      cases same
      exact ⟨_, found, rfl⟩
  | multiKey account => simp [place]

/-- The members of an account are sorted by position. -/
theorem pairwise_mergeSort (placed : List (UInt8 × SoleAccount)) :
    (placed.mergeSort fun first second => first.1 ≤ second.1).Pairwise
      fun first second => first.1 ≤ second.1 := by
  refine (List.pairwise_mergeSort ?_ ?_ placed).imp of_decide_eq_true
  · intro first second third below below'
    exact decide_eq_true (UInt8.le_trans (of_decide_eq_true below) (of_decide_eq_true below'))
  · intro first second
    simpa using UInt8.le_total first.1 second.1

/-- Members are sorted by position, and no position occurs twice. -/
theorem make_wellFormed {multiKey : MultiKey} {accounts : List Account} {account : MultiKeyAccount}
    (made : make multiKey accounts = .ok account) : account.WellFormed := by
  unfold make at made
  split at made
  next => cases made
  next reached =>
    simp only [bind_eq_ok_iff, mapM_eq_ok_iff, mapError_eq_ok_iff] at made
    obtain ⟨placed, places, bitmap, distinct, made⟩ := made
    cases made
    have perm := List.mergeSort_perm placed fun first second => first.1 ≤ second.1
    obtain ⟨inside, nodup, -⟩ := Bitmap.ofPositions_eq_ok_iff.mp distinct
    refine ⟨?_, ?_, ?_, ?_⟩
    · refine ((List.pairwise_map.mpr (pairwise_mergeSort placed)).and nodup).imp fun below => ?_
      exact UInt8.lt_of_le_of_ne below.1 below.2
    · exact List.forall_mem_map.mp inside
    · intro member listed
      obtain ⟨given, -, placedGiven⟩ := exists_of_mem_mapM places (perm.mem_iff.mp listed)
      exact MultiKey.getElem?_of_position (place_eq_ok_iff.mp placedGiven).2
    · change multiKey.threshold.toNat ≤ _
      rw [perm.length_eq, ← places.length_eq]
      exact Nat.not_lt.mp reached

private theorem signMember_eq_ok_iff {sign : SoleAccount → Except KeylessError AnySignature}
    {member : UInt8 × SoleAccount} {signer : UInt8 × AnySignature} :
    signMember sign member = .ok signer ↔ signer.1 = member.1 ∧ sign member.2 = .ok signer.2 := by
  simp only [signMember, bind_eq_ok_iff, mapError_eq_ok_iff]
  constructor
  · rintro ⟨signature, signed, made⟩
    cases made
    exact ⟨rfl, signed⟩
  · rintro ⟨same, signed⟩
    refine ⟨signer.2, signed, ?_⟩
    rw [← same]
    rfl

/-- The signatures of the members form one that the multi-key accepts, if the key of each member
accepts its own. -/
theorem authenticateWith_of_keys {account : MultiKeyAccount} (formed : account.WellFormed)
    (sign : SoleAccount → Except KeylessError AnySignature) (message : Bytes)
    (signs : ∀ member ∈ account.members, ∃ key, member.2.privateKey? = some key ∧
      sign member.2 = .ok (key.sign message)) :
    ∃ authenticator, account.authenticateWith sign = .ok authenticator ∧
      ((∀ member ∈ account.members, ∀ key, member.2.privateKey? = some key →
        key.publicKey.verify message (key.sign message) = true) →
          authenticator.verify message = true) := by
  obtain ⟨signers, ran⟩ : ∃ signers, account.members.mapM (signMember sign) = .ok signers := by
    refine exists_mapM_eq_ok fun member listed => ?_
    obtain ⟨key, -, signed⟩ := signs member listed
    exact ⟨(member.1, key.sign message), signMember_eq_ok_iff.mpr ⟨rfl, signed⟩⟩
  have pairs := mapM_eq_ok_iff.mp ran
  have positions : account.positions = signers.map (·.1) := by
    rw [← List.forall₂_eq_eq_eq, positions, List.forall₂_map_left_iff, List.forall₂_map_right_iff]
    exact pairs.imp fun _ _ done => (signMember_eq_ok_iff.mp done).1.symm
  have inside : ∀ signer ∈ signers, signer.1.toNat < Bitmap.capacity := by
    intro signer listed
    obtain ⟨member, memberListed, done⟩ := exists_of_mem_mapM pairs listed
    rw [(signMember_eq_ok_iff.mp done).1]
    exact formed.inside member memberListed
  obtain ⟨signature, made, named, held⟩ :=
    MultiKeySignature.ofSigners_of_ascending (positions ▸ formed.ascending) inside
  refine ⟨.multiKey account.multiKey signature, ?_, fun accepts => ?_⟩
  · simp only [authenticateWith, bind_eq_ok_iff, mapError_eq_ok_iff]
    exact ⟨signers, ran, signature, made, rfl⟩
  · refine MultiKey.verify_of_signers named held ?_ ?_
    · rw [← pairs.length_eq]
      exact formed.enough
    · intro signer listed
      obtain ⟨member, memberListed, done⟩ := exists_of_mem_mapM pairs listed
      obtain ⟨same, signed⟩ := signMember_eq_ok_iff.mp done
      obtain ⟨key, found, signed'⟩ := signs member memberListed
      obtain own : signer.2 = key.sign message := Except.ok.inj (signed.symm.trans signed')
      refine ⟨key.publicKey, ?_, ?_⟩
      · rw [same, formed.placed member memberListed, SoleAccount.publicKey_eq found]
      · rw [own]
        exact accepts member memberListed key found

end MultiKeyAccount

namespace Account

/-- An account of several keys comes from its members, perhaps at another address. -/
def IsMade : Account → Prop
  | sole _ => True
  | multiKey account => ∃ keys accounts made, MultiKeyAccount.make keys accounts = .ok made ∧
    account = { made with address := account.address }

def members : Account → List SoleAccount
  | sole account => [account]
  | multiKey account => account.members.map (·.2)

/-- No signature comes from a keyless account. -/
def HasPrivateKeys (account : Account) : Prop :=
  ∀ member ∈ account.members, ∃ key, member.privateKey? = some key

/-- Every private key of an account makes a signature of a message that its public key accepts. -/
def SignsCorrectly (account : Account) (message : Bytes) : Prop :=
  ∀ member ∈ account.members, ∀ key, member.privateKey? = some key →
    key.publicKey.verify message (key.sign message) = true

/-- What the account of several keys holds does not depend on its address. -/
private theorem IsMade.wellFormed {account : MultiKeyAccount} (made : IsMade (.multiKey account)) :
    account.WellFormed := by
  obtain ⟨keys, accounts, original, made, same⟩ := made
  obtain ⟨ascending, inside, placed, enough⟩ := MultiKeyAccount.make_wellFormed made
  rw [same]
  exact ⟨ascending, inside, placed, enough⟩

/-- An account with private keys signs every transaction, and the signature is valid if those of
its keys are. -/
theorem signTransaction_of_keys {account : Account} (made : account.IsMade)
    (keyed : account.HasPrivateKeys) (transaction : UnsignedTransaction) (now : UInt64) :
    ∃ authenticator, account.signTransaction transaction now = .ok authenticator ∧
      (account.SignsCorrectly transaction.signingMessage →
        authenticator.verify transaction.signingMessage = true) := by
  cases account with
  | sole account =>
    obtain ⟨key, found⟩ := keyed account List.mem_cons_self
    obtain ⟨authenticator, signed, verifies⟩ :=
      SoleAccount.authenticate_eq found transaction.signingMessage now
    refine ⟨authenticator, ?_, fun correct => ?_⟩
    · rw [signTransaction, SoleAccount.transactionMessage_eq found, signed]
      rfl
    · rw [verifies]
      exact correct account List.mem_cons_self key found
  | multiKey account =>
    have signs : ∀ member ∈ account.members, ∃ key, member.2.privateKey? = some key ∧
        member.2.sign (member.2.transactionMessage transaction) now =
          .ok (key.sign transaction.signingMessage) := by
      intro member listed
      obtain ⟨key, found⟩ := keyed member.2 (List.mem_map_of_mem listed)
      rw [SoleAccount.transactionMessage_eq found]
      exact ⟨key, found, SoleAccount.sign_eq found _ _⟩
    obtain ⟨authenticator, signed, verifies⟩ :=
      MultiKeyAccount.authenticateWith_of_keys made.wellFormed
        (fun member => member.sign (member.transactionMessage transaction) now)
        transaction.signingMessage signs
    refine ⟨authenticator, signed, fun correct => verifies fun member listed => ?_⟩
    exact correct member.2 (List.mem_map_of_mem listed)

/-- Whatever an account with private keys signs is valid if the signatures of its keys are. -/
theorem verify_of_signTransaction {account : Account} (made : account.IsMade)
    (keyed : account.HasPrivateKeys) {transaction : UnsignedTransaction} {now : UInt64}
    {authenticator : AccountAuthenticator}
    (signed : account.signTransaction transaction now = .ok authenticator)
    (correct : account.SignsCorrectly transaction.signingMessage) :
    authenticator.verify transaction.signingMessage = true := by
  obtain ⟨other, signed', verifies⟩ := signTransaction_of_keys made keyed transaction now
  obtain rfl : authenticator = other := Except.ok.inj (signed.symm.trans signed')
  exact verifies correct

end Account

end MoveWallet
