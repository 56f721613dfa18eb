import Mathlib.Data.List.Perm.Basic
import MoveWallet.Proofs.Account.Signing

/-! # The members of an account with several keys

Members join an account exactly when they are enough, none has several keys itself, the multi-key
lists the key of each and no key occurs twice. The account holds them at the first positions of
their keys, in ascending order, and therefore does not depend on the order in which they are given.
-/

namespace MoveWallet

open Outcome

namespace MultiKey

variable {multiKey : MultiKey} {key other : AnyPublicKey} {index : UInt8}

/-- A key stands at a position and at none before it. -/
def FirstAt (multiKey : MultiKey) (key : AnyPublicKey) (position : Nat) : Prop :=
  multiKey.keys[position]? = some key ∧
    ∀ earlier < position, multiKey.keys[earlier]? ≠ some key

private theorem position_eq_ok_iff :
    multiKey.position key = .ok index ↔ multiKey.FirstAt key index.toNat := by
  constructor
  · intro found
    obtain ⟨_, -, first⟩ :=
      List.findIdx?_eq_some_iff_getElem.mp (position_eq_ok_iff_findIdx?.mp found)
    refine ⟨getElem?_of_position found, fun earlier before held => ?_⟩
    obtain ⟨inside, same⟩ := List.getElem?_eq_some_iff.mp held
    exact first earlier before (decide_eq_true same)
  · rintro ⟨held, first⟩
    obtain ⟨inside, same⟩ := List.getElem?_eq_some_iff.mp held
    rw [position_eq_ok_iff_findIdx?, List.findIdx?_eq_some_iff_getElem]
    refine ⟨inside, decide_eq_true same, fun earlier before again => first earlier before ?_⟩
    rw [List.getElem?_eq_getElem (before.trans inside), of_decide_eq_true again]

/-- Every key that is listed has a position. -/
theorem exists_position (listed : key ∈ multiKey.keys) :
    ∃ index, multiKey.position key = .ok index := by
  have search : multiKey.keys.findIdx? (· = key) ≠ none := fun missing =>
    absurd (List.findIdx?_eq_none_iff.mp missing key listed) (by simp)
  obtain ⟨place, found⟩ := Option.ne_none_iff_exists'.mp search
  obtain ⟨inside, -⟩ := List.findIdx?_eq_some_iff_getElem.mp found
  have small : place < 256 := Nat.lt_of_lt_of_le inside (multiKey.length_le.trans (by decide))
  refine ⟨UInt8.ofNat place, position_eq_ok_iff_findIdx?.mpr ?_⟩
  rw [found, UInt8.toNat_ofNat_of_lt' small]

private theorem position_lt (found : multiKey.position key = .ok index) :
    index.toNat < multiKey.keys.length :=
  (List.getElem?_eq_some_iff.mp (getElem?_of_position found)).1

/-- Different keys have different positions. -/
theorem position_inj (found : multiKey.position key = .ok index)
    (found' : multiKey.position other = .ok index) : key = other := by
  have held := getElem?_of_position found
  rw [getElem?_of_position found'] at held
  exact (Option.some.inj held).symm

/-- Accounts that can be members together: they are enough, and their keys are listed and
different. -/
structure Admits (multiKey : MultiKey) (members : List SoleAccount) : Prop where
  enough : multiKey.threshold.toNat ≤ members.length
  listed : ∀ member ∈ members, member.publicKey ∈ multiKey.keys
  distinct : (members.map SoleAccount.publicKey).Nodup

end MultiKey

namespace MultiKeyAccount

/-- The account holds each given member once, at the first position of its key, and the positions
ascend. -/
structure Places (account : MultiKeyAccount) (multiKey : MultiKey) (accounts : List Account) :
    Prop where
  same : account.multiKey = multiKey
  address : account.address = multiKey.address
  given : (account.members.map fun member => Account.sole member.2).Perm accounts
  length : account.positions.length = accounts.length
  ascending : account.positions.Pairwise (· < ·)
  inside : ∀ position ∈ account.positions, position.toNat < multiKey.keys.length
  first : ∀ member ∈ account.members, multiKey.FirstAt member.2.publicKey member.1.toNat

variable {multiKey : MultiKey} {accounts others : List Account} {account : MultiKeyAccount}

private theorem mapM_place_eq_ok_iff {placed : List (UInt8 × SoleAccount)} :
    accounts.mapM (place multiKey) = .ok placed ↔
      placed.map (fun member => Account.sole member.2) = accounts ∧
        ∀ member ∈ placed, multiKey.position member.2.publicKey = .ok member.1 := by
  rw [mapM_eq_ok_iff]
  simp only [place_eq_ok_iff]
  induction accounts generalizing placed with
  | nil => cases placed <;> simp
  | cons first later ih =>
    cases placed with
    | nil => simp
    | cons member placed =>
      rw [List.forall₂_cons, ih, List.map_cons, List.forall_mem_cons, List.cons.injEq]
      tauto

/-- An account is made of placed members that are enough and at different positions. -/
theorem make_eq_ok_iff :
    make multiKey accounts = .ok account ↔ ∃ placed : List (UInt8 × SoleAccount),
      placed.map (fun member => Account.sole member.2) = accounts ∧
      multiKey.threshold.toNat ≤ placed.length ∧
      (∀ member ∈ placed, multiKey.position member.2.publicKey = .ok member.1) ∧
      (placed.map (·.1)).Nodup ∧
      account = ⟨multiKey, placed.mergeSort fun first second => first.1 ≤ second.1,
        multiKey.address⟩ := by
  unfold make
  by_cases reached : accounts.length < multiKey.threshold.toNat
  · rw [if_pos reached]
    constructor
    · intro made
      cases made
    · rintro ⟨placed, rfl, enough, -⟩
      rw [List.length_map] at reached
      omega
  rw [if_neg reached]
  simp only [bind_eq_ok_iff, mapM_place_eq_ok_iff, mapError_eq_ok_iff,
    Bitmap.ofPositions_eq_ok_iff]
  refine exists_congr fun placed => ?_
  have perm := List.mergeSort_perm placed fun first second => first.1 ≤ second.1
  constructor
  · rintro ⟨⟨rfl, found⟩, bitmap, ⟨-, distinct, -⟩, made⟩
    cases made
    rw [List.length_map] at reached
    exact ⟨rfl, by omega, found, ((perm.map _).nodup_iff).mp distinct, rfl⟩
  · rintro ⟨rfl, -, found, distinct, rfl⟩
    refine ⟨⟨rfl, found⟩, _, ⟨?_, ((perm.map _).nodup_iff).mpr distinct, rfl⟩, rfl⟩
    rw [List.forall_mem_map]
    intro member listed
    have inside := MultiKey.position_lt (found member (perm.mem_iff.mp listed))
    exact Nat.lt_of_lt_of_le inside multiKey.length_le

/-- There is one ascending order of placed members. -/
private theorem mergeSort_eq {placed members : List (UInt8 × SoleAccount)}
    (perm : placed.Perm members) (distinct : (members.map (·.1)).Nodup) :
    placed.mergeSort (fun first second => first.1 ≤ second.1) =
      members.mergeSort fun first second => first.1 ≤ second.1 := by
  have sorted := List.mergeSort_perm placed fun first second => first.1 ≤ second.1
  have sorted' := List.mergeSort_perm members fun first second => first.1 ≤ second.1
  refine List.Perm.eq_of_pairwise ?_ (pairwise_mergeSort placed) (pairwise_mergeSort members)
    (sorted.trans (perm.trans sorted'.symm))
  intro first second listed listed' below below'
  refine List.inj_on_of_nodup_map distinct ?_ ?_ (UInt8.le_antisymm below below')
  · exact (sorted.trans perm).mem_iff.mp listed
  · exact sorted'.mem_iff.mp listed'

/-- Members given in another order are placed in this order. -/
private theorem exists_placed_of_perm {placed : List (UInt8 × SoleAccount)}
    (perm : others.Perm (placed.map fun member => Account.sole member.2)) :
    ∃ placed' : List (UInt8 × SoleAccount),
      placed'.map (fun member => Account.sole member.2) = others ∧ placed'.Perm placed := by
  have beside : List.Forall₂ (fun account (member : UInt8 × SoleAccount) =>
      account = Account.sole member.2) (placed.map fun member => Account.sole member.2) placed := by
    rw [List.forall₂_map_left_iff]
    exact List.forall₂_same.mpr fun _ _ => rfl
  obtain ⟨placed', others', perm'⟩ := List.perm_comp_forall₂ perm beside
  refine ⟨placed', ?_, perm'⟩
  rw [← List.forall₂_eq_eq_eq, List.forall₂_map_left_iff]
  exact others'.flip.imp fun _ _ same => same.symm

/-- The order in which members are given does not matter. -/
theorem make_of_perm (made : make multiKey accounts = .ok account)
    (perm : others.Perm accounts) : make multiKey others = .ok account := by
  obtain ⟨placed, rfl, enough, found, distinct, rfl⟩ := make_eq_ok_iff.mp made
  obtain ⟨placed', rfl, perm'⟩ := exists_placed_of_perm perm
  refine make_eq_ok_iff.mpr ⟨placed', rfl, ?_, ?_, ?_, ?_⟩
  · rw [perm'.length_eq]
    exact enough
  · exact fun member listed => found member (perm'.mem_iff.mp listed)
  · exact ((perm'.map _).nodup_iff).mpr distinct
  · rw [mergeSort_eq perm' distinct]

/-- Placed members are at different positions exactly when their keys are different. -/
private theorem nodup_positions_iff {placed : List (UInt8 × SoleAccount)}
    (found : ∀ member ∈ placed, multiKey.position member.2.publicKey = .ok member.1) :
    (placed.map (·.1)).Nodup ↔ (placed.map (·.2.publicKey)).Nodup := by
  have positions : (placed.map (·.2.publicKey)).map multiKey.position =
      (placed.map (·.1)).map .ok := by
    rw [List.map_map, List.map_map]
    exact List.map_congr_left found
  constructor
  · intro distinct
    have distinct' := distinct.map fun _ _ => Except.ok.inj (ε := MultiKeyError)
    rw [← positions] at distinct'
    exact distinct'.of_map
  · intro distinct
    refine List.Nodup.of_map (Except.ok (ε := MultiKeyError)) ?_
    rw [← positions]
    refine distinct.map_on fun key listed other listed' same => ?_
    obtain ⟨member, given, rfl⟩ := List.mem_map.mp listed
    have found' := found member given
    exact MultiKey.position_inj found' (same.symm.trans found')

/-- An account can be made of the members that the multi-key admits. -/
theorem exists_make_iff :
    (∃ account, make multiKey accounts = .ok account) ↔
      ∃ members : List SoleAccount, members.map Account.sole = accounts ∧
        multiKey.Admits members := by
  simp only [make_eq_ok_iff]
  constructor
  · rintro ⟨_, placed, rfl, enough, found, distinct, -⟩
    refine ⟨placed.map (·.2), by simp, by simpa using enough, ?_, ?_⟩
    · rw [List.forall_mem_map]
      exact fun member listed => List.mem_of_getElem? (MultiKey.getElem?_of_position
        (found member listed))
    · rw [List.map_map]
      exact (nodup_positions_iff found).mp distinct
  · rintro ⟨members, rfl, enough, listed, distinct⟩
    choose! position found using fun member given =>
      MultiKey.exists_position (listed member given)
    have found' : ∀ member ∈ members.map fun member => (position member, member),
        multiKey.position member.2.publicKey = .ok member.1 := List.forall_mem_map.mpr found
    refine ⟨_, members.map fun member => (position member, member), ?_, ?_, found', ?_, rfl⟩
    · rw [List.map_map]
      rfl
    · rw [List.length_map]
      exact enough
    · rw [nodup_positions_iff found', List.map_map]
      exact distinct

private theorem places_of_make (made : make multiKey accounts = .ok account) :
    account.Places multiKey accounts := by
  have ascending := (make_wellFormed made).ascending
  obtain ⟨placed, rfl, -, found, -, rfl⟩ := make_eq_ok_iff.mp made
  have perm := List.mergeSort_perm placed fun first second => first.1 ≤ second.1
  have found' := fun member listed => found member (perm.mem_iff.mp listed)
  refine ⟨rfl, rfl, perm.map _, ?_, ascending, ?_, ?_⟩
  · rw [positions, List.length_map, perm.length_eq, List.length_map]
  · exact List.forall_mem_map.mpr fun member listed =>
      MultiKey.position_lt (found' member listed)
  · exact fun member listed => MultiKey.position_eq_ok_iff.mp (found' member listed)

private theorem authenticateWith_congr {sign sign' : SoleAccount → Except KeylessError AnySignature}
    (agree : ∀ member ∈ account.members, sign member.2 = sign' member.2) :
    account.authenticateWith sign = account.authenticateWith sign' := by
  have made : account.members.mapM (signMember sign) = account.members.mapM (signMember sign') := by
    refine mapM_congr fun member listed => ?_
    rw [signMember, agree member listed, signMember]
  rw [authenticateWith, made, authenticateWith]

/-- Private keys sign a message in one way. -/
private theorem exists_authenticator (formed : account.WellFormed)
    (keyed : (Account.multiKey account).HasPrivateKeys) (message : Bytes) :
    ∃ authenticator, ∀ sign : SoleAccount → Except KeylessError AnySignature,
      (∀ member key, member.privateKey? = some key → sign member = .ok (key.sign message)) →
        account.authenticateWith sign = .ok authenticator := by
  have held : ∀ member ∈ account.members, ∃ key, member.2.privateKey? = some key :=
    fun member listed => keyed member.2 (List.mem_map_of_mem listed)
  obtain ⟨authenticator, signed, -⟩ :=
    authenticateWith_of_keys formed (SoleAccount.sign message 0) message fun member listed => by
      obtain ⟨key, found⟩ := held member listed
      exact ⟨key, found, SoleAccount.sign_eq found message 0⟩
  refine ⟨authenticator, fun sign signs => ?_⟩
  rw [← signed]
  refine authenticateWith_congr fun member listed => ?_
  obtain ⟨key, found⟩ := held member listed
  rw [signs member.2 key found, SoleAccount.sign_eq found]

/-- An account is made exactly of enough accounts that have one key each, listed and all different.
It holds them at the first positions of their keys, in ascending order, whatever the order in which
they are given, and with private keys its signatures do not depend on the time either. -/
theorem make_places (multiKey : MultiKey) (accounts : List Account) :
    ((∃ account, make multiKey accounts = .ok account) ↔
      ∃ members : List SoleAccount, members.map Account.sole = accounts ∧
        multiKey.Admits members) ∧
    ∀ account, make multiKey accounts = .ok account →
      account.Places multiKey accounts ∧
      (∀ others : List Account, others.Perm accounts → make multiKey others = .ok account) ∧
      ((Account.multiKey account).HasPrivateKeys →
        (∀ message, ∃ authenticator, ∀ now,
          (Account.multiKey account).signMessage message now = .ok authenticator) ∧
        ∀ transaction, ∃ authenticator, ∀ now,
          (Account.multiKey account).signTransaction transaction now = .ok authenticator) := by
  refine ⟨exists_make_iff, fun account made => ?_⟩
  refine ⟨places_of_make made, fun others => make_of_perm made, fun keyed => ?_⟩
  have signs := exists_authenticator (make_wellFormed made) keyed
  refine ⟨fun message => ?_, fun transaction => ?_⟩
  · obtain ⟨authenticator, only⟩ := signs message
    refine ⟨authenticator, fun now => only _ fun member key found => ?_⟩
    exact SoleAccount.sign_eq found message now
  · obtain ⟨authenticator, only⟩ := signs transaction.signingMessage
    refine ⟨authenticator, fun now => only _ fun member key found => ?_⟩
    rw [SoleAccount.transactionMessage_eq found]
    exact SoleAccount.sign_eq found transaction.signingMessage now

/-- An account with an Ed25519 key and one with a Secp256k1 key. -/
def pair : SoleAccount × SoleAccount :=
  (.ed25519 ⟨⟨⟨List.replicate 32 7, rfl⟩⟩, .zero⟩,
    .singleKey ⟨.secp256k1 ⟨⟨List.replicate 32 7, rfl⟩, by decide +kernel⟩, .zero⟩)

/-- A multi-key that lists a key twice and needs two signatures. -/
def pairKey : MultiKey where
  keys := [pair.1.publicKey, pair.2.publicKey, pair.1.publicKey]
  threshold := 2
  within := ⟨by decide, le_of_lt (by decide)⟩
  length_le := by decide

theorem make_places_pair :
    ∃ account, make pairKey [.sole pair.2, .sole pair.1] = .ok account ∧
      account.Places pairKey [.sole pair.2, .sole pair.1] ∧
      make pairKey [.sole pair.1, .sole pair.2] = .ok account ∧
      (Account.multiKey account).HasPrivateKeys ∧
      ∀ message, ∃ authenticator, ∀ now,
        (Account.multiKey account).signMessage message now = .ok authenticator := by
  obtain ⟨made_iff, spec⟩ := make_places pairKey [.sole pair.2, .sole pair.1]
  have different : pair.2.publicKey ≠ pair.1.publicKey := AnyPublicKey.noConfusion
  obtain ⟨account, made⟩ := made_iff.mpr
    ⟨[pair.2, pair.1], rfl, le_rfl, by simp [pairKey], by simpa using different⟩
  obtain ⟨places, reordered, signs⟩ := spec account made
  have keyed : (Account.multiKey account).HasPrivateKeys := by
    intro member held
    obtain ⟨placed, listed, rfl⟩ := List.mem_map.mp held
    have given := places.given.mem_iff.mp (List.mem_map_of_mem listed)
    simp only [List.mem_cons, Account.sole.injEq, List.not_mem_nil, or_false] at given
    rcases given with own | own <;> exact own ▸ ⟨_, rfl⟩
  exact ⟨account, made, places, reordered _ (.swap _ _ _), keyed, (signs keyed).1⟩

end MultiKeyAccount

end MoveWallet
