import MoveWallet.Proofs.Account.Login
import MoveWallet.Proofs.Poseidon.Packing
import MoveWallet.Proofs.Wire.Delimited

/-! # Commitments to users and keys

The commitment to a user and the nonce of an ephemeral key exist exactly for parts within their
sizes. Both of them bind: parts with one commitment are the same, or two of the lists of scalars
that are hashed on the way collide. Lists collide somewhere, so that the collision is not ruled out
but named, among the few lists that belong to the parts.
-/

namespace MoveWallet

open Outcome

/-! ## The commitment to a user -/

namespace IdCommitment

section Parts

variable (userKey userValue audience : String) (pepper : Bytes)

/-- The lengths in bytes of what is told of a user, each with its size, as they are checked. -/
def lengths : List (Nat × Nat) :=
  [((Bytes.ofText audience).length, audienceSize), ((Bytes.ofText userValue).length, userValueSize),
    ((Bytes.ofText userKey).length, userKeySize)]

/-- The first length that is above its size. -/
def tooLong? : Option (Nat × Nat) :=
  (lengths userKey userValue audience).find? fun part => part.2 < part.1

/-- The lists of scalars that are hashed for a commitment. -/
inductive Hashes : List Scalar → Prop
  | audience {inputs : List Scalar}
    (packed : Poseidon.packWithLength (Bytes.ofText audience) audienceSize = .ok inputs) :
    Hashes inputs
  | userValue {inputs : List Scalar}
    (packed : Poseidon.packWithLength (Bytes.ofText userValue) userValueSize = .ok inputs) :
    Hashes inputs
  | userKey {inputs : List Scalar}
    (packed : Poseidon.packWithLength (Bytes.ofText userKey) userKeySize = .ok inputs) :
    Hashes inputs
  | whole {audienceHash valueHash keyHash : Scalar}
    (audienceHashed : Poseidon.hashText audience audienceSize = .ok audienceHash)
    (valueHashed : Poseidon.hashText userValue userValueSize = .ok valueHash)
    (keyHashed : Poseidon.hashText userKey userKeySize = .ok keyHash) :
    Hashes [Scalar.ofBytes pepper, audienceHash, valueHash, keyHash]

end Parts

variable {userKey userValue audience : String} {pepper : Bytes}

private theorem tooLong?_eq_none_iff :
    tooLong? userKey userValue audience = none ↔ (Bytes.ofText userKey).length ≤ userKeySize ∧
      (Bytes.ofText userValue).length ≤ userValueSize ∧
      (Bytes.ofText audience).length ≤ audienceSize := by
  simp only [tooLong?, lengths, List.find?_eq_none, List.forall_mem_cons, decide_eq_true_eq,
    Nat.not_lt, List.not_mem_nil, false_imp_iff, implies_true, and_true]
  tauto

/-- Behind the check of the pepper. -/
private theorem commit_eq (peppered : pepper.length = pepperSize) :
    commit userKey userValue audience pepper =
      Poseidon.hashText audience audienceSize >>= fun audienceHash =>
      Poseidon.hashText userValue userValueSize >>= fun valueHash =>
      Poseidon.hashText userKey userKeySize >>= fun keyHash =>
      Poseidon.hash [Scalar.ofBytes pepper, audienceHash, valueHash, keyHash] >>= fun digest =>
      .ok digest.toBytes := by
  rw [commit, if_neg (not_not_intro peppered)]
  rfl

/-- The length of the pepper is checked before the others. -/
private theorem commit_of_pepper (unpeppered : pepper.length ≠ pepperSize) :
    commit userKey userValue audience pepper = .error (.invalidPepperLength pepper.length) := by
  rw [commit, if_pos unpeppered]
  rfl

private theorem commit_eq_ok_iff {commitment : FixedBytes 32} :
    commit userKey userValue audience pepper = .ok commitment ↔ pepper.length = pepperSize ∧
      ∃ audienceHash valueHash keyHash digest,
        Poseidon.hashText audience audienceSize = .ok audienceHash ∧
        Poseidon.hashText userValue userValueSize = .ok valueHash ∧
        Poseidon.hashText userKey userKeySize = .ok keyHash ∧
        Poseidon.hash [Scalar.ofBytes pepper, audienceHash, valueHash, keyHash] = .ok digest ∧
        digest.toBytes = commitment := by
  by_cases peppered : pepper.length = pepperSize
  · simp only [commit_eq peppered, bind_eq_ok_iff, Except.ok.injEq, peppered, true_and,
      ← exists_and_left]
  · rw [commit_of_pepper peppered]
    simp [peppered]

/-- A text above its size is refused, and otherwise the first such text behind it is. -/
private theorem bind_hashText_of_tooLong {text : String} {size length maximum : Nat}
    {others : List (Nat × Nat)} {next : Scalar → Except KeylessError (FixedBytes 32)}
    (few : (size + 30) / 31 < Poseidon.maxArity)
    (long : (((Bytes.ofText text).length, size) :: others).find?
      (fun part => part.2 < part.1) = some (length, maximum))
    (later : ∀ digest, others.find? (fun part => part.2 < part.1) = some (length, maximum) →
      next digest = .error (.inputTooLong length maximum)) :
    Poseidon.hashText text size >>= next = .error (.inputTooLong length maximum) := by
  rw [List.find?_cons] at long
  rcases Nat.lt_or_ge size (Bytes.ofText text).length with above | within
  · rw [decide_eq_true above] at long
    cases long
    rw [Poseidon.hashText_of_long above]
    rfl
  · rw [decide_eq_false (Nat.not_lt.mpr within)] at long
    obtain ⟨digest, hashed⟩ := Poseidon.exists_hashText within few
    rw [hashed]
    exact later digest long

/-- The first length above its size is the one that is refused. -/
theorem commit_of_tooLong {length size : Nat} (peppered : pepper.length = pepperSize)
    (long : tooLong? userKey userValue audience = some (length, size)) :
    commit userKey userValue audience pepper = .error (.inputTooLong length size) := by
  rw [commit_eq peppered]
  apply bind_hashText_of_tooLong (by decide) long
  intro audienceHash long
  apply bind_hashText_of_tooLong (by decide) long
  intro valueHash long
  apply bind_hashText_of_tooLong (by decide) long
  exact fun _ => nofun

private theorem exists_commit_of_within (peppered : pepper.length = pepperSize)
    (within : tooLong? userKey userValue audience = none) :
    ∃ commitment, commit userKey userValue audience pepper = .ok commitment := by
  obtain ⟨keyFits, valueFits, audienceFits⟩ := tooLong?_eq_none_iff.mp within
  exact exists_commit peppered audienceFits valueFits keyFits

/-- There are parameters for every list that is hashed, so that only lengths are refused. -/
private theorem refused_cases {error : KeylessError}
    (refused : commit userKey userValue audience pepper = .error error) :
    (pepper.length ≠ pepperSize ∧ error = .invalidPepperLength pepper.length) ∨
      ∃ length size, tooLong? userKey userValue audience = some (length, size) ∧
        error = .inputTooLong length size := by
  by_cases peppered : pepper.length = pepperSize
  · rcases found : tooLong? userKey userValue audience with _ | ⟨length, size⟩
    · obtain ⟨commitment, committed⟩ := exists_commit_of_within peppered found
      cases refused.symm.trans committed
    · rw [commit_of_tooLong peppered found] at refused
      exact .inr ⟨length, size, rfl, (Except.error.inj refused).symm⟩
  · rw [commit_of_pepper peppered] at refused
    exact .inl ⟨peppered, (Except.error.inj refused).symm⟩

private theorem exists_commit_iff :
    (∃ commitment, commit userKey userValue audience pepper = .ok commitment) ↔
      pepper.length = pepperSize ∧ tooLong? userKey userValue audience = none := by
  constructor
  · rintro ⟨commitment, committed⟩
    have peppered := (commit_eq_ok_iff.mp committed).1
    refine ⟨peppered, Option.eq_none_iff_forall_ne_some.mpr ?_⟩
    rintro ⟨length, size⟩ found
    cases committed.symm.trans (commit_of_tooLong peppered found)
  · rintro ⟨peppered, within⟩
    exact exists_commit_of_within peppered within

private theorem commit_ne_unsupportedArity (count : Nat) :
    commit userKey userValue audience pepper ≠ .error (.unsupportedArity count) := by
  intro refused
  rcases refused_cases refused with ⟨-, same⟩ | ⟨_, _, -, same⟩
  · cases same
  · cases same

/-- The pieces of the users with one commitment are the same, from the outer hash inwards, or the
lists at which they first differ collide. -/
theorem eq_or_isCollision {userKey' userValue' audience' : String} {pepper' : Bytes}
    {commitment : FixedBytes 32}
    (committed : commit userKey userValue audience pepper = .ok commitment)
    (committed' : commit userKey' userValue' audience' pepper' = .ok commitment) :
    (userKey = userKey' ∧ userValue = userValue' ∧ audience = audience' ∧ pepper = pepper') ∨
      ∃ first second, Hashes userKey userValue audience pepper first ∧
        Hashes userKey' userValue' audience' pepper' second ∧
        Poseidon.IsCollision first second := by
  obtain ⟨peppered, _, _, _, digest, audienceHashed, valueHashed, keyHashed, hashed, written⟩ :=
    commit_eq_ok_iff.mp committed
  obtain ⟨peppered', _, _, _, digest', audienceHashed', valueHashed', keyHashed', hashed',
    written'⟩ := commit_eq_ok_iff.mp committed'
  obtain rfl : digest = digest' := Scalar.toBytes_injective (written.trans written'.symm)
  rcases Poseidon.eq_or_isCollision (by rfl) hashed hashed' with same | collision
  swap
  · exact .inr ⟨_, _, .whole audienceHashed valueHashed keyHashed,
      .whole audienceHashed' valueHashed' keyHashed', collision⟩
  simp only [List.cons.injEq, and_true] at same
  obtain ⟨peppers, rfl, rfl, rfl⟩ := same
  rcases Poseidon.text_eq_or_isCollision audienceHashed audienceHashed' with rfl | audiences
  swap
  · obtain ⟨_, _, packed, packed', collision⟩ := audiences
    exact .inr ⟨_, _, .audience packed, .audience packed', collision⟩
  rcases Poseidon.text_eq_or_isCollision valueHashed valueHashed' with rfl | values
  swap
  · obtain ⟨_, _, packed, packed', collision⟩ := values
    exact .inr ⟨_, _, .userValue packed, .userValue packed', collision⟩
  rcases Poseidon.text_eq_or_isCollision keyHashed keyHashed' with rfl | keys
  swap
  · obtain ⟨_, _, packed, packed', collision⟩ := keys
    exact .inr ⟨_, _, .userKey packed, .userKey packed', collision⟩
  have pepper : pepper = pepper' := by
    apply (Scalar.ofBytes_inj (peppered.trans peppered'.symm) _).mp peppers
    exact Nat.le_of_eq peppered
  exact .inl ⟨rfl, rfl, rfl, pepper⟩

end IdCommitment

/-! ## The nonce of an ephemeral key -/

namespace EphemeralPublicKey

private theorem write_injective : Function.Injective (@Wire.write EphemeralPublicKey _) := by
  rintro ⟨key⟩ ⟨key'⟩ same
  have keys : Wire.write key = Wire.write key' := (List.cons.inj same).2
  rw [Delimited.ed25519PublicKey.injective keys]

end EphemeralPublicKey

namespace EphemeralKeyPair

def Hashes (key : EphemeralPublicKey) (expiry : UInt64) (blinder : Bytes)
    (inputs : List Scalar) : Prop :=
  ∃ packed, Poseidon.packWithLength (Wire.write key) publicKeySize = .ok packed ∧
    inputs = packed ++ [Scalar.ofNat expiry.toNat, Scalar.ofBytes blinder]

private theorem commit_eq_ok_iff {key : EphemeralPublicKey} {expiry : UInt64}
    {blinder : FixedBytes 31}
    {nonce : String} : commit key expiry blinder = .ok nonce ↔ ∃ inputs digest,
      Hashes key expiry blinder.toList inputs ∧ Poseidon.hash inputs = .ok digest ∧
      digest.decimal = nonce := by
  simp only [commit, bind_eq_ok_iff]
  constructor
  · rintro ⟨packed, packs, digest, hashed, made⟩
    cases made
    exact ⟨_, digest, ⟨packed, packs, rfl⟩, hashed, rfl⟩
  · rintro ⟨_, digest, ⟨packed, packs, rfl⟩, hashed, rfl⟩
    exact ⟨packed, packs, digest, hashed, rfl⟩

theorem make_eq_ok_iff {key : Ed25519PrivateKey} {expiry : UInt64} {blinder : Bytes}
    {pair : EphemeralKeyPair} : make key expiry blinder = .ok pair ↔
      pair.blinder.toList = blinder ∧ pair.privateKey = key ∧
      pair.publicKey = .ed25519 key.publicKey ∧ pair.expiry = expiry ∧
      commit pair.publicKey pair.expiry pair.blinder = .ok pair.nonce := by
  unfold make
  rcases read : FixedBytes.ofList? 31 blinder with _ | held
  · refine ⟨nofun, ?_⟩
    rintro ⟨kept, -⟩
    rw [FixedBytes.ofList?_eq_some_iff.mpr kept] at read
    cases read
  · rw [FixedBytes.ofList?_eq_some_iff] at read
    simp only [bind_eq_ok_iff]
    constructor
    · rintro ⟨nonce, committed, made⟩
      cases made
      exact ⟨read, rfl, rfl, rfl, committed⟩
    · rintro ⟨kept, rfl, publicKey, rfl, committed⟩
      obtain rfl : held = pair.blinder := FixedBytes.ext (read.trans kept.symm)
      rw [publicKey] at committed
      refine ⟨_, committed, ?_⟩
      rw [← publicKey]
      rfl

private theorem make_of_blinder (key : Ed25519PrivateKey) (expiry : UInt64) {blinder : Bytes}
    (unblinded : blinder.length ≠ 31) :
    make key expiry blinder = .error (.invalidBlinderLength blinder.length) := by
  rw [make, FixedBytes.ofList?, dif_neg unblinded]

theorem exists_make_iff {key : Ed25519PrivateKey} {expiry : UInt64} {blinder : Bytes} :
    (∃ pair, make key expiry blinder = .ok pair) ↔ blinder.length = 31 := by
  constructor
  · rintro ⟨pair, made⟩
    obtain ⟨kept, -⟩ := make_eq_ok_iff.mp made
    rw [← kept, pair.blinder.length_eq]
  · exact exists_make key expiry

/-- The length of a key's encoding keeps the key apart from the expiry and the blinder behind. -/
private theorem inputs_inj {key key' : EphemeralPublicKey} {expiry expiry' : UInt64}
    {blinder blinder' : FixedBytes 31} {inputs : List Scalar}
    (hashes : Hashes key expiry blinder.toList inputs)
    (hashes' : Hashes key' expiry' blinder'.toList inputs) :
    key = key' ∧ expiry = expiry' ∧ blinder = blinder' := by
  obtain ⟨packed, packs, rfl⟩ := hashes
  obtain ⟨packed', packs', same⟩ := hashes'
  obtain ⟨rfl, behind⟩ := List.append_inj' same rfl
  simp only [List.cons.injEq, and_true] at behind
  obtain ⟨expiries, blinders⟩ := behind
  have below (expiry : UInt64) : expiry.toNat < Scalar.modulus :=
    Nat.lt_trans expiry.toNat_lt (by decide)
  refine ⟨?_, ?_, ?_⟩
  · exact EphemeralPublicKey.write_injective (Poseidon.packWithLength_inj packs packs')
  · exact UInt64.toNat_inj.mp ((Scalar.ofNat_inj (below _) (below _)).mp expiries)
  · apply FixedBytes.ext
    apply (Scalar.ofBytes_inj _ _).mp blinders
    · rw [blinder.length_eq, blinder'.length_eq]
    · exact Nat.le_of_eq blinder.length_eq

private theorem length_of_hashes {key : EphemeralPublicKey} {expiry : UInt64} {blinder : Bytes}
    {inputs : List Scalar} (hashes : Hashes key expiry blinder inputs) : inputs.length = 6 := by
  obtain ⟨packed, packs, rfl⟩ := hashes
  rw [List.length_append, Poseidon.length_of_packWithLength packs]
  rfl

/-- The parts of pairs with one nonce are the same, or the two lists that are hashed collide. -/
theorem eq_or_isCollision {key key' : EphemeralPublicKey} {expiry expiry' : UInt64}
    {blinder blinder' : FixedBytes 31} {nonce : String}
    (committed : commit key expiry blinder = .ok nonce)
    (committed' : commit key' expiry' blinder' = .ok nonce) :
    (key = key' ∧ expiry = expiry' ∧ blinder = blinder') ∨
      ∃ first second, Hashes key expiry blinder.toList first ∧
        Hashes key' expiry' blinder'.toList second ∧ Poseidon.IsCollision first second := by
  obtain ⟨first, digest, hashes, hashed, written⟩ := commit_eq_ok_iff.mp committed
  obtain ⟨second, digest', hashes', hashed', written'⟩ := commit_eq_ok_iff.mp committed'
  obtain rfl : digest = digest' := Scalar.decimal_injective (written.trans written'.symm)
  have lengths := (length_of_hashes hashes).trans (length_of_hashes hashes').symm
  rcases Poseidon.eq_or_isCollision lengths hashed hashed' with rfl | collision
  · exact .inl (inputs_inj hashes hashes')
  · exact .inr ⟨first, second, hashes, hashes', collision⟩

end EphemeralKeyPair

/-! ## Both commitments -/

/-- A user is committed to exactly with a pepper of 31 bytes and with an audience, a value and a
name of at most 120, 330 and 30 bytes; otherwise the pepper is refused, or else the first of these
that is too long. A key gets a nonce exactly with a blinder of 31 bytes. Users with one commitment
are the same, and so are keys, expiries and blinders with one nonce, or two lists of scalars that
are hashed for them collide. -/
theorem commitments_bind :
    (∀ (userKey userValue audience : String) (pepper : Bytes),
      ((∃ commitment, IdCommitment.commit userKey userValue audience pepper = .ok commitment) ↔
        pepper.length = 31 ∧ (Bytes.ofText userKey).length ≤ 30 ∧
          (Bytes.ofText userValue).length ≤ 330 ∧ (Bytes.ofText audience).length ≤ 120) ∧
      (pepper.length ≠ 31 → IdCommitment.commit userKey userValue audience pepper =
        .error (.invalidPepperLength pepper.length)) ∧
      (∀ length maximum, pepper.length = 31 →
        [((Bytes.ofText audience).length, 120), ((Bytes.ofText userValue).length, 330),
          ((Bytes.ofText userKey).length, 30)].find? (fun part => part.2 < part.1) =
            some (length, maximum) →
        IdCommitment.commit userKey userValue audience pepper =
          .error (.inputTooLong length maximum)) ∧
      ∀ count, IdCommitment.commit userKey userValue audience pepper ≠
        .error (.unsupportedArity count)) ∧
    (∀ (key : Ed25519PrivateKey) (expiry : UInt64) (blinder : Bytes),
      ((∃ pair, EphemeralKeyPair.make key expiry blinder = .ok pair) ↔ blinder.length = 31) ∧
      (blinder.length ≠ 31 → EphemeralKeyPair.make key expiry blinder =
        .error (.invalidBlinderLength blinder.length))) ∧
    (∀ (userKey userValue audience userKey' userValue' audience' : String) (pepper pepper' : Bytes)
      (commitment : FixedBytes 32),
      IdCommitment.commit userKey userValue audience pepper = .ok commitment →
      IdCommitment.commit userKey' userValue' audience' pepper' = .ok commitment →
      (userKey = userKey' ∧ userValue = userValue' ∧ audience = audience' ∧ pepper = pepper') ∨
        ∃ first second, IdCommitment.Hashes userKey userValue audience pepper first ∧
          IdCommitment.Hashes userKey' userValue' audience' pepper' second ∧
          Poseidon.IsCollision first second) ∧
    ∀ (key key' : Ed25519PrivateKey) (expiry expiry' : UInt64) (blinder blinder' : Bytes)
      (pair pair' : EphemeralKeyPair),
      EphemeralKeyPair.make key expiry blinder = .ok pair →
      EphemeralKeyPair.make key' expiry' blinder' = .ok pair' → pair.nonce = pair'.nonce →
      (pair.publicKey = pair'.publicKey ∧ expiry = expiry' ∧ blinder = blinder') ∨
        ∃ first second, EphemeralKeyPair.Hashes pair.publicKey expiry blinder first ∧
          EphemeralKeyPair.Hashes pair'.publicKey expiry' blinder' second ∧
          Poseidon.IsCollision first second := by
  refine ⟨fun userKey userValue audience pepper => ⟨?_, ?_, ?_, ?_⟩, fun key expiry blinder => ?_,
    ?_, ?_⟩
  · rw [IdCommitment.exists_commit_iff, IdCommitment.tooLong?_eq_none_iff]
    rfl
  · exact IdCommitment.commit_of_pepper
  · intro length maximum peppered long
    exact IdCommitment.commit_of_tooLong peppered long
  · exact IdCommitment.commit_ne_unsupportedArity
  · exact ⟨EphemeralKeyPair.exists_make_iff, EphemeralKeyPair.make_of_blinder key expiry⟩
  · intro _ _ _ _ _ _ _ _ _ committed committed'
    exact IdCommitment.eq_or_isCollision committed committed'
  · intro _ _ _ _ _ _ pair pair' made made' nonces
    obtain ⟨rfl, -, -, rfl, committed⟩ := EphemeralKeyPair.make_eq_ok_iff.mp made
    obtain ⟨rfl, -, -, rfl, committed'⟩ := EphemeralKeyPair.make_eq_ok_iff.mp made'
    rw [← nonces] at committed'
    rcases EphemeralKeyPair.eq_or_isCollision committed committed' with same | collision
    · obtain ⟨keys, expiries, blinders⟩ := same
      exact .inl ⟨keys, expiries, congrArg FixedBytes.toList blinders⟩
    · exact .inr collision

/-- Two users with one pepper, and one key with two blinders. -/
theorem commitments_bind_two_users :
    (∃ commitment commitment',
      IdCommitment.commit "sub" "alice" "app" (List.replicate 31 0) = .ok commitment ∧
      IdCommitment.commit "sub" "bob" "app" (List.replicate 31 0) = .ok commitment' ∧
      (commitment = commitment' → ∃ first second,
        IdCommitment.Hashes "sub" "alice" "app" (List.replicate 31 0) first ∧
        IdCommitment.Hashes "sub" "bob" "app" (List.replicate 31 0) second ∧
        Poseidon.IsCollision first second)) ∧
    IdCommitment.commit (String.ofList (List.replicate 31 'k')) "alice" "app"
      (List.replicate 31 0) = .error (.inputTooLong 31 30) ∧
    IdCommitment.commit "sub" "alice" "app" [] = .error (.invalidPepperLength 0) ∧
    EphemeralKeyPair.make ⟨.zero 32⟩ 0 [] = .error (.invalidBlinderLength 0) ∧
    ∃ pair pair', EphemeralKeyPair.make ⟨.zero 32⟩ 0 (List.replicate 31 0) = .ok pair ∧
      EphemeralKeyPair.make ⟨.zero 32⟩ 0 (List.replicate 31 1) = .ok pair' ∧
      (pair.nonce = pair'.nonce → ∃ first second,
        EphemeralKeyPair.Hashes pair.publicKey 0 (List.replicate 31 0) first ∧
        EphemeralKeyPair.Hashes pair'.publicKey 0 (List.replicate 31 1) second ∧
        Poseidon.IsCollision first second) := by
  obtain ⟨users, keys, binds, nonces⟩ := commitments_bind
  obtain ⟨commitment, committed⟩ :=
    (users "sub" "alice" "app" (List.replicate 31 0)).1.mpr (by decide)
  obtain ⟨commitment', committed'⟩ :=
    (users "sub" "bob" "app" (List.replicate 31 0)).1.mpr (by decide)
  obtain ⟨pair, made⟩ := (keys ⟨.zero 32⟩ 0 (List.replicate 31 0)).1.mpr rfl
  obtain ⟨pair', made'⟩ := (keys ⟨.zero 32⟩ 0 (List.replicate 31 1)).1.mpr rfl
  refine ⟨⟨commitment, commitment', committed, committed', ?_⟩, ?_, ?_, ?_, pair, pair', made,
    made', ?_⟩
  · rintro rfl
    refine (binds _ _ _ _ _ _ _ _ _ committed committed').resolve_left ?_
    rintro ⟨-, values, -⟩
    revert values
    decide
  · exact (users _ _ _ _).2.2.1 31 30 rfl (by decide)
  · exact (users _ _ _ _).2.1 (by decide)
  · exact (keys _ _ _).2 (by decide)
  · intro same
    refine (nonces _ _ _ _ _ _ _ _ made made' same).resolve_left ?_
    rintro ⟨-, -, blinders⟩
    revert blinders
    decide

end MoveWallet
