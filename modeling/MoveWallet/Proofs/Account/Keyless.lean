import MoveWallet.Proofs.Keyless.Commitment
import MoveWallet.Proofs.Transaction.Verification

/-! # Keyless accounts through their changes

After its login an account may become federated, and it may be moved to another address, any number
of times and in any order. All that it signs with stays as the login left it. The last federation
decides the form of the key; the address is that of the key unless the account was moved after it
got the key. What the account signs carries the proof that the signed message was made with.
-/

namespace MoveWallet

open Outcome

namespace KeylessAccount

/-! ## Logins -/

/-- What an account takes over from its login. -/
structure IsLogin (token : String) (keyPair : EphemeralKeyPair) (pepper : Bytes)
    (proof : ZeroKnowledgeSig) (userKey : String) (account : KeylessAccount) : Prop where
  keyPair_eq : account.keyPair = keyPair
  proof_eq : account.proof = proof
  header : Token.header token = .ok account.tokenHeader
  /-- The issuer and the commitment are those of the claims. -/
  identified : ∃ claims issuer userValue audience, Token.claims token = .ok claims ∧
    claims.issuer = .ok issuer ∧ claims.required userKey = .ok userValue ∧
    claims.audience = .ok audience ∧
    KeylessPublicKey.ofClaims issuer userKey userValue audience pepper = .ok account.identity
  unfederated : account.jwkAddress = none
  address_eq : account.address = account.authenticationKey.address

private theorem isLogin_of_ofToken {token : String} {keyPair : EphemeralKeyPair} {pepper : Bytes}
    {proof : ZeroKnowledgeSig} {userKey : String} {account : KeylessAccount}
    (logged : ofToken token keyPair pepper proof userKey = .ok account) :
    IsLogin token keyPair pepper proof userKey account := by
  simp only [ofToken, bind_eq_ok_iff] at logged
  obtain ⟨claims, decoded, _, -, kept, read, userValue, user, audience, client, issuer, issued,
    identity, identified, header, headed, made⟩ := logged
  have pepper_eq : kept.toList = pepper := by
    unfold readPepper at read
    split at read
    next held =>
      cases read
      exact FixedBytes.ofList?_eq_some_iff.mp held
    next => cases read
  cases made
  rw [pepper_eq] at identified
  exact ⟨rfl, rfl, headed, ⟨claims, issuer, userValue, audience, decoded, issued, user, client,
    identified⟩, rfl, rfl⟩

/-! ## Changes -/

/-- What may be done to an account after its login. -/
inductive Change
  | federate (jwkAddress : Address)
  | move (address : Address)
  deriving DecidableEq

/-- The account after a change. -/
def apply (account : KeylessAccount) : Change → KeylessAccount
  | .federate jwkAddress => account.federated jwkAddress
  | .move address => { account with address }

/-- Moving is what is done to accounts of any kind. -/
theorem apply_move (account : KeylessAccount) (address : Address) :
    SoleAccount.keyless (account.apply (.move address)) =
      SoleAccount.withAddress address (.keyless account) := rfl

/-- The account after some changes, the first one first. -/
def after (account : KeylessAccount) (changes : List Change) : KeylessAccount :=
  changes.foldl apply account

private theorem after_append (account : KeylessAccount) (first others : List Change) :
    account.after (first ++ others) = (account.after first).after others :=
  List.foldl_append

/-- The parts of an account that a signature is made of. -/
structure Agrees (login account : KeylessAccount) : Prop where
  identity : account.identity = login.identity
  keyPair : account.keyPair = login.keyPair
  proof : account.proof = login.proof
  tokenHeader : account.tokenHeader = login.tokenHeader

theorem Agrees.apply {login account : KeylessAccount} (agrees : Agrees login account)
    (change : Change) : Agrees login (account.apply change) := by
  obtain ⟨identity, keyPair, proof, tokenHeader⟩ := agrees
  cases change with
  | federate jwkAddress => exact ⟨identity, keyPair, proof, tokenHeader⟩
  | move address => exact ⟨identity, keyPair, proof, tokenHeader⟩

/-- No sequence of changes touches what a signature is made of. -/
theorem agrees_after (login : KeylessAccount) (changes : List Change) :
    Agrees login (login.after changes) := by
  have continued : ∀ (changes : List Change) (account : KeylessAccount), Agrees login account →
      Agrees login (account.after changes) := by
    intro changes
    induction changes with
    | nil => exact fun _ => id
    | cons change others ih => exact fun account agrees => ih _ (agrees.apply change)
  exact continued changes login ⟨rfl, rfl, rfl, rfl⟩

/-! ### The key -/

/-- The account with the issuer's keys that a change names. -/
def Change.jwkAddress? : Change → Option Address
  | federate jwkAddress => some jwkAddress
  | move _ => none

private theorem Change.jwkAddress?_eq_some_iff {change : Change} {jwkAddress : Address} :
    change.jwkAddress? = some jwkAddress ↔ change = federate jwkAddress := by
  cases change <;> simp [jwkAddress?]

def federation? (changes : List Change) : Option Address :=
  changes.reverse.findSome? Change.jwkAddress?

private theorem federation?_cons (change : Change) (others : List Change) :
    federation? (change :: others) = (federation? others).or change.jwkAddress? := by
  rw [federation?, List.reverse_cons, List.findSome?_append, List.findSome?_singleton]
  rfl

private theorem federation?_eq_none_iff {changes : List Change} :
    federation? changes = none ↔ ∀ jwkAddress, Change.federate jwkAddress ∉ changes := by
  rw [federation?, List.findSome?_eq_none_iff]
  constructor
  · intro unnamed jwkAddress listed
    cases unnamed _ (List.mem_reverse.mpr listed)
  · intro unfederated change listed
    cases change with
    | federate jwkAddress => exact absurd (List.mem_reverse.mp listed) (unfederated jwkAddress)
    | move address => rfl

private theorem federation?_eq_some_iff {changes : List Change} {jwkAddress : Address} :
    federation? changes = some jwkAddress ↔ ∃ before others,
      changes = before ++ .federate jwkAddress :: others ∧ ∀ other, .federate other ∉ others := by
  have unnamed {others : List Change} : (∀ change ∈ others, change.jwkAddress? = none) ↔
      ∀ other, Change.federate other ∉ others := by
    rw [← federation?_eq_none_iff, federation?, List.findSome?_eq_none_iff]
    simp only [List.mem_reverse]
  rw [federation?, List.findSome?_eq_some_iff]
  constructor
  · rintro ⟨others, change, before, same, named, last⟩
    obtain rfl := Change.jwkAddress?_eq_some_iff.mp named
    refine ⟨before.reverse, others.reverse, ?_, ?_⟩
    · rw [← List.reverse_inj, same]
      simp
    · rw [← unnamed]
      simpa using last
  · rintro ⟨before, others, rfl, last⟩
    refine ⟨others.reverse, .federate jwkAddress, before.reverse, by simp, rfl, ?_⟩
    simpa using unnamed.mpr last

private theorem jwkAddress_after (account : KeylessAccount) (changes : List Change) :
    (account.after changes).jwkAddress = (federation? changes).or account.jwkAddress := by
  induction changes generalizing account with
  | nil => rfl
  | cons change others ih =>
    have first : (account.apply change).jwkAddress =
        change.jwkAddress?.or account.jwkAddress := by
      cases change <;> rfl
    calc ((account.apply change).after others).jwkAddress
        = (federation? others).or (account.apply change).jwkAddress := ih _
      _ = (federation? (change :: others)).or account.jwkAddress := by
        rw [first, federation?_cons, Option.or_assoc]

/-! ### The address -/

/-- An account that was moved last is where it was moved to. -/
theorem address_after_move (account : KeylessAccount) (before : List Change) (address : Address)
    {others : List Change} (unfederated : ∀ jwkAddress, Change.federate jwkAddress ∉ others)
    (unmoved : ∀ other, Change.move other ∉ others) :
    (account.after (before ++ .move address :: others)).address = address := by
  cases others with
  | nil =>
    rw [after_append]
    rfl
  | cons change others =>
    cases change with
    | federate jwkAddress => exact absurd List.mem_cons_self (unfederated jwkAddress)
    | move other => exact absurd List.mem_cons_self (unmoved other)

/-- An account is at the address of its key if it became federated after every move. -/
theorem address_after_federate {account : KeylessAccount} {changes : List Change}
    (settled : account.address = account.authenticationKey.address)
    (federated : ∀ before address others, changes = before ++ .move address :: others →
      ∃ jwkAddress, Change.federate jwkAddress ∈ others) :
    (account.after changes).address = (account.after changes).authenticationKey.address := by
  rcases List.eq_nil_or_concat changes with rfl | ⟨before, change, rfl⟩
  · exact settled
  · cases change with
    | federate jwkAddress =>
      rw [List.concat_eq_append, after_append]
      rfl
    | move address =>
      obtain ⟨jwkAddress, listed⟩ := federated before address [] List.concat_eq_append
      cases listed

/-! ## Signing -/

/-- The authenticator of a transaction at a time. -/
def signTransactionAt (account : KeylessAccount) (transaction : UnsignedTransaction)
    (now : UInt64) : Except KeylessError AccountAuthenticator :=
  (SoleAccount.keyless account).authenticate (account.transactionMessage transaction) now

/-- This is how accounts of any kind sign transactions. -/
theorem signTransaction_eq (account : KeylessAccount) (transaction : UnsignedTransaction)
    (now : UInt64) : Account.signTransaction transaction now (.sole (.keyless account)) =
      (account.signTransactionAt transaction now).mapError .keyless := rfl

/-- The signature of a transaction, as long as the key has not expired. -/
def signature (account : KeylessAccount) (transaction : UnsignedTransaction) :
    KeylessSignature where
  certificate := .zeroKnowledge account.proof
  tokenHeader := account.tokenHeader
  expiry := account.keyPair.expiry
  publicKey := account.keyPair.publicKey
  signature := .ed25519 (account.keyPair.privateKey.sign (account.transactionMessage transaction))

private theorem signTransactionAt_of_le {account : KeylessAccount} {now : UInt64}
    (living : now ≤ account.keyPair.expiry) (transaction : UnsignedTransaction) :
    account.signTransactionAt transaction now =
      .ok (.singleKey account.publicKey (.keyless (account.signature transaction))) := by
  have unexpired : account.keyPair.isExpiredAt now = false :=
    decide_eq_false (UInt64.not_lt.mpr living)
  rw [signTransactionAt, SoleAccount.authenticate, signAt, EphemeralKeyPair.signAt, unexpired]
  rfl

private theorem signTransactionAt_of_lt {account : KeylessAccount} {now : UInt64}
    (expired : account.keyPair.expiry < now) (transaction : UnsignedTransaction) :
    account.signTransactionAt transaction now =
      .error (.ephemeralKeyExpired account.keyPair.expiry now) := by
  have late : account.keyPair.isExpiredAt now = true := decide_eq_true expired
  rw [signTransactionAt, SoleAccount.authenticate, signAt, EphemeralKeyPair.signAt, late]
  rfl

private theorem signTransactionAt_eq_ok_iff {account : KeylessAccount}
    {transaction : UnsignedTransaction} {now : UInt64} {authenticator : AccountAuthenticator} :
    account.signTransactionAt transaction now = .ok authenticator ↔
      now ≤ account.keyPair.expiry ∧ authenticator =
        .singleKey account.publicKey (.keyless (account.signature transaction)) := by
  rcases UInt64.le_or_lt now account.keyPair.expiry with living | expired
  · rw [signTransactionAt_of_le living, Except.ok.injEq, eq_comm]
    exact (and_iff_right living).symm
  · rw [signTransactionAt_of_lt expired]
    constructor
    · exact nofun
    · rintro ⟨living, -⟩
      exact absurd expired (UInt64.not_lt.mpr living)

/-- Whatever is signed with the key of a pair is accepted with its public key, if it is with that of
the private key; the message holds the proof that the signature carries. -/
theorem verifyEphemeral_signature {account : KeylessAccount}
    (paired : account.keyPair.publicKey = .ed25519 account.keyPair.privateKey.publicKey)
    (transaction : UnsignedTransaction) :
    (account.signature transaction).verifyEphemeral
        (transaction.proofMessage (some (account.signature transaction).proof)) =
      account.keyPair.privateKey.publicKey.verify
        (transaction.proofMessage (some account.proof.proof))
        (account.keyPair.privateKey.sign
          (transaction.proofMessage (some account.proof.proof))) := by
  unfold KeylessSignature.verifyEphemeral
  rw [signature, paired]
  rfl

/-- Whatever is changed of an account after its login, it signs up to the expiry of its ephemeral
key, and its signature carries the login's proof, header, expiry and ephemeral key. The message
that is signed holds the proof that is carried, and nothing accepts the signature by itself. The
key is that of the login, federated by the last federation if there is one; the address is the last
one that the account was moved to without a federation behind, and otherwise that of the key. -/
theorem signTransactionAt_after {token userKey : String} {key : Ed25519PrivateKey}
    {expiry : UInt64} {blinder pepper : Bytes} {keyPair : EphemeralKeyPair}
    {proof : ZeroKnowledgeSig} {login : KeylessAccount}
    (made : EphemeralKeyPair.make key expiry blinder = .ok keyPair)
    (logged : ofToken token keyPair pepper proof userKey = .ok login) (changes : List Change)
    (transaction : UnsignedTransaction) (now : UInt64) :
    ((∃ authenticator, (login.after changes).signTransactionAt transaction now =
      .ok authenticator) ↔ now ≤ expiry) ∧
    (expiry < now → (login.after changes).signTransactionAt transaction now =
      .error (.ephemeralKeyExpired expiry now)) ∧
    (∀ authenticator, (login.after changes).signTransactionAt transaction now =
        .ok authenticator →
      ∃ signature, authenticator = .singleKey (login.after changes).publicKey (.keyless signature) ∧
        signature.certificate = .zeroKnowledge proof ∧
        Token.header token = .ok signature.tokenHeader ∧ signature.expiry = expiry ∧
        signature.publicKey = keyPair.publicKey ∧
        (key.publicKey.verify (transaction.proofMessage (some proof.proof))
            (key.sign (transaction.proofMessage (some proof.proof))) = true →
          signature.verifyEphemeral (transaction.proofMessage (some signature.proof)) = true) ∧
        ∀ message, authenticator.verify message = false) ∧
    (∃ claims issuer userValue audience, Token.claims token = .ok claims ∧
      claims.issuer = .ok issuer ∧ claims.required userKey = .ok userValue ∧
      claims.audience = .ok audience ∧
      KeylessPublicKey.ofClaims issuer userKey userValue audience pepper = .ok login.identity) ∧
    ((login.after changes).publicKey = .keyless login.identity ↔
      ∀ jwkAddress, Change.federate jwkAddress ∉ changes) ∧
    (∀ before jwkAddress others, changes = before ++ .federate jwkAddress :: others →
      (∀ other, Change.federate other ∉ others) →
      (login.after changes).publicKey = .federatedKeyless ⟨jwkAddress, login.identity⟩) ∧
    (∀ before address others, changes = before ++ .move address :: others →
      (∀ jwkAddress, Change.federate jwkAddress ∉ others) →
      (∀ other, Change.move other ∉ others) → (login.after changes).address = address) ∧
    ((∀ before address others, changes = before ++ .move address :: others →
        ∃ jwkAddress, Change.federate jwkAddress ∈ others) →
      (login.after changes).address =
        (login.after changes).publicKey.authenticationKey.address) := by
  obtain ⟨-, rfl, publicKey, rfl, -⟩ := EphemeralKeyPair.make_eq_ok_iff.mp made
  obtain ⟨rfl, rfl, header, identified, unfederated, settled⟩ := isLogin_of_ofToken logged
  obtain ⟨identity, keyPair, proof, tokenHeader⟩ := agrees_after login changes
  have keyed : (login.after changes).publicKey = keyOf login.identity (federation? changes) := by
    rw [KeylessAccount.publicKey, identity, jwkAddress_after, unfederated, Option.or_none]
  refine ⟨?_, ?_, ?_, identified, ?_, ?_, ?_, address_after_federate settled⟩
  · simp only [signTransactionAt_eq_ok_iff, keyPair, exists_and_left, exists_eq, and_true]
  · intro expired
    rw [← keyPair] at expired ⊢
    exact signTransactionAt_of_lt expired transaction
  · intro authenticator signed
    obtain ⟨-, rfl⟩ := signTransactionAt_eq_ok_iff.mp signed
    refine ⟨_, rfl, ?_, ?_, ?_, ?_, fun correct => ?_, fun message => ?_⟩
    · exact congrArg _ proof
    · exact header.trans (congrArg _ tokenHeader.symm)
    · exact congrArg EphemeralKeyPair.expiry keyPair
    · exact congrArg EphemeralKeyPair.publicKey keyPair
    · rw [verifyEphemeral_signature (by rw [keyPair]; exact publicKey), keyPair, proof]
      exact correct
    · have keyless :
          (AnySignature.keyless ((login.after changes).signature transaction)).IsKeyless := trivial
      exact AnyPublicKey.verify_of_keyless (.inr keyless) message
  · rw [keyed, ← federation?_eq_none_iff]
    cases federation? changes with
    | none => exact iff_of_true rfl rfl
    | some jwkAddress => exact iff_of_false nofun nofun
  · intro before jwkAddress others same last
    rw [keyed, federation?_eq_some_iff.mpr ⟨before, others, same, last⟩]
    rfl
  · rintro before address others rfl unfederated unmoved
    exact address_after_move login before address unfederated unmoved

/-- A login that was moved, federated and moved again. -/
theorem signTransactionAt_after_moves :
    ∃ keyPair login signature,
      EphemeralKeyPair.make UnsignedTransaction.jointKey 5 (List.replicate 31 0) = .ok keyPair ∧
      ofToken numberedToken keyPair (List.replicate 31 0) zeroProof "sub" = .ok login ∧
      (login.after [.move .one, .federate (.ofNat 2), .move (.ofNat 3)]).signTransactionAt
          (.simple UnsignedTransaction.jointRaw) 5 =
        .ok (.singleKey (.federatedKeyless ⟨.ofNat 2, login.identity⟩) (.keyless signature)) ∧
      signature.verifyEphemeral
        ((UnsignedTransaction.simple UnsignedTransaction.jointRaw).proofMessage
          (some signature.proof)) = true ∧
      (login.after [.move .one, .federate (.ofNat 2), .move (.ofNat 3)]).address = .ofNat 3 ∧
      (login.after [.move .one, .federate (.ofNat 2)]).address =
        (AnyPublicKey.federatedKeyless ⟨.ofNat 2, login.identity⟩).authenticationKey.address ∧
      (login.after [.move .one]).signTransactionAt (.simple UnsignedTransaction.jointRaw) 6 =
        .error (.ephemeralKeyExpired 5 6) := by
  have blinded : (List.replicate 31 (0 : UInt8)).length = 31 := rfl
  obtain ⟨keyPair, made⟩ := EphemeralKeyPair.exists_make UnsignedTransaction.jointKey 5 blinded
  obtain ⟨-, -, -, -, -, taken⟩ := exists_ofToken_numbered
  obtain ⟨login, logged⟩ := taken keyPair
  obtain ⟨lives, -, spec, -, -, federates, moves, -⟩ := signTransactionAt_after made logged
    [.move .one, .federate (.ofNat 2), .move (.ofNat 3)] (.simple UnsignedTransaction.jointRaw) 5
  obtain ⟨-, -, -, -, -, federates', -, settles⟩ := signTransactionAt_after made logged
    [.move .one, .federate (.ofNat 2)] (.simple UnsignedTransaction.jointRaw) 5
  obtain ⟨-, late, -⟩ := signTransactionAt_after made logged [.move .one]
    (.simple UnsignedTransaction.jointRaw) 6
  have key := federates [.move .one] (.ofNat 2) [.move (.ofNat 3)] rfl (by simp)
  have key' := federates' [.move .one] (.ofNat 2) [] rfl (by simp)
  obtain ⟨authenticator, signed⟩ := lives.mpr (by decide)
  obtain ⟨signature, rfl, -, -, -, -, verifies, -⟩ := spec authenticator signed
  rw [key] at signed
  refine ⟨keyPair, login, signature, made, logged, signed, verifies ?_, ?_, ?_, late (by decide)⟩
  · decide +kernel
  · exact moves [.move .one, .federate (.ofNat 2)] (.ofNat 3) [] rfl (by simp) (by simp)
  · rw [← key']
    apply settles
    intro before address others same
    refine ⟨.ofNat 2, ?_⟩
    rcases before with _ | ⟨_, _ | ⟨_, _⟩⟩
    · cases same
      exact List.mem_cons_self
    · cases same
    · simp at same

end KeylessAccount

end MoveWallet
