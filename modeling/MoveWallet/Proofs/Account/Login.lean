import MoveWallet.Account.Keyless
import MoveWallet.Proofs.Poseidon.Arity

/-! # What a login is bound to

A token is requested for one ephemeral key by its nonce, and no account is made of it with another
key. Only nonces that are texts are compared: a nonce of any other form counts as absent, and then
the account is made alike for every key.
-/

namespace MoveWallet

open Outcome

/-- A pair is made of every key with a blinder of the right size. -/
theorem EphemeralKeyPair.exists_make (key : Ed25519PrivateKey) (expiry : UInt64) {blinder : Bytes}
    (blinded : blinder.length = 31) : ∃ pair, make key expiry blinder = .ok pair := by
  let publicKey := EphemeralPublicKey.ed25519 key.publicKey
  -- the tag and the length take a byte each
  have written : (Wire.write publicKey).length = 34 := by
    have tagged : Wire.write publicKey = 0 :: key.publicKey.bytes.toList.prefixed := rfl
    rw [tagged, Bytes.prefixed, key.publicKey.bytes.length_eq, Bytes.uleb128, if_pos (by decide)]
    simp [key.publicKey.bytes.length_eq]
  have fits : (Wire.write publicKey).length ≤ publicKeySize := written ▸ by decide
  obtain ⟨packed, packs, count⟩ := Poseidon.exists_packWithLength fits (by decide)
  have arity : (packed ++ [Scalar.ofNat expiry.toNat, Scalar.ofBytes blinder]).length = 6 := by
    rw [List.length_append, count]
    rfl
  have nonempty : 0 < (packed ++ [Scalar.ofNat expiry.toNat, Scalar.ofBytes blinder]).length :=
    arity ▸ Nat.succ_pos 5
  have few : (packed ++ [Scalar.ofNat expiry.toNat, Scalar.ofBytes blinder]).length ≤
      Poseidon.maxArity := arity ▸ by decide
  obtain ⟨digest, hashed⟩ := Poseidon.exists_hash nonempty few
  have read : FixedBytes.ofList? 31 blinder = some ⟨blinder, blinded⟩ :=
    FixedBytes.ofList?_eq_some_iff.mpr rfl
  simp only [make, read, commit, bind_eq_ok_iff]
  exact ⟨_, _, ⟨packed, packs, digest, hashed, rfl⟩, rfl⟩

namespace KeylessAccount

private theorem checkNonce_eq_ok_iff {claims : TokenClaims} {keyPair : EphemeralKeyPair} :
    checkNonce claims keyPair = .ok () ↔ ∀ nonce, claims.nonce? = some nonce →
      nonce = keyPair.nonce := by
  unfold checkNonce
  cases claims.nonce? <;> simp

private theorem checkNonce_of_ne {claims : TokenClaims} {keyPair : EphemeralKeyPair}
    {nonce : String} (named : claims.nonce? = some nonce) (foreign : nonce ≠ keyPair.nonce) :
    checkNonce claims keyPair = .error (.nonceMismatch nonce keyPair.nonce) := by
  rw [checkNonce, named]
  exact if_neg foreign

section Login

variable (token : String) (pepper : Bytes) (proof : ZeroKnowledgeSig) (userKey : String)

/-- The account of a login whose claims are read and whose nonce is checked. -/
def ofClaims (claims : TokenClaims) (keyPair : EphemeralKeyPair) :
    Except KeylessError KeylessAccount := do
  let pepper ← readPepper pepper
  let userValue ← claims.required userKey
  let audience ← claims.audience
  let issuer ← claims.issuer
  let identity ← KeylessPublicKey.ofClaims issuer userKey userValue audience pepper.toList
  let tokenHeader ← Token.header token
  return ⟨identity, none, keyPair, userKey, userValue, audience, pepper, proof, tokenHeader,
    (keyOf identity none).address⟩

variable {token} {claims : TokenClaims}

private theorem ofToken_eq (decoded : Token.claims token = .ok claims)
    (keyPair : EphemeralKeyPair) : ofToken token keyPair pepper proof userKey =
      checkNonce claims keyPair >>= fun _ =>
        ofClaims token pepper proof userKey claims keyPair := by
  rw [ofToken, decoded]
  rfl

variable (token)

/-- The key is only kept. -/
private theorem ofClaims_keyPair (claims : TokenClaims) (first second : EphemeralKeyPair) :
    ofClaims token pepper proof userKey claims second =
      (ofClaims token pepper proof userKey claims first).map
        fun account => { account with keyPair := second } := by
  simp only [ofClaims, map_bind]
  rfl

/-- A login gives an account if its claims are there and within their sizes. -/
theorem exists_ofClaims {issuer userValue audience header : String} (keyPair : EphemeralKeyPair)
    (peppered : pepper.length = IdCommitment.pepperSize)
    (user : claims.text? userKey = some userValue) (client : claims.text? "aud" = some audience)
    (issued : claims.text? "iss" = some issuer) (headed : Token.header token = .ok header)
    (audienceFits : (Bytes.ofText audience).length ≤ IdCommitment.audienceSize)
    (valueFits : (Bytes.ofText userValue).length ≤ IdCommitment.userValueSize)
    (keyFits : (Bytes.ofText userKey).length ≤ IdCommitment.userKeySize) :
    ∃ account, ofClaims token pepper proof userKey claims keyPair = .ok account := by
  have found {name value : String} (held : claims.text? name = some value) :
      claims.required name = .ok value := by
    rw [TokenClaims.required, held]
  have read : readPepper pepper = .ok ⟨pepper, peppered⟩ := by
    have kept : FixedBytes.ofList? 31 pepper = some ⟨pepper, peppered⟩ :=
      FixedBytes.ofList?_eq_some_iff.mpr rfl
    rw [readPepper, kept]
  obtain ⟨commitment, committed⟩ :=
    IdCommitment.exists_commit peppered audienceFits valueFits keyFits
  have identified : KeylessPublicKey.ofClaims issuer userKey userValue audience pepper =
      .ok ⟨issuer, commitment⟩ := by
    rw [KeylessPublicKey.ofClaims, committed]
    rfl
  simp only [ofClaims, read, found user, TokenClaims.audience, found client, TokenClaims.issuer,
    found issued, headed, bind_eq_ok_iff]
  exact ⟨_, _, rfl, _, rfl, _, rfl, _, rfl, _, identified, _, rfl, rfl⟩

end Login

/-- A login with a nonce gives an account only for the key with this nonce, if the nonce is a text;
the nonce of another key is refused as such. A nonce that is no text is not that of any key, and
the outcome is the same for every key. -/
theorem ofToken_nonce (token : String) (keyPair : EphemeralKeyPair) (pepper : Bytes)
    (proof : ZeroKnowledgeSig) (userKey : String) (claims : TokenClaims) (value : Json)
    (decoded : Token.claims token = .ok claims)
    (held : Json.member? claims.members "nonce" = some value) :
    (∀ account, ofToken token keyPair pepper proof userKey = .ok account →
      (value = .string keyPair.nonce ↔ ∃ nonce, value = .string nonce)) ∧
    (∀ nonce, value = .string nonce → nonce ≠ keyPair.nonce →
      ofToken token keyPair pepper proof userKey =
        .error (.nonceMismatch nonce keyPair.nonce)) ∧
    ((∀ nonce, value ≠ .string nonce) → ∀ other : EphemeralKeyPair,
      ofToken token other pepper proof userKey =
        (ofToken token keyPair pepper proof userKey).map
          fun account => { account with keyPair := other }) := by
  have read : claims.nonce? = value.string? := by
    rw [TokenClaims.nonce?, TokenClaims.text?, held]
    rfl
  refine ⟨fun account made => ⟨fun own => ⟨_, own⟩, ?_⟩, ?_, fun unnamed other => ?_⟩
  · rintro ⟨nonce, rfl⟩
    rw [ofToken_eq pepper proof userKey decoded] at made
    obtain ⟨_, checked, -⟩ := bind_eq_ok_iff.mp made
    rw [checkNonce_eq_ok_iff.mp checked nonce read]
  · rintro nonce rfl foreign
    rw [ofToken_eq pepper proof userKey decoded, checkNonce_of_ne read foreign]
    rfl
  · have absent : value.string? = none := by
      cases value with
      | string nonce => exact absurd rfl (unnamed nonce)
      | null | bool | number | array | object => rfl
    have unchecked (pair : EphemeralKeyPair) : checkNonce claims pair = .ok () := by
      rw [checkNonce, read, absent]
    rw [ofToken_eq pepper proof userKey decoded, ofToken_eq pepper proof userKey decoded, unchecked,
      unchecked]
    exact ofClaims_keyPair token pepper proof userKey claims keyPair other

/-- A token with the header `{}` and with the claims `"iss":"i"`, `"aud":"a"`, `"sub":"s"` and
`"nonce":7`. -/
def numberedToken : String := "e30.eyJpc3MiOiJpIiwiYXVkIjoiYSIsInN1YiI6InMiLCJub25jZSI6N30.c2ln"

def zeroProof : ZeroKnowledgeSig := ⟨.groth16 ⟨.zero 32, .zero 64, .zero 32⟩, 0, none, none, none⟩

/-- The token gives an account for every key, although it has a nonce. -/
theorem exists_ofToken_numbered :
    ∃ claims value, Token.claims numberedToken = .ok claims ∧
      Json.member? claims.members "nonce" = some value ∧ (∀ nonce, value ≠ .string nonce) ∧
      ∀ keyPair, ∃ account,
        ofToken numberedToken keyPair (List.replicate 31 0) zeroProof "sub" = .ok account := by
  have read : (Token.claims numberedToken).toOption.map (fun claims =>
      (claims.text? "iss", claims.text? "aud", claims.text? "sub", claims.nonce?,
        (Json.member? claims.members "nonce").isSome)) =
      some (some "i", some "a", some "s", none, true) := by
    decide +kernel
  have header : Token.header numberedToken = .ok "{}" := by decide +kernel
  obtain ⟨claims, decoded, found⟩ := Option.map_eq_some_iff.mp read
  simp only [Prod.mk.injEq] at found
  obtain ⟨issuer, audience, user, nonce, present⟩ := found
  obtain ⟨value, held⟩ := Option.isSome_iff_exists.mp present
  have decoded := toOption_eq_some_iff.mp decoded
  refine ⟨claims, value, decoded, held, ?_, fun keyPair => ?_⟩
  · rintro text rfl
    rw [TokenClaims.nonce?, TokenClaims.text?, held] at nonce
    cases nonce
  · have unchecked : checkNonce claims keyPair = .ok () := by
      rw [checkNonce, nonce]
    rw [ofToken_eq _ _ _ decoded, unchecked]
    have peppered : (List.replicate 31 (0 : UInt8)).length = IdCommitment.pepperSize := rfl
    exact exists_ofClaims _ _ _ _ keyPair peppered user audience issuer header (by decide)
      (by decide) (by decide)

def pairWith (nonce : String) : EphemeralKeyPair :=
  ⟨⟨.zero 32⟩, .ed25519 ⟨.zero 32⟩, 0, .zero 31, nonce⟩

theorem ofToken_nonce_numbered :
    ∃ account,
      ofToken numberedToken (pairWith "1") (List.replicate 31 0) zeroProof "sub" = .ok account ∧
      ofToken numberedToken (pairWith "2") (List.replicate 31 0) zeroProof "sub" =
        .ok { account with keyPair := pairWith "2" } := by
  obtain ⟨claims, value, decoded, held, unnamed, taken⟩ := exists_ofToken_numbered
  obtain ⟨account, made⟩ := taken (pairWith "1")
  obtain ⟨-, -, alike⟩ := ofToken_nonce numberedToken (pairWith "1") (List.replicate 31 0) zeroProof
    "sub" claims value decoded held
  refine ⟨account, made, ?_⟩
  rw [alike unnamed (pairWith "2"), made]
  rfl

/-- An account is made of a token whose nonce is not that of the key, whatever pair was made. -/
theorem ofToken_not_bound :
    ¬ ∀ (token : String) (keyPair : EphemeralKeyPair) (pepper : Bytes) (proof : ZeroKnowledgeSig)
      (userKey : String) (claims : TokenClaims) (value : Json) (account : KeylessAccount),
      (∃ key expiry blinder, EphemeralKeyPair.make key expiry blinder = .ok keyPair) →
      Token.claims token = .ok claims → Json.member? claims.members "nonce" = some value →
      ofToken token keyPair pepper proof userKey = .ok account → value = .string keyPair.nonce := by
  intro bound
  obtain ⟨claims, value, decoded, held, unnamed, taken⟩ := exists_ofToken_numbered
  have blinded : (List.replicate 31 (0 : UInt8)).length = 31 := rfl
  obtain ⟨keyPair, made⟩ := EphemeralKeyPair.exists_make ⟨.zero 32⟩ 0 blinded
  obtain ⟨account, logged⟩ := taken keyPair
  exact unnamed _ (bound _ _ _ _ _ _ _ _ ⟨_, _, _, made⟩ decoded held logged)

end KeylessAccount

end MoveWallet
