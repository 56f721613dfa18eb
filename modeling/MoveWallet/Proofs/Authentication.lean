import MoveWallet.Proofs.Wire.Delimited

/-! # What an address is the digest of

The address of a new account is the digest of its key, and the addresses of objects and resource
accounts are digests of their creators. The last of the hashed bytes tells which of them it is, and
the bytes before it tell the key or the creator and the seed. Digests are shorter than what they are
made of, so that some of them coincide: two sources of one address are the same, or what is hashed
for them is a collision.
-/

namespace MoveWallet

/-- Two different byte strings with one digest. -/
def Sha3.IsCollision (first second : Bytes) : Prop :=
  first ≠ second ∧ sha3_256 first = sha3_256 second

private theorem AuthenticationScheme.byte_injective : Function.Injective byte := by
  intro first second same
  cases first <;> cases second <;> first | rfl | cases same

/-- What an address is derived from. -/
inductive AddressSource
  /-- An Ed25519 key on its own. -/
  | ed25519 (key : Ed25519PublicKey)
  /-- A tagged key of any kind. -/
  | singleKey (key : AnyPublicKey)
  | multiKey (key : MultiKey)
  /-- An address and the one that an object is derived from. -/
  | userObject (source origin : Address)
  /-- The creator of an object and a seed. -/
  | object (creator : Address) (seed : Bytes)
  /-- The creator of a resource account and a seed. -/
  | resource (creator : Address) (seed : Bytes)

namespace AddressSource

def scheme : AddressSource → AuthenticationScheme
  | ed25519 _ => .ed25519
  | singleKey _ => .singleKey
  | multiKey _ => .multiKey
  | userObject _ _ => .objectFromObject
  | object _ _ => .objectFromSeed
  | resource _ _ => .resourceAccount

/-- The bytes in front of that of the scheme. -/
def body : AddressSource → Bytes
  | ed25519 key => key.bytes.toList
  | singleKey key => Wire.write key
  | multiKey key => Wire.write key
  | userObject source origin => source.bytes.toList ++ origin.bytes.toList
  | object creator seed | resource creator seed => creator.bytes.toList ++ seed

/-- All bytes that are hashed. -/
def preimage (source : AddressSource) : Bytes :=
  AuthenticationKey.preimage source.scheme source.body

/-- The address of an account with the key, or the derived address. -/
def address : AddressSource → Address
  | ed25519 key => key.authenticationKey.address
  | singleKey key => key.address
  | multiKey key => key.address
  | userObject source origin => Address.userObject source origin
  | object creator seed => Address.object creator seed
  | resource creator seed => Address.resource creator seed

theorem address_eq (source : AddressSource) :
    source.address = ⟨Sha3.sha3_256 source.preimage⟩ := by
  cases source <;> rfl

/-- The scheme stands in the last byte. -/
private theorem preimage_eq_iff {first second : AddressSource} :
    first.preimage = second.preimage ↔ first.scheme = second.scheme ∧ first.body = second.body := by
  unfold preimage AuthenticationKey.preimage
  constructor
  · intro same
    obtain ⟨bodies, bytes⟩ := List.append_inj' same rfl
    exact ⟨AuthenticationScheme.byte_injective (List.singleton_inj.mp bytes), bodies⟩
  · rintro ⟨schemes, bodies⟩
    rw [schemes, bodies]

/-- The scheme and the bytes before it tell the source. -/
theorem preimage_injective : Function.Injective preimage := by
  intro first second same
  obtain ⟨schemes, bodies⟩ := preimage_eq_iff.mp same
  cases first with
  | ed25519 key =>
    cases second <;> cases schemes
    exact congrArg (fun bytes => ed25519 ⟨bytes⟩) (FixedBytes.ext bodies)
  | singleKey key =>
    cases second <;> cases schemes
    exact congrArg singleKey (Delimited.anyPublicKey.injective bodies)
  | multiKey key =>
    cases second <;> cases schemes
    exact congrArg multiKey (Delimited.multiKey.injective bodies)
  | userObject source origin =>
    cases second <;> cases schemes
    obtain ⟨sources, origins⟩ := Delimited.address bodies
    exact congrArg₂ userObject sources (Delimited.address.injective origins)
  | object creator seed =>
    cases second <;> cases schemes
    obtain ⟨creators, seeds⟩ := Delimited.address bodies
    exact congrArg₂ object creators seeds
  | resource creator seed =>
    cases second <;> cases schemes
    obtain ⟨creators, seeds⟩ := Delimited.address bodies
    exact congrArg₂ resource creators seeds

theorem eq_or_isCollision {first second : AddressSource} :
    first.address = second.address ↔
      first = second ∨ Sha3.IsCollision first.preimage second.preimage := by
  rw [address_eq, address_eq, Address.mk.injEq]
  constructor
  · intro digests
    by_cases same : first = second
    · exact .inl same
    · exact .inr ⟨fun preimages => same (preimage_injective preimages), digests⟩
  · rintro (rfl | ⟨-, digests⟩)
    · rfl
    · exact digests

/-- Different sources share an address only by a collision. -/
theorem isCollision_iff {first second : AddressSource} (apart : first ≠ second) :
    first.address = second.address ↔ Sha3.IsCollision first.preimage second.preimage := by
  rw [eq_or_isCollision, or_iff_right apart]

/-- What is hashed for an address tells its source, so that only a collision of the digest gives two
sources one address. This takes in a keyless key and its federated form, and an Ed25519 key on its
own and with a tag. -/
theorem address_commits :
    (∀ source : AddressSource, source.address.bytes = Sha3.sha3_256 source.preimage) ∧
    (∀ first second : AddressSource, first.preimage = second.preimage ↔ first = second) ∧
    (∀ first second : AddressSource, first.address = second.address ↔
      first = second ∨ Sha3.IsCollision first.preimage second.preimage) ∧
    (∀ (key : KeylessPublicKey) (jwkAddress : Address),
      key.authenticationKey.address =
          (FederatedKeylessPublicKey.mk jwkAddress key).authenticationKey.address ↔
        Sha3.IsCollision (singleKey (.keyless key)).preimage
          (singleKey (.federatedKeyless ⟨jwkAddress, key⟩)).preimage) ∧
    ∀ key : Ed25519PublicKey,
      key.authenticationKey.address = (AnyPublicKey.ed25519 key).authenticationKey.address ↔
        Sha3.IsCollision (ed25519 key).preimage (singleKey (.ed25519 key)).preimage := by
  refine ⟨fun source => ?_, fun first second => ?_, fun first second => eq_or_isCollision,
    fun key jwkAddress => ?_, fun key => ?_⟩
  · rw [address_eq]
  · exact preimage_injective.eq_iff
  · have apart : singleKey (.keyless key) ≠ singleKey (.federatedKeyless ⟨jwkAddress, key⟩) := nofun
    exact isCollision_iff apart
  · have apart : ed25519 key ≠ singleKey (.ed25519 key) := nofun
    exact isCollision_iff apart

end AddressSource

end MoveWallet
