import MoveWallet.MultiKey.Basic
import MoveWallet.Proofs.Wire.Primitive

/-! # Encodings that end by themselves

An encoding that never goes on as another one tells its value whatever bytes follow it. Reading back
is limited to lengths of 32 bits and to values that their constructors take; that encodings differ
is not, so that here keys need not satisfy any rule.
-/

namespace MoveWallet

variable {α β γ : Type}

/-- The encodings of two values are told apart even when other bytes follow them. -/
def Delimited (write : α → Bytes) : Prop :=
  ∀ ⦃first second rest others⦄, write first ++ rest = write second ++ others →
    first = second ∧ rest = others

namespace Delimited

variable {write : α → Bytes} {writeOther : β → Bytes}

theorem injective (delimited : Delimited write) : Function.Injective write := by
  intro first second same
  have whole : write first ++ [] = write second ++ [] := congrArg (· ++ []) same
  exact (delimited whole).1

/-- All encodings of one length are told apart if they are different. -/
theorem of_length {width : Nat} (injective : Function.Injective write)
    (widths : ∀ value, (write value).length = width) : Delimited write := by
  intro first second rest others same
  obtain ⟨written, behind⟩ := List.append_inj same ((widths first).trans (widths second).symm)
  exact ⟨injective written, behind⟩

/-- What is written of a part that tells the value. -/
theorem comap {part : γ → α} (delimited : Delimited write) (injective : Function.Injective part) :
    Delimited fun value => write (part value) := by
  intro first second rest others same
  obtain ⟨parts, behind⟩ := delimited same
  exact ⟨injective parts, behind⟩

/-- Two parts that tell the value together, one after the other. -/
theorem append {part : γ → α} {other : γ → β} (first : Delimited write)
    (second : Delimited writeOther)
    (determined : ∀ value value', part value = part value' → other value = other value' →
      value = value') : Delimited fun value => write (part value) ++ writeOther (other value) := by
  intro value value' rest others same
  rw [List.append_assoc, List.append_assoc] at same
  obtain ⟨parts, same⟩ := first same
  obtain ⟨otherParts, behind⟩ := second same
  exact ⟨determined value value' parts otherParts, behind⟩

/-- The high bit of a byte tells whether other groups follow. -/
theorem uleb128 : Delimited Bytes.uleb128 := by
  have byte {a b : Nat} (same : UInt8.ofNat a = UInt8.ofNat b) (small : a < 256)
      (small' : b < 256) : a = b := by
    have values := congrArg UInt8.toNat same
    rwa [UInt8.toNat_ofNat', UInt8.toNat_ofNat', Nat.mod_eq_of_lt small,
      Nat.mod_eq_of_lt small'] at values
  intro m
  induction m using Nat.strong_induction_on with
  | _ m ih =>
    intro n rest others same
    rcases Nat.lt_or_ge m 128 with last | more <;> rcases Nat.lt_or_ge n 128 with last' | more'
    · rw [Bytes.uleb128_of_lt last, Bytes.uleb128_of_lt last'] at same
      obtain ⟨head, behind⟩ := List.cons.inj same
      exact ⟨byte head (by omega) (by omega), behind⟩
    · rw [Bytes.uleb128_of_lt last, Bytes.uleb128_of_le more'] at same
      have heads := byte (List.cons.inj same).1 (by omega) (by omega)
      omega
    · rw [Bytes.uleb128_of_le more, Bytes.uleb128_of_lt last'] at same
      have heads := byte (List.cons.inj same).1 (by omega) (by omega)
      omega
    · rw [Bytes.uleb128_of_le more, Bytes.uleb128_of_le more'] at same
      obtain ⟨head, tail⟩ := List.cons.inj same
      have low := byte head (by omega) (by omega)
      obtain ⟨high, behind⟩ := ih (m / 128) (by omega) tail
      exact ⟨by omega, behind⟩

theorem prefixed : Delimited Bytes.prefixed := by
  intro first second rest others same
  unfold Bytes.prefixed at same
  rw [List.append_assoc, List.append_assoc] at same
  obtain ⟨lengths, same⟩ := uleb128 same
  exact List.append_inj same lengths

/-- Items behind their number. -/
theorem list (item : Delimited write) :
    Delimited fun values : List α => Bytes.uleb128 values.length ++ values.flatMap write := by
  have items : ∀ (first second : List α) (rest others : Bytes), first.length = second.length →
      first.flatMap write ++ rest = second.flatMap write ++ others →
        first = second ∧ rest = others := by
    intro first
    induction first with
    | nil =>
      intro second rest others counted same
      obtain rfl := List.eq_nil_of_length_eq_zero counted.symm
      exact ⟨rfl, same⟩
    | cons value values ih =>
      intro second rest others counted same
      obtain ⟨value', values', rfl⟩ := List.exists_cons_of_length_eq_add_one counted.symm
      rw [List.flatMap_cons, List.flatMap_cons, List.append_assoc, List.append_assoc] at same
      obtain ⟨rfl, tail⟩ := item same
      obtain ⟨rfl, behind⟩ := ih values' rest others (Nat.succ.inj counted) tail
      exact ⟨rfl, behind⟩
  intro first second rest others same
  rw [List.append_assoc, List.append_assoc] at same
  obtain ⟨counted, same⟩ := uleb128 same
  exact items first second rest others counted same

/-! ## Keys -/

private theorem fixedBytes (size : Nat) : Delimited (FixedBytes.toList : FixedBytes size → Bytes) :=
  of_length (fun _ _ => FixedBytes.ext) FixedBytes.length_eq

theorem text : Delimited (@Wire.write String _) :=
  prefixed.comap Bytes.ofText_injective

theorem address : Delimited (@Wire.write Address _) := by
  apply (fixedBytes 32).comap
  rintro ⟨bytes⟩ ⟨bytes'⟩ same
  exact congrArg Address.mk same

theorem ed25519PublicKey : Delimited (@Wire.write Ed25519PublicKey _) := by
  apply prefixed.comap
  rintro ⟨bytes⟩ ⟨bytes'⟩ same
  exact congrArg Ed25519PublicKey.mk (FixedBytes.ext same)

theorem secp256k1PublicKey : Delimited (@Wire.write Secp256k1PublicKey _) := by
  apply prefixed.comap
  rintro ⟨bytes⟩ ⟨bytes'⟩ same
  exact congrArg Secp256k1PublicKey.mk (FixedBytes.ext same)

theorem keylessPublicKey : Delimited (@Wire.write KeylessPublicKey _) := by
  apply text.append (prefixed.comap fun _ _ => FixedBytes.ext)
  rintro ⟨issuer, commitment⟩ ⟨issuer', commitment'⟩ rfl rfl
  rfl

theorem federatedKeylessPublicKey : Delimited (@Wire.write FederatedKeylessPublicKey _) := by
  apply address.append keylessPublicKey
  rintro ⟨jwkAddress, keyless⟩ ⟨jwkAddress', keyless'⟩ rfl rfl
  rfl

/-- The tag tells the kind of a key, and the body tells the key. -/
theorem anyPublicKey : Delimited (@Wire.write AnyPublicKey _) := by
  intro first second rest others same
  have kinds : first.tag = second.tag := (List.cons.inj same).1
  have bodies : first.body ++ rest = second.body ++ others := (List.cons.inj same).2
  cases first with
  | ed25519 key =>
    cases second with
    | ed25519 other =>
      obtain ⟨rfl, behind⟩ := ed25519PublicKey bodies
      exact ⟨rfl, behind⟩
    | secp256k1 | keyless | federatedKeyless => cases kinds
  | secp256k1 key =>
    cases second with
    | secp256k1 other =>
      obtain ⟨rfl, behind⟩ := secp256k1PublicKey bodies
      exact ⟨rfl, behind⟩
    | ed25519 | keyless | federatedKeyless => cases kinds
  | keyless key =>
    cases second with
    | keyless other =>
      obtain ⟨rfl, behind⟩ := keylessPublicKey bodies
      exact ⟨rfl, behind⟩
    | ed25519 | secp256k1 | federatedKeyless => cases kinds
  | federatedKeyless key =>
    cases second with
    | federatedKeyless other =>
      obtain ⟨rfl, behind⟩ := federatedKeylessPublicKey bodies
      exact ⟨rfl, behind⟩
    | ed25519 | secp256k1 | keyless => cases kinds

theorem multiKey : Delimited (@Wire.write MultiKey _) := by
  have byte : Delimited (@Wire.write UInt8 _) :=
    of_length (fun _ _ => List.singleton_inj.mp) fun _ => rfl
  apply anyPublicKey.list.append byte
  rintro ⟨keys, threshold⟩ ⟨keys', threshold'⟩ rfl rfl
  rfl

end Delimited

end MoveWallet
