import MoveWallet.Proofs.Wire.Key
import MoveWallet.Proofs.Wire.Payload
import MoveWallet.Transaction.Signed

/-! # The wire form of transactions is canonical

With keys, signatures and payloads, transactions and their authenticators are canonical too. The
main result collects this for the types that are submitted, stored or signed on their own.
-/

namespace MoveWallet

open Canonical Reader

instance : Canonical RawTransaction where
  Fits raw := Canonical.Fits raw.payload
  exact := by
    refine (Exact.bind RawTransaction.sender exact fun sender =>
      Exact.bind RawTransaction.sequenceNumber exact fun sequenceNumber =>
      Exact.bind RawTransaction.payload exact fun payload =>
      Exact.bind RawTransaction.maxGasAmount exact fun maxGasAmount =>
      Exact.bind RawTransaction.gasUnitPrice exact fun gasUnitPrice =>
      Exact.bind RawTransaction.expiration exact fun expiration =>
      Exact.bind RawTransaction.chainId exact fun chainId => Exact.pure _).congr ?_ ?_
    · intro raw
      simp [Wire.write]
    · simp [Canonical.Fits]

namespace TransactionWithSigners

def tag : TransactionWithSigners → UInt8
  | multiAgent _ _ => 0
  | feePayer _ _ _ => 1

def body : TransactionWithSigners → Bytes
  | multiAgent raw secondary => Wire.write raw ++ Wire.write secondary
  | feePayer raw secondary sponsor => Wire.write raw ++ Wire.write secondary ++ Wire.write sponsor

def Fits : TransactionWithSigners → Prop
  | multiAgent raw secondary => Canonical.Fits raw ∧ Canonical.Fits secondary
  | feePayer raw secondary _ => Canonical.Fits raw ∧ Canonical.Fits secondary

end TransactionWithSigners

instance : Canonical TransactionWithSigners where
  Fits := TransactionWithSigners.Fits
  exact := by
    refine (Exact.tagged TransactionWithSigners.tag TransactionWithSigners.body ?_ ?_ ?_).congr ?_
      (fun _ => Iff.rfl)
    · intro transaction
      cases transaction <;> simp [TransactionWithSigners.tag]
    · intro n input transaction rest ran
      rcases ite_eq_ok_iff.mp ran with ⟨isMultiAgent, ran⟩ | ⟨-, ran⟩
      · simp only [bind_eq_ok_iff, read_eq_ok_iff, pure_eq_ok_iff] at ran
        obtain ⟨raw, _, ⟨rawFits, rfl⟩, secondary, _, ⟨counted, rfl⟩, rfl, rfl⟩ := ran
        exact ⟨⟨⟨rawFits, counted⟩, isMultiAgent.symm⟩, (List.append_assoc ..).symm⟩
      rcases ite_eq_ok_iff.mp ran with ⟨isFeePayer, ran⟩ | ⟨-, ran⟩
      · simp only [bind_eq_ok_iff, read_eq_ok_iff, pure_eq_ok_iff] at ran
        obtain ⟨raw, _, ⟨rawFits, rfl⟩, secondary, _, ⟨counted, rfl⟩, sponsor, _, ⟨-, rfl⟩, rfl,
          rfl⟩ := ran
        exact ⟨⟨⟨rawFits, counted⟩, isFeePayer.symm⟩, by simp [TransactionWithSigners.body]⟩
      cases ran
    · intro transaction rest fits
      cases transaction with
      | multiAgent raw secondary =>
        obtain ⟨rawFits, counted⟩ := fits
        simp [TransactionWithSigners.tag, TransactionWithSigners.body, bind_read_write rawFits,
          map_read_write counted]
      | feePayer raw secondary sponsor =>
        obtain ⟨rawFits, counted⟩ := fits
        have sponsorFits : Canonical.Fits sponsor := trivial
        simp [TransactionWithSigners.tag, TransactionWithSigners.body, bind_read_write rawFits,
          bind_read_write counted, map_read_write sponsorFits]
    · intro transaction
      cases transaction <;> rfl

def AccountAuthenticator.Fits : AccountAuthenticator → Prop
  | ed25519 _ _ => True
  | singleKey key signature => Canonical.Fits key ∧ Canonical.Fits signature
  | multiKey key signature => Canonical.Fits key ∧ Canonical.Fits signature
  | placeholder => True

instance : Canonical AccountAuthenticator where
  Fits := AccountAuthenticator.Fits
  exact := by
    refine Exact.tagged AccountAuthenticator.tag AccountAuthenticator.body ?_ ?_ ?_
    · intro authenticator
      cases authenticator <;> simp [AccountAuthenticator.tag]
    · intro n input authenticator rest ran
      rcases ite_eq_ok_iff.mp ran with ⟨isEd25519, ran⟩ | ⟨-, ran⟩
      · simp only [bind_eq_ok_iff, read_eq_ok_iff, pure_eq_ok_iff] at ran
        obtain ⟨key, _, ⟨-, rfl⟩, signature, _, ⟨-, rfl⟩, rfl, rfl⟩ := ran
        exact ⟨⟨trivial, isEd25519.symm⟩, (List.append_assoc ..).symm⟩
      rcases ite_eq_ok_iff.mp ran with ⟨isSingleKey, ran⟩ | ⟨-, ran⟩
      · simp only [bind_eq_ok_iff, read_eq_ok_iff, pure_eq_ok_iff] at ran
        obtain ⟨key, _, ⟨keyFits, rfl⟩, signature, _, ⟨signatureFits, rfl⟩, rfl, rfl⟩ := ran
        exact ⟨⟨⟨keyFits, signatureFits⟩, isSingleKey.symm⟩, (List.append_assoc ..).symm⟩
      rcases ite_eq_ok_iff.mp ran with ⟨isMultiKey, ran⟩ | ⟨-, ran⟩
      · simp only [bind_eq_ok_iff, read_eq_ok_iff, pure_eq_ok_iff] at ran
        obtain ⟨key, _, ⟨keyFits, rfl⟩, signature, _, ⟨signatureFits, rfl⟩, rfl, rfl⟩ := ran
        exact ⟨⟨⟨keyFits, signatureFits⟩, isMultiKey.symm⟩, (List.append_assoc ..).symm⟩
      rcases ite_eq_ok_iff.mp ran with ⟨isPlaceholder, ran⟩ | ⟨-, ran⟩
      · obtain ⟨rfl, rfl⟩ := pure_eq_ok_iff.mp ran
        exact ⟨⟨trivial, isPlaceholder.symm⟩, rfl⟩
      cases ran
    · intro authenticator rest fits
      cases authenticator with
      | ed25519 key signature =>
        have keyFits : Canonical.Fits key := trivial
        have signatureFits : Canonical.Fits signature := trivial
        simp [AccountAuthenticator.tag, AccountAuthenticator.body, bind_read_write keyFits,
          map_read_write signatureFits]
      | singleKey key signature | multiKey key signature =>
        obtain ⟨keyFits, signatureFits⟩ := fits
        simp [AccountAuthenticator.tag, AccountAuthenticator.body, bind_read_write keyFits,
          map_read_write signatureFits]
      | placeholder => simp [AccountAuthenticator.tag, AccountAuthenticator.body]

def TransactionAuthenticator.Fits : TransactionAuthenticator → Prop
  | ed25519 _ _ => True
  | multiAgent sender secondary secondarySigners =>
    Canonical.Fits sender ∧ Canonical.Fits secondary ∧ Canonical.Fits secondarySigners
  | feePayer sender secondary secondarySigners _ sponsorSigner =>
    Canonical.Fits sender ∧ Canonical.Fits secondary ∧ Canonical.Fits secondarySigners ∧
      Canonical.Fits sponsorSigner
  | singleSender sender => Canonical.Fits sender

instance : Canonical TransactionAuthenticator where
  Fits := TransactionAuthenticator.Fits
  exact := by
    refine Exact.tagged TransactionAuthenticator.tag TransactionAuthenticator.body ?_ ?_ ?_
    · intro authenticator
      cases authenticator <;> simp [TransactionAuthenticator.tag]
    · intro n input authenticator rest ran
      rcases ite_eq_ok_iff.mp ran with ⟨isEd25519, ran⟩ | ⟨-, ran⟩
      · simp only [bind_eq_ok_iff, read_eq_ok_iff, pure_eq_ok_iff] at ran
        obtain ⟨key, _, ⟨-, rfl⟩, signature, _, ⟨-, rfl⟩, rfl, rfl⟩ := ran
        exact ⟨⟨trivial, isEd25519.symm⟩, (List.append_assoc ..).symm⟩
      rcases ite_eq_ok_iff.mp ran with ⟨isMultiAgent, ran⟩ | ⟨-, ran⟩
      · simp only [bind_eq_ok_iff, read_eq_ok_iff, pure_eq_ok_iff] at ran
        obtain ⟨sender, _, ⟨senderFits, rfl⟩, secondary, _, ⟨counted, rfl⟩, secondarySigners, _,
          ⟨signersFit, rfl⟩, rfl, rfl⟩ := ran
        refine ⟨⟨⟨senderFits, counted, signersFit⟩, isMultiAgent.symm⟩, ?_⟩
        simp [TransactionAuthenticator.body]
      rcases ite_eq_ok_iff.mp ran with ⟨isFeePayer, ran⟩ | ⟨-, ran⟩
      · simp only [bind_eq_ok_iff, read_eq_ok_iff, pure_eq_ok_iff] at ran
        obtain ⟨sender, _, ⟨senderFits, rfl⟩, secondary, _, ⟨counted, rfl⟩, secondarySigners, _,
          ⟨signersFit, rfl⟩, sponsor, _, ⟨-, rfl⟩, sponsorSigner, _, ⟨sponsorFits, rfl⟩, rfl,
          rfl⟩ := ran
        refine ⟨⟨⟨senderFits, counted, signersFit, sponsorFits⟩, isFeePayer.symm⟩, ?_⟩
        simp [TransactionAuthenticator.body]
      rcases ite_eq_ok_iff.mp ran with ⟨isSingleSender, ran⟩ | ⟨-, ran⟩
      · obtain ⟨sender, ⟨fits, rfl⟩, rfl⟩ := map_read_eq_ok_iff.mp ran
        exact ⟨⟨fits, isSingleSender.symm⟩, rfl⟩
      cases ran
    · intro authenticator rest fits
      cases authenticator with
      | ed25519 key signature =>
        have keyFits : Canonical.Fits key := trivial
        have signatureFits : Canonical.Fits signature := trivial
        simp [TransactionAuthenticator.tag, TransactionAuthenticator.body, bind_read_write keyFits,
          map_read_write signatureFits]
      | multiAgent sender secondary secondarySigners =>
        obtain ⟨senderFits, counted, signersFit⟩ := fits
        simp [TransactionAuthenticator.tag, TransactionAuthenticator.body,
          bind_read_write senderFits, bind_read_write counted, map_read_write signersFit]
      | feePayer sender secondary secondarySigners sponsor sponsorSigner =>
        obtain ⟨senderFits, counted, signersFit, sponsorSignerFits⟩ := fits
        have sponsorFits : Canonical.Fits sponsor := trivial
        simp [TransactionAuthenticator.tag, TransactionAuthenticator.body,
          bind_read_write senderFits, bind_read_write counted, bind_read_write signersFit,
          bind_read_write sponsorFits, map_read_write sponsorSignerFits]
      | singleSender sender =>
        simp [TransactionAuthenticator.tag, TransactionAuthenticator.body,
          map_read_write (show Canonical.Fits sender from fits)]

instance : Canonical SignedTransaction where
  Fits signed := Canonical.Fits signed.raw ∧ Canonical.Fits signed.authenticator
  exact := by
    refine (Exact.bind SignedTransaction.raw exact fun raw =>
      Exact.bind SignedTransaction.authenticator exact fun authenticator =>
      Exact.pure _).congr ?_ ?_
    · intro signed
      simp [Wire.write]
    · simp

/-- The whole format of transactions is canonical and delimits itself: what is submitted, what is
signed, what runs, who agrees, with which keys, and the types of arguments. -/
theorem transactionFormat_canonical :
    CanonicalFormat SignedTransaction Canonical.Fits ∧
    CanonicalFormat RawTransaction Canonical.Fits ∧
    CanonicalFormat TransactionWithSigners TransactionWithSigners.Fits ∧
    CanonicalFormat Payload Payload.Fits ∧
    CanonicalFormat TransactionAuthenticator TransactionAuthenticator.Fits ∧
    CanonicalFormat AccountAuthenticator AccountAuthenticator.Fits ∧
    CanonicalFormat MultiKey Canonical.Fits ∧
    CanonicalFormat MultiKeySignature Canonical.Fits ∧
    CanonicalFormat AnyPublicKey AnyPublicKey.Fits ∧
    CanonicalFormat AnySignature AnySignature.Fits ∧
    CanonicalFormat TypeTag TypeTag.Fits :=
  ⟨format, format, format, format, format, format, format, format, format, format, format⟩

end MoveWallet
