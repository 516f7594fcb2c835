import NknSdk.Lib.Machine
import NknSdk.Tx.Transaction
import NknSdk.Crypto

/-!
# Signing a transaction

`src/signature.rs`, the signable data of a transaction in `src/tx.rs`, and
`Wallet::sign_transaction`.  What is signed is a hash of the serialized
transaction.  The serialization starts with the whole encoded message, programs
included, so the signature that is put into the programs changes what was
signed: the serialization determines the programs (`serializeUnsigned_inj`).

A serialization without the unsigned part panics, which is `none` here.
-/

namespace NknSdk

open Exec

/-! ## Signable data -/

/-- `signature::SignableData`, the methods that are implemented. -/
class SignableData (D : Type) where
  setPrograms : D → List Pb.Program → D
  serializeUnsigned : D → Option Bytes

section Sign

variable {D : Type} [SignableData D]

/-- `signature::get_hash_data`. -/
def getHashData (data : D) : Option Bytes := SignableData.serializeUnsigned data

/-- `signature::get_hash_for_signing`. -/
def getHashForSigning (c : Primitives) (data : D) : Option Bytes :=
  (getHashData data).map c.sha256Hash

/-- `signature::sign`. -/
def sign (c : Primitives) (data : D) (privateKey : Bytes) : Option Signature :=
  (getHashForSigning c data).map fun hash => c.ed25519Sign hash privateKey

/-- `signature::verify_signature`. -/
def verifySignature (c : Primitives) (data : D) (publicKey : PublicKey) (signature : Signature) :
    Option Bool :=
  (getHashForSigning c data).map fun hash => c.ed25519Verify hash publicKey signature

end Sign

namespace Transaction

/-- `Transaction::serialize_unsigned`. -/
def serializeUnsigned (tx : Transaction) : Option Bytes :=
  tx.pbTx.unsignedTx.map fun unsignedTx =>
    tx.encode ++
      leBytes 8 unsignedTx.nonce.toNat ++
      leBytes 8 unsignedTx.fee.toUInt64.toNat ++
      leBytes 1 (UInt8.ofNat unsignedTx.attributes.length).toNat ++
      unsignedTx.attributes

instance : SignableData Transaction where
  setPrograms := setPrograms
  serializeUnsigned := serializeUnsigned

end Transaction

/-! ## The wallet -/

/-- `account::Account`, without the hash of its program. -/
structure Account where
  privateKey : PrivateKey
  publicKey : PublicKey

/-- `wallet::Wallet`, without its configuration. -/
structure Wallet where
  account : Account

namespace Wallet

/-- `Wallet::public_key`. -/
def publicKey (w : Wallet) : PublicKey := w.account.publicKey

/-- The bytes of the wallet's key pair. -/
def keypair (w : Wallet) : Bytes := w.account.privateKey.toList ++ w.account.publicKey.toList

/-- `Wallet::sign`. -/
def sign (c : Primitives) (w : Wallet) (message : Bytes) : Signature :=
  c.ed25519Sign message w.keypair

/-- `Wallet::sign_transaction`. -/
def signTransaction {ε : Type} (c : Primitives) (w : Wallet) : Exec ε Transaction Unit := do
  let ct := createSignatureProgramContext w.publicKey
  let tx ← get
  let data ← unwrap tx.serializeUnsigned
  let signature := w.sign c (c.sha256Hash data)
  let programs := ct.newProgram signature
  modify fun tx => tx.setPrograms [programs]

/-- The program that signing `data` gives. -/
def programFor (c : Primitives) (w : Wallet) (data : Bytes) : Pb.Program :=
  (createSignatureProgramContext w.publicKey).newProgram (w.sign c (c.sha256Hash data))

end Wallet

/-! ## What the signed data determines -/

variable {c : Primitives} {w : Wallet} {tx : Transaction}

/-- The serializations of one transaction with two program lists differ unless
the lists are the same. -/
theorem serializeUnsigned_inj {P Q : List Pb.Program} (h : tx.pbTx.unsignedTx ≠ none)
    (heq : (tx.setPrograms P).serializeUnsigned = (tx.setPrograms Q).serializeUnsigned) :
    P = Q := by
  obtain ⟨u, hu⟩ := Option.ne_none_iff_exists'.mp h
  simp only [Transaction.serializeUnsigned, Transaction.setPrograms_unsignedTx, hu,
    Option.map_some, Option.some.injEq] at heq
  have hencode := List.append_cancel_right (List.append_cancel_right (List.append_cancel_right
    (List.append_cancel_right heq)))
  simp only [Transaction.encode, Pb.Transaction.encode, Transaction.setPrograms_unsignedTx,
    Transaction.setPrograms_programs] at hencode
  exact Pb.Program.encode_list_injective (List.append_cancel_left hencode)

theorem exists_getHashData (h : tx.pbTx.unsignedTx ≠ none) :
    ∃ data, getHashData tx = some data := by
  obtain ⟨u, hu⟩ := Option.ne_none_iff_exists'.mp h
  change ∃ data, tx.pbTx.unsignedTx.map _ = some data
  rw [hu]
  exact ⟨_, rfl⟩

/-- Signing puts the one program for the data of the transaction into it. -/
theorem signTransaction_eq {ε : Type} {data : Bytes} (h : getHashData tx = some data) :
    (w.signTransaction c : Exec ε Transaction Unit) tx =
      (.ok (), tx.setPrograms [w.programFor c data]) := by
  change tx.serializeUnsigned = some data at h
  simp [Wallet.signTransaction, h, Wallet.programFor]

/-- What a signature is for: after signing, the hash is the one that was signed,
the signature in the program verifies, and signing again changes nothing. -/
structure StaysSigned (c : Primitives) (w : Wallet) (tx signed : Transaction) : Prop where
  hash : getHashForSigning c signed = getHashForSigning c tx
  verifies : ∃ signature : Signature,
    signed.pbTx.programs.map Pb.Program.parameter = [64 :: signature.toList] ∧
      verifySignature c signed w.publicKey signature = some true
  again : (w.signTransaction c : Exec Empty Transaction Unit) signed = (.ok (), signed)

/-- A transaction that already carries the program that signing gives stays signed. -/
theorem staysSigned_of_programs {data : Bytes} (h : getHashData tx = some data)
    (hverify : ∀ m, c.ed25519Verify m w.publicKey (c.ed25519Sign m w.keypair) = true)
    (hprograms : tx.pbTx.programs = [w.programFor c data]) : StaysSigned c w tx tx where
  hash := rfl
  verifies := by
    refine ⟨w.sign c (c.sha256Hash data), ?_, ?_⟩
    · rw [hprograms]
      rfl
    · rw [verifySignature, getHashForSigning, h]
      exact congrArg some (hverify _)
  again := by
    rw [signTransaction_eq h, ← hprograms]
    rfl

/-- The signed data of a transaction is the same for two program lists exactly
when the lists are the same.  It survives signing exactly when the transaction
already carries the program that signing gives; then the transaction stays
signed, and otherwise its hash changes unless two byte strings have the same
hash. -/
theorem hashData_eq_iff_programs_eq (c : Primitives) (w : Wallet) (tx : Transaction)
    (h : tx.pbTx.unsignedTx ≠ none)
    (hverify : ∀ m, c.ed25519Verify m w.publicKey (c.ed25519Sign m w.keypair) = true) :
    (∀ P Q, getHashData (tx.setPrograms P) = getHashData (tx.setPrograms Q) ↔ P = Q) ∧
      ∃ data signed, getHashData tx = some data ∧
        (w.signTransaction c : Exec Empty Transaction Unit) tx = (.ok (), signed) ∧
        (getHashData signed = some data ↔ tx.pbTx.programs = [w.programFor c data]) ∧
        (tx.pbTx.programs = [w.programFor c data] → StaysSigned c w tx signed) ∧
        (getHashForSigning c signed = getHashForSigning c tx →
          tx.pbTx.programs = [w.programFor c data] ∨
            ∃ a b, a ≠ b ∧ c.sha256Hash a = c.sha256Hash b) := by
  have hinj : ∀ P Q, getHashData (tx.setPrograms P) = getHashData (tx.setPrograms Q) ↔ P = Q :=
    fun P Q => ⟨serializeUnsigned_inj h, fun heq => by rw [heq]⟩
  obtain ⟨data, hdata⟩ := exists_getHashData h
  have hiff : getHashData (tx.setPrograms [w.programFor c data]) = some data ↔
      tx.pbTx.programs = [w.programFor c data] := by
    rw [← hdata, ← Transaction.setPrograms_self tx, Transaction.setPrograms_setPrograms, hinj]
    exact eq_comm
  refine ⟨hinj, data, _, hdata, signTransaction_eq hdata, hiff, ?_, ?_⟩
  · intro hprograms
    rw [← hprograms]
    exact staysSigned_of_programs hdata hverify hprograms
  · intro hhash
    by_cases hsame : getHashData (tx.setPrograms [w.programFor c data]) = some data
    · exact Or.inl (hiff.mp hsame)
    · right
      obtain ⟨data', hdata'⟩ :
          ∃ data', getHashData (tx.setPrograms [w.programFor c data]) = some data' :=
        exists_getHashData h
      rw [getHashForSigning, getHashForSigning, hdata, hdata'] at hhash
      refine ⟨data', data, ?_, Option.some.inj hhash⟩
      intro heq
      rw [hdata', heq] at hsame
      exact hsame rfl

/-! ## A wallet and a transaction

The seed is 32 bytes of `1`.  The primitives are the real ones on the data that
signing this transaction once and then again hashes and signs. -/

def sampleWallet : Wallet where
  account :=
    { privateKey := Vector.replicate 32 1
      publicKey := ⟨#[
        138, 136, 227, 221, 116, 9, 241, 149, 253, 82, 219, 45, 60, 186, 93, 114,
        202, 103, 9, 191, 29, 148, 18, 27, 243, 116, 136, 1, 180, 15, 111, 92], rfl⟩ }

/-- A nanopay transaction over `10`, not signed. -/
def sampleUnsigned : Transaction :=
  Transaction.newNanopay (List.replicate 20 7) (List.replicate 20 9) 1 10 100 120
    (List.replicate 32 0)

/-- The signature of the unsigned transaction. -/
def sampleSignature : Signature :=
  ⟨#[
    18, 226, 71, 89, 253, 72, 14, 180, 115, 190, 169, 250, 142, 99, 177, 206,
    32, 84, 96, 240, 50, 179, 254, 108, 11, 195, 11, 31, 70, 82, 127, 178,
    160, 29, 54, 91, 182, 214, 160, 45, 230, 232, 196, 128, 147, 243, 14, 118,
    88, 26, 42, 99, 169, 183, 28, 11, 18, 163, 94, 136, 201, 195, 35, 2], rfl⟩

/-- The hash that is signed for the unsigned transaction. -/
def sampleHash : Bytes :=
  [83, 216, 241, 135, 231, 77, 125, 27, 221, 55, 167, 2, 137, 185, 191, 191,
    174, 17, 98, 155, 20, 205, 104, 121, 149, 11, 130, 225, 204, 33, 214, 190]

/-- The signature of the wallet, of `sampleHash` and of the hash after signing. -/
def sampleSign (message : Bytes) : Signature :=
  if message = sampleHash then sampleSignature
  else ⟨#[
    158, 14, 97, 244, 218, 59, 46, 165, 192, 142, 58, 56, 8, 189, 149, 56,
    13, 111, 112, 134, 93, 109, 30, 159, 14, 121, 4, 222, 10, 14, 6, 81,
    188, 137, 199, 37, 139, 175, 217, 189, 247, 147, 95, 114, 146, 50, 235, 228,
    4, 175, 116, 55, 219, 94, 60, 123, 33, 43, 119, 185, 8, 23, 31, 12], rfl⟩

def samplePrimitives : Primitives where
  sha256Hash := fun data =>
    if sampleUnsigned.serializeUnsigned = some data then sampleHash
    else
      [139, 240, 62, 220, 145, 30, 215, 156, 78, 40, 251, 163, 89, 126, 189, 17,
        21, 57, 58, 151, 173, 238, 61, 98, 157, 19, 38, 0, 66, 171, 142, 40]
  ed25519Sign := fun message _ => sampleSign message
  ed25519Verify := fun message _ signature => signature = sampleSign message

/-- The program list that signing gives the sample transaction. -/
def samplePrograms : List Pb.Program :=
  [{ code := createSignatureProgramCode sampleWallet.publicKey
     parameter := 64 :: sampleSignature.toList }]

theorem hashData_of_sample :
    sampleUnsigned.pbTx.unsignedTx ≠ none ∧
      ∃ data signed, getHashData sampleUnsigned = some data ∧
        (sampleWallet.signTransaction samplePrimitives : Exec Empty Transaction Unit)
          sampleUnsigned = (.ok (), signed) ∧
        (getHashData signed = some data ↔
          sampleUnsigned.pbTx.programs = [sampleWallet.programFor samplePrimitives data]) := by
  obtain ⟨-, data, signed, hdata, hsign, hiff, -⟩ :=
    hashData_eq_iff_programs_eq samplePrimitives sampleWallet sampleUnsigned (by decide)
      (fun m => decide_eq_true rfl)
  exact ⟨by decide, data, signed, hdata, hsign, hiff⟩

/-- The data to be signed changes when the signature is put in. -/
theorem hashData_changed_by_signing :
    sampleUnsigned.pbTx.unsignedTx ≠ none ∧
      getHashData (sampleUnsigned.setPrograms []) ≠
        getHashData (sampleUnsigned.setPrograms samplePrograms) := by
  decide +kernel

end NknSdk
