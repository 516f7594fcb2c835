import NknSdk.Lib.Utf8
import NknSdk.Tx.Signing
import NknSdk.Utils.Json

/-!
# Submitting a transaction

`send_raw_transaction` of `src/rpc.rs` hands the encoding of a transaction to
`rpc_call` as a text.  The text is not a hexadecimal one: the raw bytes are read as
UTF-8, and refused where they are not.

The program of a signed transaction has bytes below `0x80` around the public key
with the opcode behind it and around the signature.  So its encoding falls into
three parts, and is a text exactly if all three are (`signed_submits_iff`).  The
opcode is no text of its own: it takes a key whose last bytes begin a character.
-/

namespace NknSdk.Rpc

open Exec

/-- `rpc::send_raw_transaction`, over the text of a UTF-8 error and `rpc_call` of a method
and its parameters. -/
def sendRawTransaction (utf8Error : Bytes → String)
    (rpcCall : String → Json → Outcome String String) (tx : Transaction) :
    Outcome String String :=
  match Utf8.strict tx.encode with
  | none => .err ("Utf8: " ++ utf8Error tx.encode)
  | some encoded => rpcCall "sendrawtransaction" (.obj [("tx", .str encoded)])

/-- The call is made with a text that holds the bytes of the transaction. -/
def Submits (tx : Transaction) : Prop :=
  ∃ encoded : String, encoded.toUTF8.toList = tx.encode ∧
    ∀ utf8Error rpcCall, sendRawTransaction utf8Error rpcCall tx =
      rpcCall "sendrawtransaction" (.obj [("tx", .str encoded)])

theorem submits_iff {tx : Transaction} : Submits tx ↔ Utf8.IsText tx.encode := by
  rw [Utf8.isText_iff]
  constructor
  · rintro ⟨encoded, -, hcall⟩
    cases hread : Utf8.strict tx.encode with
    | some text => exact ⟨text, rfl⟩
    | none =>
        have hfails := hcall (fun _ => "") fun _ _ => .panic
        rw [sendRawTransaction, hread] at hfails
        cases hfails
  · rintro ⟨encoded, hread⟩
    refine ⟨encoded, Utf8.toUTF8_of_strict hread, fun utf8Error rpcCall => ?_⟩
    rw [sendRawTransaction, hread]

/-! ## The encoding of a signed transaction -/

section Signed

variable {c : Primitives} {w : Wallet}

theorem bytesField_code (publicKey : PublicKey) :
    Wire.bytesField 1 (createSignatureProgramCode publicKey) =
      0x0A :: 0x22 :: 0x20 :: (publicKey.toList ++ [checkSig]) := by
  have hlen : (createSignatureProgramCode publicKey).length = 34 := by
    simp [createSignatureProgramCode, publicKeyLen]
  have hne : createSignatureProgramCode publicKey ≠ [] := List.cons_ne_nil _ _
  rw [Wire.bytesField, if_neg hne, Wire.delimited, hlen]
  rfl

theorem bytesField_parameter (signature : Signature) :
    Wire.bytesField 2 (0x40 :: signature.toList) = 0x12 :: 0x41 :: 0x40 :: signature.toList := by
  have hlen : ((0x40 : UInt8) :: signature.toList).length = 65 := by simp [signatureLen]
  rw [Wire.bytesField, if_neg (List.cons_ne_nil _ _), Wire.delimited, hlen]
  rfl

theorem encode_program (publicKey : PublicKey) (signature : Signature) :
    ((createSignatureProgramContext publicKey).newProgram signature).encode =
      0x0A :: 0x22 :: 0x20 :: (publicKey.toList ++ [checkSig]) ++
        0x12 :: 0x41 :: 0x40 :: signature.toList := by
  have hsize : UInt8.ofNat signature.size = 0x40 := rfl
  rw [Pb.Program.encode, createSignatureProgramContext, ProgramContext.newProgram, hsize]
  dsimp only
  rw [bytesField_code, bytesField_parameter]

/-- The three parts of a signed transaction, and what stands between them. -/
theorem encode_signed (u : Pb.UnsignedTx) (publicKey : PublicKey) (signature : Signature) :
    Transaction.encode { pbTx := {
        unsignedTx := some u
        programs := [(createSignatureProgramContext publicKey).newProgram signature] } } =
      Wire.delimited 1 u.encode ++ 0x12 :: ([0x67, 0x0A, 0x22] ++ 0x20 ::
        ((publicKey.toList ++ [checkSig]) ++ 0x12 :: ([0x41] ++ 0x40 :: signature.toList))) := by
  have hlen : ((createSignatureProgramContext publicKey).newProgram signature).encode.length =
      103 := by
    rw [encode_program]
    simp [publicKeyLen, signatureLen]
  have hprogram : Wire.delimited 2
      ((createSignatureProgramContext publicKey).newProgram signature).encode =
        0x12 :: ([0x67, 0x0A, 0x22] ++ 0x20 ::
          ((publicKey.toList ++ [checkSig]) ++ 0x12 :: ([0x41] ++ 0x40 :: signature.toList))) := by
    rw [Wire.delimited, hlen, encode_program]
    rfl
  rw [Transaction.encode, Pb.Transaction.encode, Option.elim_some, List.flatMap_singleton,
    hprogram]

/-- A signed transaction is a text exactly if its three parts are. -/
theorem isText_signed_iff (u : Pb.UnsignedTx) (publicKey : PublicKey) (signature : Signature) :
    Utf8.IsText (Transaction.encode { pbTx := {
        unsignedTx := some u
        programs := [(createSignatureProgramContext publicKey).newProgram signature] } }) ↔
      Utf8.IsText (Wire.delimited 1 u.encode) ∧ Utf8.IsText (publicKey.toList ++ [checkSig]) ∧
        Utf8.IsText signature.toList := by
  have hlengths : Utf8.IsText [0x67, 0x0A, 0x22] :=
    (Utf8.isText_singleton (by decide)).append ((Utf8.isText_singleton (by decide)).append
      (Utf8.isText_singleton (by decide)))
  have hlength : Utf8.IsText [0x41] := Utf8.isText_singleton (by decide)
  rw [encode_signed, Utf8.isText_append_cons (by decide), Utf8.isText_append_cons (by decide),
    Utf8.isText_append_cons (a := publicKey.toList ++ [checkSig]) (b := 0x12) (by decide),
    Utf8.isText_append_cons (a := [0x41]) (by decide)]
  simp only [hlengths, hlength, true_and]

/-- The opcode behind a key whose last byte is below `0x80` is no text. -/
theorem not_isText_code {front : Bytes} {last : UInt8} (hlast : last < 0x80) :
    ¬ Utf8.IsText (front ++ [last] ++ [checkSig]) := by
  intro htext
  rw [List.append_assoc, List.singleton_append, Utf8.isText_append_cons hlast] at htext
  obtain ⟨text, hread⟩ := Utf8.isText_iff.mp htext.2
  have hnone : Utf8.strict [checkSig] = none := by decide +kernel
  rw [hnone] at hread
  cases hread

/-- Behind the byte `0xC3` the opcode is the end of a character. -/
example : Utf8.IsText [0xC3, checkSig] := ⟨['ì'], by decide⟩

end Signed

/-- Every transaction that has an unsigned part can be signed, and is submitted exactly
if that part, the public key with the opcode behind it, and the signature are texts. -/
theorem signed_submits_iff (c : Primitives) (w : Wallet) (u : Pb.UnsignedTx)
    (programs : List Pb.Program) :
    ∃ data signed,
      Transaction.serializeUnsigned { pbTx := { unsignedTx := some u, programs } } = some data ∧
      (w.signTransaction c : Exec Empty Transaction Unit)
        { pbTx := { unsignedTx := some u, programs } } = (.ok (), signed) ∧
      (Submits signed ↔
        Utf8.IsText (Wire.delimited 1 u.encode) ∧
        Utf8.IsText (w.publicKey.toList ++ [checkSig]) ∧
        Utf8.IsText (w.sign c (c.sha256Hash data)).toList) := by
  obtain ⟨data, hdata⟩ : ∃ data,
      getHashData (D := Transaction) { pbTx := { unsignedTx := some u, programs } } = some data :=
    exists_getHashData (Option.some_ne_none u)
  refine ⟨data, _, hdata, signTransaction_eq hdata, ?_⟩
  rw [submits_iff]
  exact isText_signed_iff u w.publicKey (w.sign c (c.sha256Hash data))

/-- The sample key ends in `0x5C`, so that nothing it signs is submitted. -/
theorem signed_sample_refused :
    ∃ signed, (sampleWallet.signTransaction samplePrimitives : Exec Empty Transaction Unit)
        sampleUnsigned = (.ok (), signed) ∧
      (∀ utf8Error rpcCall, sendRawTransaction utf8Error rpcCall signed =
        .err ("Utf8: " ++ utf8Error signed.encode)) ∧
      ¬ Submits signed := by
  obtain ⟨data, hdata⟩ : ∃ data, getHashData sampleUnsigned = some data :=
    exists_getHashData (by decide)
  have hkey : sampleWallet.publicKey.toList =
      sampleWallet.publicKey.toList.dropLast ++ [0x5C] := by decide
  have hnone : ¬ Utf8.IsText
      (sampleUnsigned.setPrograms [sampleWallet.programFor samplePrimitives data]).encode := by
    intro htext
    have hcode := ((isText_signed_iff _ _ _).mp htext).2.1
    rw [hkey] at hcode
    exact not_isText_code (by decide) hcode
  refine ⟨_, signTransaction_eq hdata, fun utf8Error rpcCall => ?_, fun h => hnone (submits_iff.mp h)⟩
  cases hread : Utf8.strict
      (sampleUnsigned.setPrograms [sampleWallet.programFor samplePrimitives data]).encode with
  | none => rw [sendRawTransaction, hread]
  | some text => exact absurd (Utf8.isText_iff.mpr ⟨text, hread⟩) hnone

end NknSdk.Rpc
