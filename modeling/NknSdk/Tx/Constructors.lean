import NknSdk.Pb.TxPayloads
import NknSdk.Tx.SignedData

/-!
# The transactions a client makes

The constructors of `src/payload.rs` and `src/tx.rs`.  Every transaction is one
payload message, packed with a number for its type, and a nonce, a fee and attributes.
The constructors that take no attributes draw them at random; here the draw is an
argument.

The data that is signed and the bytes that are submitted both tell the whole
transaction: the constructor that made it, all of its arguments, the draw and the
programs it carries (`told_by_data`).
-/

namespace NknSdk

/-! ## Payloads -/

/-- `payload::new_coinbase`. -/
def newCoinbase (sender recipient : Bytes) (amount : Int64) : Pb.Coinbase :=
  { sender, recipient, amount }

/-- `payload::new_transfer_asset`. -/
def newTransferAsset (sender recipient : Bytes) (amount : Int64) : Pb.TransferAsset :=
  { sender, recipient, amount }

/-- `payload::new_sigchain`. -/
def newSigchain (sigChain submitter : Bytes) : Pb.SigChainTxn := { sigChain, submitter }

/-- `payload::new_generate_id`. -/
def newGenerateId (publicKey sender : Bytes) (registrationFee : Int64) (version : Int32) :
    Pb.GenerateId :=
  { publicKey, sender, registrationFee, version }

/-- `payload::new_subscribe`. -/
def newSubscribe (subscriber : Bytes) (identifier topic : String) (duration : UInt32)
    (metaBytes : Bytes) : Pb.Subscribe :=
  { subscriber, identifier, topic, bucket := 0, duration, metaBytes }

/-- `payload::new_unsubscribe`. -/
def newUnsubscribe (subscriber : Bytes) (identifier topic : String) : Pb.Unsubscribe :=
  { subscriber, identifier, topic }

/-- `payload::new_issue_asset`. -/
def newIssueAsset (sender : Bytes) (name symbol : String) (precision : UInt32)
    (totalSupply : Int64) : Pb.IssueAsset :=
  { sender, name, symbol, precision, totalSupply }

/-- `payload::new_register_name`. -/
def newRegisterName (registrant : Bytes) (name : String) (registrationFee : Int64) :
    Pb.RegisterName :=
  { registrant, name, registrationFee }

/-- `payload::new_transfer_name`. -/
def newTransferName (registrant recipient : Bytes) (name : String) : Pb.TransferName :=
  { registrant, recipient, name }

/-- `payload::new_delete_name`. -/
def newDeleteName (registrant : Bytes) (name : String) : Pb.DeleteName := { registrant, name }

/-! ## Transactions -/

namespace Transaction

/-- `Transaction::new_transfer_asset`. -/
def newTransferAsset (sender recipient : Bytes) (amount : Int64) (nonce : UInt64) (fee : Int64)
    (attrs : Bytes) : Transaction :=
  let payload := NknSdk.newTransferAsset sender recipient amount
  { pbTx := newMsgTx (packPayload .transferAssetType payload.encode) nonce fee attrs }

/-- `Transaction::new_sigchain`. -/
def newSigchain (sigChain submitter : Bytes) (nonce : UInt64) (attrs : Bytes) : Transaction :=
  let payload := NknSdk.newSigchain sigChain submitter
  { pbTx := newMsgTx (packPayload .sigChainTxnType payload.encode) nonce 0 attrs }

/-- `Transaction::new_generate_id`. -/
def newGenerateId (publicKey sender : Bytes) (registrationFee : Int64) (version : Int32)
    (nonce : UInt64) (fee : Int64) (attrs : Bytes) : Transaction :=
  let payload := NknSdk.newGenerateId publicKey sender registrationFee version
  { pbTx := newMsgTx (packPayload .generateIdType payload.encode) nonce fee attrs }

/-- `Transaction::new_subscribe`. -/
def newSubscribe (subscriber : Bytes) (identifier topic : String) (duration : UInt32)
    (metaBytes : Bytes) (nonce : UInt64) (fee : Int64) (attrs : Bytes) : Transaction :=
  let payload := NknSdk.newSubscribe subscriber identifier topic duration metaBytes
  { pbTx := newMsgTx (packPayload .subscribeType payload.encode) nonce fee attrs }

/-- `Transaction::new_unsubscribe`. -/
def newUnsubscribe (subscriber : Bytes) (identifier topic : String) (nonce : UInt64)
    (fee : Int64) (attrs : Bytes) : Transaction :=
  let payload := NknSdk.newUnsubscribe subscriber identifier topic
  { pbTx := newMsgTx (packPayload .unsubscribeType payload.encode) nonce fee attrs }

end Transaction

/-- A message that a transaction may carry. -/
inductive TxPayload where
  | coinbase (m : Pb.Coinbase)
  | transferAsset (m : Pb.TransferAsset)
  | sigChainTxn (m : Pb.SigChainTxn)
  | registerName (m : Pb.RegisterName)
  | transferName (m : Pb.TransferName)
  | deleteName (m : Pb.DeleteName)
  | subscribe (m : Pb.Subscribe)
  | unsubscribe (m : Pb.Unsubscribe)
  | generateId (m : Pb.GenerateId)
  | nanoPay (m : Pb.NanoPay)
  | issueAsset (m : Pb.IssueAsset)
deriving DecidableEq

namespace TxPayload

/-- The type that a message is packed with. -/
def payloadType : TxPayload → Pb.PayloadType
  | coinbase _ => .coinbaseType
  | transferAsset _ => .transferAssetType
  | sigChainTxn _ => .sigChainTxnType
  | registerName _ => .registerNameType
  | transferName _ => .transferNameType
  | deleteName _ => .deleteNameType
  | subscribe _ => .subscribeType
  | unsubscribe _ => .unsubscribeType
  | generateId _ => .generateIdType
  | nanoPay _ => .nanoPayType
  | issueAsset _ => .issueAssetType

def encode : TxPayload → Bytes
  | coinbase m => m.encode
  | transferAsset m => m.encode
  | sigChainTxn m => m.encode
  | registerName m => m.encode
  | transferName m => m.encode
  | deleteName m => m.encode
  | subscribe m => m.encode
  | unsubscribe m => m.encode
  | generateId m => m.encode
  | nanoPay m => m.encode
  | issueAsset m => m.encode

def pack (p : TxPayload) : Pb.Payload := packPayload p.payloadType p.encode

/-- The type and the encoding together tell the message. -/
theorem pack_injective : Function.Injective pack := by
  intro p q h
  have htype : p.payloadType = q.payloadType :=
    Pb.PayloadType.toI32_injective (congrArg Pb.Payload.type h)
  have hdata : p.encode = q.encode := congrArg Pb.Payload.data h
  cases p <;> cases q <;> first | cases htype | skip
  case coinbase m n => exact congrArg _ (Pb.Coinbase.encode_injective hdata)
  case transferAsset m n => exact congrArg _ (Pb.TransferAsset.encode_injective hdata)
  case sigChainTxn m n => exact congrArg _ (Pb.SigChainTxn.encode_injective hdata)
  case registerName m n => exact congrArg _ (Pb.RegisterName.encode_injective hdata)
  case transferName m n => exact congrArg _ (Pb.TransferName.encode_injective hdata)
  case deleteName m n => exact congrArg _ (Pb.DeleteName.encode_injective hdata)
  case subscribe m n => exact congrArg _ (Pb.Subscribe.encode_injective hdata)
  case unsubscribe m n => exact congrArg _ (Pb.Unsubscribe.encode_injective hdata)
  case generateId m n => exact congrArg _ (Pb.GenerateId.encode_injective hdata)
  case nanoPay m n => exact congrArg _ (Pb.NanoPay.encode_injective hdata)
  case issueAsset m n => exact congrArg _ (Pb.IssueAsset.encode_injective hdata)

end TxPayload

/-! ## Calls -/

/-- A call of a constructor of `tx.rs`, with its arguments and the draw of attributes. -/
inductive TxCall where
  | nanopay (sender recipient : Bytes) (id : UInt64) (amount : Int64)
      (txnExpiration nanoPayExpiration : UInt32) (attrs : Bytes)
  | transferAsset (sender recipient : Bytes) (amount : Int64) (nonce : UInt64) (fee : Int64)
      (attrs : Bytes)
  | sigchain (sigChain submitter : Bytes) (nonce : UInt64) (attrs : Bytes)
  | generateId (publicKey sender : Bytes) (registrationFee : Int64) (version : Int32)
      (nonce : UInt64) (fee : Int64) (attrs : Bytes)
  | subscribe (subscriber : Bytes) (identifier topic : String) (duration : UInt32)
      (metaBytes : Bytes) (nonce : UInt64) (fee : Int64) (attrs : Bytes)
  | unsubscribe (subscriber : Bytes) (identifier topic : String) (nonce : UInt64) (fee : Int64)
      (attrs : Bytes)

namespace TxCall

def build : TxCall → Transaction
  | nanopay sender recipient id amount txnExpiration nanoPayExpiration attrs =>
      .newNanopay sender recipient id amount txnExpiration nanoPayExpiration attrs
  | transferAsset sender recipient amount nonce fee attrs =>
      .newTransferAsset sender recipient amount nonce fee attrs
  | sigchain sigChain submitter nonce attrs => .newSigchain sigChain submitter nonce attrs
  | generateId publicKey sender registrationFee version nonce fee attrs =>
      .newGenerateId publicKey sender registrationFee version nonce fee attrs
  | subscribe subscriber identifier topic duration metaBytes nonce fee attrs =>
      .newSubscribe subscriber identifier topic duration metaBytes nonce fee attrs
  | unsubscribe subscriber identifier topic nonce fee attrs =>
      .newUnsubscribe subscriber identifier topic nonce fee attrs

/-- The message that the transaction carries. -/
def payload : TxCall → TxPayload
  | nanopay sender recipient id amount txnExpiration nanoPayExpiration _ =>
      .nanoPay (newNanopay sender recipient id amount txnExpiration nanoPayExpiration)
  | transferAsset sender recipient amount _ _ _ =>
      .transferAsset (newTransferAsset sender recipient amount)
  | sigchain sigChain submitter _ _ => .sigChainTxn (newSigchain sigChain submitter)
  | generateId publicKey sender registrationFee version _ _ _ =>
      .generateId (newGenerateId publicKey sender registrationFee version)
  | subscribe subscriber identifier topic duration metaBytes _ _ _ =>
      .subscribe (newSubscribe subscriber identifier topic duration metaBytes)
  | unsubscribe subscriber identifier topic _ _ _ =>
      .unsubscribe (newUnsubscribe subscriber identifier topic)

/-- The nonce.  A nanopay has none. -/
def nonce : TxCall → UInt64
  | nanopay .. => 0
  | transferAsset _ _ _ nonce _ _ => nonce
  | sigchain _ _ nonce _ => nonce
  | generateId _ _ _ _ nonce _ _ => nonce
  | subscribe _ _ _ _ _ nonce _ _ => nonce
  | unsubscribe _ _ _ nonce _ _ => nonce

/-- The fee.  Neither a nanopay nor a signature chain pays one. -/
def fee : TxCall → Int64
  | nanopay .. => 0
  | transferAsset _ _ _ _ fee _ => fee
  | sigchain .. => 0
  | generateId _ _ _ _ _ fee _ => fee
  | subscribe _ _ _ _ _ _ fee _ => fee
  | unsubscribe _ _ _ _ fee _ => fee

def attrs : TxCall → Bytes
  | nanopay _ _ _ _ _ _ attrs => attrs
  | transferAsset _ _ _ _ _ attrs => attrs
  | sigchain _ _ _ attrs => attrs
  | generateId _ _ _ _ _ _ attrs => attrs
  | subscribe _ _ _ _ _ _ _ attrs => attrs
  | unsubscribe _ _ _ _ _ attrs => attrs

/-- Every constructor wraps its payload in the same way. -/
theorem build_pbTx (call : TxCall) :
    call.build.pbTx = newMsgTx call.payload.pack call.nonce call.fee call.attrs := by
  cases call <;> rfl

theorem build_unsignedTx (call : TxCall) :
    call.build.pbTx.unsignedTx =
      some { payload := some call.payload.pack, nonce := call.nonce, fee := call.fee,
             attributes := call.attrs } := by
  rw [build_pbTx, newMsgTx]

/-- The parts of the unsigned transaction tell the call. -/
theorem eq_of_parts {call call' : TxCall} (hpayload : call.payload = call'.payload)
    (hnonce : call.nonce = call'.nonce) (hfee : call.fee = call'.fee)
    (hattrs : call.attrs = call'.attrs) : call = call' := by
  cases call <;> cases call' <;>
    simp_all [payload, nonce, fee, attrs, newNanopay, newTransferAsset, newSigchain,
      newGenerateId, newSubscribe, newUnsubscribe]

theorem eq_of_unsignedTx_eq {call call' : TxCall}
    (h : call.build.pbTx.unsignedTx = call'.build.pbTx.unsignedTx) : call = call' := by
  rw [build_unsignedTx, build_unsignedTx, Option.some.injEq, Pb.UnsignedTx.mk.injEq,
    Option.some.injEq] at h
  obtain ⟨hpack, hnonce, hfee, hattrs⟩ := h
  exact eq_of_parts (TxPayload.pack_injective hpack) hnonce hfee hattrs

end TxCall

/-! ## What is signed and what is submitted -/

/-- The signed data tells the whole transaction: what follows the encoded message is
taken from the unsigned part, which stands at its front. -/
theorem eq_of_serializeUnsigned_eq {tx tx' : Transaction} {u u' : Pb.UnsignedTx}
    (hu : tx.pbTx.unsignedTx = some u) (hu' : tx'.pbTx.unsignedTx = some u')
    (h : tx.serializeUnsigned = tx'.serializeUnsigned) : tx = tx' := by
  obtain ⟨data, hdata⟩ : ∃ data, tx.serializeUnsigned = some data := by
    rw [Transaction.serializeUnsigned, hu]
    exact ⟨_, rfl⟩
  obtain ⟨rest, hrest⟩ := serializeUnsigned_eq hu hdata
  obtain ⟨rest', hrest'⟩ := serializeUnsigned_eq hu' (h.symm.trans hdata)
  obtain ⟨hunsigned, -⟩ := Wire.delimited_selfDelimiting 1 _ _ _ _ (hrest.symm.trans hrest')
  obtain rfl := Pb.UnsignedTx.encode_injective hunsigned
  simp only [Transaction.serializeUnsigned, hu, hu', Option.map_some, Option.some.injEq,
    List.append_cancel_right_eq] at h
  have hpb : tx.pbTx = tx'.pbTx := Pb.Transaction.encode_injective h
  cases tx
  cases tx'
  rw [Transaction.mk.injEq]
  exact hpb

/-- Two calls of constructors, with any programs put in afterwards: the data that is
signed is the same exactly when the bytes that are submitted are, and then the calls are
the same to the last argument, and so are the programs. -/
theorem told_by_data (call call' : TxCall) (programs programs' : List Pb.Program) :
    ((call.build.setPrograms programs).serializeUnsigned =
        (call'.build.setPrograms programs').serializeUnsigned ↔
      call = call' ∧ programs = programs') ∧
    ((call.build.setPrograms programs).encode = (call'.build.setPrograms programs').encode ↔
      call = call' ∧ programs = programs') := by
  have hback : call.build.setPrograms programs = call'.build.setPrograms programs' →
      call = call' ∧ programs = programs' := by
    intro h
    have hunsigned := congrArg (fun tx : Transaction => tx.pbTx.unsignedTx) h
    have hprograms := congrArg (fun tx : Transaction => tx.pbTx.programs) h
    exact ⟨TxCall.eq_of_unsignedTx_eq hunsigned, hprograms⟩
  constructor
  · constructor
    · intro h
      exact hback (eq_of_serializeUnsigned_eq call.build_unsignedTx call'.build_unsignedTx h)
    · rintro ⟨rfl, rfl⟩
      rfl
  · constructor
    · intro h
      apply hback
      have hpb := Pb.Transaction.encode_injective h
      exact congrArg Transaction.mk hpb
    · rintro ⟨rfl, rfl⟩
      rfl

end NknSdk
