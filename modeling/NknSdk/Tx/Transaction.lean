import NknSdk.Pb.Transaction

/-!
# Transactions

`src/tx.rs` and the constructors of `src/payload.rs` it uses.  A transaction
wraps the protobuf message.  Its cached hash, size and verification flag are
never read by the code and are left out.  The random attributes of the
constructors are an argument.
-/

namespace NknSdk

/-- `tx::Transaction`. -/
structure Transaction where
  pbTx : Pb.Transaction
deriving DecidableEq, Repr

/-- `payload::pack_payload`, for a message that is already encoded. -/
def packPayload (payloadType : Pb.PayloadType) (payloadMsg : Bytes) : Pb.Payload :=
  { type := payloadType.toI32, data := payloadMsg }

/-- `payload::unpack_payload`. -/
def unpackPayload (payload : Pb.Payload) : Bytes := payload.data

/-- `payload::new_nanopay`. -/
def newNanopay (sender recipient : Bytes) (id : UInt64) (amount : Int64)
    (txnExpiration nanoPayExpiration : UInt32) : Pb.NanoPay :=
  { sender, recipient, id, amount, txnExpiration, nanoPayExpiration }

/-- `tx::new_msg_tx`. -/
def newMsgTx (payload : Pb.Payload) (nonce : UInt64) (fee : Int64) (attrs : Bytes) :
    Pb.Transaction :=
  { unsignedTx := some { payload := some payload, nonce, fee, attributes := attrs }
    programs := [] }

namespace Transaction

/-- `Transaction::new_nanopay`. -/
def newNanopay (sender recipient : Bytes) (id : UInt64) (amount : Int64)
    (txnExpiration nanoPayExpiration : UInt32) (attrs : Bytes) : Transaction :=
  let payload := NknSdk.newNanopay sender recipient id amount txnExpiration nanoPayExpiration
  { pbTx := newMsgTx (packPayload .nanoPayType payload.encode) 0 0 attrs }

/-- `Transaction::encode`. -/
def encode (tx : Transaction) : Bytes := tx.pbTx.encode

/-- `SignableData::set_programs`. -/
def setPrograms (tx : Transaction) (programs : List Pb.Program) : Transaction :=
  { tx with pbTx := { tx.pbTx with programs } }

@[simp] theorem setPrograms_programs (tx : Transaction) (programs : List Pb.Program) :
    (tx.setPrograms programs).pbTx.programs = programs := rfl

@[simp] theorem setPrograms_unsignedTx (tx : Transaction) (programs : List Pb.Program) :
    (tx.setPrograms programs).pbTx.unsignedTx = tx.pbTx.unsignedTx := rfl

@[simp] theorem setPrograms_setPrograms (tx : Transaction) (programs programs' : List Pb.Program) :
    (tx.setPrograms programs).setPrograms programs' = tx.setPrograms programs' := rfl

theorem setPrograms_self (tx : Transaction) : tx.setPrograms tx.pbTx.programs = tx := rfl

end Transaction

end NknSdk
