import NknSdk.Lib.WireRecord
import NknSdk.Pb.Transaction

/-!
# The payloads of transactions

The messages of `protos/transaction.proto` that a transaction carries encoded in its
payload.  All are flat, so each is given by its fields, and each can be read back:
the encoding of a message determines it.  Which message it is the encoding does not
say; a coinbase and a transfer of an asset with the same fields are the same bytes.
-/

namespace NknSdk.Pb

open Wire (Value)

structure Coinbase where
  sender : Bytes
  recipient : Bytes
  amount : Int64
deriving DecidableEq, Repr

structure SigChainTxn where
  sigChain : Bytes
  submitter : Bytes
deriving DecidableEq, Repr

structure RegisterName where
  registrant : Bytes
  name : String
  registrationFee : Int64
deriving DecidableEq, Repr

structure TransferName where
  name : String
  registrant : Bytes
  recipient : Bytes
deriving DecidableEq, Repr

structure DeleteName where
  registrant : Bytes
  name : String
deriving DecidableEq, Repr

structure Subscribe where
  subscriber : Bytes
  identifier : String
  topic : String
  bucket : UInt32
  duration : UInt32
  metaBytes : Bytes
deriving DecidableEq, Repr

structure Unsubscribe where
  subscriber : Bytes
  identifier : String
  topic : String
deriving DecidableEq, Repr

structure TransferAsset where
  sender : Bytes
  recipient : Bytes
  amount : Int64
deriving DecidableEq, Repr

structure GenerateId where
  publicKey : Bytes
  registrationFee : Int64
  sender : Bytes
  version : Int32
deriving DecidableEq, Repr

structure IssueAsset where
  sender : Bytes
  name : String
  symbol : String
  totalSupply : Int64
  precision : UInt32
deriving DecidableEq, Repr

/-! ## Fields -/

@[simp] def Coinbase.fields (m : Coinbase) : List (Nat × Value) :=
  [(1, .bytes m.sender), (2, .bytes m.recipient), (3, .int64 m.amount)]

@[simp] def SigChainTxn.fields (m : SigChainTxn) : List (Nat × Value) :=
  [(1, .bytes m.sigChain), (2, .bytes m.submitter)]

@[simp] def RegisterName.fields (m : RegisterName) : List (Nat × Value) :=
  [(1, .bytes m.registrant), (2, .text m.name), (3, .int64 m.registrationFee)]

@[simp] def TransferName.fields (m : TransferName) : List (Nat × Value) :=
  [(1, .text m.name), (2, .bytes m.registrant), (3, .bytes m.recipient)]

@[simp] def DeleteName.fields (m : DeleteName) : List (Nat × Value) :=
  [(1, .bytes m.registrant), (2, .text m.name)]

@[simp] def Subscribe.fields (m : Subscribe) : List (Nat × Value) :=
  [(1, .bytes m.subscriber), (2, .text m.identifier), (3, .text m.topic),
    (4, .uint32 m.bucket), (5, .uint32 m.duration), (6, .bytes m.metaBytes)]

@[simp] def Unsubscribe.fields (m : Unsubscribe) : List (Nat × Value) :=
  [(1, .bytes m.subscriber), (2, .text m.identifier), (3, .text m.topic)]

@[simp] def TransferAsset.fields (m : TransferAsset) : List (Nat × Value) :=
  [(1, .bytes m.sender), (2, .bytes m.recipient), (3, .int64 m.amount)]

@[simp] def GenerateId.fields (m : GenerateId) : List (Nat × Value) :=
  [(1, .bytes m.publicKey), (2, .int64 m.registrationFee), (3, .bytes m.sender),
    (4, .int32 m.version)]

@[simp] def IssueAsset.fields (m : IssueAsset) : List (Nat × Value) :=
  [(1, .bytes m.sender), (2, .text m.name), (3, .text m.symbol), (4, .int64 m.totalSupply),
    (5, .uint32 m.precision)]

/-! ## Encoding -/

def Coinbase.encode (m : Coinbase) : Bytes := Wire.record m.fields

def SigChainTxn.encode (m : SigChainTxn) : Bytes := Wire.record m.fields

def RegisterName.encode (m : RegisterName) : Bytes := Wire.record m.fields

def TransferName.encode (m : TransferName) : Bytes := Wire.record m.fields

def DeleteName.encode (m : DeleteName) : Bytes := Wire.record m.fields

def Subscribe.encode (m : Subscribe) : Bytes := Wire.record m.fields

def Unsubscribe.encode (m : Unsubscribe) : Bytes := Wire.record m.fields

def TransferAsset.encode (m : TransferAsset) : Bytes := Wire.record m.fields

def GenerateId.encode (m : GenerateId) : Bytes := Wire.record m.fields

def IssueAsset.encode (m : IssueAsset) : Bytes := Wire.record m.fields

theorem Coinbase.encode_injective : Function.Injective Coinbase.encode := by
  apply Wire.record_injective Coinbase.fields (by simp) (fun _ => rfl)
  rintro ⟨sender, recipient, amount⟩ ⟨sender', recipient', amount'⟩ h
  simpa using h

theorem SigChainTxn.encode_injective : Function.Injective SigChainTxn.encode := by
  apply Wire.record_injective SigChainTxn.fields (by simp) (fun _ => rfl)
  rintro ⟨sigChain, submitter⟩ ⟨sigChain', submitter'⟩ h
  simpa using h

theorem RegisterName.encode_injective : Function.Injective RegisterName.encode := by
  apply Wire.record_injective RegisterName.fields (by simp) (fun _ => rfl)
  rintro ⟨registrant, name, fee⟩ ⟨registrant', name', fee'⟩ h
  simpa using h

theorem TransferName.encode_injective : Function.Injective TransferName.encode := by
  apply Wire.record_injective TransferName.fields (by simp) (fun _ => rfl)
  rintro ⟨name, registrant, recipient⟩ ⟨name', registrant', recipient'⟩ h
  simpa using h

theorem DeleteName.encode_injective : Function.Injective DeleteName.encode := by
  apply Wire.record_injective DeleteName.fields (by simp) (fun _ => rfl)
  rintro ⟨registrant, name⟩ ⟨registrant', name'⟩ h
  simpa using h

theorem Subscribe.encode_injective : Function.Injective Subscribe.encode := by
  apply Wire.record_injective Subscribe.fields (by simp) (fun _ => rfl)
  rintro ⟨subscriber, identifier, topic, bucket, duration, metaBytes⟩
    ⟨subscriber', identifier', topic', bucket', duration', metaBytes'⟩ h
  simpa using h

theorem Unsubscribe.encode_injective : Function.Injective Unsubscribe.encode := by
  apply Wire.record_injective Unsubscribe.fields (by simp) (fun _ => rfl)
  rintro ⟨subscriber, identifier, topic⟩ ⟨subscriber', identifier', topic'⟩ h
  simpa using h

theorem TransferAsset.encode_injective : Function.Injective TransferAsset.encode := by
  apply Wire.record_injective TransferAsset.fields (by simp) (fun _ => rfl)
  rintro ⟨sender, recipient, amount⟩ ⟨sender', recipient', amount'⟩ h
  simpa using h

theorem GenerateId.encode_injective : Function.Injective GenerateId.encode := by
  apply Wire.record_injective GenerateId.fields (by simp) (fun _ => rfl)
  rintro ⟨publicKey, fee, sender, version⟩ ⟨publicKey', fee', sender', version'⟩ h
  simpa using h

theorem IssueAsset.encode_injective : Function.Injective IssueAsset.encode := by
  apply Wire.record_injective IssueAsset.fields (by simp) (fun _ => rfl)
  rintro ⟨sender, name, symbol, totalSupply, precision⟩
    ⟨sender', name', symbol', totalSupply', precision'⟩ h
  simpa using h

end NknSdk.Pb
