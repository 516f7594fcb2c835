import NknSdk.Pb.Payloads
import NknSdk.Pb.Transaction
import NknSdk.Lib.Utf8
import NknSdk.Lib.WireDecode

/-!
# Decoding messages

A reading of the messages that are sealed for a recipient, of those that a client and
its node exchange, of the message of a nanopay transaction and of the unsigned part of
any transaction: the fields are looked up by their numbers, the last one counts, and
what is missing has its default.
It is not in the source, where the decoder is a parameter; it shows that a decoder
which undoes `encode` exists, and with it that `encode` loses nothing.
-/

namespace NknSdk.Pb.Payloads

/-- A reading of the fields of a message. -/
def Message.ofFields (fs : List (Nat × Wire.Value)) : Message where
  payload := Wire.bytesOf 1 fs
  encrypted := Wire.uintOf 2 fs ≠ 0
  nonce := Wire.bytesOf 3 fs
  encryptedKey := Wire.bytesOf 4 fs

def Message.decode (data : Bytes) : Option Message := (Wire.fields data).map Message.ofFields

theorem Message.decode_encode (m : Message) : Message.decode m.encode = some m := by
  have hfields := (((Wire.Decodes.nil.bytesField 4 m.encryptedKey).bytesField 3 m.nonce).uintField 2
    m.encrypted.toNat).bytesField 1 m.payload
  have hencode : m.encode = Wire.bytesField 1 m.payload ++ (Wire.uintField 2 m.encrypted.toNat ++
      (Wire.bytesField 3 m.nonce ++ (Wire.bytesField 4 m.encryptedKey ++ []))) := by
    simp only [Message.encode, Wire.boolField, List.append_assoc, List.append_nil]
  rw [Message.decode, hencode, hfields.fields_eq, Option.map_some]
  have hencrypted : decide (m.encrypted.toNat ≠ 0) = m.encrypted := by cases m.encrypted <;> rfl
  simp only [Message.ofFields, Wire.bytesOf, Wire.uintOf, List.filterMap_append,
    Wire.bytesAt_bytesField, Wire.bytesAt_uintField, Wire.uintAt_bytesField, Wire.uintAt_uintField,
    List.nil_append, List.append_nil, Nat.reduceEqDiff, false_and, true_and,
    if_false, Wire.getLastD_bytes, Wire.getLastD_uint, hencrypted]

end NknSdk.Pb.Payloads

namespace NknSdk.Pb

/-- A reading of the fields of a nanopay message. -/
def NanoPay.ofFields (fs : List (Nat × Wire.Value)) : NanoPay where
  sender := Wire.bytesOf 1 fs
  recipient := Wire.bytesOf 2 fs
  id := UInt64.ofNat (Wire.uintOf 3 fs)
  amount := (UInt64.ofNat (Wire.uintOf 4 fs)).toInt64
  txnExpiration := UInt32.ofNat (Wire.uintOf 5 fs)
  nanoPayExpiration := UInt32.ofNat (Wire.uintOf 6 fs)

def NanoPay.decode (data : Bytes) : Option NanoPay := (Wire.fields data).map NanoPay.ofFields

theorem NanoPay.decode_encode (p : NanoPay) : NanoPay.decode p.encode = some p := by
  have hfields := (((((Wire.Decodes.nil.uintField 6 p.nanoPayExpiration.toNat).uintField 5
    p.txnExpiration.toNat).uintField 4 p.amount.toUInt64.toNat).uintField 3 p.id.toNat).bytesField 2
      p.recipient).bytesField 1 p.sender
  have hencode : p.encode = Wire.bytesField 1 p.sender ++ (Wire.bytesField 2 p.recipient ++
      (Wire.uintField 3 p.id.toNat ++ (Wire.uintField 4 p.amount.toUInt64.toNat ++
        (Wire.uintField 5 p.txnExpiration.toNat ++
          (Wire.uintField 6 p.nanoPayExpiration.toNat ++ []))))) := by
    simp only [NanoPay.encode, List.append_assoc, List.append_nil]
  rw [NanoPay.decode, hencode, hfields.fields_eq, Option.map_some]
  simp only [NanoPay.ofFields, Wire.bytesOf, Wire.uintOf, List.filterMap_append,
    Wire.bytesAt_bytesField, Wire.bytesAt_uintField, Wire.uintAt_bytesField, Wire.uintAt_uintField,
    List.nil_append, List.append_nil, Nat.reduceEqDiff, false_and, true_and,
    if_false, Wire.getLastD_bytes, Wire.getLastD_uint, UInt64.ofNat_toNat, UInt32.ofNat_toNat,
    Int64.toInt64_toUInt64]

theorem NanoPay.encode_injective : Function.Injective NanoPay.encode := by
  intro p q h
  have hread := NanoPay.decode_encode p
  rw [h, NanoPay.decode_encode] at hread
  exact (Option.some.inj hread).symm

/-- A reading of the fields of a payload. -/
def Payload.ofFields (fs : List (Nat × Wire.Value)) : Payload where
  type := (UInt64.ofNat (Wire.uintOf 1 fs)).toInt64.toInt32
  data := Wire.bytesOf 2 fs

def Payload.decode (data : Bytes) : Option Payload := (Wire.fields data).map Payload.ofFields

theorem Payload.decode_encode (p : Payload) : Payload.decode p.encode = some p := by
  have hfields :=
    (Wire.Decodes.nil.bytesField 2 p.data).uintField 1 p.type.toInt64.toUInt64.toNat
  have hencode : p.encode = Wire.uintField 1 p.type.toInt64.toUInt64.toNat ++
      (Wire.bytesField 2 p.data ++ []) := by
    simp only [Payload.encode, List.append_nil]
  rw [Payload.decode, hencode, hfields.fields_eq, Option.map_some]
  simp only [Payload.ofFields, Wire.bytesOf, Wire.uintOf, List.filterMap_append,
    Wire.bytesAt_bytesField, Wire.bytesAt_uintField, Wire.uintAt_bytesField, Wire.uintAt_uintField,
    List.nil_append, List.append_nil, true_and, Wire.getLastD_bytes, Wire.getLastD_uint,
    UInt64.ofNat_toNat, Int64.toInt64_toUInt64, Int32.toInt32_toInt64]

/-- A reading of the fields of the unsigned part of a transaction. -/
def UnsignedTx.ofFields (fs : List (Nat × Wire.Value)) : UnsignedTx where
  payload := (Wire.messageOf 1 fs).bind Payload.decode
  nonce := UInt64.ofNat (Wire.uintOf 2 fs)
  fee := (UInt64.ofNat (Wire.uintOf 3 fs)).toInt64
  attributes := Wire.bytesOf 4 fs

def UnsignedTx.decode (data : Bytes) : Option UnsignedTx :=
  (Wire.fields data).map UnsignedTx.ofFields

theorem UnsignedTx.decode_encode (u : UnsignedTx) : UnsignedTx.decode u.encode = some u := by
  have hfields := (((Wire.Decodes.nil.bytesField 4 u.attributes).uintField 3
    u.fee.toUInt64.toNat).uintField 2 u.nonce.toNat).messageField 1 (u.payload.map Payload.encode)
  have hencode : u.encode = (u.payload.map Payload.encode).elim [] (Wire.delimited 1) ++
      (Wire.uintField 2 u.nonce.toNat ++ (Wire.uintField 3 u.fee.toUInt64.toNat ++
        (Wire.bytesField 4 u.attributes ++ []))) := by
    simp only [UnsignedTx.encode, List.append_assoc, List.append_nil, Option.elim_map]
    rfl
  have hpayload : (u.payload.map Payload.encode).bind Payload.decode = u.payload := by
    cases u.payload with
    | none => rfl
    | some p => exact Payload.decode_encode p
  rw [UnsignedTx.decode, hencode, hfields.fields_eq, Option.map_some]
  simp only [UnsignedTx.ofFields, Wire.bytesOf, Wire.uintOf, Wire.messageOf,
    List.filterMap_append, Wire.bytesAt_bytesField, Wire.bytesAt_uintField,
    Wire.bytesAt_messageField, Wire.uintAt_bytesField, Wire.uintAt_uintField,
    Wire.uintAt_messageField, List.nil_append, List.append_nil, Nat.reduceEqDiff, false_and,
    true_and, if_true, if_false, Wire.getLastD_bytes, Wire.getLastD_uint, Wire.getLast?_message,
    UInt64.ofNat_toNat, Int64.toInt64_toUInt64, hpayload]

theorem UnsignedTx.encode_injective : Function.Injective UnsignedTx.encode := by
  intro u v h
  have hread := UnsignedTx.decode_encode u
  rw [h, UnsignedTx.decode_encode] at hread
  exact (Option.some.inj hread).symm

/-- The unsigned part and the programs can be told apart. -/
theorem Transaction.encode_injective : Function.Injective Transaction.encode := by
  intro t t' h
  have hfields : ∀ t : Transaction, Wire.fields t.encode =
      some (((t.unsignedTx.map UnsignedTx.encode).elim [] fun b => [(1, .bytes b)]) ++
        ((t.programs.map Program.encode).map fun b => (2, .bytes b)) ++ []) := by
    intro t
    have hdecodes := (Wire.Decodes.nil.repeated 2 (t.programs.map Program.encode)).messageField 1
      (t.unsignedTx.map UnsignedTx.encode)
    rw [List.append_assoc, ← hdecodes.fields_eq, Transaction.encode, List.flatMap_map,
      List.append_nil, Option.elim_map]
    rfl
  have hread := hfields t
  rw [h, hfields t', Option.some.injEq] at hread
  have hunsigned := congrArg (Wire.messageOf 1) hread
  have hprograms := congrArg (Wire.allOf 2) hread
  simp only [Wire.messageOf, Wire.allOf, List.filterMap_append, Wire.bytesAt_messageField,
    Wire.bytesAt_repeated, Nat.reduceEqDiff, if_true, if_false, List.filterMap_nil,
    List.append_nil, List.nil_append, Wire.getLast?_message] at hunsigned hprograms
  cases t
  cases t'
  rw [Transaction.mk.injEq]
  exact ⟨(Option.map_injective UnsignedTx.encode_injective hunsigned).symm,
    (List.map_injective_iff.mpr Program.encode_injective hprograms).symm⟩

/-! ## Between a client and its node -/

/-- A reading of the fields of a client message. -/
def ClientMessage.ofFields (fs : List (Nat × Wire.Value)) : ClientMessage where
  messageType := (UInt64.ofNat (Wire.uintOf 1 fs)).toInt64.toInt32
  message := Wire.bytesOf 2 fs
  compressionType := (UInt64.ofNat (Wire.uintOf 3 fs)).toInt64.toInt32

def ClientMessage.decode (data : Bytes) : Option ClientMessage :=
  (Wire.fields data).map ClientMessage.ofFields

theorem ClientMessage.decode_encode (m : ClientMessage) :
    ClientMessage.decode m.encode = some m := by
  have hfields := ((Wire.Decodes.nil.uintField 3 m.compressionType.toInt64.toUInt64.toNat).bytesField
    2 m.message).uintField 1 m.messageType.toInt64.toUInt64.toNat
  have hencode : m.encode = Wire.uintField 1 m.messageType.toInt64.toUInt64.toNat ++
      (Wire.bytesField 2 m.message ++
        (Wire.uintField 3 m.compressionType.toInt64.toUInt64.toNat ++ [])) := by
    simp only [ClientMessage.encode, List.append_assoc, List.append_nil]
  rw [ClientMessage.decode, hencode, hfields.fields_eq, Option.map_some]
  simp only [ClientMessage.ofFields, Wire.bytesOf, Wire.uintOf, List.filterMap_append,
    Wire.bytesAt_bytesField, Wire.bytesAt_uintField, Wire.uintAt_bytesField, Wire.uintAt_uintField,
    List.nil_append, List.append_nil, Nat.reduceEqDiff, false_and, true_and, if_false,
    Wire.getLastD_bytes, Wire.getLastD_uint, UInt64.ofNat_toNat, Int64.toInt64_toUInt64,
    Int32.toInt32_toInt64]

/-- A reading of the fields of a receipt. -/
def Receipt.ofFields (fs : List (Nat × Wire.Value)) : Receipt where
  prevHash := Wire.bytesOf 1 fs
  signature := Wire.bytesOf 2 fs

def Receipt.decode (data : Bytes) : Option Receipt := (Wire.fields data).map Receipt.ofFields

theorem Receipt.decode_encode (r : Receipt) : Receipt.decode r.encode = some r := by
  have hfields := (Wire.Decodes.nil.bytesField 2 r.signature).bytesField 1 r.prevHash
  have hencode : r.encode =
      Wire.bytesField 1 r.prevHash ++ (Wire.bytesField 2 r.signature ++ []) := by
    rw [Receipt.encode, List.append_nil]
  rw [Receipt.decode, hencode, hfields.fields_eq, Option.map_some]
  simp only [Receipt.ofFields, Wire.bytesOf, List.filterMap_append, Wire.bytesAt_bytesField,
    List.append_nil, List.nil_append, Nat.reduceEqDiff, false_and, true_and, if_false,
    Wire.getLastD_bytes]

/-- A reading of the fields of an inbound message, whose source has to be text. -/
def InboundMessage.ofFields (fs : List (Nat × Wire.Value)) : Option InboundMessage :=
  (Utf8.strict (Wire.bytesOf 1 fs)).map fun src =>
    { src, payload := Wire.bytesOf 2 fs, prevHash := Wire.bytesOf 3 fs }

def InboundMessage.decode (data : Bytes) : Option InboundMessage :=
  (Wire.fields data).bind InboundMessage.ofFields

end NknSdk.Pb
