import NknSdk.Lib.Utf8
import NknSdk.Lib.WireDecode
import NknSdk.Pb.Packet

/-!
# Decoding session packets

A reading of the fields of a packet.  The client ids have to be text.  As for the other
messages it is not in the source; it shows that a decoder which undoes `encode` exists.
-/

namespace NknSdk.Pb

/-- A reading of the fields of a packet. -/
def Packet.ofFields (fs : List (Nat × Wire.Value)) : Option Packet := do
  let ackStartSeq ← Wire.packedOf 3 fs
  let ackSeqCount ← Wire.packedOf 4 fs
  let clientIds ← (Wire.allOf 6 fs).mapM Utf8.strict
  some
    { sequenceId := UInt32.ofNat (Wire.uintOf 1 fs)
      data := Wire.bytesOf 2 fs
      ackStartSeq := ackStartSeq.map UInt32.ofNat
      ackSeqCount := ackSeqCount.map UInt32.ofNat
      bytesRead := UInt64.ofNat (Wire.uintOf 5 fs)
      clientIds
      windowSize := UInt32.ofNat (Wire.uintOf 7 fs)
      mtu := UInt32.ofNat (Wire.uintOf 8 fs)
      close := Wire.uintOf 9 fs ≠ 0
      handshake := Wire.uintOf 10 fs ≠ 0 }

def Packet.decode (data : Bytes) : Option Packet := (Wire.fields data).bind Packet.ofFields

theorem mapM_strict_toUTF8 (ids : List String) :
    (ids.map fun id => id.toUTF8.toList).mapM Utf8.strict = some ids := by
  induction ids with
  | nil => rfl
  | cons id ids ih =>
      rw [List.map_cons, List.mapM_cons, Utf8.strict_toUTF8, ih]
      rfl

theorem map_ofNat_toNat (ns : List UInt32) : (ns.map UInt32.toNat).map UInt32.ofNat = ns := by
  rw [List.map_map]
  exact List.map_id'' (fun n => UInt32.ofNat_toNat) ns

/-- The fields of an encoded packet. -/
def Packet.fields (p : Packet) : List (Nat × Wire.Value) :=
  let packed (number : Nat) (ns : List UInt32) : List (Nat × Wire.Value) :=
    let body := (ns.map UInt32.toNat).flatMap Wire.varint
    if body = [] then [] else [(number, .bytes body)]
  let uint (number n : Nat) : List (Nat × Wire.Value) :=
    if n = 0 then [] else [(number, .varint n)]
  uint 1 p.sequenceId.toNat ++ ((if p.data = [] then [] else [(2, .bytes p.data)]) ++
    (packed 3 p.ackStartSeq ++ (packed 4 p.ackSeqCount ++ (uint 5 p.bytesRead.toNat ++
      ((p.clientIds.map fun id => id.toUTF8.toList).map (fun b => (6, Wire.Value.bytes b)) ++
        (uint 7 p.windowSize.toNat ++ (uint 8 p.mtu.toNat ++ (uint 9 p.close.toNat ++
          (uint 10 p.handshake.toNat ++ [])))))))))

theorem Packet.fields_encode (p : Packet) : Wire.fields p.encode = some p.fields := by
  have hfields := (((((((((Wire.Decodes.nil.uintField 10 p.handshake.toNat).uintField 9
    p.close.toNat).uintField 8 p.mtu.toNat).uintField 7 p.windowSize.toNat).repeated 6
      (p.clientIds.map fun id => id.toUTF8.toList)).uintField 5 p.bytesRead.toNat).bytesField 4
        ((p.ackSeqCount.map UInt32.toNat).flatMap Wire.varint)).bytesField 3
          ((p.ackStartSeq.map UInt32.toNat).flatMap Wire.varint)).bytesField 2 p.data).uintField 1
            p.sequenceId.toNat
  refine Eq.trans (congrArg Wire.fields ?_) hfields.fields_eq
  simp only [Packet.encode, Wire.packedField, Wire.boolField, List.append_assoc, List.append_nil,
    List.flatMap_map]

/-- Decoding undoes encoding. -/
theorem Packet.decode_encode (p : Packet) : Packet.decode p.encode = some p := by
  have hclose : decide (p.close.toNat ≠ 0) = p.close := by cases p.close <;> rfl
  have hhandshake : decide (p.handshake.toNat ≠ 0) = p.handshake := by cases p.handshake <;> rfl
  rw [Packet.decode, Packet.fields_encode, Option.bind_some]
  simp only [Packet.ofFields, Packet.fields, Wire.packedOf, Wire.allOf, Wire.bytesOf, Wire.uintOf,
    List.filterMap_append, List.filterMap_nil, Wire.bytesAt_bytesField, Wire.bytesAt_uintField,
    Wire.uintAt_bytesField, Wire.uintAt_uintField, Wire.bytesAt_repeated, Wire.uintAt_repeated,
    List.nil_append, List.append_nil, Nat.reduceEqDiff, false_and, true_and, if_true, if_false,
    Wire.getLastD_bytes, Wire.getLastD_uint, Wire.varints_flatMap, mapM_strict_toUTF8,
    Option.bind_eq_bind, Option.bind_some, map_ofNat_toNat, UInt32.ofNat_toNat, UInt64.ofNat_toNat,
    hclose, hhandshake]

end NknSdk.Pb
