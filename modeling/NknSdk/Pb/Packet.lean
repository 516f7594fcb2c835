import NknSdk.Lib.Wire

/-!
# Session packets

The message of `protos/packet.proto` and its encoding.  One type carries
handshakes, closes, data, acks and window updates, told apart by which fields
are set.
-/

namespace NknSdk.Pb

structure Packet where
  sequenceId : UInt32 := 0
  data : Bytes := []
  ackStartSeq : List UInt32 := []
  ackSeqCount : List UInt32 := []
  bytesRead : UInt64 := 0
  clientIds : List String := []
  windowSize : UInt32 := 0
  mtu : UInt32 := 0
  close : Bool := false
  handshake : Bool := false
deriving DecidableEq, Repr

def Packet.encode (p : Packet) : Bytes :=
  Wire.uintField 1 p.sequenceId.toNat ++
    Wire.bytesField 2 p.data ++
    Wire.packedField 3 (p.ackStartSeq.map UInt32.toNat) ++
    Wire.packedField 4 (p.ackSeqCount.map UInt32.toNat) ++
    Wire.uintField 5 p.bytesRead.toNat ++
    (p.clientIds.flatMap fun id => Wire.delimited 6 id.toUTF8.toList) ++
    Wire.uintField 7 p.windowSize.toNat ++
    Wire.uintField 8 p.mtu.toNat ++
    Wire.boolField 9 p.close ++
    Wire.boolField 10 p.handshake

/-- The data of a packet is written in full. -/
theorem Packet.data_length_le_encode (p : Packet) : p.data.length ≤ p.encode.length := by
  have hfield : p.data.length ≤ (Wire.bytesField 2 p.data).length := by
    unfold Wire.bytesField
    split
    next hempty => simp [hempty]
    next =>
      simp only [Wire.delimited, List.length_append]
      omega
  simp only [Packet.encode, List.length_append]
  omega

end NknSdk.Pb
