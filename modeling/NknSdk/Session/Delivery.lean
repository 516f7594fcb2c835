import NknSdk.Session.Runs

/-!
# From one side to the other

What one side writes should end up in the receive window of the other.  The
packet of a write carries the whole send buffer of 1024 bytes, and `receive_with`
takes no packet of more than ten: it returns before it has looked at the packet
(`write_not_delivered`).
-/

namespace NknSdk.Ncp

open Exec

/-- The data `buf` with the number `seq` has come in, and nothing else has changed
in the receive window. -/
structure Delivered (buf : Bytes) (seq : UInt32) (before after : Session) : Prop where
  stored : after.recvWindowData.lookup seq = some buf
  used : after.recvWindowUsed.toNat = before.recvWindowUsed.toNat + buf.length
  others : ∀ other, other ≠ seq →
    after.recvWindowData.lookup other = before.recvWindowData.lookup other

/-- A data packet is longer than what `receive_with` takes. -/
theorem maxReceiveLen_lt_dataPacket (seq : UInt32) (sendBuffer : Vector UInt8 sendBufferLen) :
    maxReceiveLen < (dataPacket seq sendBuffer).encode.length := by
  have hdata := (dataPacket seq sendBuffer).data_length_le_encode
  have hlen : (dataPacket seq sendBuffer).data.length = 1024 := Vector.length_toList
  rw [hlen] at hdata
  have hmax : maxReceiveLen = 10 := rfl
  omega

/-- What a write puts into the send window is delivered to no session: whatever
the state of the receiver, it drops the packet. -/
theorem write_not_delivered (d : Deps) (a a' : Session) (buf : Bytes) (n : Nat)
    (hstream : a.isStream = false) (hwrite : write d.overflow buf a = (.ok n, a')) :
    ∃ bytes, a'.sendWindowData = a.sendWindowData.insert a.sendWindowEndSeq bytes ∧
      ∀ (localClientId remoteClientId : String) (b : Session),
        ¬ Delivered buf a.sendWindowEndSeq b
          (receiveWith d localClientId remoteClientId bytes b).2 := by
  obtain ⟨hne, hlen, bytesWrite, rfl⟩ := write_ok hstream hwrite
  refine ⟨(dataPacket a.sendWindowEndSeq (copyToBuffer a.sendBuffer buf hlen)).encode, rfl, ?_⟩
  intro localClientId remoteClientId b hdelivered
  have hdrop : receiveWith d localClientId remoteClientId
      (dataPacket a.sendWindowEndSeq (copyToBuffer a.sendBuffer buf hlen)).encode b =
        (.ok (), b) := by
    rw [receiveWith, if_pos (maxReceiveLen_lt_dataPacket _ _)]
    rfl
  rw [hdrop] at hdelivered
  have hused : b.recvWindowUsed.toNat = b.recvWindowUsed.toNat + buf.length := hdelivered.used
  have hpos : 0 < buf.length := List.length_pos_iff.mpr hne
  omega

/-- That session after a write of one byte. -/
def sampleWritten : Session := (write .checked [7] sampleEstablished).2

theorem sampleWritten_eq : write .checked [7] sampleEstablished = (.ok 1, sampleWritten) :=
  Prod.ext (by decide +kernel) rfl

theorem byte_not_delivered :
    sampleEstablished.isEstablished = true ∧
      ∃ bytes, sampleWritten.sendWindowData = sampleEstablished.sendWindowData.insert
          sampleEstablished.sendWindowEndSeq bytes ∧
        ¬ Delivered [7] sampleEstablished.sendWindowEndSeq sampleEstablished
          (receiveWith sampleDeps "a" "b" bytes sampleEstablished).2 := by
  obtain ⟨bytes, hentry, hnot⟩ := write_not_delivered sampleDeps sampleEstablished
    sampleWritten [7] 1 (by decide +kernel) sampleWritten_eq
  exact ⟨by decide +kernel, bytes, hentry, hnot "a" "b" sampleEstablished⟩

/-- One byte is written with success, and the receiver has room for it, but it
does not come in. -/
theorem written_byte_dropped :
    write .checked [7] sampleEstablished = (.ok 1, sampleWritten) ∧
      sampleEstablished.isEstablished = true ∧
      sampleEstablished.sendMtu ≤ sampleEstablished.recvMtu ∧
      0 ≤ compareSeq 1 sampleEstablished.recvWindowStartSeq ∧
      sampleEstablished.recvWindowData.lookup 1 = none ∧
      sampleEstablished.recvWindowUsed.toNat + 1 ≤ sampleEstablished.recvWindowSize.toNat ∧
      ∃ bytes, sampleWritten.sendWindowData.lookup 1 = some bytes ∧
        ¬ Delivered [7] 1 sampleEstablished
          (receiveWith sampleDeps "a" "b" bytes sampleEstablished).2 := by
  refine ⟨sampleWritten_eq, by decide +kernel, by decide +kernel, by decide +kernel,
    by decide +kernel, by decide +kernel,
    (dataPacket 1 (copyToBuffer (Vector.replicate sendBufferLen 0) [7] (by decide))).encode, ?_, ?_⟩
  · decide +kernel
  · intro hdelivered
    have hnone : (receiveWith sampleDeps "a" "b" (dataPacket 1 (copyToBuffer
        (Vector.replicate sendBufferLen 0) [7] (by decide))).encode
          sampleEstablished).2.recvWindowData.lookup 1 = none := by
      decide +kernel
    rw [hdelivered.stored] at hnone
    cases hnone

end NknSdk.Ncp
