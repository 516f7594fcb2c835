import NknSdk.Lib.Machine
import NknSdk.Lib.Table
import NknSdk.Session.Connection

/-!
# Sessions

`Session` of `src/session.rs`: what one side of a session keeps, and the calls on
it.  Each call is an `Exec` over the session.  It blocks where the source waits
for a channel that nothing in the call itself will serve: a full channel on a
send, and a full send window.

The send buffer is an array of 1024 bytes and carries no length.

`ackRanges` is not in the source.  It records the bounds of each round of the ack
loop of `receive_with`, before they are cut to the send window.
-/

namespace NknSdk.Ncp

open Exec

/-! ## The state -/

/-- `session::NcpConfig`, the entries that the calls here read. -/
structure NcpConfig where
  nonStream : Bool := true
  mtu : Int32 := 1024

def sendBufferLen : Nat := 1024

/-- `session::Session`. -/
structure Session where
  config : NcpConfig
  localClientIds : List String
  remoteClientIds : List String
  sendWindowSize : UInt32
  recvWindowSize : UInt32
  sendMtu : UInt32
  recvMtu : UInt32
  connections : AList fun _ : String => Connection
  isEstablished : Bool
  isClosed : Bool
  sendBuffer : Vector UInt8 sendBufferLen
  sendWindowStartSeq : UInt32
  sendWindowEndSeq : UInt32
  sendWindowData : AList fun _ : UInt32 => Bytes
  recvWindowStartSeq : UInt32
  recvWindowUsed : UInt32
  recvWindowData : AList fun _ : UInt32 => Bytes
  bytesWrite : UInt64
  bytesRead : UInt64
  remoteBytesRead : UInt64
  sendWindowPacketCount : ℚ
  /-- The sequence number waiting in `send_chan`. -/
  sendChan : Option UInt32
  sendWindowUpdate : Bool
  recvDataUpdate : Bool
  onAccept : Bool
  ackRanges : List (UInt32 × UInt32)

namespace Session

/-- `Session::new`. -/
def new (config : NcpConfig) (localClientIds remoteClientIds : List String) : Session where
  config
  localClientIds
  remoteClientIds
  sendWindowSize := (4 : UInt32) <<< (20 : UInt32)
  recvWindowSize := (4 : UInt32) <<< (20 : UInt32)
  sendMtu := config.mtu.toUInt32
  recvMtu := config.mtu.toUInt32
  connections := ∅
  isEstablished := false
  isClosed := false
  sendBuffer := Vector.replicate sendBufferLen 0
  sendWindowStartSeq := minSequenceId
  sendWindowEndSeq := minSequenceId
  sendWindowData := ∅
  recvWindowStartSeq := minSequenceId
  recvWindowUsed := 0
  recvWindowData := ∅
  bytesWrite := 0
  bytesRead := 0
  remoteBytesRead := 0
  sendWindowPacketCount := 0
  sendChan := none
  sendWindowUpdate := false
  recvDataUpdate := false
  onAccept := false
  ackRanges := []

/-- `Session::is_stream`. -/
def isStream (s : Session) : Bool := !s.config.nonStream

/-- `Session::send_window_used`. -/
def sendWindowUsed (s : Session) : UInt32 :=
  (if s.remoteBytesRead ≤ s.bytesWrite then s.bytesWrite - s.remoteBytesRead else 0).toUInt32

end Session

abbrev Call (α : Type) : Type := Exec NcpError Session α

/-! ## Handshake and close -/

/-- The connections of a handshake, one for each pair of clients. -/
def handshakeConnections (localClientIds clientIds : List String) (initialWindowSize : ℚ) :
    AList fun _ : String => Connection :=
  (localClientIds.zip clientIds).foldl
    (fun connections ids =>
      connections.insert (connKey ids.1 ids.2) (Connection.new ids.1 ids.2 initialWindowSize)) ∅

/-- `Session::handle_handshake_packet`. -/
def handleHandshakePacket (packet : Pb.Packet) : Call Unit := do
  let s ← get
  if s.isEstablished then return ()
  else if packet.windowSize = 0 then return ()
  else
    when (packet.windowSize < s.sendWindowSize)
      (modify fun s => { s with sendWindowSize := packet.windowSize })
    if packet.mtu = 0 then return ()
    else
      when (packet.mtu < s.sendMtu) (modify fun s => { s with sendMtu := packet.mtu })
      modify fun s =>
        { s with sendWindowPacketCount := (s.sendWindowSize.toNat : ℚ) / s.sendMtu.toNat }
      if packet.clientIds = [] then return ()
      else
        modify fun s =>
          let n := min s.localClientIds.length packet.clientIds.length
          { s with
            connections := handshakeConnections s.localClientIds packet.clientIds
              (s.sendWindowPacketCount / n)
            remoteClientIds := packet.clientIds
            isEstablished := true }
        let s ← get
        if s.onAccept then block
        else modify fun s => { s with onAccept := true }

/-- `Session::handle_close_packet`. -/
def handleClosePacket : Call Unit := do
  let s ← get
  if s.isEstablished then modify fun s => { s with isClosed := true }
  else return ()

/-! ## Writing -/

/-- `Session::wait_for_send_window`. -/
def waitForSendWindow (o : Overflow) (n : UInt32) : Call UInt32 := do
  let s ← get
  let needed ← addU32 o s.sendWindowUsed n
  if s.sendWindowSize < needed then block
  else subU32 o s.sendWindowSize s.sendWindowUsed

/-- `copy_from_slice` into the start of the send buffer. -/
def copyToBuffer (sendBuffer : Vector UInt8 sendBufferLen) (buf : Bytes)
    (h : buf.length ≤ sendBufferLen) : Vector UInt8 sendBufferLen :=
  ⟨(buf ++ sendBuffer.toList.drop buf.length).toArray, by simp; omega⟩

/-- Copy `buf` into the send buffer.  A slice longer than the buffer panics. -/
def fillSendBuffer (buf : Bytes) : Call Unit :=
  if h : buf.length ≤ sendBufferLen then
    modify fun s => { s with sendBuffer := copyToBuffer s.sendBuffer buf h }
  else panic

/-- The packet that carries the whole send buffer. -/
def dataPacket (seq : UInt32) (sendBuffer : Vector UInt8 sendBufferLen) : Pb.Packet :=
  { sequenceId := seq, data := sendBuffer.toList }

/-- `Session::flush_send_buffer`. -/
def flushSendBuffer : Call Unit := do
  let s ← get
  if s.sendBuffer.size = 0 then return ()
  else
    let seq := s.sendWindowEndSeq
    let buf := (dataPacket seq s.sendBuffer).encode
    modify fun s => { s with sendWindowData := s.sendWindowData.insert seq buf }
    modify fun s => { s with sendWindowEndSeq := nextSeq seq 1 }
    modify fun s => { s with sendBuffer := Vector.replicate sendBufferLen 0 }
    if s.sendChan.isSome then block
    else modify fun s => { s with sendChan := some seq }

/-- The checks at the start of `write`. -/
def writeError (s : Session) (buf : Bytes) : Option NcpError :=
  if s.isEstablished = false then some .sessionNotEstablished
  else if s.isClosed then some .sessionClosed
  else if buf = [] then some .bufferEmpty
  else if (s.isStream = false ∧ s.sendMtu.toNat < buf.length) ∨
      s.sendWindowSize.toNat < buf.length then
    some .bufferTooLarge
  else none

/-- `Session::write`. -/
def write (o : Overflow) (buf : Bytes) : Call Nat := do
  let s ← get
  match writeError s buf with
  | some e => throw e
  | none =>
      if s.isStream then return 0
      else
        let _ ← waitForSendWindow o (UInt32.ofNat buf.length)
        fillSendBuffer buf
        let s ← get
        let bytesWrite ← addU64 o s.bytesWrite (UInt64.ofNat buf.length)
        modify fun s => { s with bytesWrite }
        flushSendBuffer
        return buf.length

/-! ## What a write does -/

/-- After a flush of `sendBuffer`. -/
def Session.flushed (s : Session) (sendBuffer : Vector UInt8 sendBufferLen) : Session :=
  { s with
    sendWindowData :=
      s.sendWindowData.insert s.sendWindowEndSeq (dataPacket s.sendWindowEndSeq sendBuffer).encode
    sendWindowEndSeq := nextSeq s.sendWindowEndSeq 1
    sendBuffer := Vector.replicate sendBufferLen 0
    sendChan := some s.sendWindowEndSeq }

variable {s s' : Session}

/-- A flush that returns has put the whole buffer into the send window, and found
room in the channel. -/
theorem flushSendBuffer_ok {u : Unit} (h : flushSendBuffer s = (.ok u, s')) :
    s' = s.flushed s.sendBuffer ∧ s.sendChan.isSome = false := by
  have hsize : ¬ s.sendBuffer.size = 0 := by
    show ¬ sendBufferLen = 0
    decide
  rw [flushSendBuffer, get_bind_apply, if_neg hsize] at h
  simp only [modify_bind_apply] at h
  split at h
  next => cases h
  next hchan => cases h; exact ⟨rfl, Bool.not_eq_true _ ▸ hchan⟩

/-- Waiting for the send window changes nothing. -/
theorem waitForSendWindow_ok {o : Overflow} {n m : UInt32}
    (h : waitForSendWindow o n s = (.ok m, s')) : s' = s := by
  rw [waitForSendWindow, get_bind_apply] at h
  obtain ⟨-, h₁⟩ := arith_bind_eq h (by simp)
  split at h₁
  next => cases h₁
  next => exact (arith_ok h₁).2

theorem ne_nil_of_writeError {buf : Bytes} (h : writeError s buf = none) : buf ≠ [] := by
  rintro rfl
  unfold writeError at h
  split at h
  next => cases h
  next =>
    split at h
    next => cases h
    next => cases h

/-- A write that returns has copied its bytes over the start of the buffer, which
it then flushed as a whole. -/
theorem write_ok {o : Overflow} {buf : Bytes} {n : Nat} (hstream : s.isStream = false)
    (h : write o buf s = (.ok n, s')) :
    buf ≠ [] ∧ ∃ hlen : buf.length ≤ sendBufferLen, ∃ bytesWrite,
      s' = { s with bytesWrite }.flushed (copyToBuffer s.sendBuffer buf hlen) := by
  rw [write, get_bind_apply] at h
  cases herr : writeError s buf with
  | some e =>
      rw [herr] at h
      cases h
  | none =>
      rw [herr] at h
      simp only [hstream] at h
      obtain ⟨_, s₁, hwait, h₁⟩ := bind_eq_ok h
      obtain rfl := waitForSendWindow_ok hwait
      obtain ⟨_, s₂, hfill, h₂⟩ := bind_eq_ok h₁
      unfold fillSendBuffer at hfill
      split at hfill
      next hlen =>
        cases hfill
        rw [get_bind_apply] at h₂
        obtain ⟨-, h₃⟩ := arith_bind_eq h₂ (by simp)
        rw [modify_bind_apply] at h₃
        obtain ⟨_, s₃, hflush, h₄⟩ := bind_eq_ok h₃
        obtain ⟨rfl, -⟩ := flushSendBuffer_ok hflush
        cases h₄
        exact ⟨ne_nil_of_writeError herr, hlen, _, rfl⟩
      next => cases hfill

end NknSdk.Ncp
