import NknSdk.Session.Session

/-!
# Receiving and reading

`Session::receive_with` and `Session::read`.  A packet may carry acks, a count of
bytes read and data, and `receive_with` takes them in this order.  It is cut here
into `receiveAcks`, `receiveBytesRead` and `receiveData`, where a `Bool` result
says whether the source goes on or has returned.

The ack loop has two loops inside.  The first walks from the start of a range to
its end.  Its test calls `seq_in_between` with the arguments in another order than
that function has them, and fails at once (`ackSeqLoop_eq`).  The second moves the
start of the send window over the packets that are gone (`advance`).  The numbers
of a walk repeat only after the whole circle, so that a walk of more than `2 ^ 32`
steps never ends.
-/

namespace NknSdk.Ncp

open Exec

/-! ## Acks -/

/-- Run a call of a connection on the one under `key`. -/
def onConnection (key : String) (m : Exec NcpError Connection Unit) : Call Unit := fun s =>
  match s.connections.lookup key with
  | none => (.ok (), s)
  | some conn => ((m conn).1, { s with connections := s.connections.insert key (m conn).2 })

/-- The number of rounds of the ack loop. -/
def ackCount (p : Pb.Packet) : Nat :=
  if p.ackSeqCount ≠ [] then p.ackStartSeq.length else p.ackSeqCount.length

/-- The start of a range.  An index out of bounds panics. -/
def ackStart (p : Pb.Packet) (i : Nat) : Call UInt32 :=
  if p.ackStartSeq ≠ [] then unwrap p.ackStartSeq[i]? else pure minSequenceId

/-- The end of a range that starts at `ackStartSeq`. -/
def ackEnd (p : Pb.Packet) (i : Nat) (ackStartSeq : UInt32) : Call UInt32 :=
  if p.ackSeqCount ≠ [] then do
    let count ← unwrap p.ackSeqCount[i]?
    return nextSeq ackStartSeq count.toNat
  else pure (nextSeq ackStartSeq 1)

/-- The loop over the numbers of a range, with `fuel` rounds left. -/
def ackSeqLoop (d : Deps) (ackStartSeq ackEndSeq : UInt32) : Nat → UInt32 → Call Unit
  | 0, _ => block
  | fuel + 1, seq =>
      if seqInBetween ackStartSeq ackEndSeq seq then do
        let s ← get
        s.connections.keys.forM fun key =>
          onConnection key do
            let conn ← get
            Connection.receiveAck d seq (key = connKey conn.localClientId conn.remoteClientId)
        modify fun s => { s with sendWindowData := s.sendWindowData.erase seq }
        ackSeqLoop d ackStartSeq ackEndSeq fuel (nextSeq seq 1)
      else pure ()

/-- The loop that moves the start of the send window, with `fuel` rounds left. -/
def advance (sendWindowData : AList fun _ : UInt32 => Bytes) (sendWindowEndSeq : UInt32) :
    Nat → UInt32 → Option UInt32
  | 0, _ => none
  | fuel + 1, start =>
      let start := nextSeq start 1
      if (sendWindowData.lookup start).isNone then some start
      else if start = sendWindowEndSeq then some start
      else advance sendWindowData sendWindowEndSeq fuel start

/-- More rounds than there are sequence numbers. -/
def loopFuel : Nat := 2 ^ 32

/-- Move the start of the send window, if the range starts there. -/
def advanceWindow (ackStartSeq : UInt32) : Call Unit := do
  let s ← get
  if ackStartSeq = s.sendWindowStartSeq then
    match advance s.sendWindowData s.sendWindowEndSeq loopFuel s.sendWindowStartSeq with
    | some sendWindowStartSeq => modify fun s => { s with sendWindowStartSeq }
    | none => block
  else pure ()

/-- A range that starts outside the send window is cut at its start. -/
def clampStart (s : Session) (ackStartSeq : UInt32) : UInt32 :=
  if seqInBetween s.sendWindowStartSeq s.sendWindowEndSeq ackStartSeq then ackStartSeq
  else s.sendWindowStartSeq

/-- What a round of the ack loop does with its range. -/
def applyAck (d : Deps) (ackStartSeq ackEndSeq : UInt32) : Call Unit := do
  let s ← get
  if seqInBetween s.sendWindowStartSeq s.sendWindowEndSeq (nextSeq ackEndSeq (-1)) then
    let ackStartSeq := clampStart s ackStartSeq
    ackSeqLoop d ackStartSeq ackEndSeq loopFuel ackStartSeq
    advanceWindow ackStartSeq
  else pure ()

/-- One round of the ack loop. -/
def ackRound (d : Deps) (p : Pb.Packet) (i : Nat) : Call Unit := do
  let ackStartSeq ← ackStart p i
  let ackEndSeq ← ackEnd p i ackStartSeq
  modify fun s => { s with ackRanges := s.ackRanges ++ [(ackStartSeq, ackEndSeq)] }
  applyAck d ackStartSeq ackEndSeq

/-- `Session::update_conn_window_size`. -/
def updateConnWindowSize : Call Unit := do
  let s ← get
  let totalSize := (s.connections.entries.map fun e => e.2.windowSize).sum
  if totalSize ≤ 0 then pure ()
  else
    modify fun s => { s with
      connections := s.connections.mapValues fun conn =>
        conn.setWindowSize (s.sendWindowPacketCount * (conn.windowSize / totalSize)) 1 }

/-- The ack loop.  Lists of two lengths end the call. -/
def ackLoop (d : Deps) (p : Pb.Packet) : Call Bool := do
  if p.ackStartSeq.length ≠ p.ackSeqCount.length ∧ p.ackStartSeq ≠ [] ∧ p.ackSeqCount ≠ [] then
    return false
  else
    (List.range (ackCount p)).forM (ackRound d p)
    updateConnWindowSize
    return true

/-- The ack part of `receive_with`. -/
def receiveAcks (d : Deps) (isEstablished : Bool) (p : Pb.Packet) : Call Bool :=
  if isEstablished ∧ (p.ackStartSeq ≠ [] ∨ p.ackSeqCount ≠ []) then ackLoop d p
  else pure true

/-! ## Data -/

/-- The part of `receive_with` on the bytes the other side has read. -/
def receiveBytesRead (p : Pb.Packet) : Call Unit := do
  let s ← get
  if s.remoteBytesRead < p.bytesRead then
    modify fun s => { s with remoteBytesRead := p.bytesRead }
    if s.sendWindowUpdate then block
    else modify fun s => { s with sendWindowUpdate := true }
  else pure ()

/-- Store the data of a packet whose number is in the receive window and already
there.  A full window ends the call. -/
def storeData (o : Overflow) (p : Pb.Packet) : Call Bool := do
  let s ← get
  if 0 ≤ compareSeq p.sequenceId s.recvWindowStartSeq ∧
      (s.recvWindowData.lookup p.sequenceId).isSome then
    let used ← addU32 o s.recvWindowUsed (UInt32.ofNat p.data.length)
    if s.recvWindowSize < used then return false
    else
      modify fun s => { s with recvWindowData := s.recvWindowData.insert p.sequenceId p.data }
      let recvWindowUsed ← addU32 o s.recvWindowUsed (UInt32.ofNat p.data.length)
      modify fun s => { s with recvWindowUsed }
      when (p.sequenceId = s.recvWindowStartSeq)
        (modify fun s => { s with recvDataUpdate := false })
      return true
  else return true

/-- Put a sequence number on the queue of the connection it came by. -/
def queueAck (localClientId remoteClientId : String) (seq : UInt32) : Call Unit := do
  let s ← get
  let key := connKey localClientId remoteClientId
  match s.connections.lookup key with
  | some conn =>
      modify fun s => { s with connections := s.connections.insert key (conn.sendAck seq) }
  | none => pure ()

/-- The data part of `receive_with`. -/
def receiveData (d : Deps) (localClientId remoteClientId : String) (p : Pb.Packet) :
    Call Unit := do
  let s ← get
  if s.recvMtu.toNat < p.data.length then return ()
  else
    let goOn ← storeData d.overflow p
    if goOn then queueAck localClientId remoteClientId p.sequenceId
    else return ()

/-! ## The calls -/

/-- What `receive_with` does with a decoded packet. -/
def receivePacket (d : Deps) (localClientId remoteClientId : String) (p : Pb.Packet) :
    Call Unit := do
  if p.close then handleClosePacket
  else
    let s ← get
    let isEstablished := s.isEstablished
    when (isEstablished = false ∧ p.handshake) (handleHandshakePacket p)
    let goOn ← receiveAcks d isEstablished p
    if goOn then
      when isEstablished (receiveBytesRead p)
      when (isEstablished ∧ 0 < p.sequenceId) (receiveData d localClientId remoteClientId p)
    else return ()

/-- The longest buffer that `receive_with` takes. -/
def maxReceiveLen : Nat := 10

/-- `Session::receive_with`. -/
def receiveWith (d : Deps) (localClientId remoteClientId : String) (buf : Bytes) :
    Call Unit := do
  if maxReceiveLen < buf.length then return ()
  else
    let p ← unwrap (d.decodePacket buf)
    receivePacket d localClientId remoteClientId p

/-- How a round of the loop of `read` ends. -/
inductive ReadRound where
  /-- The loop is left. -/
  | leave
  /-- The buffer is too small, and the call returns `0`. -/
  | tooSmall
  /-- These bytes were copied to the start of the buffer. -/
  | copied (bytes : Bytes)

/-- Take the data at the start of the receive window.  A stream waits for ever
where the buffer of `len` bytes is not full. -/
def takeData (o : Overflow) (len : Nat) (data : Bytes) : Call ReadRound := do
  let s ← get
  if s.isStream = false ∧ len < data.length then return .tooSmall
  else
    modify fun s =>
      if len ≤ data.length then
        { s with recvWindowData := s.recvWindowData.insert s.recvWindowStartSeq (data.drop len) }
      else
        { s with
          recvWindowData := s.recvWindowData.erase s.recvWindowStartSeq
          recvWindowStartSeq := nextSeq s.recvWindowStartSeq 1 }
    let received := data.take len
    let recvWindowUsed ← subU32 o s.recvWindowUsed (UInt32.ofNat received.length)
    modify fun s => { s with recvWindowUsed }
    let bytesRead ← addU64 o s.bytesRead (UInt64.ofNat received.length)
    modify fun s => { s with bytesRead }
    if s.isStream ∧ received.length < len then block
    else return .copied received

/-- One round of the loop of `read` into a buffer of `len` bytes.  It waits for an
update where there is no data, and takes the data that is there after it. -/
def readRound (o : Overflow) (len : Nat) : Call ReadRound := do
  let s ← get
  if (s.recvWindowData.lookup s.recvWindowStartSeq).isSome then return .leave
  else
    modify fun s => { s with recvDataUpdate := false }
    let data ← unwrap (s.recvWindowData.lookup s.recvWindowStartSeq)
    takeData o len data

/-- The loop of `read`, with `fuel` rounds left and `received` copied so far. -/
def readLoop (o : Overflow) (len : Nat) : Nat → Bytes → Call Bytes
  | 0, _ => block
  | fuel + 1, received => do
      match ← readRound o len with
      | .leave => return received
      | .tooSmall => return []
      | .copied received => readLoop o len fuel received

/-- `Session::read` into a buffer of `len` bytes, and the bytes it has copied. -/
def read (o : Overflow) (len : Nat) : Call Bytes := do
  let s ← get
  if s.isClosed then return []
  else if s.isEstablished = false then return []
  else if len = 0 then return []
  else readLoop o len loopFuel []

/-! ## What a packet keeps -/

/-- A packet keeps what each of the parts of its handling keeps. -/
theorem keeps_receivePacket {I : Session → Prop} {d : Deps} {p : Pb.Packet}
    {localClientId remoteClientId : String} (hclose : Keeps I handleClosePacket)
    (hhandshake : Keeps I (handleHandshakePacket p))
    (hacks : ∀ isEstablished, Keeps I (receiveAcks d isEstablished p))
    (hbytes : Keeps I (receiveBytesRead p))
    (hdata : Keeps I (receiveData d localClientId remoteClientId p)) :
    Keeps I (receivePacket d localClientId remoteClientId p) := by
  refine keeps_ite hclose (keeps_bind keeps_get fun s => ?_)
  refine keeps_bind (keeps_when hhandshake) fun _ => ?_
  refine keeps_bind (hacks s.isEstablished) fun goOn => keeps_ite ?_ (keeps_pure _)
  exact keeps_bind (keeps_when hbytes) fun _ => keeps_when hdata

/-! ## What the acks leave alone -/

/-- A property of sessions that none of the fields that the acks change has a part
in. -/
structure AckFrame (I : Session → Prop) : Prop where
  connections : ∀ s connections, I s → I { s with connections }
  sendWindowData : ∀ s sendWindowData, I s → I { s with sendWindowData }
  sendWindowStartSeq : ∀ s sendWindowStartSeq, I s → I { s with sendWindowStartSeq }
  ackRanges : ∀ s ackRanges, I s → I { s with ackRanges }

namespace AckFrame

variable {I : Session → Prop}

theorem onConnection (frame : AckFrame I) (key : String) (m : Exec NcpError Connection Unit) :
    Keeps I (onConnection key m) := by
  intro s h
  rw [Ncp.onConnection]
  cases s.connections.lookup key with
  | none => exact h
  | some conn => exact frame.connections s _ h

theorem ackSeqLoop (frame : AckFrame I) (d : Deps) (ackStartSeq ackEndSeq : UInt32) (fuel : Nat)
    (seq : UInt32) : Keeps I (ackSeqLoop d ackStartSeq ackEndSeq fuel seq) := by
  induction fuel generalizing seq with
  | zero => exact keeps_block
  | succ fuel ih =>
      refine keeps_ite (keeps_bind keeps_get fun s => ?_) (keeps_pure _)
      refine keeps_bind (keeps_forM fun key => frame.onConnection key _) fun _ => ?_
      exact keeps_bind (keeps_modify fun s h => frame.sendWindowData s _ h) fun _ => ih _

theorem advanceWindow (frame : AckFrame I) (ackStartSeq : UInt32) :
    Keeps I (advanceWindow ackStartSeq) := by
  refine keeps_bind keeps_get fun s => keeps_ite ?_ (keeps_pure _)
  cases advance s.sendWindowData s.sendWindowEndSeq loopFuel s.sendWindowStartSeq with
  | some start => exact keeps_modify fun s h => frame.sendWindowStartSeq s start h
  | none => exact keeps_block

theorem ackRound (frame : AckFrame I) (d : Deps) (p : Pb.Packet) (i : Nat) :
    Keeps I (ackRound d p i) := by
  refine keeps_bind ?_ fun ackStartSeq => keeps_bind ?_ fun ackEndSeq => ?_
  · exact keeps_ite (keeps_unwrap _) (keeps_pure _)
  · exact keeps_ite (keeps_bind (keeps_unwrap _) fun count => keeps_pure _) (keeps_pure _)
  · refine keeps_bind (keeps_modify fun s h => frame.ackRanges s _ h) fun _ => ?_
    refine keeps_bind keeps_get fun s => keeps_ite ?_ (keeps_pure _)
    exact keeps_bind (frame.ackSeqLoop d _ _ loopFuel _) fun _ => frame.advanceWindow _

theorem receiveAcks (frame : AckFrame I) (d : Deps) (isEstablished : Bool) (p : Pb.Packet) :
    Keeps I (receiveAcks d isEstablished p) := by
  refine keeps_ite (keeps_ite (keeps_pure _) ?_) (keeps_pure _)
  refine keeps_bind (keeps_forM (frame.ackRound d p)) fun _ => keeps_bind ?_ fun _ => keeps_pure _
  refine keeps_bind keeps_get fun s => ?_
  exact keeps_ite (keeps_pure _) (keeps_modify fun s h => frame.connections s _ h)

theorem queueAck (frame : AckFrame I) (localClientId remoteClientId : String) (seq : UInt32) :
    Keeps I (queueAck localClientId remoteClientId seq) := by
  refine keeps_bind keeps_get fun s => ?_
  dsimp only
  cases s.connections.lookup (connKey localClientId remoteClientId) with
  | some conn => exact keeps_modify fun s h => frame.connections s _ h
  | none => exact keeps_pure _

theorem receiveData (frame : AckFrame I) {d : Deps} {p : Pb.Packet}
    (hstore : Keeps I (storeData d.overflow p)) (localClientId remoteClientId : String) :
    Keeps I (receiveData d localClientId remoteClientId p) := by
  refine keeps_bind keeps_get fun s => keeps_ite (keeps_pure _) ?_
  refine keeps_bind hstore fun goOn => keeps_ite ?_ (keeps_pure _)
  exact frame.queueAck localClientId remoteClientId p.sequenceId

/-- A packet keeps what its close, its handshake, its count of bytes and its data
keep. -/
theorem receiveWith (frame : AckFrame I) {d : Deps} (hclose : Keeps I handleClosePacket)
    (hhandshake : ∀ p, Keeps I (handleHandshakePacket p))
    (hbytes : ∀ p, Keeps I (receiveBytesRead p)) (hstore : ∀ p, Keeps I (storeData d.overflow p))
    (localClientId remoteClientId : String) (buf : Bytes) :
    Keeps I (receiveWith d localClientId remoteClientId buf) := by
  refine keeps_ite (keeps_pure _) (keeps_bind (keeps_unwrap _) fun p => ?_)
  exact keeps_receivePacket hclose (hhandshake p) (frame.receiveAcks d · p) (hbytes p)
    (frame.receiveData (hstore p) localClientId remoteClientId)

end AckFrame

/-! ## What a read keeps -/

section ReadKeeps

variable {I : Session → Prop} {o : Overflow} {len : Nat}

theorem keeps_readLoop (hround : Keeps I (readRound o len)) (fuel : Nat) (received : Bytes) :
    Keeps I (readLoop o len fuel received) := by
  induction fuel generalizing received with
  | zero => exact keeps_block
  | succ fuel ih =>
      refine keeps_bind hround fun round => ?_
      cases round with
      | leave => exact keeps_pure _
      | tooSmall => exact keeps_pure _
      | copied bytes => exact ih bytes

/-- A read keeps what each of its rounds keeps. -/
theorem keeps_read (hround : Keeps I (readRound o len)) : Keeps I (read o len) := by
  refine keeps_bind keeps_get fun s => keeps_ite (keeps_pure _) (keeps_ite (keeps_pure _) ?_)
  exact keeps_ite (keeps_pure _) (keeps_readLoop hround loopFuel [])

end ReadKeeps

/-! ## What the inner loops of an ack do -/

/-- The loop over the numbers of a range ends before its first round. -/
theorem ackSeqLoop_eq (d : Deps) (ackStartSeq ackEndSeq : UInt32) :
    ackSeqLoop d ackStartSeq ackEndSeq loopFuel ackStartSeq = pure () := by
  show ackSeqLoop d ackStartSeq ackEndSeq (4294967295 + 1) ackStartSeq = pure ()
  rw [ackSeqLoop, if_neg]
  rw [seqInBetween_self]
  exact Bool.false_ne_true

/-- How many steps after the next one reach `e` on the circle. -/
def stepsTo (e s : UInt32) : Nat :=
  (e.toNat - 1 + (2 ^ 32 - 1) - s.toNat % (2 ^ 32 - 1)) % (2 ^ 32 - 1)

theorem stepsTo_nextSeq {e s : UInt32} (he : e ≠ 0) (hs : nextSeq s 1 ≠ e) :
    stepsTo e (nextSeq s 1) + 1 = stepsTo e s := by
  have hnext := nextSeq_one_toNat s
  have hlt := e.toNat_lt
  have hpos : e.toNat ≠ 0 := fun h => he (UInt32.toNat_inj.mp h)
  have hne : (nextSeq s 1).toNat ≠ e.toNat := fun h => hs (UInt32.toNat_inj.mp h)
  unfold stepsTo
  rw [hnext] at hne ⊢
  omega

/-- The start of the window comes to rest: it reaches the end of the window if
nothing stops it before. -/
theorem advance_isSome (data : AList fun _ : UInt32 => Bytes) {e : UInt32} (he : e ≠ 0)
    (fuel : Nat) (s : UInt32) (h : stepsTo e s < fuel) : ∃ x, advance data e fuel s = some x := by
  induction fuel generalizing s with
  | zero => exact absurd h (Nat.not_lt_zero _)
  | succ fuel ih =>
      simp only [advance]
      split
      next => exact ⟨_, rfl⟩
      next =>
        split
        next => exact ⟨_, rfl⟩
        next hne =>
          refine ih _ ?_
          have := stepsTo_nextSeq he hne
          omega

theorem stepsTo_lt_loopFuel (e s : UInt32) : stepsTo e s < loopFuel := by
  unfold stepsTo loopFuel
  omega

theorem advanceWindow_eq (a : UInt32) {s : Session} (he : s.sendWindowEndSeq ≠ 0) :
    ∃ start, advanceWindow a s = (.ok (), { s with sendWindowStartSeq := start }) := by
  obtain ⟨x, hx⟩ := advance_isSome s.sendWindowData he loopFuel s.sendWindowStartSeq
    (stepsTo_lt_loopFuel _ _)
  rw [advanceWindow, get_bind_apply]
  split
  next =>
    rw [hx]
    exact ⟨x, rfl⟩
  next => exact ⟨s.sendWindowStartSeq, rfl⟩

/-- A round of the ack loop goes through, and changes only the start of the send
window. -/
theorem applyAck_eq (d : Deps) (a b : UInt32) {s : Session} (he : s.sendWindowEndSeq ≠ 0) :
    ∃ start, applyAck d a b s = (.ok (), { s with sendWindowStartSeq := start }) := by
  rw [applyAck, get_bind_apply]
  split
  next =>
    obtain ⟨start, hstart⟩ := advanceWindow_eq (clampStart s a) he
    refine ⟨start, ?_⟩
    rw [← hstart]
    show (ackSeqLoop d (clampStart s a) b loopFuel (clampStart s a) >>= fun _ =>
      advanceWindow (clampStart s a)) s = _
    rw [ackSeqLoop_eq, pure_bind]
  next => exact ⟨s.sendWindowStartSeq, rfl⟩

end NknSdk.Ncp
