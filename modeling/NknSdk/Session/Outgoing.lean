import NknSdk.Session.Endpoint
import NknSdk.Session.Reading

/-!
# What a session sends, whatever it receives

The packets that come in at an end are arbitrary bytes here, in any order.  Data is
stored only where data is already there, so that no read ever returns a byte, and a
count of read bytes, which waits for the first of them, is never sent.  An ack is
queued, but `send_ack` never gets as far as sending it.  What remains is the handshake,
the close, and the packets of the send window, which `tx` addresses to the client they
come from (`only_own_packets`).
-/

namespace NknSdk.Ncp

open Exec

/-! ## What is kept -/

/-- The packets of the send window are data packets under their numbers. -/
def DataWindow (s : Session) : Prop :=
  ∀ seq buf, s.sendWindowData.lookup seq = some buf →
    ∃ sendBuffer, buf = (dataPacket seq sendBuffer).encode

/-- A session that sends `packet` as its handshake, and from which nothing was read. -/
structure Unread (packet : Pb.Packet) (s : Session) : Prop where
  inv : Inv s
  bytesRead : s.bytesRead = 0
  recvWindowUsed : s.recvWindowUsed = 0
  window : DataWindow s
  packet : handshakePacket s = packet

namespace Unread

variable {packet : Pb.Packet} {s : Session}

/-- The fields it is about. -/
def core (s : Session) : ((AList fun _ : UInt32 => Bytes) × UInt32 × UInt32) × UInt64 × UInt32 ×
    (AList fun _ : UInt32 => Bytes) × Pb.Packet :=
  (Inv.core s, s.bytesRead, s.recvWindowUsed, s.sendWindowData, handshakePacket s)

theorem of_core {s' : Session} (h : Unread packet s) (hcore : core s' = core s) :
    Unread packet s' := by
  simp only [core, Inv.core, Prod.mk.injEq] at hcore
  obtain ⟨⟨hdata, hstart, hend⟩, hread, hused, hwindow, hpacket⟩ := hcore
  refine ⟨⟨hdata.trans h.inv.recvWindowData, hstart.trans h.inv.recvWindowStartSeq, ?_⟩,
    hread.trans h.bytesRead, hused.trans h.recvWindowUsed, ?_, hpacket.trans h.packet⟩
  · rw [hend]
    exact h.inv.sendWindowEndSeq
  · unfold DataWindow
    rw [hwindow]
    exact h.window

theorem keeps_modify {f : Session → Session} (hf : ∀ s, core (f s) = core s) :
    Keeps (Unread packet) (modify f : Call Unit) := fun s h => h.of_core (hf s)

theorem new (config : NcpConfig) (localClientIds remoteClientIds : List String) :
    Unread (handshakePacket (Session.new config localClientIds remoteClientIds))
      (Session.new config localClientIds remoteClientIds) where
  inv := Inv.new config localClientIds remoteClientIds
  bytesRead := rfl
  recvWindowUsed := rfl
  window seq buf h := by cases h
  packet := rfl

theorem handleHandshakePacket (p : Pb.Packet) :
    Keeps (Unread packet) (handleHandshakePacket p) := by
  refine keeps_bind keeps_get fun s => ?_
  refine keeps_ite (keeps_pure _) (keeps_ite (keeps_pure _) ?_)
  refine keeps_bind (keeps_when (keeps_modify fun _ => rfl)) ?_
  refine fun _ => keeps_ite (keeps_pure _) ?_
  refine keeps_bind (keeps_when (keeps_modify fun _ => rfl)) ?_
  refine fun _ => keeps_bind (keeps_modify fun _ => rfl) ?_
  refine fun _ => keeps_ite (keeps_pure _) ?_
  refine keeps_bind (keeps_modify fun _ => rfl) fun _ => keeps_bind keeps_get fun s => ?_
  exact keeps_ite keeps_block (keeps_modify fun _ => rfl)

theorem handleClosePacket : Keeps (Unread packet) handleClosePacket := by
  refine keeps_bind keeps_get fun s => ?_
  exact keeps_ite (keeps_modify fun _ => rfl) (keeps_pure _)

/-- A packet is put into the send window, whatever the channel holds. -/
theorem stored (h : Unread packet s) {sendChan : Option UInt32} :
    Unread packet { s.flushed s.sendBuffer with sendChan } := by
  refine ⟨⟨h.inv.recvWindowData, h.inv.recvWindowStartSeq, nextSeq_ne_zero _ _⟩, h.bytesRead,
    h.recvWindowUsed, fun seq buf hbuf => ?_, h.packet⟩
  by_cases hseq : seq = s.sendWindowEndSeq
  · subst hseq
    cases (AList.lookup_insert _).symm.trans hbuf
    exact ⟨s.sendBuffer, rfl⟩
  · exact h.window seq buf ((AList.lookup_insert_ne hseq).symm.trans hbuf)

theorem flushSendBuffer : Keeps (Unread packet) flushSendBuffer := by
  intro s h
  have hsize : ¬ s.sendBuffer.size = 0 := by
    show ¬ sendBufferLen = 0
    decide
  rw [Ncp.flushSendBuffer, get_bind_apply, if_neg hsize]
  simp only [modify_bind_apply]
  split
  next => exact h.stored
  next => exact h.stored

theorem write (o : Overflow) (buf : Bytes) : Keeps (Unread packet) (write o buf) := by
  refine keeps_bind keeps_get fun s => ?_
  cases writeError s buf with
  | some e => exact keeps_throw e
  | none =>
      refine keeps_ite (keeps_pure _) ?_
      refine keeps_bind ?_ fun _ => keeps_bind ?_ fun _ => keeps_bind keeps_get fun s => ?_
      · refine keeps_bind keeps_get fun s => keeps_bind (keeps_arith _ _ _) fun needed => ?_
        exact keeps_ite keeps_block (keeps_arith _ _ _)
      · unfold fillSendBuffer
        split
        · exact keeps_modify fun _ => rfl
        · exact keeps_panic
      · refine keeps_bind (keeps_arith _ _ _) fun bytesWrite => ?_
        refine keeps_bind (keeps_modify fun _ => rfl) fun _ => ?_
        exact keeps_bind flushSendBuffer fun _ => keeps_pure _

theorem readRound (o : Overflow) (len : Nat) : Keeps (Unread packet) (readRound o len) := by
  intro s h
  have hmiss : s.recvWindowData.lookup s.recvWindowStartSeq = none := by
    rw [h.inv.recvWindowData, AList.lookup_empty]
  have hnone : ¬ (s.recvWindowData.lookup s.recvWindowStartSeq).isSome = true := by
    rw [hmiss]
    exact Bool.false_ne_true
  rw [Ncp.readRound, get_bind_apply, if_neg hnone, modify_bind_apply, hmiss, unwrap_none]
  exact h.of_core rfl

/-- An ack takes no packet out of the send window. -/
theorem receiveAcks (d : Deps) (isEstablished : Bool) (p : Pb.Packet) :
    Keeps (Unread packet) (receiveAcks d isEstablished p) := by
  refine keeps_ite (keeps_ite (keeps_pure _) ?_) (keeps_pure _)
  refine keeps_bind (keeps_forM fun i => ?_) fun _ => keeps_bind ?_ fun _ => keeps_pure _
  · refine keeps_bind ?_ fun ackStartSeq => keeps_bind ?_ fun ackEndSeq => ?_
    · exact keeps_ite (keeps_unwrap _) (keeps_pure _)
    · exact keeps_ite (keeps_bind (keeps_unwrap _) fun count => keeps_pure _) (keeps_pure _)
    · refine keeps_bind (keeps_modify fun _ => rfl) fun _ => ?_
      intro s h
      obtain ⟨start, hstart⟩ := applyAck_eq d ackStartSeq ackEndSeq h.inv.sendWindowEndSeq
      rw [hstart]
      exact h.of_core rfl
  · refine keeps_bind keeps_get fun s => ?_
    exact keeps_ite (keeps_pure _) (keeps_modify fun _ => rfl)

theorem receiveData (d : Deps) (localClientId remoteClientId : String) (p : Pb.Packet) :
    Keeps (Unread packet) (receiveData d localClientId remoteClientId p) := by
  refine keeps_bind keeps_get fun s => keeps_ite (keeps_pure _) ?_
  refine keeps_bind (fun s h => ?_) fun goOn => keeps_ite ?_ (keeps_pure _)
  · rw [storeData_eq d.overflow p h.inv]
    exact h
  · refine keeps_bind keeps_get fun s => ?_
    dsimp only
    cases s.connections.lookup (connKey localClientId remoteClientId) with
    | some conn => exact keeps_modify fun _ => rfl
    | none => exact keeps_pure _

theorem receiveWith (d : Deps) (localClientId remoteClientId : String) (buf : Bytes) :
    Keeps (Unread packet) (receiveWith d localClientId remoteClientId buf) := by
  refine keeps_ite (keeps_pure _) (keeps_bind (keeps_unwrap _) fun p => ?_)
  refine keeps_receivePacket handleClosePacket (handleHandshakePacket p) (receiveAcks d · p) ?_
    (receiveData d localClientId remoteClientId p)
  refine keeps_bind keeps_get fun s => keeps_ite ?_ (keeps_pure _)
  refine keeps_bind (keeps_modify fun _ => rfl) fun _ => ?_
  exact keeps_ite keeps_block (keeps_modify fun _ => rfl)

theorem after (h : Unread packet s) (d : Deps) (e : Event) : Unread packet (s.after d e) := by
  cases e with
  | receive now localClientId remoteClientId buf =>
      exact receiveWith _ localClientId remoteClientId buf s h
  | handshake p => exact handleHandshakePacket p s h
  | close => exact handleClosePacket s h
  | read len => exact keeps_read (readRound d.overflow len) s h
  | write buf => exact write d.overflow buf s h
  | flush => exact flushSendBuffer s h
  | tasks connections sendChan sendWindowUpdate recvDataUpdate onAccept => exact h.of_core rfl

/-- A read returns no bytes, or panics after its wait. -/
theorem read_eq (h : Unread packet s) (o : Overflow) (len : Nat) :
    (read o len s).1 = .ok [] ∨ (read o len s).1 = .panic := by
  by_cases hclosed : s.isClosed = true
  · left
    rw [read, get_bind_apply, if_pos hclosed]
    rfl
  · by_cases hest : s.isEstablished = false
    · left
      rw [read, get_bind_apply, if_neg hclosed, if_pos hest]
      rfl
    · by_cases hlen : len = 0
      · left
        rw [read, get_bind_apply, if_neg hclosed, if_neg hest, if_pos hlen]
        rfl
      · right
        refine read_of_missing hlen (by simpa using hest) (by simpa using hclosed) ?_
        rw [Session.nextData, h.inv.recvWindowData, AList.lookup_empty]

end Unread

/-! ## What is sent -/

/-- The handshake or a close. -/
def OpensOrCloses (packet : Pb.Packet) (datagram : Datagram) : Prop :=
  datagram.buf = packet.encode ∨ datagram.buf = closePacket.encode

/-- The handshake, a close, or a data packet for the client that sends it. -/
def OwnPacket (packet : Pb.Packet) (datagram : Datagram) : Prop :=
  datagram.buf = packet.encode ∨ datagram.buf = closePacket.encode ∨
    datagram.remoteClientId = datagram.localClientId ∧
      ∃ seq sendBuffer, datagram.buf = (dataPacket seq sendBuffer).encode

/-- An end that has sent what `Q` says and nothing else. -/
structure Outgoing (packet : Pb.Packet) (Q : Datagram → Prop) (e : Endpoint) : Prop where
  session : Unread packet e.session
  sent : ∀ datagram ∈ e.sent, Q datagram

/-- An end of which only the calls have sent anything. -/
abbrev OnlyCallsSend (packet : Pb.Packet) (e : Endpoint) : Prop :=
  Outgoing packet (OpensOrCloses packet) e

/-- A call on the session, and not an iteration of a loop. -/
def EndEvent.isCall : EndEvent → Bool
  | .checkBytesRead .. => false
  | .tx .. => false
  | .checkTimeout .. => false
  | .sendAcks .. => false
  | _ => true

namespace Outgoing

variable {packet : Pb.Packet} {Q : Datagram → Prop} {e : Endpoint}

theorem new (sendConfig : SendConfig) (config : NcpConfig)
    (localClientIds remoteClientIds : List String) :
    Outgoing (handshakePacket (Session.new config localClientIds remoteClientIds)) Q
      (Endpoint.new sendConfig (Session.new config localClientIds remoteClientIds)) where
  session := Unread.new config localClientIds remoteClientIds
  sent datagram hmem := by cases hmem

theorem expectSent (answer : Nat → Bool) {datagram : Datagram} (h : Q datagram) :
    Keeps (Outgoing packet Q) (expectSent answer datagram) := by
  refine keeps_bind (keeps_bind keeps_get fun e => ?_) fun _ => keeps_require _
  refine keeps_bind (keeps_modify fun e he => ⟨he.session, fun other hmem => ?_⟩) fun _ =>
    keeps_pure _
  rcases List.mem_append.mp hmem with hmem | hmem
  · exact he.sent other hmem
  · rw [List.mem_singleton.mp hmem]
    exact h

section Calls

variable (hQ : ∀ datagram, OpensOrCloses packet datagram → Q datagram)

include hQ

theorem openSession (answer : Nat → Bool) (first : String) (timeout : Nat) :
    Keeps (Outgoing packet Q) (openSession answer first timeout) := by
  refine keeps_bind keeps_get fun e => keeps_ite (keeps_pure _) ?_
  refine keeps_bind (keeps_modify fun e h => ⟨h.session, h.sent⟩) fun _ => ?_
  refine keeps_get_bind fun e h => ?_
  have hbuf := congrArg Pb.Packet.encode h.session.packet
  refine keeps_ite (keeps_bind (keeps_unwrap _) fun conn => ?_) ?_
  · exact expectSent answer (hQ _ (Or.inl hbuf))
  · refine keeps_forM fun pair => keeps_bind ?_ fun _ => expectSent answer (hQ _ (Or.inl hbuf))
    exact keeps_ite (keeps_unwrap _) (keeps_pure _)

theorem sendClosePacket (answer : Nat → Bool) (first : String) :
    Keeps (Outgoing packet Q) (sendClosePacket answer first) := by
  refine keeps_bind keeps_get fun e => keeps_ite (keeps_pure _) ?_
  refine keeps_bind (keeps_unwrap _) fun conn => ?_
  exact keeps_bind (expectSent answer (hQ _ (Or.inr rfl))) fun _ => keeps_panic

/-- A call sends the handshake, a close, or nothing. -/
theorem afterCall (h : Outgoing packet Q e) (d : Deps) (answer : Nat → Bool) {event : EndEvent}
    (hcall : event.isCall = true) : Outgoing packet Q (e.after d answer event) := by
  cases event with
  | dial first => exact openSession hQ answer first _ e h
  | accept first => exact openSession hQ answer first _ e h
  | sendClosePacket first => exact sendClosePacket hQ answer first e h
  | receive now localClientId remoteClientId buf =>
      exact ⟨h.session.after d (.receive now localClientId remoteClientId buf), h.sent⟩
  | handshake p => exact ⟨h.session.after d (.handshake p), h.sent⟩
  | close => exact ⟨h.session.after d .close, h.sent⟩
  | read len => exact ⟨h.session.after d (.read len), h.sent⟩
  | write buf => exact ⟨h.session.after d (.write buf), h.sent⟩
  | flush => exact ⟨h.session.after d .flush, h.sent⟩
  | checkBytesRead now sentTime updateTime keys => cases hcall
  | tx key windowSize input => cases hcall
  | checkTimeout key windowSize now order => cases hcall
  | sendAcks key => cases hcall

end Calls

theorem checkBytesRead (answer : Nat → Bool) (now sentTime updateTime : Nat) (keys : List String) :
    Keeps (Outgoing packet Q) (checkBytesRead answer now sentTime updateTime keys) := by
  refine keeps_get_bind fun e h => ?_
  rw [if_pos (show bytesReadSettled e now sentTime updateTime from Or.inl h.session.bytesRead)]
  exact keeps_pure _

/-- The acks are collected, and nothing is sent. -/
theorem sendAcks (o : Overflow) (key : String) : Keeps (Outgoing packet Q) (sendAcks o key) := by
  refine keeps_bind keeps_get fun e => keeps_bind (keeps_unwrap _) fun conn => ?_
  refine keeps_ite (keeps_pure _) (keeps_bind ?_ fun _ => keeps_block)
  exact keeps_zoom (fun e conn h => ⟨h.session.of_core rfl, h.sent⟩) _

theorem settle (h : Outgoing packet Q e) (key : String) (conn : Connection) (m : Transmit) :
    Outgoing packet Q (e.settle key conn m) := ⟨h.session.of_core rfl, h.sent⟩

theorem runCheckTimeout (h : Outgoing packet Q e) (key : String) (windowSize : ℚ) (now : Nat)
    (order : List UInt32) : Outgoing packet Q (e.runCheckTimeout key windowSize now order) := by
  unfold Endpoint.runCheckTimeout
  split
  next => exact h
  next conn hconn => exact h.settle key conn _

/-- The loop sends what the window holds under the number it was handed. -/
theorem own_txDatagrams {conn : Connection} (h : DataWindow e.session)
    (o : Outcome NcpError (Option UInt32)) :
    ∀ datagram ∈ txDatagrams conn e.session.sendWindowData o, OwnPacket packet datagram := by
  intro datagram hmem
  unfold txDatagrams at hmem
  split at hmem
  next seq =>
    split at hmem
    next buf hbuf =>
      split at hmem
      next => cases hmem
      next =>
        obtain ⟨sendBuffer, rfl⟩ := h seq buf hbuf
        rw [List.mem_singleton.mp hmem]
        exact Or.inr (Or.inr ⟨rfl, seq, sendBuffer, rfl⟩)
    next => cases hmem
  next => cases hmem

theorem runTx (h : Outgoing packet (OwnPacket packet) e) (key : String) (windowSize : ℚ)
    (input : TxInput) : Outgoing packet (OwnPacket packet) (e.runTx key windowSize input) := by
  unfold Endpoint.runTx
  split
  next => exact h
  next conn hconn =>
    refine ⟨(h.settle key conn _).session, fun datagram hmem => ?_⟩
    rcases List.mem_append.mp hmem with hmem | hmem
    · exact h.sent datagram hmem
    · exact own_txDatagrams h.session.window _ datagram hmem

theorem after (h : Outgoing packet (OwnPacket packet) e) (d : Deps) (answer : Nat → Bool)
    (event : EndEvent) : Outgoing packet (OwnPacket packet) (e.after d answer event) := by
  by_cases hcall : event.isCall = true
  · refine h.afterCall (fun datagram hopens => ?_) d answer hcall
    exact hopens.imp id Or.inl
  · cases event with
    | checkBytesRead now sentTime updateTime keys =>
        exact checkBytesRead answer now sentTime updateTime keys e h
    | tx key windowSize input => exact h.runTx key windowSize input
    | checkTimeout key windowSize now order => exact h.runCheckTimeout key windowSize now order
    | sendAcks key => exact sendAcks d.overflow key e h
    | _ => exact absurd rfl hcall

end Outgoing

/-- An event at the end, which is always possible. -/
def Endpoint.step (d : Deps) (answer : Nat → Bool) (e : Endpoint) (event : EndEvent) :
    Option Endpoint := some (e.after d answer event)

/-- Whatever bytes come in, and in whatever order the calls and the loops run: nothing is
ever read from the session, and it sends its handshake, closes, and data packets that are
addressed to the clients they come from. -/
theorem only_own_packets (d : Deps) (answer : Nat → Bool) (sendConfig : SendConfig)
    (config : NcpConfig) (localClientIds remoteClientIds : List String) (events : List EndEvent) :
    ∃ e, Run.runFrom (Endpoint.step d answer)
        (Endpoint.new sendConfig (Session.new config localClientIds remoteClientIds)) events =
          some e ∧
      e.session.bytesRead = 0 ∧
      (∀ o len, (read o len e.session).1 = .ok [] ∨ (read o len e.session).1 = .panic) ∧
      ∀ datagram ∈ e.sent,
        OwnPacket (handshakePacket (Session.new config localClientIds remoteClientIds))
          datagram := by
  have hstep : ∀ e event,
      Outgoing (handshakePacket (Session.new config localClientIds remoteClientIds)) (OwnPacket _) e →
        ∃ e', Endpoint.step d answer e event = some e' ∧
          Outgoing (handshakePacket (Session.new config localClientIds remoteClientIds))
            (OwnPacket _) e' :=
    fun e event h => ⟨_, rfl, h.after d answer event⟩
  obtain ⟨e, hrun, h⟩ := Run.total_of_step hstep
    (Outgoing.new sendConfig config localClientIds remoteClientIds) events
  exact ⟨e, hrun, h.session.bytesRead, h.session.read_eq, h.sent⟩

end NknSdk.Ncp
