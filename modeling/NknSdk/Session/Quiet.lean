import NknSdk.Session.Endpoint

/-!
# What sessions say to each other

`receive_with` takes no more than ten bytes.  A data packet is longer, and so is a
handshake that would be accepted: the window it offers and its flag are seven bytes, an
MTU two more and a client another two (`harmless_handshakePacket`).  What remains of the
packets that a session sends is `Void`: a close, and a handshake that is rejected.

A session that receives nothing else is `Quiet`.  No data was stored in it, no ack is
queued, and the other side has read nothing.  An end that is quiet sends nothing else
in its turn (`QuietEnd.after`).
-/

namespace NknSdk.Ncp

open Exec

/-! ## Packets that say nothing -/

/-- A packet without data, acks and a count of bytes, which establishes no session. -/
structure Void (p : Pb.Packet) : Prop where
  sequenceId : p.sequenceId = 0
  ackStartSeq : p.ackStartSeq = []
  ackSeqCount : p.ackSeqCount = []
  bytesRead : p.bytesRead = 0
  rejected : p.handshake = true → Rejected p

/-- Bytes that no session takes, or takes for a void packet. -/
def Harmless (buf : Bytes) : Prop := maxReceiveLen < buf.length ∨ ∃ p, Void p ∧ buf = p.encode

/-- A void packet is at most a close or a handshake. -/
theorem receivePacket_void {p : Pb.Packet} (h : Void p) (d : Deps)
    (localClientId remoteClientId : String) (s : Session) :
    (receivePacket d localClientId remoteClientId p s).2 =
      ((if p.close then handleClosePacket
        else when (s.isEstablished = false ∧ p.handshake) (handleHandshakePacket p)) s).2 := by
  have hacks : receiveAcks d s.isEstablished p = pure true :=
    if_neg (by simp [h.ackStartSeq, h.ackSeqCount])
  have hbytes : receiveBytesRead p = pure () := by
    funext t
    rw [receiveBytesRead, get_bind_apply, h.bytesRead, if_neg UInt64.not_lt_zero]
  have hdata : ¬ (s.isEstablished = true ∧ 0 < p.sequenceId) := by
    rw [h.sequenceId]
    exact fun hlt => absurd hlt.2 (by decide)
  rw [receivePacket]
  by_cases hclose : p.close = true
  · rw [if_pos hclose, if_pos hclose]
  · rw [if_neg hclose, if_neg hclose, get_bind_apply]
    simp only [hacks, hbytes, Exec.pure_bind, if_true, when_neg hdata]
    rcases hm : (when (s.isEstablished = false ∧ p.handshake = true)
      (handleHandshakePacket p) : Call Unit) s with ⟨o, s'⟩
    rw [bind_apply, hm]
    cases o with
    | ok u =>
        by_cases hest : s.isEstablished = true
        · rw [when_pos hest]
          rfl
        · rw [when_neg hest]
          rfl
    | err e => rfl
    | panic => rfl
    | block => rfl

theorem length_varint_pos (n : Nat) : 1 ≤ (Wire.varint n).length :=
  List.length_pos_iff.mpr (Wire.varint_ne_nil n)

theorem length_uintField_pos (field : Nat) {n : Nat} (h : n ≠ 0) :
    2 ≤ (Wire.uintField field n).length := by
  have hkey := length_varint_pos (field * 8 + 0)
  have hvalue := length_varint_pos n
  rw [Wire.uintField, if_neg h, List.length_append, Wire.key]
  omega

theorem length_delimited_pos (field : Nat) (body : Bytes) :
    2 ≤ (Wire.delimited field body).length := by
  have hkey := length_varint_pos (field * 8 + 2)
  have hlen := length_varint_pos body.length
  rw [Wire.delimited, List.length_append, List.length_append, Wire.key]
  omega

/-- The window of a new session. -/
def newRecvWindow : UInt32 := (4 : UInt32) <<< (20 : UInt32)

/-- A handshake that is not rejected is too long to be taken. -/
theorem harmless_handshakePacket {s : Session} (h : s.recvWindowSize = newRecvWindow) :
    Harmless (handshakePacket s).encode := by
  by_cases hrejected : Rejected (handshakePacket s)
  · exact Or.inr ⟨handshakePacket s, ⟨rfl, rfl, rfl, rfl, fun _ => hrejected⟩, rfl⟩
  · left
    simp only [Rejected, not_or] at hrejected
    obtain ⟨-, hmtu, hids⟩ := hrejected
    have hmtu' : s.recvMtu.toNat ≠ 0 := fun hzero => hmtu (UInt32.toNat_inj.mp hzero)
    obtain ⟨id, ids, hcons⟩ := List.exists_cons_of_ne_nil hids
    have hwindow : (Wire.uintField 7 (handshakePacket s).windowSize.toNat).length = 5 := by
      show (Wire.uintField 7 s.recvWindowSize.toNat).length = 5
      rw [h]
      decide +kernel
    have hflag : (Wire.boolField 10 (handshakePacket s).handshake).length = 2 := by
      show (Wire.boolField 10 true).length = 2
      decide +kernel
    have hmtuField := length_uintField_pos 8 (n := (handshakePacket s).mtu.toNat) hmtu'
    have hid := length_delimited_pos 6 id.toUTF8.toList
    have hmax : maxReceiveLen = 10 := rfl
    simp only [Pb.Packet.encode, List.length_append, hwindow, hflag, hcons, List.flatMap_cons]
    omega

theorem harmless_closePacket : Harmless closePacket.encode :=
  Or.inr ⟨closePacket, ⟨rfl, rfl, rfl, rfl, fun h => by cases h⟩, rfl⟩

/-! ## Sessions to which nothing has come -/

structure Quiet (s : Session) : Prop where
  inv : Inv s
  acks : ∀ key conn, s.connections.lookup key = some conn → conn.sendAckQueue = []
  bytesRead : s.bytesRead = 0
  remoteBytesRead : s.remoteBytesRead = 0
  sendWindowStartSeq : s.sendWindowStartSeq = minSequenceId
  packets : ∀ seq buf, s.sendWindowData.lookup seq = some buf → maxReceiveLen < buf.length
  recvWindowSize : s.recvWindowSize = newRecvWindow

namespace Quiet

/-- The fields it is about. -/
def core (s : Session) : ((AList fun _ : UInt32 => Bytes) × UInt32 × UInt32) ×
    (AList fun _ : String => Connection) × UInt64 × UInt64 × UInt32 ×
      (AList fun _ : UInt32 => Bytes) × UInt32 :=
  (Inv.core s, s.connections, s.bytesRead, s.remoteBytesRead, s.sendWindowStartSeq,
    s.sendWindowData, s.recvWindowSize)

theorem of_core {s s' : Session} (h : Quiet s) (hcore : core s' = core s) : Quiet s' := by
  simp only [core, Inv.core, Prod.mk.injEq] at hcore
  obtain ⟨⟨hdata, hstart, hend⟩, hconns, hread, hremote, hsend, hpackets, hwindow⟩ := hcore
  refine ⟨⟨hdata.trans h.inv.recvWindowData, hstart.trans h.inv.recvWindowStartSeq, ?_⟩, ?_,
    hread.trans h.bytesRead, hremote.trans h.remoteBytesRead, hsend.trans h.sendWindowStartSeq, ?_,
    hwindow.trans h.recvWindowSize⟩
  · rw [hend]
    exact h.inv.sendWindowEndSeq
  · rw [hconns]
    exact h.acks
  · rw [hpackets]
    exact h.packets

theorem keeps_modify {f : Session → Session} (hf : ∀ s, core (f s) = core s) :
    Keeps Quiet (modify f : Call Unit) := fun s h => h.of_core (hf s)

theorem new (config : NcpConfig) (localClientIds remoteClientIds : List String) :
    Quiet (Session.new config localClientIds remoteClientIds) where
  inv := Inv.new config localClientIds remoteClientIds
  acks key conn h := by cases h
  bytesRead := rfl
  remoteBytesRead := rfl
  sendWindowStartSeq := rfl
  packets seq buf h := by cases h
  recvWindowSize := rfl

/-- The connections of a handshake have nothing to acknowledge. -/
theorem acks_handshakeConnections (localClientIds clientIds : List String)
    (initialWindowSize : ℚ) (key : String) (conn : Connection)
    (h : (handshakeConnections localClientIds clientIds initialWindowSize).lookup key = some conn) :
    conn.sendAckQueue = [] := by
  have hfold : ∀ (ids : List (String × String)) (connections : AList fun _ : String => Connection),
      (∀ conn, connections.lookup key = some conn → conn.sendAckQueue = []) →
      ∀ conn, (ids.foldl (fun connections ids => connections.insert (connKey ids.1 ids.2)
        (Connection.new ids.1 ids.2 initialWindowSize)) connections).lookup key = some conn →
          conn.sendAckQueue = [] := by
    intro ids
    induction ids with
    | nil => exact fun connections hconns => hconns
    | cons pair ids ih =>
        intro connections hconns
        refine ih _ fun conn hconn => ?_
        by_cases hkey : key = connKey pair.1 pair.2
        · subst hkey
          cases (AList.lookup_insert _).symm.trans hconn
          rfl
        · exact hconns conn ((AList.lookup_insert_ne hkey).symm.trans hconn)
  exact hfold _ ∅ (fun conn hconn => by cases hconn) conn h

theorem handleHandshakePacket (packet : Pb.Packet) :
    Keeps Quiet (handleHandshakePacket packet) := by
  refine keeps_bind keeps_get fun s => ?_
  refine keeps_ite (keeps_pure _) (keeps_ite (keeps_pure _) ?_)
  refine keeps_bind (keeps_when (keeps_modify fun _ => rfl)) ?_
  refine fun _ => keeps_ite (keeps_pure _) ?_
  refine keeps_bind (keeps_when (keeps_modify fun _ => rfl)) ?_
  refine fun _ => keeps_bind (keeps_modify fun _ => rfl) ?_
  refine fun _ => keeps_ite (keeps_pure _) ?_
  refine keeps_bind (Exec.keeps_modify fun s h => ?_) fun _ => ?_
  · exact ⟨⟨h.inv.recvWindowData, h.inv.recvWindowStartSeq, h.inv.sendWindowEndSeq⟩,
      acks_handshakeConnections _ _ _, h.bytesRead, h.remoteBytesRead, h.sendWindowStartSeq,
      h.packets, h.recvWindowSize⟩
  · refine keeps_bind keeps_get fun s => ?_
    exact keeps_ite keeps_block (keeps_modify fun _ => rfl)

theorem handleClosePacket : Keeps Quiet handleClosePacket := by
  refine keeps_bind keeps_get fun s => ?_
  exact keeps_ite (keeps_modify fun _ => rfl) (keeps_pure _)

/-- A flush adds a data packet, which is long. -/
theorem flushSendBuffer : Keeps Quiet flushSendBuffer := by
  refine keeps_bind keeps_get fun s => ?_
  refine keeps_ite (keeps_pure _) ?_
  refine keeps_bind (Exec.keeps_modify fun s' h => ?_) fun _ => ?_
  · refine ⟨⟨h.inv.recvWindowData, h.inv.recvWindowStartSeq, h.inv.sendWindowEndSeq⟩, h.acks,
      h.bytesRead, h.remoteBytesRead, h.sendWindowStartSeq, fun seq buf hbuf => ?_,
      h.recvWindowSize⟩
    by_cases hseq : seq = s.sendWindowEndSeq
    · subst hseq
      cases (AList.lookup_insert _).symm.trans hbuf
      exact maxReceiveLen_lt_dataPacket _ _
    · exact h.packets seq buf ((AList.lookup_insert_ne hseq).symm.trans hbuf)
  · refine keeps_bind (Exec.keeps_modify fun s' h => ?_) fun _ => ?_
    · exact ⟨⟨h.inv.recvWindowData, h.inv.recvWindowStartSeq, nextSeq_ne_zero _ _⟩, h.acks,
        h.bytesRead, h.remoteBytesRead, h.sendWindowStartSeq, h.packets, h.recvWindowSize⟩
    · refine keeps_bind (keeps_modify fun _ => rfl) fun _ => ?_
      exact keeps_ite keeps_block (keeps_modify fun _ => rfl)

theorem write (o : Overflow) (buf : Bytes) : Keeps Quiet (write o buf) := by
  refine keeps_bind keeps_get fun s => ?_
  cases writeError s buf with
  | some e => exact keeps_throw e
  | none =>
      refine keeps_ite (keeps_pure _) ?_
      refine keeps_bind ?_ fun _ => keeps_bind ?_ fun _ => keeps_bind keeps_get fun s => ?_
      · refine keeps_bind keeps_get fun s => keeps_bind (keeps_arith _ _ _) fun needed => ?_
        exact keeps_ite keeps_block (keeps_arith _ _ _)
      · unfold fillSendBuffer
        split
        · exact keeps_modify fun _ => rfl
        · exact keeps_panic
      · refine keeps_bind (keeps_arith _ _ _) fun bytesWrite => ?_
        refine keeps_bind (keeps_modify fun _ => rfl) fun _ => ?_
        exact keeps_bind flushSendBuffer fun _ => keeps_pure _

theorem readRound (o : Overflow) (len : Nat) : Keeps Quiet (readRound o len) := by
  intro s h
  have hmiss : s.recvWindowData.lookup s.recvWindowStartSeq = none := by
    rw [h.inv.recvWindowData, AList.lookup_empty]
  have hnone : ¬ (s.recvWindowData.lookup s.recvWindowStartSeq).isSome = true := by
    rw [hmiss]
    exact Bool.false_ne_true
  rw [Ncp.readRound, get_bind_apply, if_neg hnone, modify_bind_apply, hmiss, unwrap_none]
  exact h.of_core rfl

/-- What is harmless leaves the session quiet. -/
theorem receiveWith {d : Deps} (hdecode : ∀ p : Pb.Packet, d.decodePacket p.encode = some p)
    {buf : Bytes} (hbuf : Harmless buf) (localClientId remoteClientId : String) :
    Keeps Quiet (receiveWith d localClientId remoteClientId buf) := by
  intro s h
  rw [Ncp.receiveWith]
  by_cases hlong : maxReceiveLen < buf.length
  · rw [if_pos hlong]
    exact h
  · obtain ⟨p, hvoid, rfl⟩ := hbuf.resolve_left hlong
    rw [if_neg hlong, hdecode p, unwrap_some, pure_bind, receivePacket_void hvoid]
    refine keeps_ite handleClosePacket (keeps_when ?_) s h
    exact handleHandshakePacket p

end Quiet

/-! ## What the loops leave alone -/

section Loops

variable {q : List UInt32}

/-- The loops `tx` and `check_timeout` have no part in the acks. -/
theorem keeps_queue_modify {f : Transmit → Transmit}
    (hf : ∀ m, (f m).conn.sendAckQueue = m.conn.sendAckQueue) :
    Keeps (fun m : Transmit => m.conn.sendAckQueue = q) (modify f : TransmitCall Unit) :=
  fun m h => (hf m).trans h

theorem keeps_queue_takeResend :
    Keeps (fun m : Transmit => m.conn.sendAckQueue = q) takeResend := by
  refine keeps_bind keeps_get fun m => ?_
  cases m.resendChan with
  | some seq => exact keeps_bind (keeps_queue_modify fun _ => rfl) fun _ => keeps_pure _
  | none => exact keeps_pure _

theorem keeps_queue_takeSeq (input : TxInput) :
    Keeps (fun m : Transmit => m.conn.sendAckQueue = q) (takeSeq input) := by
  refine keeps_bind keeps_queue_takeResend fun seq => keeps_ite ?_ (keeps_pure _)
  refine keeps_bind ?_ fun room => keeps_ite (keeps_bind ?_ fun _ => keeps_pure _) (keeps_pure _)
  · refine keeps_bind keeps_get fun m => keeps_ite ?_ (keeps_pure _)
    exact keeps_bind (keeps_queue_modify fun _ => rfl) fun _ => keeps_ite (keeps_pure _) keeps_block
  · refine keeps_bind keeps_get fun m => ?_
    cases m.sendChan with
    | none =>
        cases m.resendChan with
        | none => exact keeps_block
        | some _ => exact keeps_queue_takeResend
    | some seq =>
        refine keeps_ite keeps_queue_takeResend ?_
        exact keeps_bind (keeps_queue_modify fun _ => rfl) fun _ => keeps_pure _

theorem keeps_queue_tx (input : TxInput) :
    Keeps (fun m : Transmit => m.conn.sendAckQueue = q) (tx input) := by
  refine keeps_bind (keeps_queue_takeSeq input) fun taken => ?_
  cases taken with
  | none => exact keeps_pure _
  | some seq =>
      refine keeps_bind ?_ fun _ => keeps_pure _
      refine keeps_bind keeps_get fun m => keeps_bind (keeps_unwrap _) fun buf => ?_
      refine keeps_ite (keeps_queue_modify fun _ => rfl) ?_
      cases input.sendWith with
      | ok _ => exact keeps_queue_modify fun _ => rfl
      | error _ =>
          exact keeps_bind (keeps_queue_modify fun _ => rfl) fun _ => keeps_queue_modify fun _ => rfl

theorem keeps_queue_checkTimeout (now : Nat) (order : List UInt32) :
    Keeps (fun m : Transmit => m.conn.sendAckQueue = q) (checkTimeout now order) := by
  refine keeps_bind keeps_get fun m₀ => keeps_forM fun seq => keeps_bind keeps_get fun m => ?_
  cases m.conn.timeSentSeq.lookup seq with
  | none => exact keeps_pure _
  | some t =>
      refine keeps_ite (keeps_pure _) (keeps_ite (keeps_ite keeps_block ?_) (keeps_pure _))
      exact keeps_bind (keeps_queue_modify fun _ => rfl) fun _ => keeps_queue_modify fun _ => rfl

end Loops

/-! ## Ends to which nothing has come -/

structure QuietEnd (e : Endpoint) : Prop where
  session : Quiet e.session
  sent : ∀ datagram ∈ e.sent, Harmless datagram.buf

namespace QuietEnd

variable {e : Endpoint}

theorem new (config : SendConfig) {session : Session} (h : Quiet session) :
    QuietEnd (Endpoint.new config session) where
  session := h
  sent datagram hmem := by cases hmem

theorem onSession {α : Type} {m : Call α} (hm : Keeps Quiet m) : Keeps QuietEnd (onSession m) :=
  fun e h => ⟨hm e.session h.session, h.sent⟩

theorem sendWith (answer : Nat → Bool) {datagram : Datagram} (hbuf : Harmless datagram.buf) :
    Keeps QuietEnd (sendWith answer datagram) := by
  refine keeps_bind keeps_get fun e => keeps_bind (keeps_modify fun e h => ?_) fun _ => keeps_pure _
  refine ⟨h.session, fun other hmem => ?_⟩
  rcases List.mem_append.mp hmem with hmem | hmem
  · exact h.sent other hmem
  · rw [List.mem_singleton.mp hmem]
    exact hbuf

theorem expectSent (answer : Nat → Bool) {datagram : Datagram} (hbuf : Harmless datagram.buf) :
    Keeps QuietEnd (expectSent answer datagram) :=
  keeps_bind (sendWith answer hbuf) fun _ => keeps_require _

theorem openSession (answer : Nat → Bool) (first : String) (timeout : Nat) :
    Keeps QuietEnd (openSession answer first timeout) := by
  refine keeps_bind keeps_get fun e => keeps_ite (keeps_pure _) ?_
  refine keeps_bind (keeps_modify fun e h => ⟨h.session, h.sent⟩) fun _ => ?_
  refine keeps_get_bind fun e h => ?_
  have hbuf := harmless_handshakePacket h.session.recvWindowSize
  refine keeps_ite (keeps_bind (keeps_unwrap _) fun conn => expectSent answer hbuf) ?_
  refine keeps_forM fun pair => keeps_bind ?_ fun _ => expectSent answer hbuf
  exact keeps_ite (keeps_unwrap _) (keeps_pure _)

theorem sendClosePacket (answer : Nat → Bool) (first : String) :
    Keeps QuietEnd (sendClosePacket answer first) := by
  refine keeps_bind keeps_get fun e => keeps_ite (keeps_pure _) ?_
  refine keeps_bind (keeps_unwrap _) fun conn => ?_
  exact keeps_bind (expectSent answer harmless_closePacket) fun _ => keeps_panic

/-- Nothing was read, so there is nothing to say about it. -/
theorem checkBytesRead (answer : Nat → Bool) (now sentTime updateTime : Nat) (keys : List String) :
    Keeps QuietEnd (checkBytesRead answer now sentTime updateTime keys) := by
  refine keeps_get_bind fun e h => ?_
  rw [if_pos (show bytesReadSettled e now sentTime updateTime from Or.inl h.session.bytesRead)]
  exact keeps_pure _

/-- No ack is queued, so none is collected. -/
theorem sendAcks (o : Overflow) (key : String) : Keeps QuietEnd (sendAcks o key) := by
  refine keeps_get_bind fun e h => ?_
  cases hconn : e.session.connections.lookup key with
  | none => exact keeps_panic
  | some conn =>
      have hempty : conn.sendAckQueue.length = 0 := by rw [h.session.acks key conn hconn]; rfl
      rw [unwrap_some, pure_bind, if_pos hempty]
      exact keeps_pure _

/-- An iteration of a loop that leaves the acks alone. -/
theorem settle (h : QuietEnd e) {key : String} {conn : Connection}
    (hconn : e.session.connections.lookup key = some conn) {m : Transmit}
    (hm : m.conn.sendAckQueue = conn.sendAckQueue) : QuietEnd (e.settle key conn m) where
  session := by
    refine ⟨⟨h.session.inv.recvWindowData, h.session.inv.recvWindowStartSeq,
      h.session.inv.sendWindowEndSeq⟩, fun other c hc => ?_, h.session.bytesRead,
      h.session.remoteBytesRead, h.session.sendWindowStartSeq, h.session.packets,
      h.session.recvWindowSize⟩
    by_cases hkey : other = key
    · subst hkey
      cases (AList.lookup_insert _).symm.trans hc
      exact hm.trans (h.session.acks other conn hconn)
    · exact h.session.acks other c ((AList.lookup_insert_ne hkey).symm.trans hc)
  sent := h.sent

/-- What `tx` sends is in the send window. -/
theorem harmless_txDatagrams {conn : Connection} {sendWindowData : AList fun _ : UInt32 => Bytes}
    (h : ∀ seq buf, sendWindowData.lookup seq = some buf → maxReceiveLen < buf.length)
    (o : Outcome NcpError (Option UInt32)) :
    ∀ datagram ∈ txDatagrams conn sendWindowData o, Harmless datagram.buf := by
  intro datagram hmem
  unfold txDatagrams at hmem
  split at hmem
  next seq =>
    split at hmem
    next buf hbuf =>
      split at hmem
      next => cases hmem
      next =>
        rw [List.mem_singleton.mp hmem]
        exact Or.inl (h seq buf hbuf)
    next => cases hmem
  next => cases hmem

theorem runTx (h : QuietEnd e) (key : String) (windowSize : ℚ) (input : TxInput) :
    QuietEnd (e.runTx key windowSize input) := by
  unfold Endpoint.runTx
  split
  next => exact h
  next conn hconn =>
    have hsettled := h.settle hconn
      (keeps_queue_tx (q := conn.sendAckQueue) input (e.transmit conn windowSize) rfl)
    refine ⟨hsettled.session, fun datagram hmem => ?_⟩
    rcases List.mem_append.mp hmem with hmem | hmem
    · exact h.sent datagram hmem
    · exact harmless_txDatagrams h.session.packets _ datagram hmem

theorem runCheckTimeout (h : QuietEnd e) (key : String) (windowSize : ℚ) (now : Nat)
    (order : List UInt32) : QuietEnd (e.runCheckTimeout key windowSize now order) := by
  unfold Endpoint.runCheckTimeout
  split
  next => exact h
  next conn hconn =>
    exact h.settle hconn (keeps_queue_checkTimeout (q := conn.sendAckQueue) now order
      (e.transmit conn windowSize) rfl)

end QuietEnd

/-- What the end receives is harmless. -/
def EndEvent.IsHarmless (event : EndEvent) : Prop := ∀ buf ∈ event.received, Harmless buf

/-- Every event but the arrival of something else keeps an end quiet. -/
theorem QuietEnd.after {d : Deps} (hdecode : ∀ p : Pb.Packet, d.decodePacket p.encode = some p)
    (answer : Nat → Bool) {e : Endpoint} (h : QuietEnd e) {event : EndEvent}
    (hevent : event.IsHarmless) : QuietEnd (e.after d answer event) := by
  cases event with
  | dial first => exact openSession answer first _ e h
  | accept first => exact openSession answer first _ e h
  | sendClosePacket first => exact QuietEnd.sendClosePacket answer first e h
  | receive now localClientId remoteClientId buf =>
      exact onSession (Quiet.receiveWith (d := { d with now }) hdecode (hevent buf rfl) _ _) e h
  | handshake packet => exact onSession (Quiet.handleHandshakePacket packet) e h
  | close => exact onSession Quiet.handleClosePacket e h
  | read len => exact onSession (keeps_read (Quiet.readRound d.overflow len)) e h
  | write buf => exact onSession (Quiet.write d.overflow buf) e h
  | flush => exact onSession Quiet.flushSendBuffer e h
  | checkBytesRead now sentTime updateTime keys =>
      exact QuietEnd.checkBytesRead answer now sentTime updateTime keys e h
  | tx key windowSize input => exact h.runTx key windowSize input
  | checkTimeout key windowSize now order => exact h.runCheckTimeout key windowSize now order
  | sendAcks key => exact QuietEnd.sendAcks d.overflow key e h

end NknSdk.Ncp
