import NknSdk.Session.AckBatches
import NknSdk.Session.Delivery
import NknSdk.Session.FlowControl
import NknSdk.Session.Rejection
import NknSdk.Session.Transmit

/-!
# One end of a session

A session with what it sends.  `dial`, `accept` and `send_close_packet` of
`src/session.rs` hand packets to `send_with`, and so do the tick of
`start_check_bytes_read` and the loop `tx` of `src/connection.rs`.  An `Endpoint` keeps
what was handed over, and `after` is what any call on a session and any iteration of a
loop make of it.

`send_with` is a closure of the application.  Its answers are those to its first,
second and later calls.  A map gives its entries in an order of its own, and so the
entry that comes first, or the order, is an argument.

A loop works on a clone of its connection, made when it was started.  The two share
everything but the window size, and the one of the clone is an argument.
-/

namespace NknSdk.Ncp

open Exec

/-! ## The state -/

/-- What is handed to `send_with`. -/
structure Datagram where
  localClientId : String
  remoteClientId : String
  buf : Bytes
  /-- In nanoseconds. -/
  timeout : Nat
deriving DecidableEq

/-- The entries of `NcpConfig` that only the calls here read.  Times are milliseconds. -/
structure SendConfig where
  initialRetransmissionTimeout : Nat := 5000
  maxRetransmissionTimeout : Nat := 10000
  maxAskSeqListSize : Nat := 32
  sendBytesReadThreshold : Nat := 200

/-- A session, and what the model of its calls leaves out. -/
structure Endpoint where
  config : SendConfig
  session : Session
  isAccepted : Bool
  /-- The sequence number waiting in `resend_chan`. -/
  resendChan : Option UInt32
  /-- Oldest first. -/
  sent : List Datagram

/-- `Session::new`. -/
def Endpoint.new (config : SendConfig) (session : Session) : Endpoint :=
  { config, session, isAccepted := false, resendChan := none, sent := [] }

abbrev EndCall (α : Type) : Type := Exec NcpError Endpoint α

/-- A call of the session. -/
def onSession {α : Type} (m : Call α) : EndCall α :=
  zoom Endpoint.session (fun e session => { e with session }) m

/-- `send_with`.  `answer n` is whether the call after `n` others returns `Ok`. -/
def sendWith (answer : Nat → Bool) (datagram : Datagram) : EndCall Bool := do
  let e ← get
  modify fun e => { e with sent := e.sent ++ [datagram] }
  return answer e.sent.length

/-- `send_with` where an error panics. -/
def expectSent (answer : Nat → Bool) (datagram : Datagram) : EndCall Unit := do
  let isOk ← sendWith answer datagram
  require (isOk = true)

/-! ## Opening and closing -/

/-- The client that the handshake of the `i`th local client goes to.  An index out of
bounds panics. -/
def handshakeRemote (remoteClientIds : List String) (i : Nat) (id : String) : EndCall String :=
  if remoteClientIds ≠ [] then unwrap remoteClientIds[i]? else pure id

/-- `Session::send_handshake_packet`.  `first` is the key of the first connection. -/
def sendHandshakePacket (answer : Nat → Bool) (first : String) (writeTimeout : Nat) :
    EndCall Unit := do
  let e ← get
  let buf := (handshakePacket e.session).encode
  if e.session.connections.entries ≠ [] then
    let conn ← unwrap (e.session.connections.lookup first)
    expectSent answer
      { localClientId := conn.localClientId, remoteClientId := conn.remoteClientId, buf
        timeout := writeTimeout }
  else
    e.session.localClientIds.zipIdx.forM fun (id, i) => do
      let remoteClientId ← handshakeRemote e.session.remoteClientIds i id
      expectSent answer { localClientId := id, remoteClientId, buf, timeout := writeTimeout }

/-- The first of `dial` and `accept` sends the handshake, and any other returns at once. -/
def openSession (answer : Nat → Bool) (first : String) (timeout : Nat) : EndCall Unit := do
  let e ← get
  if e.isAccepted then return ()
  else
    modify fun e => { e with isAccepted := true }
    sendHandshakePacket answer first (timeout * 10 ^ 6)

/-- `Session::dial`. -/
def dial (answer : Nat → Bool) (first : String) : EndCall Unit := do
  let e ← get
  openSession answer first e.config.initialRetransmissionTimeout

/-- `Session::accept`. -/
def accept (answer : Nat → Bool) (first : String) : EndCall Unit := do
  let e ← get
  openSession answer first e.config.maxRetransmissionTimeout

/-- The packet of `send_close_packet`. -/
def closePacket : Pb.Packet := { close := true }

/-- `Session::send_close_packet`.  The list of tasks it then waits for is empty, and
`select_ok` of an empty list panics. -/
def sendClosePacket (answer : Nat → Bool) (first : String) : EndCall Unit := do
  let e ← get
  if e.session.isEstablished = false then return ()
  else
    let conn ← unwrap (e.session.connections.lookup first)
    expectSent answer
      { localClientId := conn.localClientId, remoteClientId := conn.remoteClientId
        buf := closePacket.encode, timeout := conn.retransmissionTimeout }
    panic

/-! ## The loops -/

/-- Nothing is to be said about the bytes that were read: there are none, the last
message is newer than they are, or they are too new themselves. -/
def bytesReadSettled (e : Endpoint) (now sentTime updateTime : Nat) : Prop :=
  e.session.bytesRead = 0 ∨ updateTime ≤ sentTime ∨
    now < updateTime + e.config.sendBytesReadThreshold * 10 ^ 6

instance (e : Endpoint) (now sentTime updateTime : Nat) :
    Decidable (bytesReadSettled e now sentTime updateTime) :=
  inferInstanceAs (Decidable (_ ∨ _))

/-- One iteration of `start_check_bytes_read`, with the times of the last message and of
the last read.  The connections are met in the order of `keys`, and errors are dropped. -/
def checkBytesRead (answer : Nat → Bool) (now sentTime updateTime : Nat) (keys : List String) :
    EndCall Unit := do
  let e ← get
  if bytesReadSettled e now sentTime updateTime then return ()
  else
    let p : Pb.Packet := { bytesRead := e.session.bytesRead }
    keys.forM fun key => do
      let conn ← unwrap (e.session.connections.lookup key)
      let _ ← sendWith answer
        { localClientId := conn.localClientId, remoteClientId := conn.remoteClientId
          buf := p.encode, timeout := conn.retransmissionTimeout / 10 ^ 6 * 10 ^ 6 }
      return ()

/-- What the loops of a connection see.  `windowSize` is the one of the clone. -/
def Endpoint.transmit (e : Endpoint) (conn : Connection) (windowSize : ℚ) : Transmit where
  conn := { conn with windowSize }
  sendWindowData := e.session.sendWindowData
  sendChan := e.session.sendChan
  resendChan := e.resendChan
  running := true

/-- The endpoint after an iteration on the connection `conn`. -/
def Endpoint.settle (e : Endpoint) (key : String) (conn : Connection) (m : Transmit) : Endpoint :=
  { e with
    session :=
      { e.session with
        connections := e.session.connections.insert key
          { m.conn with windowSize := conn.windowSize }
        sendChan := m.sendChan }
    resendChan := m.resendChan }

/-- What an iteration of `tx` has handed to `send_with`.  Both addresses are the local
one. -/
def txDatagrams (conn : Connection) (sendWindowData : AList fun _ : UInt32 => Bytes) :
    Outcome NcpError (Option UInt32) → List Datagram
  | .ok (some seq) =>
      match sendWindowData.lookup seq with
      | some buf =>
          if buf = [] then []
          else
            [{ localClientId := conn.localClientId, remoteClientId := conn.localClientId, buf
               timeout := 0 }]
      | none => []
  | _ => []

/-- One iteration of `connection::tx` on the connection of `key`. -/
def Endpoint.runTx (e : Endpoint) (key : String) (windowSize : ℚ) (input : TxInput) : Endpoint :=
  match e.session.connections.lookup key with
  | none => e
  | some conn =>
      let after := Ncp.tx input (e.transmit conn windowSize)
      { e.settle key conn after.2 with
        sent := e.sent ++ txDatagrams conn e.session.sendWindowData after.1 }

/-- One iteration of `connection::check_timeout` on the connection of `key`. -/
def Endpoint.runCheckTimeout (e : Endpoint) (key : String) (windowSize : ℚ) (now : Nat)
    (order : List UInt32) : Endpoint :=
  match e.session.connections.lookup key with
  | none => e
  | some conn => e.settle key conn (Ncp.checkTimeout now order (e.transmit conn windowSize)).2

/-- One iteration of `connection::send_ack` on the connection of `key`.  The call of
`send_with` at its end takes the lock of the connection for each of its first two
arguments.  The guard of the first lives until the call, so that the second waits for
ever. -/
def sendAcks (o : Overflow) (key : String) : EndCall Unit := do
  let e ← get
  let conn ← unwrap (e.session.connections.lookup key)
  if conn.sendAckQueue.length = 0 then return ()
  else
    let _ ← zoom (fun _ => conn)
      (fun e conn => { e with
        session := { e.session with connections := e.session.connections.insert key conn } })
      (collect o e.config.maxAskSeqListSize)
    block

/-! ## Events -/

/-- A call on a session, or an iteration of one of its loops. -/
inductive EndEvent where
  | dial (first : String)
  | accept (first : String)
  | sendClosePacket (first : String)
  | receive (now : Nat) (localClientId remoteClientId : String) (buf : Bytes)
  /-- The application hands over a packet that it has from elsewhere. -/
  | handshake (packet : Pb.Packet)
  | close
  | read (len : Nat)
  | write (buf : Bytes)
  /-- A tick of the flush timer. -/
  | flush
  | checkBytesRead (now sentTime updateTime : Nat) (keys : List String)
  | tx (key : String) (windowSize : ℚ) (input : TxInput)
  | checkTimeout (key : String) (windowSize : ℚ) (now : Nat) (order : List UInt32)
  | sendAcks (key : String)

/-- The bytes that come in. -/
def EndEvent.received : EndEvent → Option Bytes
  | .receive _ _ _ buf => some buf
  | _ => none

/-- A handshake that the application has from elsewhere. -/
def EndEvent.isHandshake : EndEvent → Bool
  | .handshake _ => true
  | _ => false

namespace Endpoint

/-- The endpoint after an event, however the call ends. -/
def after (d : Deps) (answer : Nat → Bool) (e : Endpoint) : EndEvent → Endpoint
  | .dial first => (Ncp.dial answer first e).2
  | .accept first => (Ncp.accept answer first e).2
  | .sendClosePacket first => (Ncp.sendClosePacket answer first e).2
  | .receive now localClientId remoteClientId buf =>
      (onSession (receiveWith { d with now } localClientId remoteClientId buf) e).2
  | .handshake packet => (onSession (handleHandshakePacket packet) e).2
  | .close => (onSession handleClosePacket e).2
  | .read len => (onSession (Ncp.read d.overflow len) e).2
  | .write buf => (onSession (Ncp.write d.overflow buf) e).2
  | .flush => (onSession flushSendBuffer e).2
  | .checkBytesRead now sentTime updateTime keys =>
      (Ncp.checkBytesRead answer now sentTime updateTime keys e).2
  | .tx key windowSize input => e.runTx key windowSize input
  | .checkTimeout key windowSize now order => e.runCheckTimeout key windowSize now order
  | .sendAcks key => (Ncp.sendAcks d.overflow key e).2

end Endpoint

/-! ## The session inside -/

section Inside

variable {I : Session → Prop}

/-- Sending leaves the session as it is. -/
theorem keeps_session_expectSent (answer : Nat → Bool) (datagram : Datagram) :
    Keeps (fun e : Endpoint => I e.session) (expectSent answer datagram) := by
  refine keeps_bind (keeps_bind keeps_get fun e => ?_) fun _ => keeps_require _
  exact keeps_bind (keeps_modify fun e h => h) fun _ => keeps_pure _

theorem keeps_session_openSession (answer : Nat → Bool) (first : String) (timeout : Nat) :
    Keeps (fun e : Endpoint => I e.session) (openSession answer first timeout) := by
  refine keeps_bind keeps_get fun e => keeps_ite (keeps_pure _) ?_
  refine keeps_bind (keeps_modify fun e h => h) fun _ => keeps_bind keeps_get fun e => ?_
  refine keeps_ite (keeps_bind (keeps_unwrap _) fun conn => keeps_session_expectSent answer _) ?_
  refine keeps_forM fun pair => keeps_bind ?_ fun _ => keeps_session_expectSent answer _
  exact keeps_ite (keeps_unwrap _) (keeps_pure _)

theorem keeps_session_sendClosePacket (answer : Nat → Bool) (first : String) :
    Keeps (fun e : Endpoint => I e.session) (sendClosePacket answer first) := by
  refine keeps_bind keeps_get fun e => keeps_ite (keeps_pure _) ?_
  refine keeps_bind (keeps_unwrap _) fun conn => ?_
  exact keeps_bind (keeps_session_expectSent answer _) fun _ => keeps_panic

theorem keeps_session_checkBytesRead (answer : Nat → Bool) (now sentTime updateTime : Nat)
    (keys : List String) :
    Keeps (fun e : Endpoint => I e.session)
      (checkBytesRead answer now sentTime updateTime keys) := by
  refine keeps_bind keeps_get fun e => keeps_ite (keeps_pure _) ?_
  refine keeps_forM fun key => keeps_bind (keeps_unwrap _) fun conn => ?_
  refine keeps_bind (keeps_bind keeps_get fun e => ?_) fun _ => keeps_pure _
  exact keeps_bind (keeps_modify fun e h => h) fun _ => keeps_pure _

theorem keeps_session_sendAcks (hloops : ∀ s connections, I s → I { s with connections })
    (o : Overflow) (key : String) : Keeps (fun e : Endpoint => I e.session) (sendAcks o key) := by
  refine keeps_bind keeps_get fun e => keeps_bind (keeps_unwrap _) fun conn => ?_
  refine keeps_ite (keeps_pure _) (keeps_bind ?_ fun _ => keeps_block)
  exact keeps_zoom (fun e conn h => hloops e.session _ h) _

end Inside

/-- What the loops do to the session. -/
def Session.tasks (s : Session) (connections : AList fun _ : String => Connection)
    (sendChan : Option UInt32) : Event :=
  .tasks connections sendChan s.sendWindowUpdate s.recvDataUpdate s.onAccept

namespace Endpoint

/-- An event at an endpoint is an event of its session: what holds in every run of a
session holds at every endpoint. -/
theorem session_after (d : Deps) (answer : Nat → Bool) (e : Endpoint) (event : EndEvent) :
    ∃ ev, (e.after d answer event).session = e.session.after d ev := by
  have hidle : ∀ {e' : Endpoint}, e'.session = e.session →
      ∃ ev, e'.session = e.session.after d ev := by
    intro e' h
    exact ⟨e.session.tasks e.session.connections e.session.sendChan, h⟩
  cases event with
  | dial first =>
      exact hidle (keeps_session_openSession (I := (· = e.session)) answer first _ e rfl)
  | accept first =>
      exact hidle (keeps_session_openSession (I := (· = e.session)) answer first _ e rfl)
  | sendClosePacket first =>
      exact hidle (keeps_session_sendClosePacket (I := (· = e.session)) answer first e rfl)
  | receive now localClientId remoteClientId buf =>
      exact ⟨.receive now localClientId remoteClientId buf, rfl⟩
  | handshake packet => exact ⟨.handshake packet, rfl⟩
  | close => exact ⟨.close, rfl⟩
  | read len => exact ⟨.read len, rfl⟩
  | write buf => exact ⟨.write buf, rfl⟩
  | flush => exact ⟨.flush, rfl⟩
  | checkBytesRead now sentTime updateTime keys =>
      exact hidle (keeps_session_checkBytesRead (I := (· = e.session)) answer now sentTime
        updateTime keys e rfl)
  | tx key windowSize input =>
      show ∃ ev, (e.runTx key windowSize input).session = _
      unfold runTx
      split
      next => exact hidle rfl
      next conn hconn => exact ⟨e.session.tasks _ _, rfl⟩
  | checkTimeout key windowSize now order =>
      show ∃ ev, (e.runCheckTimeout key windowSize now order).session = _
      unfold runCheckTimeout
      split
      next => exact hidle rfl
      next conn hconn => exact ⟨e.session.tasks _ _, rfl⟩
  | sendAcks key =>
      obtain ⟨connections, h⟩ := keeps_session_sendAcks
        (I := fun s => ∃ connections, s = { e.session with connections })
        (fun s connections ⟨_, hs⟩ => ⟨connections, by rw [hs]⟩) d.overflow key e
        ⟨e.session.connections, rfl⟩
      exact ⟨e.session.tasks connections e.session.sendChan, h⟩

end Endpoint

end NknSdk.Ncp
