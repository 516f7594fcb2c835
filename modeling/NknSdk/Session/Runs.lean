import NknSdk.Lib.Run
import NknSdk.Session.Receive

/-!
# Runs of a session

The calls on one session, one at a time: `receive_with` takes the session
exclusively, and so no other call is under way beside it.  The tasks of the
connections run beside the calls.  They work on the queues of the connections and
on the channels, and `tasks` replaces these by anything at all.  A call that
panics or never returns leaves the session as it was at that point, and others
may go on.

`Inv` holds in every state of every run.  Data is stored only where data is
already there, and nothing is there at the start: the receive window stays empty,
and its start never moves.
-/

namespace NknSdk.Ncp

open Exec

/-! ## Events -/

inductive Event where
  | receive (now : Nat) (localClientId remoteClientId : String) (buf : Bytes)
  | handshake (packet : Pb.Packet)
  | close
  | read (len : Nat)
  | write (buf : Bytes)
  /-- A tick of the flush timer. -/
  | flush
  | tasks (connections : AList fun _ : String => Connection) (sendChan : Option UInt32)
      (sendWindowUpdate recvDataUpdate onAccept : Bool)

/-- The session after an event. -/
def Session.after (d : Deps) (s : Session) : Event → Session
  | .receive now localClientId remoteClientId buf =>
      (receiveWith { d with now } localClientId remoteClientId buf s).2
  | .handshake packet => (handleHandshakePacket packet s).2
  | .close => (handleClosePacket s).2
  | .read len => (Ncp.read d.overflow len s).2
  | .write buf => (Ncp.write d.overflow buf s).2
  | .flush => (flushSendBuffer s).2
  | .tasks connections sendChan sendWindowUpdate recvDataUpdate onAccept =>
      { s with connections, sendChan, sendWindowUpdate, recvDataUpdate, onAccept }

/-! ## The invariant -/

structure Inv (s : Session) : Prop where
  recvWindowData : s.recvWindowData = ∅
  recvWindowStartSeq : s.recvWindowStartSeq = minSequenceId
  sendWindowEndSeq : s.sendWindowEndSeq ≠ 0

namespace Inv

/-- The fields the invariant is about. -/
def core (s : Session) : (AList fun _ : UInt32 => Bytes) × UInt32 × UInt32 :=
  (s.recvWindowData, s.recvWindowStartSeq, s.sendWindowEndSeq)

theorem new (config : NcpConfig) (localClientIds remoteClientIds : List String) :
    Inv (Session.new config localClientIds remoteClientIds) where
  recvWindowData := rfl
  recvWindowStartSeq := rfl
  sendWindowEndSeq := by
    show minSequenceId ≠ 0
    decide

/-- A statement that touches none of the three fields keeps the invariant. -/
theorem keeps_modify {f : Session → Session} (hf : ∀ s, core (f s) = core s) :
    Keeps Inv (modify f : Call Unit) := by
  intro s h
  have hs := hf s
  simp only [core, Prod.mk.injEq] at hs
  refine ⟨hs.1.trans h.recvWindowData, hs.2.1.trans h.recvWindowStartSeq, ?_⟩
  show (f s).sendWindowEndSeq ≠ 0
  rw [hs.2.2]
  exact h.sendWindowEndSeq

theorem handleHandshakePacket (packet : Pb.Packet) :
    Keeps Inv (handleHandshakePacket packet) := by
  refine keeps_bind keeps_get fun s => ?_
  refine keeps_ite (keeps_pure _) (keeps_ite (keeps_pure _) ?_)
  refine keeps_bind (keeps_when (keeps_modify fun _ => rfl)) ?_
  refine fun _ => keeps_ite (keeps_pure _) ?_
  refine keeps_bind (keeps_when (keeps_modify fun _ => rfl)) ?_
  refine fun _ => keeps_bind (keeps_modify fun _ => rfl) ?_
  refine fun _ => keeps_ite (keeps_pure _) ?_
  refine keeps_bind (keeps_modify fun _ => rfl) fun _ => ?_
  refine keeps_bind keeps_get fun s => ?_
  exact keeps_ite keeps_block (keeps_modify fun _ => rfl)

theorem handleClosePacket : Keeps Inv handleClosePacket := by
  refine keeps_bind keeps_get fun s => ?_
  exact keeps_ite (keeps_modify fun _ => rfl) (keeps_pure _)

theorem flushSendBuffer : Keeps Inv flushSendBuffer := by
  refine keeps_bind keeps_get fun s => ?_
  refine keeps_ite (keeps_pure _) ?_
  refine keeps_bind (keeps_modify fun _ => rfl) fun _ => ?_
  refine keeps_bind (Exec.keeps_modify fun s' h => ?_) fun _ => ?_
  · exact ⟨h.recvWindowData, h.recvWindowStartSeq, nextSeq_ne_zero _ _⟩
  · refine keeps_bind (keeps_modify fun _ => rfl) fun _ => ?_
    exact keeps_ite keeps_block (keeps_modify fun _ => rfl)

theorem write (o : Overflow) (buf : Bytes) : Keeps Inv (write o buf) := by
  refine keeps_bind keeps_get fun s => ?_
  cases writeError s buf with
  | some e => exact keeps_throw e
  | none =>
      refine keeps_ite (keeps_pure _) ?_
      refine keeps_bind ?_ fun _ => keeps_bind ?_ fun _ => keeps_bind keeps_get fun s => ?_
      · refine keeps_bind keeps_get fun s => keeps_bind (keeps_arith _ _ _) fun needed => ?_
        exact keeps_ite keeps_block (keeps_arith _ _ _)
      · unfold fillSendBuffer
        split
        · exact keeps_modify fun _ => rfl
        · exact keeps_panic
      · refine keeps_bind (keeps_arith _ _ _) fun bytesWrite => ?_
        refine keeps_bind (keeps_modify fun _ => rfl) fun _ => ?_
        exact keeps_bind flushSendBuffer fun _ => keeps_pure _

/-- A read finds no data: it waits and panics. -/
theorem readRound (o : Overflow) (len : Nat) : Keeps Inv (readRound o len) := by
  intro s h
  have hmiss : s.recvWindowData.lookup s.recvWindowStartSeq = none := by
    rw [h.recvWindowData, AList.lookup_empty]
  have hnone : ¬ (s.recvWindowData.lookup s.recvWindowStartSeq).isSome = true := by
    rw [hmiss]
    exact Bool.false_ne_true
  rw [Ncp.readRound, get_bind_apply, if_neg hnone, modify_bind_apply, hmiss, unwrap_none]
  exact ⟨h.recvWindowData, h.recvWindowStartSeq, h.sendWindowEndSeq⟩

theorem ackFrame : AckFrame Inv where
  connections _ _ h := ⟨h.recvWindowData, h.recvWindowStartSeq, h.sendWindowEndSeq⟩
  sendWindowData _ _ h := ⟨h.recvWindowData, h.recvWindowStartSeq, h.sendWindowEndSeq⟩
  sendWindowStartSeq _ _ h := ⟨h.recvWindowData, h.recvWindowStartSeq, h.sendWindowEndSeq⟩
  ackRanges _ _ h := ⟨h.recvWindowData, h.recvWindowStartSeq, h.sendWindowEndSeq⟩

theorem receiveBytesRead (p : Pb.Packet) : Keeps Inv (receiveBytesRead p) := by
  refine keeps_bind keeps_get fun s => keeps_ite ?_ (keeps_pure _)
  refine keeps_bind (keeps_modify fun _ => rfl) fun _ => ?_
  exact keeps_ite keeps_block (keeps_modify fun _ => rfl)

end Inv

/-- Nothing is stored in an empty receive window. -/
theorem storeData_eq (o : Overflow) (p : Pb.Packet) {s : Session} (h : Inv s) :
    storeData o p s = (.ok true, s) := by
  rw [storeData, get_bind_apply, if_neg]
  · rfl
  · rw [h.recvWindowData, AList.lookup_empty]
    simp

namespace Inv

theorem storeData (o : Overflow) (p : Pb.Packet) : Keeps Inv (storeData o p) := by
  intro s h
  rw [storeData_eq o p h]
  exact h

theorem receiveWith (d : Deps) (localClientId remoteClientId : String) (buf : Bytes) :
    Keeps Inv (receiveWith d localClientId remoteClientId buf) :=
  ackFrame.receiveWith handleClosePacket handleHandshakePacket receiveBytesRead
    (storeData d.overflow) localClientId remoteClientId buf

/-- Every event keeps the invariant. -/
theorem after {s : Session} (h : Inv s) (d : Deps) (e : Event) : Inv (s.after d e) := by
  cases e with
  | receive now localClientId remoteClientId buf =>
      exact receiveWith _ localClientId remoteClientId buf s h
  | handshake packet => exact handleHandshakePacket packet s h
  | close => exact handleClosePacket s h
  | read len => exact keeps_read (readRound d.overflow len) s h
  | write buf => exact write d.overflow buf s h
  | flush => exact flushSendBuffer s h
  | tasks connections sendChan sendWindowUpdate recvDataUpdate onAccept =>
      exact ⟨h.recvWindowData, h.recvWindowStartSeq, h.sendWindowEndSeq⟩

end Inv

/-! ## A short session

The packets of a session between clients `a` and `b` that are short enough to be
taken.  The decoder is the real one at these packets. -/

def sampleHandshake : Pb.Packet :=
  { clientIds := ["b"], windowSize := 64, mtu := 64, handshake := true }

def sampleData (seq : UInt32) : Pb.Packet := { sequenceId := seq, data := [7] }

def sampleDeps : Deps where
  overflow := .checked
  decodePacket := fun buf =>
    [sampleHandshake, sampleData 1, sampleData 3000000000, ackPacket [1] [1],
      ackPacket [1] [2]].find? fun p => p.encode = buf
  now := 0
  tanh := fun _ => 0

/-- A session after the handshake. -/
def sampleEstablished : Session :=
  (handleHandshakePacket sampleHandshake (Session.new {} ["a"] [])).2

/-- The handshake that brings it about. -/
def sampleSession : List Event := [.receive 0 "a" "b" sampleHandshake.encode]

end NknSdk.Ncp
