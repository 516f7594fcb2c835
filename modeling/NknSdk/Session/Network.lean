import NknSdk.Pb.PacketDecode
import NknSdk.Session.Quiet

/-!
# Sessions over a network

Any number of sessions, and a network between them that may lose, delay, reorder and
duplicate what they hand to `send_with`, and may take it to any of them.  A step is an
event at one end.  What an end receives was sent before, at any end.

No session is ever established over the network (`never_established`).  Where the
application takes the handshakes across by other means, nothing more comes through
(`nothing_arrives`), and a session writes one send window in its life: a write that does
not fit into it waits for ever (`write_never_fits`).
-/

namespace NknSdk.Ncp

open Exec

/-! ## The send window is used up -/

/-- `n` bytes do not fit any more. -/
def Full (n : Nat) (s : Session) : Prop := s.sendWindowSize.toNat < s.bytesWrite.toNat + n

instance (n : Nat) (s : Session) : Decidable (Full n s) := inferInstanceAs (Decidable (_ < _))

/-- The window has not grown, and the count of written bytes is as it was. -/
structure Spent (window : Nat) (written : UInt64) (s : Session) : Prop where
  window : s.sendWindowSize.toNat ≤ window
  written : s.bytesWrite = written

namespace Spent

variable {window : Nat} {written : UInt64}

theorem keeps_modify {f : Session → Session}
    (hf : ∀ s, (f s).sendWindowSize = s.sendWindowSize ∧ (f s).bytesWrite = s.bytesWrite) :
    Keeps (Spent window written) (modify f : Call Unit) := by
  intro s h
  obtain ⟨hwindow, hwritten⟩ := hf s
  refine ⟨?_, hwritten.trans h.written⟩
  show (f s).sendWindowSize.toNat ≤ window
  rw [hwindow]
  exact h.window

/-- A handshake makes the window smaller if it changes it. -/
theorem handleHandshakePacket (packet : Pb.Packet) :
    Keeps (Spent window written) (handleHandshakePacket packet) := by
  intro s h
  rw [Ncp.handleHandshakePacket]
  refine keeps_get_bind (I := Spent window written) (fun s h => ?_) s h
  refine keeps_ite (keeps_pure _) (keeps_ite (keeps_pure _) (keeps_bind ?_ fun _ => ?_))
  · by_cases hlt : packet.windowSize < s.sendWindowSize
    · rw [when_pos hlt]
      refine Exec.keeps_modify fun s' h' => ⟨?_, h'.written⟩
      exact Nat.le_trans (Nat.le_of_lt (UInt32.lt_iff_toNat_lt.mp hlt)) h.window
    · rw [when_neg hlt]
      exact keeps_pure _
  · refine keeps_ite (keeps_pure _) ?_
    refine keeps_bind (keeps_when (keeps_modify fun _ => ⟨rfl, rfl⟩)) fun _ => ?_
    refine keeps_bind (keeps_modify fun _ => ⟨rfl, rfl⟩) fun _ => keeps_ite (keeps_pure _) ?_
    refine keeps_bind (keeps_modify fun _ => ⟨rfl, rfl⟩) fun _ => keeps_bind keeps_get fun s => ?_
    exact keeps_ite keeps_block (keeps_modify fun _ => ⟨rfl, rfl⟩)

theorem ackFrame : AckFrame (Spent window written) where
  connections _ _ h := ⟨h.window, h.written⟩
  sendWindowData _ _ h := ⟨h.window, h.written⟩
  sendWindowStartSeq _ _ h := ⟨h.window, h.written⟩
  ackRanges _ _ h := ⟨h.window, h.written⟩

theorem handleClosePacket : Keeps (Spent window written) handleClosePacket := by
  refine keeps_bind keeps_get fun s => ?_
  exact keeps_ite (keeps_modify fun _ => ⟨rfl, rfl⟩) (keeps_pure _)

theorem receiveWith (d : Deps) (localClientId remoteClientId : String) (buf : Bytes) :
    Keeps (Spent window written) (receiveWith d localClientId remoteClientId buf) := by
  refine ackFrame.receiveWith handleClosePacket handleHandshakePacket (fun p => ?_) (fun p => ?_)
    localClientId remoteClientId buf
  · refine keeps_bind keeps_get fun s => keeps_ite ?_ (keeps_pure _)
    refine keeps_bind (keeps_modify fun _ => ⟨rfl, rfl⟩) fun _ => ?_
    exact keeps_ite keeps_block (keeps_modify fun _ => ⟨rfl, rfl⟩)
  · refine keeps_bind keeps_get fun s => keeps_ite ?_ (keeps_pure _)
    refine keeps_bind (keeps_arith _ _ _) fun used => keeps_ite (keeps_pure _) ?_
    refine keeps_bind (keeps_modify fun _ => ⟨rfl, rfl⟩) fun _ => keeps_bind (keeps_arith _ _ _) ?_
    intro recvWindowUsed
    refine keeps_bind (keeps_modify fun _ => ⟨rfl, rfl⟩) fun _ => ?_
    exact keeps_bind (keeps_when (keeps_modify fun _ => ⟨rfl, rfl⟩)) fun _ => keeps_pure _

theorem readRound (o : Overflow) (len : Nat) :
    Keeps (Spent window written) (readRound o len) := by
  refine keeps_bind keeps_get fun s => keeps_ite (keeps_pure _) ?_
  refine keeps_bind (keeps_modify fun _ => ⟨rfl, rfl⟩) fun _ => keeps_bind (keeps_unwrap _) ?_
  intro data
  refine keeps_bind keeps_get fun s => keeps_ite (keeps_pure _) ?_
  refine keeps_bind (keeps_modify fun s => ?_) fun _ => keeps_bind (keeps_arith _ _ _) ?_
  · split
    · exact ⟨rfl, rfl⟩
    · exact ⟨rfl, rfl⟩
  intro recvWindowUsed
  refine keeps_bind (keeps_modify fun _ => ⟨rfl, rfl⟩) fun _ => keeps_bind (keeps_arith _ _ _) ?_
  intro bytesRead
  exact keeps_bind (keeps_modify fun _ => ⟨rfl, rfl⟩) fun _ => keeps_ite keeps_block (keeps_pure _)

theorem flushSendBuffer : Keeps (Spent window written) flushSendBuffer := by
  refine keeps_bind keeps_get fun s => keeps_ite (keeps_pure _) ?_
  refine keeps_bind (keeps_modify fun _ => ⟨rfl, rfl⟩) fun _ => ?_
  refine keeps_bind (keeps_modify fun _ => ⟨rfl, rfl⟩) fun _ => ?_
  refine keeps_bind (keeps_modify fun _ => ⟨rfl, rfl⟩) fun _ => ?_
  exact keeps_ite keeps_block (keeps_modify fun _ => ⟨rfl, rfl⟩)

/-- Every event but a write. -/
theorem after {s : Session} (h : Spent window written s) (d : Deps) {ev : Event}
    (hev : ∀ buf, ev ≠ .write buf) : Spent window written (s.after d ev) := by
  cases ev with
  | receive now localClientId remoteClientId buf =>
      exact receiveWith _ localClientId remoteClientId buf s h
  | handshake packet => exact handleHandshakePacket packet s h
  | close => exact handleClosePacket s h
  | read len => exact keeps_read (readRound d.overflow len) s h
  | write buf => exact absurd rfl (hev buf)
  | flush => exact flushSendBuffer s h
  | tasks connections sendChan sendWindowUpdate recvDataUpdate onAccept =>
      exact ⟨h.window, h.written⟩

end Spent

/-- The same, or `n` bytes more are counted. -/
def Counted (window : Nat) (written : UInt64) (n : Nat) (s : Session) : Prop :=
  Spent window written s ∨ Spent window (written + UInt64.ofNat n) s

section Full

variable {s : Session} {n : Nat}

/-- A write counts its bytes once or not at all. -/
theorem write_counts {window : Nat} {written : UInt64} (h : Spent window written s) (o : Overflow)
    (buf : Bytes) : Counted window written buf.length (write o buf s).2 := by
  rw [write, get_bind_apply]
  cases writeError s buf with
  | some e => exact Or.inl h
  | none =>
      dsimp only
      by_cases hstream : s.isStream = true
      · rw [if_pos hstream]
        exact Or.inl h
      · rw [if_neg hstream]
        have hwait : Keeps (Spent window written)
            (waitForSendWindow o (UInt32.ofNat buf.length)) := by
          refine keeps_bind keeps_get fun s => keeps_bind (keeps_arith _ _ _) fun needed => ?_
          exact keeps_ite keeps_block (keeps_arith _ _ _)
        have hfill : Keeps (Spent window written) (fillSendBuffer buf) := by
          unfold fillSendBuffer
          split
          · exact Spent.keeps_modify fun _ => ⟨rfl, rfl⟩
          · exact keeps_panic
        refine snd_bind (Or.inl (hwait s h)) ?_
        intro _ s₁ h₁
        have hs₁ := hwait.of_eq h h₁
        refine snd_bind (Or.inl (hfill s₁ hs₁)) ?_
        intro _ s₂ h₂
        have hs₂ := hfill.of_eq hs₁ h₂
        rw [get_bind_apply]
        refine snd_bind (Or.inl (keeps_arith _ _ _ s₂ hs₂)) ?_
        intro bytesWrite s₃ hadd
        obtain ⟨rfl, rfl⟩ := arith_ok hadd
        rw [modify_bind_apply]
        refine Or.inr (keeps_bind Spent.flushSendBuffer (fun _ => keeps_pure _) _ ⟨hs₂.window, ?_⟩)
        show s₃.bytesWrite + UInt64.ofNat buf.length = written + UInt64.ofNat buf.length
        rw [hs₂.written]

/-- Where the other side has read nothing, a write that does not fit is refused or
waits. -/
theorem write_of_full (h : Flow s) (hremote : s.remoteBytesRead = 0) (o : Overflow) {buf : Bytes}
    (hfull : Full buf.length s) :
    (∃ e, write o buf s = (.err e, s)) ∨ write o buf s = (.block, s) := by
  rw [write, get_bind_apply]
  cases herr : writeError s buf with
  | some e => exact Or.inl ⟨e, rfl⟩
  | none =>
      obtain ⟨-, hfits⟩ := of_writeError_none herr
      have hwindow := h.window
      have hstream : ¬ s.isStream = true := by simp [Session.isStream, h.nonStream]
      have hlen : (UInt32.ofNat buf.length).toNat = buf.length := by
        rw [UInt32.toNat_ofNat']
        unfold maxSendWindow at hwindow
        omega
      have hused : s.sendWindowUsed.toNat = s.bytesWrite.toNat := by
        rw [h.sendWindowUsed_toNat, hremote]
        rfl
      have hwait := h.waitForSendWindow_eq (n := UInt32.ofNat buf.length) (by omega) o
      rw [hlen, hused, if_pos (show s.sendWindowSize.toNat < _ from hfull)] at hwait
      right
      dsimp only
      rw [if_neg hstream, bind_apply, hwait]

/-- A full window stays full. -/
theorem Full.after (hflow : Flow s) (hremote : s.remoteBytesRead = 0) (h : Full n s) (d : Deps)
    (ev : Event) : Full n (s.after d ev) := by
  have hspent : Spent s.sendWindowSize.toNat s.bytesWrite s := ⟨Nat.le_refl _, rfl⟩
  have hsame : ∀ {s'}, Spent s.sendWindowSize.toNat s.bytesWrite s' → Full n s' := by
    intro s' hs'
    have hwindow := hs'.window
    unfold Full at h ⊢
    rw [hs'.written]
    omega
  by_cases hwrite : ∃ buf, ev = .write buf
  · obtain ⟨buf, rfl⟩ := hwrite
    by_cases hfull : Full buf.length s
    · rcases write_of_full hflow hremote d.overflow hfull with ⟨e, heq⟩ | heq
      · show Full n (write d.overflow buf s).2
        rw [heq]
        exact h
      · show Full n (write d.overflow buf s).2
        rw [heq]
        exact h
    · rcases write_counts hspent d.overflow buf with hkept | hgrown
      · exact hsame hkept
      · have hroom := hflow.window
        have hwindow := hgrown.window
        unfold Full at h hfull ⊢
        unfold maxSendWindow at hroom
        have hlen : (UInt64.ofNat buf.length).toNat = buf.length := by
          rw [UInt64.toNat_ofNat']
          omega
        have hsum : (s.bytesWrite + UInt64.ofNat buf.length).toNat =
            s.bytesWrite.toNat + buf.length := by
          rw [UInt64.toNat_add, hlen]
          omega
        show (write d.overflow buf s).2.sendWindowSize.toNat <
          (write d.overflow buf s).2.bytesWrite.toNat + n
        rw [hgrown.written, hsum]
        omega
  · exact hsame (hspent.after d fun buf heq => hwrite ⟨buf, heq⟩)

end Full

/-! ## Sessions that are not established -/

structure Unopened (s : Session) : Prop where
  isEstablished : s.isEstablished = false
  isClosed : s.isClosed = false
  connections : s.connections = ∅

namespace Unopened

variable {s : Session}

theorem new (config : NcpConfig) (localClientIds remoteClientIds : List String) :
    Unopened (Session.new config localClientIds remoteClientIds) := ⟨rfl, rfl, rfl⟩

theorem write_eq (h : Unopened s) (o : Overflow) (buf : Bytes) :
    write o buf s = (.err .sessionNotEstablished, s) := by
  rw [write, get_bind_apply, writeError, if_pos h.isEstablished]
  rfl

theorem read_eq (h : Unopened s) (o : Overflow) (len : Nat) : read o len s = (.ok [], s) := by
  rw [read, get_bind_apply, if_neg (by simp [h.isClosed]), if_pos h.isEstablished]
  rfl

theorem flushSendBuffer : Keeps Unopened flushSendBuffer := by
  refine keeps_bind keeps_get fun s => keeps_ite (keeps_pure _) ?_
  refine keeps_bind (keeps_modify fun _ h => ⟨h.1, h.2, h.3⟩) fun _ => ?_
  refine keeps_bind (keeps_modify fun _ h => ⟨h.1, h.2, h.3⟩) fun _ => ?_
  refine keeps_bind (keeps_modify fun _ h => ⟨h.1, h.2, h.3⟩) fun _ => ?_
  exact keeps_ite keeps_block (keeps_modify fun _ h => ⟨h.1, h.2, h.3⟩)

/-- A close comes too early. -/
theorem handleClosePacket_eq (h : Unopened s) : handleClosePacket s = (.ok (), s) := by
  rw [handleClosePacket, get_bind_apply, if_neg (by simp [h.isEstablished])]
  rfl

theorem shaken (h : Unopened s) {packet : Pb.Packet} (hrejected : Rejected packet) :
    Unopened (s.shaken packet) := by
  by_cases hwindow : packet.windowSize = 0
  · rw [shaken_of_window_zero h.isEstablished hwindow]
    exact h
  · by_cases hmtu : packet.mtu = 0
    · rw [shaken_of_mtu_zero h.isEstablished hwindow hmtu]
      exact ⟨h.1, h.2, h.3⟩
    · have hids := (hrejected.resolve_left hwindow).resolve_left hmtu
      rw [shaken_of_no_ids h.isEstablished hwindow hmtu hids]
      exact ⟨h.1, h.2, h.3⟩

theorem receiveWith {d : Deps} (hdecode : ∀ p : Pb.Packet, d.decodePacket p.encode = some p)
    {buf : Bytes} (hbuf : Harmless buf) (localClientId remoteClientId : String) (h : Unopened s) :
    Unopened (receiveWith d localClientId remoteClientId buf s).2 := by
  rw [Ncp.receiveWith]
  by_cases hlong : maxReceiveLen < buf.length
  · rw [if_pos hlong]
    exact h
  · obtain ⟨p, hvoid, rfl⟩ := hbuf.resolve_left hlong
    rw [if_neg hlong, hdecode p, unwrap_some, pure_bind, receivePacket_void hvoid]
    by_cases hclose : p.close = true
    · rw [if_pos hclose, h.handleClosePacket_eq]
      exact h
    · rw [if_neg hclose]
      by_cases hhandshake : p.handshake = true
      · rw [when_pos ⟨h.isEstablished, hhandshake⟩]
        exact h.shaken (hvoid.rejected hhandshake)
      · rw [when_neg fun hand => hhandshake hand.2]
        exact h

/-- Without connections there is nothing for the loops to do. -/
theorem after {d : Deps} (hdecode : ∀ p : Pb.Packet, d.decodePacket p.encode = some p)
    (answer : Nat → Bool) {e : Endpoint} (h : Unopened e.session) {event : EndEvent}
    (hharmless : event.IsHarmless) (hevent : event.isHandshake = false) :
    Unopened (e.after d answer event).session := by
  have hnone : ∀ key, e.session.connections.lookup key = none := by
    intro key
    rw [h.connections, AList.lookup_empty]
  cases event with
  | dial first => exact keeps_session_openSession answer first _ e h
  | accept first => exact keeps_session_openSession answer first _ e h
  | sendClosePacket first => exact keeps_session_sendClosePacket answer first e h
  | receive now localClientId remoteClientId buf =>
      exact receiveWith (d := { d with now }) hdecode (hharmless buf rfl) localClientId
        remoteClientId h
  | handshake packet => cases hevent
  | close =>
      show Unopened (handleClosePacket e.session).2
      rw [h.handleClosePacket_eq]
      exact h
  | read len =>
      show Unopened (read d.overflow len e.session).2
      rw [h.read_eq]
      exact h
  | write buf =>
      show Unopened (write d.overflow buf e.session).2
      rw [h.write_eq]
      exact h
  | flush => exact flushSendBuffer e.session h
  | checkBytesRead now sentTime updateTime keys =>
      exact keeps_session_checkBytesRead answer now sentTime updateTime keys e h
  | tx key windowSize input =>
      show Unopened (e.runTx key windowSize input).session
      rw [Endpoint.runTx, hnone key]
      exact h
  | checkTimeout key windowSize now order =>
      show Unopened (e.runCheckTimeout key windowSize now order).session
      rw [Endpoint.runCheckTimeout, hnone key]
      exact h
  | sendAcks key =>
      show Unopened (sendAcks d.overflow key e).2.session
      rw [sendAcks, get_bind_apply, hnone key]
      exact h

end Unopened

/-! ## The network -/

variable {ι : Type}

structure Network (ι : Type) where
  ends : ι → Endpoint

namespace Network

/-- New sessions. -/
def new (sendConfig : ι → SendConfig) (config : ι → NcpConfig)
    (localClientIds remoteClientIds : ι → List String) : Network ι where
  ends i := Endpoint.new (sendConfig i)
    (Session.new (config i) (localClientIds i) (remoteClientIds i))

/-- The bytes were handed to `send_with` at some end. -/
def Carries (n : Network ι) (buf : Bytes) : Prop :=
  ∃ i, ∃ datagram ∈ (n.ends i).sent, datagram.buf = buf

/-- What is received was sent.  Handshakes may come from elsewhere. -/
def Carried (n : Network ι) (event : ι × EndEvent) : Prop :=
  ∀ buf ∈ event.2.received, n.Carries buf

/-- What is received was sent, and nothing comes from elsewhere. -/
def Wired (n : Network ι) (event : ι × EndEvent) : Prop :=
  n.Carried event ∧ event.2.isHandshake = false

instance [Fintype ι] (n : Network ι) (buf : Bytes) : Decidable (n.Carries buf) :=
  inferInstanceAs (Decidable (∃ i, ∃ datagram ∈ (n.ends i).sent, datagram.buf = buf))

instance [Fintype ι] (n : Network ι) (event : ι × EndEvent) : Decidable (n.Carried event) :=
  inferInstanceAs (Decidable (∀ buf ∈ event.2.received, n.Carries buf))

instance [Fintype ι] (n : Network ι) (event : ι × EndEvent) : Decidable (n.Wired event) :=
  inferInstanceAs (Decidable (_ ∧ _))

/-- What was sent by quiet ends is harmless. -/
theorem isHarmless_of_carried {n : Network ι} {event : ι × EndEvent}
    (hquiet : ∀ i, QuietEnd (n.ends i)) (hcarried : n.Carried event) : event.2.IsHarmless := by
  intro buf hbuf
  obtain ⟨i, datagram, hsent, rfl⟩ := hcarried buf hbuf
  exact (hquiet i).sent datagram hsent

section New

variable (sendConfig : ι → SendConfig) (config : ι → NcpConfig)
  (localClientIds remoteClientIds : ι → List String)

theorem quietEnd_new (i : ι) :
    QuietEnd ((new sendConfig config localClientIds remoteClientIds).ends i) :=
  QuietEnd.new (sendConfig i) (Quiet.new (config i) (localClientIds i) (remoteClientIds i))

theorem flow_new (hnonStream : ∀ i, (config i).nonStream = true) (i : ι) :
    Flow ((new sendConfig config localClientIds remoteClientIds).ends i).session :=
  Flow.new (hnonStream i) (localClientIds i) (remoteClientIds i)

end New

variable [DecidableEq ι]

/-- An event at one end. -/
def step (d : Deps) (answer : ι → Nat → Bool) (n : Network ι) (event : ι × EndEvent) :
    Option (Network ι) :=
  some { ends := Function.update n.ends event.1 ((n.ends event.1).after d (answer event.1) event.2) }

variable {d : Deps} {answer : ι → Nat → Bool} {n n' : Network ι} {event : ι × EndEvent}
  {events : List (ι × EndEvent)}

/-- A step changes the one end. -/
theorem ends_step (h : n.step d answer event = some n') (i : ι) :
    n'.ends i = if i = event.1 then (n.ends i).after d (answer i) event.2 else n.ends i := by
  cases h
  by_cases hi : i = event.1
  · subst hi
    rw [if_pos rfl]
    exact Function.update_self ..
  · rw [if_neg hi]
    exact Function.update_of_ne hi ..

/-- What an event keeps at the end where it happens, a step keeps at every end. -/
theorem forall_ends_step {I : Endpoint → Prop} (hI : ∀ i, I (n.ends i))
    (hafter : I ((n.ends event.1).after d (answer event.1) event.2))
    (h : n.step d answer event = some n') (i : ι) : I (n'.ends i) := by
  rw [ends_step h i]
  split
  next hi =>
    subst hi
    exact hafter
  next => exact hI i

section Runs

variable (hdecode : ∀ p : Pb.Packet, d.decodePacket p.encode = some p)

include hdecode

theorem quietEnd_step (hquiet : ∀ i, QuietEnd (n.ends i)) (hcarried : n.Carried event)
    (h : n.step d answer event = some n') (i : ι) : QuietEnd (n'.ends i) :=
  forall_ends_step hquiet
    ((hquiet event.1).after hdecode _ (isHarmless_of_carried hquiet hcarried)) h i

variable {sendConfig : ι → SendConfig} {config : ι → NcpConfig}
  {localClientIds remoteClientIds : ι → List String}

theorem quietEnd_run (hquiet : ∀ i, QuietEnd (n.ends i))
    (hcarried : Run.Meets (step d answer) Carried n events)
    (hrun : Run.runFrom (step d answer) n events = some n') : ∀ i, QuietEnd (n'.ends i) :=
  Run.invariant_of_meets (I := fun n : Network ι => ∀ i, QuietEnd (n.ends i))
    (fun _ _ _ hquiet hcarried h => quietEnd_step hdecode hquiet hcarried h) hquiet hcarried hrun

end Runs

/-- What the events of a session keep, a step keeps at every end. -/
theorem forall_sessions_step {I : Session → Prop} (hI : ∀ i, I (n.ends i).session)
    (hafter : ∀ i ev, I ((n.ends i).session.after d ev)) (h : n.step d answer event = some n')
    (i : ι) : I (n'.ends i).session := by
  refine forall_ends_step (I := fun e => I e.session) hI ?_ h i
  obtain ⟨ev, hev⟩ := (n.ends event.1).session_after d (answer event.1) event.2
  rw [hev]
  exact hafter event.1 ev

/-- Flow control holds at every end, whatever it receives. -/
theorem flow_run (hflow : ∀ i, Flow (n.ends i).session)
    (hrun : Run.runFrom (step d answer) n events = some n') : ∀ i, Flow (n'.ends i).session :=
  Run.invariant_of_step (I := fun n : Network ι => ∀ i, Flow (n.ends i).session)
    (fun _ _ _ hI hstep => forall_sessions_step hI (fun i ev => (hI i).after d ev) hstep) hflow hrun

end Network

/-- Nothing has come in at this end but handshakes and a close, and what it has sent
will be of no more use to others. -/
structure Silent (d : Deps) (e : Endpoint) : Prop where
  acks : ∀ key conn, e.session.connections.lookup key = some conn → conn.sendAckQueue = []
  recvWindowData : e.session.recvWindowData = ∅
  bytesRead : e.session.bytesRead = 0
  remoteBytesRead : e.session.remoteBytesRead = 0
  sendWindowStartSeq : e.session.sendWindowStartSeq = minSequenceId
  written : e.session.bytesWrite.toNat ≤ e.session.sendWindowSize.toNat
  window : e.session.sendWindowSize.toNat ≤ maxSendWindow
  sent : ∀ datagram ∈ e.sent, ∀ now localClientId remoteClientId, ∀ s : Session,
    s.isEstablished = true →
      (receiveWith { d with now } localClientId remoteClientId datagram.buf s).2 = s ∨
      (receiveWith { d with now } localClientId remoteClientId datagram.buf s).2 =
        { s with isClosed := true }

/-- What is harmless closes an established session, or does nothing. -/
theorem receiveWith_of_harmless {d : Deps}
    (hdecode : ∀ p : Pb.Packet, d.decodePacket p.encode = some p) {buf : Bytes}
    (hbuf : Harmless buf) (localClientId remoteClientId : String) {s : Session}
    (hest : s.isEstablished = true) :
    (receiveWith d localClientId remoteClientId buf s).2 = s ∨
      (receiveWith d localClientId remoteClientId buf s).2 = { s with isClosed := true } := by
  rw [receiveWith]
  by_cases hlong : maxReceiveLen < buf.length
  · rw [if_pos hlong]
    exact Or.inl rfl
  · obtain ⟨p, hvoid, rfl⟩ := hbuf.resolve_left hlong
    rw [if_neg hlong, hdecode p, unwrap_some, pure_bind, receivePacket_void hvoid]
    by_cases hclose : p.close = true
    · rw [if_pos hclose, handleClosePacket, get_bind_apply, if_pos hest]
      exact Or.inr rfl
    · rw [if_neg hclose, when_neg (by simp [hest])]
      exact Or.inl rfl

namespace Network

variable [DecidableEq ι] {d : Deps} {answer : ι → Nat → Bool} {n n' : Network ι}

/-- Over a network that only carries what sessions send, no session is ever established:
every write is refused, and every read returns nothing. -/
theorem never_established (hdecode : ∀ p : Pb.Packet, d.decodePacket p.encode = some p)
    (sendConfig : ι → SendConfig) (config : ι → NcpConfig)
    (localClientIds remoteClientIds : ι → List String) (events : List (ι × EndEvent))
    (hwired : Run.Meets (step d answer) Wired
      (new sendConfig config localClientIds remoteClientIds) events)
    (hrun : Run.runFrom (step d answer) (new sendConfig config localClientIds remoteClientIds)
      events = some n) (i : ι) :
    (n.ends i).session.isEstablished = false ∧
      (∀ o buf, write o buf (n.ends i).session =
        (.err .sessionNotEstablished, (n.ends i).session)) ∧
      ∀ o len, read o len (n.ends i).session = (.ok [], (n.ends i).session) := by
  have hboth : ∀ i, QuietEnd (n.ends i) ∧ Unopened (n.ends i).session := by
    refine Run.invariant_of_meets
      (I := fun n : Network ι => ∀ i, QuietEnd (n.ends i) ∧ Unopened (n.ends i).session)
      (fun n event n' hI hC hstep => ?_) ?_ hwired hrun
    · have hharmless : event.2.IsHarmless :=
        isHarmless_of_carried (fun i => (hI i).1) hC.1
      exact forall_ends_step (I := fun e => QuietEnd e ∧ Unopened e.session) hI
        ⟨(hI event.1).1.after hdecode _ hharmless,
          (hI event.1).2.after hdecode _ hharmless hC.2⟩ hstep
    · intro i
      exact ⟨QuietEnd.new _ (Quiet.new _ _ _), Unopened.new _ _ _⟩
  exact ⟨(hboth i).2.isEstablished, (hboth i).2.write_eq, (hboth i).2.read_eq⟩

/-- Where handshakes come from elsewhere, nothing else comes in at any end. -/
theorem nothing_arrives (hdecode : ∀ p : Pb.Packet, d.decodePacket p.encode = some p)
    (sendConfig : ι → SendConfig) (config : ι → NcpConfig)
    (localClientIds remoteClientIds : ι → List String)
    (hnonStream : ∀ i, (config i).nonStream = true) (events : List (ι × EndEvent))
    (hcarried : Run.Meets (step d answer) Carried
      (new sendConfig config localClientIds remoteClientIds) events)
    (hrun : Run.runFrom (step d answer) (new sendConfig config localClientIds remoteClientIds)
      events = some n) (i : ι) : Silent d (n.ends i) := by
  have hquiet := quietEnd_run hdecode (quietEnd_new _ _ _ _) hcarried hrun i
  have hflow := flow_run (flow_new sendConfig config localClientIds remoteClientIds hnonStream)
    hrun i
  refine ⟨hquiet.session.acks, hquiet.session.inv.recvWindowData, hquiet.session.bytesRead,
    hquiet.session.remoteBytesRead, hquiet.session.sendWindowStartSeq, ?_, hflow.window, ?_⟩
  · have hbounded := hflow.bounded
    rw [hquiet.session.remoteBytesRead] at hbounded
    simpa using hbounded
  · intro datagram hsent now localClientId remoteClientId s hest
    exact receiveWith_of_harmless (d := { d with now }) hdecode (hquiet.sent datagram hsent)
      localClientId remoteClientId hest

/-- A write that does not fit into what is left of the send window never will: however
the run goes on, it is refused or waits, and changes nothing. -/
theorem write_never_fits (hdecode : ∀ p : Pb.Packet, d.decodePacket p.encode = some p)
    (sendConfig : ι → SendConfig) (config : ι → NcpConfig)
    (localClientIds remoteClientIds : ι → List String)
    (hnonStream : ∀ i, (config i).nonStream = true) (events later : List (ι × EndEvent))
    (hcarried : Run.Meets (step d answer) Carried
      (new sendConfig config localClientIds remoteClientIds) events)
    (hrun : Run.runFrom (step d answer) (new sendConfig config localClientIds remoteClientIds)
      events = some n)
    (hlater : Run.Meets (step d answer) Carried n later)
    (hrest : Run.runFrom (step d answer) n later = some n') (i : ι) (buf : Bytes)
    (hfull : Full buf.length (n.ends i).session) :
    (∃ e, write d.overflow buf (n'.ends i).session = (.err e, (n'.ends i).session)) ∨
      write d.overflow buf (n'.ends i).session = (.block, (n'.ends i).session) := by
  have hquiet := quietEnd_run hdecode (quietEnd_new _ _ _ _) hcarried hrun
  have hflow := flow_run (flow_new sendConfig config localClientIds remoteClientIds hnonStream) hrun
  have hrest' : (∀ i, QuietEnd (n'.ends i)) ∧ (∀ i, Flow (n'.ends i).session) ∧
      Full buf.length (n'.ends i).session := by
    refine Run.invariant_of_meets (I := fun n : Network ι => (∀ i, QuietEnd (n.ends i)) ∧
      (∀ i, Flow (n.ends i).session) ∧ Full buf.length (n.ends i).session)
      (fun n event n' hI hC hstep => ⟨?_, ?_, ?_⟩) ⟨hquiet, hflow, hfull⟩ hlater hrest
    · exact quietEnd_step hdecode hI.1 hC hstep
    · exact forall_sessions_step hI.2.1 (fun i ev => (hI.2.1 i).after d ev) hstep
    · rw [ends_step hstep i]
      split
      next hi =>
        obtain ⟨ev, hev⟩ := (n.ends i).session_after d (answer i) event.2
        rw [hev]
        exact hI.2.2.after (hI.2.1 i) (hI.1 i).session.remoteBytesRead d ev
      next => exact hI.2.2
  exact write_of_full (hrest'.2.1 i) (hrest'.1 i).session.remoteBytesRead d.overflow hrest'.2.2

/-! ## Two sessions

Both dial.  Each handshake comes in at the other end, twice at one of them, and a write
is tried. -/

def sampleNetDeps : Deps where
  overflow := .checked
  decodePacket := Pb.Packet.decode
  now := 0
  tanh := fun _ => 0

theorem sampleNet_decode (p : Pb.Packet) : sampleNetDeps.decodePacket p.encode = some p :=
  Pb.Packet.decode_encode p

def sampleNet : Network Bool :=
  new (fun _ => {}) (fun _ => {}) (fun i => if i then ["a"] else ["b"]) fun _ => []

/-- Every send succeeds. -/
def sampleStep : Network Bool → Bool × EndEvent → Option (Network Bool) :=
  step sampleNetDeps fun _ _ => true

theorem runFrom_sampleStep (n : Network Bool) (events : List (Bool × EndEvent)) :
    ∃ n', Run.runFrom sampleStep n events = some n' := by
  have hstep : ∀ n event, True → ∃ n', sampleStep n event = some n' ∧ True :=
    fun _ _ _ => ⟨_, rfl, trivial⟩
  obtain ⟨n', hn', -⟩ := Run.total_of_step hstep (s := n) trivial events
  exact ⟨n', hn'⟩

/-- The handshake of one end. -/
def sampleNetHandshake (i : Bool) : Pb.Packet := handshakePacket (sampleNet.ends i).session

def sampleDials : List (Bool × EndEvent) :=
  [(true, .dial ""), (false, .dial ""),
    (true, .receive 0 "a" "b" (sampleNetHandshake false).encode),
    (false, .receive 0 "b" "a" (sampleNetHandshake true).encode),
    (false, .receive 0 "b" "a" (sampleNetHandshake true).encode),
    (true, .write [7])]

theorem sample_never_established :
    ∃ n, Run.runFrom sampleStep sampleNet sampleDials = some n ∧
      (n.ends true).session.isEstablished = false ∧
      (n.ends false).session.isEstablished = false := by
  have hwired : Run.Meets sampleStep Wired sampleNet sampleDials := by decide +kernel
  obtain ⟨n, hn⟩ := runFrom_sampleStep sampleNet sampleDials
  have hnever := never_established sampleNet_decode _ _ _ _ sampleDials hwired hn
  exact ⟨n, hn, (hnever true).1, (hnever false).1⟩

/-- The handshakes are handed over, one of them with a window of a single packet.  The
other end fills it and sends. -/
def sampleHandedOver : List (Bool × EndEvent) :=
  [(true, .handshake { sampleNetHandshake false with windowSize := 1024 }),
    (false, .handshake (sampleNetHandshake true)), (true, .write (List.replicate 1024 7)),
    (true, .tx "a - b" 4 Transmit.sampleInput)]

/-- The packet that was sent comes in twice. -/
def sampleLater : List (Bool × EndEvent) :=
  [(false, .receive 0 "b" "a" (dataPacket 1 (Vector.replicate sendBufferLen 7)).encode),
    (false, .receive 0 "b" "a" (dataPacket 1 (Vector.replicate sendBufferLen 7)).encode)]

/-- Both ends are established. -/
def bothEstablished (n : Network Bool) : Bool :=
  (n.ends true).session.isEstablished && (n.ends false).session.isEstablished

theorem sample_nothing_arrives :
    ∃ n, Run.runFrom sampleStep sampleNet (sampleHandedOver ++ sampleLater) = some n ∧
      bothEstablished n = true ∧ Silent sampleNetDeps (n.ends false) := by
  have hcarried : Run.Meets sampleStep Carried sampleNet (sampleHandedOver ++ sampleLater) := by
    decide +kernel
  have hest : (Run.runFrom sampleStep sampleNet (sampleHandedOver ++ sampleLater)).map
      bothEstablished = some true := by
    decide +kernel
  obtain ⟨n, hn⟩ := runFrom_sampleStep sampleNet (sampleHandedOver ++ sampleLater)
  rw [hn, Option.map_some, Option.some.injEq] at hest
  exact ⟨n, hn, hest,
    nothing_arrives sampleNet_decode _ _ _ _ (fun _ => rfl) _ hcarried hn false⟩

theorem sample_write_never_fits :
    ∃ n n', Run.runFrom sampleStep sampleNet sampleHandedOver = some n ∧
      Run.runFrom sampleStep n sampleLater = some n' ∧ Full 1 (n.ends true).session ∧
      ((∃ e, write .checked [7] (n'.ends true).session = (.err e, (n'.ends true).session)) ∨
        write .checked [7] (n'.ends true).session = (.block, (n'.ends true).session)) := by
  have hcarried : Run.Meets sampleStep Carried sampleNet sampleHandedOver := by decide +kernel
  have hlater : ∀ n ∈ Run.runFrom sampleStep sampleNet sampleHandedOver,
      Run.Meets sampleStep Carried n sampleLater ∧ Full 1 (n.ends true).session := by
    decide +kernel
  obtain ⟨n, hn⟩ := runFrom_sampleStep sampleNet sampleHandedOver
  obtain ⟨n', hn'⟩ := runFrom_sampleStep n sampleLater
  obtain ⟨hmeets, hfull⟩ := hlater n hn
  exact ⟨n, n', hn, hn', hfull, write_never_fits sampleNet_decode _ _ _ _ (fun _ => rfl) _ _
    hcarried hn hmeets hn' true [7] hfull⟩

end Network

end NknSdk.Ncp
