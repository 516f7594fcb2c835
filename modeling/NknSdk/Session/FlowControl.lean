import NknSdk.Session.Runs

/-!
# Flow control of the sender

A write waits until the bytes it adds fit into the send window, which is what the
other side can take beyond the bytes it says it has read.  `Flow` is the invariant
behind this: no more is written than the other side has read and its window
holds.  The other side may report more bytes than were ever written, which gives
the sender room.

The window shrinks in a handshake, but only before the session is established, and
until then nothing is written.
-/

namespace NknSdk.Ncp

open Exec

/-! ## The invariant -/

/-- The largest send window, the one of a new session. -/
def maxSendWindow : Nat := 4194304

structure Flow (s : Session) : Prop where
  nonStream : s.config.nonStream = true
  idle : s.isEstablished = false → s.bytesWrite = 0
  window : s.sendWindowSize.toNat ≤ maxSendWindow
  bounded : s.bytesWrite.toNat ≤ s.remoteBytesRead.toNat + s.sendWindowSize.toNat

/-- A session on which nothing was written. -/
structure Idle (s : Session) : Prop where
  nonStream : s.config.nonStream = true
  bytesWrite : s.bytesWrite = 0
  window : s.sendWindowSize.toNat ≤ maxSendWindow

/-- There is room for `n` bytes more. -/
structure Room (n : Nat) (s : Session) : Prop where
  flow : Flow s
  isEstablished : s.isEstablished = true
  small : n ≤ maxSendWindow
  room : s.bytesWrite.toNat - s.remoteBytesRead.toNat + n ≤ s.sendWindowSize.toNat

theorem Idle.flow {s : Session} (h : Idle s) : Flow s where
  nonStream := h.nonStream
  idle _ := h.bytesWrite
  window := h.window
  bounded := by
    rw [h.bytesWrite]
    exact Nat.zero_le _

namespace Flow

variable {s : Session}

theorem new {config : NcpConfig} (h : config.nonStream = true)
    (localClientIds remoteClientIds : List String) :
    Flow (Session.new config localClientIds remoteClientIds) :=
  Idle.flow ⟨h, rfl, Nat.le_refl _⟩

/-- The fields the invariant is about. -/
def core (s : Session) : NcpConfig × Bool × UInt32 × UInt64 × UInt64 :=
  (s.config, s.isEstablished, s.sendWindowSize, s.bytesWrite, s.remoteBytesRead)

theorem of_core {s s' : Session} (h : Flow s) (hcore : core s' = core s) : Flow s' := by
  simp only [core, Prod.mk.injEq] at hcore
  obtain ⟨hconfig, hest, hwindow, hwrite, hread⟩ := hcore
  refine ⟨?_, ?_, ?_, ?_⟩
  · rw [hconfig]
    exact h.nonStream
  · rw [hest, hwrite]
    exact h.idle
  · rw [hwindow]
    exact h.window
  · rw [hwrite, hread, hwindow]
    exact h.bounded

theorem keeps_modify {f : Session → Session} (hf : ∀ s, core (f s) = core s) :
    Keeps Flow (modify f : Call Unit) := fun s h => h.of_core (hf s)

/-! ## The handshake -/

end Flow

namespace Idle

theorem keeps_modify {f : Session → Session} (hf : ∀ s, (f s).config = s.config ∧
    (f s).bytesWrite = s.bytesWrite ∧ (f s).sendWindowSize = s.sendWindowSize) :
    Keeps Idle (modify f : Call Unit) := by
  intro s h
  obtain ⟨hconfig, hwrite, hsize⟩ := hf s
  refine ⟨?_, hwrite.trans h.bytesWrite, ?_⟩
  · show (f s).config.nonStream = true
    rw [hconfig]
    exact h.nonStream
  · show (f s).sendWindowSize.toNat ≤ maxSendWindow
    rw [hsize]
    exact h.window

theorem handleHandshakePacket (packet : Pb.Packet) :
    Keeps Idle (handleHandshakePacket packet) := by
  intro s h
  have hshrink : Keeps Idle (when (packet.windowSize < s.sendWindowSize)
      (modify fun s => { s with sendWindowSize := packet.windowSize }) : Call Unit) := by
    by_cases hlt : packet.windowSize < s.sendWindowSize
    · rw [when_pos hlt]
      intro s' h'
      have hle : packet.windowSize.toNat ≤ s.sendWindowSize.toNat :=
        Nat.le_of_lt (UInt32.lt_iff_toNat_lt.mp hlt)
      exact ⟨h'.nonStream, h'.bytesWrite, Nat.le_trans hle h.window⟩
    · rw [when_neg hlt]
      exact keeps_pure _
  rw [Ncp.handleHandshakePacket, get_bind_apply]
  refine keeps_ite (keeps_pure _) (keeps_ite (keeps_pure _) ?_) s h
  refine keeps_bind hshrink fun _ => keeps_ite (keeps_pure _) ?_
  refine keeps_bind (keeps_when (keeps_modify fun _ => ⟨rfl, rfl, rfl⟩)) fun _ => ?_
  refine keeps_bind (keeps_modify fun _ => ⟨rfl, rfl, rfl⟩) fun _ => keeps_ite (keeps_pure _) ?_
  refine keeps_bind (keeps_modify fun _ => ⟨rfl, rfl, rfl⟩) fun _ => keeps_bind keeps_get ?_
  intro s'
  exact keeps_ite keeps_block (keeps_modify fun _ => ⟨rfl, rfl, rfl⟩)

end Idle

namespace Flow

/-- An established session changes nothing in a handshake, and any other has
written nothing. -/
theorem handleHandshakePacket (packet : Pb.Packet) :
    Keeps Flow (handleHandshakePacket packet) := by
  intro s h
  by_cases hest : s.isEstablished = true
  · rw [Ncp.handleHandshakePacket, get_bind_apply, if_pos hest]
    exact h
  · have hidle : Idle s := ⟨h.nonStream, h.idle (by simpa using hest), h.window⟩
    exact (Idle.handleHandshakePacket packet s hidle).flow

/-! ## Writing -/

/-- The cast of `send_window_used` keeps the value. -/
theorem sendWindowUsed_toNat {s : Session} (h : Flow s) :
    s.sendWindowUsed.toNat = s.bytesWrite.toNat - s.remoteBytesRead.toNat := by
  have hwindow := h.window
  have hbounded := h.bounded
  unfold maxSendWindow at hwindow
  rw [Session.sendWindowUsed, UInt64.toNat_toUInt32]
  by_cases hle : s.remoteBytesRead ≤ s.bytesWrite
  · rw [if_pos hle, UInt64.toNat_sub_of_le _ _ hle]
    omega
  · have hlt : s.bytesWrite.toNat < s.remoteBytesRead.toNat :=
      UInt64.lt_iff_toNat_lt.mp (UInt64.not_le.mp hle)
    rw [if_neg hle, UInt64.toNat_zero]
    omega

theorem sendWindowUsed_le {s : Session} (h : Flow s) :
    s.sendWindowUsed.toNat ≤ s.sendWindowSize.toNat := by
  have hbounded := h.bounded
  rw [h.sendWindowUsed_toNat]
  omega

/-- None of the arithmetic of the wait overflows. -/
theorem waitForSendWindow_eq {s : Session} (h : Flow s) {n : UInt32}
    (hn : n.toNat ≤ maxSendWindow) (o : Overflow) :
    waitForSendWindow o n s =
      if s.sendWindowSize.toNat < s.sendWindowUsed.toNat + n.toNat then (.block, s)
      else (.ok (s.sendWindowSize - s.sendWindowUsed), s) := by
  have hused := h.sendWindowUsed_le
  have hwindow := h.window
  unfold maxSendWindow at hn hwindow
  have hfits : s.sendWindowUsed.toNat + n.toNat < 2 ^ 32 := by omega
  have hsum : (s.sendWindowUsed + n).toNat = s.sendWindowUsed.toNat + n.toNat :=
    UInt32.toNat_add_of_lt hfits
  rw [waitForSendWindow, get_bind_apply, addU32, arith_of_fits hfits, pure_bind]
  by_cases hlt : s.sendWindowSize.toNat < s.sendWindowUsed.toNat + n.toNat
  · rw [if_pos hlt, if_pos]
    · rfl
    · rw [UInt32.lt_iff_toNat_lt, hsum]
      exact hlt
  · rw [if_neg hlt, if_neg, subU32, arith_of_fits hused]
    · rfl
    · rw [UInt32.lt_iff_toNat_lt, hsum]
      exact hlt

end Flow

/-- A write that passes its checks fits into an empty send window. -/
theorem of_writeError_none {s : Session} {buf : Bytes} (h : writeError s buf = none) :
    s.isEstablished = true ∧ buf.length ≤ s.sendWindowSize.toNat := by
  unfold writeError at h
  by_cases hest : s.isEstablished = false
  · rw [if_pos hest] at h
    cases h
  · rw [if_neg hest] at h
    refine ⟨by simpa using hest, ?_⟩
    by_contra hlong
    rw [Nat.not_le] at hlong
    simp only [hlong, or_true, if_true] at h
    split at h
    next => cases h
    next =>
      split at h
      next => cases h
      next => cases h

namespace Room

variable {n : Nat}

theorem of_core {s s' : Session} (h : Room n s) (hcore : Flow.core s' = Flow.core s) :
    Room n s' := by
  have hflow := h.flow.of_core hcore
  simp only [Flow.core, Prod.mk.injEq] at hcore
  obtain ⟨-, hest, hwindow, hwrite, hread⟩ := hcore
  refine ⟨hflow, hest.trans h.isEstablished, h.small, ?_⟩
  rw [hwrite, hread, hwindow]
  exact h.room

/-- Writing into the room that was waited for.  Should the counter ever wrap around,
it starts over below the window. -/
theorem written {s : Session} (h : Room n s) :
    Flow { s with bytesWrite := s.bytesWrite + UInt64.ofNat n } where
  nonStream := h.flow.nonStream
  idle hest := by
    have hyes := h.isEstablished
    rw [show s.isEstablished = false from hest] at hyes
    cases hyes
  window := h.flow.window
  bounded := by
    have hroom := h.room
    have hsmall := h.small
    unfold maxSendWindow at hsmall
    show (s.bytesWrite + UInt64.ofNat n).toNat ≤ s.remoteBytesRead.toNat + s.sendWindowSize.toNat
    rw [UInt64.toNat_add, UInt64.toNat_ofNat']
    have hmod := Nat.mod_le (s.bytesWrite.toNat + n % 2 ^ 64) (2 ^ 64)
    omega

end Room

namespace Flow

theorem flushSendBuffer : Keeps Flow flushSendBuffer := by
  refine keeps_bind keeps_get fun s => keeps_ite (keeps_pure _) ?_
  refine keeps_bind (keeps_modify fun _ => rfl) fun _ => ?_
  refine keeps_bind (keeps_modify fun _ => rfl) fun _ => ?_
  refine keeps_bind (keeps_modify fun _ => rfl) fun _ => ?_
  exact keeps_ite keeps_block (keeps_modify fun _ => rfl)

/-- What a write does after it has waited. -/
theorem write_into_room {s : Session} {buf : Bytes} (h : Room buf.length s) (o : Overflow) :
    Flow ((do
      fillSendBuffer buf
      let s ← get
      let bytesWrite ← addU64 o s.bytesWrite (UInt64.ofNat buf.length)
      modify fun s => { s with bytesWrite }
      Ncp.flushSendBuffer
      return buf.length : Call Nat) s).2 := by
  have hfill : Keeps (Room buf.length) (fillSendBuffer buf) := by
    intro s h
    unfold fillSendBuffer
    split
    · exact h.of_core rfl
    · exact h
  refine snd_bind (hfill s h).flow ?_
  intro _ s₁ hfilled
  have hroom : Room buf.length s₁ := by
    have hkept := hfill s h
    rw [hfilled] at hkept
    exact hkept
  rw [get_bind_apply]
  refine snd_bind (keeps_arith _ _ _ s₁ hroom.flow) ?_
  intro bytesWrite s₂ hadd
  obtain ⟨rfl, rfl⟩ := arith_ok hadd
  rw [modify_bind_apply]
  exact keeps_bind flushSendBuffer (fun _ => keeps_pure _) _ hroom.written

theorem write (o : Overflow) (buf : Bytes) : Keeps Flow (write o buf) := by
  intro s h
  rw [Ncp.write, get_bind_apply]
  cases herr : writeError s buf with
  | some e => exact h
  | none =>
      obtain ⟨hest, hfits⟩ := of_writeError_none herr
      have hwindow := h.window
      have hstream : s.isStream = false := by
        rw [Session.isStream, h.nonStream]
        rfl
      have hlen : (UInt32.ofNat buf.length).toNat = buf.length := by
        rw [UInt32.toNat_ofNat']
        unfold maxSendWindow at hwindow
        omega
      have hsmall : (UInt32.ofNat buf.length).toNat ≤ maxSendWindow := by omega
      have hwait := h.waitForSendWindow_eq hsmall o
      simp only [hstream]
      by_cases hfull : s.sendWindowSize.toNat < s.sendWindowUsed.toNat + buf.length
      · rw [hlen, if_pos hfull] at hwait
        refine snd_bind ?_ ?_
        · rw [hwait]
          exact h
        · intro _ s' hok
          rw [hwait] at hok
          cases hok
      · rw [hlen, if_neg hfull] at hwait
        have hroom : Room buf.length s := by
          refine ⟨h, hest, by omega, ?_⟩
          rw [← h.sendWindowUsed_toNat]
          omega
        show Flow ((waitForSendWindow o (UInt32.ofNat buf.length) >>= fun _ => _) s).2
        rw [bind_ok hwait]
        exact write_into_room hroom o

/-! ## Receiving and reading -/

theorem ackFrame : AckFrame Flow where
  connections _ _ h := h.of_core rfl
  sendWindowData _ _ h := h.of_core rfl
  sendWindowStartSeq _ _ h := h.of_core rfl
  ackRanges _ _ h := h.of_core rfl

/-- The count of bytes read only grows, whatever the other side says. -/
theorem receiveBytesRead (p : Pb.Packet) : Keeps Flow (receiveBytesRead p) := by
  intro s h
  rw [Ncp.receiveBytesRead, get_bind_apply]
  by_cases hlt : s.remoteBytesRead < p.bytesRead
  · rw [if_pos hlt, modify_bind_apply]
    have hgrown : Flow { s with remoteBytesRead := p.bytesRead } := by
      refine ⟨h.nonStream, h.idle, h.window, ?_⟩
      exact Nat.le_trans h.bounded
        (Nat.add_le_add_right (Nat.le_of_lt (UInt64.lt_iff_toNat_lt.mp hlt)) _)
    split
    · exact hgrown
    · exact hgrown.of_core rfl
  · rw [if_neg hlt]
    exact h

theorem storeData (o : Overflow) (p : Pb.Packet) : Keeps Flow (storeData o p) := by
  refine keeps_bind keeps_get fun s => keeps_ite ?_ (keeps_pure _)
  refine keeps_bind (keeps_arith _ _ _) fun used => keeps_ite (keeps_pure _) ?_
  refine keeps_bind (keeps_modify fun _ => rfl) fun _ => keeps_bind (keeps_arith _ _ _) ?_
  intro recvWindowUsed
  refine keeps_bind (keeps_modify fun _ => rfl) fun _ => ?_
  exact keeps_bind (keeps_when (keeps_modify fun _ => rfl)) fun _ => keeps_pure _

theorem handleClosePacket : Keeps Flow handleClosePacket := by
  refine keeps_bind keeps_get fun s => ?_
  exact keeps_ite (keeps_modify fun _ => rfl) (keeps_pure _)

theorem receiveWith (d : Deps) (localClientId remoteClientId : String) (buf : Bytes) :
    Keeps Flow (receiveWith d localClientId remoteClientId buf) :=
  ackFrame.receiveWith handleClosePacket handleHandshakePacket receiveBytesRead
    (storeData d.overflow) localClientId remoteClientId buf

theorem takeData (o : Overflow) (len : Nat) (data : Bytes) : Keeps Flow (takeData o len data) := by
  refine keeps_bind keeps_get fun s => keeps_ite (keeps_pure _) ?_
  refine keeps_bind (keeps_modify fun s => ?_) fun _ => keeps_bind (keeps_arith _ _ _) ?_
  · split
    · rfl
    · rfl
  intro recvWindowUsed
  refine keeps_bind (keeps_modify fun _ => rfl) fun _ => keeps_bind (keeps_arith _ _ _) ?_
  intro bytesRead
  exact keeps_bind (keeps_modify fun _ => rfl) fun _ => keeps_ite keeps_block (keeps_pure _)

theorem readRound (o : Overflow) (len : Nat) : Keeps Flow (readRound o len) := by
  refine keeps_bind keeps_get fun s => keeps_ite (keeps_pure _) ?_
  refine keeps_bind (keeps_modify fun _ => rfl) fun _ => keeps_bind (keeps_unwrap _) ?_
  intro data
  exact takeData o len data

/-! ## Runs -/

theorem after {s : Session} (h : Flow s) (d : Deps) (e : Event) : Flow (s.after d e) := by
  cases e with
  | receive now localClientId remoteClientId buf =>
      exact receiveWith _ localClientId remoteClientId buf s h
  | handshake packet => exact handleHandshakePacket packet s h
  | close => exact handleClosePacket s h
  | read len => exact keeps_read (readRound d.overflow len) s h
  | write buf => exact write d.overflow buf s h
  | flush => exact flushSendBuffer s h
  | tasks connections sendChan sendWindowUpdate recvDataUpdate onAccept => exact h.of_core rfl

theorem run (d : Deps) (events : List Event) {s : Session} (h : Flow s) :
    Flow (events.foldl (Session.after d) s) := by
  induction events generalizing s with
  | nil => exact h
  | cons e events ih => exact ih (h.after d e)

end Flow

/-! ## The property -/

/-- No more is written than the other side has room for, and the arithmetic of a
write that waits for the window is exact. -/
structure FlowControlled (s : Session) : Prop where
  bounded : s.bytesWrite.toNat ≤ s.remoteBytesRead.toNat + s.sendWindowSize.toNat
  used : s.sendWindowUsed.toNat = s.bytesWrite.toNat - s.remoteBytesRead.toNat
  needed : ∀ buf, writeError s buf = none →
    s.sendWindowUsed.toNat + (UInt32.ofNat buf.length).toNat < 2 ^ 32
  left : s.sendWindowUsed.toNat ≤ s.sendWindowSize.toNat
  waits : ∀ o buf, writeError s buf = none →
    (waitForSendWindow o (UInt32.ofNat buf.length) s).1 ≠ .panic

/-- After any calls on a new session that is not a stream. -/
theorem flow_controlled (d : Deps) (config : NcpConfig) (localClientIds remoteClientIds : List String)
    (hnonStream : config.nonStream = true) (events : List Event) :
    FlowControlled
      (events.foldl (Session.after d) (Session.new config localClientIds remoteClientIds)) := by
  have hflow := Flow.run d events (Flow.new hnonStream localClientIds remoteClientIds)
  have hwindow := hflow.window
  have hle := hflow.sendWindowUsed_le
  have hsmall : ∀ buf, writeError (events.foldl (Session.after d)
      (Session.new config localClientIds remoteClientIds)) buf = none →
        (UInt32.ofNat buf.length).toNat ≤ maxSendWindow := by
    intro buf herr
    obtain ⟨-, hfits⟩ := of_writeError_none herr
    rw [UInt32.toNat_ofNat']
    exact Nat.le_trans (Nat.mod_le _ _) (Nat.le_trans hfits hwindow)
  refine ⟨hflow.bounded, hflow.sendWindowUsed_toNat, ?_, hle, ?_⟩
  · intro buf herr
    have hn := hsmall buf herr
    unfold maxSendWindow at hn hwindow
    omega
  · intro o buf herr
    rw [hflow.waitForSendWindow_eq (hsmall buf herr)]
    split
    · simp
    · simp

/-- A write after the handshake, and an ack. -/
theorem flow_controlled_sample :
    FlowControlled ([.receive 0 "a" "b" sampleHandshake.encode, .write [7],
      .receive 0 "a" "b" (ackPacket [1] [2]).encode].foldl (Session.after sampleDeps)
        (Session.new {} ["a"] [])) :=
  flow_controlled sampleDeps {} ["a"] [] rfl _

end NknSdk.Ncp
