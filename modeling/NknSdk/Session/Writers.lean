import NknSdk.Lib.Run
import NknSdk.Lib.Threads
import NknSdk.Session.Delivery
import Mathlib.Data.List.Iterate

/-!
# Writes beside each other

`write` takes a shared reference, so a session may have many writes in progress,
and the flush timer of `start_flush` beside them.  `Senders` is such a session.
Its events are single steps between lock acquisitions: one of a write, one of the
timer, or the start of a write.  The connection that takes the next sequence
number off the channel and the acknowledgements that free the send window are
events too.

`WritePc` and `FlushPc` are where a write and a flush stand.  A write holds the
lock of the send buffer while it copies and counts its bytes, gives it back, and
takes it again to flush.  The steps are those of `write` and `flushSendBuffer`:
alone, a write does what these do (`write_alone`).

The buffer carries no length, and the bytes of a write stay in it unguarded
between the copy and the flush.  `Safe` says that no step runs into that, and
`writes_intact` that then every packet is a write and every write a packet.
-/

namespace NknSdk.Ncp

open Exec

/-! ## Where writes and flushes stand -/

/-- Where `flush_send_buffer` stands, named by its next step. -/
inductive FlushPc where
  /-- The lock of the send buffer. -/
  | lock
  /-- The read of the end of the send window. -/
  | readEnd
  | insert (packet : Pb.Packet)
  /-- The channel of the connections. -/
  | send (seq : UInt32)
deriving DecidableEq

/-- Where `write` stands, named by its next step. -/
inductive WritePc where
  | start
  /-- The test of `wait_for_send_window`. -/
  | wait
  /-- The result of `wait_for_send_window`. -/
  | room
  /-- The lock of the send buffer, and the copy. -/
  | copy
  /-- The count of the bytes, with the lock still held. -/
  | count
  | flush (pc : FlushPc)
  | done (n : Nat)
  | failed (e : NcpError)
  | panicked
deriving DecidableEq

namespace WritePc

/-- The bytes are in the buffer and not yet in a packet of the send window. -/
def pending : WritePc → Bool
  | .count => true
  | .flush .lock => true
  | .flush .readEnd => true
  | .flush (.insert _) => true
  | _ => false

/-- The packet of the write is in the send window. -/
def inserted : WritePc → Bool
  | .flush (.send _) => true
  | .done _ => true
  | _ => false

def isDone : WritePc → Bool
  | .done _ => true
  | _ => false

/-- The write has not touched the buffer, or has returned. -/
def isSettled : WritePc → Bool
  | .count => false
  | .flush _ => false
  | _ => true

end WritePc

structure Writer where
  buf : Bytes
  pc : WritePc
deriving DecidableEq

/-- The buffer of a write whose packet is in the send window. -/
def Writer.inserted (w : Writer) : Option Bytes := if w.pc.inserted then some w.buf else none

/-- The buffer of a write that returned `Ok`. -/
def Writer.returned (w : Writer) : Option Bytes := if w.pc.isDone then some w.buf else none

/-- What the writes and the timer share. -/
structure Shared where
  session : Session
  /-- The lock of the send buffer is held. -/
  locked : Bool
  /-- The packets put into the send window so far.  The source keeps no such list. -/
  inserted : List Pb.Packet

structure Senders where
  shared : Shared
  writers : List Writer
  /-- Where the flush of the timer stands, unless it sleeps. -/
  timer : Option FlushPc

inductive SendEvent where
  /-- A call of `write`. -/
  | write (buf : Bytes)
  /-- The next step of a write. -/
  | writer (i : Nat)
  /-- The timer wakes up and tests the buffer. -/
  | tick
  /-- The next step of the timer's flush. -/
  | timer
  /-- A connection takes the sequence number off the channel. -/
  | take
  /-- The other side has read so many bytes. -/
  | remote (bytesRead : UInt64)

/-! ## Steps -/

/-- The session after `packet` is put into the send window. -/
def Session.inserting (s : Session) (packet : Pb.Packet) : Session :=
  { s with
    sendWindowData := s.sendWindowData.insert packet.sequenceId packet.encode
    sendWindowEndSeq := nextSeq packet.sequenceId 1
    sendBuffer := Vector.replicate sendBufferLen 0 }

/-- One step of `flush_send_buffer`, and where the flush stands then, unless it
has returned.  A step that has to wait has no successor. -/
def stepFlush (m : Shared) : FlushPc → Option (Shared × Option FlushPc)
  | .lock =>
      if m.locked then none
      else if m.session.sendBuffer.size = 0 then some (m, none)
      else some ({ m with locked := true }, some .readEnd)
  | .readEnd =>
      some (m, some (.insert (dataPacket m.session.sendWindowEndSeq m.session.sendBuffer)))
  | .insert packet =>
      some ({ m with
        session := m.session.inserting packet
        inserted := m.inserted ++ [packet] }, some (.send packet.sequenceId))
  | .send seq =>
      if m.session.sendChan.isSome then none
      else some ({ m with
        session := { m.session with sendChan := some seq }, locked := false }, none)

/-- One step of `write`. -/
def stepWrite (o : Overflow) (buf : Bytes) (m : Shared) : WritePc → Option (Shared × WritePc)
  | .start =>
      match writeError m.session buf with
      | some e => some (m, .failed e)
      | none => if m.session.isStream then some (m, .done 0) else some (m, .wait)
  | .wait =>
      match (addU32 o m.session.sendWindowUsed (UInt32.ofNat buf.length) : Call UInt32)
          m.session with
      | (.ok needed, _) => if m.session.sendWindowSize < needed then none else some (m, .room)
      | _ => some (m, .panicked)
  | .room =>
      match (subU32 o m.session.sendWindowSize m.session.sendWindowUsed : Call UInt32)
          m.session with
      | (.ok _, _) => some (m, .copy)
      | _ => some (m, .panicked)
  | .copy =>
      if m.locked then none
      else
        match fillSendBuffer buf m.session with
        | (.ok _, s) => some ({ m with session := s, locked := true }, .count)
        | _ => some (m, .panicked)
  | .count =>
      match (addU64 o m.session.bytesWrite (UInt64.ofNat buf.length) : Call UInt64)
          m.session with
      | (.ok bytesWrite, _) =>
          some ({ m with session := { m.session with bytesWrite }, locked := false }, .flush .lock)
      | _ => some ({ m with locked := false }, .panicked)
  | .flush pc =>
      (stepFlush m pc).map fun after => (after.1, after.2.elim (.done buf.length) .flush)
  | .done _ => none
  | .failed _ => none
  | .panicked => none

namespace Senders

/-- A session before the first write. -/
def new (s : Session) : Senders :=
  { shared := { session := s, locked := false, inserted := [] }, writers := [], timer := none }

def stepWriter (o : Overflow) (i : Nat) (m : Senders) : Option Senders :=
  match m.writers[i]? with
  | none => none
  | some w =>
      (stepWrite o w.buf m.shared w.pc).map fun after =>
        { m with shared := after.1, writers := m.writers.set i { w with pc := after.2 } }

/-- The test of `start_flush`, under a read lock of the buffer. -/
def stepTick (m : Senders) : Option Senders :=
  if m.timer.isSome ∨ m.shared.locked then none
  else if 0 < m.shared.session.sendBuffer.size then some { m with timer := some .lock }
  else some m

def stepTimer (m : Senders) : Option Senders :=
  match m.timer with
  | none => none
  | some pc => (stepFlush m.shared pc).map fun after => { m with shared := after.1, timer := after.2 }

def step (o : Overflow) (m : Senders) : SendEvent → Option Senders
  | .write buf => some { m with writers := m.writers ++ [{ buf, pc := .start }] }
  | .writer i => m.stepWriter o i
  | .tick => m.stepTick
  | .timer => m.stepTimer
  | .take =>
      some { m with shared := { m.shared with session :=
        { m.shared.session with sendChan := none } } }
  | .remote bytesRead =>
      some { m with shared := { m.shared with session :=
        { m.shared.session with remoteBytesRead := bytesRead } } }

/-! ## The property -/

/-- No write is between its copy and its return. -/
def Settled (m : Senders) : Prop := ∀ w ∈ m.writers, w.pc.isSettled = true

instance (m : Senders) : Decidable m.Settled :=
  inferInstanceAs (Decidable (∀ w ∈ m.writers, w.pc.isSettled = true))

/-- The packets that went into the send window since `s` are numbered without a
gap, and they are the writes whose packets went in, each of them once. -/
structure Accounted (m : Senders) (s : Session) : Prop where
  window : m.shared.session.sendWindowData =
    m.shared.inserted.foldl (fun data p => data.insert p.sequenceId p.encode) s.sendWindowData
  numbered : m.shared.inserted.map (·.sequenceId) =
    List.iterate (nextSeq · 1) s.sendWindowEndSeq m.shared.inserted.length
  /-- A write whose packet is in the window has returned, or waits for the channel. -/
  once : (m.shared.inserted.map (·.data)).Perm (m.writers.filterMap Writer.inserted)

/-- No write is lost, altered or invented, and none panics. -/
structure Intact (m : Senders) (s : Session) : Prop extends m.Accounted s where
  exactly : m.Settled →
    (m.shared.inserted.map (·.data)).Perm (m.writers.filterMap Writer.returned)
  noPanic : ∀ w ∈ m.writers, w.buf ≠ [] → w.buf.length ≤ m.shared.session.sendMtu.toNat →
    w.pc ≠ .panicked

/-- What the next step of a write may not run into. -/
def SafeWrite (o : Overflow) (m : Senders) (buf : Bytes) : WritePc → Prop
  | .start => writeError m.shared.session buf = none → buf.length = sendBufferLen
  | .wait =>
      m.shared.session.sendWindowUsed.toNat + (UInt32.ofNat buf.length).toNat < 2 ^ 32 ∨
        o = .wrapping
  | .room =>
      m.shared.session.sendWindowUsed.toNat ≤ m.shared.session.sendWindowSize.toNat ∨
        o = .wrapping
  | .copy => ∀ w ∈ m.writers, w.pc.pending = false
  | .count =>
      m.shared.session.bytesWrite.toNat + (UInt64.ofNat buf.length).toNat < 2 ^ 64 ∨
        o = .wrapping
  | _ => True

instance (o : Overflow) (m : Senders) (buf : Bytes) : (pc : WritePc) →
    Decidable (m.SafeWrite o buf pc)
  | .start =>
      inferInstanceAs (Decidable (writeError m.shared.session buf = none →
        buf.length = sendBufferLen))
  | .wait => inferInstanceAs (Decidable (_ < _ ∨ _))
  | .room => inferInstanceAs (Decidable (_ ≤ _ ∨ _))
  | .copy => inferInstanceAs (Decidable (∀ w ∈ m.writers, w.pc.pending = false))
  | .count => inferInstanceAs (Decidable (_ < _ ∨ _))
  | .flush _ => inferInstanceAs (Decidable True)
  | .done _ => inferInstanceAs (Decidable True)
  | .failed _ => inferInstanceAs (Decidable True)
  | .panicked => inferInstanceAs (Decidable True)

/-- Every write that passes the checks fills the buffer, none copies while the
bytes of another one are in the buffer, and none starts to flush from the timer.
No counter overflows, and no write finds the window overdrawn by another one
between its test and its result. -/
def Safe (o : Overflow) (m : Senders) : SendEvent → Prop
  | .writer i => ∀ w ∈ m.writers[i]?, m.SafeWrite o w.buf w.pc
  | .timer => False
  | _ => True

instance (o : Overflow) (m : Senders) : (e : SendEvent) → Decidable (m.Safe o e)
  | .writer i => inferInstanceAs (Decidable (∀ w ∈ m.writers[i]?, m.SafeWrite o w.buf w.pc))
  | .timer => inferInstanceAs (Decidable False)
  | .write _ => inferInstanceAs (Decidable True)
  | .tick => inferInstanceAs (Decidable True)
  | .take => inferInstanceAs (Decidable True)
  | .remote _ => inferInstanceAs (Decidable True)

end Senders

/-! ## What one step of a write does -/

/-- Nothing that a flush reads or writes has changed. -/
structure Shared.Same (m m' : Shared) : Prop where
  config : m'.session.config = m.session.config
  sendBuffer : m'.session.sendBuffer = m.session.sendBuffer
  sendWindowEndSeq : m'.session.sendWindowEndSeq = m.session.sendWindowEndSeq
  sendWindowData : m'.session.sendWindowData = m.session.sendWindowData
  inserted : m'.inserted = m.inserted

theorem Shared.Same.refl (m : Shared) : m.Same m := ⟨rfl, rfl, rfl, rfl, rfl⟩

/-- What holds of a write by where it stands. -/
def WritePc.Ok (m : Shared) (buf : Bytes) : WritePc → Prop
  | .wait => buf.length = sendBufferLen
  | .room => buf.length = sendBufferLen
  | .copy => buf.length = sendBufferLen
  | .count => m.session.sendBuffer.toList = buf
  | .flush .lock => m.session.sendBuffer.toList = buf
  | .flush .readEnd => m.session.sendBuffer.toList = buf
  | .flush (.insert packet) => packet = { sequenceId := m.session.sendWindowEndSeq, data := buf }
  | .panicked => False
  | _ => True

section Steps

variable {o : Overflow} {buf : Bytes} {m m' : Shared} {pc pc' : WritePc}

/-- What others do to a write that has nothing in the buffer is nothing to it. -/
theorem WritePc.Ok.of_not_pending (h : pc.Ok m buf) (hpc : pc.pending = false) :
    pc.Ok m' buf := by
  cases pc with
  | flush f =>
      cases f with
      | send seq => trivial
      | _ => cases hpc
  | count => cases hpc
  | _ => exact h

theorem WritePc.Ok.of_same (h : pc.Ok m buf) (hsame : m.Same m') : pc.Ok m' buf := by
  cases pc with
  | flush f =>
      cases f with
      | lock => exact (congrArg Vector.toList hsame.sendBuffer).trans h
      | readEnd => exact (congrArg Vector.toList hsame.sendBuffer).trans h
      | insert packet =>
          show packet = { sequenceId := m'.session.sendWindowEndSeq, data := buf }
          rw [hsame.sendWindowEndSeq]
          exact h
      | send seq => trivial
  | count => exact (congrArg Vector.toList hsame.sendBuffer).trans h
  | _ => exact h

/-- A buffer that is filled holds the bytes copied and nothing else. -/
theorem copyToBuffer_toList (sendBuffer : Vector UInt8 sendBufferLen)
    (h : buf.length ≤ sendBufferLen) (hfull : buf.length = sendBufferLen) :
    (copyToBuffer sendBuffer buf h).toList = buf := by
  have hdrop : sendBuffer.toList.drop buf.length = [] :=
    List.drop_eq_nil_of_le (by rw [Vector.length_toList, hfull])
  show buf ++ sendBuffer.toList.drop buf.length = buf
  rw [hdrop, List.append_nil]

/-- What one step of a write can do, away from what `Safe` rules out. -/
inductive StepWrite (buf : Bytes) (m m' : Shared) (pc pc' : WritePc) : Prop where
  /-- It changes nothing that others see of the buffer and the window. -/
  | quiet (same : m.Same m') (pending : pc'.pending = pc.pending)
      (inserted : pc'.inserted = pc.inserted) (ok : pc'.Ok m' buf)
  | copied (hpc : pc = .copy) (hpc' : pc' = .count) (sendBuffer : Vector UInt8 sendBufferLen)
      (full : sendBuffer.toList = buf)
      (hm : m' = { m with session := { m.session with sendBuffer }, locked := true })
  | inserted (packet : Pb.Packet) (hpc : pc = .flush (.insert packet))
      (hpc' : pc' = .flush (.send packet.sequenceId))
      (hm : m' = { m with
        session := m.session.inserting packet, inserted := m.inserted ++ [packet] })

/-- A step of a flush that does not insert the packet. -/
theorem StepWrite.of_stepFlush {f : FlushPc} (hok : (WritePc.flush f).Ok m buf)
    (h : stepWrite o buf m (.flush f) = some (m', pc')) :
    StepWrite buf m m' (.flush f) pc' := by
  obtain ⟨⟨m₁, f'⟩, hf, hafter⟩ := Option.map_eq_some_iff.mp h
  cases hafter
  cases f with
  | lock =>
      simp only [stepFlush] at hf
      split at hf
      next => cases hf
      next =>
        split at hf
        next hsize => exact absurd hsize (by decide : ¬ sendBufferLen = 0)
        next => cases hf; exact .quiet ⟨rfl, rfl, rfl, rfl, rfl⟩ rfl rfl hok
  | readEnd =>
      cases hf
      refine .quiet (.refl m) rfl rfl ?_
      show dataPacket m.session.sendWindowEndSeq m.session.sendBuffer = _
      rw [dataPacket, show m.session.sendBuffer.toList = buf from hok]
  | insert packet => cases hf; exact .inserted packet rfl rfl rfl
  | send seq =>
      simp only [stepFlush] at hf
      split at hf
      next => cases hf
      next => cases hf; exact .quiet ⟨rfl, rfl, rfl, rfl, rfl⟩ rfl rfl trivial

theorem stepWrite_cases {writers : List Writer} {timer : Option FlushPc}
    (hstream : m.session.isStream = false) (hok : pc.Ok m buf)
    (hsafe : Senders.SafeWrite o ⟨m, writers, timer⟩ buf pc)
    (h : stepWrite o buf m pc = some (m', pc')) : StepWrite buf m m' pc pc' := by
  cases pc with
  | start =>
      simp only [stepWrite] at h
      split at h
      next => cases h; exact .quiet (.refl _) rfl rfl trivial
      next hnone =>
        rw [hstream] at h
        cases h
        exact .quiet (.refl _) rfl rfl (hsafe hnone)
  | wait =>
      have hfits : m.session.sendWindowUsed.toNat + (UInt32.ofNat buf.length).toNat < 2 ^ 32 ∨
          o = .wrapping := hsafe
      simp only [stepWrite, addU32, arith, if_pos hfits, pure_apply] at h
      split at h
      next => cases h
      next => cases h; exact .quiet (.refl _) rfl rfl hok
  | room =>
      have hfits : m.session.sendWindowUsed.toNat ≤ m.session.sendWindowSize.toNat ∨
          o = .wrapping := hsafe
      simp only [stepWrite, subU32, arith, if_pos hfits, pure_apply] at h
      cases h
      exact .quiet (.refl _) rfl rfl hok
  | copy =>
      have hlen : buf.length ≤ sendBufferLen := le_of_eq hok
      simp only [stepWrite, fillSendBuffer, dif_pos hlen, modify_apply] at h
      split at h
      next => cases h
      next => cases h; exact .copied rfl rfl _ (copyToBuffer_toList _ hlen hok) rfl
  | count =>
      have hfits : m.session.bytesWrite.toNat + (UInt64.ofNat buf.length).toNat < 2 ^ 64 ∨
          o = .wrapping := hsafe
      simp only [stepWrite, addU64, arith, if_pos hfits, pure_apply] at h
      cases h
      exact .quiet ⟨rfl, rfl, rfl, rfl, rfl⟩ rfl rfl hok
  | flush f => exact .of_stepFlush hok h
  | done n => cases h
  | failed e => cases h
  | panicked => cases h

end Steps

/-! ## The invariant -/

namespace Senders

/-- What holds of a session `s` with its writes and no flush of the timer. -/
structure Inv (m : Senders) (s : Session) : Prop extends m.Accounted s where
  stream : m.shared.session.isStream = false
  ok : ∀ (i : Nat) (w : Writer), m.writers[i]? = some w → w.pc.Ok m.shared w.buf
  /-- At most one write has bytes in the buffer. -/
  single : ∀ (i j : Nat) (w w' : Writer), m.writers[i]? = some w → m.writers[j]? = some w' →
    w.pc.pending = true → w'.pc.pending = true → i = j
  endSeq : m.shared.session.sendWindowEndSeq =
    (nextSeq · 1)^[m.shared.inserted.length] s.sendWindowEndSeq

variable {o : Overflow} {s : Session} {m m' : Senders} {e : SendEvent}

/-- A step of the writers or of others that changes nothing of the buffer and the
window. -/
theorem Inv.of_same (inv : m.Inv s) (hsame : m.shared.Same m'.shared)
    (hok : ∀ (i : Nat) (w : Writer), m'.writers[i]? = some w → w.pc.Ok m'.shared w.buf)
    (hsingle : ∀ (i : Nat) (w' : Writer), m'.writers[i]? = some w' → w'.pc.pending = true →
      ∃ w, m.writers[i]? = some w ∧ w.pc.pending = true)
    (houtputs : m'.writers.filterMap Writer.inserted = m.writers.filterMap Writer.inserted) :
    m'.Inv s where
  stream := by
    rw [Session.isStream, hsame.config]
    exact inv.stream
  ok := hok
  single i j w w' hw hw' hp hp' := by
    obtain ⟨v, hv, hvp⟩ := hsingle i w hw hp
    obtain ⟨v', hv', hvp'⟩ := hsingle j w' hw' hp'
    exact inv.single i j v v' hv hv' hvp hvp'
  window := by rw [hsame.sendWindowData, hsame.inserted]; exact inv.window
  numbered := by rw [hsame.inserted]; exact inv.numbered
  endSeq := by rw [hsame.sendWindowEndSeq, hsame.inserted]; exact inv.endSeq
  once := by rw [hsame.inserted, houtputs]; exact inv.once

/-- The bytes of a write go into the buffer while no other write has any there. -/
theorem Inv.copied {i : Nat} {w : Writer} {sendBuffer : Vector UInt8 sendBufferLen} {locked : Bool}
    (inv : m.Inv s) (hw : m.writers[i]? = some w) (hpc : w.pc = .copy)
    (hfree : ∀ w ∈ m.writers, w.pc.pending = false) (hfull : sendBuffer.toList = w.buf) :
    Inv { m with
      shared := { m.shared with session := { m.shared.session with sendBuffer }, locked }
      writers := m.writers.set i { w with pc := .count } } s where
  stream := inv.stream
  ok j v hv := by
    rcases Threads.get_set hv with ⟨-, rfl⟩ | ⟨-, hv'⟩
    · exact hfull
    · exact (inv.ok j v hv').of_not_pending (hfree v (List.mem_of_getElem? hv'))
  single j k v v' hv hv' hp hp' := by
    rcases Threads.get_set hv with ⟨rfl, -⟩ | ⟨-, hold⟩
    · rcases Threads.get_set hv' with ⟨rfl, -⟩ | ⟨-, hold'⟩
      · rfl
      · rw [hfree v' (List.mem_of_getElem? hold')] at hp'
        cases hp'
    · rw [hfree v (List.mem_of_getElem? hold)] at hp
      cases hp
  window := inv.window
  numbered := inv.numbered
  endSeq := inv.endSeq
  once := by
    have hsame : Writer.inserted { w with pc := .count } = Writer.inserted w := by
      rw [Writer.inserted, Writer.inserted, hpc]
      rfl
    rw [Threads.outputs_set_of_eq hw hsame]
    exact inv.once

/-- The packet of the one write that has bytes in the buffer goes into the window. -/
theorem Inv.inserted {i : Nat} {w : Writer} {packet : Pb.Packet} (inv : m.Inv s)
    (hw : m.writers[i]? = some w) (hpc : w.pc = .flush (.insert packet)) :
    Inv { m with
      shared := { m.shared with
        session := m.shared.session.inserting packet
        inserted := m.shared.inserted ++ [packet] }
      writers := m.writers.set i { w with pc := .flush (.send packet.sequenceId) } } s := by
  have hpending : w.pc.pending = true := by rw [hpc]; rfl
  have hpacket : packet =
      { sequenceId := m.shared.session.sendWindowEndSeq, data := w.buf } := by
    have hok := inv.ok i w hw
    rw [hpc] at hok
    exact hok
  have hothers : ∀ (j : Nat) (v : Writer), j ≠ i → m.writers[j]? = some v →
      v.pc.pending = false := by
    intro j v hne hv
    by_contra hp
    exact hne (inv.single j i v w hv hw (by simpa using hp) hpending)
  refine ⟨⟨?_, ?_, ?_⟩, inv.stream, ?_, ?_, ?_⟩
  · show AList.insert _ _ _ = _
    rw [List.foldl_append, ← inv.window]
    rfl
  · rw [List.map_append, inv.numbered, List.length_append, List.length_singleton,
      List.iterate_add, ← inv.endSeq, hpacket]
    rfl
  · have hnone : Writer.inserted w = none := by
      rw [Writer.inserted, hpc]
      rfl
    have hnew : Writer.inserted { w with pc := .flush (.send packet.sequenceId) } =
        some w.buf := rfl
    have hdata : packet.data = w.buf := by rw [hpacket]
    rw [List.map_append, List.map_singleton, hdata]
    exact (inv.once.append_right _).trans (Threads.outputs_set_of_new hw hnone hnew).symm
  · intro j v hv
    rcases Threads.get_set hv with ⟨-, rfl⟩ | ⟨hne, hv'⟩
    · trivial
    · exact (inv.ok j v hv').of_not_pending (hothers j v hne hv')
  · intro j k v v' hv hv' hp hp'
    rcases Threads.get_set hv with ⟨-, rfl⟩ | ⟨hne, hold⟩
    · cases hp
    · rw [hothers j v hne hold] at hp
      cases hp
  · show nextSeq packet.sequenceId 1 = _
    rw [List.length_append, List.length_singleton, Function.iterate_succ_apply', ← inv.endSeq,
      hpacket]

theorem inv_stepWriter {i : Nat} (inv : m.Inv s)
    (hsafe : ∀ w ∈ m.writers[i]?, m.SafeWrite o w.buf w.pc) (h : m.stepWriter o i = some m') :
    m'.Inv s := by
  simp only [stepWriter] at h
  split at h
  next => cases h
  next w hw =>
    obtain ⟨⟨m₁, pc'⟩, hstep, rfl⟩ := Option.map_eq_some_iff.mp h
    have hw_safe := hsafe w hw
    cases stepWrite_cases inv.stream (inv.ok i w hw) hw_safe hstep with
    | quiet same pending inserted ok =>
        refine inv.of_same same ?_ ?_ (Threads.outputs_set_of_eq hw ?_)
        · intro j v hv
          rcases Threads.get_set hv with ⟨-, rfl⟩ | ⟨-, hv'⟩
          · exact ok
          · exact (inv.ok j v hv').of_same same
        · intro j v hv hp
          rcases Threads.get_set hv with ⟨rfl, rfl⟩ | ⟨-, hv'⟩
          · exact ⟨w, hw, pending.symm.trans hp⟩
          · exact ⟨v, hv', hp⟩
        · simp only [Writer.inserted, inserted]
    | copied hpc hpc' sendBuffer full hm =>
        cases hm
        cases hpc'
        rw [hpc] at hw_safe
        exact inv.copied hw hpc hw_safe full
    | inserted packet hpc hpc' hm =>
        cases hm
        cases hpc'
        exact inv.inserted hw hpc

theorem Inv.new (hstream : s.isStream = false) : (new s).Inv s where
  stream := hstream
  ok _ _ h := by cases h
  single _ _ _ _ h := by cases h
  window := rfl
  numbered := rfl
  endSeq := rfl
  once := .nil

/-- A step of the others leaves the buffer and the window alone. -/
theorem Inv.others {shared : Shared} {timer : Option FlushPc} (inv : m.Inv s)
    (hsame : m.shared.Same shared) : Inv { m with shared, timer } s :=
  inv.of_same hsame (fun i w hw => (inv.ok i w hw).of_same hsame) (fun _ w hw hp => ⟨w, hw, hp⟩) rfl

theorem inv_step (inv : m.Inv s) (hsafe : m.Safe o e) (h : m.step o e = some m') : m'.Inv s := by
  cases e with
  | write buf =>
      cases h
      refine inv.of_same (.refl _) ?_ ?_ (by simp [Writer.inserted, WritePc.inserted])
      · intro i w hw
        rcases Threads.get_append hw with ⟨-, rfl⟩ | hw'
        · trivial
        · exact inv.ok i w hw'
      · intro i w hw hp
        rcases Threads.get_append hw with ⟨-, rfl⟩ | hw'
        · cases hp
        · exact ⟨w, hw', hp⟩
  | writer i => exact inv_stepWriter inv hsafe h
  | tick =>
      simp only [step, stepTick] at h
      split at h
      next => cases h
      next =>
        split at h
        next => cases h; exact inv.others (.refl _)
        next => cases h; exact inv
  | timer => exact absurd hsafe id
  | take => cases h; exact inv.others ⟨rfl, rfl, rfl, rfl, rfl⟩
  | remote bytesRead => cases h; exact inv.others ⟨rfl, rfl, rfl, rfl, rfl⟩

theorem Inv.intact (inv : m.Inv s) : m.Intact s where
  toAccounted := inv.toAccounted
  exactly hsettled := by
    have hsame : ∀ w ∈ m.writers, w.inserted = w.returned := by
      intro w hw
      have hw_settled := hsettled w hw
      unfold Writer.inserted Writer.returned
      cases hpc : w.pc with
      | flush f => rw [hpc] at hw_settled; cases hw_settled
      | _ => rfl
    rw [← List.filterMap_congr hsame]
    exact inv.once
  noPanic w hw _ _ hpanicked := by
    obtain ⟨i, hi⟩ := List.mem_iff_getElem?.mp hw
    have hok := inv.ok i w hi
    rw [hpanicked] at hok
    exact hok

/-- While no step runs into the gaps that `Safe` names, the packets that go into
the send window are the writes, in the order of their sequence numbers. -/
theorem writes_intact (o : Overflow) (s : Session) (events : List SendEvent) (m : Senders)
    (hstream : s.isStream = false) (hsafe : Run.Meets (step o) (Safe o) (new s) events)
    (hrun : Run.runFrom (step o) (new s) events = some m) : m.Intact s := by
  have inv : m.Inv s :=
    Run.invariant_of_meets (fun _ _ _ inv hc hs => inv_step inv hc hs) (Inv.new hstream) hsafe hrun
  exact inv.intact

/-- A session whose packets are as large as its buffer. -/
def sampleWide : Session :=
  (handleHandshakePacket { sampleHandshake with windowSize := 4096, mtu := 1024 }
    (Session.new {} ["a"] [])).2

/-- The steps of one write from its start to its end. -/
def sampleWrite (i : Nat) (buf : Bytes) : List SendEvent :=
  .write buf :: List.replicate 9 (.writer i)

/-- Two writes that fill the buffer, one after the other, are two packets. -/
theorem full_writes_intact :
    ∃ m, Run.runFrom (step .checked) (new sampleWide)
        (sampleWrite 0 (List.replicate 1024 1) ++ .take :: sampleWrite 1 (List.replicate 1024 2)) =
          some m ∧
      m.Settled ∧ m.Intact sampleWide := by
  have hrun : (Run.runFrom (step .checked) (new sampleWide)
      (sampleWrite 0 (List.replicate 1024 1) ++
        .take :: sampleWrite 1 (List.replicate 1024 2))).map (fun m => decide m.Settled) =
        some true := by
    decide +kernel
  obtain ⟨m, hm, hsettled⟩ := Option.map_eq_some_iff.mp hrun
  exact ⟨m, hm, of_decide_eq_true hsettled,
    writes_intact _ _ _ m (by decide +kernel) (by decide +kernel) hm⟩

/-- A write of one byte returns, and its packet has 1024. -/
theorem short_write_padded :
    sampleEstablished.isEstablished = true ∧ sampleEstablished.isClosed = false ∧
      sampleEstablished.isStream = false ∧
      ∃ m, Run.runFrom (step .checked) (new sampleEstablished) (sampleWrite 0 [7]) = some m ∧
        m.Settled ∧ ¬ m.Intact sampleEstablished := by
  refine ⟨by decide +kernel, by decide +kernel, by decide +kernel, ?_⟩
  have hrun : (Run.runFrom (step .checked) (new sampleEstablished) (sampleWrite 0 [7])).map
      (fun m => (decide m.Settled, m.shared.inserted.map (·.data.length), m.writers)) =
        some (true, [1024], [{ buf := [7], pc := .done 1 }]) := by
    decide +kernel
  obtain ⟨m, hm, hend⟩ := Option.map_eq_some_iff.mp hrun
  simp only [Prod.mk.injEq] at hend
  obtain ⟨hsettled, hlengths, hwriters⟩ := hend
  refine ⟨m, hm, of_decide_eq_true hsettled, ?_⟩
  intro hintact
  have hperm := hintact.exactly (of_decide_eq_true hsettled)
  rw [hwriters] at hperm
  have hlengths' := hperm.map List.length
  rw [List.map_map] at hlengths'
  rw [show m.shared.inserted.map (List.length ∘ fun p => p.data) = [1024] from hlengths]
    at hlengths'
  exact absurd (List.perm_singleton.mp hlengths'.symm) (by decide)

/-- The second of two writes overwrites the first in the buffer: its bytes are in
the packet of the first, and its own packet is empty. -/
example : (Run.runFrom (step .checked) (new sampleWide)
    ([.write (List.replicate 1024 1), .write (List.replicate 1024 2)] ++
      List.replicate 5 (.writer 0) ++ List.replicate 5 (.writer 1) ++
      List.replicate 4 (.writer 0) ++ .take :: List.replicate 4 (.writer 1))).map
    (fun m => m.shared.inserted.map (·.data.head?)) = some [some 2, some 0] := by
  decide +kernel

/-- The timer alone puts a packet into the window. -/
example : (Run.runFrom (step .checked) (new sampleWide)
    (.tick :: List.replicate 4 .timer)).map (fun m => m.shared.inserted.map (·.data.length)) =
      some [1024] := by
  decide +kernel

/-! ## Each side alone -/

/-- The steps of the timer's flush, with no write in between, are those of
`flush_send_buffer`. -/
theorem timer_alone {u : Unit} {s' : Session} (hstart : m.timer = some .lock)
    (hfree : m.shared.locked = false)
    (h : flushSendBuffer m.shared.session = (.ok u, s')) :
    ∃ packet, Run.Repeats (step o) .timer m
      { m with
        shared := { m.shared with session := s', inserted := m.shared.inserted ++ [packet] }
        timer := none } := by
  obtain ⟨⟨s, locked, inserted⟩, writers, timer⟩ := m
  cases hstart
  cases hfree
  obtain ⟨rfl, hchan⟩ := flushSendBuffer_ok h
  refine ⟨dataPacket s.sendWindowEndSeq s.sendBuffer, ?_⟩
  refine Run.Repeats.head rfl (Run.Repeats.head rfl (Run.Repeats.head rfl ?_))
  refine Run.Repeats.head ?_ (Run.Repeats.refl ..)
  have hchan' : (s.inserting (dataPacket s.sendWindowEndSeq s.sendBuffer)).sendChan.isSome =
      false := hchan
  simp only [step, stepTimer, stepFlush, hchan']
  rfl

/-- One step of the write `i`. -/
theorem step_writer {i : Nat} {shared shared' : Shared} {writers : List Writer}
    {timer : Option FlushPc} {buf : Bytes} {pc pc' : WritePc}
    (hi : i < writers.length) (h : stepWrite o buf shared pc = some (shared', pc')) :
    step o ⟨shared, writers.set i { buf, pc }, timer⟩ (.writer i) =
      some ⟨shared', writers.set i { buf, pc := pc' }, timer⟩ := by
  simp only [step, stepWriter, List.getElem?_set_self hi, h, Option.map_some, List.set_set]

/-- The steps of a write, with no other in between, are those of `write`. -/
theorem write_alone {i n : Nat} {s' : Session} {shared : Shared} {writers : List Writer}
    {timer : Option FlushPc} {buf : Bytes} (hi : i < writers.length)
    (hfree : shared.locked = false) (hstream : shared.session.isStream = false)
    (h : write o buf shared.session = (.ok n, s')) :
    ∃ packet, Run.Repeats (step o) (.writer i)
      ⟨shared, writers.set i { buf, pc := .start }, timer⟩
      ⟨{ shared with session := s', inserted := shared.inserted ++ [packet] },
        writers.set i { buf, pc := .done n }, timer⟩ := by
  obtain ⟨s, locked, inserted⟩ := shared
  cases hfree
  rw [write, get_bind_apply] at h
  cases herr : writeError s buf with
  | some e =>
      rw [herr] at h
      cases h
  | none =>
      rw [herr] at h
      simp only [hstream] at h
      obtain ⟨_, s₁, hwait, h₁⟩ := bind_eq_ok h
      obtain rfl := waitForSendWindow_ok hwait
      rw [waitForSendWindow, get_bind_apply] at hwait
      obtain ⟨needed, s₂, hadd, hwait₁⟩ := bind_eq_ok hwait
      obtain ⟨-, rfl⟩ := arith_ok hadd
      split at hwait₁
      next => cases hwait₁
      next hroom =>
        obtain ⟨_, s₃, hfill, h₂⟩ := bind_eq_ok h₁
        rw [get_bind_apply] at h₂
        obtain ⟨bytesWrite, s₄, hcount, h₃⟩ := bind_eq_ok h₂
        obtain ⟨-, rfl⟩ := arith_ok hcount
        rw [modify_bind_apply] at h₃
        obtain ⟨_, s₅, hflush, h₄⟩ := bind_eq_ok h₃
        obtain ⟨rfl, hchan⟩ := flushSendBuffer_ok hflush
        cases h₄
        let packet := dataPacket s₄.sendWindowEndSeq s₄.sendBuffer
        let counted : Session := { s₄ with bytesWrite }
        have hstart : stepWrite o buf ⟨s₂, false, inserted⟩ .start =
            some (⟨s₂, false, inserted⟩, .wait) := by
          simp only [stepWrite, herr, hstream]
          rfl
        have htest : stepWrite o buf ⟨s₂, false, inserted⟩ .wait =
            some (⟨s₂, false, inserted⟩, .room) := by
          simp only [stepWrite, hadd, if_neg hroom]
        have hresult : stepWrite o buf ⟨s₂, false, inserted⟩ .room =
            some (⟨s₂, false, inserted⟩, .copy) := by
          simp only [stepWrite, hwait₁]
        have hcopy : stepWrite o buf ⟨s₂, false, inserted⟩ .copy =
            some (⟨s₄, true, inserted⟩, .count) := by
          simp only [stepWrite, hfill]
          rfl
        have hcounted : stepWrite o buf ⟨s₄, true, inserted⟩ .count =
            some (⟨counted, false, inserted⟩, .flush .lock) := by
          simp only [stepWrite, hcount]
          rfl
        have hsend : stepWrite o buf ⟨counted.inserting packet, true, inserted ++ [packet]⟩
            (.flush (.send packet.sequenceId)) =
              some (⟨counted.flushed counted.sendBuffer, false, inserted ++ [packet]⟩,
                .done buf.length) := by
          have hchan' : (counted.inserting packet).sendChan.isSome = false := hchan
          simp only [stepWrite, stepFlush, hchan']
          rfl
        refine ⟨packet, ?_⟩
        refine Run.Repeats.head (step_writer hi hstart) (Run.Repeats.head (step_writer hi htest) ?_)
        refine Run.Repeats.head (step_writer hi hresult) (Run.Repeats.head (step_writer hi hcopy) ?_)
        refine Run.Repeats.head (step_writer hi hcounted) ?_
        refine Run.Repeats.head (step_writer hi rfl) (Run.Repeats.head (step_writer hi rfl) ?_)
        refine Run.Repeats.head (step_writer hi rfl) ?_
        exact Run.Repeats.head (step_writer hi hsend) (Run.Repeats.refl ..)

end Senders

end NknSdk.Ncp
