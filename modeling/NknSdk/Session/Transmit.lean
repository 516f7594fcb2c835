import NknSdk.Session.Runs

/-!
# The loops of a connection

`tx` and `check_timeout` of `src/connection.rs`.  `tx` takes a sequence number from
one of two channels, sends its packet and notes the time.  `check_timeout` puts the
numbers that were sent too long ago on the second channel.  An ack takes a number
off the notes, and the session takes the packet out of its window.

One iteration of a loop is one event.  An iteration that waits leaves the state as
it is then, and goes on as another one.  The order in which `check_timeout` meets
the numbers is an argument.

An iteration of `tx` remembers its number if its packet is there and is sent
(`tx_remembers_iff`).  A send that fails notes the number `0`, and a packet that was
acknowledged while its number waited makes the loop panic.
-/

namespace NknSdk.Ncp

open Exec

/-! ## The state -/

/-- A connection, and what its loops share with the session. -/
structure Transmit where
  conn : Connection
  sendWindowData : AList fun _ : UInt32 => Bytes
  /-- The sequence number waiting in `send_chan`. -/
  sendChan : Option UInt32
  /-- The sequence number waiting in `resend_chan`. -/
  resendChan : Option UInt32
  /-- `tx` has neither returned nor panicked. -/
  running : Bool

/-- What an iteration of `tx` meets outside. -/
structure TxInput where
  now : Nat
  /-- The wait for the send window ends without an update. -/
  timedOut : Bool
  /-- The choice of `select!`, where both channels are ready. -/
  preferResend : Bool
  /-- The answer of `send_with`. -/
  sendWith : Except String Unit

abbrev TransmitCall (α : Type) : Type := Exec NcpError Transmit α

/-! ## `tx` -/

/-- A cast from `f64` to `u32`. -/
def castU32 (x : ℚ) : Nat := min x.floor.toNat (2 ^ 32 - 1)

/-- The window is full. -/
def Connection.isFull (conn : Connection) : Bool :=
  castU32 conn.windowSize ≤ (UInt32.ofNat conn.timeSentSeq.keys.length).toNat

/-- `Connection::wait_for_send_window`.  An update that is there already is taken,
but only an ack makes room. -/
def waitForConnWindow (timedOut : Bool) : TransmitCall Bool := do
  let s ← get
  if s.conn.isFull then
    modify fun s => { s with conn := { s.conn with sendWindowUpdate := false } }
    if timedOut then return false else block
  else return true

/-- The first `select!`, which does not wait. -/
def takeResend : TransmitCall UInt32 := do
  let s ← get
  match s.resendChan with
  | some seq =>
      modify fun s => { s with resendChan := none }
      return seq
  | none => return 0

/-- The second `select!`. -/
def takeEither (preferResend : Bool) : TransmitCall UInt32 := do
  let s ← get
  match s.sendChan with
  | none =>
      match s.resendChan with
      | none => block
      | some _ => takeResend
  | some seq =>
      if preferResend ∧ s.resendChan.isSome then takeResend
      else
        modify fun s => { s with sendChan := none }
        return seq

/-- The number that an iteration takes.  There is none where the loop returns. -/
def takeSeq (input : TxInput) : TransmitCall (Option UInt32) := do
  let seq ← takeResend
  if seq = 0 then
    let room ← waitForConnWindow input.timedOut
    if room then
      let seq ← takeEither input.preferResend
      return some seq
    else return none
  else return some seq

/-- Note the time of a number. -/
def noteSent (now : Nat) (seq : UInt32) : TransmitCall Unit :=
  modify fun s => { s with
    conn := { s.conn with
      timeSentSeq :=
        if (s.conn.timeSentSeq.lookup seq).isSome then s.conn.timeSentSeq
        else s.conn.timeSentSeq.insert seq now
      resentSeq := s.conn.resentSeq.erase seq } }

/-- What an iteration does with its number. -/
def sendSeq (input : TxInput) (seq : UInt32) : TransmitCall Unit := do
  let s ← get
  let buf ← unwrap (s.sendWindowData.lookup seq)
  if buf = [] then
    modify fun s => { s with
      conn := { s.conn with
        timeSentSeq := s.conn.timeSentSeq.erase seq
        resentSeq := s.conn.resentSeq.erase seq } }
  else
    match input.sendWith with
    | .ok _ => noteSent input.now seq
    | .error _ =>
        modify fun s => { s with conn := s.conn.setWindowSize (s.conn.windowSize / 2) 1 }
        noteSent input.now 0

/-- One iteration of `connection::tx`, and the number that it took. -/
def tx (input : TxInput) : TransmitCall (Option UInt32) := do
  match ← takeSeq input with
  | none => return none
  | some seq =>
      sendSeq input seq
      return some seq

/-! ## `check_timeout` -/

/-- One round of the loop of `check_timeout`. -/
def checkSeq (now retransmissionTimeout : Nat) (seq : UInt32) : TransmitCall Unit := do
  let s ← get
  match s.conn.timeSentSeq.lookup seq with
  | none => return ()
  | some t =>
      if (s.conn.resentSeq.lookup seq).isSome then return ()
      else if t + retransmissionTimeout < now then
        if s.resendChan.isSome then block
        else
          modify fun s => { s with resendChan := some seq }
          modify fun s => { s with
            conn := { s.conn with resentSeq := s.conn.resentSeq.insert seq () } }
      else return ()

/-- One iteration of `connection::check_timeout`. -/
def checkTimeout (now : Nat) (order : List UInt32) : TransmitCall Unit := do
  let s ← get
  order.forM (checkSeq now s.conn.retransmissionTimeout)

/-! ## Events -/

inductive TransmitEvent where
  | tx (input : TxInput)
  | checkTimeout (now : Nat) (order : List UInt32)
  | receiveAck (now : Nat) (seq : UInt32) (isSentByMe : Bool)
  /-- The session takes an acknowledged packet out of its window. -/
  | acked (seq : UInt32)
  /-- The session flushes its send buffer. -/
  | flush (seq : UInt32) (sendBuffer : Vector UInt8 sendBufferLen)
  /-- The session sets the window of the connection. -/
  | setWindowSize (windowSize : ℚ)

namespace Transmit

def new (localClientId remoteClientId : String) (windowSize : ℚ) : Transmit where
  conn := Connection.new localClientId remoteClientId windowSize
  sendWindowData := ∅
  sendChan := none
  resendChan := none
  running := true

/-- One event.  A session never gives the number `0` to a packet, and waits where the
channel is full. -/
def step (d : Deps) (s : Transmit) : TransmitEvent → Option Transmit
  | .tx input =>
      if s.running then
        match Ncp.tx input s with
        | (.ok none, s') => some { s' with running := false }
        | (.panic, s') => some { s' with running := false }
        | (_, s') => some s'
      else none
  | .checkTimeout now order => some (Ncp.checkTimeout now order s).2
  | .receiveAck now seq isSentByMe =>
      some { s with conn := (Connection.receiveAck { d with now } seq isSentByMe s.conn).2 }
  | .acked seq => some { s with sendWindowData := s.sendWindowData.erase seq }
  | .flush seq sendBuffer =>
      if seq ≠ 0 ∧ s.sendChan = none then
        some { s with
          sendWindowData := s.sendWindowData.insert seq (dataPacket seq sendBuffer).encode
          sendChan := some seq }
      else none
  | .setWindowSize windowSize => some { s with conn := { s.conn with windowSize } }

/-! ## The property -/

/-- `0` is not noted.  A number that was taken, and whose packet is still there, is
noted or waits again, and a number that was acknowledged while it waited for its
second turn does not make the loop panic. -/
structure Remembers (d : Deps) (s : Transmit) (e : TransmitEvent) : Prop where
  zero : ∀ s' ∈ step d s e, s'.conn.timeSentSeq.lookup 0 = none
  taken : ∀ input, e = .tx input → s.running = true →
    ∀ seq s', Ncp.tx input s = (.ok (some seq), s') → (s'.sendWindowData.lookup seq).isSome →
      (s'.conn.timeSentSeq.lookup seq).isSome ∨ s'.resendChan = some seq
  skipped : ∀ input, e = .tx input → s.running = true →
    ∀ seq ∈ s.resendChan, s.sendWindowData.lookup seq = none → (Ncp.tx input s).1 ≠ .panic

/-- The number that the next iteration takes. -/
def nextSeq (s : Transmit) : Option UInt32 :=
  match s.resendChan with
  | some seq => some seq
  | none => if s.conn.isFull then none else s.sendChan

/-- The packet that waits for its second turn is still there, and the one that is sent
goes out. -/
def Delivers (s : Transmit) : TransmitEvent → Prop
  | .tx input =>
      s.running = true →
        (∀ seq ∈ s.resendChan, (s.sendWindowData.lookup seq).isSome) ∧
          ∀ seq ∈ s.nextSeq, (s.sendWindowData.lookup seq).isSome → input.sendWith = .ok ()
  | _ => True

/-! ## What an iteration does -/

/-- The numbers that wait are not `0`, neither are the ones that are noted, and no
packet is empty. -/
structure Inv (s : Transmit) : Prop where
  zero : s.conn.timeSentSeq.lookup 0 = none
  sendChan : s.sendChan ≠ some 0
  resendChan : s.resendChan ≠ some 0
  packets : ∀ seq buf, s.sendWindowData.lookup seq = some buf → buf ≠ []

/-- After the next number was taken off its channel. -/
def took (s : Transmit) : Transmit :=
  if s.resendChan.isSome then { s with resendChan := none } else { s with sendChan := none }

/-- After the time of `seq` was noted. -/
def noted (s : Transmit) (now : Nat) (seq : UInt32) : Transmit :=
  (noteSent now seq s).2

variable {s : Transmit} {input : TxInput} {seq : UInt32}

theorem took_sendWindowData (s : Transmit) : s.took.sendWindowData = s.sendWindowData := by
  unfold took
  split <;> rfl

theorem takeResend_some (h : s.resendChan = some seq) :
    takeResend s = (.ok seq, { s with resendChan := none }) := by
  rw [takeResend, get_bind_apply, h]
  rfl

theorem takeResend_none (h : s.resendChan = none) : takeResend s = (.ok 0, s) := by
  rw [takeResend, get_bind_apply, h]
  rfl

theorem waitForConnWindow_of_room (h : s.conn.isFull = false) (timedOut : Bool) :
    waitForConnWindow timedOut s = (.ok true, s) := by
  rw [waitForConnWindow, get_bind_apply, if_neg (by simp [h])]
  rfl

theorem takeEither_of_sendChan (hresend : s.resendChan = none) (h : s.sendChan = some seq)
    (preferResend : Bool) :
    takeEither preferResend s = (.ok seq, { s with sendChan := none }) := by
  rw [takeEither, get_bind_apply, h]
  dsimp only
  rw [if_neg (by simp [hresend])]
  rfl

/-- The iteration takes the number that is next. -/
theorem takeSeq_of_next (input : TxInput) (hinv : Inv s) (h : s.nextSeq = some seq) :
    takeSeq input s = (.ok (some seq), s.took) ∧ seq ≠ 0 := by
  rw [nextSeq] at h
  cases hresend : s.resendChan with
  | some waiting =>
      rw [hresend] at h
      cases h
      have hne : seq ≠ 0 := fun hzero => hinv.resendChan (by rw [hresend, hzero])
      refine ⟨?_, hne⟩
      rw [takeSeq, bind_ok (takeResend_some hresend), if_neg hne, took, if_pos (by simp [hresend])]
      rfl
  | none =>
      rw [hresend] at h
      dsimp only at h
      by_cases hfull : s.conn.isFull = true
      · rw [if_pos hfull] at h
        cases h
      · rw [if_neg hfull] at h
        have hroom := waitForConnWindow_of_room (by simpa using hfull) input.timedOut
        have hne : seq ≠ 0 := fun hzero => hinv.sendChan (by rw [h, hzero])
        refine ⟨?_, hne⟩
        rw [takeSeq, bind_ok (takeResend_none hresend), if_pos rfl, bind_ok hroom, if_pos rfl,
          bind_ok (takeEither_of_sendChan hresend h input.preferResend), took,
          if_neg (by simp [hresend])]
        rfl

/-- Where there is no next number, the loop waits or returns. -/
theorem tx_of_no_next (input : TxInput) (h : s.nextSeq = none) :
    ∃ sendWindowUpdate,
      let s' := { s with conn := { s.conn with sendWindowUpdate } }
      Ncp.tx input s = (.ok none, s') ∨ Ncp.tx input s = (.block, s') := by
  have hresend : s.resendChan = none := by
    cases hresend : s.resendChan with
    | none => rfl
    | some waiting => simp [nextSeq, hresend] at h
  rw [nextSeq, hresend] at h
  dsimp only at h
  have htake : takeSeq input s = (do
      let room ← waitForConnWindow input.timedOut
      if room then
        let seq ← takeEither input.preferResend
        return some seq
      else return none : TransmitCall (Option UInt32)) s := by
    rw [takeSeq, bind_ok (takeResend_none hresend), if_pos rfl]
  by_cases hfull : s.conn.isFull = true
  · refine ⟨false, ?_⟩
    cases htimeout : input.timedOut with
    | true =>
        refine Or.inl ?_
        rw [Ncp.tx, bind_apply, htake, bind_apply, waitForConnWindow, get_bind_apply,
          if_pos hfull, htimeout]
        rfl
    | false =>
        refine Or.inr ?_
        rw [Ncp.tx, bind_apply, htake, bind_apply, waitForConnWindow, get_bind_apply,
          if_pos hfull, htimeout]
        rfl
  · rw [if_neg hfull] at h
    have hroom := waitForConnWindow_of_room (by simpa using hfull) input.timedOut
    refine ⟨s.conn.sendWindowUpdate, Or.inr ?_⟩
    have hwait : takeEither input.preferResend s = (.block, s) := by
      rw [takeEither, get_bind_apply, h, hresend]
      rfl
    rw [Ncp.tx, bind_apply, htake, bind_ok hroom, if_pos rfl, bind_apply, hwait]

theorem sendSeq_sent {buf : Bytes} (hbuf : s.sendWindowData.lookup seq = some buf) (hne : buf ≠ [])
    (hsent : input.sendWith = .ok ()) :
    sendSeq input seq s = (.ok (), s.noted input.now seq) := by
  rw [sendSeq, get_bind_apply, hbuf, unwrap_some, pure_bind, if_neg hne, hsent]
  rfl

theorem sendSeq_failed {buf : Bytes} (hbuf : s.sendWindowData.lookup seq = some buf)
    (hne : buf ≠ []) {e : String} (hfailed : input.sendWith = .error e) :
    sendSeq input seq s = (.ok (),
      { s with conn := s.conn.setWindowSize (s.conn.windowSize / 2) 1 }.noted input.now 0) := by
  rw [sendSeq, get_bind_apply, hbuf, unwrap_some, pure_bind, if_neg hne, hfailed]
  rfl

theorem tx_of_missing (hinv : Inv s) (h : s.nextSeq = some seq)
    (hmissing : s.sendWindowData.lookup seq = none) : Ncp.tx input s = (.panic, s.took) := by
  have hpanic : sendSeq input seq s.took = (.panic, s.took) := by
    rw [sendSeq, get_bind_apply, took_sendWindowData, hmissing, unwrap_none]
    rfl
  rw [Ncp.tx, bind_ok (takeSeq_of_next input hinv h).1]
  dsimp only
  rw [bind_apply, hpanic]

theorem tx_of_sent (hinv : Inv s) (h : s.nextSeq = some seq)
    (hthere : (s.sendWindowData.lookup seq).isSome) (hsent : input.sendWith = .ok ()) :
    Ncp.tx input s = (.ok (some seq), s.took.noted input.now seq) := by
  obtain ⟨buf, hbuf⟩ := Option.isSome_iff_exists.mp hthere
  have hbuf' : s.took.sendWindowData.lookup seq = some buf := by rw [took_sendWindowData, hbuf]
  rw [Ncp.tx, bind_ok (takeSeq_of_next input hinv h).1]
  dsimp only
  rw [bind_ok (sendSeq_sent hbuf' (hinv.packets seq buf hbuf) hsent)]
  rfl

/-- A send that fails: the number is lost on the way to the notes. -/
theorem tx_of_failed (hinv : Inv s) (h : s.nextSeq = some seq)
    (hthere : (s.sendWindowData.lookup seq).isSome) {e : String} (hfailed : input.sendWith = .error e) :
    Ncp.tx input s = (.ok (some seq),
      { s.took with conn := s.took.conn.setWindowSize (s.took.conn.windowSize / 2) 1 }.noted
        input.now 0) := by
  obtain ⟨buf, hbuf⟩ := Option.isSome_iff_exists.mp hthere
  have hbuf' : s.took.sendWindowData.lookup seq = some buf := by rw [took_sendWindowData, hbuf]
  rw [Ncp.tx, bind_ok (takeSeq_of_next input hinv h).1]
  dsimp only
  rw [bind_ok (sendSeq_failed hbuf' (hinv.packets seq buf hbuf) hfailed)]
  rfl

theorem noted_lookup (s : Transmit) (now : Nat) (seq : UInt32) :
    ((s.noted now seq).conn.timeSentSeq.lookup seq).isSome := by
  show ((if (s.conn.timeSentSeq.lookup seq).isSome then s.conn.timeSentSeq
    else s.conn.timeSentSeq.insert seq now).lookup seq).isSome
  split
  next hsome => exact hsome
  next => simp

theorem noted_lookup_ne (s : Transmit) (now : Nat) {seq other : UInt32} (hne : other ≠ seq) :
    (s.noted now seq).conn.timeSentSeq.lookup other = s.conn.timeSentSeq.lookup other := by
  show (if (s.conn.timeSentSeq.lookup seq).isSome then s.conn.timeSentSeq
    else s.conn.timeSentSeq.insert seq now).lookup other = _
  split
  next => rfl
  next => exact AList.lookup_insert_ne hne

/-! ## The invariant -/

namespace Inv

theorem new (localClientId remoteClientId : String) (windowSize : ℚ) :
    Inv (Transmit.new localClientId remoteClientId windowSize) where
  zero := rfl
  sendChan h := by cases h
  resendChan h := by cases h
  packets seq buf h := by cases h

theorem took (h : Inv s) : Inv s.took := by
  unfold Transmit.took
  split
  · exact ⟨h.zero, h.sendChan, fun hzero => (nomatch hzero), h.packets⟩
  · exact ⟨h.zero, fun hzero => (nomatch hzero), h.resendChan, h.packets⟩

theorem noted (h : Inv s) (now : Nat) (hne : seq ≠ 0) : Inv (s.noted now seq) where
  zero := by
    rw [noted_lookup_ne s now hne.symm]
    exact h.zero
  sendChan := h.sendChan
  resendChan := h.resendChan
  packets := h.packets

/-- Only numbers that are noted are queued again. -/
theorem checkTimeout (now : Nat) (order : List UInt32) : Keeps Inv (checkTimeout now order) := by
  refine keeps_bind keeps_get fun s₀ => keeps_forM fun seq => ?_
  intro s h
  rw [checkSeq, get_bind_apply]
  cases hsent : s.conn.timeSentSeq.lookup seq with
  | none => exact h
  | some t =>
      have hne : seq ≠ 0 := by
        rintro rfl
        rw [h.zero] at hsent
        cases hsent
      dsimp only
      split
      next => exact h
      next =>
        split
        next =>
          split
          next => exact h
          next =>
            refine ⟨h.zero, h.sendChan, ?_, h.packets⟩
            intro hzero
            exact hne (Option.some.inj hzero)
        next => exact h

theorem receiveAck (d : Deps) (seq : UInt32) (isSentByMe : Bool) :
    Keeps (fun conn => conn.timeSentSeq.lookup 0 = none)
      (Connection.receiveAck d seq isSentByMe) := by
  refine keeps_bind keeps_get fun conn => ?_
  cases conn.timeSentSeq.lookup seq with
  | none => exact keeps_pure _
  | some t =>
      refine keeps_bind (keeps_when ?_) fun _ => keeps_bind (keeps_modify fun conn h => ?_) fun _ => ?_
      · refine keeps_bind keeps_get fun conn => keeps_bind (keeps_require _) fun _ => ?_
        refine keeps_bind (keeps_require _) fun _ => keeps_bind (keeps_require _) fun _ => ?_
        refine keeps_bind (keeps_modify fun conn h => h) fun _ => ?_
        exact keeps_ite (keeps_modify fun conn h => h) (keeps_pure _)
      · by_cases hzero : (0 : UInt32) = seq
        · subst hzero
          exact AList.lookup_erase _ _
        · exact (AList.lookup_erase_ne hzero).trans h
      · exact keeps_bind keeps_get fun conn =>
          keeps_ite keeps_panic (keeps_modify fun conn h => h)

theorem acked (h : Inv s) (seq : UInt32) :
    Inv { s with sendWindowData := s.sendWindowData.erase seq } where
  zero := h.zero
  sendChan := h.sendChan
  resendChan := h.resendChan
  packets other buf hbuf := by
    by_cases hother : other = seq
    · subst hother
      cases (AList.lookup_erase _ _).symm.trans hbuf
    · exact h.packets other buf ((AList.lookup_erase_ne hother).symm.trans hbuf)

theorem flush (h : Inv s) (hne : seq ≠ 0) (sendBuffer : Vector UInt8 sendBufferLen) :
    Inv { s with
      sendWindowData := s.sendWindowData.insert seq (dataPacket seq sendBuffer).encode
      sendChan := some seq } where
  zero := h.zero
  sendChan hzero := hne (Option.some.inj hzero)
  resendChan := h.resendChan
  packets other buf hbuf := by
    by_cases hother : other = seq
    · subst hother
      cases (AList.lookup_insert _).symm.trans hbuf
      have hdata := (dataPacket other sendBuffer).data_length_le_encode
      have hlen : (dataPacket other sendBuffer).data.length = 1024 := Vector.length_toList
      intro hempty
      rw [hempty, hlen] at hdata
      exact absurd hdata (by decide)
    · exact h.packets other buf ((AList.lookup_insert_ne hother).symm.trans hbuf)

end Inv

/-- Every event but an iteration of `tx` keeps the invariant. -/
theorem inv_step_of_ne_tx {d : Deps} {s' : Transmit} {e : TransmitEvent} (h : Inv s)
    (hne : ∀ input, e ≠ .tx input) (hs : step d s e = some s') : Inv s' := by
  cases e with
  | tx input => exact absurd rfl (hne input)
  | checkTimeout now order =>
      cases hs
      exact Inv.checkTimeout now order s h
  | receiveAck now seq isSentByMe =>
      cases hs
      exact ⟨Inv.receiveAck { d with now } seq isSentByMe s.conn h.zero, h.sendChan, h.resendChan,
        h.packets⟩
  | acked seq =>
      cases hs
      exact h.acked seq
  | flush seq sendBuffer =>
      simp only [step] at hs
      split at hs
      next hroom =>
        cases hs
        exact h.flush hroom.1 sendBuffer
      next => cases hs
  | setWindowSize windowSize =>
      cases hs
      exact ⟨h.zero, h.sendChan, h.resendChan, h.packets⟩

/-- What an iteration of `tx` does to the state, if its packet goes out. -/
theorem step_tx_of_delivers {d : Deps} {s' : Transmit} (h : Inv s)
    (hdelivers : s.Delivers (.tx input)) (hs : step d s (.tx input) = some s') : Inv s' := by
  simp only [step] at hs
  split at hs
  next hrunning =>
    cases hnext : s.nextSeq with
    | none =>
        obtain ⟨update, htx | htx⟩ := tx_of_no_next input hnext
        · rw [htx] at hs
          cases hs
          exact ⟨h.zero, h.sendChan, h.resendChan, h.packets⟩
        · rw [htx] at hs
          cases hs
          exact ⟨h.zero, h.sendChan, h.resendChan, h.packets⟩
    | some seq =>
        obtain ⟨-, hne⟩ := takeSeq_of_next input h hnext
        by_cases hthere : (s.sendWindowData.lookup seq).isSome
        · rw [tx_of_sent h hnext hthere ((hdelivers hrunning).2 seq hnext hthere)] at hs
          cases hs
          exact h.took.noted input.now hne
        · rw [tx_of_missing h hnext (by simpa using hthere)] at hs
          cases hs
          exact ⟨h.took.zero, h.took.sendChan, h.took.resendChan, h.took.packets⟩
  next => cases hs

theorem inv_step {d : Deps} {s' : Transmit} {e : TransmitEvent} (h : Inv s)
    (hdelivers : s.Delivers e) (hs : step d s e = some s') : Inv s' := by
  by_cases htx : ∃ input, e = .tx input
  · obtain ⟨input, rfl⟩ := htx
    exact step_tx_of_delivers h hdelivers hs
  · exact inv_step_of_ne_tx h (fun input heq => htx ⟨input, heq⟩) hs

/-! ## When the numbers are remembered -/

theorem remembers_of_delivers {d : Deps} (h : Inv s) (hdelivers : s.Delivers (.tx input)) :
    Remembers d s (.tx input) where
  zero s' hs := (step_tx_of_delivers h hdelivers hs).zero
  taken input' heq hrunning seq s' htx hthere := by
    cases heq
    cases hnext : s.nextSeq with
    | none =>
        obtain ⟨update, hwait | hwait⟩ := tx_of_no_next input hnext
        · rw [hwait] at htx
          cases htx
        · rw [hwait] at htx
          cases htx
    | some seq₁ =>
        by_cases hpacket : (s.sendWindowData.lookup seq₁).isSome
        · rw [tx_of_sent h hnext hpacket ((hdelivers hrunning).2 seq₁ hnext hpacket)] at htx
          cases htx
          exact Or.inl (noted_lookup _ _ _)
        · rw [tx_of_missing h hnext (by simpa using hpacket)] at htx
          cases htx
  skipped input' heq hrunning seq hseq hmissing := by
    have hthere := (hdelivers hrunning).1 seq hseq
    rw [hmissing] at hthere
    cases hthere

theorem delivers_of_remembers {d : Deps} (h : Inv s) (hremembers : Remembers d s (.tx input)) :
    s.Delivers (.tx input) := by
  intro hrunning
  constructor
  · intro seq hseq
    by_contra hmissing
    have hmissing' : s.sendWindowData.lookup seq = none := by simpa using hmissing
    have hnext : s.nextSeq = some seq := by
      rw [nextSeq, show s.resendChan = some seq from hseq]
    exact hremembers.skipped input rfl hrunning seq hseq hmissing'
      (by rw [tx_of_missing h hnext hmissing'])
  · intro seq hnext hthere
    cases hsend : input.sendWith with
    | ok u => rfl
    | error e =>
        exfalso
        have hstep : step d s (.tx input) = some
            ({ s.took with conn := s.took.conn.setWindowSize (s.took.conn.windowSize / 2) 1 }.noted
              input.now 0) := by
          simp only [step, if_pos hrunning, tx_of_failed h hnext hthere hsend]
        have hzero := hremembers.zero _ hstep
        have hnoted := noted_lookup
          { s.took with conn := s.took.conn.setWindowSize (s.took.conn.windowSize / 2) 1 } input.now 0
        rw [hzero] at hnoted
        cases hnoted

theorem delivers_iff {d : Deps} (h : Inv s) (e : TransmitEvent) :
    s.Delivers e ↔ Remembers d s e := by
  by_cases htx : ∃ input, e = .tx input
  · obtain ⟨input, rfl⟩ := htx
    exact ⟨remembers_of_delivers h, delivers_of_remembers h⟩
  · have hne : ∀ input, e ≠ .tx input := fun input heq => htx ⟨input, heq⟩
    constructor
    · intro _
      exact ⟨fun s' hs => (inv_step_of_ne_tx h hne hs).zero, fun input heq => absurd heq (hne input),
        fun input heq => absurd heq (hne input)⟩
    · intro _
      cases e with
      | tx input => exact absurd rfl (hne input)
      | _ => trivial

/-- A run forgets no packet exactly if every iteration of `tx` finds the packet that
waits for its second turn, and sends the one that it takes. -/
theorem tx_remembers_iff (d : Deps) (localClientId remoteClientId : String) (windowSize : ℚ)
    (events : List TransmitEvent) :
    Run.Meets (step d) (Remembers d) (new localClientId remoteClientId windowSize) events ↔
      Run.Meets (step d) Delivers (new localClientId remoteClientId windowSize) events :=
  (Run.meets_iff (fun _ e h => delivers_iff h e) (fun _ _ _ h hdelivers hs => inv_step h hdelivers hs)
    (Inv.new localClientId remoteClientId windowSize) events).symm

/-- The flush of a session is the event `flush` of its connections. -/
theorem flush_of_session (d : Deps) {session session' : Session} {u : Unit}
    (hinv : Ncp.Inv session) (hflush : flushSendBuffer session = (.ok u, session'))
    (hdata : s.sendWindowData = session.sendWindowData) (hchan : s.sendChan = session.sendChan) :
    ∃ s', step d s (.flush session.sendWindowEndSeq session.sendBuffer) = some s' ∧
      s'.sendWindowData = session'.sendWindowData ∧ s'.sendChan = session'.sendChan := by
  obtain ⟨rfl, hroom⟩ := flushSendBuffer_ok hflush
  have hfree : s.sendChan = none := by
    rw [hchan]
    simpa using hroom
  refine ⟨_, if_pos ⟨hinv.sendWindowEndSeq, hfree⟩, ?_, rfl⟩
  rw [hdata]
  rfl

/-! ## Two packets that are forgotten -/

def sampleInput : TxInput :=
  { now := 0, timedOut := false, preferResend := false, sendWith := .ok () }

/-- The packet `1` cannot be sent. -/
def failedSend : List TransmitEvent :=
  [.flush 1 (Vector.replicate _ 0), .tx { sampleInput with sendWith := .error "broken pipe" }]

/-- The packet `1` is acknowledged while it waits to be sent again. -/
def ackedResend : List TransmitEvent :=
  [.flush 1 (Vector.replicate _ 0), .tx sampleInput, .checkTimeout 6000000000 [1],
    .receiveAck 6000000000 1 false, .acked 1, .tx sampleInput]

def sampleTransmitDeps : Deps where
  overflow := .checked
  decodePacket := fun _ => none
  now := 0
  tanh := fun _ => 0

theorem packet_forgotten :
    ¬ Run.Meets (step sampleTransmitDeps) (Remembers sampleTransmitDeps) (new "a" "b" 4) failedSend ∧
      ¬ Run.Meets (step sampleTransmitDeps) (Remembers sampleTransmitDeps) (new "a" "b" 4)
        ackedResend := by
  constructor
  · intro h
    have hzero := ((h.2 _ rfl).1.zero _ rfl)
    exact absurd hzero (by decide +kernel)
  · intro h
    have hlast := ((((((h.2 _ rfl).2 _ rfl).2 _ rfl).2 _ rfl).2 _ rfl).1)
    exact hlast.skipped sampleInput rfl rfl 1 rfl rfl rfl

end Transmit

end NknSdk.Ncp
