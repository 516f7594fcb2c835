import NknSdk.Lib.FairLock
import NknSdk.Lib.Threads
import NknSdk.Pb.PacketDecode
import NknSdk.Session.Outgoing

/-!
# The tasks of a session

`start_session` of `src/session.rs` and `start_conn` of `src/connection.rs` run the
loops of a session next to each other.  They share the session with its callers under
one lock, which is handed on in the order in which it was asked for.

The flush loop is the first of the loops to ask for the session, and keeps it: its guard
lives as long as `start_flush`, which never returns.  The other loops need the session
to send anything.  So none of them ever does (`loops_never_send`), and once the flush
loop has the session, no caller gets it again, and the loop itself stops at a full
channel (`flush_stalls`).

The steps are those between two waits.  Any order of them is allowed, and the code, which
polls all the loops in one task, has some of these orders.
-/

namespace NknSdk.Ncp

open Exec FairLock

/-! ## The state -/

/-- Who asks for the session. -/
inductive Task where
  | caller (n : Nat)
  | flush
  | checkBytesRead
  | tx (key : String)
  | sendAck (key : String)
  | checkTimeout (key : String)
deriving DecidableEq

/-- A loop of `start_session`. -/
def Task.isLoop : Task → Bool
  | .caller _ => false
  | _ => true

/-- Where the loop `tx` of a connection is.  It has the lock of the connection until it
returns. -/
inductive TxPlace where
  /-- It has no number. -/
  | idle
  /-- It has taken a number, and waits for the send window. -/
  | took (seq : UInt32)
  /-- It reads the send window, and waits for the session. -/
  | reading (seq : UInt32)
  | returned
deriving DecidableEq

/-- A session after `start_session`. -/
structure Started where
  e : Endpoint
  /-- The queue of the lock of the session. -/
  queue : List Task
  /-- The keys of the connections that have loops. -/
  keys : List String
  txs : String → TxPlace
  /-- The number of the packet that the flush loop has put into the send window, while
  it waits for room in `send_chan`.  It has the window for writing then. -/
  stored : Option UInt32
  /-- The count that `start_check_bytes_read` is about to send. -/
  counted : Option UInt64
  /-- The connections whose `check_timeout` has its configuration. -/
  checking : List String
  /-- No loop has panicked, which ends them all. -/
  running : Bool

namespace Started

/-- The flush loop is polled first, behind the callers that wait already. -/
def start (e : Endpoint) (callers : List Nat) : Started where
  e
  queue := callers.map Task.caller ++ [.flush]
  keys := e.session.connections.keys
  txs _ := .idle
  stored := none
  counted := none
  checking := []
  running := true

/-- The loops are dropped, with the locks that they have. -/
def panicked (s : Started) : Started :=
  { s with queue := s.queue.filter fun task => !task.isLoop, stored := none, running := false }

/-- Some loop reads the send window. -/
def isRead (s : Started) : Bool :=
  s.keys.any fun key => match s.txs key with | .reading _ => true | _ => false

def setTx (s : Started) (key : String) (place : TxPlace) : Started :=
  { s with txs := Function.update s.txs key place }

/-! ## The loops -/

/-- `flush_send_buffer` up to its wait for the channel. -/
def flushStore (s : Started) : Option Started :=
  if s.running ∧ holder s.queue = some .flush ∧ s.stored = none ∧ s.isRead = false then
    let seq := s.e.session.sendWindowEndSeq
    some { s with
      e := { s.e with
        session := { s.e.session.flushed s.e.session.sendBuffer with
          sendChan := s.e.session.sendChan } }
      stored := some seq }
  else none

/-- The rest of `flush_send_buffer`. -/
def flushSend (s : Started) : Option Started :=
  match s.stored, s.e.session.sendChan with
  | some seq, none =>
      some { s with
        e := { s.e with session := { s.e.session with sendChan := some seq } }
        stored := none }
  | _, _ => none

/-- `start_check_bytes_read` asks for the session. -/
def checkAsk (s : Started) : Option Started :=
  if s.running ∧ .checkBytesRead ∉ s.queue then
    some { s with queue := request s.queue .checkBytesRead }
  else none

/-- It looks at the count, and asks again where there is something to send. -/
def checkCount (s : Started) (now sentTime updateTime : Nat) : Option Started :=
  if holder s.queue = some .checkBytesRead ∧ s.counted = none then
    if bytesReadSettled s.e now sentTime updateTime then some { s with queue := release s.queue }
    else
      some { s with
        queue := request (release s.queue) .checkBytesRead
        counted := some s.e.session.bytesRead }
  else none

/-- It sends the count over every connection. -/
def checkSend (answer : Nat → Bool) (s : Started) (keys : List String) : Option Started :=
  match s.counted with
  | some bytesRead =>
      if holder s.queue = some .checkBytesRead then
        let p : Pb.Packet := { bytesRead }
        some { s with
          e := ((keys.forM fun key => do
            let conn ← unwrap (s.e.session.connections.lookup key)
            let _ ← sendWith answer
              { localClientId := conn.localClientId, remoteClientId := conn.remoteClientId
                buf := p.encode, timeout := conn.retransmissionTimeout / 10 ^ 6 * 10 ^ 6 }
            return () : EndCall Unit) s.e).2
          queue := release s.queue
          counted := none }
      else none
  | none => none

/-- `tx` takes its next number. -/
def txTake (s : Started) (key : String) (windowSize : ℚ) (input : TxInput) : Option Started :=
  if s.running ∧ key ∈ s.keys ∧ s.txs key = .idle then
    (s.e.session.connections.lookup key).map fun conn =>
      let after := takeSeq input (s.e.transmit conn windowSize)
      let s := { s with e := s.e.settle key conn after.2 }
      match after.1 with
      | .ok (some seq) => s.setTx key (.took seq)
      | .ok none => s.setTx key .returned
      | _ => s
  else none

/-- `tx` looks up the packet of its number.  It keeps the send window while it waits for
the session. -/
def txRead (s : Started) (key : String) (windowSize : ℚ) (input : TxInput) : Option Started :=
  match s.txs key, s.e.session.connections.lookup key with
  | .took seq, some conn =>
      if s.running ∧ s.stored = none then
        match s.e.session.sendWindowData.lookup seq with
        | none => some s.panicked
        | some [] =>
            let after := sendSeq input seq (s.e.transmit conn windowSize)
            some ({ s with e := s.e.settle key conn after.2 }.setTx key .idle)
        | some _ =>
            some ({ s with queue := request s.queue (.tx key) }.setTx key (.reading seq))
      else none
  | _, _ => none

/-- `tx` sends the packet. -/
def txSend (s : Started) (key : String) (windowSize : ℚ) (input : TxInput) : Option Started :=
  match s.txs key, s.e.session.connections.lookup key with
  | .reading seq, some conn =>
      if holder s.queue = some (.tx key) then
        let after := sendSeq input seq (s.e.transmit conn windowSize)
        let e := { s.e.settle key conn after.2 with
          sent := s.e.sent ++ txDatagrams conn s.e.session.sendWindowData (.ok (some seq)) }
        some ({ s with e, queue := release s.queue }.setTx key .idle)
      else none
  | _, _ => none

/-- `send_ack` collects its ranges and asks for the session.  With the session it then
waits for ever, since it asks twice for the lock of the connection. -/
def ackCollect (o : Overflow) (s : Started) (key : String) : Option Started :=
  if s.running ∧ s.txs key = .returned ∧ .sendAck key ∉ s.queue then
    (s.e.session.connections.lookup key).map fun conn =>
      if conn.sendAckQueue.length = 0 then s
      else
        let after := collect o s.e.config.maxAskSeqListSize conn
        let session := { s.e.session with connections := s.e.session.connections.insert key after.2 }
        let s := { s with e := { s.e with session } }
        match after.1 with
        | .ok _ => { s with queue := request s.queue (.sendAck key) }
        | .panic => s.panicked
        | _ => s
  else none

/-- `check_timeout` asks for the session, to read the configuration. -/
def timeoutAsk (s : Started) (key : String) : Option Started :=
  if s.running ∧ key ∈ s.keys ∧ .checkTimeout key ∉ s.queue ∧ key ∉ s.checking then
    some { s with queue := request s.queue (.checkTimeout key) }
  else none

def timeoutStart (s : Started) (key : String) : Option Started :=
  if holder s.queue = some (.checkTimeout key) then
    some { s with queue := release s.queue, checking := key :: s.checking }
  else none

/-- An iteration of `check_timeout`, which needs the lock of the connection. -/
def timeoutRun (s : Started) (key : String) (windowSize : ℚ) (now : Nat) (order : List UInt32) :
    Option Started :=
  if s.running ∧ key ∈ s.checking ∧ s.txs key = .returned then
    some { s with e := s.e.runCheckTimeout key windowSize now order }
  else none

/-! ## The callers -/

def ask (s : Started) (n : Nat) : Option Started :=
  some { s with queue := request s.queue (.caller n) }

/-- A call of the caller that has the session. -/
def call (d : Deps) (answer : Nat → Bool) (s : Started) (n : Nat) (event : EndEvent) :
    Option Started :=
  if holder s.queue = some (.caller n) ∧ event.isCall then
    some { s with e := s.e.after d answer event }
  else none

def leave (s : Started) (n : Nat) : Option Started :=
  if holder s.queue = some (.caller n) then some { s with queue := release s.queue } else none

end Started

inductive TaskEvent where
  | ask (n : Nat)
  | call (n : Nat) (event : EndEvent)
  | leave (n : Nat)
  | flushStore
  | flushSend
  | checkAsk
  | checkCount (now sentTime updateTime : Nat)
  | checkSend (keys : List String)
  | txTake (key : String) (windowSize : ℚ) (input : TxInput)
  | txRead (key : String) (windowSize : ℚ) (input : TxInput)
  | txSend (key : String) (windowSize : ℚ) (input : TxInput)
  | ackCollect (key : String)
  | timeoutAsk (key : String)
  | timeoutStart (key : String)
  | timeoutRun (key : String) (windowSize : ℚ) (now : Nat) (order : List UInt32)

/-- The flush loop puts a packet into the send window. -/
def TaskEvent.isFlush : TaskEvent → Bool
  | .flushStore => true
  | _ => false

namespace Started

def step (d : Deps) (answer : Nat → Bool) (s : Started) : TaskEvent → Option Started
  | .ask n => s.ask n
  | .call n event => s.call d answer n event
  | .leave n => s.leave n
  | .flushStore => s.flushStore
  | .flushSend => s.flushSend
  | .checkAsk => s.checkAsk
  | .checkCount now sentTime updateTime => s.checkCount now sentTime updateTime
  | .checkSend keys => s.checkSend answer keys
  | .txTake key windowSize input => s.txTake key windowSize input
  | .txRead key windowSize input => s.txRead key windowSize input
  | .txSend key windowSize input => s.txSend key windowSize input
  | .ackCollect key => s.ackCollect d.overflow key
  | .timeoutAsk key => s.timeoutAsk key
  | .timeoutStart key => s.timeoutStart key
  | .timeoutRun key windowSize now order => s.timeoutRun key windowSize now order

/-! ## The queue -/

/-- The flush loop stands before every task in `P`.  Without loops there is none in the
queue. -/
structure Stalled (P : Task → Prop) (s : Started) : Prop where
  barred : s.running = true → Barred .flush P s.queue
  ended : s.running = false → ∀ task ∈ s.queue, task.isLoop = false
  checking : s.checking = []

namespace Stalled

variable {P : Task → Prop} {d : Deps} {answer : Nat → Bool} {s s' : Started}

theorem of_eq (h : Stalled P s) (hqueue : s'.queue = s.queue) (hrunning : s'.running = s.running)
    (hchecking : s'.checking = s.checking) : Stalled P s' := by
  refine ⟨fun hrun => ?_, fun hend => ?_, hchecking.trans h.checking⟩
  · rw [hqueue]
    exact h.barred (hrunning.symm.trans hrun)
  · rw [hqueue]
    exact h.ended (hrunning.symm.trans hend)

/-- A loop asks for the session. -/
theorem request (h : Stalled P s) (hrun : s.running = true) (task : Task) {txs : String → TxPlace}
    {e : Endpoint} : Stalled P { s with queue := request s.queue task, txs, e } where
  barred _ := (h.barred hrun).request task
  ended hend := absurd (hrun.symm.trans hend) (by decide)
  checking := h.checking

theorem panicked (h : Stalled P s) {e : Endpoint} : Stalled P { s with e }.panicked where
  barred hrun := by cases hrun
  ended _ task hmem := by simpa using (List.mem_filter.mp hmem).2
  checking := h.checking

theorem ask (h : Stalled P s) (n : Nat) :
    Stalled P { s with queue := FairLock.request s.queue (.caller n) } := by
  refine ⟨fun hrun => (h.barred hrun).request _, fun hend task hmem => ?_, h.checking⟩
  rcases List.mem_append.mp hmem with hmem | hmem
  · exact h.ended hend task hmem
  · rw [List.mem_singleton.mp hmem]
    rfl

theorem leave (h : Stalled P s) {n : Nat} (hholder : holder s.queue = some (.caller n)) :
    Stalled P { s with queue := release s.queue } := by
  refine ⟨fun hrun => (h.barred hrun).release hholder (by simp), fun hend task hmem => ?_,
    h.checking⟩
  exact h.ended hend task (List.mem_of_mem_tail hmem)

section Loops

variable (hP : ∀ task : Task, task.isLoop = true → P task)

include hP

/-- No loop but the flush loop ever has the session. -/
theorem holder_ne (h : Stalled P s) {task : Task} (hloop : task.isLoop = true)
    (hne : task ≠ .flush) : holder s.queue ≠ some task := by
  intro hholder
  cases hrun : s.running with
  | true => exact hne ((h.barred hrun).eq_owner hholder (hP task hloop))
  | false =>
      have hmem : task ∈ s.queue := List.mem_of_mem_head? hholder
      rw [h.ended hrun task hmem] at hloop
      cases hloop

end Loops

end Stalled

/-! ## What a step does -/

section Specs

variable {s s' : Started} {key : String} {windowSize : ℚ} {input : TxInput}

theorem flushStore_eq (hs : s.flushStore = some s') :
    s.running = true ∧ s.stored = none ∧
      s' = { s with
        e := { s.e with
          session := { s.e.session.flushed s.e.session.sendBuffer with
            sendChan := s.e.session.sendChan } }
        stored := some s.e.session.sendWindowEndSeq } := by
  unfold flushStore at hs
  split at hs
  next hholds =>
    cases hs
    exact ⟨hholds.1, hholds.2.2.1, rfl⟩
  next => cases hs

theorem flushSend_eq (hs : s.flushSend = some s') :
    ∃ seq, s.stored = some seq ∧ s.e.session.sendChan = none ∧
      s' = { s with
        e := { s.e with session := { s.e.session with sendChan := some seq } }
        stored := none } := by
  unfold flushSend at hs
  split at hs
  next seq hstored hchan =>
    cases hs
    exact ⟨seq, hstored, hchan, rfl⟩
  next => cases hs

/-- A number is taken, or `send_chan` is left as it is. -/
theorem takeSeq_cases (input : TxInput) (m : Transmit) :
    (∃ seq, (takeSeq input m).1 = .ok (some seq)) ∨
      (takeSeq input m).2.sendChan = m.sendChan := by
  have hresend : takeResend m = (.ok (m.resendChan.getD 0), { m with resendChan := none }) := by
    obtain ⟨conn, sendWindowData, sendChan, resendChan, running⟩ := m
    cases resendChan with
    | none => rfl
    | some seq => rfl
  rw [takeSeq, bind_ok hresend]
  split
  next hzero =>
    rw [waitForConnWindow, Exec.bind_assoc, get_bind_apply]
    dsimp only
    split
    next hfull =>
      right
      rw [Exec.bind_assoc, modify_bind_apply]
      split
      next => rfl
      next => rfl
    next hroom =>
      rw [Exec.pure_bind, if_pos rfl, takeEither, Exec.bind_assoc, get_bind_apply]
      dsimp only
      cases m.sendChan with
      | none => exact Or.inr rfl
      | some seq =>
          left
          dsimp only
          rw [if_neg (by simp)]
          exact ⟨seq, rfl⟩
  next hseq => exact Or.inl ⟨_, rfl⟩

/-- `tx` leaves its place, or waits at a channel that it leaves as it is. -/
theorem txTake_cases (hs : s.txTake key windowSize input = some s') :
    s.running = true ∧ key ∈ s.keys ∧ s.txs key = .idle ∧ ∃ conn m place,
      s' = { s with e := s.e.settle key conn m }.setTx key place ∧
        (place = .idle → m.sendChan = s.e.session.sendChan) := by
  unfold txTake at hs
  split at hs
  next hidle =>
    obtain ⟨conn, -, rfl⟩ := Option.map_eq_some_iff.mp hs
    have htaken := takeSeq_cases input (s.e.transmit conn windowSize)
    generalize takeSeq input (s.e.transmit conn windowSize) = after at htaken ⊢
    obtain ⟨taken, m⟩ := after
    refine ⟨hidle.1, hidle.2.1, hidle.2.2, conn, m, ?_⟩
    have hwait : (∀ seq, taken ≠ .ok (some seq)) →
        ∃ place, { s with e := s.e.settle key conn m } =
            { s with e := s.e.settle key conn m }.setTx key place ∧
          (place = .idle → m.sendChan = s.e.session.sendChan) := by
      intro hnone
      refine ⟨.idle, ?_, fun _ => ?_⟩
      · rw [setTx, ← hidle.2.2, Function.update_eq_self]
      · rcases htaken with ⟨seq, hseq⟩ | hchan
        · exact absurd hseq (hnone seq)
        · exact hchan
    cases taken with
    | ok next =>
        cases next with
        | some seq => exact ⟨.took seq, rfl, nofun⟩
        | none => exact ⟨.returned, rfl, nofun⟩
    | err error => exact hwait (by simp)
    | panic => exact hwait (by simp)
    | block => exact hwait (by simp)
  next => cases hs

/-- `tx` panics, goes back, or waits for the session with a packet that is there. -/
theorem txRead_cases (hs : s.txRead key windowSize input = some s') :
    s.running = true ∧ (s' = s.panicked ∨ ∃ seq, s.txs key = .took seq ∧
      ((s.e.session.sendWindowData.lookup seq = some [] ∧ ∃ conn m,
          s' = { s with e := s.e.settle key conn m }.setTx key .idle) ∨
        s' = { s with queue := request s.queue (.tx key) }.setTx key (.reading seq))) := by
  unfold txRead at hs
  split at hs
  next seq conn htook hconn =>
    split at hs
    next hrun =>
      refine ⟨hrun.1, ?_⟩
      split at hs
      next =>
        cases hs
        exact Or.inl rfl
      next hempty =>
        cases hs
        exact Or.inr ⟨seq, htook, Or.inl ⟨hempty, conn, _, rfl⟩⟩
      next =>
        cases hs
        exact Or.inr ⟨seq, htook, Or.inr rfl⟩
    next => cases hs
  next => cases hs

/-- `send_ack` empties the queue of its connection, and may then panic or ask. -/
theorem ackCollect_cases {o : Overflow} (hs : s.ackCollect o key = some s') :
    s.running = true ∧ s.txs key = .returned ∧ ∃ connections,
      let e := { s.e with session := { s.e.session with connections } }
      s' = { s with e } ∨ s' = { s with e }.panicked ∨
        s' = { s with e, queue := request s.queue (.sendAck key) } := by
  unfold ackCollect at hs
  split at hs
  next hret =>
    obtain ⟨conn, -, rfl⟩ := Option.map_eq_some_iff.mp hs
    refine ⟨hret.1, hret.2.1, ?_⟩
    dsimp only
    split
    next => exact ⟨s.e.session.connections, Or.inl rfl⟩
    next =>
      refine ⟨s.e.session.connections.insert key
        (collect o s.e.config.maxAskSeqListSize conn).2, ?_⟩
      split
      next => exact Or.inr (Or.inr rfl)
      next => exact Or.inr (Or.inl rfl)
      next => exact Or.inl rfl
  next => cases hs

end Specs

/-! ## Every step -/

/-- The steps that are possible while the flush loop stands before the other loops.  The
other steps need the session. -/
inductive Move (P : Task → Prop) (d : Deps) (answer : Nat → Bool) (s : Started) :
    TaskEvent → Started → Prop where
  /-- A task asks for the session, or a caller leaves it. -/
  | wait {event : TaskEvent} {queue : List Task} (hflush : event.isFlush = false)
      (h : Stalled P { s with queue }) : Move P d answer s event { s with queue }
  | call {n : Nat} {event : EndEvent} (hholder : holder s.queue = some (.caller n))
      (hcall : event.isCall = true) :
      Move P d answer s (.call n event) { s with e := s.e.after d answer event }
  | flushStore {s' : Started} (h : s.flushStore = some s') : Move P d answer s .flushStore s'
  | flushSend {s' : Started} (h : s.flushSend = some s') : Move P d answer s .flushSend s'
  | txTake {s' : Started} {key : String} {windowSize : ℚ} {input : TxInput}
      (h : s.txTake key windowSize input = some s') :
      Move P d answer s (.txTake key windowSize input) s'
  | txRead {s' : Started} {key : String} {windowSize : ℚ} {input : TxInput}
      (h : s.txRead key windowSize input = some s') :
      Move P d answer s (.txRead key windowSize input) s'
  | ackCollect {s' : Started} {key : String} (h : s.ackCollect d.overflow key = some s') :
      Move P d answer s (.ackCollect key) s'

section Steps

variable {P : Task → Prop} {d : Deps} {answer : Nat → Bool} {s s' : Started} {event : TaskEvent}
  (hP : ∀ task : Task, task.isLoop = true → P task)

include hP

theorem Stalled.move (h : Stalled P s) (hs : s.step d answer event = some s') :
    Move P d answer s event s' := by
  cases event with
  | ask n =>
      cases hs
      exact .wait rfl (h.ask n)
  | call n event =>
      simp only [Started.step, call] at hs
      split at hs
      next hcall =>
        cases hs
        exact .call hcall.1 hcall.2
      next => cases hs
  | leave n =>
      simp only [Started.step, Started.leave] at hs
      split at hs
      next hholder =>
        cases hs
        exact .wait rfl (h.leave hholder)
      next => cases hs
  | flushStore => exact .flushStore hs
  | flushSend => exact .flushSend hs
  | checkAsk =>
      simp only [Started.step, checkAsk] at hs
      split at hs
      next hrun =>
        cases hs
        exact .wait rfl (h.request hrun.1 _)
      next => cases hs
  | checkCount now sentTime updateTime =>
      simp only [Started.step, checkCount] at hs
      rw [if_neg fun hholder => h.holder_ne hP rfl (by simp) hholder.1] at hs
      cases hs
  | checkSend keys =>
      simp only [Started.step, checkSend] at hs
      split at hs
      next =>
        rw [if_neg (h.holder_ne hP rfl (by simp))] at hs
        cases hs
      next => cases hs
  | txTake key windowSize input => exact .txTake hs
  | txRead key windowSize input => exact .txRead hs
  | txSend key windowSize input =>
      simp only [Started.step, txSend] at hs
      split at hs
      next =>
        rw [if_neg (h.holder_ne hP rfl (by simp))] at hs
        cases hs
      next => cases hs
  | ackCollect key => exact .ackCollect hs
  | timeoutAsk key =>
      simp only [Started.step, timeoutAsk] at hs
      split at hs
      next hrun =>
        cases hs
        exact .wait rfl (h.request hrun.1 _)
      next => cases hs
  | timeoutStart key =>
      simp only [Started.step, timeoutStart] at hs
      rw [if_neg (h.holder_ne hP rfl (by simp))] at hs
      cases hs
  | timeoutRun key windowSize now order =>
      simp only [Started.step, timeoutRun] at hs
      rw [h.checking, if_neg (by simp)] at hs
      cases hs

theorem Stalled.step (h : Stalled P s) (hs : s.step d answer event = some s') : Stalled P s' := by
  cases h.move hP hs with
  | wait hflush hqueue => exact hqueue
  | call hholder hcall => exact h.of_eq rfl rfl rfl
  | flushStore hstore =>
      obtain ⟨-, -, rfl⟩ := flushStore_eq hstore
      exact h.of_eq rfl rfl rfl
  | flushSend hsend =>
      obtain ⟨seq, -, -, rfl⟩ := flushSend_eq hsend
      exact h.of_eq rfl rfl rfl
  | txTake htake =>
      obtain ⟨-, -, -, conn, m, place, rfl, -⟩ := txTake_cases htake
      exact h.of_eq rfl rfl rfl
  | txRead hread =>
      obtain ⟨hrun, rfl | ⟨seq, -, ⟨-, conn, m, rfl⟩ | rfl⟩⟩ := txRead_cases hread
      · exact h.panicked
      · exact h.of_eq rfl rfl rfl
      · exact h.request hrun _
  | ackCollect hcollect =>
      obtain ⟨hrun, -, connections, rfl | rfl | rfl⟩ := ackCollect_cases hcollect
      · exact h.of_eq rfl rfl rfl
      · exact h.panicked
      · exact h.request hrun _

/-- Only the callers send anything. -/
theorem Stalled.outgoing_step {packet : Pb.Packet} (h : Stalled P s)
    (hout : OnlyCallsSend packet s.e) (hs : s.step d answer event = some s') :
    OnlyCallsSend packet s'.e := by
  cases h.move hP hs with
  | wait hflush hqueue => exact hout
  | call hholder hcall => exact hout.afterCall (fun _ h => h) d answer hcall
  | flushStore hstore =>
      obtain ⟨-, -, rfl⟩ := flushStore_eq hstore
      exact ⟨hout.session.stored, hout.sent⟩
  | flushSend hsend =>
      obtain ⟨seq, -, -, rfl⟩ := flushSend_eq hsend
      exact ⟨hout.session.of_core rfl, hout.sent⟩
  | txTake htake =>
      obtain ⟨-, -, -, conn, m, place, rfl, -⟩ := txTake_cases htake
      exact hout.settle _ conn m
  | txRead hread =>
      obtain ⟨hrun, rfl | ⟨seq, -, ⟨-, conn, m, rfl⟩ | rfl⟩⟩ := txRead_cases hread
      · exact hout
      · exact hout.settle _ conn m
      · exact hout
  | ackCollect hcollect =>
      obtain ⟨hrun, -, connections, rfl | rfl | rfl⟩ := ackCollect_cases hcollect
      · exact ⟨hout.session.of_core rfl, hout.sent⟩
      · exact ⟨hout.session.of_core rfl, hout.sent⟩
      · exact ⟨hout.session.of_core rfl, hout.sent⟩

end Steps

/-! ## How often the flush loop flushes -/

/-- How many loops `tx` have no number. -/
def idle (s : Started) : Nat := s.keys.countP fun key => s.txs key = .idle

section Budget

variable {d : Deps} {answer : Nat → Bool} {s s' : Started} {event : TaskEvent}

end Budget

/-! ## Every run -/

theorem Stalled.start (e : Endpoint) (callers : List Nat) :
    Stalled (fun task => task.isLoop = true) (start e callers) where
  barred _ := by
    refine Barred.append (fun task hmem => ?_) []
    obtain ⟨n, -, rfl⟩ := List.mem_map.mp hmem
    exact Bool.false_ne_true
  ended h := by cases h
  checking := rfl

end Started

section Main

variable {d : Deps} {answer : Nat → Bool} {sendConfig : SendConfig} {config : NcpConfig}
  {localClientIds remoteClientIds : List String} {calls : List EndEvent} {e : Endpoint}

/-- Before its loops are started, a session only sends what its callers do. -/
theorem outgoing_of_calls (hcalls : ∀ event ∈ calls, event.isCall = true)
    (hbefore : Run.runFrom (Endpoint.step d answer)
      (Endpoint.new sendConfig (Session.new config localClientIds remoteClientIds)) calls = some e) :
    OnlyCallsSend (handshakePacket (Session.new config localClientIds remoteClientIds)) e := by
  refine Run.invariant_of_meets (fun e event e' h hcall hstep => ?_)
    (Outgoing.new sendConfig config localClientIds remoteClientIds)
    ((Run.meets_true _ calls).and hcalls) hbefore
  cases hstep
  exact h.afterCall (fun _ h => h) d answer hcall.1

/-- In no order of its tasks and callers does a loop of a session send anything: what is
sent in the life of a session is its handshake and closes, and data never is. -/
theorem loops_never_send (hcalls : ∀ event ∈ calls, event.isCall = true)
    (hbefore : Run.runFrom (Endpoint.step d answer)
      (Endpoint.new sendConfig (Session.new config localClientIds remoteClientIds)) calls = some e)
    (callers : List Nat) (events : List TaskEvent) {s : Started}
    (hrun : Run.runFrom (Started.step d answer) (Started.start e callers) events = some s) :
    (∀ datagram ∈ s.e.sent, datagram.buf =
        (handshakePacket (Session.new config localClientIds remoteClientIds)).encode ∨
          datagram.buf = closePacket.encode) ∧
      ∀ task : Task, task.isLoop = true → task ≠ .flush → holder s.queue ≠ some task := by
  have hstep : ∀ s event s', Started.Stalled (fun task => task.isLoop = true) s ∧
      OnlyCallsSend (handshakePacket (Session.new config localClientIds remoteClientIds)) s.e →
      Started.step d answer s event = some s' →
      Started.Stalled (fun task => task.isLoop = true) s' ∧
        OnlyCallsSend (handshakePacket (Session.new config localClientIds remoteClientIds)) s'.e :=
    fun s event s' h hs =>
      ⟨h.1.step (fun _ h => h) hs, h.1.outgoing_step (fun _ h => h) h.2 hs⟩
  obtain ⟨hstalled, hout⟩ := Run.invariant_of_step hstep
    ⟨Started.Stalled.start e callers, outgoing_of_calls hcalls hbefore⟩ hrun
  exact ⟨hout.sent, fun task hloop hne => hstalled.holder_ne (fun _ h => h) hloop hne⟩

end Main

/-! ## A run of the tasks -/

namespace Started

def sampleTaskDeps : Deps where
  overflow := .checked
  decodePacket := Pb.Packet.decode
  now := 0
  tanh := fun _ => 0

def sampleTaskSession : Session := Session.new {} ["a"] []

/-- A handshake from elsewhere, and a write. -/
def sampleCalls : List EndEvent :=
  [.handshake { windowSize := 4096, mtu := 1024, clientIds := ["b"], handshake := true },
    .write [1, 2, 3]]

def sampleBefore : Option Endpoint :=
  Run.runFrom (Endpoint.step sampleTaskDeps fun _ => true) (Endpoint.new {} sampleTaskSession)
    sampleCalls

/-- The loop takes the number of the write and waits.  The caller then dials, and leaves
the session to the flush loop. -/
def sampleWaits : List TaskEvent :=
  [.txTake "a - b" 4 Transmit.sampleInput, .txRead "a - b" 4 Transmit.sampleInput,
    .timeoutAsk "a - b", .call 7 (.dial "a - b"), .leave 7, .ask 8]

/-- The session with its tasks, after events. -/
def sampleStarted (callers : List Nat) (events : List TaskEvent) : Option Started :=
  sampleBefore.bind fun e =>
    Run.runFrom (step sampleTaskDeps fun _ => true) (start e callers) events

theorem of_sampleStarted {callers : List Nat} {events : List TaskEvent} {s : Started}
    (h : sampleStarted callers events = some s) : ∃ e, sampleBefore = some e ∧
      Run.runFrom (step sampleTaskDeps fun _ => true) (start e callers) events = some s :=
  Option.bind_eq_some_iff.mp h

theorem sampleCalls_isCall : ∀ event ∈ sampleCalls, event.isCall = true := by
  intro event hmem
  simp only [sampleCalls, List.mem_cons, List.not_mem_nil, or_false] at hmem
  rcases hmem with rfl | rfl
  · rfl
  · rfl

theorem sample_loops_never_send : ∃ s, sampleStarted [7] sampleWaits = some s ∧
    s.e.sent.length = 1 ∧
    (∀ datagram ∈ s.e.sent, datagram.buf = (handshakePacket sampleTaskSession).encode ∨
      datagram.buf = closePacket.encode) ∧
    ∀ task : Task, task.isLoop = true → task ≠ .flush → holder s.queue ≠ some task := by
  have hlen : (sampleStarted [7] sampleWaits).map (fun s => s.e.sent.length) = some 1 := by
    decide +kernel
  obtain ⟨s, hs, hlen⟩ := Option.map_eq_some_iff.mp hlen
  obtain ⟨e, hbefore, hrun⟩ := of_sampleStarted hs
  exact ⟨s, hs, hlen, loops_never_send sampleCalls_isCall hbefore [7] sampleWaits hrun⟩

end Started

end NknSdk.Ncp
