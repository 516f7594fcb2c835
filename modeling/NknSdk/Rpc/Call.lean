import NknSdk.Lib.Exec
import NknSdk.Lib.Run

/-!
# Calls to the RPC servers

`rpc_call` of `src/rpc.rs` asks several servers at once.  Each of its tasks goes
through the server list, from a place of its own on and around to it, and stops once
the shared result is a success.  A task takes the lock of the result twice for each
server: to look at it before the request, and to store the answer after it, unless a
success is already there.

`Calls` is the shared result with the tasks, and its events are the single steps of
the tasks between these points.  A task keeps the addresses it has posted to with
their answers, and `locked` the answers in the order in which their tasks took the
lock; neither is in the source.
-/

namespace NknSdk.Rpc

/-- `rpc::RPCConfig`. -/
structure RPCConfig where
  rpcServerAddress : List String
  rpcTimeout : UInt64
  rpcConcurrency : UInt32

/-! ## The tasks -/

/-- Where a task stands, with the addresses that are left. -/
inductive TaskPc (D : Type) where
  /-- The look at the result at the top of the loop. -/
  | next (addresses : List String)
  /-- The answer of `address`. -/
  | posting (address : String) (addresses : List String)
  /-- The lock, to store the answer. -/
  | storing (res : Except String D) (addresses : List String)
  | returned
  /-- `http_post` has panicked. -/
  | crashed

structure Task (D : Type) where
  pc : TaskPc D
  /-- The addresses posted to, with their answers. -/
  tried : List (String × Except String D)

/-- A call that waits for its tasks. -/
structure Calls (D : Type) where
  result : Except String D
  tasks : List (Task D)
  /-- The answers in the order in which their tasks took the lock. -/
  locked : List (Except String D)

/-- The addresses of task `i`: the list split at a place, and its parts exchanged. -/
def taskAddresses (servers : List String) (i : Nat) : List String :=
  servers.drop (i % servers.length) ++ servers.take (i % servers.length)

/-- The number of tasks. -/
def taskCount (config : RPCConfig) : Nat :=
  if 0 < config.rpcConcurrency then config.rpcConcurrency.toNat
  else config.rpcServerAddress.length

variable {D : Type}

/-- `rpc_call`, up to where it waits for its tasks. -/
def rpcCall (config : RPCConfig) : Except String (Calls D) :=
  if config.rpcServerAddress = [] then .error "No server addresses in config"
  else .ok {
    result := .error "couldn't find"
    tasks := (List.range (taskCount config)).map fun i =>
      { pc := .next (taskAddresses config.rpcServerAddress i), tried := [] }
    locked := [] }

/-- One step of the task `i`. -/
inductive Event (D : Type) where
  /-- It looks at the result. -/
  | check (i : Nat)
  /-- Its `http_post` returns. -/
  | answer (i : Nat) (res : Except String D)
  /-- Its `http_post` panics. -/
  | crash (i : Nat)
  /-- It takes the lock and stores its answer. -/
  | store (i : Nat)

/-- Where a task goes from the top of the loop. -/
def afterCheck (result : Except String D) : List String → TaskPc D
  | [] => .returned
  | address :: addresses => if result.isOk then .returned else .posting address addresses

namespace Calls

def put (s : Calls D) (i : Nat) (t : Task D) : Calls D := { s with tasks := s.tasks.set i t }

/-- The answer `res` meets the result under the lock. -/
def store (s : Calls D) (res : Except String D) : Calls D :=
  { s with result := if s.result.isOk then s.result else res, locked := s.locked ++ [res] }

end Calls

/-- The call after an event, if the task stands where the event can happen. -/
def step (s : Calls D) : Event D → Option (Calls D)
  | .check i => do
      let t ← s.tasks[i]?
      match t.pc with
      | .next addresses => some (s.put i { t with pc := afterCheck s.result addresses })
      | _ => none
  | .answer i res => do
      let t ← s.tasks[i]?
      match t.pc with
      | .posting address addresses =>
          some (s.put i { pc := .storing res addresses, tried := t.tried ++ [(address, res)] })
      | _ => none
  | .crash i => do
      let t ← s.tasks[i]?
      match t.pc with
      | .posting _ _ => some (s.put i { t with pc := .crashed })
      | _ => none
  | .store i => do
      let t ← s.tasks[i]?
      match t.pc with
      | .storing res addresses => some ((s.put i { t with pc := .next addresses }).store res)
      | _ => none

/-- What the call returns when it has joined its tasks. -/
def finish : Except String D → Outcome String D
  | .ok v => .ok v
  | .error e => .err e

/-- The loop over the handles of the tasks, and then the result: nothing while it
waits, and a panic where it joins a task that has panicked. -/
def joinAll (result : Except String D) : List (Task D) → Option (Outcome String D)
  | [] => some (finish result)
  | t :: ts =>
      match t.pc with
      | .returned => joinAll result ts
      | .crashed => some .panic
      | _ => none

namespace Calls

/-- What the call has returned. -/
def returned (s : Calls D) : Option (Outcome String D) := joinAll s.result s.tasks

end Calls

/-! ## What a step is -/

/-- Task `i`, which is at `t`, makes a step. -/
inductive Moves (s : Calls D) (i : Nat) (t : Task D) : Event D → Calls D → Prop
  | check (addresses : List String) (hpc : t.pc = .next addresses) :
      Moves s i t (.check i) (s.put i { t with pc := afterCheck s.result addresses })
  | answer (address : String) (addresses : List String) (res : Except String D)
      (hpc : t.pc = .posting address addresses) :
      Moves s i t (.answer i res)
        (s.put i { pc := .storing res addresses, tried := t.tried ++ [(address, res)] })
  | crash (address : String) (addresses : List String) (hpc : t.pc = .posting address addresses) :
      Moves s i t (.crash i) (s.put i { t with pc := .crashed })
  | store (res : Except String D) (addresses : List String) (hpc : t.pc = .storing res addresses) :
      Moves s i t (.store i) ((s.store res).put i { t with pc := .next addresses })

theorem moves_of_step {s s' : Calls D} {e : Event D} (h : step s e = some s') :
    ∃ i t, s.tasks[i]? = some t ∧ Moves s i t e s' := by
  cases e with
  | check i =>
      obtain ⟨t, hi, ht⟩ := Option.bind_eq_some_iff.mp h
      split at ht
      next addresses hpc =>
        cases ht
        exact ⟨i, t, hi, .check addresses hpc⟩
      next => cases ht
  | answer i res =>
      obtain ⟨t, hi, ht⟩ := Option.bind_eq_some_iff.mp h
      split at ht
      next address addresses hpc =>
        cases ht
        exact ⟨i, t, hi, .answer address addresses res hpc⟩
      next => cases ht
  | crash i =>
      obtain ⟨t, hi, ht⟩ := Option.bind_eq_some_iff.mp h
      split at ht
      next address addresses hpc =>
        cases ht
        exact ⟨i, t, hi, .crash address addresses hpc⟩
      next => cases ht
  | store i =>
      obtain ⟨t, hi, ht⟩ := Option.bind_eq_some_iff.mp h
      split at ht
      next res addresses hpc =>
        cases ht
        exact ⟨i, t, hi, .store res addresses hpc⟩
      next => cases ht

theorem step_of_moves {s s' : Calls D} {e : Event D} {i : Nat} {t : Task D}
    (hi : s.tasks[i]? = some t) (h : Moves s i t e s') : step s e = some s' := by
  cases h with
  | check addresses hpc => simp [step, hi, hpc]
  | answer address addresses res hpc => simp [step, hi, hpc]
  | crash address addresses hpc => simp [step, hi, hpc]
  | store res addresses hpc =>
      have hstore : step s (.store i) =
          some ((s.put i { t with pc := .next addresses }).store res) := by
        simp [step, hi, hpc]
      exact hstore

/-- A task that has not come to its end can make a step, where its server answers. -/
theorem step_of_not_returned {C : Calls D → Event D → Prop} {s : Calls D} {t : Task D}
    (ht : t ∈ s.tasks) (hret : t.pc ≠ .returned) (hcrash : t.pc ≠ .crashed)
    (hcheck : ∀ i, C s (.check i)) (hstore : ∀ i, C s (.store i))
    (hanswer : ∀ i address addresses, s.tasks[i]? = some t → t.pc = .posting address addresses →
      (∃ res, C s (.answer i res)) ∨ C s (.crash i)) :
    ∃ (e : Event D) (s' : Calls D), C s e ∧ step s e = some s' := by
  obtain ⟨i, hi⟩ := List.mem_iff_getElem?.mp ht
  cases hpc : t.pc with
  | next addresses => exact ⟨_, _, hcheck i, step_of_moves hi (.check addresses hpc)⟩
  | posting address addresses =>
      rcases hanswer i address addresses hi hpc with ⟨res, hres⟩ | hcrashes
      · exact ⟨_, _, hres, step_of_moves hi (.answer address addresses res hpc)⟩
      · exact ⟨_, _, hcrashes, step_of_moves hi (.crash address addresses hpc)⟩
  | storing res addresses => exact ⟨_, _, hstore i, step_of_moves hi (.store res addresses hpc)⟩
  | returned => exact absurd hpc hret
  | crashed => exact absurd hpc hcrash

end NknSdk.Rpc
