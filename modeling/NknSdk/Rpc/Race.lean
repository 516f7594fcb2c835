import NknSdk.Lib.Threads
import NknSdk.Rpc.Call

/-!
# Concurrent attempts agree

However the steps of the tasks of `rpc_call` are mixed, the call returns: each task
has a bounded number of steps, and one that is not at its end can make a step.  The
result is the first success that was stored if there was any, and an error only after
every task has tried every server (`rpc_calls_agree`).

`Inv` carries the argument.  A task has tried or has left what the server list has,
and may drop what is left only when the result is a success.  Every answer is stored
or about to be stored, and the result is the first success among the stored ones.
-/

namespace NknSdk.Rpc

variable {D : Type}

/-! ## Runs end -/

/-- A bound on the steps that are left to a task. -/
def TaskPc.weight : TaskPc D → Nat
  | .next addresses => 3 * addresses.length + 1
  | .posting _ addresses => 3 * addresses.length + 3
  | .storing _ addresses => 3 * addresses.length + 2
  | .returned => 0
  | .crashed => 0

def Calls.weight (s : Calls D) : Nat := (s.tasks.map fun t => t.pc.weight).sum

theorem weight_afterCheck (result : Except String D) (addresses : List String) :
    (afterCheck result addresses).weight < (TaskPc.next addresses : TaskPc D).weight := by
  cases addresses with
  | nil => exact Nat.one_pos
  | cons address addresses =>
      rw [afterCheck]
      split
      next => exact Nat.succ_pos _
      next =>
        show 3 * addresses.length + 3 < 3 * (addresses.length + 1) + 1
        omega

theorem weight_step {s s' : Calls D} {e : Event D} (h : step s e = some s') :
    s'.weight < s.weight := by
  obtain ⟨i, t, hi, hmove⟩ := moves_of_step h
  cases hmove with
  | check addresses hpc =>
      refine Threads.sum_set_lt hi ?_
      rw [hpc]
      exact weight_afterCheck s.result addresses
  | answer address addresses res hpc =>
      refine Threads.sum_set_lt hi ?_
      rw [hpc]
      exact Nat.lt_succ_self _
  | crash address addresses hpc =>
      refine Threads.sum_set_lt hi ?_
      rw [hpc]
      exact Nat.succ_pos _
  | store res addresses hpc =>
      refine Threads.sum_set_lt hi ?_
      rw [hpc]
      exact Nat.lt_succ_self _

theorem taskAddresses_perm (servers : List String) (i : Nat) :
    (taskAddresses servers i).Perm servers := by
  refine List.perm_append_comm.trans ?_
  rw [List.take_append_drop]

/-! ## The invariant -/

/-- The addresses that a task has no answer of yet. -/
def TaskPc.left : TaskPc D → List String
  | .next addresses => addresses
  | .posting address addresses => address :: addresses
  | .storing _ addresses => addresses
  | .returned => []
  | .crashed => []

/-- The answer that a task has not stored yet. -/
def TaskPc.pending : TaskPc D → Option (Except String D)
  | .storing res _ => some res
  | _ => none

/-- The event is no panic of `http_post`. -/
def Event.Answered : Event D → Prop
  | .crash _ => False
  | _ => True

/-- The first success among answers. -/
def firstOk (answers : List (Except String D)) : Option D := answers.findSome? Except.toOption

/-- A task has tried or has left what the list has, unless it has returned because of
a success; and its answers are stored, or the last one is about to be. -/
structure Task.Inv (servers : List String) (s : Calls D) (t : Task D) : Prop where
  alive : t.pc ≠ .crashed
  covers : (t.pc = .returned ∧ s.result.isOk = true) ∨
    (t.tried.map Prod.fst ++ t.pc.left).Perm servers
  stored : ∀ p ∈ t.tried, p.2 ∈ s.locked ∨ t.pc.pending = some p.2
  pending : ∀ res, t.pc.pending = some res → ∃ a, (a, res) ∈ t.tried

/-- The result is the first success that was stored. -/
structure Inv (servers : List String) (s : Calls D) : Prop where
  result : s.result.toOption = firstOk s.locked
  locked : ∀ res ∈ s.locked, ∃ t ∈ s.tasks, ∃ a, (a, res) ∈ t.tried
  task : ∀ t ∈ s.tasks, t.Inv servers s

theorem isOk_store {s : Calls D} (res : Except String D) (h : s.result.isOk = true) :
    (s.store res).result = s.result := if_pos h

theorem Task.Inv.store {servers : List String} {s : Calls D} {t : Task D}
    (inv : t.Inv servers s) (res : Except String D) : t.Inv servers (s.store res) where
  alive := inv.alive
  covers := by
    rcases inv.covers with ⟨hpc, hok⟩ | hperm
    · exact Or.inl ⟨hpc, by rw [isOk_store res hok]; exact hok⟩
    · exact Or.inr hperm
  stored p hp := by
    rcases inv.stored p hp with hlocked | hpending
    · exact Or.inl (List.mem_append_left _ hlocked)
    · exact Or.inr hpending
  pending := inv.pending

/-- A result that is an error gives way, and a success does not. -/
theorem toOption_store (s : Calls D) (res : Except String D) :
    (s.store res).result.toOption = s.result.toOption.or res.toOption := by
  show (if s.result.isOk then s.result else res).toOption = _
  cases s.result with
  | ok v => rfl
  | error e => rfl

namespace Inv

variable {servers : List String} {s s' : Calls D} {i : Nat} {t t' : Task D}

theorem store (inv : Inv servers s) {res : Except String D}
    (htried : ∃ t ∈ s.tasks, ∃ a, (a, res) ∈ t.tried) : Inv servers (s.store res) where
  result := by
    rw [toOption_store, inv.result]
    show _ = firstOk (s.locked ++ [res])
    rw [firstOk, firstOk, List.findSome?_append]
    cases res <;> rfl
  locked r hr := by
    rcases List.mem_append.mp hr with hold | hnew
    · exact inv.locked r hold
    · rw [List.mem_singleton.mp hnew]
      exact htried
  task t ht := (inv.task t ht).store res

/-- A task that keeps what it has tried may move on. -/
theorem put (inv : Inv servers s) (hi : s.tasks[i]? = some t) (htried : t.tried ⊆ t'.tried)
    (ht' : t'.Inv servers s) : Inv servers (s.put i t') where
  result := inv.result
  locked res hres := by
    obtain ⟨u, hu, a, ha⟩ := inv.locked res hres
    obtain ⟨j, hj⟩ := List.mem_iff_getElem?.mp hu
    obtain ⟨hlt, -⟩ := List.getElem?_eq_some_iff.mp hi
    by_cases hji : j = i
    · subst hji
      rw [hi, Option.some.injEq] at hj
      exact ⟨t', List.mem_set hlt t', a, htried (hj ▸ ha)⟩
    · refine ⟨u, List.mem_iff_getElem?.mpr ⟨j, ?_⟩, a, ha⟩
      show (s.tasks.set i t')[j]? = some u
      rw [List.getElem?_set_ne fun h => hji h.symm]
      exact hj
  task u hu := by
    have hframe (v : Task D) (hv : v.Inv servers s) : v.Inv servers (s.put i t') :=
      ⟨hv.alive, hv.covers, hv.stored, hv.pending⟩
    rcases List.mem_or_eq_of_mem_set hu with hold | rfl
    · exact hframe u (inv.task u hold)
    · exact hframe u ht'

theorem rpcCall {config : RPCConfig} {s : Calls D} (h : Rpc.rpcCall config = .ok s) :
    Inv config.rpcServerAddress s := by
  unfold Rpc.rpcCall at h
  split at h
  next => cases h
  next =>
    cases h
    refine ⟨rfl, fun res hres => absurd hres List.not_mem_nil, ?_⟩
    intro t ht
    obtain ⟨i, -, rfl⟩ := List.mem_map.mp ht
    refine ⟨nofun, Or.inr ?_, fun p hp => absurd hp List.not_mem_nil, nofun⟩
    exact taskAddresses_perm _ i

/-- The task at the top of the loop. -/
theorem afterCheck (inv : t.Inv servers s) {addresses : List String}
    (hpc : t.pc = .next addresses) :
    Task.Inv servers s { t with pc := afterCheck s.result addresses } := by
  have hcovers : (t.tried.map Prod.fst ++ addresses).Perm servers := by
    rcases inv.covers with ⟨hret, -⟩ | hperm
    · rw [hpc] at hret
      cases hret
    · rw [hpc] at hperm
      exact hperm
  have hstored : ∀ p ∈ t.tried, p.2 ∈ s.locked := by
    intro p hp
    rcases inv.stored p hp with hlocked | hpending
    · exact hlocked
    · rw [hpc] at hpending
      cases hpending
  cases addresses with
  | nil => exact ⟨nofun, Or.inr hcovers, fun p hp => Or.inl (hstored p hp), nofun⟩
  | cons address addresses =>
      by_cases hok : s.result.isOk = true
      · rw [Rpc.afterCheck, if_pos hok]
        exact ⟨nofun, Or.inl ⟨rfl, hok⟩, fun p hp => Or.inl (hstored p hp), nofun⟩
      · rw [Rpc.afterCheck, if_neg hok]
        exact ⟨nofun, Or.inr hcovers, fun p hp => Or.inl (hstored p hp), nofun⟩

/-- The task when its answer has come. -/
theorem answered (inv : t.Inv servers s) {address : String} {addresses : List String}
    (hpc : t.pc = .posting address addresses) (res : Except String D) :
    Task.Inv servers s
      { pc := .storing res addresses, tried := t.tried ++ [(address, res)] } where
  alive := nofun
  covers := by
    rcases inv.covers with ⟨hret, -⟩ | hperm
    · rw [hpc] at hret
      cases hret
    · rw [hpc] at hperm
      right
      simpa [TaskPc.left] using hperm
  stored p hp := by
    rcases List.mem_append.mp hp with hold | hnew
    · rcases inv.stored p hold with hlocked | hpending
      · exact Or.inl hlocked
      · rw [hpc] at hpending
        cases hpending
    · rw [List.mem_singleton.mp hnew]
      exact Or.inr rfl
  pending r hr := by
    cases hr
    exact ⟨address, List.mem_append_right _ (List.mem_singleton.mpr rfl)⟩

/-- The task when its answer is stored. -/
theorem storedNext (inv : t.Inv servers s) {res : Except String D} {addresses : List String}
    (hpc : t.pc = .storing res addresses) :
    Task.Inv servers (s.store res) { t with pc := .next addresses } where
  alive := nofun
  covers := by
    rcases inv.covers with ⟨hret, -⟩ | hperm
    · rw [hpc] at hret
      cases hret
    · rw [hpc] at hperm
      exact Or.inr hperm
  stored p hp := by
    left
    rcases inv.stored p hp with hlocked | hpending
    · exact List.mem_append_left _ hlocked
    · rw [hpc] at hpending
      cases hpending
      exact List.mem_append_right _ (List.mem_singleton.mpr rfl)
  pending := nofun

/-- Every step but a panic keeps the invariant. -/
theorem step (inv : Inv servers s) {e : Event D} (he : e.Answered) (h : Rpc.step s e = some s') :
    Inv servers s' := by
  obtain ⟨i, t, hi, hmove⟩ := moves_of_step h
  have htask := inv.task t (List.mem_of_getElem? hi)
  cases hmove with
  | check addresses hpc => exact inv.put hi (List.Subset.refl _) (afterCheck htask hpc)
  | answer address addresses res hpc =>
      exact inv.put hi (List.subset_append_left _ _) (answered htask hpc res)
  | crash address addresses hpc => exact he.elim
  | store res addresses hpc =>
      have htried : ∃ t ∈ s.tasks, ∃ a, (a, res) ∈ t.tried := by
        obtain ⟨a, ha⟩ := htask.pending res (by rw [hpc]; rfl)
        exact ⟨t, List.mem_of_getElem? hi, a, ha⟩
      exact (inv.store htried).put hi (List.Subset.refl _) (storedNext htask hpc)

end Inv

/-! ## The end of a call -/

/-- A success stays. -/
theorem result_step {s s' : Calls D} {e : Event D} {v : D} (hok : s.result = .ok v)
    (h : step s e = some s') : s'.result = .ok v := by
  obtain ⟨i, t, hi, hmove⟩ := moves_of_step h
  cases hmove with
  | check addresses hpc => exact hok
  | answer address addresses res hpc => exact hok
  | crash address addresses hpc => exact hok
  | store res addresses hpc =>
      have hstore : (s.store res).result = s.result := isOk_store res (by rw [hok]; rfl)
      exact hstore.trans hok

theorem joinAll_none {result : Except String D} {ts : List (Task D)}
    (h : joinAll result ts = none) : ∃ t ∈ ts, t.pc ≠ .returned ∧ t.pc ≠ .crashed := by
  induction ts with
  | nil => cases h
  | cons t ts ih =>
      rw [joinAll] at h
      split at h
      next hpc =>
        obtain ⟨u, hu, hne⟩ := ih h
        exact ⟨u, List.mem_cons_of_mem _ hu, hne⟩
      next => cases h
      next hret hcrash => exact ⟨t, List.mem_cons_self, hret, hcrash⟩

theorem joinAll_some {result : Except String D} {ts : List (Task D)} {o : Outcome String D}
    (halive : ∀ t ∈ ts, t.pc ≠ .crashed) (h : joinAll result ts = some o) :
    o = finish result ∧ ∀ t ∈ ts, t.pc = .returned := by
  induction ts with
  | nil =>
      cases h
      exact ⟨rfl, fun t ht => absurd ht List.not_mem_nil⟩
  | cons t ts ih =>
      rw [joinAll] at h
      split at h
      next hpc =>
        obtain ⟨ho, hrest⟩ := ih (fun u hu => halive u (List.mem_cons_of_mem _ hu)) h
        refine ⟨ho, ?_⟩
        intro u hu
        rcases List.mem_cons.mp hu with rfl | hu
        · exact hpc
        · exact hrest u hu
      next hpc => exact absurd hpc (halive t List.mem_cons_self)
      next => cases h

/-! ## The contract -/

/-- What a call with `config` guarantees after `events` that led to `s`. -/
structure Agrees (config : RPCConfig) (events : List (Event D)) (s : Calls D) : Prop where
  /-- The call comes to an end. -/
  length_le : events.length ≤ taskCount config * (3 * config.rpcServerAddress.length + 1)
  goes_on : s.returned = none → ∃ (e : Event D) (s' : Calls D), e.Answered ∧ step s e = some s'
  returns : ∀ o, s.returned = some o → o.Returns
  /-- It succeeds if some server did, with what was stored first. -/
  ok_iff : ∀ o, s.returned = some o →
    ((∃ v, o = .ok v) ↔ ∃ t ∈ s.tasks, ∃ a v, (a, .ok v) ∈ t.tried)
  first : ∀ v, s.returned = some (.ok v) → firstOk s.locked = some v
  stays : ∀ v, s.result = .ok v → ∀ later s', Run.runFrom step s later = some s' →
    s'.result = .ok v
  /-- It fails only after every task has tried every server. -/
  tried : ∀ e, s.returned = some (.err e) → ∀ t ∈ s.tasks,
    (t.tried.map Prod.fst).Perm config.rpcServerAddress ∧ ∀ p ∈ t.tried, p.2.isOk = false

theorem weight_rpcCall {config : RPCConfig} {s : Calls D} (h : rpcCall config = .ok s) :
    s.weight = taskCount config * (3 * config.rpcServerAddress.length + 1) := by
  unfold rpcCall at h
  split at h
  next => cases h
  next =>
    cases h
    have hlen (i : Nat) : (taskAddresses config.rpcServerAddress i).length =
        config.rpcServerAddress.length := (taskAddresses_perm _ i).length_eq
    simp [Calls.weight, TaskPc.weight, Function.comp_def, hlen]

namespace Inv

variable {servers : List String} {s : Calls D} {o : Outcome String D}

/-- Once the call has returned, every answer is stored. -/
theorem stored_of_returned (inv : Inv servers s) (h : s.returned = some o) {t : Task D}
    (ht : t ∈ s.tasks) {p : String × Except String D} (hp : p ∈ t.tried) : p.2 ∈ s.locked := by
  obtain ⟨-, hall⟩ := joinAll_some (fun t ht => (inv.task t ht).alive) h
  rcases (inv.task t ht).stored p hp with hlocked | hpending
  · exact hlocked
  · rw [hall t ht] at hpending
    cases hpending

theorem returned_eq (inv : Inv servers s) (h : s.returned = some o) : o = finish s.result :=
  (joinAll_some (fun t ht => (inv.task t ht).alive) h).1

theorem ok_iff (inv : Inv servers s) (h : s.returned = some o) :
    (∃ v, o = .ok v) ↔ ∃ t ∈ s.tasks, ∃ a v, (a, .ok v) ∈ t.tried := by
  rw [inv.returned_eq h]
  constructor
  · rintro ⟨v, hv⟩
    have hfirst := inv.result
    cases hresult : s.result with
    | error e =>
        rw [hresult] at hv
        cases hv
    | ok w =>
        rw [hresult] at hfirst
        obtain ⟨res, hres, hw⟩ := List.exists_of_findSome?_eq_some hfirst.symm
        obtain ⟨t, ht, a, ha⟩ := inv.locked res hres
        cases res with
        | error e => cases hw
        | ok w' => exact ⟨t, ht, a, w', ha⟩
  · rintro ⟨t, ht, a, v, ha⟩
    have hlocked := inv.stored_of_returned h ht ha
    have hfirst := inv.result
    cases hresult : s.result with
    | ok w => exact ⟨w, rfl⟩
    | error e =>
        rw [hresult] at hfirst
        have hnone := List.findSome?_eq_none_iff.mp hfirst.symm (.ok v) hlocked
        cases hnone

theorem tried_of_err (inv : Inv servers s) {e : String} (h : s.returned = some (.err e))
    {t : Task D} (ht : t ∈ s.tasks) :
    (t.tried.map Prod.fst).Perm servers ∧ ∀ p ∈ t.tried, p.2.isOk = false := by
  obtain ⟨ho, hall⟩ := joinAll_some (fun t ht => (inv.task t ht).alive) h
  have hpc := hall t ht
  constructor
  · rcases (inv.task t ht).covers with ⟨-, hok⟩ | hperm
    · cases hresult : s.result with
      | ok v =>
          rw [hresult] at ho
          cases ho
      | error e =>
          rw [hresult] at hok
          cases hok
    · rw [hpc] at hperm
      simpa [TaskPc.left] using hperm
  · rintro ⟨a, res⟩ hp
    cases res with
    | error e => rfl
    | ok v =>
        obtain ⟨w, hw⟩ := (inv.ok_iff h).mpr ⟨t, ht, a, v, hp⟩
        cases hw

end Inv

/-- For every non-empty server list and every number of tasks, whatever the servers
answer and however the steps of the tasks are mixed, the attempts agree on a result. -/
theorem rpc_calls_agree (config : RPCConfig) (hservers : config.rpcServerAddress ≠ []) :
    ∃ start : Calls D, rpcCall config = .ok start ∧
      ∀ events s, (∀ e ∈ events, e.Answered) → Run.runFrom step start events = some s →
        Agrees config events s := by
  refine ⟨_, if_neg hservers, ?_⟩
  intro events s hanswered hrun
  have inv : Inv config.rpcServerAddress s :=
    Run.invariant_of_meets (C := fun _ e => e.Answered ∧ True)
      (fun s e s' inv hC h => inv.step hC.1 h) (Inv.rpcCall (if_neg hservers))
      ((Run.meets_true _ events).and hanswered) hrun
  refine ⟨?_, ?_, ?_, ?_, ?_, ?_, ?_⟩
  · have hle := Run.length_add_le (fun _ _ _ h => weight_step h) hrun
    rw [weight_rpcCall (if_neg hservers)] at hle
    omega
  · intro hnone
    obtain ⟨t, ht, hret, hcrash⟩ := joinAll_none hnone
    exact step_of_not_returned (C := fun _ e => e.Answered) ht hret hcrash (fun _ => trivial)
      (fun _ => trivial) fun _ _ _ _ _ => Or.inl ⟨.error "", trivial⟩
  · intro o ho
    rw [inv.returned_eq ho]
    cases s.result with
    | ok v => trivial
    | error e => trivial
  · exact fun o ho => inv.ok_iff ho
  · intro v hv
    have hfinish := inv.returned_eq hv
    rw [← inv.result]
    cases hresult : s.result with
    | error e =>
        rw [hresult] at hfinish
        cases hfinish
    | ok w =>
        rw [hresult] at hfinish
        cases hfinish
        rfl
  · intro v hv later s' hlater
    exact Run.invariant_of_step (fun _ _ _ hok h => result_step hok h) hv hlater
  · exact fun e he t ht => inv.tried_of_err he ht

/-! ## Two servers and two tasks -/

def sampleConfig : RPCConfig where
  rpcServerAddress := ["a", "b"]
  rpcTimeout := 10
  rpcConcurrency := 2

/-- Both tasks post; the second one has a success before the first one has an error. -/
def sampleRace : List (Event Nat) :=
  [.check 0, .check 1, .answer 1 (.ok 7), .answer 0 (.error "Client"), .store 1, .store 0, .check 0,
    .check 1]

theorem sample_calls_agree :
    ∃ start s : Calls Nat, rpcCall sampleConfig = .ok start ∧
      Run.runFrom step start sampleRace = some s ∧ s.returned = some (.ok 7) ∧
      firstOk s.locked = some 7 := by
  obtain ⟨start, hstart, hagrees⟩ := rpc_calls_agree (D := Nat) sampleConfig (by decide)
  cases hstart
  refine ⟨_, _, rfl, rfl, rfl, ?_⟩
  refine (hagrees sampleRace _ ?_ rfl).first 7 rfl
  intro e he
  simp only [sampleRace, List.mem_cons, List.not_mem_nil, or_false] at he
  rcases he with rfl | rfl | rfl | rfl | rfl | rfl | rfl | rfl <;> trivial

end NknSdk.Rpc
