import NknSdk.Rpc.Post
import NknSdk.Rpc.Race

/-!
# One good server

Every task of `rpc_call` asks every server until there is a success, so that one
server that answers would do.  An answer with neither an error nor a result panics in
its task, though, as an address that is no URI does, and joining the task hands the
panic on.  `rpc_call_succeeds_iff` says when this is out of reach: no task comes upon
such a server before one that stops it.

`Servers` says what each server may answer, at any time, and a run goes on with its
answers (`Posts`).  `Survives` is a task's way through its addresses.
-/

namespace NknSdk.Rpc

variable {D : Type}

/-- What may come back from each address, where something always does. -/
structure Servers where
  replies : String → HttpReply → Prop
  answers : ∀ address, ∃ reply, replies address reply

namespace Servers

variable (d : PostDeps D) (servers : Servers)

/-- Every answer of the server is a valid result. -/
def Good (address : String) : Prop :=
  d.uri address = true ∧ ∀ reply, servers.replies address reply → reply.Valid d

/-- Something else than a response, or one with an error, may come back from the address. -/
def MayFail (address : String) : Prop :=
  d.uri address = true ∧ ∃ reply, servers.replies address reply ∧ reply.Fails d

/-- The address is no URI, or a response without error and result may come back. -/
def MayPanic (address : String) : Prop :=
  d.uri address = false ∨ ∃ reply, servers.replies address reply ∧ reply.Empty d

/-- No address can panic that a task may come to, which passes only those that fail. -/
def Survives : List String → Prop
  | [] => True
  | address :: addresses =>
      ¬ servers.MayPanic d address ∧ (servers.MayFail d address → Survives addresses)

/-- A step goes on with an answer of the server that the task has asked. -/
def Posts (s : Calls D) : Event D → Prop
  | .check _ => True
  | .answer i res => ∃ t address addresses reply, s.tasks[i]? = some t ∧
      t.pc = .posting address addresses ∧ servers.replies address reply ∧
      httpPost d address reply = finish res
  | .crash i => ∃ t address addresses reply, s.tasks[i]? = some t ∧
      t.pc = .posting address addresses ∧ servers.replies address reply ∧
      httpPost d address reply = .panic
  | .store _ => True

/-- Whatever comes back and however the steps of the tasks are mixed, `rpc_call` comes to
its end, with a success. -/
def Succeeds (config : RPCConfig) : Prop :=
  ∃ start : Calls D, rpcCall config = .ok start ∧
    ∀ events s, Run.Meets step (servers.Posts d) start events →
      Run.runFrom step start events = some s →
      events.length ≤ taskCount config * (3 * config.rpcServerAddress.length + 1) ∧
      (s.returned = none → ∃ e s', servers.Posts d s e ∧ step s e = some s') ∧
      ∀ o, s.returned = some o → ∃ v, o = .ok v

variable {d} {servers}

theorem httpPost_of_good {address : String} (h : servers.Good d address) {reply : HttpReply}
    (hreply : servers.replies address reply) : ∃ v, httpPost d address reply = .ok v :=
  (h.2 reply hreply).httpPost h.1

theorem mayPanic_of_panic {address : String} {reply : HttpReply}
    (hreply : servers.replies address reply) (h : httpPost d address reply = .panic) :
    servers.MayPanic d address := by
  rcases HttpReply.httpPost_panic_iff.mp h with huri | hempty
  · exact Or.inl huri
  · exact Or.inr ⟨reply, hreply, hempty⟩

theorem panic_of_mayPanic {address : String} (h : servers.MayPanic d address) :
    ∃ reply, servers.replies address reply ∧ httpPost d address reply = .panic := by
  rcases h with huri | ⟨reply, hreply, hempty⟩
  · obtain ⟨reply, hreply⟩ := servers.answers address
    exact ⟨reply, hreply, HttpReply.httpPost_panic_iff.mpr (Or.inl huri)⟩
  · exact ⟨reply, hreply, HttpReply.httpPost_panic_iff.mpr (Or.inr hempty)⟩

theorem err_of_mayFail {address : String} (h : servers.MayFail d address) :
    ∃ reply e, servers.replies address reply ∧ httpPost d address reply = .err e := by
  obtain ⟨huri, reply, hreply, hfails⟩ := h
  obtain ⟨e, he⟩ := (HttpReply.httpPost_err_iff huri).mpr hfails
  exact ⟨reply, e, hreply, he⟩

theorem mayFail_of_err {address e : String} {reply : HttpReply}
    (hreply : servers.replies address reply) (h : httpPost d address reply = .err e) :
    servers.MayFail d address := by
  have huri : d.uri address = true := by
    by_contra hnot
    rw [HttpReply.httpPost_panic_iff.mpr (Or.inl (Bool.not_eq_true _ ▸ hnot))] at h
    cases h
  exact ⟨huri, reply, hreply, (HttpReply.httpPost_err_iff huri).mp ⟨e, h⟩⟩

/-! ## Tasks that survive -/

/-- The task has only surviving addresses before it, unless there is a success for it. -/
def SafePc (d : PostDeps D) (servers : Servers) (s : Calls D) : TaskPc D → Prop
  | .next addresses => s.result.isOk = true ∨ servers.Survives d addresses
  | .posting address addresses => servers.Survives d (address :: addresses)
  | .storing res addresses => res.isOk = true ∨ servers.Survives d addresses
  | .returned => True
  | .crashed => False

/-- What holds as long as all tasks survive: the invariant of the answers, with every
answer one of its server. -/
structure Safe (d : PostDeps D) (servers : Servers) (config : RPCConfig) (s : Calls D) : Prop where
  inv : Inv config.rpcServerAddress s
  length : s.tasks.length = taskCount config
  pc : ∀ t ∈ s.tasks, SafePc d servers s t.pc
  tried : ∀ t ∈ s.tasks, ∀ p ∈ t.tried, ∃ reply, servers.replies p.1 reply ∧
    httpPost d p.1 reply = finish p.2

theorem SafePc.mono {s s' : Calls D} {pc : TaskPc D} (h : SafePc d servers s pc)
    (hok : s.result.isOk = true → s'.result.isOk = true) : SafePc d servers s' pc := by
  cases pc with
  | next addresses => exact h.imp_left hok
  | posting address addresses => exact h
  | storing res addresses => exact h
  | returned => trivial
  | crashed => exact h

theorem isOk_store_iff (s : Calls D) (res : Except String D) :
    (s.store res).result.isOk = true ↔ s.result.isOk = true ∨ res.isOk = true := by
  show (if s.result.isOk then s.result else res).isOk = true ↔ _
  cases hs : s.result.isOk with
  | true => simp [hs]
  | false => simp

theorem finish_eq_err {res : Except String D} (h : res.isOk = false) : ∃ e, finish res = .err e := by
  cases res with
  | ok v => cases h
  | error e => exact ⟨e, rfl⟩

/-- From the top of the loop a task that is safe stays so. -/
theorem SafePc.afterCheck {s : Calls D} {addresses : List String}
    (h : SafePc d servers s (.next addresses)) :
    SafePc d servers s (Rpc.afterCheck s.result addresses) := by
  cases addresses with
  | nil => trivial
  | cons address addresses =>
      rw [Rpc.afterCheck]
      split
      next => trivial
      next hok => exact h.resolve_left hok

namespace Safe

variable {config : RPCConfig} {s s' : Calls D} {i : Nat} {t t' : Task D}

theorem rpcCall (h : Rpc.rpcCall config = .ok s)
    (hsurvives : ∀ i < taskCount config,
      servers.Survives d (taskAddresses config.rpcServerAddress i)) : Safe d servers config s := by
  have hinv := Inv.rpcCall h
  unfold Rpc.rpcCall at h
  split at h
  next => cases h
  next =>
    cases h
    refine ⟨hinv, ?_, ?_, ?_⟩
    · simp
    · intro t ht
      obtain ⟨i, hi, rfl⟩ := List.mem_map.mp ht
      exact Or.inr (hsurvives i (List.mem_range.mp hi))
    · intro t ht p hp
      obtain ⟨i, -, rfl⟩ := List.mem_map.mp ht
      cases hp

/-- The part about the tasks, when one of them moves and the result may have become a success. -/
theorem put (safe : Safe d servers config s) (hinv : Inv config.rpcServerAddress s')
    (htasks : s'.tasks = s.tasks.set i t')
    (hok : s.result.isOk = true → s'.result.isOk = true) (hpc : SafePc d servers s' t'.pc)
    (htried : ∀ p ∈ t'.tried, ∃ reply, servers.replies p.1 reply ∧
      httpPost d p.1 reply = finish p.2) : Safe d servers config s' where
  inv := hinv
  length := by rw [htasks, List.length_set, safe.length]
  pc u hu := by
    rw [htasks] at hu
    rcases List.mem_or_eq_of_mem_set hu with hold | rfl
    · exact (safe.pc u hold).mono hok
    · exact hpc
  tried u hu := by
    rw [htasks] at hu
    rcases List.mem_or_eq_of_mem_set hu with hold | rfl
    · exact safe.tried u hold
    · exact htried

/-- Every step with an answer of a server keeps the tasks safe. -/
theorem step (safe : Safe d servers config s) {e : Event D} (he : servers.Posts d s e)
    (h : Rpc.step s e = some s') : Safe d servers config s' := by
  have hinv (hanswered : e.Answered) := safe.inv.step hanswered h
  obtain ⟨i, t, hi, hmove⟩ := moves_of_step h
  have ht := List.mem_of_getElem? hi
  have hpc := safe.pc t ht
  cases hmove with
  | check addresses ht' =>
      rw [ht'] at hpc
      exact safe.put (hinv trivial) rfl id hpc.afterCheck (safe.tried t ht)
  | answer address addresses res ht' =>
      obtain ⟨u, address', addresses', reply, hu, hupc, hreply, hpost⟩ := he
      cases hi.symm.trans hu
      cases ht'.symm.trans hupc
      rw [ht'] at hpc
      refine safe.put (hinv trivial) rfl id ?_ ?_
      · cases hres : res.isOk with
        | true => exact Or.inl hres
        | false =>
            obtain ⟨e, hfinish⟩ := finish_eq_err hres
            exact Or.inr (hpc.2 (mayFail_of_err hreply (hpost.trans hfinish)))
      · intro p hp
        rcases List.mem_append.mp hp with hold | hnew
        · exact safe.tried t ht p hold
        · rw [List.mem_singleton.mp hnew]
          exact ⟨reply, hreply, hpost⟩
  | crash address addresses ht' =>
      obtain ⟨u, address', addresses', reply, hu, hupc, hreply, hpost⟩ := he
      cases hi.symm.trans hu
      cases ht'.symm.trans hupc
      rw [ht'] at hpc
      exact absurd (mayPanic_of_panic hreply hpost) hpc.1
  | store res addresses ht' =>
      rw [ht'] at hpc
      refine safe.put (hinv trivial) rfl ?_ ?_ (safe.tried t ht)
      · exact fun hok => (isOk_store_iff s res).mpr (Or.inl hok)
      · exact hpc.imp_left fun hok => (isOk_store_iff s res).mpr (Or.inr hok)

theorem of_meets (safe : Safe d servers config s) {events : List (Event D)}
    (hmeets : Run.Meets Rpc.step (servers.Posts d) s events)
    (hrun : Run.runFrom Rpc.step s events = some s') : Safe d servers config s' :=
  Run.invariant_of_meets (fun _ _ _ safe he h => safe.step he h) safe hmeets hrun

/-- Where a good server was asked by every task, there is a success. -/
theorem returned_ok (safe : Safe d servers config s) {address : String}
    (hgood : servers.Good d address) (hmem : address ∈ config.rpcServerAddress)
    {o : Outcome String D} (ho : s.returned = some o) : ∃ v, o = .ok v := by
  have hfinish := safe.inv.returned_eq ho
  cases hresult : s.result with
  | ok v => exact ⟨v, by rw [hfinish, hresult]; rfl⟩
  | error e =>
      rw [hresult] at hfinish
      rw [hfinish] at ho
      have hpos : 0 < s.tasks.length := by
        rw [safe.length, taskCount]
        have := List.length_pos_of_mem hmem
        split
        next hn => exact UInt32.lt_iff_toNat_lt.mp hn
        next => exact this
      have ht : s.tasks[0] ∈ s.tasks := List.getElem_mem hpos
      obtain ⟨hperm, herr⟩ := safe.inv.tried_of_err ho ht
      obtain ⟨p, hp, rfl⟩ := List.mem_map.mp (hperm.mem_iff.mpr hmem)
      obtain ⟨reply, hreply, hpost⟩ := safe.tried _ ht p hp
      obtain ⟨v, hv⟩ := httpPost_of_good hgood hreply
      obtain ⟨e', he'⟩ := finish_eq_err (herr p hp)
      rw [hv, he'] at hpost
      cases hpost

end Safe

/-! ## Steps that are possible -/

/-- What a task that has posted makes of its server's answer. -/
theorem posts_answer {s : Calls D} {i : Nat} {t : Task D} {address : String}
    {addresses : List String} (hi : s.tasks[i]? = some t) (hpc : t.pc = .posting address addresses) :
    (∃ res, servers.Posts d s (.answer i res)) ∨ servers.Posts d s (.crash i) := by
  obtain ⟨reply, hreply⟩ := servers.answers address
  cases hpost : httpPost d address reply with
  | ok v => exact Or.inl ⟨.ok v, t, address, addresses, reply, hi, hpc, hreply, hpost⟩
  | err e => exact Or.inl ⟨.error e, t, address, addresses, reply, hi, hpc, hreply, hpost⟩
  | panic => exact Or.inr ⟨t, address, addresses, reply, hi, hpc, hreply, hpost⟩
  | block => exact absurd hpost HttpReply.httpPost_ne_block

theorem goes_on {s : Calls D} (h : s.returned = none) :
    ∃ e s', servers.Posts d s e ∧ step s e = some s' := by
  obtain ⟨t, ht, hret, hcrash⟩ := joinAll_none h
  exact step_of_not_returned ht hret hcrash (fun _ => trivial) (fun _ => trivial)
    fun _ _ _ hi hpc => posts_answer hi hpc

/-! ## A task that does not survive -/

/-- A task that has panicked stays so. -/
theorem crashed_step {s s' : Calls D} {e : Event D} {i : Nat}
    (h : ∃ t, s.tasks[i]? = some t ∧ t.pc = .crashed) (hstep : step s e = some s') :
    ∃ t, s'.tasks[i]? = some t ∧ t.pc = .crashed := by
  obtain ⟨u, hu, hpc⟩ := h
  obtain ⟨j, t, hj, hmove⟩ := moves_of_step hstep
  have hne (htpc : t.pc ≠ .crashed) : i ≠ j := by
    rintro rfl
    cases hu.symm.trans hj
    exact htpc hpc
  have hset (t' : Task D) (htpc : t.pc ≠ .crashed) : (s.tasks.set j t')[i]? = some u := by
    rw [List.getElem?_set_ne (hne htpc).symm]
    exact hu
  cases hmove with
  | check addresses htpc => exact ⟨u, hset _ (by rw [htpc]; nofun), hpc⟩
  | answer address addresses res htpc => exact ⟨u, hset _ (by rw [htpc]; nofun), hpc⟩
  | crash address addresses htpc => exact ⟨u, hset _ (by rw [htpc]; nofun), hpc⟩
  | store res addresses htpc => exact ⟨u, hset _ (by rw [htpc]; nofun), hpc⟩

/-- Joining a task that has panicked is no success. -/
theorem joinAll_crashed {result : Except String D} {ts : List (Task D)} {t : Task D} (ht : t ∈ ts)
    (hpc : t.pc = .crashed) (v : D) : joinAll result ts ≠ some (.ok v) := by
  induction ts with
  | nil => cases ht
  | cons u ts ih =>
      rw [joinAll]
      split
      next hret =>
        rcases List.mem_cons.mp ht with rfl | ht
        · rw [hret] at hpc
          cases hpc
        · exact ih ht
      next =>
        intro h
        cases h
      next =>
        intro h
        cases h

/-- The task `i`, at the top of the loop with no success, asks `address` and comes back with
an error. -/
theorem reaches_next {address : String} {addresses : List String} {s : Calls D} {i : Nat}
    {t : Task D} (hi : s.tasks[i]? = some t) (hpc : t.pc = .next (address :: addresses))
    (hresult : s.result.isOk = false) (hfail : servers.MayFail d address) :
    ∃ s' t', Run.Reaches step (servers.Posts d) s s' ∧ s'.tasks[i]? = some t' ∧
      t'.pc = .next addresses ∧ s'.result.isOk = false := by
  obtain ⟨reply, e, hreply, hpost⟩ := err_of_mayFail hfail
  have hlt : i < s.tasks.length := (List.getElem?_eq_some_iff.mp hi).1
  let t₁ : Task D := { t with pc := .posting address addresses }
  let t₂ : Task D :=
    { pc := .storing (.error e) addresses, tried := t.tried ++ [(address, .error e)] }
  let t₃ : Task D := { t₂ with pc := .next addresses }
  let s₁ := s.put i t₁
  let s₂ := s₁.put i t₂
  let s₃ := (s₂.put i t₃).store (.error e)
  have ht₁ : s₁.tasks[i]? = some t₁ := List.getElem?_set_self hlt
  have ht₂ : s₂.tasks[i]? = some t₂ := List.getElem?_set_self (by simpa [s₁, Calls.put] using hlt)
  have ht₃ : s₃.tasks[i]? = some t₃ :=
    List.getElem?_set_self (by simpa [s₂, s₁, Calls.put] using hlt)
  have hnext : afterCheck s.result (address :: addresses) = .posting address addresses :=
    if_neg (by simp [hresult])
  have hcheck : step s (.check i) = some s₁ := by
    rw [step_of_moves hi (.check (address :: addresses) hpc), hnext]
  have hanswer : step s₁ (.answer i (.error e)) = some s₂ :=
    step_of_moves ht₁ (.answer address addresses (.error e) rfl)
  have hstore : step s₂ (.store i) = some s₃ :=
    step_of_moves ht₂ (.store (.error e) addresses rfl)
  have hpost₀ : servers.Posts d s (.check i) := trivial
  have hpost₁ : servers.Posts d s₁ (.answer i (.error e)) :=
    ⟨t₁, address, addresses, reply, ht₁, rfl, hreply, hpost⟩
  have hpost₂ : servers.Posts d s₂ (.store i) := trivial
  refine ⟨s₃, t₃, ?_, ht₃, rfl, ?_⟩
  · have hlast := Run.Reaches.head hpost₂ hstore (Run.Reaches.refl _ _ s₃)
    exact Run.Reaches.head hpost₀ hcheck (Run.Reaches.head hpost₁ hanswer hlast)
  · show (if s.result.isOk then s.result else .error e).isOk = false
    rw [hresult]
    rfl

/-- The task `i`, at the top of the loop with no success, asks `address` and panics. -/
theorem reaches_crashed {address : String} {addresses : List String} {s : Calls D} {i : Nat}
    {t : Task D} (hi : s.tasks[i]? = some t) (hpc : t.pc = .next (address :: addresses))
    (hresult : s.result.isOk = false) (hpanic : servers.MayPanic d address) :
    ∃ s' t', Run.Reaches step (servers.Posts d) s s' ∧ s'.tasks[i]? = some t' ∧
      t'.pc = .crashed := by
  obtain ⟨reply, hreply, hpost⟩ := panic_of_mayPanic hpanic
  have hlt : i < s.tasks.length := (List.getElem?_eq_some_iff.mp hi).1
  let t₁ : Task D := { t with pc := .posting address addresses }
  let t₂ : Task D := { t₁ with pc := .crashed }
  let s₁ := s.put i t₁
  let s₂ := s₁.put i t₂
  have ht₁ : s₁.tasks[i]? = some t₁ := List.getElem?_set_self hlt
  have ht₂ : s₂.tasks[i]? = some t₂ := List.getElem?_set_self (by simpa [s₁, Calls.put] using hlt)
  have hnext : afterCheck s.result (address :: addresses) = .posting address addresses :=
    if_neg (by simp [hresult])
  have hcheck : step s (.check i) = some s₁ := by
    rw [step_of_moves hi (.check (address :: addresses) hpc), hnext]
  have hcrash : step s₁ (.crash i) = some s₂ :=
    step_of_moves ht₁ (.crash address addresses rfl)
  have hpost₀ : servers.Posts d s (.check i) := trivial
  have hpost₁ : servers.Posts d s₁ (.crash i) :=
    ⟨t₁, address, addresses, reply, ht₁, rfl, hreply, hpost⟩
  refine ⟨s₂, t₂, ?_, ht₂, rfl⟩
  exact Run.Reaches.head hpost₀ hcheck (Run.Reaches.head hpost₁ hcrash (Run.Reaches.refl _ _ s₂))

/-- A task alone, with no success before it, comes to the address that panics. -/
theorem reaches_panic {addresses : List String} (h : ¬ servers.Survives d addresses) {s : Calls D}
    {i : Nat} {t : Task D} (hi : s.tasks[i]? = some t) (hpc : t.pc = .next addresses)
    (hresult : s.result.isOk = false) :
    ∃ s' t', Run.Reaches step (servers.Posts d) s s' ∧ s'.tasks[i]? = some t' ∧
      t'.pc = .crashed := by
  induction addresses generalizing s t with
  | nil => exact absurd trivial h
  | cons address addresses ih =>
      by_cases hpanic : servers.MayPanic d address
      · exact reaches_crashed hi hpc hresult hpanic
      · have hrest : servers.MayFail d address ∧ ¬ servers.Survives d addresses := by
          by_contra hnot
          exact h ⟨hpanic, fun hfail => by_contra fun hrest => hnot ⟨hfail, hrest⟩⟩
        obtain ⟨s₁, t₁, hreach₁, hi₁, hpc₁, hresult₁⟩ := reaches_next hi hpc hresult hrest.1
        obtain ⟨s₂, t₂, hreach₂, hi₂, hpc₂⟩ := ih hrest.2 hi₁ hpc₁ hresult₁
        exact ⟨s₂, t₂, hreach₁.trans hreach₂, hi₂, hpc₂⟩

/-! ## When one good server is enough -/

/-- Where there is a good server, `rpc_call` succeeds, whatever comes back and however the steps
of the tasks are mixed, exactly when no task can come to an address that panics. -/
theorem rpc_call_succeeds_iff (d : PostDeps D) (servers : Servers) (config : RPCConfig)
    (hgood : ∃ address ∈ config.rpcServerAddress, servers.Good d address) :
    servers.Succeeds d config ↔
      ∀ i < taskCount config, servers.Survives d (taskAddresses config.rpcServerAddress i) := by
  obtain ⟨address, hmem, hgood⟩ := hgood
  have hne := List.ne_nil_of_mem hmem
  constructor
  · rintro ⟨start, hcall, hsucceeds⟩ i hi
    by_contra hnot
    have hresult : start.result.isOk = false ∧ ∃ t, start.tasks[i]? = some t ∧
        t.pc = .next (taskAddresses config.rpcServerAddress i) := by
      rw [rpcCall, if_neg hne] at hcall
      cases hcall
      exact ⟨rfl, ⟨_, by simp [hi]; rfl, rfl⟩⟩
    obtain ⟨hresult, t, ht, hpc⟩ := hresult
    -- only this task moves until it panics, and then the call comes to its end
    obtain ⟨s₁, t₁, hreach₁, ht₁, hpc₁⟩ := reaches_panic hnot ht hpc hresult
    have hgoes (s : Calls D) (hs : ¬ s.returned ≠ none) :
        ∃ e s', servers.Posts d s e ∧ step s e = some s' := goes_on (not_not.mp hs)
    obtain ⟨s₂, hreach₂, hend⟩ := Run.reaches_end (fun _ _ _ h => weight_step h) hgoes s₁
    obtain ⟨t₂, ht₂, hpc₂⟩ := hreach₂.invariant (I := fun s => ∃ t, s.tasks[i]? = some t ∧
      t.pc = .crashed) (fun _ _ _ h _ hstep => crashed_step h hstep) ⟨t₁, ht₁, hpc₁⟩
    obtain ⟨events, hmeets, hrun⟩ := hreach₁.trans hreach₂
    obtain ⟨o, ho⟩ := Option.ne_none_iff_exists'.mp hend
    obtain ⟨v, rfl⟩ := (hsucceeds events s₂ hmeets hrun).2.2 o ho
    exact joinAll_crashed (List.mem_of_getElem? ht₂) hpc₂ v ho
  · intro hsurvives
    obtain ⟨start, hcall⟩ : ∃ start : Calls D, rpcCall config = .ok start := ⟨_, if_neg hne⟩
    refine ⟨start, hcall, ?_⟩
    intro events s hmeets hrun
    have safe := (Safe.rpcCall hcall hsurvives).of_meets hmeets hrun
    refine ⟨?_, goes_on, fun o ho => safe.returned_ok hgood hmem ho⟩
    have hle := Run.length_add_le (fun _ _ _ h => weight_step h) hrun
    rw [weight_rpcCall hcall] at hle
    omega

/-! ## Two servers, one of them good -/

/-- The text of an object without entries. -/
def emptyText : String := "\x7b\x7d"

/-- The text of an object with the result `7`. -/
def resultText : String := "\x7b\"result\":7\x7d"

/-- `serde_json` on these texts, and `u32` for the type of the result. -/
def samplePostDeps : PostDeps UInt32 where
  uri := fun _ => true
  parse := fun text =>
    if text = emptyText then some (.obj [])
    else if text = resultText then some (.obj [("result", .int 7)])
    else none
  deserialize := Json.asU32
  utf8Error := fun _ => "invalid utf-8 sequence"
  jsonError := fun _ => "expected value"

/-- The server `b` always answers `7`, and `a` with `reply`. -/
def sampleServers (reply : HttpReply) : Servers where
  replies address r :=
    r = if address = "http://b" then .body resultText.toUTF8.toList else reply
  answers _ := ⟨_, rfl⟩

/-- The two servers, asked one after the other. -/
def sampleServerConfig : RPCConfig where
  rpcServerAddress := ["http://a", "http://b"]
  rpcTimeout := 10
  rpcConcurrency := 1

theorem sample_good (reply : HttpReply) : (sampleServers reply).Good samplePostDeps "http://b" := by
  refine ⟨rfl, ?_⟩
  rintro r rfl
  refine ⟨7, _, resultText, rfl, Utf8.strict_toUTF8 _, ?_⟩
  rfl

/-- The answer `{}` of the first server panics, though the second one is good. -/
theorem empty_response_panics :
    ∃ address ∈ sampleServerConfig.rpcServerAddress,
      (sampleServers (.body emptyText.toUTF8.toList)).Good samplePostDeps address ∧
        ¬ (sampleServers (.body emptyText.toUTF8.toList)).Succeeds samplePostDeps sampleServerConfig := by
  refine ⟨"http://b", by decide, sample_good _, ?_⟩
  rintro ⟨start, hstart, hsucceeds⟩
  cases hstart
  have hempty : httpPost samplePostDeps "http://a" (.body emptyText.toUTF8.toList) = .panic := by
    refine HttpReply.httpPost_panic_iff.mpr (Or.inr ⟨_, emptyText, rfl, Utf8.strict_toUTF8 _, ?_⟩)
    rfl
  have hend := (hsucceeds [.check 0, .crash 0] _ ?_ rfl).2.2 _ rfl
  · obtain ⟨v, hv⟩ := hend
    cases hv
  · refine ⟨trivial, ?_⟩
    rintro s hs
    cases hs
    exact ⟨⟨_, "http://a", ["http://b"], _, rfl, rfl, rfl, hempty⟩, fun _ _ => trivial⟩

/-- A server that refuses the connection is passed over. -/
theorem sample_call_succeeds :
    (sampleServers (.refused "connection refused")).Succeeds samplePostDeps sampleServerConfig := by
  refine (rpc_call_succeeds_iff samplePostDeps _ sampleServerConfig
    ⟨"http://b", by decide, sample_good _⟩).mpr ?_
  intro i hi
  obtain rfl : i = 0 := Nat.lt_one_iff.mp hi
  refine ⟨?_, fun _ => ⟨?_, fun _ => trivial⟩⟩
  · rintro (huri | ⟨reply, rfl, bytes, text, hbody, -⟩)
    · cases huri
    · cases hbody
  · rintro (huri | ⟨reply, hreply, hempty⟩)
    · cases huri
    · obtain ⟨v, hv⟩ := httpPost_of_good (sample_good _) hreply
      rw [HttpReply.httpPost_panic_iff.mpr (Or.inr hempty)] at hv
      cases hv

end Servers

end NknSdk.Rpc
