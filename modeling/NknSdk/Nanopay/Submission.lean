import Mathlib.Data.List.Basic
import NknSdk.Nanopay.Claiming
import NknSdk.Nanopay.Refusal

/-!
# What a claimer submits

A claimed transaction may be submitted twice: while one side waits for the node, it is
still kept, and the other side finds it.  But neither side submits it twice.  What a
side submits is what it has copied, and before it copies again it clears what is kept,
so that the next copy is of a later claim.  In whatever order the two are at work, what
each submits is a subsequence of what was claimed (`submits_in_order`).

After `close` nothing is claimed any more, and each side submits at most one
transaction (`submits_one_after_close`).
-/

namespace NknSdk.Nanopay

/-! ## One side -/

/-- What a side has submitted is a subsequence of what was claimed.  It can go on with
the transaction it has copied, and with the kept one unless it has just submitted and
not yet cleared. -/
structure Follows (claimed submitted : List Transaction) (kept : Option Transaction)
    (f : FlushAt) : Prop where
  sublist : submitted.Sublist claimed
  copied : ∀ np tx, f = .sending np tx → (submitted ++ [tx]).Sublist claimed
  kept : f.isClearing = false → ∀ tx, kept = some tx → (submitted ++ [tx]).Sublist claimed

namespace Follows

variable {claimed submitted : List Transaction} {kept : Option Transaction} {f f' : FlushAt}
  {d : Deps} {force : Bool} {rpc : Rpc} {w w' : World} {tx : Transaction}

theorem new (f : FlushAt) (hquiet : f.isQuiet = true) : Follows [] [] none f where
  sublist := List.Sublist.refl []
  copied := fun np tx hf => absurd hf (FlushAt.ne_sending_of_isQuiet hquiet np tx)
  kept := fun _ tx htx => by cases htx

/-- The side does something else, or begins to flush. -/
theorem quiet (h : Follows claimed submitted kept f) (hf : f.isClearing = false)
    (hquiet : f'.isQuiet = true) : Follows claimed submitted kept f' where
  sublist := h.sublist
  copied := fun np tx hf' => absurd hf' (FlushAt.ne_sending_of_isQuiet hquiet np tx)
  kept := fun _ => h.kept hf

/-- The kept transaction is cleared by either side. -/
theorem cleared (h : Follows claimed submitted kept f) : Follows claimed submitted none f where
  sublist := h.sublist
  copied := h.copied
  kept := fun _ tx htx => by cases htx

/-- The owner claims `tx`. -/
theorem stored (h : Follows claimed submitted kept f) :
    Follows (claimed ++ [tx]) submitted (some tx) f where
  sublist := h.sublist.trans (List.sublist_append_left ..)
  copied := fun np tx' hf => (h.copied np tx' hf).trans (List.sublist_append_left ..)
  kept := fun _ tx' htx => by
    cases htx
    exact h.sublist.append (List.Sublist.refl [tx])

/-- A step of the side's own flush. -/
theorem step (h : Follows claimed submitted w.tx f)
    (hstep : f.step d force rpc w = some (w', f')) :
    Follows claimed (submitted ++ f.submits rpc) w'.tx f' := by
  cases FlushAt.moves_of_step hstep with
  | @copies np tx hkept hsame =>
      rw [hsame]
      change Follows claimed (submitted ++ []) w.tx (.sending np tx)
      rw [List.append_nil]
      refine ⟨h.sublist, ?_, fun _ => h.kept rfl⟩
      intro np' tx' hf
      cases hf
      exact h.kept rfl tx hkept
  | @submits np tx hsame hsubmitted =>
      rw [hsame, hsubmitted]
      refine ⟨h.copied np tx rfl, ?_, ?_⟩
      · intro np' tx' hf
        cases hf
      · intro hclearing
        cases hclearing
  | @clears np hcleared =>
      rw [hcleared]
      change Follows claimed (submitted ++ []) none (.clearExpiration np)
      rw [List.append_nil]
      refine ⟨h.sublist, ?_, ?_⟩
      · intro np' tx' hf
        cases hf
      · intro _ tx htx
        cases htx
  | goesOn hclearing hquiet hsame hnone =>
      rw [hsame, hnone, List.append_nil]
      exact h.quiet hclearing hquiet

/-- A step of the other side's flush. -/
theorem other {g g' : FlushAt} (h : Follows claimed submitted w.tx f)
    (hstep : g.step d force rpc w = some (w', g')) : Follows claimed submitted w'.tx f := by
  cases FlushAt.moves_of_step hstep with
  | copies hkept hsame => rw [hsame]; exact h
  | submits hsame hsubmitted => rw [hsame]; exact h
  | clears hcleared => rw [hcleared]; exact h.cleared
  | goesOn hclearing hquiet hsame hnone => rw [hsame]; exact h

end Follows

/-! ## Both sides -/

/-- The transaction pays the owner of the program hash, and `verify` has accepted it. -/
def PaysHere (d : Deps) (recipientProgramHash : Bytes) (tx : Transaction) : Prop :=
  ∃ np height, d.nanoPay tx = some np ∧
    np.recipient.take uint160Size = recipientProgramHash ∧ d.verify tx height = .ok true

namespace Claiming

/-- What holds of a claimer and its two sides at any time. -/
structure InOrder (d : Deps) (recipientProgramHash : Bytes) (s : Claiming) : Prop where
  task : Follows s.claimed s.byTask s.world.tx s.task.flushAt
  owner : Follows s.claimed s.byOwner s.world.tx s.owner.flushAt
  sent : s.world.sent.Perm (s.byTask ++ s.byOwner)
  kept : ∀ tx, s.world.tx = some tx → s.claimed.getLast? = some tx
  claimed : ∀ tx ∈ s.claimed, PaysHere d recipientProgramHash tx
  pending : ∀ p, s.owner.pending = some p → PaysHere d recipientProgramHash p.tx
  recipient : s.world.recipientProgramHash = recipientProgramHash

variable {d : Deps} {claimIntervalMs : UInt64} {recipientProgramHash : Bytes} {s s' : Claiming}

theorem InOrder.new (d : Deps) (recipientProgramHash : Bytes) (minFlushAmount : Int64) (now : Nat) :
    InOrder d recipientProgramHash (new recipientProgramHash minFlushAmount now) where
  task := Follows.new .returned rfl
  owner := Follows.new .returned rfl
  sent := List.Perm.refl []
  kept := fun tx htx => by cases htx
  claimed := fun tx htx => by cases htx
  pending := fun p hp => by cases hp
  recipient := rfl

theorem kept_of_moves {w w' : World} {f f' : FlushAt} {rpc : Rpc} {tx : Transaction}
    (h : FlushAt.Moves rpc w w' f f') (htx : w'.tx = some tx) : w.tx = some tx := by
  cases h with
  | copies hkept hsame => rw [← hsame]; exact htx
  | submits hsame hsubmitted => rw [← hsame]; exact htx
  | clears hcleared => rw [hcleared] at htx; cases htx
  | goesOn hclearing hquiet hsame hnone => rw [← hsame]; exact htx

theorem InOrder.stepTask {rpc : Rpc} (inv : s.InOrder d recipientProgramHash)
    (h : s.step d claimIntervalMs (.task rpc) = some s') : s'.InOrder d recipientProgramHash := by
  obtain ⟨⟨world, task⟩, hstep, rfl⟩ := Option.map_eq_some_iff.mp h
  rcases TaskPc.step_cases hstep with
    ⟨f, f', hf, hf', hflush⟩ | ⟨rfl, hclearing, hsubmits, hquiet⟩
  · have hframe := FlushAt.frame_of_step hflush
    have hmoves := FlushAt.moves_of_step hflush
    have htask : Follows s.claimed s.byTask s.world.tx f := by
      have := inv.task
      rwa [hf] at this
    refine ⟨?_, inv.owner.other hflush, ?_, ?_, inv.claimed, inv.pending, ?_⟩
    · simp only [hf, hf', TaskPc.flushAt]
      exact htask.step hflush
    · simp only [hframe.sent, hf, TaskPc.flushAt]
      calc s.world.sent ++ f.submits rpc
        _ |>.Perm (s.byTask ++ s.byOwner ++ f.submits rpc) := inv.sent.append_right _
        _ |>.Perm (s.byTask ++ f.submits rpc ++ s.byOwner) := by
          rw [List.append_assoc, List.append_assoc]
          exact List.perm_append_comm.append_left _
    · intro tx htx
      exact inv.kept tx (kept_of_moves hmoves htx)
    · exact hframe.recipientProgramHash.trans inv.recipient
  · simp only [hsubmits, List.append_nil]
    exact ⟨inv.task.quiet hclearing hquiet, inv.owner, inv.sent, inv.kept, inv.claimed,
      inv.pending, inv.recipient⟩

theorem InOrder.stepOwner {rpc : Rpc} (inv : s.InOrder d recipientProgramHash)
    (h : s.step d claimIntervalMs (.owner rpc) = some s') :
    s'.InOrder d recipientProgramHash := by
  obtain ⟨⟨world, owner⟩, hstep, rfl⟩ := Option.map_eq_some_iff.mp h
  have hpending : ∀ p, owner.pending = some p → PaysHere d recipientProgramHash p.tx := by
    intro p hp
    rcases OwnerPc.pending_of_step hstep with hsame | hnone
    · exact inv.pending p (hsame.symm.trans hp)
    · rw [hnone] at hp
      cases hp
  rcases OwnerPc.step_cases hstep with
    ⟨force, hflush, hstores⟩ | ⟨p, hpc, rfl, rfl⟩ |
      ⟨hclearing, hsubmits, hstores, hquiet, htx, hsent, hrecipient⟩
  · have hframe := FlushAt.frame_of_step hflush
    have hmoves := FlushAt.moves_of_step hflush
    simp only [hstores, List.append_nil]
    refine ⟨inv.task.other hflush, inv.owner.step hflush, ?_, ?_, inv.claimed, hpending, ?_⟩
    · simp only [hframe.sent]
      rw [← List.append_assoc]
      exact inv.sent.append_right _
    · intro tx htx
      exact inv.kept tx (kept_of_moves hmoves htx)
    · exact hframe.recipientProgramHash.trans inv.recipient
  · simp only [hpc, OwnerPc.stores, OwnerPc.flushAt, FlushAt.submits, List.append_nil]
    refine ⟨inv.task.stored, ?_, inv.sent, ?_, ?_, hpending, inv.recipient⟩
    · have howner := inv.owner
      rw [hpc] at howner
      exact howner.stored
    · intro tx htx
      rw [List.getLast?_concat]
      exact htx
    · intro tx htx
      rcases List.mem_append.mp htx with hbefore | hnow
      · exact inv.claimed tx hbefore
      · obtain rfl := List.mem_singleton.mp hnow
        exact inv.pending p (by rw [hpc]; rfl)
  · simp only [hsubmits, hstores, List.append_nil]
    refine ⟨?_, ?_, ?_, ?_, inv.claimed, hpending, hrecipient.trans inv.recipient⟩
    · rw [htx]
      exact inv.task
    · rw [htx]
      exact inv.owner.quiet hclearing hquiet
    · rw [hsent]
      exact inv.sent
    · rw [htx]
      exact inv.kept

theorem InOrder.startClaim {rpc : Rpc} {tx : Transaction} (inv : s.InOrder d recipientProgramHash)
    (hidle : s.owner = .idle) : (s.startClaim d rpc tx).InOrder d recipientProgramHash := by
  unfold Claiming.startClaim
  split
  next height np address w hread =>
    obtain ⟨hreadable, -⟩ := readable_of_readClaim hread
    have howner := inv.owner
    rw [hidle] at howner
    refine ⟨inv.task, howner, inv.sent, inv.kept, inv.claimed, ?_, inv.recipient⟩
    intro p hp
    cases hp
    exact ⟨np, height, hreadable.message, hreadable.recipient.2.trans inv.recipient,
      hreadable.verified⟩
  next => exact inv

theorem InOrder.step {event : ClaimingEvent} (inv : s.InOrder d recipientProgramHash)
    (h : s.step d claimIntervalMs event = some s') : s'.InOrder d recipientProgramHash := by
  cases event with
  | task rpc => exact inv.stepTask h
  | owner rpc => exact inv.stepOwner h
  | claim rpc tx =>
      rw [Claiming.step] at h
      split at h
      next hidle =>
        cases h
        exact inv.startClaim hidle
      next => cases h
  | flush force =>
      rw [Claiming.step] at h
      split at h
      next hidle =>
        cases h
        have howner := inv.owner
        rw [hidle] at howner
        exact ⟨inv.task, howner.quiet rfl rfl, inv.sent, inv.kept, inv.claimed,
          (fun p hp => by cases hp), inv.recipient⟩
      next => cases h
  | close =>
      rw [Claiming.step] at h
      split at h
      next =>
        cases h
        exact ⟨inv.task, inv.owner, inv.sent, inv.kept, inv.claimed, inv.pending, inv.recipient⟩
      next => cases h

theorem inOrder_of_run {minFlushAmount : Int64} {now : Nat} {events : List ClaimingEvent}
    (hrun : Run.runFrom (step d claimIntervalMs) (new recipientProgramHash minFlushAmount now)
      events = some s) : s.InOrder d recipientProgramHash :=
  Run.invariant_of_step (fun _ _ _ inv hs => inv.step hs)
    (InOrder.new d recipientProgramHash minFlushAmount now) hrun

/-- Whatever the task and the owner do, and in whatever order: what the task submits is
a subsequence of what was claimed, and so is what the owner's calls submit.  The network
has taken these and nothing else, and what is kept is the last claim. -/
theorem submits_in_order (d : Deps) (claimIntervalMs : UInt64) (recipientProgramHash : Bytes)
    (minFlushAmount : Int64) (now : Nat) (events : List ClaimingEvent) (s : Claiming)
    (hrun : Run.runFrom (step d claimIntervalMs) (new recipientProgramHash minFlushAmount now)
      events = some s) :
    s.byTask.Sublist s.claimed ∧ s.byOwner.Sublist s.claimed ∧
      s.world.sent.Perm (s.byTask ++ s.byOwner) ∧
      (∀ tx, s.world.tx = some tx → s.claimed.getLast? = some tx) ∧
      ∀ tx ∈ s.claimed, PaysHere d recipientProgramHash tx := by
  have inv := inOrder_of_run hrun
  exact ⟨inv.task.sublist, inv.owner.sublist, inv.sent, inv.kept, inv.claimed⟩

/-- A claim over `10`, and a flush of the owner up to the answer of the node.  Then the
task makes a whole pass and submits, and then the node answers the owner. -/
def sampleBoth : List ClaimingEvent :=
  .claim sampleRpc (sampleTx 1 10) :: List.replicate 7 (.owner sampleRpc) ++
    .flush true :: List.replicate 4 (.owner sampleRpc) ++
    List.replicate 10 (.task sampleRpc) ++ [.owner sampleRpc]

/-- The one claim is submitted by both sides. -/
theorem sample_submits_in_order :
    ∃ s, Run.runFrom (step sampleDeps 0) (new (List.replicate 20 9) 0 0) sampleBoth = some s ∧
      s.claimed = [sampleTx 1 10] ∧ s.world.sent = [sampleTx 1 10, sampleTx 1 10] ∧
      s.byTask.Sublist s.claimed ∧ s.byOwner.Sublist s.claimed := by
  have hrun : (Run.runFrom (step sampleDeps 0) (new (List.replicate 20 9) 0 0) sampleBoth).map
      (fun s => (s.claimed, s.world.sent)) =
        some ([sampleTx 1 10], [sampleTx 1 10, sampleTx 1 10]) := by
    decide +kernel
  obtain ⟨s, hs, hend⟩ := Option.map_eq_some_iff.mp hrun
  obtain ⟨hclaimed, hsent⟩ := Prod.mk.inj hend
  obtain ⟨htask, howner, -⟩ := submits_in_order _ _ _ _ _ _ s hs
  exact ⟨s, hs, hclaimed, hsent, htask, howner⟩

/-! ## After `close` -/

/-- The task may still submit something although the claimer is closed: it is past the
test at the start of its pass, and has not submitted yet. -/
def maySubmit : TaskPc → Bool
  | .lookTx => true
  | .lookAmounts => true
  | .lookTime => true
  | .asking _ _ => true
  | .flushing .start => true
  | .flushing .test => true
  | .flushing .read => true
  | .flushing (.copy _) => true
  | .flushing (.sending _ _) => true
  | _ => false

/-- A closed claimer's task does not begin another pass. -/
theorem maySubmit_of_step {rpc : Rpc} {w w' : World} {pc pc' : TaskPc} (hclosed : w.closed = true)
    (h : pc.step d claimIntervalMs rpc w = some (w', pc')) (hmay : maySubmit pc' = true) :
    maySubmit pc = true := by
  cases pc with
  | resting => cases h; cases hmay
  | checkClosed =>
      cases h
      rw [if_pos hclosed] at hmay
      cases hmay
  | lookTx => rfl
  | lookAmounts => rfl
  | lookTime => rfl
  | asking lastClaim now => rfl
  | sleeping duration => cases h; cases hmay
  | woken =>
      cases h
      rw [if_pos hclosed] at hmay
      cases hmay
  | flushing f =>
      cases f with
      | start => rfl
      | test => rfl
      | read => rfl
      | copy np => rfl
      | sending np tx => rfl
      | clearTx np => cases h; cases hmay
      | clearExpiration np => cases h; cases hmay
      | setTime np => cases h; cases hmay
      | setFlushAmount np => cases h; cases hmay
      | returned => cases h; cases hmay
      | failed => cases h; cases hmay
  | stopped => cases h

/-- The transaction was kept when the claimer was closed, or the task was submitting it
just then. -/
def AtHand (s₀ : Claiming) (tx : Transaction) : Prop :=
  s₀.world.tx = some tx ∨ ∃ np, s₀.task.flushAt = .sending np tx

/-- The owner has submitted what was kept, and cleared it or is about to. -/
def OwnerDone (s : Claiming) : Prop :=
  s.owner.flushAt.isClearing = true ∨ s.owner.flushAt.isQuiet = true ∧ s.world.tx = none

/-- How things stand after the claimer was closed in `s₀`. -/
structure AfterClose (s₀ s : Claiming) : Prop where
  closed : s.world.closed = true
  owner : s.owner = .idle ∨ (∃ p, s.owner = .checkClosed p) ∨ ∃ force f, s.owner = .flush force f
  claimed : s.claimed = s₀.claimed
  amount : s.world.amount = s₀.world.amount
  prevClaimedAmount : s.world.prevClaimedAmount = s₀.world.prevClaimedAmount
  kept : ∀ tx, s.world.tx = some tx → s₀.world.tx = some tx
  taskCopy : ∀ np tx, s.task.flushAt = .sending np tx → AtHand s₀ tx
  ownerCopy : ∀ np tx, s.owner.flushAt = .sending np tx → s₀.world.tx = some tx
  byTask : ∃ txs, s.byTask = s₀.byTask ++ txs ∧
    txs.length + (if maySubmit s.task then 1 else 0) ≤ 1 ∧ ∀ tx ∈ txs, AtHand s₀ tx
  byOwner : s.byOwner = s₀.byOwner ∨
    ∃ tx, s.byOwner = s₀.byOwner ++ [tx] ∧ s₀.world.tx = some tx ∧ s.OwnerDone

theorem AfterClose.refl (hclosed : s.world.closed = true) (hidle : s.owner = .idle) :
    AfterClose s s where
  closed := hclosed
  owner := Or.inl hidle
  claimed := rfl
  amount := rfl
  prevClaimedAmount := rfl
  kept := fun _ htx => htx
  taskCopy := fun np _ hcopy => Or.inr ⟨np, hcopy⟩
  ownerCopy := fun np tx hcopy => by rw [hidle] at hcopy; cases hcopy
  byTask := ⟨[], (List.append_nil _).symm, by split <;> simp, fun tx htx => by cases htx⟩
  byOwner := Or.inl rfl

/-- A step of either side's flush leaves the owner done. -/
theorem ownerDone_of_moves {world : World} {task : TaskPc} {f f' : FlushAt} {rpc : Rpc}
    {submitted : List Transaction} (h : FlushAt.Moves rpc s.world world f f')
    (hdone : s.OwnerDone) : OwnerDone { s with world, task, byTask := submitted } := by
  rcases hdone with hclearing | ⟨hquiet, hnone⟩
  · exact Or.inl hclearing
  · refine Or.inr ⟨hquiet, ?_⟩
    rw [Option.eq_none_iff_forall_not_mem]
    intro tx htx
    have hkept := kept_of_moves h htx
    rw [hnone] at hkept
    cases hkept

variable {s₀ : Claiming}

theorem AfterClose.stepTask {rpc : Rpc} (h : AfterClose s₀ s)
    (hs : s.step d claimIntervalMs (.task rpc) = some s') : AfterClose s₀ s' := by
  obtain ⟨⟨world, task⟩, hstep, rfl⟩ := Option.map_eq_some_iff.mp hs
  obtain ⟨txs, htxs, hfew, hathand⟩ := h.byTask
  have hmay := maySubmit_of_step h.closed hstep
  have hfew' : txs.length + (if maySubmit task then 1 else 0) ≤ 1 := by
    split
    next hmay' =>
      rw [if_pos (hmay hmay')] at hfew
      exact hfew
    next => omega
  rcases TaskPc.step_cases hstep with
    ⟨f, f', hf, hf', hflush⟩ | ⟨rfl, hclearing, hsubmits, hquiet⟩
  · have hframe := FlushAt.frame_of_step hflush
    have hmoves := FlushAt.moves_of_step hflush
    have hstill : ∀ tx, world.tx = some tx → s₀.world.tx = some tx :=
      fun tx htx => h.kept tx (kept_of_moves hmoves htx)
    have hdone : ∀ submitted, s.byOwner = s₀.byOwner ∨
        ∃ tx, s.byOwner = s₀.byOwner ++ [tx] ∧ s₀.world.tx = some tx ∧
          OwnerDone { s with world, task, byTask := submitted } := by
      intro submitted
      rcases h.byOwner with hsame | ⟨tx, hone, htx, hdone⟩
      · exact Or.inl hsame
      · exact Or.inr ⟨tx, hone, htx, ownerDone_of_moves hmoves hdone⟩
    have hfits : (∀ np tx, f' = .sending np tx → AtHand s₀ tx) →
        (∃ txs, s.byTask ++ f.submits rpc = s₀.byTask ++ txs ∧
          txs.length + (if maySubmit task then 1 else 0) ≤ 1 ∧ ∀ tx ∈ txs, AtHand s₀ tx) →
        AfterClose s₀ { s with world, task, byTask := s.byTask ++ s.task.flushAt.submits rpc } := by
      intro hcopy hby
      refine ⟨hframe.closed.trans h.closed, h.owner, h.claimed, hframe.amount.trans h.amount,
        hframe.prevClaimedAmount.trans h.prevClaimedAmount, hstill, ?_, h.ownerCopy, ?_, hdone _⟩
      · rw [hf']
        exact hcopy
      · rw [hf]
        exact hby
    cases hmoves with
    | @copies np tx hkept hsame =>
        refine hfits ?_ ⟨txs, by rw [htxs]; exact List.append_nil _, hfew', hathand⟩
        intro np' tx' hcopy
        cases hcopy
        exact Or.inl (h.kept tx hkept)
    | @submits np tx hsame hsubmitted =>
        have hcopied : AtHand s₀ tx := h.taskCopy np tx (by rw [hf]; rfl)
        have hnil : txs = [] := by
          rw [hf] at hfew
          exact List.length_eq_zero_iff.mp (Nat.le_zero.mp (Nat.le_of_add_le_add_right hfew))
        refine hfits (fun np' tx' hcopy => by cases hcopy) ⟨[tx], ?_, ?_, ?_⟩
        · rw [hsubmitted, htxs, hnil, List.append_nil]
        · rw [hf']
          exact Nat.le_refl 1
        · intro tx' htx'
          rw [List.mem_singleton.mp htx']
          exact hcopied
    | @clears np hcleared =>
        refine hfits (fun np' tx' hcopy => by cases hcopy)
          ⟨txs, by rw [htxs]; exact List.append_nil _, hfew', hathand⟩
    | goesOn hbefore hquiet hsame hnone =>
        refine hfits (fun np tx hcopy => absurd hcopy (FlushAt.ne_sending_of_isQuiet hquiet np tx))
          ⟨txs, by rw [htxs, hnone]; exact List.append_nil _, hfew', hathand⟩
  · refine ⟨h.closed, h.owner, h.claimed, h.amount, h.prevClaimedAmount, h.kept, ?_,
      h.ownerCopy, ⟨txs, ?_, hfew', hathand⟩, h.byOwner⟩
    · intro np tx hcopy
      exact absurd hcopy (FlushAt.ne_sending_of_isQuiet hquiet np tx)
    · rw [hsubmits, List.append_nil]
      exact htxs

/-- A step of the owner's flush. -/
theorem AfterClose.stepFlush {rpc : Rpc} {force : Bool} {f f' : FlushAt} {world : World}
    (h : AfterClose s₀ s) (howner : s.owner = .flush force f)
    (hflush : f.step d force rpc s.world = some (world, f')) :
    AfterClose s₀ { s with
      world, owner := .flush force f', byOwner := s.byOwner ++ f.submits rpc } := by
  have hframe := FlushAt.frame_of_step hflush
  have hmoves := FlushAt.moves_of_step hflush
  have hstill : ∀ tx, world.tx = some tx → s₀.world.tx = some tx :=
    fun tx htx => h.kept tx (kept_of_moves hmoves htx)
  have hby := h.byOwner
  rw [OwnerDone, howner] at hby
  refine ⟨hframe.closed.trans h.closed, Or.inr (Or.inr ⟨force, f', rfl⟩), h.claimed,
    hframe.amount.trans h.amount, hframe.prevClaimedAmount.trans h.prevClaimedAmount, hstill,
    h.taskCopy, ?_, h.byTask, ?_⟩
  · intro np tx hcopy
    change f' = .sending np tx at hcopy
    cases hmoves with
    | @copies np' tx' hkept hsame =>
        cases hcopy
        exact h.kept tx hkept
    | submits hsame hsubmitted => cases hcopy
    | clears hcleared => cases hcopy
    | goesOn hbefore hquiet hsame hnone =>
        exact absurd hcopy (FlushAt.ne_sending_of_isQuiet hquiet np tx)
  · change s.byOwner ++ f.submits rpc = s₀.byOwner ∨ ∃ tx, _ ∧ _ ∧
      (f'.isClearing = true ∨ f'.isQuiet = true ∧ world.tx = none)
    cases hmoves with
    | @copies np tx hkept hsame =>
        rcases hby with hbefore | ⟨tx', -, -, hclearing | ⟨-, hnone⟩⟩
        · exact Or.inl ((List.append_nil _).trans hbefore)
        · cases hclearing
        · rw [hnone] at hkept
          cases hkept
    | @submits np tx hsame hsubmitted =>
        rcases hby with hbefore | ⟨tx', -, -, hclearing | ⟨hquiet, -⟩⟩
        · refine Or.inr ⟨tx, ?_, h.ownerCopy np tx (by rw [howner]; rfl), Or.inl rfl⟩
          rw [hsubmitted, hbefore]
        · cases hclearing
        · cases hquiet
    | @clears np hcleared =>
        rcases hby with hbefore | ⟨tx, hone, htx, -⟩
        · exact Or.inl ((List.append_nil _).trans hbefore)
        · exact Or.inr ⟨tx, (List.append_nil _).trans hone, htx, Or.inr ⟨rfl, hcleared⟩⟩
    | goesOn hbefore hquiet hsame hnone =>
        rw [hnone, List.append_nil, hsame]
        rcases hby with hbefore' | ⟨tx, hone, htx, hclearing | ⟨-, hcleared⟩⟩
        · exact Or.inl hbefore'
        · rw [OwnerPc.flushAt, hbefore] at hclearing
          cases hclearing
        · exact Or.inr ⟨tx, hone, htx, Or.inr ⟨hquiet, hcleared⟩⟩

/-- The owner's call is over. -/
theorem AfterClose.idle (h : AfterClose s₀ s) (hclearing : s.owner.flushAt.isClearing = false) :
    AfterClose s₀ { s with owner := .idle } := by
  refine ⟨h.closed, Or.inl rfl, h.claimed, h.amount, h.prevClaimedAmount, h.kept, h.taskCopy,
    (fun np tx hcopy => by cases hcopy), h.byTask, ?_⟩
  rcases h.byOwner with hbefore | ⟨tx, hone, htx, hdone | ⟨-, hnone⟩⟩
  · exact Or.inl hbefore
  · rw [hclearing] at hdone
    cases hdone
  · exact Or.inr ⟨tx, hone, htx, Or.inr ⟨rfl, hnone⟩⟩

theorem AfterClose.stepOwner {rpc : Rpc} (h : AfterClose s₀ s)
    (hs : s.step d claimIntervalMs (.owner rpc) = some s') : AfterClose s₀ s' := by
  obtain ⟨⟨world, owner⟩, hstep, rfl⟩ := Option.map_eq_some_iff.mp hs
  rcases h.owner with hidle | ⟨p, hcheck⟩ | ⟨force, f, hflushing⟩
  · rw [hidle] at hstep
    cases hstep
  · rw [hcheck, OwnerPc.step, if_pos h.closed] at hstep
    cases hstep
    simp only [hcheck, OwnerPc.stores, OwnerPc.flushAt, FlushAt.submits, List.append_nil]
    exact h.idle (by rw [hcheck]; rfl)
  · rw [hflushing, OwnerPc.step] at hstep
    simp only [hflushing, OwnerPc.stores, OwnerPc.flushAt, List.append_nil]
    split at hstep
    next w₁ f' hflush =>
      cases hstep
      exact h.stepFlush hflushing hflush
    next hover =>
      cases hstep
      obtain ⟨hclearing, hsubmits⟩ := FlushAt.of_step_eq_none hover
      rw [hsubmits, List.append_nil]
      exact h.idle (by rw [hflushing]; exact hclearing)

/-- The owner begins a call. -/
theorem AfterClose.call {owner : OwnerPc} (h : AfterClose s₀ s) (hidle : s.owner = .idle)
    (howner : (∃ p, owner = .checkClosed p) ∨ ∃ force, owner = .flush force .start) :
    AfterClose s₀ { s with owner } := by
  have hquiet : owner.flushAt.isQuiet = true := by
    rcases howner with ⟨p, rfl⟩ | ⟨force, rfl⟩
    · rfl
    · rfl
  refine ⟨h.closed, Or.inr ?_, h.claimed, h.amount, h.prevClaimedAmount, h.kept, h.taskCopy,
    fun np tx hcopy => absurd hcopy (FlushAt.ne_sending_of_isQuiet hquiet np tx), h.byTask, ?_⟩
  · exact howner.imp id fun ⟨force, hforce⟩ => ⟨force, .start, hforce⟩
  · rcases h.byOwner with hbefore | ⟨tx, hone, htx, hdone | ⟨-, hnone⟩⟩
    · exact Or.inl hbefore
    · rw [hidle] at hdone
      cases hdone
    · exact Or.inr ⟨tx, hone, htx, Or.inr ⟨hquiet, hnone⟩⟩

theorem AfterClose.step {event : ClaimingEvent} (h : AfterClose s₀ s)
    (hs : s.step d claimIntervalMs event = some s') : AfterClose s₀ s' := by
  cases event with
  | task rpc => exact h.stepTask hs
  | owner rpc => exact h.stepOwner hs
  | claim rpc tx =>
      rw [Claiming.step] at hs
      split at hs
      next hidle =>
        cases hs
        unfold Claiming.startClaim
        split
        next => exact h.call hidle (Or.inl ⟨_, rfl⟩)
        next => exact h
      next => cases hs
  | flush force =>
      rw [Claiming.step] at hs
      split at hs
      next hidle =>
        cases hs
        exact h.call hidle (Or.inr ⟨force, rfl⟩)
      next => cases hs
  | close =>
      rw [Claiming.step] at hs
      split at hs
      next hidle =>
        cases hs
        exact ⟨rfl, h.owner, h.claimed, h.amount, h.prevClaimedAmount, h.kept, h.taskCopy,
          h.ownerCopy, h.byTask, h.byOwner⟩
      next => cases hs

/-- Once a claimer is closed, whatever its task and its owner still do and in whatever
order: nothing is claimed and the amount stays.  The owner's calls submit the
transaction kept at that moment once at most, and the task submits at most one, the
same or the one that it was submitting just then. -/
theorem submits_one_after_close (d : Deps) (claimIntervalMs : UInt64) (s s' : Claiming)
    (events : List ClaimingEvent) (hclosed : s.world.closed = true) (hidle : s.owner = .idle)
    (hrun : Run.runFrom (step d claimIntervalMs) s events = some s') :
    s'.claimed = s.claimed ∧ s'.world.amount = s.world.amount ∧
      s'.world.prevClaimedAmount = s.world.prevClaimedAmount ∧
      (s'.byOwner = s.byOwner ∨ ∃ tx, s.world.tx = some tx ∧ s'.byOwner = s.byOwner ++ [tx]) ∧
      (s'.byTask = s.byTask ∨
        ∃ tx, (s.world.tx = some tx ∨ ∃ np, s.task.flushAt = .sending np tx) ∧
          s'.byTask = s.byTask ++ [tx]) := by
  have h : AfterClose s s' :=
    Run.invariant_of_step (fun _ _ _ h hs => h.step hs) (AfterClose.refl hclosed hidle) hrun
  refine ⟨h.claimed, h.amount, h.prevClaimedAmount, ?_, ?_⟩
  · rcases h.byOwner with hsame | ⟨tx, hone, htx, -⟩
    · exact Or.inl hsame
    · exact Or.inr ⟨tx, htx, hone⟩
  · obtain ⟨txs, htxs, hfew, hathand⟩ := h.byTask
    cases txs with
    | nil => exact Or.inl (htxs.trans (List.append_nil _))
    | cons tx txs =>
        have hnil : txs = [] := by
          rw [List.length_cons] at hfew
          exact List.length_eq_zero_iff.mp (by omega)
        rw [hnil] at htxs
        exact Or.inr ⟨tx, hathand tx (List.mem_cons_self ..), htxs⟩

/-- A claimer that keeps a claim over `10` and is closed. -/
def sampleClosed : Claiming :=
  { new (List.replicate 20 9) 0 0 with
    world := { Race.sampleKept with closed := true }, claimed := [sampleTx 1 10] }

/-- A claim over `20` is refused, the claim over `10` is flushed, and the task stops. -/
theorem sample_submits_one_after_close :
    ∃ s, Run.runFrom (step sampleDeps 0) sampleClosed
        (.claim sampleRpc (sampleTx 1 20) :: .owner sampleRpc :: .flush true ::
          List.replicate 9 (.owner sampleRpc) ++ List.replicate 2 (.task sampleRpc)) = some s ∧
      s.byOwner = [sampleTx 1 10] ∧ s.claimed = sampleClosed.claimed ∧
      s.world.amount = sampleClosed.world.amount := by
  have hrun : (Run.runFrom (step sampleDeps 0) sampleClosed
      (.claim sampleRpc (sampleTx 1 20) :: .owner sampleRpc :: .flush true ::
        List.replicate 9 (.owner sampleRpc) ++ List.replicate 2 (.task sampleRpc))).map byOwner =
      some [sampleTx 1 10] := by
    decide +kernel
  obtain ⟨s, hs, hby⟩ := Option.map_eq_some_iff.mp hrun
  obtain ⟨hclaimed, hamount, -⟩ := submits_one_after_close _ _ sampleClosed s _ rfl rfl hs
  exact ⟨s, hs, hby, hclaimed, hamount⟩

end Claiming

end NknSdk.Nanopay
