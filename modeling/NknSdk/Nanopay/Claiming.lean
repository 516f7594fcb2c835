import NknSdk.Nanopay.Background
import NknSdk.Nanopay.FlushRace

/-!
# A claimer with its task and its owner

The background task of a claimer and its owner share the claimer's fields, each behind a
lock of its own, and both flush.  `Claiming` is the claimer with both of them at work.  A
step is one of the task or one of the owner's call in progress, and takes one lock or
gets one answer of the node.  The owner's calls come one after the other, since they
borrow the claimer.  The steps of a flush are those of `flushFn`, and the steps of a
claim those of `claim`: alone, they do what these do (`flush_alone`, `failed_alone`,
`claim_alone`).

A side that panics stops.  The locks it held stay poisoned, which can only stop the
other side as well; here that one goes on, so the runs of the system are all among
these.

What the other modules use of single steps: a flush copies the kept transaction, submits
it, and clears whatever is kept then (`FlushAt.moves_of_step`), the task does no more than
that (`TaskPc.step_cases`), and the owner besides stores what is claimed
(`OwnerPc.step_cases`).
-/

namespace NknSdk.Nanopay

open Exec

/-! ## Flushing -/

/-- Where `flush_fn` stands, named by its next step. -/
inductive FlushAt where
  | start
  | test
  | read
  | copy (np : Pb.NanoPay)
  /-- It waits for the node. -/
  | sending (np : Pb.NanoPay) (tx : Transaction)
  | clearTx (np : Pb.NanoPay)
  | clearExpiration (np : Pb.NanoPay)
  | setTime (np : Pb.NanoPay)
  | setFlushAmount (np : Pb.NanoPay)
  | returned
  | failed
deriving DecidableEq

namespace FlushAt

/-- One step of `flush_fn`, which panics or is over where there is none. -/
def step (d : Deps) (force : Bool) (rpc : Rpc) (w : World) : FlushAt → Option (World × FlushAt)
  | start =>
      match belowThreshold d force w with
      | (.ok below, _) => some (w, if below then returned else test)
      | _ => none
  | test => some (w, if w.tx = none then returned else read)
  | read =>
      match readStored d w with
      | (.ok np, _) => some (w, copy np)
      | (.err _, _) => some (w, failed)
      | _ => none
  | copy np => w.tx.map fun tx => (w, sending np tx)
  | sending np tx =>
      match rpc.sendRawTransaction tx with
      | .ok _ => some ({ w with sent := w.sent ++ [tx] }, clearTx np)
      | .error _ => some (w, failed)
  | clearTx np => some ({ w with tx := none }, clearExpiration np)
  | clearExpiration np => some ({ w with expiration := 0 }, setTime np)
  | setTime np => some ({ w with lastClaimTime := rpc.now }, setFlushAmount np)
  | setFlushAmount np => some ({ w with prevFlushAmount := np.amount }, returned)
  | returned => none
  | failed => none

/-- What the next step submits. -/
def submits (rpc : Rpc) : FlushAt → List Transaction
  | sending _ tx => if (rpc.sendRawTransaction tx).isOk then [tx] else []
  | _ => []

/-- The flush has submitted a transaction and not yet cleared the kept one. -/
def isClearing : FlushAt → Bool
  | clearTx _ => true
  | _ => false

/-- The flush neither holds a transaction nor has one to clear. -/
def isQuiet : FlushAt → Bool
  | sending _ _ => false
  | clearTx _ => false
  | _ => true

section Step

variable {d : Deps} {force : Bool} {rpc : Rpc} {w w' : World} {f f' : FlushAt}

theorem isClearing_of_isQuiet (h : f.isQuiet = true) : f.isClearing = false := by
  cases f with
  | clearTx np => cases h
  | _ => rfl

theorem ne_sending_of_isQuiet (h : f.isQuiet = true) (np : Pb.NanoPay) (tx : Transaction) :
    f ≠ sending np tx := by
  rintro rfl
  cases h

/-- A flush that cannot go on has nothing to clear and nothing to submit. -/
theorem of_step_eq_none (h : f.step d force rpc w = none) :
    f.isClearing = false ∧ f.submits rpc = [] := by
  cases f with
  | sending np tx =>
      rw [step] at h
      split at h <;> cases h
  | clearTx np => cases h
  | _ => exact ⟨rfl, rfl⟩

/-- What only the owner writes stays, and `sent` is sent. -/
structure Frame (w w' : World) (sent : List Transaction) : Prop where
  sent : w'.sent = w.sent ++ sent
  recipientProgramHash : w'.recipientProgramHash = w.recipientProgramHash
  closed : w'.closed = w.closed
  amount : w'.amount = w.amount
  prevClaimedAmount : w'.prevClaimedAmount = w.prevClaimedAmount

theorem Frame.refl (w : World) : Frame w w [] := ⟨(List.append_nil _).symm, rfl, rfl, rfl, rfl⟩

/-- What a step does with the kept transaction: it copies it, submits the copy, clears
what is kept by then, or does none of these. -/
inductive Moves (rpc : Rpc) (w w' : World) : FlushAt → FlushAt → Prop where
  | copies {np : Pb.NanoPay} {tx : Transaction} (kept : w.tx = some tx) (same : w'.tx = w.tx) :
      Moves rpc w w' (copy np) (sending np tx)
  | submits {np : Pb.NanoPay} {tx : Transaction} (same : w'.tx = w.tx)
      (submitted : (sending np tx).submits rpc = [tx]) :
      Moves rpc w w' (sending np tx) (clearTx np)
  | clears {np : Pb.NanoPay} (cleared : w'.tx = none) :
      Moves rpc w w' (clearTx np) (clearExpiration np)
  | goesOn {f f' : FlushAt} (before : f.isClearing = false) (quiet : f'.isQuiet = true)
      (same : w'.tx = w.tx) (none : f.submits rpc = []) : Moves rpc w w' f f'

theorem frame_of_step (h : f.step d force rpc w = some (w', f')) :
    Frame w w' (f.submits rpc) := by
  cases f with
  | start =>
      rw [step] at h
      split at h
      next => cases h; exact Frame.refl w
      next => cases h
  | test => cases h; exact Frame.refl w
  | read =>
      rw [step] at h
      split at h
      next => cases h; exact Frame.refl w
      next => cases h; exact Frame.refl w
      next => cases h
  | copy np =>
      obtain ⟨tx, -, heq⟩ := Option.map_eq_some_iff.mp h
      cases heq
      exact Frame.refl w
  | sending np tx =>
      rw [step] at h
      split at h
      next answer hanswer =>
        cases h
        rw [submits, hanswer]
        exact ⟨rfl, rfl, rfl, rfl, rfl⟩
      next e hanswer =>
        cases h
        rw [submits, hanswer]
        exact Frame.refl w
  | clearTx np => cases h; exact ⟨(List.append_nil _).symm, rfl, rfl, rfl, rfl⟩
  | clearExpiration np => cases h; exact ⟨(List.append_nil _).symm, rfl, rfl, rfl, rfl⟩
  | setTime np => cases h; exact ⟨(List.append_nil _).symm, rfl, rfl, rfl, rfl⟩
  | setFlushAmount np => cases h; exact ⟨(List.append_nil _).symm, rfl, rfl, rfl, rfl⟩
  | returned => cases h
  | failed => cases h

/-- A flush that is not below its threshold comes to the submission of what is kept. -/
theorem sending_alone {np : Pb.NanoPay} {tx : Transaction} {s : World × FlushAt}
    (hbelow : belowThreshold d force w = (.ok false, w)) (htx : w.tx = some tx)
    (hread : readStored d w = (.ok np, w))
    (hrest : Run.Repeats (fun s rpc => s.2.step d force rpc s.1) rpc (w, sending np tx) s) :
    Run.Repeats (fun s rpc => s.2.step d force rpc s.1) rpc (w, start) s := by
  have hstart : start.step d force rpc w = some (w, test) := by
    rw [step, hbelow]
    rfl
  have htest : test.step d force rpc w = some (w, read) := by
    rw [step, htx, if_neg (by simp)]
  have hcopied : read.step d force rpc w = some (w, copy np) := by
    rw [step, hread]
  have hsending : (copy np).step d force rpc w = some (w, sending np tx) := by
    rw [step, htx]
    rfl
  exact Run.Repeats.head hstart (Run.Repeats.head htest (Run.Repeats.head hcopied
    (Run.Repeats.head hsending hrest)))

/-- The steps of a flush, with nothing in between, are those of `flush_fn`. -/
theorem flush_alone (h : flushFn d rpc force w = (.ok (), w')) :
    Run.Repeats (fun s rpc => s.2.step d force rpc s.1) rpc (w, start) (w', returned) := by
  obtain ⟨below, w₁, hb, h₁⟩ := bind_eq_ok h
  obtain ⟨rfl, -⟩ := belowThreshold_eq hb (by simp)
  cases below with
  | true =>
      cases h₁
      have hstart : start.step d force rpc w' = some (w', returned) := by
        rw [step, hb]
        rfl
      exact Run.Repeats.head hstart (Run.Repeats.refl ..)
  | false =>
      rw [if_neg (by simp), get_bind_apply] at h₁
      split at h₁
      next hnone =>
        cases h₁
        have hstart : start.step d force rpc w' = some (w', test) := by
          rw [step, hb]
          rfl
        have htest : test.step d force rpc w' = some (w', returned) := by
          rw [step, if_pos hnone]
        exact Run.Repeats.head hstart (Run.Repeats.head htest (Run.Repeats.refl ..))
      next =>
        obtain ⟨np, w₂, hread, h₂⟩ := bind_eq_ok h₁
        obtain ⟨rfl, hnp⟩ := readStored_eq hread (by simp)
        obtain ⟨tx, htx, -⟩ := hnp np rfl
        obtain ⟨_, w₃, hsend, h₃⟩ := bind_eq_ok h₂
        unfold sendStored at hsend
        rw [get_bind_apply, htx, unwrap_some, Exec.pure_bind] at hsend
        rcases ofExcept_bind_eq hsend with ⟨e, -, herr, -⟩ | ⟨answer, hanswer, hsend₁⟩
        · cases herr
        · cases hsend₁
          cases h₃
          refine sending_alone hb htx hread ?_
          refine Run.Repeats.head (by rw [step, hanswer]) ?_
          exact Run.Repeats.head rfl (Run.Repeats.head rfl (Run.Repeats.head rfl
            (Run.Repeats.head rfl (Run.Repeats.refl ..))))

/-- And so are those of a flush that fails. -/
theorem failed_alone {e : String} (h : flushFn d rpc force w = (.err e, w')) :
    Run.Repeats (fun s rpc => s.2.step d force rpc s.1) rpc (w, start) (w', failed) := by
  rcases bind_eq_err h with ⟨below, w₁, hb, h₁⟩ | hb
  · obtain ⟨rfl, -⟩ := belowThreshold_eq hb (by simp)
    cases below with
    | true => cases h₁
    | false =>
        rw [if_neg (by simp), get_bind_apply] at h₁
        split at h₁
        next => cases h₁
        next hkept =>
          rcases bind_eq_err h₁ with ⟨np, w₂, hread, h₂⟩ | hread
          · obtain ⟨rfl, hnp⟩ := readStored_eq hread (by simp)
            obtain ⟨tx, htx, -⟩ := hnp np rfl
            rcases bind_eq_err h₂ with ⟨_, w₃, -, h₃⟩ | hsend
            · cases h₃
            · unfold sendStored at hsend
              rw [get_bind_apply, htx, unwrap_some, Exec.pure_bind] at hsend
              rcases ofExcept_bind_eq hsend with ⟨e', hanswer, -, rfl⟩ | ⟨answer, -, hsend₁⟩
              · exact sending_alone hb htx hread
                  (Run.Repeats.head (by rw [step, hanswer]) (Run.Repeats.refl ..))
              · cases hsend₁
          · obtain ⟨rfl, -⟩ := readStored_eq hread (by simp)
            have hstart : start.step d force rpc w' = some (w', test) := by
              rw [step, hb]
              rfl
            have htest : test.step d force rpc w' = some (w', read) := by
              rw [step, if_neg hkept]
            have hfailed : read.step d force rpc w' = some (w', failed) := by
              rw [step, hread]
            exact Run.Repeats.head hstart (Run.Repeats.head htest (Run.Repeats.head hfailed
              (Run.Repeats.refl ..)))
  · obtain ⟨-, b, hb', -⟩ := belowThreshold_eq hb (by simp)
    cases hb'

theorem moves_of_step (h : f.step d force rpc w = some (w', f')) : Moves rpc w w' f f' := by
  cases f with
  | start =>
      rw [step] at h
      split at h
      next below w₁ hbelow =>
        cases h
        exact .goesOn rfl (by cases below <;> rfl) rfl rfl
      next => cases h
  | test =>
      cases h
      exact .goesOn rfl (by split <;> rfl) rfl rfl
  | read =>
      rw [step] at h
      split at h
      next => cases h; exact .goesOn rfl rfl rfl rfl
      next => cases h; exact .goesOn rfl rfl rfl rfl
      next => cases h
  | copy np =>
      obtain ⟨tx, htx, heq⟩ := Option.map_eq_some_iff.mp h
      cases heq
      exact .copies htx rfl
  | sending np tx =>
      rw [step] at h
      split at h
      next answer hanswer =>
        cases h
        refine .submits rfl ?_
        rw [submits, hanswer]
        rfl
      next e hanswer =>
        cases h
        refine .goesOn rfl rfl rfl ?_
        rw [submits, hanswer]
        rfl
  | clearTx np => cases h; exact .clears rfl
  | clearExpiration np => cases h; exact .goesOn rfl rfl rfl rfl
  | setTime np => cases h; exact .goesOn rfl rfl rfl rfl
  | setFlushAmount np => cases h; exact .goesOn rfl rfl rfl rfl
  | returned => cases h
  | failed => cases h

end Step

end FlushAt

/-! ## The task and the owner -/

/-- Where the background task stands, named by its next step. -/
inductive TaskPc where
  /-- The minute between two passes. -/
  | resting
  | checkClosed
  | lookTx
  | lookAmounts
  | lookTime
  /-- It waits for the height. -/
  | asking (lastClaim now : Nat)
  | sleeping (duration : Nat)
  | woken
  | flushing (f : FlushAt)
  | stopped
deriving DecidableEq

namespace TaskPc

/-- The place in terms of the passes of the task. -/
def ofLoop : LoopPc → TaskPc
  | .resting => resting
  | .asking lastClaim now => asking lastClaim now
  | .sleeping duration => sleeping duration
  | .flushing => flushing .start
  | .stopped => stopped

/-- Where the flush of the task stands. -/
def flushAt : TaskPc → FlushAt
  | flushing f => f
  | _ => .returned

/-- One step of the task. -/
def step (d : Deps) (claimIntervalMs : UInt64) (rpc : Rpc) (w : World) :
    TaskPc → Option (World × TaskPc)
  | resting => some (w, checkClosed)
  | checkClosed => some (w, if w.closed then stopped else lookTx)
  | lookTx => some (w, if w.tx = none then resting else lookAmounts)
  | lookAmounts =>
      match subI64 d.overflow w.amount w.prevFlushAmount w with
      | ((.ok unflushed : Outcome String Int64), _) =>
          some (w, if unflushed < w.minFlushAmount then resting else lookTime)
      | _ => some (w, stopped)
  | lookTime =>
      match addDurations w.lastClaimTime (fromMillis claimIntervalMs) w with
      | ((.ok due : Outcome String Nat), _) =>
          some (w, if rpc.now < due then asking w.lastClaimTime rpc.now else flushing .start)
      | _ => some (w, stopped)
  | asking lastClaim now =>
      match answered d claimIntervalMs lastClaim now rpc.getHeight w with
      | (.ok pc, _) => some (w, ofLoop pc)
      | _ => some (w, stopped)
  | sleeping _ => some (w, woken)
  | woken => some (w, if w.closed then stopped else flushing .start)
  | flushing f =>
      match f.step d false rpc w with
      | some (w, f) => some (w, flushing f)
      | none => some (w, if f = .returned then resting else stopped)
  | stopped => none

/-- A step of the task that is none of its flush starts a flush at most. -/
theorem step_cases {d : Deps} {claimIntervalMs : UInt64} {rpc : Rpc} {w w' : World}
    {pc pc' : TaskPc} (h : pc.step d claimIntervalMs rpc w = some (w', pc')) :
    (∃ f f', pc = flushing f ∧ pc' = flushing f' ∧ f.step d false rpc w = some (w', f')) ∨
      (w' = w ∧ pc.flushAt.isClearing = false ∧ pc.flushAt.submits rpc = [] ∧
        pc'.flushAt.isQuiet = true) := by
  cases pc with
  | resting => cases h; exact Or.inr ⟨rfl, rfl, rfl, rfl⟩
  | checkClosed => cases h; exact Or.inr ⟨rfl, rfl, rfl, by split <;> rfl⟩
  | lookTx => cases h; exact Or.inr ⟨rfl, rfl, rfl, by split <;> rfl⟩
  | lookAmounts =>
      rw [step] at h
      split at h
      next => cases h; exact Or.inr ⟨rfl, rfl, rfl, by split <;> rfl⟩
      next => cases h; exact Or.inr ⟨rfl, rfl, rfl, rfl⟩
  | lookTime =>
      rw [step] at h
      split at h
      next => cases h; exact Or.inr ⟨rfl, rfl, rfl, by split <;> rfl⟩
      next => cases h; exact Or.inr ⟨rfl, rfl, rfl, rfl⟩
  | asking lastClaim now =>
      rw [step] at h
      split at h
      next pc w₁ hanswered =>
        cases h
        exact Or.inr ⟨rfl, rfl, rfl, by cases pc <;> rfl⟩
      next => cases h; exact Or.inr ⟨rfl, rfl, rfl, rfl⟩
  | sleeping duration => cases h; exact Or.inr ⟨rfl, rfl, rfl, rfl⟩
  | woken => cases h; exact Or.inr ⟨rfl, rfl, rfl, by split <;> rfl⟩
  | flushing f =>
      rw [step] at h
      split at h
      next w₁ f' hstep =>
        cases h
        exact Or.inl ⟨f, f', rfl, rfl, hstep⟩
      next hstep =>
        cases h
        obtain ⟨hclearing, hsubmits⟩ := FlushAt.of_step_eq_none hstep
        exact Or.inr ⟨rfl, hclearing, hsubmits, by split <;> rfl⟩
  | stopped => cases h

end TaskPc

/-- Where the owner's call stands, named by its next step. -/
inductive OwnerPc where
  /-- No call is in progress. -/
  | idle
  | flush (force : Bool) (f : FlushAt)
  | checkClosed (p : Pending)
  | enterId (p : Pending)
  /-- A claim for another id flushes first. -/
  | leaving (p : Pending) (f : FlushAt)
  | clearId (p : Pending)
  | foldAmount (p : Pending)
  | resetFlushAmount (p : Pending)
  | resetAmount (p : Pending)
  | checkFunds (p : Pending)
  | setTx (p : Pending)
  | setExpiration (p : Pending)
  | setAmount (p : Pending)
  | result (p : Pending)

namespace OwnerPc

/-- Where the flush of the owner's call stands. -/
def flushAt : OwnerPc → FlushAt
  | flush _ f => f
  | leaving _ f => f
  | _ => .returned

/-- What the next step stores as the claimed transaction. -/
def stores : OwnerPc → List Transaction
  | setTx p => [p.tx]
  | _ => []

/-- One step of the call in progress.  A call that panics is over. -/
def step (d : Deps) (rpc : Rpc) (w : World) : OwnerPc → Option (World × OwnerPc)
  | idle => none
  | flush force f =>
      match f.step d force rpc w with
      | some (w, f) => some (w, flush force f)
      | none => some (w, idle)
  | checkClosed p => some (w, if w.closed then idle else enterId p)
  | enterId p =>
      match w.id with
      | none => some (w, checkFunds p)
      | some id =>
          if id = p.np.id then
            some (w, if p.np.amount ≤ w.amount then idle else checkFunds p)
          else
            some (w, leaving p .start)
  | leaving p f =>
      match f.step d false rpc w with
      | some (w, f) => some (w, leaving p f)
      | none => some (w, if f = .returned then clearId p else idle)
  | clearId p => some ({ w with id := none }, foldAmount p)
  | foldAmount p =>
      match addI64 d.overflow w.prevClaimedAmount w.amount w with
      | ((.ok prevClaimedAmount : Outcome String Int64), _) =>
          some ({ w with prevClaimedAmount }, resetFlushAmount p)
      | _ => some (w, idle)
  | resetFlushAmount p => some ({ w with prevFlushAmount := 0 }, resetAmount p)
  | resetAmount p => some ({ w with amount := 0 }, checkFunds p)
  | checkFunds p =>
      match Nanopay.checkFunds d rpc p.height p.np p.address w with
      | (.ok _, _) => some (w, setTx p)
      | _ => some (w, idle)
  | setTx p => some ({ w with id := some p.np.id, tx := some p.tx }, setExpiration p)
  | setExpiration p => some ({ w with expiration := p.np.txnExpiration }, setAmount p)
  | setAmount p => some ({ w with amount := p.np.amount }, result p)
  | result _ => some (w, idle)

/-- The claim in progress. -/
def pending : OwnerPc → Option Pending
  | idle => none
  | flush _ _ => none
  | checkClosed p => some p
  | enterId p => some p
  | leaving p _ => some p
  | clearId p => some p
  | foldAmount p => some p
  | resetFlushAmount p => some p
  | resetAmount p => some p
  | checkFunds p => some p
  | setTx p => some p
  | setExpiration p => some p
  | setAmount p => some p
  | result p => some p

section Step

variable {d : Deps} {rpc : Rpc} {w w' : World} {pc pc' : OwnerPc}

/-- The claim in progress goes on or is over. -/
theorem pending_of_step (h : pc.step d rpc w = some (w', pc')) :
    pc'.pending = pc.pending ∨ pc'.pending = none := by
  cases pc with
  | idle => cases h
  | flush force f =>
      rw [step] at h
      split at h
      next => cases h; exact Or.inl rfl
      next => cases h; exact Or.inr rfl
  | checkClosed p =>
      cases h
      split
      next => exact Or.inr rfl
      next => exact Or.inl rfl
  | enterId p =>
      rw [step] at h
      split at h
      next => cases h; exact Or.inl rfl
      next =>
        split at h
        next =>
          cases h
          split
          next => exact Or.inr rfl
          next => exact Or.inl rfl
        next => cases h; exact Or.inl rfl
  | leaving p f =>
      rw [step] at h
      split at h
      next => cases h; exact Or.inl rfl
      next =>
        cases h
        split
        next => exact Or.inl rfl
        next => exact Or.inr rfl
  | clearId p => cases h; exact Or.inl rfl
  | foldAmount p =>
      rw [step] at h
      split at h
      next => cases h; exact Or.inl rfl
      next => cases h; exact Or.inr rfl
  | resetFlushAmount p => cases h; exact Or.inl rfl
  | resetAmount p => cases h; exact Or.inl rfl
  | checkFunds p =>
      rw [step] at h
      split at h
      next => cases h; exact Or.inl rfl
      next => cases h; exact Or.inr rfl
  | setTx p => cases h; exact Or.inl rfl
  | setExpiration p => cases h; exact Or.inl rfl
  | setAmount p => cases h; exact Or.inl rfl
  | result p => cases h; exact Or.inr rfl

/-- A claim for another id flushes and starts over as `claim` does. -/
theorem leaving_alone (h : leaveId d rpc w = (.ok (), w')) (p : Pending) :
    Run.Repeats (fun s rpc => s.2.step d rpc s.1) rpc (w, leaving p .start)
      (w', checkFunds p) := by
  obtain ⟨_, w₁, hflush, h₁⟩ := bind_eq_ok h
  rw [modify_bind_apply, get_bind_apply] at h₁
  obtain ⟨hfits, h₂⟩ := arith_bind_eq h₁ (by simp)
  cases h₂
  have hflushed : Run.Repeats (fun s rpc => s.2.step d rpc s.1) rpc (w, leaving p .start)
      (w₁, leaving p .returned) := by
    refine (FlushAt.flush_alone hflush).map (fun s => (s.1, leaving p s.2)) ?_
    rintro ⟨w, f⟩ ⟨w', f'⟩ hs
    change (leaving p f).step d rpc w = _
    change f.step d false rpc w = some (w', f') at hs
    rw [step, hs]
  have hfolded : (foldAmount p).step d rpc { w₁ with id := none } =
      some ({ w₁ with id := none, prevClaimedAmount := w₁.prevClaimedAmount + w₁.amount },
        resetFlushAmount p) := by
    rw [step, addI64, arith, if_pos hfits]
    rfl
  exact hflushed.trans (Run.Repeats.head rfl (Run.Repeats.head rfl (Run.Repeats.head hfolded
    (Run.Repeats.head rfl (Run.Repeats.head rfl (Run.Repeats.refl ..))))))

/-- The steps of an accepted claim, with nothing in between, are those of `claim`. -/
theorem claim_alone {tx : Transaction} {v : Int64} (h : claim d rpc tx w = (.ok v, w')) :
    ∃ p : Pending, p.tx = tx ∧
      readClaim d rpc tx w = (.ok (p.height, p.np, p.address), w) ∧
      Run.Repeats (fun s rpc => s.2.step d rpc s.1) rpc (w, checkClosed p) (w', idle) := by
  obtain ⟨⟨height, np, address⟩, w₁, hread, h₁⟩ := bind_eq_ok h
  obtain rfl : w₁ = w := by
    rw [← readClaim_state d rpc tx w, hread]
  let p : Pending := { rpc, height, np, address, tx }
  refine ⟨p, rfl, hread, ?_⟩
  simp only [get_bind_apply] at h₁
  split at h₁
  next => cases h₁
  next hopen =>
    obtain ⟨_, w₂, henter, h₂⟩ := bind_eq_ok h₁
    obtain ⟨_, w₃, hfunds, h₃⟩ := bind_eq_ok h₂
    obtain rfl : w₃ = w₂ := by
      rw [← checkFunds_state d rpc height np address w₂, hfunds]
    obtain ⟨_, w₄, hcommit, h₄⟩ := bind_eq_ok h₃
    cases hcommit
    obtain rfl := (amount_eq h₄).1
    have hopened : (checkClosed p).step d rpc w₁ = some (w₁, enterId p) := by
      rw [step, if_neg hopen]
    -- From the check of the funds on, all that is left is to store the claim.
    have hfrom : Run.Repeats (fun s rpc => s.2.step d rpc s.1) rpc (w₃, checkFunds p)
        (w₃.committed np tx, idle) := by
      have hfunded : (checkFunds p).step d rpc w₃ = some (w₃, setTx p) := by
        rw [step, hfunds]
      exact Run.Repeats.head hfunded (Run.Repeats.head rfl (Run.Repeats.head rfl
        (Run.Repeats.head rfl (Run.Repeats.head rfl (Run.Repeats.refl ..)))))
    refine Run.Repeats.head hopened ?_
    rw [Nanopay.enterId, get_bind_apply] at henter
    cases hid : w₁.id with
    | none =>
        rw [hid] at henter
        cases henter
        have hentered : (enterId p).step d rpc w₁ = some (w₁, checkFunds p) := by
          rw [step, hid]
        exact Run.Repeats.head hentered hfrom
    | some i =>
        rw [hid] at henter
        dsimp only at henter
        split at henter
        next hsame =>
          split at henter
          next => cases henter
          next hmore =>
            cases henter
            have hentered : (enterId p).step d rpc w₁ = some (w₁, checkFunds p) := by
              rw [step, hid]
              dsimp only
              rw [if_pos hsame, if_neg hmore]
            exact Run.Repeats.head hentered hfrom
        next hother =>
          have hentered : (enterId p).step d rpc w₁ = some (w₁, leaving p .start) := by
            rw [step, hid]
            dsimp only
            rw [if_neg hother]
          exact Run.Repeats.head hentered ((leaving_alone henter p).trans hfrom)

/-- A step of a call is one of a flush, or it stores what is claimed, or it leaves the
kept transaction alone. -/
theorem step_cases (h : pc.step d rpc w = some (w', pc')) :
    (∃ force, pc.flushAt.step d force rpc w = some (w', pc'.flushAt) ∧ pc.stores = []) ∨
      (∃ p, pc = setTx p ∧ pc' = setExpiration p ∧
        w' = { w with id := some p.np.id, tx := some p.tx }) ∨
      (pc.flushAt.isClearing = false ∧ pc.flushAt.submits rpc = [] ∧ pc.stores = [] ∧
        pc'.flushAt.isQuiet = true ∧ w'.tx = w.tx ∧ w'.sent = w.sent ∧
        w'.recipientProgramHash = w.recipientProgramHash) := by
  have still : ∀ {pc' : OwnerPc}, pc.flushAt.isClearing = false → pc.flushAt.submits rpc = [] →
      pc.stores = [] → pc'.flushAt.isQuiet = true →
      (pc.flushAt.isClearing = false ∧ pc.flushAt.submits rpc = [] ∧ pc.stores = [] ∧
        pc'.flushAt.isQuiet = true ∧ w.tx = w.tx ∧ w.sent = w.sent ∧
        w.recipientProgramHash = w.recipientProgramHash) :=
    fun hclearing hsubmits hstores hquiet =>
      ⟨hclearing, hsubmits, hstores, hquiet, rfl, rfl, rfl⟩
  cases pc with
  | idle => cases h
  | flush force f =>
      rw [step] at h
      split at h
      next w₁ f' hstep =>
        cases h
        exact Or.inl ⟨force, hstep, rfl⟩
      next hstep =>
        cases h
        obtain ⟨hclearing, hsubmits⟩ := FlushAt.of_step_eq_none hstep
        exact Or.inr (Or.inr (still hclearing hsubmits rfl rfl))
  | checkClosed p =>
      cases h
      exact Or.inr (Or.inr (still rfl rfl rfl (by split <;> rfl)))
  | enterId p =>
      rw [step] at h
      split at h
      next => cases h; exact Or.inr (Or.inr (still rfl rfl rfl rfl))
      next =>
        split at h
        next => cases h; exact Or.inr (Or.inr (still rfl rfl rfl (by split <;> rfl)))
        next => cases h; exact Or.inr (Or.inr (still rfl rfl rfl rfl))
  | leaving p f =>
      rw [step] at h
      split at h
      next w₁ f' hstep =>
        cases h
        exact Or.inl ⟨false, hstep, rfl⟩
      next hstep =>
        cases h
        obtain ⟨hclearing, hsubmits⟩ := FlushAt.of_step_eq_none hstep
        exact Or.inr (Or.inr (still hclearing hsubmits rfl (by split <;> rfl)))
  | clearId p => cases h; exact Or.inr (Or.inr ⟨rfl, rfl, rfl, rfl, rfl, rfl, rfl⟩)
  | foldAmount p =>
      rw [step] at h
      split at h
      next => cases h; exact Or.inr (Or.inr ⟨rfl, rfl, rfl, rfl, rfl, rfl, rfl⟩)
      next => cases h; exact Or.inr (Or.inr (still rfl rfl rfl rfl))
  | resetFlushAmount p => cases h; exact Or.inr (Or.inr ⟨rfl, rfl, rfl, rfl, rfl, rfl, rfl⟩)
  | resetAmount p => cases h; exact Or.inr (Or.inr ⟨rfl, rfl, rfl, rfl, rfl, rfl, rfl⟩)
  | checkFunds p =>
      rw [step] at h
      split at h
      next => cases h; exact Or.inr (Or.inr (still rfl rfl rfl rfl))
      next => cases h; exact Or.inr (Or.inr (still rfl rfl rfl rfl))
  | setTx p => cases h; exact Or.inr (Or.inl ⟨p, rfl, rfl, rfl⟩)
  | setExpiration p => cases h; exact Or.inr (Or.inr ⟨rfl, rfl, rfl, rfl, rfl, rfl, rfl⟩)
  | setAmount p => cases h; exact Or.inr (Or.inr ⟨rfl, rfl, rfl, rfl, rfl, rfl, rfl⟩)
  | result p => cases h; exact Or.inr (Or.inr (still rfl rfl rfl rfl))

end Step

end OwnerPc

/-! ## The system -/

/-- A claimer with its task and its owner. -/
structure Claiming where
  world : World
  task : TaskPc
  owner : OwnerPc
  /-- The transactions that were stored by claims, oldest first. -/
  claimed : List Transaction
  /-- The transactions that the task has submitted, oldest first. -/
  byTask : List Transaction
  /-- The transactions that the owner's calls have submitted, oldest first. -/
  byOwner : List Transaction

inductive ClaimingEvent where
  /-- The next step of the task.  The node answers and the clock is read where asked. -/
  | task (rpc : Rpc)
  /-- The next step of the owner's call. -/
  | owner (rpc : Rpc)
  /-- The owner calls `claim`. -/
  | claim (rpc : Rpc) (tx : Transaction)
  /-- The owner calls `flush`. -/
  | flush (force : Bool)
  /-- The owner calls `close`. -/
  | close

namespace Claiming

/-- A fresh claimer, whose task has just been started. -/
def new (recipientProgramHash : Bytes) (minFlushAmount : Int64) (now : Nat) : Claiming where
  world := World.new recipientProgramHash minFlushAmount now
  task := .resting
  owner := .idle
  claimed := []
  byTask := []
  byOwner := []

/-- The call that a claim starts with.  Reading the claim takes no lock. -/
def startClaim (d : Deps) (rpc : Rpc) (tx : Transaction) (s : Claiming) : Claiming :=
  match readClaim d rpc tx s.world with
  | (.ok (height, np, address), _) =>
      { s with owner := .checkClosed { rpc, height, np, address, tx } }
  | _ => s

def step (d : Deps) (claimIntervalMs : UInt64) (s : Claiming) : ClaimingEvent → Option Claiming
  | .task rpc =>
      (s.task.step d claimIntervalMs rpc s.world).map fun (world, task) =>
        { s with world, task, byTask := s.byTask ++ s.task.flushAt.submits rpc }
  | .owner rpc =>
      (s.owner.step d rpc s.world).map fun (world, owner) =>
        { s with
          world, owner, claimed := s.claimed ++ s.owner.stores
          byOwner := s.byOwner ++ s.owner.flushAt.submits rpc }
  | .claim rpc tx =>
      match s.owner with
      | .idle => some (s.startClaim d rpc tx)
      | _ => none
  | .flush force =>
      match s.owner with
      | .idle => some { s with owner := .flush force .start }
      | _ => none
  | .close =>
      match s.owner with
      | .idle => some { s with world := { s.world with closed := true } }
      | _ => none

end Claiming

end NknSdk.Nanopay
