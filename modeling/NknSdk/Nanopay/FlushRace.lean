import NknSdk.Lib.Run
import NknSdk.Nanopay.Claimer

/-!
# A flush beside claims

The background task of a claimer runs `flush_fn` on shared handles while the
owner calls `claim`.  Each lock is taken for one read or write, and none is held
while the node is asked.  `Race` is the claimer with one run of `flush_fn` and
the claims of the owner, which come one after the other and never leave an id.
Its events are single steps between lock acquisitions: one of the flush, one of
the claim in progress, or the start of a claim.

`FlushPc` is where the flush stands.  It reads the payload (`read`), copies the
transaction (`copy`), waits for the node (`sending`), and then takes four locks
in turn to clear the claimer.  `ClaimPc` is where the claim stands.  The steps
are those of `flushFn` and `claim`: alone, a flush or a claim does what these do
(`flush_alone`, `claim_alone`).

A claim that stores its transaction between the read of the payload and the
clearing is lost.  `OutsideWindow` says that no step does that, and
`claim_survives` that then the last claim is sent or kept.
-/

namespace NknSdk.Nanopay

open Exec

/-! ## Where the two sides stand -/

/-- Where `flush_fn` stands, named by its next step. -/
inductive FlushPc where
  /-- The threshold test. -/
  | start
  /-- The test that a transaction is kept. -/
  | test
  /-- The read of the payload. -/
  | read
  /-- The copy of the transaction that will be sent. -/
  | copy (np : Pb.NanoPay)
  /-- The answer of the node. -/
  | sending (np : Pb.NanoPay) (tx : Transaction)
  | clearTx (np : Pb.NanoPay) (tx : Transaction)
  | clearExpiration (np : Pb.NanoPay) (tx : Transaction)
  | setTime (np : Pb.NanoPay) (tx : Transaction)
  | setFlushAmount (np : Pb.NanoPay) (tx : Transaction)
  /-- It has returned, with the transaction it sent. -/
  | done (sent : Option Transaction)
deriving DecidableEq

namespace FlushPc

def isDone : FlushPc → Bool
  | .done _ => true
  | _ => false

/-- The flush has read the payload and not yet cleared the transaction. -/
def inWindow : FlushPc → Bool
  | .copy _ => true
  | .sending _ _ => true
  | .clearTx _ _ => true
  | _ => false

/-- The flush has cleared the transaction and not yet the expiration. -/
def isClearing : FlushPc → Bool
  | .clearExpiration _ _ => true
  | _ => false

theorem of_isDone {f : FlushPc} (h : f.isDone = true) : ∃ sent, f = .done sent := by
  cases f with
  | done sent => exact ⟨sent, rfl⟩
  | _ => cases h

end FlushPc

/-- A claim whose transaction has been read. -/
structure Pending where
  rpc : Rpc
  height : UInt32
  np : Pb.NanoPay
  address : String
  tx : Transaction

/-- Where the owner's claim stands, named by its next step. -/
inductive ClaimPc where
  /-- No claim is in progress. -/
  | idle
  | checkClosed (p : Pending)
  | enterId (p : Pending)
  | checkFunds (p : Pending)
  | setTx (p : Pending)
  | setExpiration (p : Pending)
  | setAmount (p : Pending)
  | result (p : Pending)

namespace ClaimPc

def isIdle : ClaimPc → Bool
  | .idle => true
  | _ => false

theorem of_isIdle {c : ClaimPc} (h : c.isIdle = true) : c = .idle := by
  cases c with
  | idle => rfl
  | _ => cases h

end ClaimPc

structure Race where
  world : World
  flush : FlushPc
  claim : ClaimPc
  /-- The last claim that returned its amount. -/
  lastOk : Option Pending

inductive Event where
  /-- The next step of the flush.  The node answers when it is asked. -/
  | flush (rpc : Rpc)
  /-- The owner calls `claim`. -/
  | call (rpc : Rpc) (tx : Transaction)
  /-- The next step of the claim in progress. -/
  | claim

namespace Race

/-- The claimer before the flush and the claims start. -/
def new (w : World) : Race := { world := w, flush := .start, claim := .idle, lastOk := none }

/-- One step of `flush_fn`.  A panic has no successor. -/
def stepFlush (d : Deps) (force : Bool) (rpc : Rpc) (r : Race) : Option Race :=
  match r.flush with
  | .start =>
      match belowThreshold d force r.world with
      | (.ok true, w) => some { r with world := w, flush := .done none }
      | (.ok false, w) => some { r with world := w, flush := .test }
      | _ => none
  | .test =>
      if r.world.tx = none then some { r with flush := .done none }
      else some { r with flush := .read }
  | .read =>
      match readStored d r.world with
      | (.ok np, w) => some { r with world := w, flush := .copy np }
      | (.err _, w) => some { r with world := w, flush := .done none }
      | _ => none
  | .copy np => r.world.tx.map fun tx => { r with flush := .sending np tx }
  | .sending np tx =>
      match rpc.sendRawTransaction tx with
      | .ok _ =>
          some { r with
            world := { r.world with sent := r.world.sent ++ [tx] }, flush := .clearTx np tx }
      | .error _ => some { r with flush := .done none }
  | .clearTx np tx =>
      some { r with world := { r.world with tx := none }, flush := .clearExpiration np tx }
  | .clearExpiration np tx =>
      some { r with world := { r.world with expiration := 0 }, flush := .setTime np tx }
  | .setTime np tx =>
      some { r with
        world := { r.world with lastClaimTime := rpc.now }, flush := .setFlushAmount np tx }
  | .setFlushAmount np tx =>
      some { r with
        world := { r.world with prevFlushAmount := np.amount }, flush := .done (some tx) }
  | .done _ => none

/-- The start of a claim.  Reading the claim takes no lock. -/
def stepCall (d : Deps) (rpc : Rpc) (tx : Transaction) (r : Race) : Option Race :=
  match r.claim, readClaim d rpc tx r.world with
  | .idle, (.ok (height, np, address), _) =>
      some { r with claim := .checkClosed { rpc, height, np, address, tx } }
  | .idle, (.err _, _) => some r
  | _, _ => none

/-- One step of the claim in progress.  A claim for another id than the current
one is no part of this system. -/
def stepClaim (d : Deps) (r : Race) : Option Race :=
  match r.claim with
  | .idle => none
  | .checkClosed p =>
      if r.world.closed then some { r with claim := .idle }
      else some { r with claim := .enterId p }
  | .enterId p =>
      if r.world.id = none ∨ r.world.id = some p.np.id then
        match Nanopay.enterId d p.rpc p.np r.world with
        | (.ok _, w) => some { r with world := w, claim := .checkFunds p }
        | (.err _, w) => some { r with world := w, claim := .idle }
        | _ => none
      else none
  | .checkFunds p =>
      match Nanopay.checkFunds d p.rpc p.height p.np p.address r.world with
      | (.ok _, w) => some { r with world := w, claim := .setTx p }
      | (.err _, w) => some { r with world := w, claim := .idle }
      | _ => none
  | .setTx p =>
      some { r with
        world := { r.world with id := some p.np.id, tx := some p.tx }, claim := .setExpiration p }
  | .setExpiration p =>
      some { r with
        world := { r.world with expiration := p.np.txnExpiration }, claim := .setAmount p }
  | .setAmount p =>
      some { r with world := { r.world with amount := p.np.amount }, claim := .result p }
  | .result p =>
      match amount d r.world with
      | (.ok _, w) => some { r with world := w, claim := .idle, lastOk := some p }
      | _ => none

def step (d : Deps) (force : Bool) (r : Race) : Event → Option Race
  | .flush rpc => r.stepFlush d force rpc
  | .call rpc tx => r.stepCall d rpc tx
  | .claim => r.stepClaim d

/-! ## The property -/

/-- Both sides have finished. -/
def Finished (r : Race) : Prop := r.flush.isDone = true ∧ r.claim.isIdle = true

instance (r : Race) : Decidable r.Finished :=
  inferInstanceAs (Decidable (r.flush.isDone = true ∧ r.claim.isIdle = true))

/-- The last successful claim is the one that was sent or is still kept with its
expiration, and the flushed amount is that of the transaction sent. -/
def NoLostClaim (d : Deps) (r : Race) : Prop :=
  (∀ p, r.lastOk = some p → r.flush ≠ .done (some p.tx) →
    r.world.tx = some p.tx ∧ r.world.expiration = p.np.txnExpiration) ∧
  ∀ tx, r.flush = .done (some tx) →
    ∃ np, d.nanoPay tx = some np ∧ r.world.prevFlushAmount = np.amount

/-- What the next step of a claim may not do beside the flush. -/
def Outside (r : Race) : ClaimPc → Prop
  | .setTx _ => r.flush.inWindow = false
  | .setExpiration p => r.flush.isClearing = true → r.world.tx ≠ some p.tx
  | _ => True

instance (r : Race) : (c : ClaimPc) → Decidable (r.Outside c)
  | .setTx _ => inferInstanceAs (Decidable (_ = false))
  | .setExpiration p =>
      inferInstanceAs (Decidable (r.flush.isClearing = true → r.world.tx ≠ some p.tx))
  | .idle => inferInstanceAs (Decidable True)
  | .checkClosed _ => inferInstanceAs (Decidable True)
  | .enterId _ => inferInstanceAs (Decidable True)
  | .checkFunds _ => inferInstanceAs (Decidable True)
  | .setAmount _ => inferInstanceAs (Decidable True)
  | .result _ => inferInstanceAs (Decidable True)

/-- No claim stores its transaction between the read of the payload and the
clearing, and none that stored it after the clearing stores its expiration before
the flush resets that. -/
def OutsideWindow (r : Race) : Event → Prop
  | .claim => r.Outside r.claim
  | _ => True

instance (r : Race) : (e : Event) → Decidable (OutsideWindow r e)
  | .claim => inferInstanceAs (Decidable (r.Outside r.claim))
  | .flush _ => inferInstanceAs (Decidable True)
  | .call _ _ => inferInstanceAs (Decidable True)

/-! ## The invariant -/

/-- The last claim that has stored its transaction. -/
def current (r : Race) : Option Pending :=
  match r.claim with
  | .setExpiration p => some p
  | .setAmount p => some p
  | .result p => some p
  | _ => r.lastOk

/-- The claim's transaction is kept, and its expiration too once it is stored. -/
def Held (r : Race) (p : Pending) : Prop :=
  r.world.tx = some p.tx ∧
    (r.claim = .setExpiration p ∨ r.world.expiration = p.np.txnExpiration)

/-- What became of the claim's transaction, by where the flush stands. -/
def Kept (r : Race) (p : Pending) : Prop :=
  match r.flush with
  | .clearExpiration _ tx =>
      p.tx = tx ∨ (r.world.tx = some p.tx ∧ r.claim = .setExpiration p)
  | .setTime _ tx => p.tx = tx ∨ r.Held p
  | .setFlushAmount _ tx => p.tx = tx ∨ r.Held p
  | .done (some tx) => p.tx = tx ∨ r.Held p
  | _ => r.Held p

/-- The message that the flush has read is that of the transaction it sends. -/
def Reads (d : Deps) (r : Race) : Prop :=
  match r.flush with
  | .copy np => ∃ tx, r.world.tx = some tx ∧ d.nanoPay tx = some np
  | .sending np tx => r.world.tx = some tx ∧ d.nanoPay tx = some np
  | .clearTx np tx => r.world.tx = some tx ∧ d.nanoPay tx = some np
  | .clearExpiration np tx => d.nanoPay tx = some np
  | .setTime np tx => d.nanoPay tx = some np
  | .setFlushAmount np tx => d.nanoPay tx = some np
  | .done (some tx) => ∃ np, d.nanoPay tx = some np ∧ r.world.prevFlushAmount = np.amount
  | _ => True

structure Inv (d : Deps) (r : Race) : Prop where
  reads : r.Reads d
  kept : ∀ p, r.current = some p → r.Kept p

variable {d : Deps} {force : Bool} {rpc : Rpc} {r r' : Race}

/-- A step of the flush keeps the invariant. -/
theorem inv_stepFlush (inv : r.Inv d) (h : r.stepFlush d force rpc = some r') : r'.Inv d := by
  obtain ⟨w, f, c, l⟩ := r
  obtain ⟨reads, kept⟩ := inv
  cases f with
  | start =>
      simp only [stepFlush] at h
      split at h
      next w' hb =>
        cases h
        obtain ⟨rfl, -⟩ := belowThreshold_eq hb (by simp)
        exact ⟨trivial, kept⟩
      next w' hb =>
        cases h
        obtain ⟨rfl, -⟩ := belowThreshold_eq hb (by simp)
        exact ⟨trivial, kept⟩
      next => cases h
  | test =>
      simp only [stepFlush] at h
      split at h
      next => cases h; exact ⟨trivial, kept⟩
      next => cases h; exact ⟨trivial, kept⟩
  | read =>
      simp only [stepFlush] at h
      split at h
      next np w' hread =>
        cases h
        obtain ⟨rfl, hnp⟩ := readStored_eq hread (by simp)
        exact ⟨hnp np rfl, kept⟩
      next e w' hread =>
        cases h
        obtain ⟨rfl, -⟩ := readStored_eq hread (by simp)
        exact ⟨trivial, kept⟩
      next => cases h
  | copy np =>
      obtain ⟨tx, htx, hnp⟩ := reads
      obtain ⟨tx', htx', rfl⟩ := Option.map_eq_some_iff.mp h
      cases htx.symm.trans htx'
      exact ⟨⟨htx, hnp⟩, kept⟩
  | sending np tx =>
      simp only [stepFlush] at h
      split at h
      next => cases h; exact ⟨reads, kept⟩
      next => cases h; exact ⟨trivial, kept⟩
  | clearTx np tx =>
      cases h
      refine ⟨reads.2, fun p hp => Or.inl ?_⟩
      exact Option.some.inj ((kept p hp).1.symm.trans reads.1)
  | clearExpiration np tx =>
      cases h
      refine ⟨reads, fun p hp => ?_⟩
      rcases kept p hp with hsent | ⟨htx, hclaim⟩
      · exact Or.inl hsent
      · exact Or.inr ⟨htx, Or.inl hclaim⟩
  | setTime np tx => cases h; exact ⟨reads, kept⟩
  | setFlushAmount np tx => cases h; exact ⟨⟨np, reads, rfl⟩, kept⟩
  | done sent => cases h

/-! ## The claim's steps -/

/-- A step of the claim stores its transaction, or it stores its expiration, or
it touches neither and the last claim that stored its own is the same. -/
theorem stepClaim_cases (h : r.stepClaim d = some r') :
    (∃ p, r.claim = .setTx p ∧ r' = { r with
        world := { r.world with id := some p.np.id, tx := some p.tx }
        claim := .setExpiration p }) ∨
      (∃ p, r.claim = .setExpiration p ∧ r' = { r with
        world := { r.world with expiration := p.np.txnExpiration }, claim := .setAmount p }) ∨
      ((∀ p, r.claim ≠ .setExpiration p) ∧ r'.current = r.current ∧ r'.flush = r.flush ∧
        r'.world.tx = r.world.tx ∧ r'.world.expiration = r.world.expiration ∧
        r'.world.prevFlushAmount = r.world.prevFlushAmount) := by
  obtain ⟨w, f, c, l⟩ := r
  cases c with
  | idle => cases h
  | checkClosed p =>
      simp only [stepClaim] at h
      split at h
      next => cases h; exact Or.inr (Or.inr ⟨by simp, rfl, rfl, rfl, rfl, rfl⟩)
      next => cases h; exact Or.inr (Or.inr ⟨by simp, rfl, rfl, rfl, rfl, rfl⟩)
  | enterId p =>
      simp only [stepClaim] at h
      split at h
      next hid =>
        split at h
        next w' henter =>
          cases h
          obtain rfl : w' = w := by
            rcases enterId_ok henter with ⟨-, hw⟩ | ⟨-, -, hw⟩ | ⟨i, w₁, hi, hne, -⟩
            · exact hw
            · exact hw
            · rcases hid with hnone | hsome
              · exact absurd (hi.symm.trans hnone) (by simp)
              · exact absurd (Option.some.inj (hi.symm.trans hsome)) hne
          exact Or.inr (Or.inr ⟨by simp, rfl, rfl, rfl, rfl, rfl⟩)
        next e w' henter =>
          cases h
          obtain rfl := enterId_err henter
          exact Or.inr (Or.inr ⟨by simp, rfl, rfl, rfl, rfl, rfl⟩)
        next => cases h
      next => cases h
  | checkFunds p =>
      have hstate := checkFunds_state d p.rpc p.height p.np p.address w
      simp only [stepClaim] at h
      split at h
      next w' hfunds =>
        cases h
        rw [hfunds] at hstate
        cases hstate
        exact Or.inr (Or.inr ⟨by simp, rfl, rfl, rfl, rfl, rfl⟩)
      next e w' hfunds =>
        cases h
        rw [hfunds] at hstate
        cases hstate
        exact Or.inr (Or.inr ⟨by simp, rfl, rfl, rfl, rfl, rfl⟩)
      next => cases h
  | setTx p => cases h; exact Or.inl ⟨p, rfl, rfl⟩
  | setExpiration p => cases h; exact Or.inr (Or.inl ⟨p, rfl, rfl⟩)
  | setAmount p => cases h; exact Or.inr (Or.inr ⟨by simp, rfl, rfl, rfl, rfl, rfl⟩)
  | result p =>
      simp only [stepClaim] at h
      split at h
      next v w' hamount =>
        cases h
        obtain ⟨rfl, -⟩ := amount_eq hamount
        exact Or.inr (Or.inr ⟨by simp, rfl, rfl, rfl, rfl, rfl⟩)
      next => cases h

/-- What the flush has read does not change with a claim that leaves the kept
transaction alone while the flush is in its window. -/
theorem Reads.of_eq (reads : r.Reads d) (hflush : r'.flush = r.flush)
    (htx : r.flush.inWindow = true → r'.world.tx = r.world.tx)
    (hprev : r'.world.prevFlushAmount = r.world.prevFlushAmount) : r'.Reads d := by
  obtain ⟨w, f, c, l⟩ := r
  obtain ⟨w', f', c', l'⟩ := r'
  cases hflush
  cases f with
  | copy np =>
      obtain ⟨tx, hkept, hnp⟩ := reads
      exact ⟨tx, (htx rfl).trans hkept, hnp⟩
  | sending np tx => exact ⟨(htx rfl).trans reads.1, reads.2⟩
  | clearTx np tx => exact ⟨(htx rfl).trans reads.1, reads.2⟩
  | done sent =>
      cases sent with
      | none => trivial
      | some tx =>
          obtain ⟨np, hnp, hamount⟩ := reads
          exact ⟨np, hnp, hprev.trans hamount⟩
  | _ => exact reads

/-- A claim that has just stored its transaction outside the window keeps it. -/
theorem kept_setTx {p : Pending} (hout : r.flush.inWindow = false)
    (htx : r.world.tx = some p.tx) (hclaim : r.claim = .setExpiration p) : r.Kept p := by
  obtain ⟨w, f, c, l⟩ := r
  have held : Race.Held ⟨w, f, c, l⟩ p := ⟨htx, Or.inl hclaim⟩
  cases f with
  | copy np => cases hout
  | sending np tx => cases hout
  | clearTx np tx => cases hout
  | clearExpiration np tx => exact Or.inr ⟨htx, hclaim⟩
  | setTime np tx => exact Or.inr held
  | setFlushAmount np tx => exact Or.inr held
  | done sent =>
      cases sent with
      | none => exact held
      | some tx => exact Or.inr held
  | _ => exact held

/-- A claim stays kept when what is held stays held and, after the clearing, its
expiration is not the next thing stored. -/
theorem Kept.of_held {p : Pending} (kept : r.Kept p) (hflush : r'.flush = r.flush)
    (hheld : r.Held p → r'.Held p)
    (hclear : ∀ np tx, r.flush = .clearExpiration np tx → r.world.tx = some p.tx →
      r.claim ≠ .setExpiration p) : r'.Kept p := by
  obtain ⟨w, f, c, l⟩ := r
  obtain ⟨w', f', c', l'⟩ := r'
  cases hflush
  cases f with
  | clearExpiration np tx =>
      rcases kept with hsent | ⟨htx, hclaim⟩
      · exact Or.inl hsent
      · exact absurd hclaim (hclear np tx rfl htx)
  | setTime np tx => exact kept.imp id hheld
  | setFlushAmount np tx => exact kept.imp id hheld
  | done sent =>
      cases sent with
      | none => exact hheld kept
      | some tx => exact kept.imp id hheld
  | _ => exact hheld kept

/-- A step of the claim keeps the invariant, outside the window. -/
theorem inv_stepClaim (inv : r.Inv d) (hout : OutsideWindow r .claim)
    (h : r.stepClaim d = some r') : r'.Inv d := by
  rcases stepClaim_cases h with
    ⟨p, hclaim, rfl⟩ | ⟨p, hclaim, rfl⟩ | ⟨hclaim, hcur, hflush, htx, hexp, hprev⟩
  · have hout' : r.flush.inWindow = false := by
      simpa only [OutsideWindow, hclaim, Outside] using hout
    refine ⟨inv.reads.of_eq rfl ?_ rfl, fun q hq => ?_⟩
    · intro hin
      exact absurd (hin.symm.trans hout') (by simp)
    · cases hq
      exact kept_setTx hout' rfl rfl
  · have hout' : r.flush.isClearing = true → r.world.tx ≠ some p.tx := by
      simpa only [OutsideWindow, hclaim, Outside] using hout
    refine ⟨inv.reads.of_eq rfl (fun _ => rfl) rfl, fun q hq => ?_⟩
    cases hq
    have kept : r.Kept p := inv.kept p (by rw [current, hclaim])
    refine kept.of_held rfl (fun held => ⟨held.1, Or.inr rfl⟩) ?_
    intro np tx hf hkept
    exact absurd hkept (hout' (by rw [hf]; rfl))
  · refine ⟨inv.reads.of_eq hflush (fun _ => htx) hprev, fun q hq => ?_⟩
    rw [hcur] at hq
    refine (inv.kept q hq).of_held hflush (fun held => ⟨htx.trans held.1, Or.inr ?_⟩) ?_
    · exact hexp.trans (held.2.resolve_left (hclaim q))
    · exact fun _ _ _ _ => hclaim q

/-- The start of a claim keeps the invariant. -/
theorem inv_stepCall {tx : Transaction} (inv : r.Inv d)
    (h : r.stepCall d rpc tx = some r') : r'.Inv d := by
  obtain ⟨w, f, c, l⟩ := r
  simp only [stepCall] at h
  split at h
  next =>
    cases h
    refine ⟨inv.reads, fun q hq => ?_⟩
    refine (inv.kept q hq).of_held rfl (fun held => ⟨held.1, Or.inr ?_⟩) ?_
    · exact held.2.resolve_left (by simp)
    · simp
  next => cases h; exact inv
  next => cases h

/-- One step keeps the invariant, outside the window. -/
theorem inv_step {e : Event} (inv : r.Inv d) (hout : OutsideWindow r e)
    (h : r.step d force e = some r') : r'.Inv d := by
  cases e with
  | flush rpc => exact inv_stepFlush inv h
  | call rpc tx => exact inv_stepCall inv h
  | claim => exact inv_stepClaim inv hout h

/-- When both sides have finished, the invariant is the property. -/
theorem Inv.noLostClaim (inv : r.Inv d) (hfin : r.Finished) : r.NoLostClaim d := by
  obtain ⟨w, f, c, l⟩ := r
  obtain ⟨reads, kept⟩ := inv
  obtain ⟨sent, rfl⟩ : ∃ sent, f = .done sent := FlushPc.of_isDone hfin.1
  obtain rfl : c = .idle := ClaimPc.of_isIdle hfin.2
  cases sent with
  | none =>
      refine ⟨fun p hp _ => ?_, fun tx htx => by cases htx⟩
      have held := kept p hp
      exact ⟨held.1, held.2.resolve_left (by simp)⟩
  | some tx =>
      refine ⟨fun p hp hne => ?_, fun tx' htx' => ?_⟩
      · rcases kept p hp with hsent | held
        · exact absurd (by rw [hsent]) hne
        · exact ⟨held.1, held.2.resolve_left (by simp)⟩
      · cases htx'
        exact reads

/-- In every interleaving of one flush with claims that never leave the current
id, none of which stores its transaction in the window of the flush, the last
claim is the one that was sent or it is kept with its expiration, and the flushed
amount is that of the transaction sent. -/
theorem claim_survives (d : Deps) (force : Bool) (w : World) (events : List Event) (r : Race)
    (hout : Run.Meets (step d force) OutsideWindow (Race.new w) events)
    (hrun : Run.runFrom (step d force) (Race.new w) events = some r) (hfin : r.Finished) :
    r.NoLostClaim d := by
  have start : (Race.new w).Inv d := ⟨trivial, fun p hp => by cases hp⟩
  have inv : r.Inv d :=
    Run.invariant_of_meets (fun _ _ _ inv hc hs => inv_step inv hc hs) start hout hrun
  exact inv.noLostClaim hfin

/-- A claimer that keeps a transaction over `10`. -/
def sampleKept : World :=
  (World.new (List.replicate 20 9) 0 0).committed (samplePay 1 10) (sampleTx 1 10)

/-- A claim over `20`, from its start to its end. -/
def sampleClaim : List Event :=
  .call sampleRpc (sampleTx 1 20) :: List.replicate 7 .claim

/-- A claim after the flush survives it. -/
theorem claim_after_flush :
    ∃ r, Run.runFrom (step sampleDeps true) (Race.new sampleKept)
        (List.replicate 9 (.flush sampleRpc) ++ sampleClaim) = some r ∧
      r.Finished ∧ r.NoLostClaim sampleDeps := by
  have hrun : (Run.runFrom (step sampleDeps true) (Race.new sampleKept)
      (List.replicate 9 (.flush sampleRpc) ++ sampleClaim)).map (fun r => decide r.Finished) =
        some true := by
    decide +kernel
  obtain ⟨r, hr, hfin⟩ := Option.map_eq_some_iff.mp hrun
  have hfin : r.Finished := of_decide_eq_true hfin
  exact ⟨r, hr, hfin, claim_survives _ _ _ _ r (by decide +kernel) hr hfin⟩

/-- A claim over `20` while the node is asked about the one over `10` is lost: the
flush clears it when the node answers. -/
theorem claim_during_send_lost :
    ∃ r, Run.runFrom (step sampleDeps true) (Race.new sampleKept)
        (List.replicate 4 (.flush sampleRpc) ++ sampleClaim ++
          List.replicate 5 (.flush sampleRpc)) = some r ∧
      r.Finished ∧ ¬ r.NoLostClaim sampleDeps := by
  have hrun : (Run.runFrom (step sampleDeps true) (Race.new sampleKept)
      (List.replicate 4 (.flush sampleRpc) ++ sampleClaim ++
        List.replicate 5 (.flush sampleRpc))).map
      (fun r => (decide r.Finished, r.lastOk.map Pending.tx, r.flush, r.world.tx)) =
        some (true, some (sampleTx 1 20), .done (some (sampleTx 1 10)), none) := by
    decide +kernel
  obtain ⟨r, hr, hend⟩ := Option.map_eq_some_iff.mp hrun
  simp only [Prod.mk.injEq] at hend
  obtain ⟨hfin, hlast, hsent, htx⟩ := hend
  refine ⟨r, hr, of_decide_eq_true hfin, ?_⟩
  intro hlost
  obtain ⟨p, hp, hptx⟩ := Option.map_eq_some_iff.mp hlast
  have hne : r.flush ≠ .done (some p.tx) := by
    rw [hsent, hptx]
    decide +kernel
  have hkept := (hlost.1 p hp hne).1
  rw [htx] at hkept
  cases hkept

/-! ## Each side alone -/

/-- The steps of the flush, with no claim in between, are those of `flush_fn`. -/
theorem flush_alone {w : World} (hstart : r.flush = .start)
    (h : flushFn d rpc force r.world = (.ok (), w)) :
    ∃ sent, Run.Repeats (step d force) (.flush rpc) r { r with world := w, flush := .done sent } := by
  obtain ⟨w₀, f, c, l⟩ := r
  cases hstart
  obtain ⟨below, w₁, hb, h₁⟩ := bind_eq_ok h
  obtain ⟨rfl, -⟩ := belowThreshold_eq hb (by simp)
  split at h₁
  next hbelow =>
    cases h₁
    refine ⟨none, Run.Repeats.head ?_ (Run.Repeats.refl ..)⟩
    simp only [step, stepFlush, hb, hbelow]
  next hbelow =>
    have hstart : step d force ⟨w₁, .start, c, l⟩ (.flush rpc) = some ⟨w₁, .test, c, l⟩ := by
      simp only [Bool.not_eq_true] at hbelow
      simp only [step, stepFlush, hb, hbelow]
    rw [get_bind_apply] at h₁
    split at h₁
    next hnone =>
      cases h₁
      refine ⟨none, Run.Repeats.head hstart (Run.Repeats.head ?_ (Run.Repeats.refl ..))⟩
      simp only [step, stepFlush, if_pos hnone]
    next hsome =>
      obtain ⟨np, w₂, hread, h₂⟩ := bind_eq_ok h₁
      obtain ⟨rfl, -⟩ := readStored_eq hread (by simp)
      obtain ⟨_, w₃, hsend, h₃⟩ := bind_eq_ok h₂
      unfold sendStored at hsend
      rw [get_bind_apply] at hsend
      obtain ⟨tx, htx, hsend₁⟩ := unwrap_bind_eq hsend (by simp)
      rcases ofExcept_bind_eq hsend₁ with ⟨e, -, herr, -⟩ | ⟨answer, hanswer, hsend₂⟩
      · cases herr
      · cases hsend₂
        cases h₃
        refine ⟨some tx, Run.Repeats.head hstart ?_⟩
        have htest : step d force ⟨w₂, .test, c, l⟩ (.flush rpc) = some ⟨w₂, .read, c, l⟩ := by
          simp only [step, stepFlush, if_neg hsome]
        have hcopied : step d force ⟨w₂, .read, c, l⟩ (.flush rpc) = some ⟨w₂, .copy np, c, l⟩ := by
          simp only [step, stepFlush, hread]
        have hsending : step d force ⟨w₂, .copy np, c, l⟩ (.flush rpc) =
            some ⟨w₂, .sending np tx, c, l⟩ := by
          simp only [step, stepFlush, htx, Option.map_some]
        refine Run.Repeats.head htest (Run.Repeats.head hcopied (Run.Repeats.head hsending ?_))
        refine Run.Repeats.head (by simp only [step, stepFlush, hanswer]; rfl) ?_
        exact Run.Repeats.head rfl (Run.Repeats.head rfl (Run.Repeats.head rfl
          (Run.Repeats.head rfl (Run.Repeats.refl ..))))

/-- The steps of an accepted claim, with no flush in between, are those of `claim`. -/
theorem claim_alone {tx : Transaction} {v : Int64} {w : World} (hidle : r.claim = .idle)
    (hid : ∀ np, d.nanoPay tx = some np → r.world.id = none ∨ r.world.id = some np.id)
    (h : Nanopay.claim d rpc tx r.world = (.ok v, w)) :
    ∃ r₁ p, step d force r (.call rpc tx) = some r₁ ∧ p.tx = tx ∧ d.nanoPay tx = some p.np ∧
      Run.Repeats (step d force) .claim r₁
        { r with world := w, claim := .idle, lastOk := some p } := by
  obtain ⟨w₀, f, c, l⟩ := r
  cases hidle
  obtain ⟨⟨height, np, address⟩, w₁, hread, h₁⟩ := bind_eq_ok h
  have hnp := readClaim_ok hread
  obtain rfl : w₁ = w₀ := by
    rw [← readClaim_state d rpc tx w₀, hread]
  let p : Pending := { rpc, height, np, address, tx }
  refine ⟨⟨w₁, f, .checkClosed p, l⟩, p, ?_, rfl, hnp, ?_⟩
  · simp only [step, stepCall, hread]
    rfl
  · simp only [get_bind_apply] at h₁
    split at h₁
    next => cases h₁
    next hopen =>
      obtain ⟨_, w₂, henter, h₂⟩ := bind_eq_ok h₁
      obtain ⟨_, w₃, hfunds, h₃⟩ := bind_eq_ok h₂
      obtain ⟨_, w₄, hcommit, h₄⟩ := bind_eq_ok h₃
      cases hcommit
      have hclosed : step d force ⟨w₁, f, .checkClosed p, l⟩ .claim =
          some ⟨w₁, f, .enterId p, l⟩ := by
        simp only [step, stepClaim, if_neg hopen]
      have hentered : step d force ⟨w₁, f, .enterId p, l⟩ .claim =
          some ⟨w₂, f, .checkFunds p, l⟩ := by
        simp only [step, stepClaim, if_pos (hid np hnp), p, henter]
      have hfunded : step d force ⟨w₂, f, .checkFunds p, l⟩ .claim =
          some ⟨w₃, f, .setTx p, l⟩ := by
        simp only [step, stepClaim, p, hfunds]
      refine Run.Repeats.head hclosed (Run.Repeats.head hentered (Run.Repeats.head hfunded ?_))
      refine Run.Repeats.head rfl (Run.Repeats.head rfl (Run.Repeats.head rfl ?_))
      refine Run.Repeats.head ?_ (Run.Repeats.refl ..)
      simp only [step, stepClaim]
      rw [h₄]

end Race

end NknSdk.Nanopay
