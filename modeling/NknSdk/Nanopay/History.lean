import NknSdk.Lib.Run
import NknSdk.Lib.Ledger
import NknSdk.Nanopay.Claimer

/-!
# Histories of a claimer

A history is a claimer together with the messages of the transactions it has
accepted.  Its calls are `claim` and `flush`, one at a time, each with the
answers of the node during that call.  A call that panics has no successor.

What the accepted messages are worth is `Ledger.total`: the amounts of one id
are cumulative, so each id counts with its largest.  `CountsOnce` says that the
amount the claimer reports is this total, and `Backed` that every amount it
counts is that of a transaction the network has taken or that is still kept.

The claimer knows only the current id.  It counts each id once as long as every
claim is for the current id or for one it has never accepted (`NoResume`), and
it stays backed as long as no claim makes it drop a kept transaction of another
id (`KeepsStored`).
-/

namespace NknSdk.Nanopay

open Exec

/-! ## Calls and histories -/

inductive Call where
  | claim (rpc : Rpc) (tx : Transaction)
  | flush (rpc : Rpc) (force : Bool)

structure History where
  world : World
  /-- The messages accepted so far, oldest first. -/
  accepted : List Pb.NanoPay
deriving DecidableEq, Repr

/-- The ledger entry of a message. -/
def entry (np : Pb.NanoPay) : UInt64 × Int := (np.id, np.amount.toInt)

namespace History

/-- A fresh claimer. -/
def new (recipientProgramHash : Bytes) (minFlushAmount : Int64) (now : Nat) : History :=
  { world := World.new recipientProgramHash minFlushAmount now, accepted := [] }

def entries (h : History) : List (UInt64 × Int) := h.accepted.map entry

/-- One call.  A claim that returns adds its message to the accepted ones. -/
def step (d : Deps) (h : History) : Call → Option History
  | .claim rpc tx =>
      match Nanopay.claim d rpc tx h.world with
      | (.ok _, w) => some { world := w, accepted := h.accepted ++ (d.nanoPay tx).toList }
      | (.err _, w) => some { h with world := w }
      | _ => none
  | .flush rpc force =>
      match Nanopay.flush d rpc force h.world with
      | (.ok _, w) => some { h with world := w }
      | (.err _, w) => some { h with world := w }
      | _ => none

/-- The reported amount is the worth of what was accepted. -/
def CountsOnce (d : Deps) (h : History) : Prop :=
  ∃ v, (amount d h.world).1 = .ok v ∧ v.toInt = Ledger.total h.entries

/-- The entries of the transactions that were sent, and of the kept one. -/
def backing (d : Deps) (w : World) : List (UInt64 × Int) :=
  (w.sent.filterMap d.nanoPay ++ (w.tx.bind d.nanoPay).toList).map entry

/-- The reported amount is the sum, over the accepted ids, of the largest amount
that is sent or kept, and no accepted amount is missing there. -/
def Backed (d : Deps) (h : History) : Prop :=
  (∃ v, (amount d h.world).1 = .ok v ∧
    v.toInt = ∑ i ∈ Ledger.accounts h.entries, Ledger.largest (backing d h.world) i) ∧
  ∀ i, Ledger.largest (backing d h.world) i = Ledger.largest h.entries i

end History

/-! ## Conditions on a call -/

/-- The amount of a claimed transaction is positive. -/
def Call.Positive (d : Deps) : Call → Prop
  | .claim _ tx => ∀ np ∈ d.nanoPay tx, 0 < np.amount.toInt
  | .flush _ _ => True

instance (d : Deps) : (call : Call) → Decidable (call.Positive d)
  | .claim _ tx => inferInstanceAs (Decidable (∀ np ∈ d.nanoPay tx, _))
  | .flush _ _ => inferInstanceAs (Decidable True)

/-- A claim is for the current id or for one that was never accepted, and its
amount leaves the total an `i64`. -/
def NoResume (d : Deps) (h : History) : Call → Prop
  | .claim _ tx => ∀ np ∈ d.nanoPay tx,
      (h.world.id = some np.id ∨ np.id ∉ Ledger.accounts h.entries) ∧
        Ledger.total (h.entries ++ [entry np]) < 2 ^ 63
  | .flush _ _ => True

instance (d : Deps) (h : History) : (call : Call) → Decidable (NoResume d h call)
  | .claim _ tx => inferInstanceAs (Decidable (∀ np ∈ d.nanoPay tx, _ ∧ _))
  | .flush _ _ => inferInstanceAs (Decidable True)

/-- A claim finds no kept transaction, or one of its own id, or the amount since
the last flush has reached the threshold so that giving up the id flushes it. -/
def KeepsStored (d : Deps) (h : History) : Call → Prop
  | .claim _ tx => ∀ np ∈ d.nanoPay tx,
      h.world.tx = none ∨ h.world.id = some np.id ∨
        (h.world.id ≠ none ∧
          h.world.minFlushAmount ≤ h.world.amount - h.world.prevFlushAmount)
  | .flush _ _ => True

instance (d : Deps) (h : History) : (call : Call) → Decidable (KeepsStored d h call)
  | .claim _ tx => inferInstanceAs (Decidable (∀ np ∈ d.nanoPay tx, _ ∨ _))
  | .flush _ _ => inferInstanceAs (Decidable True)

/-! ## What one call does to a history -/

section Steps

variable {d : Deps} {h h' : History} {rpc : Rpc}

/-- A claim is accepted, or it is refused and its message is not recorded. -/
theorem step_claim {tx : Transaction} (hs : h.step d (.claim rpc tx) = some h') :
    (∃ np w, d.nanoPay tx = some np ∧ enterId d rpc np h.world = (.ok (), w) ∧
        h' = { world := w.committed np tx, accepted := h.accepted ++ [np] }) ∨
      h' = h ∨
      ∃ np w, d.nanoPay tx = some np ∧ enterId d rpc np h.world = (.ok (), w) ∧
        h' = { h with world := w } := by
  simp only [History.step] at hs
  split at hs
  next v w hclaim =>
    cases hs
    obtain ⟨np, w', hnp, henter, rfl⟩ := claim_ok hclaim
    exact Or.inl ⟨np, w', hnp, henter, by rw [hnp]; rfl⟩
  next e w hclaim =>
    cases hs
    rcases claim_err hclaim with rfl | ⟨np, hnp, henter⟩
    · exact Or.inr (Or.inl rfl)
    · exact Or.inr (Or.inr ⟨np, w, hnp, henter, rfl⟩)
  next => cases hs

/-- A flush does nothing, or it sends the kept transaction. -/
theorem step_flush {force : Bool} (hs : h.step d (.flush rpc force) = some h') :
    h' = h ∨ ∃ tx np, h.world.tx = some tx ∧ d.nanoPay tx = some np ∧
      h' = { h with world := h.world.flushed tx np rpc.now } := by
  simp only [History.step] at hs
  split at hs
  next u w hflush =>
    cases hs
    rcases flushFn_cases hflush (by simp) with ⟨rfl, -⟩ | ⟨-, tx, np, htx, hnp, rfl⟩
    · exact Or.inl rfl
    · exact Or.inr ⟨tx, np, htx, hnp, rfl⟩
  next e w hflush =>
    cases hs
    rcases flushFn_cases hflush (by simp) with ⟨rfl, -⟩ | ⟨hok, -⟩
    · exact Or.inl rfl
    · cases hok
  next => cases hs

end Steps

/-! ## The books of a claimer -/

/-- What the counters of a claimer say about the entries it has accepted. -/
structure Books (w : World) (l : List (UInt64 × Int)) : Prop where
  total : w.prevClaimedAmount.toInt + w.amount.toInt = Ledger.total l
  prev_nonneg : 0 ≤ w.prevClaimedAmount.toInt
  fits : Ledger.total l < 2 ^ 63
  current : ∀ i, w.id = some i → w.amount.toInt = Ledger.largest l i
  idle : w.id = none → w.amount = 0

namespace Books

variable {w : World} {l : List (UInt64 × Int)}

theorem amount_nonneg (b : Books w l) : 0 ≤ w.amount.toInt := by
  cases hid : w.id with
  | none => rw [b.idle hid]; exact le_refl 0
  | some i => rw [b.current i hid]; exact Ledger.largest_nonneg l i

theorem sum_fits (b : Books w l) : FitsI64 (w.prevClaimedAmount.toInt + w.amount.toInt) := by
  have h₁ := b.prev_nonneg
  have h₂ := b.amount_nonneg
  have h₃ := b.fits
  rw [← b.total] at h₃
  constructor <;> omega

/-- The books do not depend on what a flush changes. -/
theorem flushed (b : Books w l) (tx : Transaction) (np : Pb.NanoPay) (now : Nat) :
    Books (w.flushed tx np now) l :=
  ⟨b.total, b.prev_nonneg, b.fits, b.current, b.idle⟩

/-- Giving up the current id moves its amount. -/
theorem switched (b : Books w l) : Books w.switched l where
  total := by
    show (w.prevClaimedAmount + w.amount).toInt + (0 : Int64).toInt = Ledger.total l
    rw [Int64.toInt_add_of_fits b.sum_fits, b.total]
    exact add_zero _
  prev_nonneg := by
    show 0 ≤ (w.prevClaimedAmount + w.amount).toInt
    rw [Int64.toInt_add_of_fits b.sum_fits]
    exact add_nonneg b.prev_nonneg b.amount_nonneg
  fits := b.fits
  current := by
    intro i hi
    cases hi
  idle := fun _ => rfl

/-- Accepting a message for an id that has reached the current amount. -/
theorem committed (b : Books w l) {np : Pb.NanoPay} (tx : Transaction)
    (hreached : Ledger.largest l np.id = w.amount.toInt)
    (hmore : w.amount.toInt < np.amount.toInt)
    (hfits : Ledger.total (l ++ [entry np]) < 2 ^ 63) :
    Books (w.committed np tx) (l ++ [entry np]) where
  total := by
    show w.prevClaimedAmount.toInt + np.amount.toInt = Ledger.total (l ++ [(np.id, np.amount.toInt)])
    rw [Ledger.total_concat, ← b.total, hreached, max_eq_right hmore.le]
    omega
  prev_nonneg := b.prev_nonneg
  fits := hfits
  current := by
    intro i hi
    obtain rfl : np.id = i := Option.some.inj hi
    have hpos : 0 ≤ np.amount.toInt := b.amount_nonneg.trans hmore.le
    show np.amount.toInt = Ledger.largest (l ++ [(np.id, np.amount.toInt)]) np.id
    rw [Ledger.largest_append, Ledger.largest_singleton, if_pos rfl, hreached,
      max_eq_left hpos, max_eq_right hmore.le]
  idle := by
    intro hi
    cases hi

/-- The books of a fresh claimer. -/
theorem new (hash : Bytes) (min : Int64) (now : Nat) : Books (World.new hash min now) [] where
  total := rfl
  prev_nonneg := le_refl 0
  fits := by rw [Ledger.total_nil]; decide
  current := by
    intro i hi
    cases hi
  idle := fun _ => rfl

/-- Entering an id keeps the books, and leaves a claimer at the new id's amount. -/
theorem enterId (b : Books w l) {d : Deps} {rpc : Rpc} {np : Pb.NanoPay} {w' : World}
    (h : Nanopay.enterId d rpc np w = (.ok (), w')) (hpos : 0 < np.amount.toInt)
    (hfresh : w.id = some np.id ∨ np.id ∉ Ledger.accounts l) :
    Books w' l ∧ Ledger.largest l np.id = w'.amount.toInt ∧ w'.amount.toInt < np.amount.toInt := by
  have hnew : w.id ≠ some np.id → Ledger.largest l np.id = 0 := fun hne =>
    Ledger.largest_eq_zero_of_notMem (hfresh.resolve_left hne)
  rcases enterId_ok h with ⟨hid, rfl⟩ | ⟨hid, hlt, rfl⟩ | ⟨i, w₁, hid, hne, hflush, rfl⟩
  · refine ⟨b, ?_, ?_⟩
    · rw [hnew (by rw [hid]; simp), b.idle hid]
      rfl
    · rw [b.idle hid]
      exact hpos
  · exact ⟨b, (b.current _ hid).symm, Int64.lt_iff_toInt_lt.mp hlt⟩
  · have b₁ : Books w₁ l := by
      rcases flushFn_cases hflush (by simp) with ⟨rfl, -⟩ | ⟨-, tx, np', -, -, rfl⟩
      · exact b
      · exact b.flushed tx np' rpc.now
    refine ⟨b₁.switched, ?_, hpos⟩
    refine hnew ?_
    rw [hid]
    exact fun h => hne (Option.some.inj h)

end Books

/-! ## Each id counts once -/

/-- One call keeps the books. -/
theorem books_step {d : Deps} {h h' : History} {call : Call}
    (b : Books h.world h.entries) (hpos : call.Positive d) (hcond : NoResume d h call)
    (hs : h.step d call = some h') : Books h'.world h'.entries := by
  cases call with
  | claim rpc tx =>
      rcases step_claim hs with ⟨np, w, hnp, henter, rfl⟩ | rfl | ⟨np, w, hnp, henter, rfl⟩
      · obtain ⟨hfresh, hfits⟩ := hcond np hnp
        obtain ⟨b₁, hreached, hmore⟩ := b.enterId henter (hpos np hnp) hfresh
        have b₂ := b₁.committed tx hreached hmore hfits
        simpa [History.entries] using b₂
      · exact b
      · exact (b.enterId henter (hpos np hnp) (hcond np hnp).1).1
  | flush rpc force =>
      rcases step_flush hs with rfl | ⟨tx, np, -, -, rfl⟩
      · exact b
      · exact b.flushed tx np rpc.now

/-- The reported amount is what the books say. -/
theorem Books.amount_eq {w : World} {l : List (UInt64 × Int)} (b : Books w l) (d : Deps) :
    ∃ v, (amount d w).1 = .ok v ∧ v.toInt = Ledger.total l := by
  refine ⟨w.prevClaimedAmount + w.amount, ?_, ?_⟩
  · rw [amount, get_bind_apply, addI64, arith_of_fits b.sum_fits]
    rfl
  · rw [Int64.toInt_add_of_fits b.sum_fits, b.total]

/-- In every run of calls in which each claim is for the current id or for one
never accepted before, the claimer reports the sum over the accepted ids of the
largest amount accepted for each. -/
theorem countsOnce_of_noResume (d : Deps) (recipientProgramHash : Bytes)
    (minFlushAmount : Int64) (now : Nat) (calls : List Call) (h : History)
    (hpos : ∀ call ∈ calls, call.Positive d)
    (hcond : Run.Meets (History.step d) (NoResume d)
      (History.new recipientProgramHash minFlushAmount now) calls)
    (hrun : Run.runFrom (History.step d)
      (History.new recipientProgramHash minFlushAmount now) calls = some h) :
    h.CountsOnce d := by
  have b : Books h.world h.entries :=
    Run.invariant_of_meets (I := fun h => Books h.world h.entries)
      (fun _ _ _ b hc hs => books_step b hc.1 hc.2 hs)
      (Books.new recipientProgramHash minFlushAmount now) (hcond.and hpos) hrun
  exact b.amount_eq d

theorem countsOnce_across_ids :
    ∃ h, Run.runFrom (History.step sampleDeps) (History.new (List.replicate 20 9) 0 0)
        [.claim sampleRpc (sampleTx 1 10), .claim sampleRpc (sampleTx 1 20),
          .flush sampleRpc true, .claim sampleRpc (sampleTx 2 5)] = some h ∧
      h.CountsOnce sampleDeps := by
  obtain ⟨h, hh⟩ := Option.isSome_iff_exists.mp
    (show (Run.runFrom (History.step sampleDeps) (History.new (List.replicate 20 9) 0 0)
      [.claim sampleRpc (sampleTx 1 10), .claim sampleRpc (sampleTx 1 20),
        .flush sampleRpc true, .claim sampleRpc (sampleTx 2 5)]).isSome = true by decide +kernel)
  exact ⟨h, hh, countsOnce_of_noResume _ _ _ _ _ h (by decide +kernel) (by decide +kernel) hh⟩

/-- A payer that goes back to an old id is counted twice: `10 + 5 + 20` is
reported for ids that have reached `20` and `5`. -/
theorem resumed_id_counted_twice :
    (∀ call ∈ [Call.claim sampleRpc (sampleTx 1 10), .claim sampleRpc (sampleTx 2 5),
        .claim sampleRpc (sampleTx 1 20)], call.Positive sampleDeps) ∧
      ∃ h, Run.runFrom (History.step sampleDeps) (History.new (List.replicate 20 9) 100 0)
          [.claim sampleRpc (sampleTx 1 10), .claim sampleRpc (sampleTx 2 5),
            .claim sampleRpc (sampleTx 1 20)] = some h ∧
        ¬ h.CountsOnce sampleDeps := by
  have hrun : (Run.runFrom (History.step sampleDeps) (History.new (List.replicate 20 9) 100 0)
      [.claim sampleRpc (sampleTx 1 10), .claim sampleRpc (sampleTx 2 5),
        .claim sampleRpc (sampleTx 1 20)]).map
      (fun h => ((amount sampleDeps h.world).1, Ledger.total h.entries)) = some (.ok 35, 25) := by
    decide +kernel
  obtain ⟨h, hh, hsum⟩ := Option.map_eq_some_iff.mp hrun
  refine ⟨by decide +kernel, h, hh, ?_⟩
  rintro ⟨v, hv, htotal⟩
  simp only [Prod.mk.injEq] at hsum
  rw [hsum.1] at hv
  rw [hsum.2] at htotal
  cases hv
  exact absurd htotal (by decide)

/-! ## Every counted amount is sent or kept -/

/-- What a claimer has sent and keeps covers the entries it has accepted. -/
structure Covers (d : Deps) (w : World) (l : List (UInt64 × Int)) : Prop where
  stored : ∀ tx, w.tx = some tx →
    ∃ np, d.nanoPay tx = some np ∧ w.id = some np.id ∧ w.amount = np.amount
  backed : ∀ i, Ledger.largest (History.backing d w) i = Ledger.largest l i

namespace Covers

variable {d : Deps} {w : World} {l : List (UInt64 × Int)}

theorem new (d : Deps) (hash : Bytes) (min : Int64) (now : Nat) :
    Covers d (World.new hash min now) [] where
  stored := by
    intro tx htx
    cases htx
  backed := fun _ => rfl

/-- Sending the kept transaction moves its entry. -/
theorem backing_flushed {tx : Transaction} {np : Pb.NanoPay} (htx : w.tx = some tx)
    (hnp : d.nanoPay tx = some np) (now : Nat) :
    History.backing d (w.flushed tx np now) = History.backing d w := by
  simp [History.backing, World.flushed, htx, hnp]

theorem flushed (c : Covers d w l) {tx : Transaction} {np : Pb.NanoPay} (htx : w.tx = some tx)
    (hnp : d.nanoPay tx = some np) (now : Nat) : Covers d (w.flushed tx np now) l where
  stored := by
    intro tx' htx'
    cases htx'
  backed := by
    intro i
    rw [backing_flushed htx hnp]
    exact c.backed i

theorem switched (c : Covers d w l) (htx : w.tx = none) : Covers d w.switched l where
  stored := by
    intro tx htx'
    exact absurd (htx.symm.trans htx') (by simp)
  backed := c.backed

/-- The entries of a claimer that has just accepted a message. -/
theorem backing_committed {np : Pb.NanoPay} {tx : Transaction} (hnp : d.nanoPay tx = some np) :
    History.backing d (w.committed np tx) =
      (w.sent.filterMap d.nanoPay).map entry ++ [entry np] := by
  simp [History.backing, World.committed, hnp]

/-- Accepting a message drops no entry but a smaller one of the same id. -/
theorem committed (c : Covers d w l) {np : Pb.NanoPay} {tx : Transaction}
    (hnp : d.nanoPay tx = some np) (hmore : w.amount.toInt < np.amount.toInt)
    (hsame : w.tx = none ∨ w.id = some np.id) :
    Covers d (w.committed np tx) (l ++ [entry np]) where
  stored := by
    intro tx' htx'
    cases htx'
    exact ⟨np, hnp, rfl, rfl⟩
  backed := by
    intro i
    have hold := c.backed i
    rw [backing_committed hnp, Ledger.largest_append, Ledger.largest_append, ← hold]
    cases htx : w.tx with
    | none => simp [History.backing, htx]
    | some tx₀ =>
        obtain ⟨np₀, hnp₀, hid₀, hamount⟩ := c.stored tx₀ htx
        have hid : np₀.id = np.id := by
          rcases hsame with h | h
          · exact absurd (h.symm.trans htx) (by simp)
          · exact Option.some.inj (hid₀.symm.trans h)
        have hle : Ledger.largest [entry np₀] i ≤ Ledger.largest [entry np] i := by
          rw [hamount] at hmore
          simp only [entry, Ledger.largest_singleton, hid]
          split
          · omega
          · exact le_refl 0
        have hbacking : History.backing d w =
            (w.sent.filterMap d.nanoPay).map entry ++ [entry np₀] := by
          simp [History.backing, htx, hnp₀]
        rw [hbacking, Ledger.largest_append, max_assoc, max_eq_right hle]

/-- Entering an id keeps the entries, if it does not leave a kept transaction. -/
theorem enterId (c : Covers d w l) {rpc : Rpc} {np : Pb.NanoPay} {w' : World}
    (h : Nanopay.enterId d rpc np w = (.ok (), w'))
    (hcond : w.tx = none ∨ w.id = some np.id ∨
      (w.id ≠ none ∧ w.minFlushAmount ≤ w.amount - w.prevFlushAmount)) :
    Covers d w' l ∧ (w'.tx = none ∨ w'.id = some np.id) := by
  rcases enterId_ok h with ⟨hid, rfl⟩ | ⟨hid, -, rfl⟩ | ⟨i, w₁, hid, hne, hflush, rfl⟩
  · refine ⟨c, Or.inl ?_⟩
    rcases hcond with htx | hsome | ⟨hsome, -⟩
    · exact htx
    · exact absurd (hid.symm.trans hsome) (by simp)
    · exact absurd hid hsome
  · exact ⟨c, Or.inr hid⟩
  · rcases flushFn_cases hflush (by simp) with ⟨rfl, hskip⟩ | ⟨-, tx, np', htx, hnp', rfl⟩
    · have htx : w₁.tx = none := by
        rcases hcond with htx | hsame | ⟨-, hreached⟩
        · exact htx
        · exact absurd (Option.some.inj (hid.symm.trans hsame)) hne
        · rcases hskip rfl with htx | hbelow
          · exact htx
          · exact absurd hbelow (Int64.not_lt.mpr hreached)
      exact ⟨c.switched htx, Or.inl htx⟩
    · exact ⟨(c.flushed htx hnp' rpc.now).switched rfl, Or.inl rfl⟩

end Covers

/-- One call keeps the books and what covers them. -/
theorem covers_step {d : Deps} {h h' : History} {call : Call}
    (b : Books h.world h.entries) (c : Covers d h.world h.entries) (hpos : call.Positive d)
    (hcond : NoResume d h call) (hkeep : KeepsStored d h call)
    (hs : h.step d call = some h') : Covers d h'.world h'.entries := by
  cases call with
  | claim rpc tx =>
      rcases step_claim hs with ⟨np, w, hnp, henter, rfl⟩ | rfl | ⟨np, w, hnp, henter, rfl⟩
      · obtain ⟨-, -, hmore⟩ := b.enterId henter (hpos np hnp) (hcond np hnp).1
        obtain ⟨c₁, hsame⟩ := c.enterId henter (hkeep np hnp)
        have c₂ := c₁.committed hnp hmore hsame
        simpa [History.entries] using c₂
      · exact c
      · exact (c.enterId henter (hkeep np hnp)).1
  | flush rpc force =>
      rcases step_flush hs with rfl | ⟨tx, np, htx, hnp, rfl⟩
      · exact c
      · exact c.flushed htx hnp rpc.now

/-- In every run in which moreover no claim for another id finds a kept
transaction that giving up the current id would not flush, every amount the
claimer counts is that of a transaction that was sent or is still kept. -/
theorem backed_of_keepsStored (d : Deps) (recipientProgramHash : Bytes)
    (minFlushAmount : Int64) (now : Nat) (calls : List Call) (h : History)
    (hpos : ∀ call ∈ calls, call.Positive d)
    (hcond : Run.Meets (History.step d) (fun h call => NoResume d h call ∧ KeepsStored d h call)
      (History.new recipientProgramHash minFlushAmount now) calls)
    (hrun : Run.runFrom (History.step d)
      (History.new recipientProgramHash minFlushAmount now) calls = some h) :
    h.Backed d := by
  obtain ⟨b, c⟩ : Books h.world h.entries ∧ Covers d h.world h.entries :=
    Run.invariant_of_meets (I := fun h => Books h.world h.entries ∧ Covers d h.world h.entries)
      (fun _ _ _ inv hc hs => ⟨books_step inv.1 hc.1 hc.2.1 hs,
        covers_step inv.1 inv.2 hc.1 hc.2.1 hc.2.2 hs⟩)
      ⟨Books.new recipientProgramHash minFlushAmount now,
        Covers.new d recipientProgramHash minFlushAmount now⟩ (hcond.and hpos) hrun
  obtain ⟨v, hv, htotal⟩ := b.amount_eq d
  refine ⟨⟨v, hv, ?_⟩, c.backed⟩
  rw [htotal]
  exact Finset.sum_congr rfl fun i _ => (c.backed i).symm

theorem backed_across_ids :
    ∃ h, Run.runFrom (History.step sampleDeps) (History.new (List.replicate 20 9) 10 0)
        [.claim sampleRpc (sampleTx 1 10), .claim sampleRpc (sampleTx 1 20),
          .claim sampleRpc (sampleTx 2 5)] = some h ∧
      h.Backed sampleDeps := by
  obtain ⟨h, hh⟩ := Option.isSome_iff_exists.mp
    (show (Run.runFrom (History.step sampleDeps) (History.new (List.replicate 20 9) 10 0)
      [.claim sampleRpc (sampleTx 1 10), .claim sampleRpc (sampleTx 1 20),
        .claim sampleRpc (sampleTx 2 5)]).isSome = true by decide +kernel)
  exact ⟨h, hh, backed_of_keepsStored _ _ _ _ _ h (by decide +kernel) (by decide +kernel) hh⟩

/-- Below the threshold a move to a new id drops the kept transaction: the
claimer reports `15` and the network can only ever see `5`. -/
theorem dropped_below_threshold :
    (∀ call ∈ [Call.claim sampleRpc (sampleTx 1 10), .claim sampleRpc (sampleTx 2 5)],
        call.Positive sampleDeps) ∧
      ∃ h, Run.runFrom (History.step sampleDeps) (History.new (List.replicate 20 9) 100 0)
          [.claim sampleRpc (sampleTx 1 10), .claim sampleRpc (sampleTx 2 5)] = some h ∧
        ¬ h.Backed sampleDeps := by
  have hrun : (Run.runFrom (History.step sampleDeps) (History.new (List.replicate 20 9) 100 0)
      [.claim sampleRpc (sampleTx 1 10), .claim sampleRpc (sampleTx 2 5)]).map
      (fun h => ((amount sampleDeps h.world).1,
        ∑ i ∈ Ledger.accounts h.entries,
          Ledger.largest (History.backing sampleDeps h.world) i)) = some (.ok 15, 5) := by
    decide +kernel
  obtain ⟨h, hh, hsum⟩ := Option.map_eq_some_iff.mp hrun
  refine ⟨by decide +kernel, h, hh, ?_⟩
  rintro ⟨⟨v, hv, hbacked⟩, -⟩
  simp only [Prod.mk.injEq] at hsum
  rw [hsum.1] at hv
  rw [hsum.2] at hbacked
  cases hv
  exact absurd hbacked (by decide)

end NknSdk.Nanopay
