import NknSdk.Lib.Machine
import NknSdk.Session.Connection
import NknSdk.Utils.SeqOrder
import Mathlib.Data.List.SplitBy
import Mathlib.Tactic

/-!
# Batches of acks

The loop of `send_ack` in `src/connection.rs` that empties the queue of a connection
into ranges.  It pops a number, goes on as long as the next one to be popped is the
one after, and stops when the queue is empty *and* there are as many ranges as fit.

`ackRuns` is the queue in the order in which it is popped, split where a number does
not follow the one before.  The ranges are these runs, and the loop pops an empty
queue when there are fewer of them than fit (`collect_eq`).  Since the queue gives the
largest number first, the runs are single numbers for what a peer sends in order
(`first_range_iff`).
-/

namespace NknSdk.Ncp

open Exec

/-! ## The loop -/

/-- The connection with another queue. -/
def Connection.setAckQueue (conn : Connection) (queue : List UInt32) : Connection :=
  { conn with sendAckQueue := queue }

@[simp] theorem Connection.sendAckQueue_setAckQueue (conn : Connection) (queue : List UInt32) :
    (conn.setAckQueue queue).sendAckQueue = queue := rfl

@[simp] theorem Connection.setAckQueue_setAckQueue (conn : Connection) (queue rest : List UInt32) :
    (conn.setAckQueue queue).setAckQueue rest = conn.setAckQueue rest := rfl

theorem Connection.setAckQueue_self (conn : Connection) :
    conn.setAckQueue conn.sendAckQueue = conn := rfl

/-- `pop` of the queue. -/
def popAck : Exec NcpError Connection (Option UInt32) := do
  let conn ← get
  match Heap.pop Connection.seqElemLe conn.sendAckQueue with
  | none => return none
  | some (seq, queue) =>
      modify fun conn => conn.setAckQueue queue
      return some seq

/-- The inner loop: the numbers after `start` that are popped next. -/
def coalesce (o : Overflow) (start : UInt32) : Nat → UInt32 → Exec NcpError Connection UInt32
  | 0, _ => block
  | fuel + 1, count => do
      let conn ← get
      match conn.sendAckQueue.head? with
      | none => return count
      | some seq =>
          if seq = nextSeq start count.toNat then
            let _ ← popAck
            let count ← addU32 o count 1
            coalesce o start fuel count
          else return count

/-- One round of the loop: a range. -/
def collectRange (o : Overflow) : Exec NcpError Connection (UInt32 × UInt32) := do
  let seq ← popAck
  let start ← unwrap seq
  let conn ← get
  let count ← coalesce o start (conn.sendAckQueue.length + 1) 1
  return (start, count)

def collectRanges (o : Overflow) (maxAskSeqListSize : Nat) :
    Nat → List UInt32 → List UInt32 → Exec NcpError Connection (List UInt32 × List UInt32)
  | 0, _, _ => block
  | fuel + 1, starts, counts => do
      let conn ← get
      if conn.sendAckQueue.length = 0 ∧ maxAskSeqListSize ≤ starts.length then
        return (starts, counts)
      else
        let (start, count) ← collectRange o
        collectRanges o maxAskSeqListSize fuel (starts ++ [start]) (counts ++ [count])

/-- The collecting loop of `send_ack`, which pops a number in every round. -/
def collect (o : Overflow) (maxAskSeqListSize : Nat) :
    Exec NcpError Connection (List UInt32 × List UInt32) := do
  let conn ← get
  collectRanges o maxAskSeqListSize (conn.sendAckQueue.length + 1) [] []

/-! ## The ranges that are there -/

/-- The numbers of a range. -/
def rangeIds (range : UInt32 × UInt32) : List UInt32 :=
  (List.range range.2.toNat).map fun k : Nat => nextSeq range.1 k

/-- How many of the numbers go on a run from `start` that has `count` numbers. -/
def runTail (start : UInt32) : Nat → List UInt32 → Nat
  | _, [] => 0
  | count, seq :: seqs =>
      if seq = nextSeq start count then runTail start (count + 1) seqs + 1 else 0

/-- The runs of numbers that follow each other. -/
def runsOf (seqs : List UInt32) : List (List UInt32) :=
  seqs.splitBy fun a b => b == nextSeq a 1

/-- The runs in the order in which the queue gives its numbers. -/
def ackRuns (queue : List UInt32) : List (List UInt32) :=
  runsOf (Heap.popOrder Connection.seqElemLe queue)

theorem length_rangeIds (range : UInt32 × UInt32) : (rangeIds range).length = range.2.toNat := by
  rw [rangeIds, List.length_map, List.length_range]

theorem ne_zero_of_mem_rangeIds {range : UInt32 × UInt32} {seq : UInt32}
    (h : seq ∈ rangeIds range) : seq ≠ 0 := by
  obtain ⟨k, -, rfl⟩ := List.mem_map.mp h
  exact nextSeq_ne_zero range.1 k

theorem runTail_le (start : UInt32) (count : Nat) (seqs : List UInt32) :
    runTail start count seqs ≤ seqs.length := by
  induction seqs generalizing count with
  | nil => exact Nat.le_refl 0
  | cons seq seqs ih =>
      rw [runTail]
      split
      next => exact Nat.succ_le_succ (ih (count + 1))
      next => exact Nat.zero_le _

theorem take_runTail (start : UInt32) (count : Nat) (seqs : List UInt32) :
    seqs.take (runTail start count seqs) =
      (List.range (runTail start count seqs)).map fun k => nextSeq start (count + k : Nat) := by
  induction seqs generalizing count with
  | nil => rfl
  | cons seq seqs ih =>
      rw [runTail]
      split
      next heq =>
        rw [List.take_succ_cons, ih, List.range_succ_eq_map, List.map_cons, List.map_map]
        refine congrArg₂ List.cons heq (List.map_congr_left fun k _ => ?_)
        rw [Function.comp_apply, Nat.succ_eq_add_one]
        congr 2
        omega
      next => rfl

theorem head_drop_runTail (start : UInt32) (count : Nat) (seqs : List UInt32) :
    ∀ seq ∈ (seqs.drop (runTail start count seqs)).head?,
      seq ≠ nextSeq start (count + runTail start count seqs : Nat) := by
  induction seqs generalizing count with
  | nil => nofun
  | cons seq seqs ih =>
      rw [runTail]
      split
      next heq =>
        rw [List.drop_succ_cons]
        intro v hv
        have := ih (count + 1) v hv
        rwa [show count + 1 + runTail start (count + 1) seqs =
          count + (runTail start (count + 1) seqs + 1) by omega] at this
      next hne =>
        intro v hv
        cases hv
        exact hne

/-- The numbers from `start` on follow each other. -/
theorem isChain_nextSeq (start : UInt32) (count : Nat) :
    ((List.range count).map fun k => nextSeq start (k : Nat)).IsChain
      fun a b => (b == nextSeq a 1) = true := by
  rw [List.isChain_map, List.isChain_iff_getElem]
  intro i hi
  rw [List.getElem_range, List.getElem_range, beq_iff_eq]
  rw [nextSeq_nextSeq, Int.natCast_succ]

theorem cons_take_runTail {start : UInt32} (hstart : start ≠ 0) (seqs : List UInt32) :
    start :: seqs.take (runTail start 1 seqs) =
      (List.range (runTail start 1 seqs + 1)).map fun k => nextSeq start (k : Nat) := by
  rw [List.range_succ_eq_map, List.map_cons, nextSeq_zero hstart, List.map_map, take_runTail]
  refine congrArg (List.cons start) (List.map_congr_left fun k _ => ?_)
  rw [Function.comp_apply, Nat.succ_eq_add_one, Nat.add_comm]

/-- The first run, and the others. -/
theorem runsOf_cons {start : UInt32} (hstart : start ≠ 0) (seqs : List UInt32) :
    runsOf (start :: seqs) =
      (start :: seqs.take (runTail start 1 seqs)) :: runsOf (seqs.drop (runTail start 1 seqs)) := by
  have hrun := cons_take_runTail hstart seqs
  have hsplit : start :: seqs =
      (start :: seqs.take (runTail start 1 seqs)) ++ seqs.drop (runTail start 1 seqs) := by
    rw [List.cons_append, List.take_append_drop]
  have hlast : ∀ a ∈ (start :: seqs.take (runTail start 1 seqs)).getLast?,
      ∀ b ∈ (seqs.drop (runTail start 1 seqs)).head?, (b == nextSeq a 1) = false := by
    intro a ha b hb
    rw [hrun, List.range_succ, List.map_append, List.map_singleton, List.getLast?_concat] at ha
    cases ha
    have hne := head_drop_runTail start 1 seqs b hb
    rw [beq_eq_false_iff_ne, nextSeq_nextSeq, ← Int.natCast_succ]
    rwa [Nat.add_comm] at hne
  conv_lhs => rw [runsOf, hsplit, List.splitBy_append hlast]
  rw [List.splitBy_of_isChain (List.cons_ne_nil _ _), List.singleton_append, runsOf]
  rw [hrun]
  exact isChain_nextSeq start _

/-! ## One range -/

/-- The numbers of the queue in the order in which they are popped. -/
def Connection.ackOrder (conn : Connection) : List UInt32 :=
  Heap.popOrder Connection.seqElemLe conn.sendAckQueue

section

variable {o : Overflow} {conn conn' : Connection} {start seq : UInt32} {order : List UInt32}

/-- The first number in the order of the queue is the one that is peeked at and popped. -/
theorem popAck_cons (h : conn.ackOrder = seq :: order) :
    conn.sendAckQueue.head? = some seq ∧ ∃ queue, popAck conn = (.ok (some seq), conn.setAckQueue queue) ∧
      (conn.setAckQueue queue).ackOrder = order ∧ conn.sendAckQueue.length = queue.length + 1 := by
  cases hqueue : conn.sendAckQueue with
  | nil => rw [Connection.ackOrder, hqueue, Heap.popOrder_nil] at h; cases h
  | cons top rest =>
      obtain ⟨queue, hpop, -⟩ := Heap.pop_cons Connection.seqElemLe top rest
      rw [Connection.ackOrder, hqueue, Heap.popOrder_of_pop hpop] at h
      cases h
      refine ⟨rfl, queue, ?_, rfl, Heap.length_pop hpop⟩
      rw [popAck, get_bind_apply, hqueue, hpop]
      rfl

theorem ackOrder_eq_nil (h : conn.ackOrder = []) : conn.sendAckQueue = [] := by
  have hperm := Heap.popOrder_perm Connection.seqElemLe conn.sendAckQueue
  rw [show Heap.popOrder Connection.seqElemLe conn.sendAckQueue = [] from h] at hperm
  exact hperm.symm.eq_nil

theorem popAck_nil (h : conn.ackOrder = []) :
    conn.sendAckQueue.head? = none ∧ popAck conn = (.ok none, conn) := by
  have hnil := ackOrder_eq_nil h
  refine ⟨by rw [hnil]; rfl, ?_⟩
  rw [popAck, get_bind_apply, hnil, Heap.pop_nil]
  rfl

/-- The inner loop pops the run of the next numbers, as long as their count fits. -/
theorem coalesce_eq {fuel n : Nat} {count : UInt32} (hfuel : order.length < fuel)
    (horder : conn.ackOrder = order) (hcount : count.toNat = n)
    (hfits : n + runTail start n order < 2 ^ 32) :
    ∃ c queue, coalesce o start fuel count conn = (.ok c, conn.setAckQueue queue) ∧
      c.toNat = n + runTail start n order ∧
      (conn.setAckQueue queue).ackOrder = order.drop (runTail start n order) := by
  induction fuel generalizing conn order n count with
  | zero => exact absurd hfuel (Nat.not_lt_zero _)
  | succ fuel ih =>
      have hstop : runTail start n order = 0 → coalesce o start (fuel + 1) count conn = (.ok count, conn) →
          ∃ c queue, coalesce o start (fuel + 1) count conn = (.ok c, conn.setAckQueue queue) ∧
            c.toNat = n + runTail start n order ∧
            (conn.setAckQueue queue).ackOrder = order.drop (runTail start n order) := by
        intro hzero hrun
        rw [hzero]
        exact ⟨count, conn.sendAckQueue, hrun, hcount, horder⟩
      cases order with
      | nil =>
          refine hstop rfl ?_
          rw [coalesce, get_bind_apply, (popAck_nil horder).1]
          rfl
      | cons seq order =>
          obtain ⟨hhead, queue, hpop, hrest, -⟩ := popAck_cons horder
          by_cases heq : seq = nextSeq start n
          · rw [runTail, if_pos heq] at hfits ⊢
            have hfits' : count.toNat + (1 : UInt32).toNat < 2 ^ 32 := by
              rw [hcount, UInt32.toNat_one]
              omega
            have hnext : (count + 1).toNat = n + 1 := by
              rw [UInt32.toNat_add_of_lt hfits', hcount, UInt32.toNat_one]
            obtain ⟨c, rest, hrun, hc, hdrop⟩ :=
              ih (Nat.lt_of_succ_lt_succ hfuel) hrest hnext (by omega)
            refine ⟨c, rest, ?_, by omega, hdrop⟩
            rw [coalesce, get_bind_apply, hhead]
            dsimp only
            rw [hcount, if_pos heq, bind_ok hpop, addU32, arith_of_fits hfits', Exec.pure_bind]
            exact hrun
          · refine hstop (by rw [runTail, if_neg heq]) ?_
            rw [coalesce, get_bind_apply, hhead]
            dsimp only
            rw [hcount, if_neg heq]
            rfl

/-- Where the inner loop returns, it has popped what it has counted, or its count has
wrapped around. -/
theorem coalesce_le {fuel n : Nat} {count c : UInt32} (horder : conn.ackOrder = order)
    (hcount : count.toNat = n) (h : coalesce o start fuel count conn = (.ok c, conn')) :
    c.toNat + conn'.sendAckQueue.length ≤ n + conn.sendAckQueue.length ∧
      (c.toNat + conn'.sendAckQueue.length = n + conn.sendAckQueue.length →
        n + runTail start n order < 2 ^ 32) := by
  induction fuel generalizing conn order n count with
  | zero => cases h
  | succ fuel ih =>
      rw [coalesce, get_bind_apply] at h
      cases order with
      | nil =>
          rw [(popAck_nil horder).1] at h
          have hlt := count.toNat_lt
          cases h
          refine ⟨by rw [hcount], fun _ => ?_⟩
          rw [runTail]
          omega
      | cons seq order =>
          obtain ⟨hhead, queue, hpop, hrest, hlen⟩ := popAck_cons horder
          rw [hhead] at h
          dsimp only at h
          rw [hcount] at h
          by_cases heq : seq = nextSeq start n
          · rw [if_pos heq, bind_ok hpop, addU32] at h
            obtain ⟨hfits, hrun⟩ := arith_bind_eq h (by intro hpanic; cases hpanic)
            rw [UInt32.toNat_one, hcount] at hfits
            rw [runTail, if_pos heq]
            by_cases hwrap : n + 1 < 2 ^ 32
            · have hnext : (count + 1).toNat = n + 1 := by
                rw [UInt32.toNat_add_of_lt (by rw [hcount, UInt32.toNat_one]; exact hwrap), hcount,
                  UInt32.toNat_one]
              obtain ⟨hle, hall⟩ := ih hrest hnext hrun
              rw [Connection.sendAckQueue_setAckQueue] at hle hall
              exact ⟨by omega, fun heq' => by have := hall (by omega); omega⟩
            · have hnext : (count + 1).toNat = 0 := by
                rw [UInt32.toNat_add, hcount, UInt32.toNat_one]
                have := count.toNat_lt
                omega
              obtain ⟨hle, -⟩ := ih hrest hnext hrun
              rw [Connection.sendAckQueue_setAckQueue] at hle
              exact ⟨by omega, fun heq' => by omega⟩
          · rw [if_neg heq] at h
            have hlt := count.toNat_lt
            cases h
            refine ⟨by rw [hcount], fun _ => ?_⟩
            rw [runTail, if_neg heq]
            omega

theorem length_ackOrder (conn : Connection) : conn.ackOrder.length = conn.sendAckQueue.length :=
  (Heap.popOrder_perm Connection.seqElemLe conn.sendAckQueue).length_eq

theorem collectRange_nil (h : conn.ackOrder = []) : collectRange o conn = (.panic, conn) := by
  rw [collectRange, bind_ok (popAck_nil h).2]
  rfl

theorem collectRange_eq (horder : conn.ackOrder = start :: order)
    (hfits : 1 + runTail start 1 order < 2 ^ 32) :
    ∃ c queue, collectRange o conn = (.ok (start, c), conn.setAckQueue queue) ∧
      c.toNat = 1 + runTail start 1 order ∧
      (conn.setAckQueue queue).ackOrder = order.drop (runTail start 1 order) := by
  obtain ⟨-, queue, hpop, hrest, -⟩ := popAck_cons horder
  have hfuel : order.length < (conn.setAckQueue queue).sendAckQueue.length + 1 := by
    rw [← length_ackOrder, hrest]
    exact Nat.lt_succ_self _
  obtain ⟨c, rest, hrun, hc, hdrop⟩ :=
    coalesce_eq (o := o) hfuel hrest UInt32.toNat_one hfits
  refine ⟨c, rest, ?_, hc, hdrop⟩
  rw [collectRange, bind_ok hpop, unwrap_some, Exec.pure_bind, get_bind_apply, bind_ok hrun]
  rfl

theorem collectRange_le {range : UInt32 × UInt32} (horder : conn.ackOrder = start :: order)
    (h : collectRange o conn = (.ok range, conn')) :
    range.1 = start ∧ range.2.toNat + conn'.sendAckQueue.length ≤ conn.sendAckQueue.length ∧
      (range.2.toNat + conn'.sendAckQueue.length = conn.sendAckQueue.length →
        1 + runTail start 1 order < 2 ^ 32) := by
  obtain ⟨-, queue, hpop, hrest, hlen⟩ := popAck_cons horder
  rw [collectRange, bind_ok hpop, unwrap_some, Exec.pure_bind, get_bind_apply] at h
  obtain ⟨c, conn₁, hrun, hret⟩ := bind_eq_ok h
  cases hret
  obtain ⟨hle, hall⟩ := coalesce_le hrest UInt32.toNat_one hrun
  rw [Connection.sendAckQueue_setAckQueue] at hle hall
  dsimp only
  exact ⟨rfl, by omega, fun heq => hall (by omega)⟩

end

/-! ## The whole loop -/

section

variable {o : Overflow} {maxAskSeqListSize : Nat} {conn conn' : Connection} {order : List UInt32}

theorem length_run (start : UInt32) (order : List UInt32) :
    (start :: order.take (runTail start 1 order)).length = 1 + runTail start 1 order := by
  rw [List.length_cons, List.length_take_of_le (runTail_le start 1 order), Nat.add_comm]

theorem rangeIds_run {start c : UInt32} (hstart : start ≠ 0) (hc : c.toNat = 1 + runTail start 1 order) :
    rangeIds (start, c) = start :: order.take (runTail start 1 order) := by
  rw [cons_take_runTail hstart, rangeIds, hc, Nat.add_comm]

/-- The ranges are the runs, and the loop returns them if there are enough of them. -/
theorem collectRanges_eq (maxAskSeqListSize : Nat) {fuel : Nat} (starts counts : List UInt32) (hfuel : order.length < fuel)
    (horder : conn.ackOrder = order) (hzero : 0 ∉ order)
    (hfits : ∀ run ∈ runsOf order, run.length < 2 ^ 32) :
    ∃ S C : List UInt32, S.length = (runsOf order).length ∧ C.length = S.length ∧
      (∀ c ∈ C, 1 ≤ c.toNat) ∧ (S.zip C).flatMap rangeIds = order ∧
      collectRanges o maxAskSeqListSize fuel starts counts conn =
        if maxAskSeqListSize ≤ starts.length + S.length then
          (.ok (starts ++ S, counts ++ C), conn.setAckQueue [])
        else (.panic, conn.setAckQueue []) := by
  induction fuel generalizing conn order starts counts with
  | zero => exact absurd hfuel (Nat.not_lt_zero _)
  | succ fuel ih =>
      cases order with
      | nil =>
          have hnil := ackOrder_eq_nil horder
          have hself : conn.setAckQueue [] = conn := hnil ▸ conn.setAckQueue_self
          refine ⟨[], [], rfl, rfl, nofun, rfl, ?_⟩
          rw [collectRanges, get_bind_apply, hself]
          by_cases hmax : maxAskSeqListSize ≤ starts.length
          · rw [if_pos ⟨by rw [hnil]; rfl, hmax⟩, if_pos (by exact hmax), List.append_nil,
              List.append_nil]
            rfl
          · rw [if_neg fun h => hmax h.2, if_neg (by exact hmax), bind_panic (collectRange_nil horder)]
      | cons start order =>
          have hstart : start ≠ 0 := fun h => hzero (h ▸ List.mem_cons_self)
          rw [runsOf_cons hstart] at hfits ⊢
          obtain ⟨hrun, hrest⟩ := List.forall_mem_cons.mp hfits
          rw [length_run] at hrun
          obtain ⟨c, queue, hrange, hc, hdrop⟩ := collectRange_eq (o := o) horder hrun
          have hshort : (order.drop (runTail start 1 order)).length < fuel := by
            rw [List.length_drop]
            rw [List.length_cons] at hfuel
            omega
          have hzero' : 0 ∉ order.drop (runTail start 1 order) := fun h =>
            hzero (List.mem_cons_of_mem _ (List.mem_of_mem_drop h))
          obtain ⟨S, C, hS, hC, hpos, hids, hloop⟩ :=
            ih (starts ++ [start]) (counts ++ [c]) hshort hdrop hzero' hrest
          refine ⟨start :: S, c :: C, ?_, ?_, ?_, ?_, ?_⟩
          · rw [List.length_cons, List.length_cons, hS]
          · rw [List.length_cons, List.length_cons, hC]
          · exact List.forall_mem_cons.mpr ⟨by omega, hpos⟩
          · rw [List.zip_cons_cons, List.flatMap_cons, hids, rangeIds_run hstart hc,
              List.cons_append, List.take_append_drop]
          · have hne : conn.sendAckQueue.length ≠ 0 := by
              rw [← length_ackOrder, horder]
              exact Nat.succ_ne_zero _
            rw [collectRanges, get_bind_apply, if_neg fun h => hne h.1, bind_ok hrange]
            dsimp only
            rw [hloop, List.length_append, List.length_singleton, List.length_cons, List.append_assoc,
              List.append_assoc, Connection.setAckQueue_setAckQueue, List.singleton_append,
              List.singleton_append, Nat.add_assoc, Nat.add_comm 1]

/-- Where the loop returns, it has emptied the queue. -/
theorem collectRanges_empty {fuel : Nat} {starts counts S C : List UInt32}
    (h : collectRanges o maxAskSeqListSize fuel starts counts conn = (.ok (S, C), conn')) :
    conn'.sendAckQueue = [] := by
  induction fuel generalizing conn starts counts with
  | zero => cases h
  | succ fuel ih =>
      rw [collectRanges, get_bind_apply] at h
      split at h
      next hdone =>
        cases h
        exact List.length_eq_zero_iff.mp hdone.1
      next =>
        obtain ⟨range, conn₁, -, hrest⟩ := bind_eq_ok h
        exact ih hrest

theorem sum_concat (counts : List UInt32) (c : UInt32) :
    ((counts ++ [c]).map UInt32.toNat).sum = (counts.map UInt32.toNat).sum + c.toNat := by
  rw [List.map_append, List.sum_append, List.map_singleton, List.sum_singleton]

/-- Where the loop returns, its counts are at most what there was. -/
theorem collectRanges_le {fuel : Nat} {starts counts S C : List UInt32}
    (h : collectRanges o maxAskSeqListSize fuel starts counts conn = (.ok (S, C), conn')) :
    (C.map UInt32.toNat).sum ≤ (counts.map UInt32.toNat).sum + conn.sendAckQueue.length := by
  induction fuel generalizing conn starts counts with
  | zero => cases h
  | succ fuel ih =>
      rw [collectRanges, get_bind_apply] at h
      split at h
      next =>
        cases h
        exact Nat.le_add_right _ _
      next =>
        obtain ⟨range, conn₁, hrange, hrest⟩ := bind_eq_ok h
        have hsum := ih hrest
        cases horder : conn.ackOrder with
        | nil =>
            rw [collectRange_nil horder] at hrange
            cases hrange
        | cons start order =>
            obtain ⟨-, hle, -⟩ := collectRange_le horder hrange
            rw [sum_concat] at hsum
            omega

/-- Where the loop returns and its counts are all that there was, no count has wrapped around. -/
theorem collectRanges_fits {fuel : Nat} {starts counts S C : List UInt32}
    (horder : conn.ackOrder = order) (hzero : 0 ∉ order)
    (h : collectRanges o maxAskSeqListSize fuel starts counts conn = (.ok (S, C), conn'))
    (hall : (C.map UInt32.toNat).sum = (counts.map UInt32.toNat).sum + conn.sendAckQueue.length) :
    ∀ run ∈ runsOf order, run.length < 2 ^ 32 := by
  induction fuel generalizing conn order starts counts with
  | zero => cases h
  | succ fuel ih =>
      cases order with
      | nil => nofun
      | cons start order =>
          have hne : conn.sendAckQueue.length ≠ 0 := by
            rw [← length_ackOrder, horder]
            exact Nat.succ_ne_zero _
          rw [collectRanges, get_bind_apply, if_neg fun h => hne h.1] at h
          obtain ⟨range, conn₁, hrange, hrest⟩ := bind_eq_ok h
          obtain ⟨-, hle, hfits⟩ := collectRange_le horder hrange
          have hsum := collectRanges_le hrest
          rw [sum_concat] at hsum
          have hrun := hfits (by omega)
          obtain ⟨c, queue, hrange', -, hdrop⟩ := collectRange_eq (o := o) horder hrun
          cases hrange.symm.trans hrange'
          have hstart : start ≠ 0 := fun h => hzero (h ▸ List.mem_cons_self)
          have hzero' : 0 ∉ order.drop (runTail start 1 order) := fun h =>
            hzero (List.mem_cons_of_mem _ (List.mem_of_mem_drop h))
          rw [runsOf_cons hstart]
          refine List.forall_mem_cons.mpr ⟨?_, ih hdrop hzero' hrest ?_⟩
          · rw [length_run]
            exact hrun
          · rw [sum_concat]
            dsimp only at hle hsum ⊢
            omega

end

/-! ## When the loop is safe and loses nothing -/

/-- The loop returns some ranges, as many as fit at most, and these with what is left in the
queue are what was there before. -/
def CollectsSafely (o : Overflow) (maxAskSeqListSize : Nat) (conn : Connection) : Prop :=
  ∃ starts counts conn', collect o maxAskSeqListSize conn = (.ok (starts, counts), conn') ∧
    counts.length = starts.length ∧ 1 ≤ starts.length ∧ starts.length ≤ maxAskSeqListSize ∧
    (∀ count ∈ counts, 1 ≤ count.toNat) ∧
    ((starts.zip counts).flatMap rangeIds ++ conn'.sendAckQueue).Perm conn.sendAckQueue

section

variable {o : Overflow} {maxAskSeqListSize : Nat} {conn : Connection}

theorem length_flatMap_rangeIds {starts counts : List UInt32} (h : counts.length = starts.length) :
    ((starts.zip counts).flatMap rangeIds).length = (counts.map UInt32.toNat).sum := by
  conv_rhs => rw [← List.map_snd_zip (Nat.le_of_eq h), List.map_map]
  rw [List.length_flatMap]
  refine congrArg List.sum (List.map_congr_left fun range _ => ?_)
  exact length_rangeIds range

/-- The loop of a queue without `0`, which no range can hold, whose runs are not too long. -/
theorem collect_eq (o : Overflow) (maxAskSeqListSize : Nat) (hzero : 0 ∉ conn.sendAckQueue)
    (hfits : ∀ run ∈ ackRuns conn.sendAckQueue, run.length < 2 ^ 32) :
    ∃ S C : List UInt32, S.length = (ackRuns conn.sendAckQueue).length ∧ C.length = S.length ∧
      (∀ c ∈ C, 1 ≤ c.toNat) ∧ (S.zip C).flatMap rangeIds = conn.ackOrder ∧
      collect o maxAskSeqListSize conn =
        if maxAskSeqListSize ≤ (ackRuns conn.sendAckQueue).length then
          (.ok (S, C), conn.setAckQueue [])
        else (.panic, conn.setAckQueue []) := by
  have hperm := Heap.popOrder_perm Connection.seqElemLe conn.sendAckQueue
  have hfuel : conn.ackOrder.length < conn.sendAckQueue.length + 1 := by
    rw [length_ackOrder]
    exact Nat.lt_succ_self _
  obtain ⟨S, C, hS, hC, hpos, hids, hrun⟩ := collectRanges_eq (o := o)
    maxAskSeqListSize [] [] hfuel rfl (fun h => hzero (hperm.mem_iff.mp h)) hfits
  refine ⟨S, C, hS, hC, hpos, hids, ?_⟩
  rw [collect, get_bind_apply, hrun, List.length_nil, Nat.zero_add, hS]
  rfl

/-- The loop is safe and loses nothing exactly when the queue has as many runs as fit, and
no `0`. -/
theorem collects_safely_iff (o : Overflow) (maxAskSeqListSize : Nat) (conn : Connection)
    (hmax : 1 ≤ maxAskSeqListSize) :
    CollectsSafely o maxAskSeqListSize conn ↔
      0 ∉ conn.sendAckQueue ∧ (ackRuns conn.sendAckQueue).length = maxAskSeqListSize ∧
        ∀ run ∈ ackRuns conn.sendAckQueue, run.length < 2 ^ 32 := by
  have hperm := Heap.popOrder_perm Connection.seqElemLe conn.sendAckQueue
  constructor
  · rintro ⟨S, C, conn', hrun, hlen, hone, hle, -, hids⟩
    rw [collect, get_bind_apply] at hrun
    have hempty := collectRanges_empty hrun
    rw [hempty, List.append_nil] at hids
    have hzero : 0 ∉ conn.sendAckQueue := by
      intro h
      obtain ⟨range, -, hmem⟩ := List.mem_flatMap.mp (hids.mem_iff.mpr h)
      exact ne_zero_of_mem_rangeIds hmem rfl
    have hall : (C.map UInt32.toNat).sum = ([].map UInt32.toNat).sum + conn.sendAckQueue.length := by
      rw [← length_flatMap_rangeIds hlen, hids.length_eq, List.map_nil, List.sum_nil, Nat.zero_add]
    have hfits : ∀ run ∈ ackRuns conn.sendAckQueue, run.length < 2 ^ 32 :=
      collectRanges_fits rfl (fun h => hzero (hperm.mem_iff.mp h)) hrun hall
    refine ⟨hzero, ?_, hfits⟩
    obtain ⟨S', C', hS', -, -, -, hexact⟩ :=
      collect_eq o maxAskSeqListSize hzero hfits
    rw [collect, get_bind_apply, hrun] at hexact
    split at hexact
    next henough =>
      cases hexact
      omega
    next => cases hexact
  · rintro ⟨hzero, hruns, hfits⟩
    obtain ⟨S, C, hS, hC, hpos, hids, hrun⟩ :=
      collect_eq o maxAskSeqListSize hzero hfits
    rw [if_pos (Nat.le_of_eq hruns.symm)] at hrun
    refine ⟨S, C, conn.setAckQueue [], hrun, hC, by omega, by omega, hpos, ?_⟩
    rw [hids, Connection.sendAckQueue_setAckQueue, List.append_nil]
    exact hperm

end

/-- A queue of one number, which is one run where 32 fit. -/
def sampleQueued : Connection := (Connection.new "a" "b" 1).sendAck 5

/-- The loop pops the empty queue after the only number. -/
theorem short_queue_not_collected : ¬ CollectsSafely .checked 32 sampleQueued := by
  rintro ⟨starts, counts, conn', hrun, -⟩
  have hpanic : (collect .checked 32 sampleQueued).1 = .panic := by decide +kernel
  rw [hrun] at hpanic
  cases hpanic

theorem sample_collects_safely : CollectsSafely .checked 1 sampleQueued := by
  refine (collects_safely_iff .checked 1 sampleQueued (Nat.le_refl 1)).mpr ⟨?_, ?_, ?_⟩
  · decide
  · decide +kernel
  · decide +kernel

/-! ## Numbers that were sent in order -/

section

variable {b : UInt32} {k : Nat} {ids : List UInt32} {conn : Connection}

/-- One of `k` numbers from `b` on. -/
def Within (b : UInt32) (k : Nat) (seq : UInt32) : Prop := ∃ i < k, seq = nextSeq b (i : Nat)

/-- The queue compares its numbers as `SeqElem` does. -/
theorem seqElemLe_eq (x y : UInt32) : Connection.seqElemLe x y = SeqElem.le ⟨x⟩ ⟨y⟩ := by
  rw [SeqElem.le_eq, SeqElem.cmp_eq, Connection.seqElemLe, compareSeq_eq]
  cases Circle.compareNear 2147483647 x.toNat y.toNat with
  | lt => rfl
  | eq => rfl
  | gt => rfl

theorem seqElemLe_nextSeq (b : UInt32) {i j : Nat} (hi : i < 2147483647) (hj : j < 2147483647) :
    Connection.seqElemLe (nextSeq b i) (nextSeq b j) = true ↔ i ≤ j := by
  have hnear : |(i : ℤ) - j| < 2147483647 := by
    rw [abs_lt]
    omega
  rw [seqElemLe_eq, SeqElem.le_nextSeq b hnear, Int.ofNat_le]

/-- Fewer numbers than half the circle are in order. -/
theorem orders_within (hk : k ≤ 2147483647) :
    Heap.Orders Connection.seqElemLe (Within b k) where
  total := by
    rintro _ _ ⟨i, hi, rfl⟩ ⟨j, hj, rfl⟩
    rw [seqElemLe_nextSeq b (by omega) (by omega), seqElemLe_nextSeq b (by omega) (by omega)]
    exact Nat.le_total i j
  trans := by
    rintro _ _ _ ⟨i, hi, rfl⟩ ⟨j, hj, rfl⟩ ⟨l, hl, rfl⟩
    rw [seqElemLe_nextSeq b (by omega) (by omega), seqElemLe_nextSeq b (by omega) (by omega),
      seqElemLe_nextSeq b (by omega) (by omega)]
    exact Nat.le_trans

theorem sendAckQueue_sendAcks (ids : List UInt32) (conn : Connection) :
    (ids.foldl Connection.sendAck conn).sendAckQueue =
      ids.foldl (Heap.push Connection.seqElemLe) conn.sendAckQueue := by
  induction ids generalizing conn with
  | nil => rfl
  | cons seq ids ih => exact ih (conn.sendAck seq)

theorem pushes_perm (ids queue : List UInt32) :
    (ids.foldl (Heap.push Connection.seqElemLe) queue).Perm (ids ++ queue) := by
  induction ids generalizing queue with
  | nil => exact List.Perm.refl queue
  | cons seq ids ih =>
      have hpush := Heap.push_perm Connection.seqElemLe queue seq
      exact (ih _).trans ((hpush.append_left ids).trans List.perm_middle)

theorem pushes_heap (hk : k ≤ 2147483647) {queue : List UInt32}
    (hqueue : ∀ seq ∈ queue, Within b k seq) (hids : ∀ seq ∈ ids, Within b k seq)
    (hheap : Heap.IsHeap Connection.seqElemLe queue) :
    Heap.IsHeap Connection.seqElemLe (ids.foldl (Heap.push Connection.seqElemLe) queue) := by
  induction ids generalizing queue with
  | nil => exact hheap
  | cons seq ids ih =>
      obtain ⟨hseq, hrest⟩ := List.forall_mem_cons.mp hids
      refine ih ?_ hrest (Heap.isHeap_push (orders_within hk) hqueue hseq hheap)
      intro v hv
      rcases List.mem_cons.mp ((Heap.push_perm Connection.seqElemLe queue seq).mem_iff.mp hv) with
        rfl | hold
      · exact hseq
      · exact hqueue v hold

/-- The queue holds what was pushed. -/
theorem sendAcks_perm (hempty : conn.sendAckQueue = []) (ids : List UInt32) :
    (ids.foldl Connection.sendAck conn).sendAckQueue.Perm ids := by
  rw [sendAckQueue_sendAcks, hempty]
  exact (pushes_perm ids []).trans (List.Perm.of_eq (List.append_nil ids))

theorem within_of_perm (hids : ids.Perm ((List.range k).map fun i : Nat => nextSeq b i))
    {seq : UInt32} (hseq : seq ∈ ids) : Within b k seq := by
  obtain ⟨i, hi, rfl⟩ := List.mem_map.mp (hids.mem_iff.mp hseq)
  exact ⟨i, List.mem_range.mp hi, rfl⟩

/-- The newest of the numbers is popped first. -/
theorem ackOrder_sendAcks (hk : 1 ≤ k) (hhalf : k ≤ 2147483647)
    (hempty : conn.sendAckQueue = []) (hids : ids.Perm ((List.range k).map fun i : Nat => nextSeq b i)) :
    ∃ order, (ids.foldl Connection.sendAck conn).ackOrder = nextSeq b (k - 1 : Nat) :: order ∧
      order.length + 1 = k ∧ ∀ seq ∈ order, Within b k seq := by
  have hwithin (seq : UInt32) (hseq : seq ∈ ids) : Within b k seq := within_of_perm hids hseq
  have hperm := sendAcks_perm hempty ids
  have hheap : Heap.IsHeap Connection.seqElemLe (ids.foldl Connection.sendAck conn).sendAckQueue := by
    rw [sendAckQueue_sendAcks, hempty]
    exact pushes_heap hhalf nofun hwithin nofun
  have horder := Heap.popOrder_perm Connection.seqElemLe (ids.foldl Connection.sendAck conn).sendAckQueue
  have hlen : (ids.foldl Connection.sendAck conn).ackOrder.length = k := by
    rw [length_ackOrder, hperm.length_eq, hids.length_eq, List.length_map, List.length_range]
  cases hpops : (ids.foldl Connection.sendAck conn).ackOrder with
  | nil =>
      rw [hpops] at hlen
      exact absurd hlen (by rw [List.length_nil]; omega)
  | cons top order =>
      obtain ⟨hhead, -⟩ := popAck_cons hpops
      have hall (seq : UInt32) (hseq : seq ∈ top :: order) : Within b k seq := by
        rw [← hpops] at hseq
        exact hwithin seq (hperm.mem_iff.mp (horder.mem_iff.mp hseq))
      have hnewest : nextSeq b (k - 1 : Nat) ∈ (ids.foldl Connection.sendAck conn).sendAckQueue := by
        refine hperm.mem_iff.mpr (hids.mem_iff.mpr (List.mem_map.mpr ⟨k - 1, ?_, rfl⟩))
        exact List.mem_range.mpr (by omega)
      have hle := hheap.le_head (orders_within hhalf)
        (fun seq hseq => hwithin seq (hperm.mem_iff.mp hseq)) hhead hnewest
      obtain ⟨i, hi, rfl⟩ := hall top List.mem_cons_self
      rw [seqElemLe_nextSeq b (by omega) (by omega)] at hle
      obtain rfl : i = k - 1 := by omega
      rw [hpops, List.length_cons] at hlen
      exact ⟨order, rfl, hlen, fun seq hseq => hall seq (List.mem_cons_of_mem _ hseq)⟩

/-- The first range of numbers that were sent in order is the newest number alone. -/
theorem collectRange_sendAcks (o : Overflow) (hk : 1 ≤ k) (hhalf : k ≤ 2147483647)
    (hempty : conn.sendAckQueue = []) (hids : ids.Perm ((List.range k).map fun i : Nat => nextSeq b i)) :
    ∃ conn', collectRange o (ids.foldl Connection.sendAck conn) =
      (.ok (nextSeq b (k - 1 : Nat), 1), conn') ∧ conn'.sendAckQueue.length + 1 = k := by
  obtain ⟨order, horder, hlen, hwithin⟩ := ackOrder_sendAcks hk hhalf hempty hids
  have hnone : runTail (nextSeq b (k - 1 : Nat)) 1 order = 0 := by
    cases order with
    | nil => rfl
    | cons seq order =>
        rw [runTail, if_neg]
        intro heq
        obtain ⟨i, hi, rfl⟩ := hwithin seq List.mem_cons_self
        rw [nextSeq_nextSeq, ← Int.natCast_add] at heq
        have := nextSeq_inj (by omega) (by omega) heq
        omega
  obtain ⟨c, queue, hrange, hc, hdrop⟩ := collectRange_eq (o := o) horder (by rw [hnone]; decide)
  rw [hnone] at hc hdrop
  obtain rfl : c = 1 := UInt32.toNat_inj.mp hc
  refine ⟨_, hrange, ?_⟩
  rw [← length_ackOrder, hdrop]
  exact hlen

/-- The first round of the loop gives all of the numbers that were sent in order as one range
exactly when there is only one. -/
theorem first_range_iff (o : Overflow) (conn : Connection) (b : UInt32) (k : Nat) (ids : List UInt32)
    (hempty : conn.sendAckQueue = []) (hk : 1 ≤ k) (hhalf : 2 * k < 2 ^ 32 - 1)
    (hids : ids.Perm ((List.range k).map fun i : Nat => nextSeq b i)) :
    (∃ conn', collectRange o (ids.foldl Connection.sendAck conn) = (.ok (b, UInt32.ofNat k), conn') ∧
      conn'.sendAckQueue = []) ↔ k = 1 ∧ b ≠ 0 := by
  obtain ⟨conn', hrange, hlen⟩ := collectRange_sendAcks o hk (by omega) hempty hids
  rw [hrange]
  constructor
  · rintro ⟨conn₁, heq, hnil⟩
    obtain ⟨hok, rfl⟩ := Prod.mk.inj heq
    obtain ⟨hstart, -⟩ := Prod.mk.inj (Outcome.ok.inj hok)
    rw [hnil, List.length_nil] at hlen
    exact ⟨hlen.symm, hstart ▸ nextSeq_ne_zero b _⟩
  · rintro ⟨rfl, hb⟩
    refine ⟨conn', ?_, List.length_eq_zero_iff.mp (by omega)⟩
    rw [nextSeq_zero hb]
    rfl

/-- Two numbers that were sent in order, the second one first. -/
theorem two_not_coalesced :
    [2, 1].Perm ((List.range 2).map fun i : Nat => nextSeq 1 i) ∧
      ¬ ∃ conn', collectRange .checked ([2, 1].foldl Connection.sendAck (Connection.new "a" "b" 1)) =
        (.ok (1, UInt32.ofNat 2), conn') ∧ conn'.sendAckQueue = [] := by
  refine ⟨by decide, ?_⟩
  rintro ⟨conn', hrange, -⟩
  have hfirst : (collectRange .checked
      ([2, 1].foldl Connection.sendAck (Connection.new "a" "b" 1))).1 = .ok (2, 1) := by decide +kernel
  rw [hrange] at hfirst
  cases hfirst

theorem one_coalesced :
    ∃ conn', collectRange .checked ([7].foldl Connection.sendAck (Connection.new "a" "b" 1)) =
      (.ok (7, UInt32.ofNat 1), conn') ∧ conn'.sendAckQueue = [] :=
  (first_range_iff .checked (Connection.new "a" "b" 1) 7 1 [7] rfl (by decide) (by decide)
    (by decide)).mpr ⟨rfl, by decide⟩

end

end NknSdk.Ncp
