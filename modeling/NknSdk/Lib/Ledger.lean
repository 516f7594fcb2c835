import Mathlib.Algebra.BigOperators.Group.Finset.Basic
import Mathlib.Algebra.Order.Group.Int
import Mathlib.Tactic

/-!
# Cumulative accounts

An entry `(i, a)` says that the account `i` has reached the cumulative amount
`a`.  Later entries of an account replace earlier ones rather than add to them,
so what a list of entries is worth is the sum, over its accounts, of the largest
amount of each (`total`).  An account without entries has reached zero.
-/

namespace Ledger

variable {ι : Type} [DecidableEq ι]

/-- The accounts of a list of entries. -/
def accounts (l : List (ι × Int)) : Finset ι := (l.map Prod.fst).toFinset

/-- The largest amount of an account, zero if it has no entry. -/
def largest (l : List (ι × Int)) (i : ι) : Int :=
  l.foldr (fun e m => if e.1 = i then max e.2 m else m) 0

/-- What the entries are worth. -/
def total (l : List (ι × Int)) : Int := ∑ i ∈ accounts l, largest l i

@[simp] theorem accounts_nil : accounts ([] : List (ι × Int)) = ∅ := rfl

@[simp] theorem largest_nil (i : ι) : largest ([] : List (ι × Int)) i = 0 := rfl

@[simp] theorem total_nil : total ([] : List (ι × Int)) = 0 := rfl

theorem largest_cons (e : ι × Int) (l : List (ι × Int)) (i : ι) :
    largest (e :: l) i = if e.1 = i then max e.2 (largest l i) else largest l i := rfl

theorem largest_nonneg (l : List (ι × Int)) (i : ι) : 0 ≤ largest l i := by
  induction l with
  | nil => exact le_refl 0
  | cons e l ih =>
      rw [largest_cons]
      split
      · exact le_max_of_le_right ih
      · exact ih

theorem accounts_append (l m : List (ι × Int)) :
    accounts (l ++ m) = accounts l ∪ accounts m := by
  simp [accounts, List.toFinset_append]

theorem largest_append (l m : List (ι × Int)) (i : ι) :
    largest (l ++ m) i = max (largest l i) (largest m i) := by
  induction l with
  | nil => simp [largest_nonneg]
  | cons e l ih =>
      rw [List.cons_append, largest_cons, largest_cons, ih]
      split
      · exact (max_assoc _ _ _).symm
      · rfl

theorem largest_eq_zero_of_notMem {l : List (ι × Int)} {i : ι} (h : i ∉ accounts l) :
    largest l i = 0 := by
  induction l with
  | nil => rfl
  | cons e l ih =>
      have hne : e.1 ≠ i ∧ i ∉ accounts l := by
        simpa [accounts, eq_comm, not_or] using h
      rw [largest_cons, if_neg hne.1, ih hne.2]

theorem largest_singleton (i j : ι) (a : Int) :
    largest [(i, a)] j = if i = j then max a 0 else 0 := by
  rw [largest_cons]
  rfl

/-- The sum may run over any set that holds the accounts. -/
theorem total_eq_sum {l : List (ι × Int)} {s : Finset ι} (h : accounts l ⊆ s) :
    total l = ∑ i ∈ s, largest l i := by
  refine Finset.sum_subset h fun i _ hi => ?_
  exact largest_eq_zero_of_notMem hi

/-- A new entry is worth what it adds to its account. -/
theorem total_concat (l : List (ι × Int)) (i : ι) (a : Int) :
    total (l ++ [(i, a)]) = total l + (max (largest l i) a - largest l i) := by
  have hsub : accounts (l ++ [(i, a)]) = insert i (accounts l) := by
    rw [accounts_append, Finset.union_comm]
    rfl
  have hsum : total l = ∑ j ∈ insert i (accounts l), largest l j :=
    total_eq_sum (Finset.subset_insert i _)
  have hentry : ∀ j, largest (l ++ [(i, a)]) j =
      largest l j + if i = j then max (largest l i) a - largest l i else 0 := by
    intro j
    have hj := largest_nonneg l j
    rw [largest_append, largest_singleton]
    split
    next hij =>
      subst hij
      omega
    next => omega
  rw [total, hsub, hsum]
  simp_rw [hentry]
  rw [Finset.sum_add_distrib, Finset.sum_ite_eq, if_pos (Finset.mem_insert_self i _)]

end Ledger
