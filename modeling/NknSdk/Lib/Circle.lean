import Mathlib.Data.ZMod.Basic
import Mathlib.Tactic

/-!
# Positions on a circle

A circle of `n` positions is `ZMod n`, and a walk along it is an addition.  `ahead p q`
counts the steps from `p` on to `q`, so the positions before `q` on the arc from `p` are
those with fewer steps (`ahead_lt_ahead_iff`).

A program keeps a position as a plain number and tests an arc by comparing numbers;
this is right with one case for the arcs that pass the end of the numbers
(`mem_arc_iff`).  `compareNear` is the usual comparison of two such numbers by the
shorter way around: numbers closer than `half` are in their order, and all others are
taken to have passed the end.  It is right for positions fewer than `half` steps apart as
long as `half` is at most about half the circle (`compareNear_add`).
-/

namespace Circle

variable {n : ℕ}

/-! ## Steps -/

/-- The steps from `p` on to `q`. -/
def ahead (p q : ZMod n) : ℕ := (q - p).val

theorem ahead_add_natCast (p : ZMod n) (k : ℕ) : ahead p (p + k) = k % n := by
  rw [ahead, add_sub_cancel_left, ZMod.val_natCast]

variable [NeZero n]

theorem ahead_lt (p q : ZMod n) : ahead p q < n := ZMod.val_lt (q - p)

theorem add_ahead (p q : ZMod n) : p + (ahead p q : ZMod n) = q := by
  rw [ahead, ZMod.natCast_zmod_val, add_sub_cancel]

/-- No walk to `q` is shorter. -/
theorem isLeast_ahead (p q : ZMod n) : IsLeast {d : ℕ | p + (d : ZMod n) = q} (ahead p q) := by
  refine ⟨add_ahead p q, ?_⟩
  rintro d rfl
  rw [ahead_add_natCast]
  exact Nat.mod_le d n

theorem ahead_of_le {p q : ZMod n} (h : p.val ≤ q.val) : ahead p q = q.val - p.val := by
  have hcast : ((q.val - p.val : ℕ) : ZMod n) = q - p := by
    rw [Nat.cast_sub h, ZMod.natCast_zmod_val, ZMod.natCast_zmod_val]
  have hlt := ZMod.val_lt q
  rw [ahead, ← hcast, ZMod.val_natCast, Nat.mod_eq_of_lt (by omega)]

/-- A walk that passes the end of the numbers. -/
theorem ahead_of_lt {p q : ZMod n} (h : q.val < p.val) : ahead p q = q.val + n - p.val := by
  have hlt := ZMod.val_lt p
  have hcast : ((q.val + n - p.val : ℕ) : ZMod n) = q - p := by
    rw [Nat.cast_sub (by omega), Nat.cast_add, ZMod.natCast_self, add_zero,
      ZMod.natCast_zmod_val, ZMod.natCast_zmod_val]
  rw [ahead, ← hcast, ZMod.val_natCast, Nat.mod_eq_of_lt (by omega)]

/-! ## Arcs -/

/-- The positions of the arc are those that the walk passes. -/
theorem ahead_lt_ahead_iff (p q x : ZMod n) :
    ahead p x < ahead p q ↔ ∃ k < ahead p q, x = p + (k : ZMod n) := by
  constructor
  · intro h
    exact ⟨ahead p x, h, (add_ahead p x).symm⟩
  · rintro ⟨k, hk, rfl⟩
    rw [ahead_add_natCast]
    exact Nat.lt_of_le_of_lt (Nat.mod_le k n) hk

/-- The arc from `p` to `q`, by the numbers. -/
theorem mem_arc_iff (p q x : ZMod n) :
    ahead p x < ahead p q ↔
      if p.val ≤ q.val then p.val ≤ x.val ∧ x.val < q.val else p.val ≤ x.val ∨ x.val < q.val := by
  have hp := ZMod.val_lt p
  have hq := ZMod.val_lt q
  have hx := ZMod.val_lt x
  by_cases hpq : p.val ≤ q.val
  · rw [if_pos hpq, ahead_of_le hpq]
    by_cases hpx : p.val ≤ x.val
    · rw [ahead_of_le hpx]
      omega
    · rw [ahead_of_lt (Nat.lt_of_not_le hpx)]
      omega
  · rw [if_neg hpq, ahead_of_lt (Nat.lt_of_not_le hpq)]
    by_cases hpx : p.val ≤ x.val
    · rw [ahead_of_le hpx]
      omega
    · rw [ahead_of_lt (Nat.lt_of_not_le hpx)]
      omega

/-! ## The shorter way around -/

/-- The order of two numbers of the circle by the shorter way from one to the other. -/
def compareNear (half x y : ℕ) : Ordering :=
  if x = y then .eq
  else if x < y then if y - x < half then .lt else .gt
  else if x - y < half then .gt else .lt

section

variable {half x y : ℕ}

theorem compareNear_self (half x : ℕ) : compareNear half x x = .eq := if_pos rfl

theorem compareNear_swap (half x y : ℕ) : compareNear half x y = (compareNear half y x).swap := by
  unfold compareNear
  rcases Nat.lt_trichotomy x y with hlt | rfl | hgt
  · rw [if_neg (Nat.ne_of_lt hlt), if_pos hlt, if_neg (Nat.ne_of_gt hlt), if_neg (Nat.lt_asymm hlt)]
    split <;> rfl
  · rw [if_pos rfl]
    rfl
  · rw [if_neg (Nat.ne_of_gt hgt), if_neg (Nat.lt_asymm hgt), if_neg (Nat.ne_of_lt hgt), if_pos hgt]
    split <;> rfl

theorem compareNear_eq_iff : compareNear half x y = .eq ↔ x = y := by
  constructor
  · intro h
    by_contra hne
    rw [compareNear, if_neg hne] at h
    split at h <;> split at h <;> cases h
  · rintro rfl
    exact compareNear_self half x

/-- The comparison is the same wherever the numbers start. -/
theorem compareNear_succ (half x y : ℕ) :
    compareNear half (x + 1) (y + 1) = compareNear half x y := by
  simp only [compareNear, Nat.add_right_cancel_iff, Nat.add_lt_add_iff_right,
    Nat.add_sub_add_right]

end

section

variable {half : ℕ} {p q x y : ZMod n}

/-- A position a few steps on is after, also where the walk passes the end of the numbers. -/
theorem compareNear_of_ahead (hhalf : 2 * half ≤ n + 1) (hpos : 0 < ahead p q)
    (hnear : ahead p q < half) : compareNear half p.val q.val = .lt := by
  have hp := ZMod.val_lt p
  rw [compareNear]
  by_cases hpq : p.val ≤ q.val
  · rw [ahead_of_le hpq] at hpos hnear
    rw [if_neg (by omega), if_pos (by omega), if_pos hnear]
  · have hlt := Nat.lt_of_not_le hpq
    rw [ahead_of_lt hlt] at hpos hnear
    rw [if_neg (by omega), if_neg (by omega), if_neg (by omega)]

theorem compareNear_add_of_lt (hhalf : 2 * half ≤ n + 1) (p : ZMod n) {i j : ℤ} (hlt : i < j)
    (hnear : j - i < half) :
    compareNear half (p + (i : ZMod n)).val (p + (j : ZMod n)).val = .lt := by
  obtain ⟨m, hm⟩ := Int.eq_ofNat_of_zero_le (by omega : 0 ≤ j - i)
  obtain rfl : j = i + m := by omega
  have hahead : ahead (p + (i : ZMod n)) (p + ((i + m : ℤ) : ZMod n)) = m := by
    have hwalk : p + ((i + m : ℤ) : ZMod n) = p + (i : ZMod n) + (m : ZMod n) := by
      push_cast
      rw [add_assoc]
    rw [hwalk, ahead_add_natCast, Nat.mod_eq_of_lt (by omega)]
  exact compareNear_of_ahead hhalf (by omega) (by omega)

/-- Positions less than `half` apart compare as the steps that lead to them. -/
theorem compareNear_add (hhalf : 2 * half ≤ n + 1) (p : ZMod n) {i j : ℤ}
    (hnear : |i - j| < half) :
    compareNear half (p + (i : ZMod n)).val (p + (j : ZMod n)).val = compare i j := by
  obtain ⟨hleft, hright⟩ := abs_lt.mp hnear
  rcases lt_trichotomy i j with hlt | rfl | hgt
  · rw [compareNear_add_of_lt hhalf p hlt (by omega), compare_lt_iff_lt.mpr hlt]
  · rw [compareNear_self, compare_eq_iff_eq.mpr rfl]
  · rw [compareNear_swap, compareNear_add_of_lt hhalf p hgt (by omega), compare_gt_iff_gt.mpr hgt]
    rfl

/-- On `half` positions from `p` on the comparison is the order of the steps from `p`. -/
theorem compareNear_ahead (hhalf : 2 * half ≤ n + 1) (hx : ahead p x < half)
    (hy : ahead p y < half) :
    compareNear half x.val y.val = compare (ahead p x) (ahead p y) := by
  have hnear : |((ahead p x : ℕ) : ℤ) - (ahead p y : ℕ)| < half := by
    rw [abs_lt]
    omega
  have h := compareNear_add hhalf p hnear
  rw [Int.cast_natCast, Int.cast_natCast, add_ahead, add_ahead] at h
  rw [h]
  rcases Nat.lt_trichotomy (ahead p x) (ahead p y) with hlt | heq | hgt
  · rw [compare_lt_iff_lt.mpr hlt, compare_lt_iff_lt.mpr (Int.ofNat_lt.mpr hlt)]
  · rw [heq, compare_eq_iff_eq.mpr rfl, compare_eq_iff_eq.mpr rfl]
  · rw [compare_gt_iff_gt.mpr hgt, compare_gt_iff_gt.mpr (Int.ofNat_lt.mpr hgt)]

end

end Circle
