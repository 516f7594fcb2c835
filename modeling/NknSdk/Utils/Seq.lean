import NknSdk.Lib.Circle
import NknSdk.Lib.Machine
import Mathlib.Tactic

/-!
# Sequence numbers

The sequence arithmetic of `src/utils.rs`.  A session numbers its packets from
`minSequenceId` on and starts over after the largest `u32`, so the numbers form a
circle that leaves out `0`.  `nextSeq` walks along it, `seqInBetween` asks for an
arc of it and `compareSeq` for the shorter way around.

The steps that occur are at most a `u32` in size, so the 64-bit arithmetic of
`nextSeq` is exact.  `position` is the place of a number on the circle, where steps are
additions (`position_nextSeq`).
-/

namespace NknSdk

def minSequenceId : UInt32 := 1

/-- `utils::next_seq`. -/
def nextSeq (seq : UInt32) (step : Int) : UInt32 :=
  let max : Int := 2 ^ 32 - 1 - minSequenceId.toNat + 1
  let res := ((seq.toNat : Int) - minSequenceId.toNat + step).tmod max
  let res := if res < 0 then res + max else res
  UInt32.ofNat (res + minSequenceId.toNat).toNat

/-- `utils::seq_in_between`. -/
def seqInBetween (seq start fin : UInt32) : Bool :=
  if start ≤ fin then start ≤ seq && seq < fin
  else start ≤ seq || seq < fin

/-- `utils::compare_seq`. -/
def compareSeq (a b : UInt32) : Int32 :=
  if a = b then 0
  else if a < b then
    if b - a < 2147483647 then -1 else 1
  else
    if a - b < 2147483647 then 1 else -1

/-- `utils::conn_key`. -/
def connKey (localClientId remoteClientId : String) : String :=
  localClientId ++ " - " ++ remoteClientId

/-! ## Places on the circle -/

/-- The circle of the sequence numbers. -/
abbrev SeqCircle : Type := ZMod 4294967295

/-- The place of a number.  `0` is no sequence number and has that of the last one. -/
def position (s : UInt32) : SeqCircle := ((s.toNat - 1 : ℤ) : SeqCircle)

theorem toNat_pos_of_ne_zero {s : UInt32} (hs : s ≠ 0) : 0 < s.toNat :=
  Nat.pos_of_ne_zero fun h => hs (UInt32.toNat_inj.mp h)

theorem position_val {s : UInt32} (hs : s ≠ 0) : (position s).val + 1 = s.toNat := by
  have hlt := s.toNat_lt
  have hpos := toNat_pos_of_ne_zero hs
  have hval : ((position s).val : ℤ) = (s.toNat - 1 : ℤ) % (4294967295 : ℕ) := ZMod.val_intCast _
  omega

/-- Sequence numbers are at different places. -/
theorem position_inj {s t : UInt32} (hs : s ≠ 0) (ht : t ≠ 0) (h : position s = position t) :
    s = t := by
  rw [← UInt32.toNat_inj, ← position_val hs, ← position_val ht, h]

/-- Any steps along the circle. -/
theorem toNat_nextSeq (s : UInt32) (step : ℤ) :
    ((nextSeq s step).toNat : ℤ) = (s.toNat - 1 + step) % 4294967295 + 1 := by
  have hmin : minSequenceId.toNat = 1 := rfl
  have hmax : (2 ^ 32 - 1 - 1 + 1 : ℤ) = 4294967295 := rfl
  simp only [nextSeq, hmin, Nat.cast_one, hmax]
  rw [Int.tmod_add_eq_emod _ (by decide)]
  have hlt := Int.emod_lt_of_pos (s.toNat - 1 + step : ℤ) (by decide : (0 : ℤ) < 4294967295)
  have hnonneg := Int.emod_nonneg (s.toNat - 1 + step : ℤ) (by decide : (4294967295 : ℤ) ≠ 0)
  rw [UInt32.toNat_ofNat_of_lt']
  · omega
  · show _ < 2 ^ 32
    omega

/-- Any steps lead to a sequence number. -/
theorem nextSeq_ne_zero (s : UInt32) (step : ℤ) : nextSeq s step ≠ 0 := by
  intro h
  have hnat := toNat_nextSeq s step
  rw [h, UInt32.toNat_zero] at hnat
  have hnonneg := Int.emod_nonneg (s.toNat - 1 + step : ℤ) (by decide : (4294967295 : ℤ) ≠ 0)
  omega

/-- Steps are additions on the circle. -/
theorem position_nextSeq (s : UInt32) (step : ℤ) :
    position (nextSeq s step) = position s + (step : SeqCircle) := by
  rw [position, toNat_nextSeq, position, add_sub_cancel_right, ← Int.cast_add]
  exact (ZMod.intCast_eq_intCast_iff _ _ _).mpr (Int.mod_modEq _ _)

/-- Steps add up. -/
theorem nextSeq_nextSeq (s : UInt32) (step step' : ℤ) :
    nextSeq (nextSeq s step) step' = nextSeq s (step + step') := by
  refine position_inj (nextSeq_ne_zero _ _) (nextSeq_ne_zero _ _) ?_
  rw [position_nextSeq, position_nextSeq, position_nextSeq, Int.cast_add, add_assoc]

/-- Whole rounds lead back, and no other steps do. -/
theorem nextSeq_eq_self_iff {s : UInt32} (hs : s ≠ 0) (step : ℤ) :
    nextSeq s step = s ↔ 4294967295 ∣ step := by
  have hround : (step : SeqCircle) = 0 ↔ ((4294967295 : ℕ) : ℤ) ∣ step :=
    ZMod.intCast_zmod_eq_zero_iff_dvd step 4294967295
  refine Iff.trans ?_ hround
  constructor
  · intro h
    have hplace := position_nextSeq s step
    rw [h] at hplace
    exact left_eq_add.mp hplace
  · intro h
    refine position_inj (nextSeq_ne_zero _ _) hs ?_
    rw [position_nextSeq, h, add_zero]

theorem nextSeq_zero {s : UInt32} (hs : s ≠ 0) : nextSeq s (0 : Nat) = s :=
  (nextSeq_eq_self_iff hs _).mpr (dvd_zero _)

/-- Some steps along the circle, from one of its numbers. -/
theorem nextSeq_toNat {s : UInt32} (hs : s ≠ 0) (k : Nat) :
    (nextSeq s k).toNat = (s.toNat - 1 + k) % (2 ^ 32 - 1) + 1 := by
  have hpos := toNat_pos_of_ne_zero hs
  have hnat := toNat_nextSeq s k
  omega

/-- One step along the circle. -/
theorem nextSeq_one_toNat (s : UInt32) :
    (nextSeq s 1).toNat = s.toNat % (2 ^ 32 - 1) + 1 := by
  have hnat := toNat_nextSeq s 1
  omega

/-- The number before the end of a range is its last one. -/
theorem nextSeq_neg_one_nextSeq (s : UInt32) (k : Nat) :
    nextSeq (nextSeq s (k + 1 : Nat)) (-1) = nextSeq s k := by
  rw [nextSeq_nextSeq, Int.natCast_succ, Int.add_neg_cancel_right]

/-- Numbers of the circle that are fewer steps away than it is long are different. -/
theorem nextSeq_inj {s : UInt32} {i j : Nat} (hi : i < 2 ^ 32 - 1) (hj : j < 2 ^ 32 - 1)
    (h : nextSeq s i = nextSeq s j) : i = j := by
  have hnat := toNat_nextSeq s i
  rw [h, toNat_nextSeq s j] at hnat
  omega

/-! ## Arcs -/

theorem seqInBetween_iff (seq start fin : UInt32) :
    seqInBetween seq start fin = true ↔
      if start.toNat ≤ fin.toNat then start.toNat ≤ seq.toNat ∧ seq.toNat < fin.toNat
      else start.toNat ≤ seq.toNat ∨ seq.toNat < fin.toNat := by
  unfold seqInBetween
  simp only [UInt32.le_iff_toNat_le, UInt32.lt_iff_toNat_lt]
  split <;> simp

/-- The numbers of an interval are those that are passed on the way to its end. -/
theorem seqInBetween_iff_ahead {seq start fin : UInt32} (hseq : seq ≠ 0) (hstart : start ≠ 0)
    (hfin : fin ≠ 0) :
    seqInBetween seq start fin = true ↔
      Circle.ahead (position start) (position seq) < Circle.ahead (position start) (position fin) := by
  rw [seqInBetween_iff, Circle.mem_arc_iff, ← position_val hseq, ← position_val hstart,
    ← position_val hfin]
  simp only [Nat.add_le_add_iff_right, Nat.add_lt_add_iff_right]

/-- An interval of the code's `seqInBetween x e x` is empty whatever `e` is. -/
theorem seqInBetween_self (x e : UInt32) : seqInBetween x e x = false := by
  unfold seqInBetween
  split
  next h => simp
  next h => simpa using h

/-! ## The shorter way around -/

/-- An order as the sign that `compareSeq` gives. -/
def orderSign : Ordering → Int32
  | .lt => -1
  | .eq => 0
  | .gt => 1

theorem sub_lt_half_iff {a b : UInt32} (h : a ≤ b) :
    b - a < 2147483647 ↔ b.toNat - a.toNat < 2147483647 := by
  rw [UInt32.lt_iff_toNat_lt, UInt32.toNat_sub_of_le b a h]
  rfl

theorem compareSeq_eq (a b : UInt32) :
    compareSeq a b = orderSign (Circle.compareNear 2147483647 a.toNat b.toNat) := by
  rw [compareSeq, Circle.compareNear]
  by_cases heq : a = b
  · rw [if_pos heq, if_pos (congrArg UInt32.toNat heq)]
    rfl
  · rw [if_neg heq, if_neg (mt UInt32.toNat_inj.mp heq)]
    by_cases hlt : a < b
    · rw [if_pos hlt, if_pos (UInt32.lt_iff_toNat_lt.mp hlt)]
      simp only [sub_lt_half_iff (UInt32.le_of_lt hlt)]
      split <;> rfl
    · rw [if_neg hlt, if_neg (mt UInt32.lt_iff_toNat_lt.mpr hlt)]
      simp only [sub_lt_half_iff (UInt32.not_lt.mp hlt)]
      split <;> rfl

/-- The numbers of the circle compare as their places. -/
theorem compareNear_toNat {a b : UInt32} (ha : a ≠ 0) (hb : b ≠ 0) (half : ℕ) :
    Circle.compareNear half a.toNat b.toNat =
      Circle.compareNear half (position a).val (position b).val := by
  rw [← position_val ha, ← position_val hb, Circle.compareNear_succ]

/-- Numbers that are less than half the circle apart compare by their distance. -/
theorem compareNear_nextSeq (s : UInt32) {i j : ℤ} (hnear : |i - j| < 2147483647) :
    Circle.compareNear 2147483647 (nextSeq s i).toNat (nextSeq s j).toNat = compare i j := by
  rw [compareNear_toNat (nextSeq_ne_zero s i) (nextSeq_ne_zero s j), position_nextSeq,
    position_nextSeq]
  exact Circle.compareNear_add (by decide) (position s) hnear

theorem orderSign_neg_iff (c : Ordering) : orderSign c < 0 ↔ c = .lt := by
  cases c with
  | lt => decide
  | eq => decide
  | gt => decide

/-- A number is behind the first one exactly when it is in the upper half. -/
theorem compareSeq_min_neg {a : UInt32} (h : 0 < a) :
    compareSeq a minSequenceId < 0 ↔ 2 ^ 31 ≤ a.toNat := by
  have hpos : 0 < a.toNat := UInt32.lt_iff_toNat_lt.mp h
  have hmin : minSequenceId.toNat = 1 := rfl
  rw [compareSeq_eq, orderSign_neg_iff, hmin, Circle.compareNear,
    if_neg (by omega : ¬ a.toNat < 1)]
  by_cases hone : a.toNat = 1
  · rw [if_pos hone]
    exact iff_of_false (by decide) (by omega)
  · rw [if_neg hone]
    by_cases hnear : a.toNat - 1 < 2147483647
    · rw [if_pos hnear]
      exact iff_of_false (by decide) (by omega)
    · rw [if_neg hnear]
      exact iff_of_true rfl (by omega)

end NknSdk
