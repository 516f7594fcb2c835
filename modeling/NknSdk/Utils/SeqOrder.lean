import NknSdk.Utils.SeqArith
import Mathlib.Tactic

/-!
# The order of sequence numbers

`SeqElem` of `src/utils.rs` compares sequence numbers by `compare_seq`, the shorter way
around the circle.  That is no order of all numbers: three that are a third of the circle
apart each come before the next one.  On a window of `u32::MAX / 2` numbers it is the order
of the steps from the start of the window (`SeqElem.cmp_window`), wherever the window
starts.
-/

namespace NknSdk

open Exec

/-- `utils::SeqElem`. -/
structure SeqElem where
  v : UInt32
deriving DecidableEq, Repr

namespace SeqElem

/-- `PartialOrd::partial_cmp`. -/
def partialCmp (self other : SeqElem) : Option Ordering :=
  let res := compareSeq self.v other.v
  if res = 0 then some .eq
  else if res = -1 then some .lt
  else some .gt

/-- `Ord::cmp`. -/
def cmp (self other : SeqElem) : Ordering :=
  let res := compareSeq self.v other.v
  if res = 0 then .eq
  else if res = -1 then .lt
  else .gt

/-- `<=`, which comes from `partial_cmp`. -/
def le (self other : SeqElem) : Bool :=
  match self.partialCmp other with
  | some .lt => true
  | some .eq => true
  | _ => false

/-- The numbers of the window that starts at `b`. -/
def Window (b : UInt32) : Set SeqElem := {x | ∃ k < 2147483647, x.v = nextSeq b (k : Nat)}

/-! ## The comparisons -/

theorem cmp_eq (x y : SeqElem) :
    x.cmp y = Circle.compareNear 2147483647 x.v.toNat y.v.toNat := by
  rw [cmp, compareSeq_eq]
  cases Circle.compareNear 2147483647 x.v.toNat y.v.toNat with
  | lt => rfl
  | eq => rfl
  | gt => rfl

/-- Only equal numbers compare as equal, also where they are in no order. -/
theorem cmp_eq_eq_iff {x y : SeqElem} : x.cmp y = .eq ↔ x = y := by
  rw [cmp_eq, Circle.compareNear_eq_iff, UInt32.toNat_inj]
  cases x
  cases y
  exact (mk.injEq _ _).to_iff.symm

theorem lawfulEqCmp (S : Set SeqElem) : Std.LawfulEqCmp fun x y : S => x.1.cmp y.1 where
  compare_self := cmp_eq_eq_iff.mpr rfl
  eq_of_compare h := Subtype.ext (cmp_eq_eq_iff.mp h)

theorem partialCmp_eq (x y : SeqElem) : x.partialCmp y = some (x.cmp y) := by
  rw [partialCmp, cmp, apply_ite some, apply_ite some]

theorem le_eq (x y : SeqElem) : x.le y = (x.cmp y).isLE := by
  rw [le, partialCmp_eq]
  cases x.cmp y with
  | lt => rfl
  | eq => rfl
  | gt => rfl

theorem cmp_nextSeq (b : UInt32) {i j : ℤ} (hnear : |i - j| < 2147483647) :
    cmp ⟨nextSeq b i⟩ ⟨nextSeq b j⟩ = compare i j := by
  rw [cmp_eq, compareNear_nextSeq b hnear]

theorem le_nextSeq (b : UInt32) {i j : ℤ} (hnear : |i - j| < 2147483647) :
    le ⟨nextSeq b i⟩ ⟨nextSeq b j⟩ = true ↔ i ≤ j := by
  rw [le_eq, cmp_nextSeq b hnear]
  exact Std.isLE_compare

/-! ## Windows -/

/-- How many steps after `b` a number comes. -/
def stepsFrom (b : UInt32) (x : SeqElem) : ℕ := Circle.ahead (position b) (position x.v)

section

variable {b : UInt32} {S : Set SeqElem} {x y : SeqElem}

theorem ne_zero_of_window (hx : x ∈ Window b) : x.v ≠ 0 := by
  obtain ⟨k, -, hk⟩ := hx
  rw [hk]
  exact nextSeq_ne_zero b k

theorem stepsFrom_lt (hx : x ∈ Window b) : stepsFrom b x < 2147483647 := by
  obtain ⟨k, hlt, hk⟩ := hx
  rw [stepsFrom, hk, position_nextSeq, Int.cast_natCast, Circle.ahead_add_natCast]
  omega

/-- In a window the order is that of the steps from its start. -/
theorem cmp_window (hx : x ∈ Window b) (hy : y ∈ Window b) :
    x.cmp y = compare (stepsFrom b x) (stepsFrom b y) := by
  rw [cmp_eq, compareNear_toNat (ne_zero_of_window hx) (ne_zero_of_window hy)]
  exact Circle.compareNear_ahead (by decide) (stepsFrom_lt hx) (stepsFrom_lt hy)

theorem cmp_eq_compareOn (hS : S ⊆ Window b) :
    (fun x y : S => x.1.cmp y.1) = compareOn fun x : S => stepsFrom b x.1 := by
  funext x y
  exact cmp_window (hS x.2) (hS y.2)

theorem transCmp_window (hS : S ⊆ Window b) : Std.TransCmp fun x y : S => x.1.cmp y.1 := by
  rw [cmp_eq_compareOn hS]
  infer_instance

end

end SeqElem

/-! ## Signs -/

theorem orderSign_swap (c : Ordering) : orderSign c.swap = -orderSign c := by
  cases c with
  | lt => rfl
  | eq => rfl
  | gt => rfl

/-- The other way around is the other sign, for all numbers. -/
theorem compareSeq_swap (x y : UInt32) : compareSeq x y = -compareSeq y x := by
  rw [compareSeq_eq, compareSeq_eq, Circle.compareNear_swap, orderSign_swap]

theorem orderSign_compare (i j : ℤ) : (orderSign (compare i j)).toInt = (i - j).sign := by
  rcases lt_trichotomy i j with hlt | rfl | hgt
  · rw [compare_lt_iff_lt.mpr hlt, Int.sign_eq_neg_one_of_neg (by omega)]
    rfl
  · rw [compare_eq_iff_eq.mpr rfl, sub_self]
    rfl
  · rw [compare_gt_iff_gt.mpr hgt, Int.sign_eq_one_of_pos (by omega)]
    rfl

/-- `compare_seq` is the sign of the distance of numbers that are less than `u32::MAX / 2` steps
apart, so that windows of that many numbers are in order. -/
theorem compare_seq_orders_windows (o : Overflow) {b : UInt32} {i j : Int64}
    (hi : |i.toInt| ≤ 2 ^ 61) (hj : |j.toInt| ≤ 2 ^ 61) (hnear : |i.toInt - j.toInt| < 2147483647)
    {S : Set SeqElem} (hS : ∀ x ∈ S, ∃ k < 2147483647, nextSeqI64 o b (Int64.ofNat k) = pure x.v) :
    (∃ x y, nextSeqI64 o b i = pure x ∧ nextSeqI64 o b j = pure y ∧
      (compareSeq x y).toInt = (i.toInt - j.toInt).sign) ∧
    (Std.TransCmp fun x y : S => x.1.cmp y.1) ∧ (Std.LawfulEqCmp fun x y : S => x.1.cmp y.1) ∧
    (∀ x y : SeqElem, x.partialCmp y = some (x.cmp y)) ∧
    ∀ x y : UInt32, compareSeq x y = -compareSeq y x := by
  have hwindow : S ⊆ SeqElem.Window b := by
    intro x hx
    obtain ⟨k, hk, hwalk⟩ := hS x hx
    rw [nextSeqI64_ofNat o b (by omega), Exec.pure_inj] at hwalk
    exact ⟨k, hk, hwalk.symm⟩
  refine ⟨⟨nextSeq b i.toInt, nextSeq b j.toInt, nextSeqI64_of_abs_le o b (by omega),
    nextSeqI64_of_abs_le o b (by omega), ?_⟩, SeqElem.transCmp_window hwindow,
    SeqElem.lawfulEqCmp S, SeqElem.partialCmp_eq, compareSeq_swap⟩
  rw [compareSeq_eq, compareNear_nextSeq b hnear, orderSign_compare]

/-- Two numbers on either side of the end, in a window that passes it. -/
theorem sample_orders_windows :
    (∃ x y, nextSeqI64 .checked 4294967290 2 = pure x ∧ nextSeqI64 .checked 4294967290 8 = pure y ∧
      (compareSeq x y).toInt = ((2 : Int64).toInt - (8 : Int64).toInt).sign) ∧
    (Std.TransCmp fun x y : ({⟨4294967292⟩, ⟨3⟩} : Set SeqElem) => x.1.cmp y.1) ∧
    (Std.LawfulEqCmp fun x y : ({⟨4294967292⟩, ⟨3⟩} : Set SeqElem) => x.1.cmp y.1) ∧
    (∀ x y : SeqElem, x.partialCmp y = some (x.cmp y)) ∧
    ∀ x y : UInt32, compareSeq x y = -compareSeq y x := by
  refine compare_seq_orders_windows .checked (by decide) (by decide) (by decide) ?_
  rintro x (rfl | rfl)
  · exact ⟨2, by decide, nextSeqI64_ofNat .checked 4294967290 (by decide)⟩
  · exact ⟨8, by decide, nextSeqI64_ofNat .checked 4294967290 (by decide)⟩

/-- Numbers that are a third of the circle apart are in no order. -/
example : SeqElem.cmp ⟨1⟩ ⟨1431655766⟩ = .lt ∧ SeqElem.cmp ⟨1431655766⟩ ⟨2863311531⟩ = .lt ∧
    SeqElem.cmp ⟨1⟩ ⟨2863311531⟩ = .gt := by decide

end NknSdk
