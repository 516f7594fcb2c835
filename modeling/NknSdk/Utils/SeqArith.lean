import NknSdk.Utils.Seq
import Mathlib.Tactic

/-!
# Sequence arithmetic on the machine

`next_seq` of `src/utils.rs` takes its step as an `i64` and computes the remainder there,
with the sign of the dividend.  `nextSeqI64` is this computation with every operation
that can overflow, and `nextSeqI64_eq` says that it is `nextSeq` wherever the first sum
fits, which is for all steps up to `2 ^ 62` either way.
-/

namespace NknSdk

open Exec

/-- `utils::next_seq` in the arithmetic of the machine. -/
def nextSeqI64 (o : Overflow) (seq : UInt32) (step : Int64) : Exec Empty Unit UInt32 := do
  let span ← subU32 o 4294967295 minSequenceId
  let span ← addU32 o span 1
  let max := Int64.ofNat span.toNat
  let first ← subI64 o (Int64.ofNat seq.toNat) (Int64.ofNat minSequenceId.toNat)
  let sum ← addI64 o first step
  let res ← remI64 sum max
  let res ← (if res < 0 then addI64 o res max else pure res)
  let res ← addI64 o res (Int64.ofNat minSequenceId.toNat)
  return UInt32.ofInt res.toInt

/-! ## The exact result -/

/-- A `u32` is the same number as an `i64`. -/
theorem toInt_ofNat_toNat (s : UInt32) : (Int64.ofNat s.toNat).toInt = s.toNat := by
  have hlt := s.toNat_lt
  exact Int64.toInt_ofNat_of_lt (by omega)

/-- The remainder, moved up where it is negative. -/
theorem remainder_eq (o : Overflow) (sum max : Int64) (hmax : max.toInt = 4294967295) :
    ∃ res : Int64, res.toInt = sum.toInt % 4294967295 ∧
      (do
        let res ← remI64 sum max
        if res < 0 then addI64 o res max else pure res : Exec Empty Unit Int64) = pure res := by
  have hne : max ≠ 0 := by
    rintro rfl
    exact absurd hmax (by decide)
  have hminus : max ≠ -1 := by
    rintro rfl
    exact absurd hmax (by decide)
  have hrem : (sum % max).toInt = sum.toInt.tmod 4294967295 := by
    rw [Int64.toInt_mod, hmax]
  have hexact := Int.tmod_add_eq_emod sum.toInt (by decide : (0 : ℤ) < 4294967295)
  have hlt := Int.emod_lt_of_pos sum.toInt (by decide : (0 : ℤ) < 4294967295)
  have hnonneg := Int.emod_nonneg sum.toInt (by decide : (4294967295 : ℤ) ≠ 0)
  rw [remI64, require_pos ⟨hne, fun h => hminus h.2⟩, Exec.pure_bind, Exec.pure_bind]
  by_cases hneg : sum % max < 0
  · have hneg' : sum.toInt.tmod 4294967295 < 0 := by
      rw [← hrem]
      exact Int64.lt_iff_toInt_lt.mp hneg
    rw [if_pos hneg'] at hexact
    have hfits : FitsI64 ((sum % max).toInt + max.toInt) := by
      rw [hrem, hmax, hexact]
      constructor <;> omega
    rw [if_pos hneg, addI64, arith_of_fits hfits]
    refine ⟨_, ?_, rfl⟩
    rw [Int64.toInt_add_of_fits hfits, hrem, hmax, hexact]
  · have hneg' : ¬ sum.toInt.tmod 4294967295 < 0 := by
      rw [← hrem]
      exact fun h => hneg (Int64.lt_iff_toInt_lt.mpr h)
    rw [if_neg hneg'] at hexact
    rw [if_neg hneg]
    exact ⟨_, hrem.trans hexact, rfl⟩

/-- Where the first sum fits, both builds compute the steps exactly. -/
theorem nextSeqI64_eq (o : Overflow) (s : UInt32) {step : Int64}
    (hfits : FitsI64 (s.toNat - 1 + step.toInt)) :
    nextSeqI64 o s step = pure (nextSeq s step.toInt) := by
  have hs := s.toNat_lt
  have hmin : (Int64.ofNat minSequenceId.toNat).toInt = 1 := rfl
  have hseq := toInt_ofNat_toNat s
  have hsub : FitsI64 ((Int64.ofNat s.toNat).toInt - (Int64.ofNat minSequenceId.toNat).toInt) := by
    rw [hseq, hmin]
    constructor <;> omega
  have hfirst := Int64.toInt_sub_of_fits hsub
  rw [hseq, hmin] at hfirst
  rw [← hfirst] at hfits
  have hsum := Int64.toInt_add_of_fits hfits
  obtain ⟨res, hres, hrem⟩ := remainder_eq o
    (Int64.ofNat s.toNat - Int64.ofNat minSequenceId.toNat + step)
    (Int64.ofNat ((4294967295 : UInt32) - minSequenceId + 1).toNat) rfl
  rw [hsum, hfirst] at hres
  have hlt := Int.emod_lt_of_pos (s.toNat - 1 + step.toInt) (by decide : (0 : ℤ) < 4294967295)
  have hnonneg := Int.emod_nonneg (s.toNat - 1 + step.toInt) (by decide : (4294967295 : ℤ) ≠ 0)
  have hlast : FitsI64 (res.toInt + (Int64.ofNat minSequenceId.toNat).toInt) := by
    rw [hres, hmin]
    constructor <;> omega
  have hresult : UInt32.ofInt (res + Int64.ofNat minSequenceId.toNat).toInt =
      nextSeq s step.toInt := by
    have hnat := toNat_nextSeq s step.toInt
    rw [Int64.toInt_add_of_fits hlast, hres, hmin, ← UInt32.toNat_inj, UInt32.ofInt,
      UInt32.toNat_ofNat_of_lt']
    · omega
    · show _ < 2 ^ 32
      omega
  rw [nextSeqI64, subU32, arith_of_fits (by decide), Exec.pure_bind, addU32,
    arith_of_fits (by decide), Exec.pure_bind, subI64, arith_of_fits hsub, Exec.pure_bind, addI64,
    arith_of_fits hfits, Exec.pure_bind, ← Exec.bind_assoc, hrem, Exec.pure_bind, addI64,
    arith_of_fits hlast, Exec.pure_bind, hresult]

theorem nextSeqI64_of_abs_le (o : Overflow) (s : UInt32) {step : Int64}
    (hstep : |step.toInt| ≤ 2 ^ 62) : nextSeqI64 o s step = pure (nextSeq s step.toInt) := by
  have hs := s.toNat_lt
  obtain ⟨hleft, hright⟩ := abs_le.mp hstep
  refine nextSeqI64_eq o s ?_
  constructor <;> omega

/-- Steps that are counted. -/
theorem nextSeqI64_ofNat (o : Overflow) (s : UInt32) {k : ℕ} (hk : k ≤ 2 ^ 61) :
    nextSeqI64 o s (Int64.ofNat k) = pure (nextSeq s k) := by
  have hcast : (Int64.ofNat k).toInt = k := Int64.toInt_ofNat_of_lt (by omega)
  have hstep : |(Int64.ofNat k).toInt| ≤ 2 ^ 62 := by
    rw [hcast, Nat.abs_cast]
    omega
  rw [nextSeqI64_of_abs_le o s hstep, hcast]

/-! ## Walks from one number to another -/

section

variable {o : Overflow} {start fin seq : UInt32}

theorem nextSeqI64_eq_pure_iff (hfin : fin ≠ 0) {k : ℕ} (hk : k ≤ 2 ^ 61) :
    nextSeqI64 o start (Int64.ofNat k) = pure fin ↔
      position start + (k : SeqCircle) = position fin := by
  have hcast : ((k : ℤ) : SeqCircle) = k := Int.cast_natCast k
  rw [nextSeqI64_ofNat o start hk, Exec.pure_inj, ← hcast, ← position_nextSeq]
  constructor
  · rintro rfl
    rfl
  · exact position_inj (nextSeq_ne_zero _ _) hfin

theorem isLeast_nextSeqI64 (hfin : fin ≠ 0) :
    IsLeast {k : ℕ | k ≤ 2 ^ 61 ∧ nextSeqI64 o start (Int64.ofNat k) = pure fin}
      (Circle.ahead (position start) (position fin)) := by
  have hlt := Circle.ahead_lt (position start) (position fin)
  obtain ⟨hmem, hleast⟩ := Circle.isLeast_ahead (position start) (position fin)
  constructor
  · exact ⟨by omega, (nextSeqI64_eq_pure_iff hfin (by omega)).mpr hmem⟩
  · rintro k ⟨hk, hwalk⟩
    exact hleast ((nextSeqI64_eq_pure_iff hfin hk).mp hwalk)

/-- The numbers of an interval are those that a walk to its end leaves. -/
theorem seqInBetween_iff_walk (hseq : seq ≠ 0) (hstart : start ≠ 0) (hfin : fin ≠ 0) :
    seqInBetween seq start fin = true ↔
      ∃ k < Circle.ahead (position start) (position fin),
        nextSeqI64 o start (Int64.ofNat k) = pure seq := by
  have hlt := Circle.ahead_lt (position start) (position fin)
  rw [seqInBetween_iff_ahead hseq hstart hfin, Circle.ahead_lt_ahead_iff]
  constructor
  · rintro ⟨k, hk, hplace⟩
    exact ⟨k, hk, (nextSeqI64_eq_pure_iff hseq (by omega)).mpr hplace.symm⟩
  · rintro ⟨k, hk, hwalk⟩
    exact ⟨k, hk, ((nextSeqI64_eq_pure_iff hseq (by omega)).mp hwalk).symm⟩

end

/-- `next_seq` walks along the circle of the sequence numbers, in either build and either
direction, and `seq_in_between` asks for the numbers on the shortest walk. -/
theorem next_seq_walks_circle (o : Overflow) {s seq start fin : UInt32} {a b : Int64} (hs : s ≠ 0)
    (ha : |a.toInt| ≤ 2 ^ 61) (hb : |b.toInt| ≤ 2 ^ 61) (hseq : seq ≠ 0) (hstart : start ≠ 0)
    (hfin : fin ≠ 0) :
    (∃ t u, nextSeqI64 o s a = pure t ∧ t ≠ 0 ∧ nextSeqI64 o t b = pure u ∧
      nextSeqI64 o s (a + b) = pure u ∧ (t = s ↔ 2 ^ 32 - 1 ∣ a.toInt)) ∧
    ∃ d, IsLeast {k : ℕ | k ≤ 2 ^ 61 ∧ nextSeqI64 o start (Int64.ofNat k) = pure fin} d ∧
      (seqInBetween seq start fin = true ↔
        ∃ k < d, nextSeqI64 o start (Int64.ofNat k) = pure seq) := by
  obtain ⟨ha_left, ha_right⟩ := abs_le.mp ha
  obtain ⟨hb_left, hb_right⟩ := abs_le.mp hb
  have hsum : (a + b).toInt = a.toInt + b.toInt := by
    refine Int64.toInt_add_of_fits ?_
    constructor <;> omega
  have hboth : |(a + b).toInt| ≤ 2 ^ 62 := by
    rw [hsum, abs_le]
    omega
  constructor
  · refine ⟨nextSeq s a.toInt, nextSeq s (a + b).toInt, nextSeqI64_of_abs_le o s (by omega),
      nextSeq_ne_zero _ _, ?_, nextSeqI64_of_abs_le o s hboth, nextSeq_eq_self_iff hs _⟩
    rw [nextSeqI64_of_abs_le o _ (by omega), nextSeq_nextSeq, hsum]
  · exact ⟨_, isLeast_nextSeqI64 hfin, seqInBetween_iff_walk hseq hstart hfin⟩

/-- A walk back over the end of the numbers and on again, and an interval that passes it. -/
theorem sample_walks_circle :
    (∃ t u, nextSeqI64 .checked 2 (-5) = pure t ∧ t ≠ 0 ∧ nextSeqI64 .checked t 8 = pure u ∧
      nextSeqI64 .checked 2 (-5 + 8) = pure u ∧ (t = 2 ↔ 2 ^ 32 - 1 ∣ (-5 : Int64).toInt)) ∧
    ∃ d, IsLeast {k : ℕ | k ≤ 2 ^ 61 ∧
        nextSeqI64 .checked 4294967290 (Int64.ofNat k) = pure 10} d ∧
      (seqInBetween 3 4294967290 10 = true ↔
        ∃ k < d, nextSeqI64 .checked 4294967290 (Int64.ofNat k) = pure 3) :=
  next_seq_walks_circle .checked (by decide) (by decide) (by decide) (by decide) (by decide)
    (by decide)

end NknSdk
