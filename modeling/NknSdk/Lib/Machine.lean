import NknSdk.Lib.Exec
import Mathlib.Tactic

/-!
# Fixed-width arithmetic

The additions and subtractions of the machine types, as calls that may overflow.
Each is `Exec.arith` at the condition under which the exact result fits.  Numbers
are written out as bytes from either end.
-/

/-- The `width` low bytes of a number, lowest first. -/
def leBytes (width n : Nat) : List UInt8 :=
  (List.range width).map fun i => UInt8.ofNat (n / 256 ^ i % 256)

/-- The `width` low bytes of a number, highest first. -/
def beBytes (width n : Nat) : List UInt8 := (leBytes width n).reverse

/-- The number written as bytes, lowest first. -/
def ofLeBytes (bytes : List UInt8) : Nat := bytes.foldr (fun b n => b.toNat + 256 * n) 0

/-- The number written as bytes, highest first. -/
def ofBeBytes (bytes : List UInt8) : Nat := ofLeBytes bytes.reverse

theorem length_leBytes (width n : Nat) : (leBytes width n).length = width := by
  simp [leBytes]

theorem length_beBytes (width n : Nat) : (beBytes width n).length = width := by
  rw [beBytes, List.length_reverse, length_leBytes]

theorem leBytes_succ (width n : Nat) :
    leBytes (width + 1) n = UInt8.ofNat (n % 256) :: leBytes width (n / 256) := by
  simp only [leBytes, List.range_succ_eq_map, List.map_cons, List.map_map, pow_zero, Nat.div_one]
  congr 1
  refine List.map_congr_left fun i _ => ?_
  rw [Function.comp_apply, Nat.div_div_eq_div_mul, Nat.succ_eq_add_one, Nat.pow_succ']

theorem ofLeBytes_leBytes : ∀ (width n : Nat), ofLeBytes (leBytes width n) = n % 256 ^ width
  | 0, n => by simp [leBytes, ofLeBytes, Nat.mod_one]
  | width + 1, n => by
      have hrest : ofLeBytes (leBytes width (n / 256)) = n / 256 % 256 ^ width :=
        ofLeBytes_leBytes width (n / 256)
      have hlow : (UInt8.ofNat (n % 256)).toNat = n % 256 := by
        rw [UInt8.toNat_ofNat']
        omega
      rw [leBytes_succ, ofLeBytes, List.foldr_cons, ← ofLeBytes, hrest, hlow, Nat.pow_succ',
        Nat.mod_mul]

/-- Enough bytes give the number back. -/
theorem ofBeBytes_beBytes {width n : Nat} (h : n < 256 ^ width) :
    ofBeBytes (beBytes width n) = n := by
  rw [ofBeBytes, beBytes, List.reverse_reverse, ofLeBytes_leBytes, Nat.mod_eq_of_lt h]

theorem beBytes_inj {width m n : Nat} (hm : m < 256 ^ width) (hn : n < 256 ^ width)
    (h : beBytes width m = beBytes width n) : m = n := by
  rw [← ofBeBytes_beBytes hm, h, ofBeBytes_beBytes hn]

/-- The exact result is an `i64`. -/
def FitsI64 (n : Int) : Prop := -2 ^ 63 ≤ n ∧ n < 2 ^ 63

instance (n : Int) : Decidable (FitsI64 n) := inferInstanceAs (Decidable (_ ∧ _))

namespace Exec

variable {ε σ : Type}

def addI64 (o : Overflow) (a b : Int64) : Exec ε σ Int64 :=
  arith o (FitsI64 (a.toInt + b.toInt)) (a + b)

def subI64 (o : Overflow) (a b : Int64) : Exec ε σ Int64 :=
  arith o (FitsI64 (a.toInt - b.toInt)) (a - b)

def addU32 (o : Overflow) (a b : UInt32) : Exec ε σ UInt32 :=
  arith o (a.toNat + b.toNat < 2 ^ 32) (a + b)

def subU32 (o : Overflow) (a b : UInt32) : Exec ε σ UInt32 :=
  arith o (b.toNat ≤ a.toNat) (a - b)

def mulU32 (o : Overflow) (a b : UInt32) : Exec ε σ UInt32 :=
  arith o (a.toNat * b.toNat < 2 ^ 32) (a * b)

/-- The remainder has the sign of the first number.  No build gives one where there is none or
the quotient does not fit. -/
def remI64 (a b : Int64) : Exec ε σ Int64 := do
  require (b ≠ 0 ∧ ¬ (a = Int64.minValue ∧ b = -1))
  return a % b

def addU64 (o : Overflow) (a b : UInt64) : Exec ε σ UInt64 :=
  arith o (a.toNat + b.toNat < 2 ^ 64) (a + b)

def mulU64 (o : Overflow) (a b : UInt64) : Exec ε σ UInt64 :=
  arith o (a.toNat * b.toNat < 2 ^ 64) (a * b)

end Exec

theorem UInt32.toNat_add_of_lt {a b : UInt32} (h : a.toNat + b.toNat < 2 ^ 32) :
    (a + b).toNat = a.toNat + b.toNat := by
  rw [UInt32.toNat_add, Nat.mod_eq_of_lt h]

theorem Int64.toInt_add_of_fits {a b : Int64} (h : FitsI64 (a.toInt + b.toInt)) :
    (a + b).toInt = a.toInt + b.toInt := by
  rw [Int64.toInt_add]
  exact Int.bmod_eq_of_le (by simpa using h.1) (by simpa using h.2)

theorem Int64.toInt_sub_of_fits {a b : Int64} (h : FitsI64 (a.toInt - b.toInt)) :
    (a - b).toInt = a.toInt - b.toInt := by
  rw [Int64.toInt_sub]
  exact Int.bmod_eq_of_le (by simpa using h.1) (by simpa using h.2)

/-- A remainder that is made positive by adding the divisor. -/
theorem Int.tmod_add_eq_emod (a : ℤ) {m : ℤ} (hm : 0 < m) :
    (if a.tmod m < 0 then a.tmod m + m else a.tmod m) = a % m := by
  have hlt := Int.emod_lt_of_pos a hm
  have hnonneg := Int.emod_nonneg a (Int.ne_of_gt hm)
  have hrem := Int.tmod_eq_emod (a := a) (b := m)
  by_cases hdiv : 0 ≤ a ∨ m ∣ a
  · rw [if_pos hdiv, Int.natCast_zero, sub_zero] at hrem
    rw [hrem, if_neg (Int.not_lt.mpr hnonneg)]
  · rw [if_neg hdiv, Int.natAbs_of_nonneg (Int.le_of_lt hm)] at hrem
    rw [hrem, if_pos (by omega), sub_add_cancel]
