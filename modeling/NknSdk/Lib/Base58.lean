import Mathlib.Data.Nat.Digits.Lemmas
import Mathlib.Tactic

/-!
# Base 58

`encode` reads bytes as one number, highest byte first, and writes it in base 58.
A leading zero byte says nothing of the number and is written as a digit of its own.

The length of the text is fixed by the leading zeros and the size of the number
(`length_encode`); where the first byte is not zero it is known from that byte and
the number of bytes (`length_encode_cons`).
-/

namespace Base58

/-- The digits, without `0`, `O`, `I` and `l`. -/
def alphabet : List Char := "123456789ABCDEFGHJKLMNPQRSTUVWXYZabcdefghijkmnopqrstuvwxyz".toList

def digit (n : Nat) : Char := alphabet.getD n '1'

/-- The number that bytes stand for. -/
def number (bytes : List UInt8) : Nat := Nat.ofDigits 256 (bytes.reverse.map UInt8.toNat)

def leadingZeros (bytes : List UInt8) : Nat := (bytes.takeWhile fun b => b = 0).length

/-- `bs58::encode`, into a string. -/
def encode (bytes : List UInt8) : String :=
  String.ofList
    (List.replicate (leadingZeros bytes) (digit 0) ++
      (Nat.digits 58 (number bytes)).reverse.map digit)

theorem number_cons (b : UInt8) (bs : List UInt8) :
    number (b :: bs) = number bs + 256 ^ bs.length * b.toNat := by
  simp [number, Nat.ofDigits_append]

theorem number_lt (bs : List UInt8) : number bs < 256 ^ bs.length := by
  have hdigits : ∀ n ∈ bs.reverse.map UInt8.toNat, n < 256 := by
    intro n hn
    obtain ⟨b, -, rfl⟩ := List.mem_map.mp hn
    exact b.toNat_lt
  have hlt := Nat.ofDigits_lt_base_pow_length (by omega : 1 < 256) hdigits
  rwa [List.length_map, List.length_reverse] at hlt

theorem length_encode (bytes : List UInt8) :
    (encode bytes).length = leadingZeros bytes + (Nat.digits 58 (number bytes)).length := by
  simp [encode]

/-- The length of the text, from the first byte and the number of the others. -/
theorem length_encode_cons {b : UInt8} {bs : List UInt8} {k : Nat} (hb : b ≠ 0)
    (hlow : 58 ^ k ≤ 256 ^ bs.length * b.toNat)
    (hhigh : 256 ^ bs.length * (b.toNat + 1) ≤ 58 ^ (k + 1)) :
    (encode (b :: bs)).length = k + 1 := by
  have hzeros : leadingZeros (b :: bs) = 0 := by simp [leadingZeros, hb]
  have hlt := number_lt bs
  have hmore : k < (Nat.digits 58 (number (b :: bs))).length := by
    rw [Nat.lt_digits_length_iff (by omega), number_cons]
    exact hlow.trans (Nat.le_add_left _ _)
  have hfew : (Nat.digits 58 (number (b :: bs))).length ≤ k + 1 := by
    rw [Nat.digits_length_le_iff (by omega), number_cons]
    rw [Nat.mul_add_one] at hhigh
    omega
  rw [length_encode, hzeros]
  omega

end Base58
