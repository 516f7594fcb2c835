import Mathlib.Tactic

/-!
# Hexadecimal text

`encode` writes each byte as two lower-case digits, and `decode` reads digits of
either case, two a byte.  Decoding undoes encoding (`decode_encode`), and the text
is twice as long as the bytes (`length_encode`).
-/

namespace Hex

/-- The digit of a number below 16. -/
def digit (n : Nat) : Char := Char.ofNat (if n < 10 then n + 48 else n + 87)

/-- The number of a digit. -/
def value (c : Char) : Option Nat :=
  let n := c.toNat
  if 48 ≤ n ∧ n ≤ 57 then some (n - 48)
  else if 97 ≤ n ∧ n ≤ 102 then some (n - 87)
  else if 65 ≤ n ∧ n ≤ 70 then some (n - 55)
  else none

def encodeChars : List UInt8 → List Char
  | [] => []
  | b :: bs => digit (b.toNat / 16) :: digit (b.toNat % 16) :: encodeChars bs

def decodeChars : List Char → Option (List UInt8)
  | [] => some []
  | [_] => none
  | c :: d :: cs =>
      match value c, value d, decodeChars cs with
      | some high, some low, some bs => some (UInt8.ofNat (16 * high + low) :: bs)
      | _, _, _ => none

/-- `hex::encode`. -/
def encode (bytes : List UInt8) : String := String.ofList (encodeChars bytes)

/-- `hex::decode`. -/
def decode (text : String) : Option (List UInt8) := decodeChars text.toList

theorem value_digit {n : Nat} (h : n < 16) : value (digit n) = some n := by
  have hall : ∀ m < 16, value (digit m) = some m := by decide
  exact hall n h

theorem decodeChars_encodeChars (bs : List UInt8) : decodeChars (encodeChars bs) = some bs := by
  induction bs with
  | nil => rfl
  | cons b bs ih =>
      have hb := b.toNat_lt
      have hhigh : value (digit (b.toNat / 16)) = some (b.toNat / 16) := value_digit (by omega)
      have hlow : value (digit (b.toNat % 16)) = some (b.toNat % 16) := value_digit (by omega)
      have hsum : 16 * (b.toNat / 16) + b.toNat % 16 = b.toNat := Nat.div_add_mod ..
      simp only [encodeChars, decodeChars, hhigh, hlow, ih, hsum, UInt8.ofNat_toNat]

theorem decode_encode (bytes : List UInt8) : decode (encode bytes) = some bytes := by
  rw [decode, encode, String.toList_ofList, decodeChars_encodeChars]

theorem value_of_mem_encodeChars {c : Char} {bs : List UInt8} (h : c ∈ encodeChars bs) :
    ∃ n, value c = some n := by
  induction bs with
  | nil => cases h
  | cons b bs ih =>
      have hb := b.toNat_lt
      simp only [encodeChars, List.mem_cons] at h
      rcases h with rfl | rfl | h
      · exact ⟨_, value_digit (by omega)⟩
      · exact ⟨_, value_digit (by omega)⟩
      · exact ih h

/-- Only digits are written. -/
theorem notMem_encode {c : Char} (h : value c = none) (bytes : List UInt8) :
    c ∉ (encode bytes).toList := by
  intro hc
  rw [encode, String.toList_ofList] at hc
  obtain ⟨n, hn⟩ := value_of_mem_encodeChars hc
  rw [h] at hn
  cases hn

theorem length_encode (bytes : List UInt8) : (encode bytes).length = 2 * bytes.length := by
  rw [encode, String.length_ofList]
  induction bytes with
  | nil => rfl
  | cons b bs ih =>
      simp only [encodeChars, List.length_cons, ih]
      omega

end Hex
