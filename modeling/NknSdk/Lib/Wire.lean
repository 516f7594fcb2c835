import NknSdk.Lib.SelfDelimiting
import Mathlib.Tactic

/-!
# The protobuf wire format

Messages are written as a sequence of fields in the order of their numbers.  A
field is a key, which packs the field number with a wire type, and a value.
Integers are base 128 varints with the continuation bit on every byte but the
last.  Strings, bytes, nested messages and packed lists are written as their
length and then their content.  A scalar field at its default value is left out.

`varint` and the length-delimited fields are self-delimiting, which is what makes
a sequence of fields readable.
-/

/-- Bytes on the wire. -/
abbrev Bytes : Type := List UInt8

namespace Wire

/-! ## Varints -/

/-- The varint of `n`, with `fuel` bounding the number of continuation bytes. -/
def varintFuel : Nat → Nat → Bytes
  | 0, n => [UInt8.ofNat n]
  | fuel + 1, n =>
      if n < 128 then [UInt8.ofNat n]
      else UInt8.ofNat (n % 128 + 128) :: varintFuel fuel (n / 128)

/-- The base 128 varint of `n`.  The number itself is enough fuel. -/
def varint (n : Nat) : Bytes := varintFuel n n

theorem varintFuel_of_lt (fuel : Nat) {n : Nat} (h : n < 128) :
    varintFuel fuel n = [UInt8.ofNat n] := by
  cases fuel with
  | zero => rfl
  | succ fuel => simp [varintFuel, h]

/-- Any fuel from the number itself on gives the same varint. -/
theorem varintFuel_eq : ∀ {f g n : Nat}, n ≤ f → n ≤ g → varintFuel f n = varintFuel g n
  | 0, g, n, hf, _ => by
      have hn : n < 128 := by omega
      rw [varintFuel_of_lt 0 hn, varintFuel_of_lt g hn]
  | f + 1, 0, n, _, hg => by
      have hn : n < 128 := by omega
      rw [varintFuel_of_lt (f + 1) hn, varintFuel_of_lt 0 hn]
  | f + 1, g + 1, n, hf, hg => by
      by_cases hn : n < 128
      · rw [varintFuel_of_lt _ hn, varintFuel_of_lt _ hn]
      · simp only [varintFuel, if_neg hn]
        rw [varintFuel_eq (f := f) (g := g) (by omega) (by omega)]

theorem varint_of_lt {n : Nat} (h : n < 128) : varint n = [UInt8.ofNat n] :=
  varintFuel_of_lt n h

theorem varint_of_ge {n : Nat} (h : 128 ≤ n) :
    varint n = UInt8.ofNat (n % 128 + 128) :: varint (n / 128) := by
  obtain ⟨k, rfl⟩ : ∃ k, n = k + 1 := ⟨n - 1, by omega⟩
  rw [varint, varintFuel, if_neg (by omega), varint,
    varintFuel_eq (f := k) (g := (k + 1) / 128) (by omega) (by omega)]

theorem varint_ne_nil (n : Nat) : varint n ≠ [] := by
  by_cases h : n < 128
  · simp [varint_of_lt h]
  · rw [varint_of_ge (by omega)]
    exact List.cons_ne_nil _ _

theorem ofNat_inj_of_lt {m n : Nat} (hm : m < 256) (hn : n < 256)
    (h : UInt8.ofNat m = UInt8.ofNat n) : m = n := by
  have := congrArg UInt8.toNat h
  rw [UInt8.toNat_ofNat', UInt8.toNat_ofNat'] at this
  omega

/-- A varint can be read back whatever follows it. -/
theorem varint_selfDelimiting : SelfDelimiting varint := by
  intro m
  induction m using Nat.strongRecOn with
  | ind m ih =>
      intro n r s h
      by_cases hm : m < 128
      · by_cases hn : n < 128
        · rw [varint_of_lt hm, varint_of_lt hn] at h
          simp only [List.cons_append, List.nil_append, List.cons.injEq] at h
          exact ⟨ofNat_inj_of_lt (by omega) (by omega) h.1, h.2⟩
        · rw [varint_of_lt hm, varint_of_ge (by omega)] at h
          simp only [List.cons_append, List.cons.injEq] at h
          have := ofNat_inj_of_lt (by omega) (by omega) h.1
          omega
      · by_cases hn : n < 128
        · rw [varint_of_ge (by omega), varint_of_lt hn] at h
          simp only [List.cons_append, List.cons.injEq] at h
          have := ofNat_inj_of_lt (by omega) (by omega) h.1
          omega
        · rw [varint_of_ge (n := m) (by omega), varint_of_ge (n := n) (by omega)] at h
          simp only [List.cons_append, List.cons.injEq] at h
          have hlow := ofNat_inj_of_lt (by omega) (by omega) h.1
          obtain ⟨hhigh, hrest⟩ := ih (m / 128) (by omega) (n / 128) r s h.2
          exact ⟨by omega, hrest⟩

/-! ## Fields -/

/-- The key of a field: its number and its wire type. -/
def key (field wireType : Nat) : Bytes := varint (field * 8 + wireType)

/-- A length-delimited value that is always written. -/
def delimited (field : Nat) (body : Bytes) : Bytes :=
  key field 2 ++ varint body.length ++ body

/-- An integer field, left out at zero. -/
def uintField (field n : Nat) : Bytes := if n = 0 then [] else key field 0 ++ varint n

def boolField (field : Nat) (b : Bool) : Bytes := uintField field b.toNat

/-- A bytes field, left out when empty. -/
def bytesField (field : Nat) (b : Bytes) : Bytes := if b = [] then [] else delimited field b

/-- A repeated integer field, packed into one value. -/
def packedField (field : Nat) (ns : List Nat) : Bytes := bytesField field (ns.flatMap varint)

theorem delimited_ne_nil (field : Nat) (body : Bytes) : delimited field body ≠ [] := by
  simp [delimited, key, varint_ne_nil]

/-- A length-delimited value can be read back whatever follows it. -/
theorem delimited_selfDelimiting (field : Nat) : SelfDelimiting (delimited field) := by
  intro a b r s h
  simp only [delimited, List.append_assoc, List.append_cancel_left_eq] at h
  obtain ⟨hlen, hrest⟩ := varint_selfDelimiting _ _ _ _ h
  exact List.append_inj hrest hlen

/-- A message with two bytes fields of different keys determines both. -/
theorem bytesField_pair_inj {k l : UInt8} (hkl : k ≠ l) {f g : Nat}
    (hf : key f 2 = [k]) (hg : key g 2 = [l]) {a b a' b' : Bytes}
    (h : bytesField f a ++ bytesField g b = bytesField f a' ++ bytesField g b') :
    a = a' ∧ b = b' := by
  have hsecond : ∀ {x y : Bytes}, bytesField g x = bytesField g y → x = y := by
    intro x y hxy
    unfold bytesField at hxy
    split at hxy
    next hx =>
      split at hxy
      next hy => rw [hx, hy]
      next hy => exact absurd hxy.symm (delimited_ne_nil g y)
    next hx =>
      split at hxy
      next hy => exact absurd hxy (delimited_ne_nil g x)
      next hy => exact (delimited_selfDelimiting g).injective hxy
  have hclash : ∀ {x y r : Bytes}, bytesField g x ≠ delimited f y ++ r := by
    intro x y r hxy
    unfold bytesField at hxy
    split at hxy
    · simp [delimited, hf] at hxy
    · simp only [delimited, hf, hg, List.cons_append, List.cons.injEq] at hxy
      exact hkl hxy.1.symm
  by_cases ha : a = []
  · by_cases ha' : a' = []
    · simp only [ha, ha', bytesField, if_true, List.nil_append] at h
      exact ⟨by rw [ha, ha'], hsecond h⟩
    · have h' : bytesField g b = delimited f a' ++ bytesField g b' := by
        simpa [ha, ha', bytesField] using h
      exact absurd h' hclash
  · by_cases ha' : a' = []
    · have h' : bytesField g b' = delimited f a ++ bytesField g b := by
        simpa [ha, ha', bytesField] using h.symm
      exact absurd h' hclash
    · have h' : delimited f a ++ bytesField g b = delimited f a' ++ bytesField g b' := by
        simpa [ha, ha', bytesField] using h
      obtain ⟨haa, hbb⟩ := delimited_selfDelimiting f _ _ _ _ h'
      exact ⟨haa, hsecond hbb⟩

end Wire
