import NknSdk.Serialization

/-!
# The format is prefix-free

Whatever follows it, the end of a written value can be seen.  The first byte of a
number of variable length tells how many more there are.  `takeVarU64` is the
reading that this suggests; it is not in the source, whose own reader differs from
it on the numbers below `0xFD`.
-/

namespace NknSdk

/-- The bytes after the first one of a number of variable length. -/
def tailWidth (tag : UInt8) : Nat :=
  if tag = 0xFD then 2 else if tag = 0xFE then 4 else if tag = 0xFF then 8 else 0

/-- A number of variable length, taken off the front. -/
def takeVarU64 : Bytes → Option (UInt64 × Bytes)
  | [] => none
  | tag :: bytes =>
      if tailWidth tag = 0 then some (tag.toUInt64, bytes)
      else
        some (UInt64.ofNat (ofBeBytes (bytes.take (tailWidth tag))), bytes.drop (tailWidth tag))

theorem takeVarU64_beBytes (tag : UInt8) {n : UInt64} (hwidth : tailWidth tag ≠ 0)
    (hn : n.toNat < 256 ^ tailWidth tag) (rest : Bytes) :
    takeVarU64 (tag :: beBytes (tailWidth tag) n.toNat ++ rest) = some (n, rest) := by
  have hlen := length_beBytes (tailWidth tag) n.toNat
  rw [List.cons_append, takeVarU64, if_neg hwidth, List.take_left' hlen, List.drop_left' hlen,
    ofBeBytes_beBytes hn, UInt64.ofNat_toNat]

theorem takeVarU64_writeVarU64 (n : UInt64) (rest : Bytes) :
    takeVarU64 (writeVarU64 n ++ rest) = some (n, rest) := by
  unfold writeVarU64
  split
  next h =>
    have hlt : n.toNat < 0xFD := h
    have htag : n.toUInt8.toNat = n.toNat := by
      rw [UInt64.toNat_toUInt8]
      omega
    have hwidth : tailWidth n.toUInt8 = 0 := by
      simp only [tailWidth, ← UInt8.toNat_inj, htag, UInt8.reduceToNat]
      rw [if_neg (by omega), if_neg (by omega), if_neg (by omega)]
    have hval : n.toUInt8.toUInt64 = n := by
      rw [← UInt64.toNat_inj, UInt8.toNat_toUInt64, htag]
    rw [List.singleton_append, takeVarU64, if_pos hwidth, hval]
  next =>
    split
    next h => exact takeVarU64_beBytes 0xFD (by decide) (Nat.lt_of_le_of_lt h (by decide)) rest
    next =>
      split
      next h => exact takeVarU64_beBytes 0xFE (by decide) (Nat.lt_of_le_of_lt h (by decide)) rest
      next => exact takeVarU64_beBytes 0xFF (by decide) n.toNat_lt rest

theorem writeVarU64_selfDelimiting : SelfDelimiting writeVarU64 :=
  SelfDelimiting.of_decoder takeVarU64 takeVarU64_writeVarU64

/-- Two byte strings written with their lengths, and what follows them. -/
theorem writeVarBytes_inj {a b r s : Bytes} (ha : a.length ≤ isizeMax) (hb : b.length ≤ isizeMax)
    (h : writeVarBytes a ++ r = writeVarBytes b ++ s) : a = b ∧ r = s := by
  unfold isizeMax at ha hb
  simp only [writeVarBytes, List.append_assoc] at h
  obtain ⟨hnumber, hrest⟩ := writeVarU64_selfDelimiting _ _ _ _ h
  have hlen : a.length = b.length := by
    have hnat := congrArg UInt64.toNat hnumber
    rw [UInt64.toNat_ofNat', UInt64.toNat_ofNat'] at hnat
    omega
  exact List.append_inj hrest hlen

theorem writeU32_selfDelimiting : SelfDelimiting writeU32 := by
  refine SelfDelimiting.of_length (fun n => length_beBytes 4 n.toNat) ?_
  intro m n h
  exact UInt32.toNat_inj.mp (beBytes_inj m.toNat_lt n.toNat_lt h)

theorem writeBool_selfDelimiting : SelfDelimiting writeBool := by
  refine SelfDelimiting.of_length (fun _ => List.length_singleton) ?_
  intro a b h
  revert a b
  decide

end NknSdk
