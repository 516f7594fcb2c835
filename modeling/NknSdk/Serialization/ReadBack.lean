import NknSdk.Serialization

/-!
# Reading back what was written

A list of values is written to one buffer, each with its own writer, and read again
with the readers in the same order.  Every reader gives back what its writer wrote
and takes no more, except where a number below `0xFD` was written as one byte:
`readVarU64` takes that byte for the size and reads one more.

`readAll_of_large` is the round trip where no such number is written.  A reader
that returns the value written has taken as many bytes as its writer wrote, one
more for a number below `0xFD`, and at most one less for a number from `0xFD` to
`0xFF` (`kindRead_length`).  So a misread number can only go unnoticed at the end
of a list that has such a number as well.
-/

namespace NknSdk

open Exec

/-! ## Values and their kinds -/

/-- A value with the function that writes it. -/
inductive Value where
  | varU64 (val : UInt64)
  | varBytes (val : Bytes)
  | varStr (val : String)
  | u8 (val : UInt8)
  | u16 (val : UInt16)
  | u32 (val : UInt32)
  | u64 (val : UInt64)
  | bool (val : Bool)
deriving DecidableEq

inductive Kind where
  | varU64
  | varBytes
  | varStr
  | u8
  | u16
  | u32
  | u64
  | bool
deriving DecidableEq

namespace Value

def kind : Value → Kind
  | varU64 _ => .varU64
  | varBytes _ => .varBytes
  | varStr _ => .varStr
  | u8 _ => .u8
  | u16 _ => .u16
  | u32 _ => .u32
  | u64 _ => .u64
  | bool _ => .bool

def write : Value → Bytes
  | varU64 val => writeVarU64 val
  | varBytes val => writeVarBytes val
  | varStr val => writeVarStr val
  | u8 val => writeU8 val
  | u16 val => writeU16 val
  | u32 val => writeU32 val
  | u64 val => writeU64 val
  | bool val => writeBool val

/-- What the type of the value allows. -/
def InMemory : Value → Prop
  | varBytes val => val.length ≤ isizeMax
  | varStr val => val.utf8ByteSize ≤ isizeMax
  | _ => True

/-- The number that is written with a variable length. -/
def varNumber : Value → Option UInt64
  | varU64 val => some val
  | varBytes val => some (UInt64.ofNat val.length)
  | varStr val => some (UInt64.ofNat val.utf8ByteSize)
  | _ => none

/-- The number is written as one byte. -/
def IsShort (v : Value) : Prop := ∃ n ∈ v.varNumber, n < 0xFD

/-- The number is written as three bytes although it would fit one. -/
def IsPadded (v : Value) : Prop := ∃ n ∈ v.varNumber, 0xFD ≤ n ∧ n ≤ 0xFF

end Value

instance (v : Value) : Decidable v.IsShort :=
  inferInstanceAs (Decidable (∃ n ∈ v.varNumber, n < 0xFD))

instance (v : Value) : Decidable v.IsPadded :=
  inferInstanceAs (Decidable (∃ n ∈ v.varNumber, 0xFD ≤ n ∧ n ≤ 0xFF))

/-- The reader of a kind. -/
def Kind.read : Kind → Reader Value
  | varU64 => do return .varU64 (← readVarU64)
  | varBytes => do return .varBytes (← readVarBytes)
  | varStr => do return .varStr (← readVarStr)
  | u8 => do return .u8 (← readU8)
  | u16 => do return .u16 (← readU16)
  | u32 => do return .u32 (← readU32)
  | u64 => do return .u64 (← readU64)
  | bool => do return .bool (← readBool)

/-- The values written one after the other. -/
def writeAll (vs : List Value) : Bytes := vs.flatMap Value.write

/-- The readers applied one after the other. -/
def readAll : List Kind → Reader (List Value)
  | [] => return []
  | kind :: kinds => do
      let v ← kind.read
      let vs ← readAll kinds
      return v :: vs

/-- The readers of the values give them back and leave what was written after them. -/
def ReadsBack (vs : List Value) (trailing : Bytes) : Prop :=
  readAll (vs.map Value.kind) (writeAll vs ++ trailing) = (.ok vs, trailing)

/-! ## The fixed widths -/

theorem drain_append {n : Nat} {bytes : Bytes} (h : bytes.length = n) (rest : Bytes) :
    drain n (bytes ++ rest) = (.ok bytes, rest) := by
  subst h
  simp [drain]

/-- What a reader drains stood at the front of the buffer. -/
theorem drain_ok {n : Nat} {buf rest bytes : Bytes} (h : drain n buf = (.ok bytes, rest)) :
    buf = bytes ++ rest ∧ bytes.length = n := by
  unfold drain at h
  split at h
  next hn =>
    cases h
    simp [hn]
  next => cases h

theorem readU8_cons (b : UInt8) (rest : Bytes) : readU8 (b :: rest) = (.ok b, rest) := by
  have hdrain : drain 1 (b :: rest) = (.ok [b], rest) := by simp [drain]
  rw [readU8, bind_ok hdrain]
  rfl

/-- A number of `k` bytes is read back. -/
theorem readBe_beBytes {α : Type} (f : Nat → α) {k n : Nat} (h : n < 256 ^ k) (rest : Bytes) :
    (drain k >>= fun buf => pure (f (ofBeBytes buf)) : Reader α) (beBytes k n ++ rest) =
      (.ok (f n), rest) := by
  rw [bind_ok (drain_append (length_beBytes k n) rest), pure_apply, ofBeBytes_beBytes h]

theorem readU16_beBytes {n : Nat} (h : n < 256 ^ 2) (rest : Bytes) :
    readU16 (beBytes 2 n ++ rest) = (.ok (UInt16.ofNat n), rest) := readBe_beBytes UInt16.ofNat h rest

theorem readU32_beBytes {n : Nat} (h : n < 256 ^ 4) (rest : Bytes) :
    readU32 (beBytes 4 n ++ rest) = (.ok (UInt32.ofNat n), rest) := readBe_beBytes UInt32.ofNat h rest

theorem readU64_beBytes {n : Nat} (h : n < 256 ^ 8) (rest : Bytes) :
    readU64 (beBytes 8 n ++ rest) = (.ok (UInt64.ofNat n), rest) := readBe_beBytes UInt64.ofNat h rest

theorem readBool_writeBool (val : Bool) (rest : Bytes) :
    readBool (writeBool val ++ rest) = (.ok val, rest) := by
  cases val with
  | false => rw [readBool, writeBool, List.singleton_append, bind_ok (readU8_cons _ rest)]; rfl
  | true => rw [readBool, writeBool, List.singleton_append, bind_ok (readU8_cons _ rest)]; rfl

/-! ## The variable width -/

/-- A number that is not short is read back. -/
theorem readVarU64_writeVarU64 {val : UInt64} (h : ¬ val < 0xFD) (rest : Bytes) :
    readVarU64 (writeVarU64 val ++ rest) = (.ok val, rest) := by
  unfold writeVarU64
  rw [if_neg h]
  split
  next h16 =>
    have hfits : val.toNat < 256 ^ 2 := Nat.lt_of_le_of_lt h16 (by decide)
    have hval : (UInt16.ofNat val.toNat).toUInt64 = val := by
      rw [← UInt64.toNat_inj, UInt16.toNat_toUInt64, UInt16.toNat_ofNat']
      exact Nat.mod_eq_of_lt hfits
    rw [readVarU64, List.cons_append, bind_ok (readU8_cons _ _), if_pos rfl,
      bind_ok (readU16_beBytes hfits rest), pure_apply, hval]
  next =>
    split
    next h32 =>
      have hfits : val.toNat < 256 ^ 4 := Nat.lt_of_le_of_lt h32 (by decide)
      have hval : (UInt32.ofNat val.toNat).toUInt64 = val := by
        rw [← UInt64.toNat_inj, UInt32.toNat_toUInt64, UInt32.toNat_ofNat']
        exact Nat.mod_eq_of_lt hfits
      rw [readVarU64, List.cons_append, bind_ok (readU8_cons _ _), if_neg (by decide), if_pos rfl,
        bind_ok (readU32_beBytes hfits rest), pure_apply, hval]
    next =>
      rw [readVarU64, List.cons_append, bind_ok (readU8_cons _ _), if_neg (by decide),
        if_neg (by decide), if_pos rfl, readU64_beBytes val.toNat_lt rest, UInt64.ofNat_toNat]

theorem readVarBytes_writeVarBytes {val : Bytes} (hval : val.length ≤ isizeMax)
    (h : ¬ UInt64.ofNat val.length < 0xFD) (rest : Bytes) :
    readVarBytes (writeVarBytes val ++ rest) = (.ok val, rest) := by
  have hlen : (UInt64.ofNat val.length).toNat = val.length := by
    rw [UInt64.toNat_ofNat', Nat.mod_eq_of_lt]
    unfold isizeMax at hval
    omega
  rw [readVarBytes, writeVarBytes, List.append_assoc, bind_ok (readVarU64_writeVarU64 h _), hlen,
    drain_append rfl]

theorem writeVarStr_eq (val : String) : writeVarStr val = writeVarBytes val.toUTF8.toList := by
  rw [writeVarStr, writeVarBytes, Utf8.length_toUTF8]

theorem readVarStr_writeVarStr {val : String} (hval : val.utf8ByteSize ≤ isizeMax)
    (h : ¬ UInt64.ofNat val.utf8ByteSize < 0xFD) (rest : Bytes) :
    readVarStr (writeVarStr val ++ rest) = (.ok val, rest) := by
  rw [← Utf8.length_toUTF8] at hval h
  rw [writeVarStr_eq, readVarStr, bind_ok (readVarBytes_writeVarBytes hval h rest),
    Utf8.strict_toUTF8]
  rfl

/-! ## Values without a short number -/

/-- The reader of a value that is not short takes it off the buffer. -/
theorem kindRead_write {v : Value} (hv : v.InMemory) (h : ¬ v.IsShort) (rest : Bytes) :
    v.kind.read (v.write ++ rest) = (.ok v, rest) := by
  cases v with
  | varU64 val =>
      have hval : ¬ val < 0xFD := fun hlt => h ⟨val, rfl, hlt⟩
      rw [Value.kind, Kind.read, Value.write, bind_ok (readVarU64_writeVarU64 hval rest), pure_apply]
  | varBytes val =>
      have hval : ¬ UInt64.ofNat val.length < 0xFD := fun hlt => h ⟨_, rfl, hlt⟩
      rw [Value.kind, Kind.read, Value.write, bind_ok (readVarBytes_writeVarBytes hv hval rest),
        pure_apply]
  | varStr val =>
      have hval : ¬ UInt64.ofNat val.utf8ByteSize < 0xFD := fun hlt => h ⟨_, rfl, hlt⟩
      rw [Value.kind, Kind.read, Value.write, bind_ok (readVarStr_writeVarStr hv hval rest),
        pure_apply]
  | u8 val => rw [Value.kind, Kind.read, Value.write, writeU8, List.singleton_append,
      bind_ok (readU8_cons val rest), pure_apply]
  | u16 val => rw [Value.kind, Kind.read, Value.write, writeU16,
      bind_ok (readU16_beBytes val.toNat_lt rest), pure_apply, UInt16.ofNat_toNat]
  | u32 val => rw [Value.kind, Kind.read, Value.write, writeU32,
      bind_ok (readU32_beBytes val.toNat_lt rest), pure_apply, UInt32.ofNat_toNat]
  | u64 val => rw [Value.kind, Kind.read, Value.write, writeU64,
      bind_ok (readU64_beBytes val.toNat_lt rest), pure_apply, UInt64.ofNat_toNat]
  | bool val => rw [Value.kind, Kind.read, Value.write, bind_ok (readBool_writeBool val rest),
      pure_apply]

theorem writeAll_cons (v : Value) (vs : List Value) : writeAll (v :: vs) = v.write ++ writeAll vs :=
  List.flatMap_cons

theorem writeAll_append (vs ws : List Value) : writeAll (vs ++ ws) = writeAll vs ++ writeAll ws :=
  List.flatMap_append

theorem writeAll_singleton (v : Value) : writeAll [v] = v.write := List.append_nil _

/-- Values without a short number are read back. -/
theorem readAll_of_large (trailing : Bytes) : ∀ vs : List Value, (∀ v ∈ vs, v.InMemory) →
    (∀ v ∈ vs, ¬ v.IsShort) → ReadsBack vs trailing := by
  intro vs
  induction vs with
  | nil =>
      intro _ _
      rfl
  | cons v vs ih =>
      intro hmem hlarge
      have hhead : v.kind.read (v.write ++ (writeAll vs ++ trailing)) =
          (.ok v, writeAll vs ++ trailing) :=
        kindRead_write (hmem v (by simp)) (hlarge v (by simp)) _
      have htail : ReadsBack vs trailing :=
        ih (fun w hw => hmem w (by simp [hw])) (fun w hw => hlarge w (by simp [hw]))
      rw [ReadsBack, List.map_cons, writeAll_cons, List.append_assoc, readAll, bind_ok hhead,
        bind_ok htail, pure_apply]

/-! ## How much a reader takes -/

/-- One if the number is written as one byte. -/
def short (n : UInt64) : Nat := if n < 0xFD then 1 else 0

/-- One if the number is written as three bytes although it would fit one. -/
def padded (n : UInt64) : Nat := if 0xFD ≤ n ∧ n ≤ 0xFF then 1 else 0

theorem padded_eq (n : UInt64) :
    padded n = if 0xFD ≤ n.toNat ∧ n.toNat ≤ 0xFF then 1 else 0 := by
  simp [padded, UInt64.le_iff_toNat_le]

theorem length_writeVarU64 (n : UInt64) : (writeVarU64 n).length + short n =
    if n.toNat < 0xFD then 2 else if n.toNat ≤ 0xFFFF then 3
    else if n.toNat ≤ 0xFFFFFFFF then 5 else 9 := by
  simp only [writeVarU64, short, UInt64.lt_iff_toNat_lt, UInt64.le_iff_toNat_le, UInt64.reduceToNat]
  split
  · simp
  · split
    · simp [length_beBytes]
    · split
      · simp [length_beBytes]
      · simp [length_beBytes]

theorem readU8_ok {buf rest : Bytes} {b : UInt8} (h : readU8 buf = (.ok b, rest)) :
    buf = b :: rest := by
  obtain ⟨bytes, buf', hdrain, hhead⟩ := bind_eq_ok h
  obtain ⟨rfl, hlen⟩ := drain_ok hdrain
  obtain ⟨c, rfl⟩ := List.length_eq_one_iff.mp hlen
  cases hhead
  rfl

/-- A reader of `k` bytes takes `k` bytes. -/
theorem length_of_readBe {α : Type} {f : Nat → α} {k : Nat} {buf rest : Bytes} {a : α}
    (h : (drain k >>= fun buf => pure (f (ofBeBytes buf)) : Reader α) buf = (.ok a, rest)) :
    buf.length = rest.length + k := by
  obtain ⟨bytes, buf', hdrain, ha⟩ := bind_eq_ok h
  obtain ⟨rfl, hlen⟩ := drain_ok hdrain
  cases ha
  rw [List.length_append, hlen, Nat.add_comm]

theorem readU16_ok {buf rest : Bytes} {val : UInt16} (h : readU16 buf = (.ok val, rest)) :
    buf.length = rest.length + 2 := length_of_readBe h

theorem readU32_ok {buf rest : Bytes} {val : UInt32} (h : readU32 buf = (.ok val, rest)) :
    buf.length = rest.length + 4 := length_of_readBe h

theorem readU64_ok {buf rest : Bytes} {val : UInt64} (h : readU64 buf = (.ok val, rest)) :
    buf.length = rest.length + 8 := length_of_readBe h

/-- A number that was read took its bytes, one more if it is short, and at most one
less if it is padded. -/
theorem readVarU64_length {buf rest : Bytes} {n : UInt64} (h : readVarU64 buf = (.ok n, rest)) :
    (writeVarU64 n).length + short n + rest.length ≤ buf.length + padded n := by
  have hlen := length_writeVarU64 n
  rw [padded_eq]
  obtain ⟨size, buf', hsize, hn⟩ := bind_eq_ok h
  cases readU8_ok hsize
  rw [List.length_cons]
  split at hn
  next =>
    obtain ⟨val, rest', hval, hn⟩ := bind_eq_ok hn
    cases hn
    have hrest := readU16_ok hval
    have hlt := val.toNat_lt
    rw [UInt16.toNat_toUInt64] at hlen ⊢
    split_ifs at hlen ⊢ <;> omega
  next =>
    split at hn
    next =>
      obtain ⟨val, rest', hval, hn⟩ := bind_eq_ok hn
      cases hn
      have hrest := readU32_ok hval
      have hlt := val.toNat_lt
      rw [UInt32.toNat_toUInt64] at hlen ⊢
      split_ifs at hlen ⊢ <;> omega
    next =>
      split at hn
      next =>
        have hrest := readU64_ok hn
        split_ifs at hlen ⊢ <;> omega
      next =>
        obtain ⟨val, rest', hval, hn⟩ := bind_eq_ok hn
        cases hn
        cases readU8_ok hval
        have hlt := val.toNat_lt
        rw [UInt8.toNat_toUInt64] at hlen ⊢
        rw [List.length_cons]
        split_ifs at hlen ⊢ <;> omega

theorem readVarBytes_length {buf rest val : Bytes} (h : readVarBytes buf = (.ok val, rest)) :
    (writeVarBytes val).length + short (UInt64.ofNat val.length) + rest.length ≤
      buf.length + padded (UInt64.ofNat val.length) := by
  obtain ⟨n, buf', hn, hval⟩ := bind_eq_ok h
  have htaken := readVarU64_length hn
  obtain ⟨rfl, hlen⟩ := drain_ok hval
  have hnumber : UInt64.ofNat val.length = n := by rw [hlen, UInt64.ofNat_toNat]
  rw [writeVarBytes, hnumber, List.length_append]
  rw [List.length_append] at htaken
  omega

theorem readVarStr_eq_ok {buf rest : Bytes} {val : String}
    (h : readVarStr buf = (.ok val, rest)) :
    readVarBytes buf = (.ok val.toUTF8.toList, rest) := by
  obtain ⟨bytes, buf', hbytes, hval⟩ := bind_eq_ok h
  cases htext : Utf8.strict bytes with
  | none =>
      rw [htext] at hval
      cases hval
  | some text =>
      rw [htext] at hval
      cases hval
      rw [Utf8.toUTF8_of_strict htext, hbytes]

theorem Value.length_of_var {v : Value} {n : UInt64} {buf rest : Bytes} (hn : v.varNumber = some n)
    (h : v.write.length + short n + rest.length ≤ buf.length + padded n) :
    v.write.length + (if v.IsShort then 1 else 0) + rest.length ≤
      buf.length + if v.IsPadded then 1 else 0 := by
  simpa [short, padded, Value.IsShort, Value.IsPadded, hn] using h

theorem Value.length_of_fixed {v : Value} {buf rest : Bytes} (hn : v.varNumber = none)
    (h : v.write.length + rest.length = buf.length) :
    v.write.length + (if v.IsShort then 1 else 0) + rest.length ≤
      buf.length + if v.IsPadded then 1 else 0 := by
  simpa [Value.IsShort, Value.IsPadded, hn] using h.le

/-- A reader that returned a value took what its writer writes, one byte more if
the number is short, and at most one less if it is padded. -/
theorem kindRead_length {kind : Kind} {buf rest : Bytes} {v : Value}
    (h : kind.read buf = (.ok v, rest)) :
    v.write.length + (if v.IsShort then 1 else 0) + rest.length ≤
      buf.length + if v.IsPadded then 1 else 0 := by
  cases kind with
  | varU64 =>
      obtain ⟨val, rest', hval, hv⟩ := bind_eq_ok h
      cases hv
      exact Value.length_of_var rfl (readVarU64_length hval)
  | varBytes =>
      obtain ⟨val, rest', hval, hv⟩ := bind_eq_ok h
      cases hv
      exact Value.length_of_var rfl (readVarBytes_length hval)
  | varStr =>
      obtain ⟨val, rest', hval, hv⟩ := bind_eq_ok h
      cases hv
      have hlen := readVarBytes_length (readVarStr_eq_ok hval)
      rw [← writeVarStr_eq, Utf8.length_toUTF8] at hlen
      exact Value.length_of_var rfl hlen
  | u8 =>
      obtain ⟨val, rest', hval, hv⟩ := bind_eq_ok h
      cases hv
      cases readU8_ok hval
      exact Value.length_of_fixed rfl (Nat.add_comm ..)
  | u16 =>
      obtain ⟨val, rest', hval, hv⟩ := bind_eq_ok h
      cases hv
      exact Value.length_of_fixed rfl ((Nat.add_comm ..).trans (readU16_ok hval).symm)
  | u32 =>
      obtain ⟨val, rest', hval, hv⟩ := bind_eq_ok h
      cases hv
      exact Value.length_of_fixed rfl ((Nat.add_comm ..).trans (readU32_ok hval).symm)
  | u64 =>
      obtain ⟨val, rest', hval, hv⟩ := bind_eq_ok h
      cases hv
      exact Value.length_of_fixed rfl ((Nat.add_comm ..).trans (readU64_ok hval).symm)
  | bool =>
      obtain ⟨val, rest', hval, hv⟩ := bind_eq_ok h
      cases hv
      obtain ⟨byte, rest'', hbyte, hval⟩ := bind_eq_ok hval
      cases hval
      cases readU8_ok hbyte
      exact Value.length_of_fixed rfl (Nat.add_comm ..)

theorem readAll_length {kinds : List Kind} : ∀ {buf rest : Bytes} {vs : List Value},
    readAll kinds buf = (.ok vs, rest) →
      (writeAll vs).length + vs.countP (·.IsShort) + rest.length ≤
        buf.length + vs.countP (·.IsPadded) := by
  induction kinds with
  | nil =>
      intro buf rest vs h
      cases h
      simp [writeAll]
  | cons kind kinds ih =>
      intro buf rest vs h
      obtain ⟨v, buf', hv, h⟩ := bind_eq_ok h
      obtain ⟨ws, buf'', hws, h⟩ := bind_eq_ok h
      cases h
      have hhead := kindRead_length hv
      have htail := ih hws
      simp only [writeAll_cons, List.length_append, List.countP_cons, decide_eq_true_eq]
      omega

/-! ## The round trip -/

/-- Once some values were read, the rest is read from what they left. -/
theorem readAll_append (kinds' : List Kind) : ∀ {kinds : List Kind} {buf buf' : Bytes}
    {vs : List Value}, readAll kinds buf = (.ok vs, buf') →
      readAll (kinds ++ kinds') buf = (readAll kinds' >>= fun ws => pure (vs ++ ws)) buf'
  | [], buf, buf', vs, h => by
      cases h
      rw [List.nil_append, bind_apply]
      rcases readAll kinds' buf with ⟨o, buf''⟩
      cases o <;> rfl
  | kind :: kinds, buf, buf', vs, h => by
      obtain ⟨v, buf₁, hv, h⟩ := bind_eq_ok h
      obtain ⟨ws, buf₂, hws, h⟩ := bind_eq_ok h
      cases h
      have hrest := readAll_append kinds' hws
      rw [List.cons_append, readAll, bind_ok hv, bind_apply, hrest, bind_apply, bind_apply]
      rcases readAll kinds' buf' with ⟨o, buf''⟩
      cases o <;> rfl

/-- If the values before `v` are read back with and without `v`, so is `v`. -/
theorem ReadsBack.last {done : List Value} {v : Value} {trailing : Bytes}
    (hdone : ReadsBack done (v.write ++ trailing)) (h : ReadsBack (done ++ [v]) trailing) :
    ReadsBack [v] trailing := by
  unfold ReadsBack at h ⊢
  rw [writeAll_append, writeAll_singleton, List.append_assoc, List.map_append,
    readAll_append _ hdone] at h
  obtain ⟨ws, buf, hws, hv⟩ := bind_eq_ok h
  simp only [pure_apply, Prod.mk.injEq, Outcome.ok.injEq, List.append_cancel_left_eq] at hv
  obtain ⟨rfl, rfl⟩ := hv
  rw [writeAll_singleton, hws]

/-- A short value by itself is never read back. -/
theorem not_readsBack_of_short {v : Value} (h : v.IsShort) (trailing : Bytes) :
    ¬ ReadsBack [v] trailing := by
  intro hread
  have hlen := readAll_length hread
  have hpadded : ¬ v.IsPadded := by
    rintro ⟨n, hn, hlow, -⟩
    obtain ⟨m, hm, hlt⟩ := h
    cases Option.mem_unique hm hn
    exact absurd hlt (UInt64.not_lt.mpr hlow)
  simp [h, hpadded] at hlen

/-- The values up to each point of the list are read back, and what was written
after that point is left. -/
def ReadsBackThroughout (vs : List Value) (trailing : Bytes) : Prop :=
  ∀ done todo, vs = done ++ todo → ReadsBack done (writeAll todo ++ trailing)

/-- A list is read back, from its first value to its last, exactly if it has no
short number.  A list of which only the last result is right has no more short
numbers than padded ones. -/
theorem reads_back_iff (vs : List Value) (trailing : Bytes) (hmem : ∀ v ∈ vs, v.InMemory) :
    (ReadsBackThroughout vs trailing ↔ ∀ v ∈ vs, ¬ v.IsShort) ∧
      (ReadsBack vs trailing → vs.countP (·.IsShort) ≤ vs.countP (·.IsPadded)) := by
  refine ⟨⟨?_, ?_⟩, ?_⟩
  · intro hback v hv hshort
    obtain ⟨done, todo, rfl⟩ := List.append_of_mem hv
    have hdone : ReadsBack done (v.write ++ (writeAll todo ++ trailing)) := by
      have h := hback done (v :: todo) rfl
      rwa [writeAll_cons, List.append_assoc] at h
    have hlast : ReadsBack (done ++ [v]) (writeAll todo ++ trailing) :=
      hback (done ++ [v]) todo (by simp)
    exact not_readsBack_of_short hshort _ (hdone.last hlast)
  · rintro hlarge done todo rfl
    exact readAll_of_large _ done (fun v hv => hmem v (by simp [hv]))
      fun v hv => hlarge v (by simp [hv])
  · intro hback
    have hlen := readAll_length hback
    rw [List.length_append] at hlen
    omega

theorem large_values_read_back :
    ReadsBack [.varU64 0x12345, .u16 7, .bool true] [9] := by
  refine ((reads_back_iff [.varU64 0x12345, .u16 7, .bool true] [9]
    ?_).1.mpr ?_) _ [] (by simp)
  · simp [Value.InMemory, isizeMax]
  · simp [Value.IsShort, Value.varNumber]

/-- The number 5 is written as one byte, after which the reader wants another. -/
theorem short_number_not_read_back :
    ¬ ∀ (vs : List Value) (trailing : Bytes), (∀ v ∈ vs, v.InMemory) → ReadsBack vs trailing := by
  intro h
  have hback : ReadsBack [.varU64 5] [] := h [.varU64 5] [] (by simp [Value.InMemory])
  have hpanic : readAll [.varU64] (writeAll [.varU64 5]) = (.panic, []) := by decide
  exact absurd (hpanic.symm.trans hback) (by simp)

/-- A list whose last result is right although its first number was misread. -/
example : ReadsBack [.varU64 1, .bool true, .varU64 0xFE] [7] := by
  unfold ReadsBack
  decide

end NknSdk
