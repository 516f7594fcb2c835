import Mathlib.Tactic

/-!
# UTF-8

`strict` reads bytes as text if they are UTF-8, and `lossy` turns any bytes into
text, with U+FFFD for what is not UTF-8, as
`String::from_utf8_lossy` of the Rust standard library does.  It reads the bytes
one at a time.  Between characters the state is `start`; inside one it is
`inside more low high acc`: `more + 1` bytes are missing, the next one has to lie
between `low` and `high`, and `acc` is the code point so far.  A byte that does
not fit ends the broken character, which becomes one U+FFFD, and is read again
as the start of the next.

`IsText` says which bytes `strict` reads.  A byte below `0x80` is in no longer
character, so that bytes around one can be looked at apart (`isText_append_cons`).
-/

namespace Utf8

inductive State where
  | start
  | inside (more : Nat) (low high : UInt8) (acc : Nat)

/-- U+FFFD. -/
def replacement : Char := '\uFFFD'

/-- The first byte of a character: what it gives and the state it leaves. -/
def first (b : UInt8) : List Char × State :=
  if b < 0x80 then ([Char.ofNat b.toNat], .start)
  else if b < 0xC2 then ([replacement], .start)
  else if b < 0xE0 then ([], .inside 0 0x80 0xBF (b.toNat % 0x20))
  else if b = 0xE0 then ([], .inside 1 0xA0 0xBF 0)
  else if b = 0xED then ([], .inside 1 0x80 0x9F 0xD)
  else if b < 0xF0 then ([], .inside 1 0x80 0xBF (b.toNat % 0x10))
  else if b = 0xF0 then ([], .inside 2 0x90 0xBF 0)
  else if b < 0xF4 then ([], .inside 2 0x80 0xBF (b.toNat % 0x8))
  else if b = 0xF4 then ([], .inside 2 0x80 0x8F 4)
  else ([replacement], .start)

/-- One byte. -/
def next : State → UInt8 → List Char × State
  | .start, b => first b
  | .inside more low high acc, b =>
      if low ≤ b ∧ b ≤ high then
        match more with
        | 0 => ([Char.ofNat (acc * 0x40 + b.toNat % 0x40)], .start)
        | more + 1 => ([], .inside more 0x80 0xBF (acc * 0x40 + b.toNat % 0x40))
      else
        (replacement :: (first b).1, (first b).2)

def lossyFrom : State → List UInt8 → List Char
  | .start, [] => []
  | .inside _ _ _ _, [] => [replacement]
  | s, b :: bs => (next s b).1 ++ lossyFrom (next s b).2 bs

/-- `String::from_utf8_lossy`. -/
def lossy (bytes : List UInt8) : String := String.ofList (lossyFrom .start bytes)

/-- `str::from_utf8`. -/
def strict (bytes : List UInt8) : Option String := String.fromUTF8? ⟨bytes.toArray⟩

theorem length_le_size_utf8Encode (cs : List Char) : cs.length ≤ cs.utf8Encode.size := by
  induction cs with
  | nil => simp
  | cons c cs ih =>
      have hpos := c.utf8Size_pos
      rw [List.utf8Encode_cons, ByteArray.size_append, List.utf8Encode_singleton]
      simp only [List.size_toByteArray, String.length_utf8EncodeChar, List.length_cons]
      omega

/-- A text has no more characters than bytes. -/
theorem length_le_of_strict {bytes : List UInt8} {text : String} (h : strict bytes = some text) :
    text.length ≤ bytes.length := by
  have hbytes : text.toByteArray = ⟨bytes.toArray⟩ := by
    unfold strict String.fromUTF8? at h
    split at h
    next => cases h; rfl
    next => cases h
  have hlen := length_le_size_utf8Encode text.toList
  have hencode : text.toList.utf8Encode = text.toByteArray := by
    rw [← String.toByteArray_ofList, String.ofList_toList]
  rw [hencode, hbytes] at hlen
  exact hlen

/-! ## The bytes of a text -/

theorem toList_loop (bs : ByteArray) (i : Nat) (r : List UInt8) :
    ByteArray.toList.loop bs i r = r.reverse ++ bs.data.toList.drop i := by
  induction i, r using ByteArray.toList.loop.induct bs with
  | case1 i r hi ih =>
      have hi' : i < bs.data.toList.length := by simpa using hi
      have hget : bs.get! i = bs.data.toList[i] := by
        rw [ByteArray.get!, getElem!_pos bs.data i hi, Array.getElem_toList]
      have hdrop : bs.data.toList.drop i = bs.data.toList[i] :: bs.data.toList.drop (i + 1) :=
        List.drop_eq_getElem_cons hi'
      rw [ByteArray.toList.loop, if_pos hi, ih, hdrop, hget]
      simp
  | case2 i r hi =>
      have hlen : bs.data.toList.length ≤ i := by simpa using hi
      rw [ByteArray.toList.loop, if_neg hi, List.drop_eq_nil_of_le hlen, List.append_nil]

theorem toList_eq (bs : ByteArray) : bs.toList = bs.data.toList := by
  rw [ByteArray.toList, toList_loop]
  simp

theorem length_toUTF8 (text : String) : text.toUTF8.toList.length = text.utf8ByteSize := by
  rw [toList_eq]
  rfl

/-- A text is read back from its bytes. -/
theorem strict_toUTF8 (text : String) : strict text.toUTF8.toList = some text := by
  have hbytes : (⟨text.toUTF8.toList.toArray⟩ : ByteArray) = text.toByteArray := by
    rw [toList_eq]
    rfl
  unfold strict String.fromUTF8?
  rw [hbytes, dif_pos text.isValidUTF8]
  rfl

theorem toUTF8_of_strict {bytes : List UInt8} {text : String} (h : strict bytes = some text) :
    text.toUTF8.toList = bytes := by
  unfold strict String.fromUTF8? at h
  split at h
  next =>
    cases h
    rw [toList_eq]
    rfl
  next => cases h

/-! ## Texts among bytes -/

/-- The bytes are those of a text. -/
def IsText (bytes : List UInt8) : Prop :=
  ∃ chars : List Char, chars.flatMap String.utf8EncodeChar = bytes

theorem toUTF8_eq_flatMap (text : String) :
    text.toUTF8.toList = text.toList.flatMap String.utf8EncodeChar := by
  have hencode : text.toByteArray = text.toList.utf8Encode := by
    rw [← String.toByteArray_ofList, String.ofList_toList]
  rw [toList_eq]
  show text.toByteArray.data.toList = _
  rw [hencode, List.utf8Encode, List.toList_data_toByteArray]

theorem isText_iff {bytes : List UInt8} : IsText bytes ↔ ∃ text, strict bytes = some text := by
  constructor
  · rintro ⟨chars, rfl⟩
    refine ⟨String.ofList chars, ?_⟩
    have hread := strict_toUTF8 (String.ofList chars)
    rwa [toUTF8_eq_flatMap, String.toList_ofList] at hread
  · rintro ⟨text, hread⟩
    exact ⟨text.toList, (toUTF8_eq_flatMap text).symm.trans (toUTF8_of_strict hread)⟩

theorem isText_nil : IsText [] := ⟨[], rfl⟩

theorem IsText.append {a b : List UInt8} (ha : IsText a) (hb : IsText b) : IsText (a ++ b) := by
  obtain ⟨chars, rfl⟩ := ha
  obtain ⟨chars', rfl⟩ := hb
  exact ⟨chars ++ chars', List.flatMap_append⟩

/-- A byte below `0x80` is a character of its own. -/
theorem utf8EncodeChar_of_mem {c : Char} {b : UInt8} (h : b ∈ String.utf8EncodeChar c)
    (hb : b < 0x80) : String.utf8EncodeChar c = [b] := by
  rw [UInt8.lt_iff_toNat_lt] at hb
  have h80 : (0x80 : UInt8).toNat = 128 := rfl
  unfold String.utf8EncodeChar at h ⊢
  dsimp only at h ⊢
  split at h
  next hv => rw [if_pos hv, List.mem_singleton.mp h]
  next hv =>
    -- The bytes of a longer character are all from `0x80` on.
    exfalso
    split at h
    · simp only [List.mem_cons, List.not_mem_nil, or_false] at h
      rcases h with rfl | rfl <;> rw [UInt8.toNat_ofNat'] at hb <;> omega
    · split at h
      · simp only [List.mem_cons, List.not_mem_nil, or_false] at h
        rcases h with rfl | rfl | rfl <;> rw [UInt8.toNat_ofNat'] at hb <;> omega
      · simp only [List.mem_cons, List.not_mem_nil, or_false] at h
        rcases h with rfl | rfl | rfl | rfl <;> rw [UInt8.toNat_ofNat'] at hb <;> omega

theorem isText_singleton {b : UInt8} (hb : b < 0x80) : IsText [b] := by
  rw [UInt8.lt_iff_toNat_lt] at hb
  have h80 : (0x80 : UInt8).toNat = 128 := rfl
  have hvalid : b.toNat.isValidChar := Or.inl (by omega)
  refine ⟨[Char.ofNatAux b.toNat hvalid], ?_⟩
  have hval : (Char.ofNatAux b.toNat hvalid).val.toNat = b.toNat := rfl
  rw [List.flatMap_singleton, String.utf8EncodeChar, hval, if_pos (by omega), UInt8.ofNat_toNat]

/-- Bytes with one below `0x80` between them are a text exactly if both sides are. -/
theorem isText_append_cons {a c : List UInt8} {b : UInt8} (hb : b < 0x80) :
    IsText (a ++ b :: c) ↔ IsText a ∧ IsText c := by
  constructor
  · rintro ⟨chars, hchars⟩
    induction chars generalizing a with
    | nil => simp at hchars
    | cons ch chars ih =>
        rw [List.flatMap_cons] at hchars
        rcases List.append_eq_append_iff.mp hchars with ⟨rest, ha, hrest⟩ | ⟨rest, hch, hrest⟩
        · -- The character ends before the byte.
          obtain ⟨hrestText, hc⟩ := ih hrest
          rw [ha]
          exact ⟨IsText.append ⟨[ch], by simp⟩ hrestText, hc⟩
        · -- The byte is in the character.
          cases rest with
          | nil =>
              rw [List.append_nil] at hch
              rw [List.nil_append] at hrest
              obtain ⟨-, hc⟩ := ih (a := []) hrest.symm
              exact ⟨⟨[ch], by rw [List.flatMap_singleton, hch]⟩, hc⟩
          | cons b' rest =>
              rw [List.cons_append] at hrest
              obtain ⟨rfl, hc⟩ := List.cons.inj hrest
              have hmem : b ∈ String.utf8EncodeChar ch := by
                rw [hch]
                exact List.mem_append_right a List.mem_cons_self
              rw [utf8EncodeChar_of_mem hmem hb] at hch
              obtain ⟨rfl, rfl⟩ : a = [] ∧ rest = [] := by
                have hlen := congrArg List.length hch
                simp only [List.length_append, List.length_cons, List.length_nil] at hlen
                exact ⟨List.length_eq_zero_iff.mp (by omega), List.length_eq_zero_iff.mp (by omega)⟩
              exact ⟨isText_nil, chars, hc.symm⟩
  · rintro ⟨ha, hc⟩
    exact ha.append ((isText_singleton hb).append hc)

end Utf8
