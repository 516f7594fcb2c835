import NknSdk.Lib.Utf8
import NknSdk.Lib.WireDecode

/-!
# Flat messages

A message whose fields are all scalars is a list of values with their numbers.  A
value at its default is left out, so what is written does not show which fields there
are; that the message is one of a given *shape*, numbers and wire types, does.
Messages of one shape with no number twice can be told apart (`record_inj`).
-/

namespace Wire

/-! ## Scalars -/

namespace Value

/-- A negative number is written as its 64-bit two's complement. -/
def int64 (n : Int64) : Value := .varint n.toUInt64.toNat

def int32 (n : Int32) : Value := int64 n.toInt64

def uint32 (n : UInt32) : Value := .varint n.toNat

def text (s : String) : Value := .bytes s.toUTF8.toList

@[simp] theorem int64_inj {m n : Int64} : int64 m = int64 n ↔ m = n := by
  have hinj := Function.LeftInverse.injective Int64.toInt64_toUInt64
  rw [int64, int64, Value.varint.injEq, UInt64.toNat_inj, hinj.eq_iff]

@[simp] theorem int32_inj {m n : Int32} : int32 m = int32 n ↔ m = n := by
  have hinj := Function.LeftInverse.injective Int32.toInt32_toInt64
  rw [int32, int32, int64_inj, hinj.eq_iff]

@[simp] theorem uint32_inj {m n : UInt32} : uint32 m = uint32 n ↔ m = n := by
  rw [uint32, uint32, Value.varint.injEq, UInt32.toNat_inj]

@[simp] theorem text_inj {s t : String} : text s = text t ↔ s = t := by
  constructor
  · intro h
    rw [text, text, Value.bytes.injEq] at h
    have hread := Utf8.strict_toUTF8 s
    rw [h, Utf8.strict_toUTF8] at hread
    exact (Option.some.inj hread).symm
  · intro h
    rw [h]

/-- The value of a field that is not written. -/
def isDefault : Value → Bool
  | .varint n => n = 0
  | .bytes b => b = []

def isBytes : Value → Bool
  | .varint _ => false
  | .bytes _ => true

@[simp] theorem isBytes_bytes (b : Bytes) : (Value.bytes b).isBytes = true := rfl

@[simp] theorem isBytes_int64 (n : Int64) : (int64 n).isBytes = false := rfl

@[simp] theorem isBytes_int32 (n : Int32) : (int32 n).isBytes = false := rfl

@[simp] theorem isBytes_uint32 (n : UInt32) : (uint32 n).isBytes = false := rfl

@[simp] theorem isBytes_text (s : String) : (text s).isBytes = true := rfl

/-- There is one default for each wire type. -/
theorem eq_of_isDefault {v w : Value} (hkind : v.isBytes = w.isBytes) (hv : v.isDefault = true)
    (hw : w.isDefault = true) : v = w := by
  cases v with
  | varint m =>
      cases w with
      | varint n => simp_all [isDefault]
      | bytes b => cases hkind
  | bytes a =>
      cases w with
      | varint n => cases hkind
      | bytes b => simp_all [isDefault]

end Value

/-! ## Records -/

/-- A field as it is written. -/
def scalarField : Nat × Value → Bytes
  | (number, .varint n) => uintField number n
  | (number, .bytes b) => bytesField number b

/-- The fields one after the other. -/
def record (fs : List (Nat × Value)) : Bytes := fs.flatMap scalarField

/-- The numbers and wire types of the fields. -/
@[simp] def shape (fs : List (Nat × Value)) : List (Nat × Bool) := fs.map fun f => (f.1, f.2.isBytes)

/-- The fields that are written. -/
def written (fs : List (Nat × Value)) : List (Nat × Value) := fs.filter fun f => !f.2.isDefault

variable {fs gs : List (Nat × Value)}

/-- What is read is what was written. -/
theorem decodes_record (fs : List (Nat × Value)) : Decodes (record fs) (written fs) := by
  induction fs with
  | nil => exact Decodes.nil
  | cons f fs ih =>
      obtain ⟨number, v⟩ := f
      cases v with
      | varint n =>
          have h := ih.uintField number n
          by_cases hn : n = 0 <;> simpa [record, written, scalarField, Value.isDefault, hn] using h
      | bytes b =>
          have h := ih.bytesField number b
          by_cases hb : b = [] <;> simpa [record, written, scalarField, Value.isDefault, hb] using h

theorem mem_shape_of_written {number : Nat} {v : Value} (h : (number, v) ∈ written fs) :
    number ∈ (shape fs).map Prod.fst := by
  have hmem : (number, v) ∈ fs := (List.mem_filter.mp h).1
  rw [shape, List.map_map]
  exact List.mem_map.mpr ⟨_, hmem, rfl⟩

/-- A field that is left out on one side is missing on the other. -/
theorem eq_of_written_eq (hshape : shape fs = shape gs) (hnodup : ((shape fs).map Prod.fst).Nodup)
    (h : written fs = written gs) : fs = gs := by
  induction fs generalizing gs with
  | nil =>
      cases gs with
      | nil => rfl
      | cons g gs => cases hshape
  | cons f fs ih =>
      cases gs with
      | nil => cases hshape
      | cons g gs =>
          obtain ⟨number, v⟩ := f
          obtain ⟨number', w⟩ := g
          simp only [shape, List.map_cons, List.cons.injEq, Prod.mk.injEq] at hshape
          obtain ⟨⟨rfl, hkind⟩, htail⟩ := hshape
          change ((number :: (shape fs).map Prod.fst)).Nodup at hnodup
          obtain ⟨hnew, hnodup⟩ := List.nodup_cons.mp hnodup
          have hnew' : number ∉ (shape gs).map Prod.fst := by
            rw [show shape gs = shape fs from htail.symm]
            exact hnew
          simp only [written, List.filter_cons] at h
          cases hv : v.isDefault <;> cases hw : w.isDefault <;>
            simp only [hv, hw, Bool.not_true, Bool.not_false, if_true, if_false,
              Bool.false_eq_true] at h
          · obtain ⟨hhead, hrest⟩ := List.cons.inj h
            rw [hhead, ih htail hnodup hrest]
          · exact absurd (mem_shape_of_written (h ▸ List.mem_cons_self)) hnew'
          · exact absurd (mem_shape_of_written (h.symm ▸ List.mem_cons_self)) hnew
          · rw [Value.eq_of_isDefault hkind hv hw, ih htail hnodup h]

/-- Records of one shape can be told apart. -/
theorem record_inj (hshape : shape fs = shape gs) (hnodup : ((shape fs).map Prod.fst).Nodup)
    (h : record fs = record gs) : fs = gs := by
  apply eq_of_written_eq hshape hnodup
  have hfs := (decodes_record fs).fields_eq
  rw [h, (decodes_record gs).fields_eq] at hfs
  exact (Option.some.inj hfs).symm

/-- A message whose fields are numbered from one on. -/
theorem record_injective {α : Type} (fields : α → List (Nat × Value))
    (hshape : ∀ a b, shape (fields a) = shape (fields b))
    (hnumbers : ∀ a, (shape (fields a)).map Prod.fst = List.range' 1 (fields a).length)
    (hfields : Function.Injective fields) : Function.Injective fun a => record (fields a) := by
  intro a b h
  apply hfields
  apply record_inj (hshape a b)
  · rw [hnumbers a]
    exact List.nodup_range'
  · exact h

end Wire
