import NknSdk.Lib.Wire

/-!
# Reading the wire format

`fields` cuts bytes into fields, each a number and a value, in the order in which
they stand.  `Decodes bytes fs` says that it finds the fields `fs`; there is one
rule for each kind of field that is written, so the fields of a message are those
of its parts.
-/

namespace Wire

/-- The value of a field. -/
inductive Value where
  | varint (n : Nat)
  | bytes (b : Bytes)
deriving DecidableEq

/-- A varint, taken off the front. -/
def takeVarint : Bytes → Option (Nat × Bytes)
  | [] => none
  | b :: bs =>
      if b.toNat < 128 then some (b.toNat, bs)
      else
        match takeVarint bs with
        | none => none
        | some (n, rest) => some (b.toNat - 128 + 128 * n, rest)

/-- The value of a field of the given key, taken off the front. -/
def takeValue (key : Nat) (bs : Bytes) : Option ((Nat × Value) × Bytes) :=
  match takeVarint bs with
  | none => none
  | some (n, rest) =>
      if key % 8 = 0 then some ((key / 8, .varint n), rest)
      else if key % 8 = 2 ∧ n ≤ rest.length then
        some ((key / 8, .bytes (rest.take n)), rest.drop n)
      else none

/-- A field, taken off the front. -/
def takeField (bs : Bytes) : Option ((Nat × Value) × Bytes) :=
  match takeVarint bs with
  | none => none
  | some (key, rest) => takeValue key rest

/-- The fields, with `fuel` bounding their number. -/
def fieldsFuel : Nat → Bytes → Option (List (Nat × Value))
  | _, [] => some []
  | 0, _ :: _ => none
  | fuel + 1, b :: bs =>
      match takeField (b :: bs) with
      | none => none
      | some (f, rest) => (fieldsFuel fuel rest).map (f :: ·)

/-- The fields.  Each takes at least one byte. -/
def fields (bs : Bytes) : Option (List (Nat × Value)) := fieldsFuel bs.length bs

/-! ## Reading what was written -/

theorem takeVarint_varint (n : Nat) (rest : Bytes) :
    takeVarint (varint n ++ rest) = some (n, rest) := by
  induction n using Nat.strongRecOn with
  | ind n ih =>
      by_cases hn : n < 128
      · have hb : (UInt8.ofNat n).toNat = n := by
          rw [UInt8.toNat_ofNat']
          omega
        rw [varint_of_lt hn, List.singleton_append, takeVarint, hb, if_pos hn]
      · have hb : (UInt8.ofNat (n % 128 + 128)).toNat = n % 128 + 128 := by
          rw [UInt8.toNat_ofNat']
          omega
        rw [varint_of_ge (by omega), List.cons_append, takeVarint, hb, if_neg (by omega),
          ih (n / 128) (by omega)]
        simp only [Option.some.injEq, Prod.mk.injEq, and_true]
        omega

theorem takeField_delimited (field : Nat) (body rest : Bytes) :
    takeField (delimited field body ++ rest) = some ((field, .bytes body), rest) := by
  have hkey : (field * 8 + 2) % 8 = 2 := by omega
  have hfield : (field * 8 + 2) / 8 = field := by omega
  simp only [takeField, takeValue, delimited, key, List.append_assoc, takeVarint_varint, hkey,
    hfield]
  simp

theorem takeField_uint (field n : Nat) (rest : Bytes) :
    takeField (key field 0 ++ varint n ++ rest) = some ((field, .varint n), rest) := by
  simp [takeField, takeValue, key, takeVarint_varint]

/-- Any fuel from the length on finds the fields `fs`. -/
def Decodes (bs : Bytes) (fs : List (Nat × Value)) : Prop :=
  ∀ fuel, bs.length ≤ fuel → fieldsFuel fuel bs = some fs

namespace Decodes

variable {rest : Bytes} {fs : List (Nat × Value)}

theorem fields_eq {bs : Bytes} (h : Decodes bs fs) : fields bs = some fs := h _ (Nat.le_refl _)

theorem nil : Decodes [] [] := by
  intro fuel _
  cases fuel <;> rfl

/-- A field and what follows it. -/
theorem field {bs : Bytes} {f : Nat × Value} (hne : bs ≠ [])
    (hbs : takeField (bs ++ rest) = some (f, rest)) (h : Decodes rest fs) :
    Decodes (bs ++ rest) (f :: fs) := by
  intro fuel hfuel
  have hlen : 0 < bs.length := List.length_pos_iff.mpr hne
  rw [List.length_append] at hfuel
  obtain ⟨b, bs', hcons⟩ := List.exists_cons_of_ne_nil hne
  cases fuel with
  | zero => omega
  | succ fuel =>
      rw [hcons, List.cons_append] at hbs ⊢
      rw [fieldsFuel, hbs]
      dsimp only
      rw [h fuel (by omega), Option.map_some]

theorem delimited (number : Nat) (body : Bytes) (h : Decodes rest fs) :
    Decodes (delimited number body ++ rest) ((number, .bytes body) :: fs) :=
  field (delimited_ne_nil number body) (takeField_delimited number body rest) h

theorem bytesField (number : Nat) (body : Bytes) (h : Decodes rest fs) :
    Decodes (bytesField number body ++ rest)
      ((if body = [] then [] else [(number, .bytes body)]) ++ fs) := by
  unfold Wire.bytesField
  split
  · exact h
  · exact delimited number body h

theorem uintField (number n : Nat) (h : Decodes rest fs) :
    Decodes (uintField number n ++ rest)
      ((if n = 0 then [] else [(number, .varint n)]) ++ fs) := by
  unfold Wire.uintField
  split
  · exact h
  · exact field (by simp [key, varint_ne_nil]) (takeField_uint number n rest) h

/-- A nested message that may be missing. -/
theorem messageField (number : Nat) (body : Option Bytes) (h : Decodes rest fs) :
    Decodes (body.elim [] (Wire.delimited number) ++ rest)
      ((body.elim [] fun b => [(number, .bytes b)]) ++ fs) := by
  cases body with
  | none => exact h
  | some b => exact delimited number b h

/-- A length-delimited field for each of the bodies. -/
theorem repeated (number : Nat) (bodies : List Bytes) (h : Decodes rest fs) :
    Decodes (bodies.flatMap (Wire.delimited number) ++ rest)
      ((bodies.map fun b => (number, .bytes b)) ++ fs) := by
  induction bodies with
  | nil => exact h
  | cons b bodies ih =>
      rw [List.flatMap_cons, List.append_assoc, List.map_cons, List.cons_append]
      exact delimited number b ih

end Decodes

/-! ## Packed integers -/

/-- Varints up to the end, with `fuel` bounding their number. -/
def varintsFuel : Nat → Bytes → Option (List Nat)
  | _, [] => some []
  | 0, _ :: _ => none
  | fuel + 1, b :: bs =>
      match takeVarint (b :: bs) with
      | none => none
      | some (n, rest) => (varintsFuel fuel rest).map (n :: ·)

/-- The varints of a packed field.  Each takes at least one byte. -/
def varints (bs : Bytes) : Option (List Nat) := varintsFuel bs.length bs

theorem varintsFuel_flatMap (ns : List Nat) :
    ∀ fuel, (ns.flatMap varint).length ≤ fuel → varintsFuel fuel (ns.flatMap varint) = some ns := by
  induction ns with
  | nil => intro fuel _; cases fuel <;> rfl
  | cons n ns ih =>
      intro fuel hfuel
      obtain ⟨b, bs, hcons⟩ := List.exists_cons_of_ne_nil (varint_ne_nil n)
      have hread := takeVarint_varint n (ns.flatMap varint)
      rw [List.flatMap_cons, hcons] at hfuel ⊢
      rw [hcons] at hread
      cases fuel with
      | zero => cases hfuel
      | succ fuel =>
          rw [List.cons_append] at hfuel hread ⊢
          rw [List.length_cons, List.length_append] at hfuel
          rw [varintsFuel, hread]
          dsimp only
          rw [ih fuel (by omega), Option.map_some]

theorem varints_flatMap (ns : List Nat) : varints (ns.flatMap varint) = some ns :=
  varintsFuel_flatMap ns _ (Nat.le_refl _)

/-! ## Looking fields up -/

/-- What a field says of the bytes field `number`. -/
def bytesAt (number : Nat) : Nat × Value → Option Bytes
  | (n, .bytes b) => if n = number then some b else none
  | (_, .varint _) => none

/-- What a field says of the integer field `number`. -/
def uintAt (number : Nat) : Nat × Value → Option Nat
  | (n, .varint v) => if n = number then some v else none
  | (_, .bytes _) => none

/-- The last value of a bytes field. -/
def bytesOf (number : Nat) (fs : List (Nat × Value)) : Bytes :=
  (fs.filterMap (bytesAt number)).getLastD []

/-- The last value of an integer field. -/
def uintOf (number : Nat) (fs : List (Nat × Value)) : Nat :=
  (fs.filterMap (uintAt number)).getLastD 0

/-- The values of a repeated bytes field. -/
def allOf (number : Nat) (fs : List (Nat × Value)) : List Bytes := fs.filterMap (bytesAt number)

/-- The values of a packed field. -/
def packedOf (number : Nat) (fs : List (Nat × Value)) : Option (List Nat) :=
  varints (bytesOf number fs)

/-- The last value of a nested message. -/
def messageOf (number : Nat) (fs : List (Nat × Value)) : Option Bytes :=
  (fs.filterMap (bytesAt number)).getLast?

section Lookup

variable (number n : Nat)

@[simp] theorem bytesAt_bytesField (body : Bytes) :
    (if body = [] then [] else [(n, Value.bytes body)]).filterMap (bytesAt number) =
      if n = number ∧ body ≠ [] then [body] else [] := by
  by_cases hbody : body = [] <;> by_cases hn : n = number <;> simp [hbody, hn, bytesAt]

@[simp] theorem bytesAt_uintField (v : Nat) :
    (if v = 0 then [] else [(n, Value.varint v)]).filterMap (bytesAt number) = [] := by
  by_cases hv : v = 0 <;> simp [hv, bytesAt]

@[simp] theorem uintAt_bytesField (body : Bytes) :
    (if body = [] then [] else [(n, Value.bytes body)]).filterMap (uintAt number) = [] := by
  by_cases hbody : body = [] <;> simp [hbody, uintAt]

@[simp] theorem uintAt_uintField (v : Nat) :
    (if v = 0 then [] else [(n, Value.varint v)]).filterMap (uintAt number) =
      if n = number ∧ v ≠ 0 then [v] else [] := by
  by_cases hv : v = 0 <;> by_cases hn : n = number <;> simp [hv, hn, uintAt]

@[simp] theorem bytesAt_messageField (body : Option Bytes) :
    (body.elim [] fun b => [(n, Value.bytes b)]).filterMap (bytesAt number) =
      if n = number then body.toList else [] := by
  cases body <;> by_cases hn : n = number <;> simp [hn, bytesAt]

@[simp] theorem uintAt_messageField (body : Option Bytes) :
    (body.elim [] fun b => [(n, Value.bytes b)]).filterMap (uintAt number) = [] := by
  cases body <;> simp [uintAt]

@[simp] theorem bytesAt_repeated (bodies : List Bytes) :
    (bodies.map fun b => (n, Value.bytes b)).filterMap (bytesAt number) =
      if n = number then bodies else [] := by
  by_cases hn : n = number <;> simp [List.filterMap_map, Function.comp_def, bytesAt, hn]

@[simp] theorem uintAt_repeated (bodies : List Bytes) :
    (bodies.map fun b => (n, Value.bytes b)).filterMap (uintAt number) = [] := by
  simp [uintAt]

@[simp] theorem getLast?_message (body : Option Bytes) : body.toList.getLast? = body := by
  cases body <;> rfl

/-- A bytes field that is left out has its default. -/
@[simp] theorem getLastD_bytes (body : Bytes) :
    (if body ≠ [] then [body] else []).getLastD [] = body := by
  by_cases hbody : body = [] <;> simp [hbody]

@[simp] theorem getLastD_uint (v : Nat) : (if v ≠ 0 then [v] else []).getLastD 0 = v := by
  by_cases hv : v = 0 <;> simp [hv]

end Lookup

end Wire
