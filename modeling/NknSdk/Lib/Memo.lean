import Mathlib.Data.List.AList

/-!
# Memo tables

A memo table stores the values of a partial function `f : κ → Option v` that have
been computed.  It is not indexed by the arguments themselves but by a tag
`tag : κ → τ` of them.  `call` looks the tag up and computes and stores the value
where it is not found; an argument without a value stores nothing.

`results` is a sequence of calls.  It is the sequence of the values of `f` when
no two of the arguments share a tag (`results_eq_map`).  Where `f` is total, it is
that sequence only if `f` takes one value at each tag (`eq_of_tag_eq`).
-/

namespace Memo

variable {κ τ v : Type} [DecidableEq τ]

abbrev Table (τ v : Type) : Type := AList fun _ : τ => v

/-- One call: the value and the table it leaves. -/
def call (tag : κ → τ) (f : κ → Option v) (k : κ) (t : Table τ v) : Option v × Table τ v :=
  match t.lookup (tag k) with
  | some x => (some x, t)
  | none =>
      match f k with
      | some x => (some x, t.insert (tag k) x)
      | none => (none, t)

/-- The values of a sequence of calls. -/
def results (tag : κ → τ) (f : κ → Option v) : Table τ v → List κ → List (Option v)
  | _, [] => []
  | t, k :: ks => (call tag f k t).1 :: results tag f (call tag f k t).2 ks

variable {tag : κ → τ} {f : κ → Option v} {t : Table τ v} {k : κ}

theorem call_of_hit {x : v} (h : t.lookup (tag k) = some x) : call tag f k t = (some x, t) := by
  rw [call, h]

/-- A call leaves its value in the table. -/
theorem lookup_call {x : v} (h : (call tag f k t).1 = some x) :
    (call tag f k t).2.lookup (tag k) = some x := by
  cases hk : t.lookup (tag k) with
  | some y =>
      rw [call_of_hit hk] at h ⊢
      rw [hk]
      exact h
  | none =>
      cases hf : f k with
      | some y =>
          simp only [call, hk, hf] at h ⊢
          rw [AList.lookup_insert]
          exact h
      | none =>
          simp only [call, hk, hf] at h
          cases h

/-- A call keeps what the table holds. -/
theorem lookup_call_of_lookup {a : τ} {x : v} (h : t.lookup a = some x) :
    (call tag f k t).2.lookup a = some x := by
  cases hk : t.lookup (tag k) with
  | some y =>
      rw [call_of_hit hk]
      exact h
  | none =>
      have hne : a ≠ tag k := by
        intro hak
        rw [hak, hk] at h
        cases h
      cases hf : f k with
      | some y =>
          simp only [call, hk, hf]
          rw [AList.lookup_insert_ne hne]
          exact h
      | none =>
          simp only [call, hk, hf]
          exact h

/-- What a call adds to the table is the value of its own argument. -/
theorem lookup_call_inv {a : τ} {x : v} (h : (call tag f k t).2.lookup a = some x) :
    t.lookup a = some x ∨ (a = tag k ∧ f k = some x) := by
  cases hk : t.lookup (tag k) with
  | some y =>
      rw [call_of_hit hk] at h
      exact Or.inl h
  | none =>
      cases hf : f k with
      | some y =>
          simp only [call, hk, hf] at h
          by_cases hak : a = tag k
          · subst hak
            rw [AList.lookup_insert] at h
            exact Or.inr ⟨rfl, h⟩
          · rw [AList.lookup_insert_ne hak] at h
            exact Or.inl h
      | none =>
          simp only [call, hk, hf] at h
          exact Or.inl h

/-- A table that only holds values of `f` at the tags of `ks` gives those values. -/
theorem results_eq_map_of_sound {ks : List κ}
    (hsound : ∀ k ∈ ks, ∀ x, t.lookup (tag k) = some x → f k = some x)
    (hinj : ∀ a ∈ ks, ∀ b ∈ ks, tag a = tag b → a = b) : results tag f t ks = ks.map f := by
  induction ks generalizing t with
  | nil => rfl
  | cons k ks ih =>
      have hmem := List.mem_cons_self (a := k) (l := ks)
      have hhead : (call tag f k t).1 = f k := by
        cases hk : t.lookup (tag k) with
        | some x => rw [call_of_hit hk, hsound k hmem x hk]
        | none =>
            cases hf : f k with
            | some x => simp only [call, hk, hf]
            | none => simp only [call, hk, hf]
      rw [results, hhead, List.map_cons]
      refine congrArg _ (ih ?_ ?_)
      · intro b hb x hx
        have hb' := List.mem_cons_of_mem k hb
        rcases lookup_call_inv hx with hold | ⟨htag, hval⟩
        · exact hsound b hb' x hold
        · rw [hinj b hb' k hmem htag]
          exact hval
      · intro a ha b hb
        exact hinj a (List.mem_cons_of_mem k ha) b (List.mem_cons_of_mem k hb)

/-- From an empty table, calls whose arguments have tags of their own give the
values of `f`. -/
theorem results_eq_map {ks : List κ} (hinj : ∀ a ∈ ks, ∀ b ∈ ks, tag a = tag b → a = b) :
    results tag f ∅ ks = ks.map f := by
  refine results_eq_map_of_sound ?_ hinj
  intro k _ x hx
  rw [AList.lookup_empty] at hx
  cases hx

/-- Calls that give the values of `f` agree with what the table holds. -/
theorem eq_of_lookup {ks : List κ} (h : results tag f t ks = ks.map f) {b : κ} (hb : b ∈ ks)
    {x : v} (hx : t.lookup (tag b) = some x) : f b = some x := by
  induction ks generalizing t with
  | nil => cases hb
  | cons k ks ih =>
      rw [results, List.map_cons, List.cons.injEq] at h
      rcases List.mem_cons.mp hb with rfl | hb
      · rw [← h.1, call_of_hit hx]
      · exact ih h.2 hb (lookup_call_of_lookup hx)

/-- Calls that give the values of a total `f` give equal values at equal tags. -/
theorem eq_of_tag_eq (htotal : ∀ k, ∃ x, f k = some x) {ks : List κ}
    (h : results tag f t ks = ks.map f) {a b : κ} (ha : a ∈ ks) (hb : b ∈ ks)
    (htag : tag a = tag b) : f a = f b := by
  induction ks generalizing t with
  | nil => cases ha
  | cons k ks ih =>
      rw [results, List.map_cons, List.cons.injEq] at h
      obtain ⟨x, hx⟩ := htotal k
      have hstored : (call tag f k t).2.lookup (tag k) = some x := lookup_call (h.1.trans hx)
      rcases List.mem_cons.mp ha with rfl | ha'
      · rcases List.mem_cons.mp hb with rfl | hb'
        · rfl
        · rw [htag] at hstored
          rw [hx, eq_of_lookup h.2 hb' hstored]
      · rcases List.mem_cons.mp hb with rfl | hb'
        · rw [← htag] at hstored
          rw [hx, eq_of_lookup h.2 ha' hstored]
        · exact ih h.2 ha' hb'

end Memo
