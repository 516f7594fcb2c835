import Mathlib.Data.List.AList

/-!
# Tables

Maps with finitely many keys are `AList`s.  `mapValues` changes every value, and
`lookup_foldl_insert` says what a map holds that was filled from a list.
-/

namespace AList

variable {κ v w : Type}

/-- Apply `f` to every value. -/
def mapValues (f : v → w) (t : AList fun _ : κ => v) : AList fun _ : κ => w where
  entries := t.entries.map fun e => ⟨e.1, f e.2⟩
  nodupKeys := by
    have hkeys : (t.entries.map fun e : Sigma fun _ : κ => v => (⟨e.1, f e.2⟩ : Sigma fun _ : κ => w)).keys =
        t.entries.keys := by
      rw [List.keys, List.map_map]
      rfl
    rw [List.NodupKeys, hkeys]
    exact t.nodupKeys

/-- Where equal keys come with equal values, the order of the insertions does not
matter. -/
theorem lookup_foldl_insert {α : Type} [DecidableEq κ] {key : α → κ} {val : α → v} {k : κ} {y : v}
    {xs : List α} (hkey : ∀ a ∈ xs, ∀ b ∈ xs, key a = key b → val a = val b)
    (t : AList fun _ : κ => v) :
    (xs.foldl (fun t x => t.insert (key x) (val x)) t).lookup k = some y ↔
      (∃ x ∈ xs, key x = k ∧ val x = y) ∨ (∀ x ∈ xs, key x ≠ k) ∧ t.lookup k = some y := by
  induction xs generalizing t with
  | nil => simp
  | cons x xs ih =>
      have htail : ∀ a ∈ xs, ∀ b ∈ xs, key a = key b → val a = val b := fun a ha b hb =>
        hkey a (List.mem_cons_of_mem _ ha) b (List.mem_cons_of_mem _ hb)
      rw [List.foldl_cons, ih htail]
      by_cases hx : key x = k
      · subst hx
        rw [AList.lookup_insert]
        constructor
        · rintro (⟨a, ha, hak, hay⟩ | ⟨-, hsome⟩)
          · exact Or.inl ⟨a, List.mem_cons_of_mem _ ha, hak, hay⟩
          · exact Or.inl ⟨x, List.mem_cons_self, rfl, Option.some.inj hsome⟩
        · rintro (⟨a, ha, hak, hay⟩ | ⟨hnone, -⟩)
          · by_cases hlater : ∃ b ∈ xs, key b = key x
            · obtain ⟨b, hb, hbk⟩ := hlater
              have hval : val b = val a :=
                hkey b (List.mem_cons_of_mem _ hb) a ha (hbk.trans hak.symm)
              exact Or.inl ⟨b, hb, hbk, hval.trans hay⟩
            · have hval : val x = val a := hkey x List.mem_cons_self a ha hak.symm
              refine Or.inr ⟨fun b hb hbk => hlater ⟨b, hb, hbk⟩, ?_⟩
              rw [hval, hay]
          · exact absurd rfl (hnone x List.mem_cons_self)
      · rw [AList.lookup_insert_ne fun h => hx h.symm]
        simp [hx]

end AList
