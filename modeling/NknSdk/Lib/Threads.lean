import Mathlib.Tactic

/-!
# Threads over a shared state

A system of threads keeps the list of their local states, and a step of thread
`i` puts a new state at position `i`.  What the threads have produced is read off
the list by a partial function, which is the output of a thread once it has one.
A step that gives a thread its output adds it to the outputs, up to their order,
and a step that does not change the thread's output changes none.
-/

namespace Threads

variable {α β : Type} {l : List α} {i : Nat} {a b : α}

/-- The new state is at `i`, and the other threads are as before. -/
theorem get_set {j : Nat} {c : α} (h : (l.set i b)[j]? = some c) :
    (j = i ∧ c = b) ∨ (j ≠ i ∧ l[j]? = some c) := by
  rw [List.getElem?_set] at h
  split at h
  next hij =>
    subst hij
    split at h
    next => cases h; exact Or.inl ⟨rfl, rfl⟩
    next => cases h
  next hij => exact Or.inr ⟨fun hji => hij hji.symm, h⟩

/-- A step that makes a measure of its thread smaller makes the sum smaller. -/
theorem sum_set_lt {f : α → Nat} (h : l[i]? = some a) (hless : f b < f a) :
    ((l.set i b).map f).sum < (l.map f).sum := by
  induction l generalizing i with
  | nil => cases h
  | cons c l ih =>
      cases i with
      | zero =>
          cases h
          simpa using hless
      | succ i =>
          have hrest := ih (i := i) h
          simpa using hrest

/-- How many threads are at a place changes by the one that moves. -/
theorem countP_set {p : α → Bool} (h : l[i]? = some a) (b : α) :
    (l.set i b).countP p + (if p a then 1 else 0) = l.countP p + (if p b then 1 else 0) := by
  obtain ⟨hi, rfl⟩ := List.getElem?_eq_some_iff.mp h
  have hpos : (if p l[i] then 1 else 0) ≤ l.countP p := by
    split
    next hp => exact List.countP_pos_iff.mpr ⟨l[i], List.getElem_mem hi, hp⟩
    next => exact Nat.zero_le _
  rw [List.countP_set hi]
  omega

theorem countP_set_leave {p : α → Bool} (h : l[i]? = some a) (ha : p a = true)
    (hb : p b = false) : (l.set i b).countP p + 1 = l.countP p := by
  have hset := countP_set (p := p) h b
  rw [ha, hb] at hset
  simpa using hset

/-- A thread that comes to a place only from there adds no thread. -/
theorem countP_set_le {p : α → Bool} (h : l[i]? = some a) (hp : p b = true → p a = true) :
    (l.set i b).countP p ≤ l.countP p := by
  have hset := countP_set (p := p) h b
  cases hb : p b with
  | false =>
      rw [hb] at hset
      simp only [Bool.false_eq_true, if_false] at hset
      omega
  | true =>
      rw [hb, hp hb] at hset
      omega

/-- A new thread is the last one. -/
theorem get_append {j : Nat} {c : α} (h : (l ++ [b])[j]? = some c) :
    (j = l.length ∧ c = b) ∨ l[j]? = some c := by
  rw [List.getElem?_append] at h
  split at h
  next => exact Or.inr h
  next hge =>
    rw [List.getElem?_singleton] at h
    split at h
    next => cases h; exact Or.inl ⟨by omega, rfl⟩
    next => cases h

theorem outputs_split (output : α → Option β) (h : l[i]? = some a) (b : α) :
    l.filterMap output = (l.take i).filterMap output ++ (output a).toList ++
        (l.drop (i + 1)).filterMap output ∧
      (l.set i b).filterMap output = (l.take i).filterMap output ++ (output b).toList ++
        (l.drop (i + 1)).filterMap output := by
  obtain ⟨hi, rfl⟩ := List.getElem?_eq_some_iff.mp h
  have hl : l = l.take i ++ l[i] :: l.drop (i + 1) := by
    rw [List.getElem_cons_drop, List.take_append_drop]
  constructor
  · conv_lhs => rw [hl]
    rw [List.filterMap_append, List.filterMap_cons]
    cases output l[i] <;> simp
  · rw [List.set_eq_take_append_cons_drop, if_pos hi, List.filterMap_append, List.filterMap_cons]
    cases output b <;> simp

variable {output : α → Option β}

/-- A step that leaves the thread's output leaves all outputs. -/
theorem outputs_set_of_eq (h : l[i]? = some a) (hb : output b = output a) :
    (l.set i b).filterMap output = l.filterMap output := by
  obtain ⟨h₁, h₂⟩ := outputs_split output h b
  rw [h₁, h₂, hb]

/-- A step that gives the thread its output adds that. -/
theorem outputs_set_of_new (h : l[i]? = some a) (ha : output a = none) {x : β}
    (hb : output b = some x) :
    ((l.set i b).filterMap output).Perm (l.filterMap output ++ [x]) := by
  obtain ⟨h₁, h₂⟩ := outputs_split output h b
  rw [h₁, h₂, ha, hb, Option.toList_none, Option.toList_some, List.append_nil, List.append_assoc,
    List.append_assoc]
  exact List.Perm.append_left _ List.perm_append_comm

end Threads
