import Mathlib.Algebra.Order.BigOperators.Group.List
import Mathlib.Tactic

/-!
# Greedy packing

Items with sizes are packed into groups, in their order.  An item starts a new
group where it would bring the current one above the bound.

No item is lost, repeated or moved (`flatten_groups`).  Where no single item is
above the bound, no group is either (`total_le_of_mem_groups`) and none is empty
(`ne_nil_of_mem_groups`).
-/

namespace Packing

variable {α : Type} (size : α → Nat) (bound : Nat)

/-- The size of a group. -/
def total (group : List α) : Nat := (group.map size).sum

/-- The groups of what is in the current one and of the items that follow. -/
def groups : List α → List α → List (List α)
  | current, [] => [current]
  | current, item :: items =>
      if bound < total size current + size item then current :: groups [item] items
      else groups (current ++ [item]) items

/-- An item above the bound comes up before the current group is full. -/
def BlockedFirst (current items : List α) : Prop :=
  ∃ before item after, items = before ++ item :: after ∧ bound < size item ∧
    total size current + total size before ≤ bound

variable {size bound} {current items : List α} {item : α}

@[simp] theorem total_nil : total size [] = 0 := rfl

@[simp] theorem total_singleton : total size [item] = size item := by
  simp [total]

@[simp] theorem total_cons : total size (item :: items) = size item + total size items := by
  simp [total]

@[simp] theorem total_append : total size (current ++ items) =
    total size current + total size items := by
  simp [total]

theorem size_le_total (h : item ∈ items) : size item ≤ total size items :=
  List.single_le_sum (fun _ _ => Nat.zero_le _) _ (List.mem_map_of_mem h)

theorem flatten_groups : (groups size bound current items).flatten = current ++ items := by
  induction items generalizing current with
  | nil => simp [groups]
  | cons item items ih =>
      simp only [groups]
      split
      next => simp [ih]
      next => simp [ih]

theorem total_le_of_mem_groups (hitems : ∀ item ∈ items, size item ≤ bound)
    (hcurrent : total size current ≤ bound) :
    ∀ group ∈ groups size bound current items, total size group ≤ bound := by
  induction items generalizing current with
  | nil => simpa [groups] using hcurrent
  | cons item items ih =>
      have hitem := hitems item List.mem_cons_self
      have hrest := fun i hi => hitems i (List.mem_cons_of_mem item hi)
      simp only [groups]
      split
      next =>
        intro group hgroup
        rcases List.mem_cons.mp hgroup with rfl | hgroup
        · exact hcurrent
        · exact ih hrest (by simpa using hitem) group hgroup
      next hfits => exact ih hrest (by simpa using hfits)

theorem ne_nil_of_mem_groups (hitems : ∀ item ∈ items, size item ≤ bound)
    (hne : current ++ items ≠ []) : ∀ group ∈ groups size bound current items, group ≠ [] := by
  induction items generalizing current with
  | nil => simpa [groups] using hne
  | cons item items ih =>
      have hitem := hitems item List.mem_cons_self
      have hrest := fun i hi => hitems i (List.mem_cons_of_mem item hi)
      simp only [groups]
      split
      next hfull =>
        intro group hgroup
        rcases List.mem_cons.mp hgroup with rfl | hgroup
        · -- An empty group has room for every item.
          rintro rfl
          rw [total_nil] at hfull
          omega
        · exact ih hrest (by simp) group hgroup
      next => exact ih hrest (by simp)

/-- What comes up first: an item above the bound, or nothing that stops the packing
of the current group. -/
theorem blockedFirst_cons : BlockedFirst size bound current (item :: items) ↔
    (bound < size item ∧ total size current ≤ bound) ∨
      (total size current + size item ≤ bound ∧
        BlockedFirst size bound (current ++ [item]) items) := by
  constructor
  · rintro ⟨before, oversize, after, heq, hover, hroom⟩
    cases before with
    | nil =>
        cases heq
        exact Or.inl ⟨hover, by simpa using hroom⟩
    | cons first before =>
        cases heq
        rw [total_cons] at hroom
        refine Or.inr ⟨by omega, before, oversize, after, rfl, hover, ?_⟩
        rw [total_append, total_singleton]
        omega
  · rintro (⟨hover, hroom⟩ | ⟨-, before, oversize, after, rfl, hover, hroom⟩)
    · exact ⟨[], item, items, rfl, hover, by simpa using hroom⟩
    · refine ⟨item :: before, oversize, after, rfl, hover, ?_⟩
      rw [total_append, total_singleton] at hroom
      rw [total_cons]
      omega

theorem not_blockedFirst_nil : ¬ BlockedFirst size bound current [] := by
  rintro ⟨before, item, after, heq, -⟩
  cases before with
  | nil => cases heq
  | cons first before => cases heq

theorem BlockedFirst.exists_mem (h : BlockedFirst size bound current items) :
    ∃ item ∈ items, bound < size item := by
  obtain ⟨before, item, after, rfl, hover, -⟩ := h
  exact ⟨item, by simp, hover⟩

end Packing
