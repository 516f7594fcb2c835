import Mathlib.Logic.Basic
import Mathlib.Data.List.Basic

/-!
# Binary heaps

A binary heap kept in a list, the children of position `i` at `2 * i + 1` and
`2 * i + 2`.  The comparison `le` is a parameter and need not be an order: `push`
and `pop` make the comparisons that the heap of the Rust standard library makes.

What a heap holds does not depend on the comparison (`push_perm`, `pop_perm`).  That
its first element is the largest one does: `isHeap_push` asks for an order on the
elements that are there.
-/

namespace Heap

variable {α : Type}

/-- Move the element at `pos` up, past every parent it is not below.  A position
is more than the number of its ancestors, which bounds the moves. -/
def siftUp (le : α → α → Bool) : Nat → Nat → List α → List α
  | 0, _, h => h
  | moves + 1, pos, h =>
      if pos = 0 then h
      else
        let parent := (pos - 1) / 2
        match h[pos]?, h[parent]? with
        | some x, some y =>
            if le x y then h else siftUp le moves parent ((h.set pos y).set parent x)
        | _, _ => h

/-- `BinaryHeap::push`. -/
def push (le : α → α → Bool) (h : List α) (x : α) : List α :=
  siftUp le h.length h.length (h ++ [x])

/-- Move the element at `pos` down to the bottom, each time to the larger child, and
give its place there. -/
def sink (le : α → α → Bool) : Nat → Nat → List α → Nat × List α
  | 0, pos, h => (pos, h)
  | moves + 1, pos, h =>
      match h[pos]?, h[2 * pos + 1]?, h[2 * pos + 2]? with
      | some x, some l, some r =>
          if le l r then sink le moves (2 * pos + 2) ((h.set pos r).set (2 * pos + 2) x)
          else sink le moves (2 * pos + 1) ((h.set pos l).set (2 * pos + 1) x)
      | some x, some l, none => (2 * pos + 1, (h.set pos l).set (2 * pos + 1) x)
      | _, _, _ => (pos, h)

/-- `BinaryHeap::sift_down_to_bottom`, from the root. -/
def siftDownToBottom (le : α → α → Bool) (h : List α) : List α :=
  let (pos, h) := sink le h.length 0 h
  siftUp le pos pos h

/-- `BinaryHeap::pop`: the last element takes the place of the first one. -/
def pop (le : α → α → Bool) (h : List α) : Option (α × List α) :=
  match h.getLast?, h.dropLast with
  | none, _ => none
  | some item, [] => some (item, [])
  | some item, top :: rest => some (top, siftDownToBottom le (item :: rest))

/-- What `count` calls of `pop` give. -/
def pops (le : α → α → Bool) : Nat → List α → List α
  | 0, _ => []
  | count + 1, h =>
      match pop le h with
      | none => []
      | some (x, h') => x :: pops le count h'

/-- The elements in the order in which they leave the heap. -/
def popOrder (le : α → α → Bool) (h : List α) : List α := pops le h.length h

/-! ## What a heap holds -/

variable {le : α → α → Bool} {h h' : List α} {x : α}

theorem set_set_perm {i j : Nat} {x y : α} (hi : h[i]? = some x) (hj : h[j]? = some y) :
    ((h.set i y).set j x).Perm h := by
  obtain ⟨hilt, rfl⟩ := List.getElem?_eq_some_iff.mp hi
  obtain ⟨hjlt, rfl⟩ := List.getElem?_eq_some_iff.mp hj
  exact List.set_set_perm hilt hjlt

theorem siftUp_perm (le : α → α → Bool) (moves pos : Nat) (h : List α) :
    (siftUp le moves pos h).Perm h := by
  induction moves generalizing pos h with
  | zero => exact List.Perm.refl h
  | succ moves ih =>
      rw [siftUp]
      split
      next => exact List.Perm.refl h
      next =>
        dsimp only
        split
        next x y hx hy =>
          split
          next => exact List.Perm.refl h
          next => exact (ih _ _).trans (set_set_perm hx hy)
        next => exact List.Perm.refl h

theorem push_perm (le : α → α → Bool) (h : List α) (x : α) : (push le h x).Perm (x :: h) :=
  (siftUp_perm le _ _ _).trans List.perm_append_comm

theorem sink_perm (le : α → α → Bool) (moves pos : Nat) (h : List α) :
    (sink le moves pos h).2.Perm h := by
  induction moves generalizing pos h with
  | zero => exact List.Perm.refl h
  | succ moves ih =>
      rw [sink]
      split
      next x l r hx hl hr =>
        split
        next => exact (ih _ _).trans (set_set_perm hx hr)
        next => exact (ih _ _).trans (set_set_perm hx hl)
      next x l hx hl hr => exact set_set_perm hx hl
      next => exact List.Perm.refl h

theorem siftDownToBottom_perm (le : α → α → Bool) (h : List α) :
    (siftDownToBottom le h).Perm h :=
  (siftUp_perm le _ _ _).trans (sink_perm le _ _ h)

theorem pop_nil (le : α → α → Bool) : pop le [] = none := rfl

/-- A pop takes the first element. -/
theorem pop_cons (le : α → α → Bool) (x : α) (h : List α) :
    ∃ h', pop le (x :: h) = some (x, h') ∧ h'.Perm h := by
  rcases List.eq_nil_or_concat' h with rfl | ⟨rest, item, rfl⟩
  · exact ⟨[], rfl, List.Perm.refl []⟩
  · refine ⟨siftDownToBottom le (item :: rest), ?_, ?_⟩
    · rw [← List.cons_append, pop, List.getLast?_concat, List.dropLast_concat]
    · exact (siftDownToBottom_perm le _).trans (List.perm_append_singleton item rest).symm

theorem pop_some (hpop : pop le h = some (x, h')) : h.head? = some x ∧ (x :: h').Perm h := by
  cases h with
  | nil => cases hpop
  | cons y h =>
      obtain ⟨rest, hrest, hperm⟩ := pop_cons le y h
      cases hrest.symm.trans hpop
      exact ⟨rfl, hperm.cons x⟩

theorem length_pop (hpop : pop le h = some (x, h')) : h.length = h'.length + 1 :=
  (pop_some hpop).2.length_eq.symm

theorem popOrder_nil (le : α → α → Bool) : popOrder le [] = [] := rfl

theorem popOrder_of_pop (hpop : pop le h = some (x, h')) : popOrder le h = x :: popOrder le h' := by
  rw [popOrder, length_pop hpop, pops, hpop]
  rfl

theorem popOrder_perm (le : α → α → Bool) (h : List α) : (popOrder le h).Perm h := by
  induction hn : h.length generalizing h with
  | zero => rw [List.length_eq_zero_iff.mp hn]; exact List.Perm.refl []
  | succ n ih =>
      obtain ⟨x, rest, rfl⟩ := List.exists_cons_of_length_eq_add_one hn
      obtain ⟨h', hpop, -⟩ := pop_cons le x rest
      rw [popOrder_of_pop hpop]
      have hlen := length_pop hpop
      exact ((ih h' (by omega)).cons x).trans (pop_some hpop).2

/-! ## The largest element comes first -/

/-- `le` orders the elements that `P` allows. -/
structure Orders (le : α → α → Bool) (P : α → Prop) : Prop where
  total : ∀ x y, P x → P y → le x y = true ∨ le y x = true
  trans : ∀ x y z, P x → P y → P z → le x y = true → le y z = true → le x z = true

/-- Where both positions are in the list, the first one is not above the second one. -/
def Below (le : α → α → Bool) (a b : Option α) : Prop := ∀ x ∈ a, ∀ y ∈ b, le x y = true

/-- No element is above its parent. -/
def IsHeap (le : α → α → Bool) (h : List α) : Prop :=
  ∀ i, 0 < i → Below le h[i]? h[(i - 1) / 2]?

/-- The order that a `siftUp` from `pos` needs: `pos` may be above its parent, but its
children are not. -/
structure HeapExcept (le : α → α → Bool) (pos : Nat) (h : List α) : Prop where
  except : ∀ i, 0 < i → i ≠ pos → Below le h[i]? h[(i - 1) / 2]?
  grand : 0 < pos → ∀ i, 0 < i → (i - 1) / 2 = pos → Below le h[i]? h[(pos - 1) / 2]?

section Order

variable {P : α → Prop} {pos : Nat}

theorem Below.trans (hle : Orders le P) {a b c : Option α} {y : α} (hb : b = some y)
    (ha : ∀ x ∈ a, P x) (hy : P y) (hc : ∀ x ∈ c, P x) (hab : Below le a b) (hbc : Below le b c) :
    Below le a c := fun x hx z hz =>
  hle.trans x y z (ha x hx) hy (hc z hz) (hab x hx y hb) (hbc y hb z hz)

/-- An element that is above its parent changes places with it. -/
theorem HeapExcept.move (hle : Orders le P) (hP : ∀ x ∈ h, P x) (hheap : HeapExcept le pos h)
    (hpos : 0 < pos) {x y : α} (hx : h[pos]? = some x) (hy : h[(pos - 1) / 2]? = some y)
    (hnot : ¬ le x y = true) :
    HeapExcept le ((pos - 1) / 2) ((h.set pos y).set ((pos - 1) / 2) x) := by
  have hPx : P x := hP x (List.mem_of_getElem? hx)
  have hPy : P y := hP y (List.mem_of_getElem? hy)
  have hyx : le y x = true := (hle.total x y hPx hPy).resolve_left hnot
  have hget (i : Nat) (hi : i ≠ pos) (hi' : i ≠ (pos - 1) / 2) :
      ((h.set pos y).set ((pos - 1) / 2) x)[i]? = h[i]? := by
    rw [List.getElem?_set_ne (Ne.symm hi'), List.getElem?_set_ne (Ne.symm hi)]
  have hpar : ((h.set pos y).set ((pos - 1) / 2) x)[(pos - 1) / 2]? = some x := by
    rw [List.getElem?_set_self]
    rw [List.length_set]
    exact (List.getElem?_eq_some_iff.mp hy).1
  have hself : ((h.set pos y).set ((pos - 1) / 2) x)[pos]? = some y := by
    rw [List.getElem?_set_ne (by omega), List.getElem?_set_self]
    exact (List.getElem?_eq_some_iff.mp hx).1
  have hPget (i : Nat) : ∀ z ∈ h[i]?, P z := fun z hz => hP z (List.mem_of_getElem? hz)
  constructor
  · intro i hi hine
    by_cases hipos : i = pos
    · subst hipos
      rw [hself, hpar]
      intro z hz w hw
      cases hz
      cases hw
      exact hyx
    · rw [hget i hipos hine]
      by_cases hchild : (i - 1) / 2 = pos
      · rw [hchild, hself]
        have hbelow := hheap.grand hpos i hi hchild
        rwa [hy] at hbelow
      · by_cases hsib : (i - 1) / 2 = (pos - 1) / 2
        · rw [hsib, hpar]
          have hbelow := hheap.except i hi hipos
          rw [hsib, hy] at hbelow
          intro z hz w hw
          cases hw
          exact hle.trans z y x (hPget i z hz) hPy hPx (hbelow z hz y rfl) hyx
        · rw [hget _ hchild hsib]
          exact hheap.except i hi hipos
  · intro hpar0 i hi hchild
    have hup := hheap.except ((pos - 1) / 2) hpar0 (by omega)
    rw [hget (((pos - 1) / 2 - 1) / 2) (by omega) (by omega)]
    by_cases hipos : i = pos
    · subst hipos
      rw [hself, ← hy]
      exact hup
    · rw [hget i hipos (by omega)]
      have hbelow := hheap.except i hi hipos
      rw [hchild] at hbelow
      exact Below.trans hle hy (hPget i) hPy (hPget _) hbelow hup

theorem isHeap_siftUp (hle : Orders le P) (moves : Nat) (hmoves : pos ≤ moves)
    (hP : ∀ x ∈ h, P x) (hheap : HeapExcept le pos h) : IsHeap le (siftUp le moves pos h) := by
  have hdone (hstop : 0 < pos → Below le h[pos]? h[(pos - 1) / 2]?) : IsHeap le h := by
    intro i hi
    by_cases hipos : i = pos
    · rw [hipos]
      exact hstop (hipos ▸ hi)
    · exact hheap.except i hi hipos
  induction moves generalizing pos h with
  | zero => exact hdone fun hpos => absurd hpos (by omega)
  | succ moves ih =>
      rw [siftUp]
      split
      next hpos => exact hdone fun hpos' => absurd hpos' (by omega)
      next hpos =>
        dsimp only
        split
        next x y hx hy =>
          split
          next hxy =>
            refine hdone fun _ => ?_
            rw [hx, hy]
            intro z hz w hw
            cases hz
            cases hw
            exact hxy
          next hxy =>
            have hmove := hheap.move hle hP (Nat.pos_of_ne_zero hpos) hx hy hxy
            have hP' : ∀ z ∈ (h.set pos y).set ((pos - 1) / 2) x, P z := fun z hz =>
              hP z ((set_set_perm hx hy).mem_iff.mp hz)
            refine ih (by omega) hP' hmove fun hstop i hi => ?_
            by_cases hipos : i = (pos - 1) / 2
            · rw [hipos]
              exact hstop (hipos ▸ hi)
            · exact hmove.except i hi hipos
        next hnone =>
          refine hdone fun _ => ?_
          intro x hx y hy
          exact absurd hy (hnone x y hx)

/-- A push keeps the heap. -/
theorem isHeap_push (hle : Orders le P) (hP : ∀ y ∈ h, P y) (hx : P x) (hheap : IsHeap le h) :
    IsHeap le (push le h x) := by
  refine isHeap_siftUp hle _ (Nat.le_refl _) ?_ ⟨?_, ?_⟩
  · intro y hy
    rcases List.mem_append.mp hy with hold | hnew
    · exact hP y hold
    · exact List.mem_singleton.mp hnew ▸ hx
  · intro i hi hine y hy z hz
    have hlt : i < h.length := by
      have := (List.getElem?_eq_some_iff.mp hy).1
      rw [List.length_append, List.length_singleton] at this
      omega
    rw [List.getElem?_append_left hlt] at hy
    rw [List.getElem?_append_left (by omega)] at hz
    exact hheap i hi y hy z hz
  · intro _ i hi hchild y hy
    have hlt := (List.getElem?_eq_some_iff.mp hy).1
    rw [List.length_append, List.length_singleton] at hlt
    omega

/-- Nothing is above the first element. -/
theorem IsHeap.le_head (hle : Orders le P) (hP : ∀ y ∈ h, P y) (hheap : IsHeap le h) {top : α}
    (htop : h.head? = some top) {y : α} (hy : y ∈ h) : le y top = true := by
  obtain ⟨i, hi⟩ := List.mem_iff_getElem?.mp hy
  rw [List.head?_eq_getElem?] at htop
  have hPtop := hP top (List.mem_of_getElem? htop)
  induction i using Nat.strongRecOn generalizing y with
  | ind i ih =>
      rcases Nat.eq_zero_or_pos i with rfl | hpos
      · cases htop.symm.trans hi
        exact (hle.total top top hPtop hPtop).elim id id
      · have hlt := (List.getElem?_eq_some_iff.mp hi).1
        obtain ⟨z, hz⟩ : ∃ z, h[(i - 1) / 2]? = some z :=
          ⟨_, List.getElem?_eq_getElem (by omega)⟩
        have hzmem := List.mem_of_getElem? hz
        have hztop := ih ((i - 1) / 2) (by omega) hzmem hz
        exact hle.trans y z top (hP y hy) (hP z hzmem) hPtop (hheap i hpos y hi z hz) hztop

end Order

end Heap
