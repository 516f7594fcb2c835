import Mathlib.Logic.Basic

/-!
# A lock that is handed on in order

The queue of a fair lock.  Who stands first has the lock, a request goes to the end,
and a release hands the lock to the next one.  One that never releases the lock bars
all who stand behind it, and whoever comes later does.
-/

namespace FairLock

variable {ι : Type}

/-- Who has the lock. -/
def holder (queue : List ι) : Option ι := queue.head?

def request (queue : List ι) (i : ι) : List ι := queue ++ [i]

def release (queue : List ι) : List ι := queue.tail

/-- `owner` is in the queue, and nobody in `P` stands before it. -/
def Barred (owner : ι) (P : ι → Prop) (queue : List ι) : Prop :=
  ∃ front behind, queue = front ++ owner :: behind ∧ ∀ i ∈ front, ¬ P i

namespace Barred

variable {owner : ι} {P : ι → Prop} {queue : List ι}

theorem append (h : ∀ i ∈ queue, ¬ P i) (behind : List ι) :
    Barred owner P (queue ++ owner :: behind) := ⟨queue, behind, rfl, h⟩

theorem request (h : Barred owner P queue) (i : ι) : Barred owner P (request queue i) := by
  obtain ⟨front, behind, rfl, hfront⟩ := h
  refine ⟨front, behind ++ [i], ?_, hfront⟩
  rw [FairLock.request, List.append_assoc, List.cons_append]

/-- Anyone but the owner may release the lock. -/
theorem release {i : ι} (h : Barred owner P queue) (hi : holder queue = some i)
    (hne : i ≠ owner) : Barred owner P (release queue) := by
  obtain ⟨front, behind, rfl, hfront⟩ := h
  cases front with
  | nil =>
      cases hi
      exact absurd rfl hne
  | cons j front => exact ⟨front, behind, rfl, fun k hk => hfront k (List.mem_cons_of_mem j hk)⟩

/-- Nobody in `P` has the lock but the owner. -/
theorem eq_owner {i : ι} (h : Barred owner P queue) (hi : holder queue = some i) (hP : P i) :
    i = owner := by
  obtain ⟨front, behind, rfl, hfront⟩ := h
  cases front with
  | nil =>
      cases hi
      rfl
  | cons j front =>
      cases hi
      exact absurd hP (hfront i (List.mem_cons_self ..))

end Barred

end FairLock
