import Mathlib.Logic.Basic

/-!
# Executions of imperative code

A call of a stateful function ends in one of four ways.  It returns, it hands an
error to its caller, it panics, or it never returns because it waits for
something that does not come.  `Outcome` is these four, and `Exec ε σ α` is a
call over a state `σ`: it takes the state at its start and gives its outcome
with the state it leaves.  The state is kept in all four cases, since what a
call wrote before it panicked stays written.

`bind` is the sequencing of statements.  An error, a panic and a block all skip
the rest, which is the `?` operator for the first and unwinding for the second.

Machine arithmetic is `arith`: the result in the machine's type, the proposition
that the exact result fits, and the build's overflow mode.  A checked build
panics where the result does not fit and a wrapping one goes on.

A *frame rule* says what a piece of code leaves alone.  `Keeps I m` says that
`m` keeps the invariant `I` in every outcome, and the `keeps` lemmas follow the
shape of the code.
-/

/-- How a call ended. -/
inductive Outcome (ε α : Type) where
  /-- It returned. -/
  | ok (a : α)
  /-- It returned an error to its caller. -/
  | err (e : ε)
  /-- It panicked. -/
  | panic
  /-- It waits for ever. -/
  | block
deriving DecidableEq, Repr

/-- A call over the state `σ`. -/
def Exec (ε σ α : Type) : Type := σ → Outcome ε α × σ

namespace Exec

variable {ε σ α β : Type}

/-! ## Statements -/

protected def pure (a : α) : Exec ε σ α := fun s => (.ok a, s)

protected def bind (m : Exec ε σ α) (f : α → Exec ε σ β) : Exec ε σ β := fun s =>
  match m s with
  | (.ok a, s') => f a s'
  | (.err e, s') => (.err e, s')
  | (.panic, s') => (.panic, s')
  | (.block, s') => (.block, s')

instance : Monad (Exec ε σ) where
  pure := Exec.pure
  bind := Exec.bind

/-- Return an error. -/
def throw (e : ε) : Exec ε σ α := fun s => (.err e, s)

def panic : Exec ε σ α := fun s => (.panic, s)

def block : Exec ε σ α := fun s => (.block, s)

def get : Exec ε σ σ := fun s => (.ok s, s)

def modify (f : σ → σ) : Exec ε σ Unit := fun s => (.ok (), f s)

/-- `Option::unwrap`. -/
def unwrap : Option α → Exec ε σ α
  | some a => Exec.pure a
  | none => panic

/-- The `?` operator on a finished result. -/
def ofExcept : Except ε α → Exec ε σ α
  | .ok a => Exec.pure a
  | .error e => throw e

/-- `assert!`-like guard of an operation that panics unless `p` holds. -/
def require (p : Prop) [Decidable p] : Exec ε σ Unit := if p then Exec.pure () else panic

/-- An `if` without `else`. -/
def when (p : Prop) [Decidable p] (m : Exec ε σ Unit) : Exec ε σ Unit := if p then m else Exec.pure ()

/-- A task of its own: however it ends, its spawner goes on. -/
def spawn {ε' : Type} (m : Exec ε' σ α) : Exec ε σ Unit := fun s => (.ok (), (m s).2)

/-- A call whose error is only logged. -/
def logged {ε' : Type} (m : Exec ε' σ Unit) : Exec ε σ Unit := fun s =>
  match m s with
  | (.ok (), s') => (.ok (), s')
  | (.err _, s') => (.ok (), s')
  | (.panic, s') => (.panic, s')
  | (.block, s') => (.block, s')

/-- A call on a part of the state. -/
def zoom {τ : Type} (part : σ → τ) (put : σ → τ → σ) (m : Exec ε τ α) : Exec ε σ α := fun s =>
  ((m (part s)).1, put s (m (part s)).2)

/-- The outcomes of calls made one after the other, each on the state that the
last one left, however that ended. -/
def outcomes : List (Exec ε σ α) → σ → List (Outcome ε α)
  | [], _ => []
  | m :: ms, s => (m s).1 :: outcomes ms (m s).2

/-! ## One step of evaluation -/

@[simp] theorem pure_apply (a : α) (s : σ) : (pure a : Exec ε σ α) s = (.ok a, s) := rfl

theorem pure_inj [Nonempty σ] {a b : α} : (pure a : Exec ε σ α) = pure b ↔ a = b := by
  refine ⟨fun h => ?_, congrArg pure⟩
  obtain ⟨s⟩ : Nonempty σ := inferInstance
  have hs := congrFun h s
  cases hs
  rfl

@[simp] theorem throw_apply (e : ε) (s : σ) : (throw e : Exec ε σ α) s = (.err e, s) := rfl

@[simp] theorem panic_apply (s : σ) : (panic : Exec ε σ α) s = (.panic, s) := rfl

@[simp] theorem block_apply (s : σ) : (block : Exec ε σ α) s = (.block, s) := rfl

@[simp] theorem get_apply (s : σ) : (get : Exec ε σ σ) s = (.ok s, s) := rfl

@[simp] theorem modify_apply (f : σ → σ) (s : σ) :
    (modify f : Exec ε σ Unit) s = (.ok (), f s) := rfl

@[simp] theorem unwrap_some (a : α) : (unwrap (some a) : Exec ε σ α) = pure a := rfl

@[simp] theorem unwrap_none : (unwrap none : Exec ε σ α) = panic := rfl

@[simp] theorem ofExcept_ok (a : α) : (ofExcept (.ok a) : Exec ε σ α) = pure a := rfl

@[simp] theorem ofExcept_error (e : ε) : (ofExcept (.error e) : Exec ε σ α) = throw e := rfl

theorem when_pos {p : Prop} [Decidable p] (h : p) (m : Exec ε σ Unit) : when p m = m := if_pos h

theorem when_neg {p : Prop} [Decidable p] (h : ¬ p) (m : Exec ε σ Unit) : when p m = pure () :=
  if_neg h

theorem when_modify_apply (p : Prop) [Decidable p] (f : σ → σ) (s : σ) :
    (when p (modify f) : Exec ε σ Unit) s = (.ok (), if p then f s else s) := by
  by_cases hp : p
  · rw [when_pos hp, if_pos hp]
    rfl
  · rw [when_neg hp, if_neg hp]
    rfl

theorem require_pos {p : Prop} [Decidable p] (h : p) : (require p : Exec ε σ Unit) = pure () :=
  if_pos h

theorem require_neg {p : Prop} [Decidable p] (h : ¬ p) : (require p : Exec ε σ Unit) = panic :=
  if_neg h

theorem bind_apply (m : Exec ε σ α) (f : α → Exec ε σ β) (s : σ) :
    (m >>= f) s =
      match m s with
      | (.ok a, s') => f a s'
      | (.err e, s') => (.err e, s')
      | (.panic, s') => (.panic, s')
      | (.block, s') => (.block, s') := rfl

/-- A statement that returns is followed by the next one. -/
theorem bind_ok {m : Exec ε σ α} {f : α → Exec ε σ β} {s s' : σ} {a : α}
    (h : m s = (.ok a, s')) : (m >>= f) s = f a s' := by
  rw [bind_apply, h]

/-- A statement with an error is the last one. -/
theorem bind_err {m : Exec ε σ α} {f : α → Exec ε σ β} {s s' : σ} {e : ε}
    (h : m s = (.err e, s')) : (m >>= f) s = (.err e, s') := by
  rw [bind_apply, h]

/-- A statement that panics is the last one. -/
theorem bind_panic {m : Exec ε σ α} {f : α → Exec ε σ β} {s s' : σ}
    (h : m s = (.panic, s')) : (m >>= f) s = (.panic, s') := by
  rw [bind_apply, h]

theorem bind_assoc {γ : Type} (m : Exec ε σ α) (f : α → Exec ε σ β) (g : β → Exec ε σ γ) :
    (m >>= f) >>= g = m >>= fun a => f a >>= g := by
  funext s
  simp only [bind_apply]
  rcases m s with ⟨o, s'⟩
  cases o with
  | ok a => rfl
  | err e => rfl
  | panic => rfl
  | block => rfl

@[simp] theorem pure_bind (a : α) (f : α → Exec ε σ β) : (pure a >>= f) = f a := rfl

@[simp] theorem throw_bind (e : ε) (f : α → Exec ε σ β) :
    ((throw e : Exec ε σ α) >>= f) = throw e := rfl

@[simp] theorem panic_bind (f : α → Exec ε σ β) :
    ((panic : Exec ε σ α) >>= f) = panic := rfl

@[simp] theorem block_bind (f : α → Exec ε σ β) :
    ((block : Exec ε σ α) >>= f) = block := rfl

@[simp] theorem get_bind_apply (f : σ → Exec ε σ β) (s : σ) : (get >>= f) s = f s s := rfl

@[simp] theorem modify_bind_apply (g : σ → σ) (f : Unit → Exec ε σ β) (s : σ) :
    (modify g >>= f) s = f () (g s) := rfl

/-- A sequence goes on to its second statement, or its first one ends it. -/
theorem bind_eq {m : Exec ε σ α} {f : α → Exec ε σ β} {s s'' : σ} {o : Outcome ε β}
    (h : (m >>= f) s = (o, s'')) :
    (∃ a s', m s = (.ok a, s') ∧ f a s' = (o, s'')) ∨
      ∃ o', m s = (o', s'') ∧ (∀ b, o ≠ .ok b) ∧ (∀ a, o' ≠ .ok a) ∧
        (o ≠ .panic → o' ≠ .panic) := by
  rw [bind_apply] at h
  rcases hm : m s with ⟨o', s'⟩
  rw [hm] at h
  cases o' with
  | ok a => exact Or.inl ⟨a, s', rfl, h⟩
  | err e => cases h; exact Or.inr ⟨_, rfl, by simp⟩
  | panic => cases h; exact Or.inr ⟨_, rfl, by simp⟩
  | block => cases h; exact Or.inr ⟨_, rfl, by simp⟩

/-- A sequence returns only if its first statement does. -/
theorem bind_eq_ok {m : Exec ε σ α} {f : α → Exec ε σ β} {s s'' : σ} {b : β}
    (h : (m >>= f) s = (.ok b, s'')) : ∃ a s', m s = (.ok a, s') ∧ f a s' = (.ok b, s'') := by
  rcases bind_eq h with h | ⟨_, -, hb, -⟩
  · exact h
  · exact absurd rfl (hb b)

/-- The error of a sequence is that of its second statement or of its first. -/
theorem bind_eq_err {m : Exec ε σ α} {f : α → Exec ε σ β} {s s'' : σ} {e : ε}
    (h : (m >>= f) s = (.err e, s'')) :
    (∃ a s', m s = (.ok a, s') ∧ f a s' = (.err e, s'')) ∨ m s = (.err e, s'') := by
  rw [bind_apply] at h
  rcases hm : m s with ⟨o', s'⟩
  rw [hm] at h
  cases o' with
  | ok a => exact Or.inl ⟨a, s', rfl, h⟩
  | err e' => cases h; exact Or.inr rfl
  | panic => cases h
  | block => cases h

/-- What follows an `unwrap` is reached at the value inside, unless it panicked. -/
theorem unwrap_bind_eq {x : Option α} {f : α → Exec ε σ β} {s s' : σ} {o : Outcome ε β}
    (h : (unwrap x >>= f) s = (o, s')) (ho : o ≠ .panic) :
    ∃ a, x = some a ∧ f a s = (o, s') := by
  cases x with
  | none => cases h; exact absurd rfl ho
  | some a => exact ⟨a, rfl, h⟩

/-- What follows a `?` is reached at the value inside, unless the error left. -/
theorem ofExcept_bind_eq {x : Except ε α} {f : α → Exec ε σ β} {s s' : σ} {o : Outcome ε β}
    (h : (ofExcept x >>= f) s = (o, s')) :
    (∃ e, x = .error e ∧ o = .err e ∧ s' = s) ∨ ∃ a, x = .ok a ∧ f a s = (o, s') := by
  cases x with
  | error e => cases h; exact Or.inl ⟨e, rfl, rfl, rfl⟩
  | ok a => exact Or.inr ⟨a, rfl, h⟩

/-! ## Calls that come back -/

end Exec

/-- The call came back to its caller, with a value or with an error. -/
def Outcome.Returns {ε α : Type} : Outcome ε α → Prop
  | .ok _ => True
  | .err _ => True
  | .panic => False
  | .block => False

namespace Outcome

variable {ε α : Type}

@[simp] theorem returns_ok (a : α) : (ok a : Outcome ε α).Returns := trivial

@[simp] theorem returns_err (e : ε) : (err e : Outcome ε α).Returns := trivial

@[simp] theorem not_returns_panic : ¬ (panic : Outcome ε α).Returns := id

@[simp] theorem not_returns_block : ¬ (block : Outcome ε α).Returns := id

end Outcome

namespace Exec

variable {ε σ α β : Type}

theorem returns_unwrap_bind (x : Option α) (f : α → Exec ε σ β) (s : σ) :
    ((unwrap x >>= f) s).1.Returns ↔ ∃ a, x = some a ∧ (f a s).1.Returns := by
  cases x with
  | none => simp
  | some a => simp

/-- A call that waits while `p` holds, and otherwise changes the state. -/
theorem returns_ite_block (p : Prop) [Decidable p] (f : σ → σ) (s : σ) :
    ((if p then block else modify f : Exec ε σ Unit) s).1.Returns ↔ ¬ p := by
  by_cases hp : p
  · simp [hp]
  · simp [hp]

/-! ## Machine arithmetic -/

end Exec

/-- What a build does when an arithmetic result does not fit its type. -/
inductive Overflow where
  /-- It panics (a build with overflow checks). -/
  | checked
  /-- It wraps around (a build without). -/
  | wrapping
deriving DecidableEq, Repr

namespace Exec

variable {ε σ α β : Type}

/-- An operation whose result in the machine's type is `r`, exact when `fits`. -/
def arith (o : Overflow) (fits : Prop) [Decidable fits] (r : α) : Exec ε σ α :=
  if fits ∨ o = .wrapping then pure r else panic

theorem arith_of_wrapping {o : Overflow} {fits : Prop} [Decidable fits]
    (h : fits ∨ o = .wrapping) (r : α) : (arith o fits r : Exec ε σ α) = pure r := if_pos h

theorem arith_of_fits {o : Overflow} {fits : Prop} [Decidable fits] (h : fits) (r : α) :
    (arith o fits r : Exec ε σ α) = pure r := if_pos (Or.inl h)

theorem arith_checked {fits : Prop} [Decidable fits] (h : ¬ fits) (r : α) :
    (arith .checked fits r : Exec ε σ α) = panic :=
  if_neg (not_or_intro h nofun)

/-- An arithmetic operation gives its machine result or panics. -/
theorem arith_eq (o : Overflow) (fits : Prop) [Decidable fits] (r : α) :
    (arith o fits r : Exec ε σ α) = pure r ∨ (arith o fits r : Exec ε σ α) = panic := by
  unfold arith
  split
  · exact Or.inl rfl
  · exact Or.inr rfl

/-- An arithmetic operation that returns gives its machine result. -/
theorem arith_ok {v : Overflow} {fits : Prop} [Decidable fits] {r a : α} {s s' : σ}
    (h : (arith v fits r : Exec ε σ α) s = (.ok a, s')) : a = r ∧ s' = s := by
  unfold arith at h
  split at h
  next => cases h; exact ⟨rfl, rfl⟩
  next => cases h

/-- What follows an arithmetic operation is reached at its machine result,
unless it panicked. -/
theorem arith_bind_eq {v : Overflow} {fits : Prop} [Decidable fits] {r : α}
    {f : α → Exec ε σ β} {s s' : σ} {o : Outcome ε β}
    (h : (arith v fits r >>= f) s = (o, s')) (ho : o ≠ .panic) :
    (fits ∨ v = .wrapping) ∧ f r s = (o, s') := by
  unfold arith at h
  split at h
  next hfits => exact ⟨hfits, h⟩
  next => cases h; exact absurd rfl ho

/-! ## Frame rules -/

/-- The call keeps `I`, however it ends. -/
def Keeps (I : σ → Prop) (m : Exec ε σ α) : Prop := ∀ s, I s → I (m s).2

section Keeps

variable {I : σ → Prop}

theorem Keeps.of_eq {m : Exec ε σ α} (hm : Keeps I m) {s s' : σ} {o : Outcome ε α} (h : I s)
    (hms : m s = (o, s')) : I s' := by
  have hkept := hm s h
  rw [hms] at hkept
  exact hkept

theorem keeps_pure (a : α) : Keeps I (pure a : Exec ε σ α) := fun _ h => h

theorem keeps_throw (e : ε) : Keeps I (throw e : Exec ε σ α) := fun _ h => h

theorem keeps_panic : Keeps I (panic : Exec ε σ α) := fun _ h => h

theorem keeps_block : Keeps I (block : Exec ε σ α) := fun _ h => h

theorem keeps_get : Keeps I (get : Exec ε σ σ) := fun _ h => h

/-- What follows a `get` may rely on the invariant of the state it got. -/
theorem keeps_get_bind {f : σ → Exec ε σ β} (hf : ∀ s, I s → Keeps I (f s)) :
    Keeps I (get >>= f) := fun s h => hf s h s h

theorem keeps_modify {f : σ → σ} (hf : ∀ s, I s → I (f s)) :
    Keeps I (modify f : Exec ε σ Unit) := hf

theorem keeps_unwrap (x : Option α) : Keeps I (unwrap x : Exec ε σ α) := by
  cases x with
  | none => exact keeps_panic
  | some a => exact keeps_pure a

theorem keeps_ofExcept (x : Except ε α) : Keeps I (ofExcept x : Exec ε σ α) := by
  cases x with
  | error e => exact keeps_throw e
  | ok a => exact keeps_pure a

theorem keeps_require (p : Prop) [Decidable p] : Keeps I (require p : Exec ε σ Unit) := by
  unfold require
  split
  · exact keeps_pure ()
  · exact keeps_panic

theorem keeps_arith (o : Overflow) (fits : Prop) [Decidable fits] (r : α) :
    Keeps I (arith o fits r : Exec ε σ α) := by
  rcases arith_eq (ε := ε) (σ := σ) o fits r with h | h
  · rw [h]; exact keeps_pure r
  · rw [h]; exact keeps_panic

/-- Where `I` holds after the first statement, it holds after the sequence, if the
second one brings it about wherever the first one returns. -/
theorem snd_bind {m : Exec ε σ α} {f : α → Exec ε σ β} {s : σ} (hm : I (m s).2)
    (hf : ∀ a s', m s = (.ok a, s') → I (f a s').2) : I ((m >>= f) s).2 := by
  rw [bind_apply]
  rcases hms : m s with ⟨o, s'⟩
  rw [hms] at hm
  cases o with
  | ok a => exact hf a s' hms
  | err e => exact hm
  | panic => exact hm
  | block => exact hm

theorem keeps_bind {m : Exec ε σ α} {f : α → Exec ε σ β} (hm : Keeps I m)
    (hf : ∀ a, Keeps I (f a)) : Keeps I (m >>= f) := by
  intro s hs
  refine snd_bind (hm s hs) ?_
  intro a s' hms
  have h := hm s hs
  rw [hms] at h
  exact hf a s' h

theorem keeps_ite {c : Prop} [Decidable c] {m n : Exec ε σ α} (hm : Keeps I m)
    (hn : Keeps I n) : Keeps I (if c then m else n) := by
  split
  · exact hm
  · exact hn

theorem keeps_when {c : Prop} [Decidable c] {m : Exec ε σ Unit} (hm : Keeps I m) :
    Keeps I (when c m) := keeps_ite hm (keeps_pure ())

theorem keeps_spawn {ε' : Type} {m : Exec ε' σ α} (hm : Keeps I m) :
    Keeps I (spawn m : Exec ε σ Unit) := hm

theorem keeps_logged {ε' : Type} {m : Exec ε' σ Unit} (hm : Keeps I m) :
    Keeps I (logged m : Exec ε σ Unit) := by
  intro s hs
  have h := hm s hs
  unfold logged
  rcases hms : m s with ⟨o, s'⟩
  rw [hms] at h
  cases o with
  | ok u => exact h
  | err e => exact h
  | panic => exact h
  | block => exact h

theorem keeps_zoom {τ : Type} {part : σ → τ} {put : σ → τ → σ} (hput : ∀ s t, I s → I (put s t))
    (m : Exec ε τ α) : Keeps I (zoom part put m) := fun s hs => hput s _ hs

theorem keeps_forM {l : List β} {f : β → Exec ε σ PUnit} (hf : ∀ b, Keeps I (f b)) :
    Keeps I (l.forM f) := by
  induction l with
  | nil => exact keeps_pure _
  | cons b l ih => exact keeps_bind (hf b) fun _ => ih

end Keeps

end Exec
