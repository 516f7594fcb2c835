import Mathlib.Logic.Basic

/-!
# Runs of a step function

A system is a step function `step : σ → ε → Option σ` over states `σ` and events
`ε`.  An event that is not possible in a state, or that ends the system, has no
successor.  A run is a list of events, and `runFrom` is the state it reaches.

A condition `C s e` on the state before a step and on the event is met by a run
when every step of the run meets it (`Meets`).  `invariant_of_meets` is the rule
every property of whole runs here is derived from: what one step keeps under the
condition, a whole run whose steps meet it keeps.
-/

namespace Run

variable {σ ε : Type} (step : σ → ε → Option σ)

/-- The state a run reaches. -/
def runFrom : σ → List ε → Option σ
  | s, [] => some s
  | s, e :: es => (step s e).bind fun s' => runFrom s' es

/-- Every step of the run meets the condition `C`. -/
def Meets (C : σ → ε → Prop) : σ → List ε → Prop
  | _, [] => True
  | s, e :: es => C s e ∧ ∀ s' ∈ step s e, Meets C s' es

instance Meets.decidable (C : σ → ε → Prop) [∀ s e, Decidable (C s e)] :
    (s : σ) → (es : List ε) → Decidable (Meets step C s es)
  | _, [] => inferInstanceAs (Decidable True)
  | s, e :: es =>
      have := fun s' => Meets.decidable C s' es
      inferInstanceAs (Decidable (C s e ∧ ∀ s' ∈ step s e, Meets step C s' es))

variable {step}

theorem runFrom_cons {s s'' : σ} {e : ε} {es : List ε}
    (h : runFrom step s (e :: es) = some s'') :
    ∃ s', step s e = some s' ∧ runFrom step s' es = some s'' :=
  Option.bind_eq_some_iff.mp h

/-- A condition on the events alone may be added to one on the steps. -/
theorem Meets.and {C : σ → ε → Prop} {D : ε → Prop} :
    ∀ {es : List ε} {s : σ}, Meets step C s es → (∀ e ∈ es, D e) →
      Meets step (fun s e => D e ∧ C s e) s es
  | [], _, _, _ => trivial
  | e :: _, _, hC, hD =>
      ⟨⟨hD e (List.mem_cons_self ..), hC.1⟩, fun s' hs =>
        (hC.2 s' hs).and fun e' he' => hD e' (List.mem_cons_of_mem _ he')⟩

/-- What a step keeps under the condition, a run whose steps meet it keeps. -/
theorem invariant_of_meets {C : σ → ε → Prop} {I : σ → Prop}
    (hstep : ∀ s e s', I s → C s e → step s e = some s' → I s') :
    ∀ {es : List ε} {s s' : σ}, I s → Meets step C s es → runFrom step s es = some s' → I s'
  | [], _, _, hI, _, hrun => by cases hrun; exact hI
  | e :: es, s, s'', hI, hC, hrun => by
      obtain ⟨s', hs, hrun'⟩ := runFrom_cons hrun
      exact invariant_of_meets hstep (hstep s e s' hI hC.1 hs) (hC.2 s' hs) hrun'

/-- Where two conditions are the same under `I`, and `I` is kept while they are met, a
run meets one of them if it meets the other. -/
theorem meets_iff {C D : σ → ε → Prop} {I : σ → Prop} (hsame : ∀ s e, I s → (C s e ↔ D s e))
    (hstep : ∀ s e s', I s → C s e → step s e = some s' → I s') {s : σ} (hI : I s) (es : List ε) :
    Meets step C s es ↔ Meets step D s es := by
  induction es generalizing s with
  | nil => exact Iff.rfl
  | cons e es ih =>
      constructor
      · rintro ⟨hC, hrest⟩
        exact ⟨(hsame s e hI).mp hC, fun s' hs => (ih (hstep s e s' hI hC hs)).mp (hrest s' hs)⟩
      · rintro ⟨hD, hrest⟩
        have hC := (hsame s e hI).mpr hD
        exact ⟨hC, fun s' hs => (ih (hstep s e s' hI hC hs)).mpr (hrest s' hs)⟩

/-- What every step keeps, every run keeps. -/
theorem invariant_of_step {I : σ → Prop}
    (hstep : ∀ s e s', I s → step s e = some s' → I s') :
    ∀ {es : List ε} {s s' : σ}, I s → runFrom step s es = some s' → I s'
  | [], _, _, hI, hrun => by cases hrun; exact hI
  | e :: es, s, s'', hI, hrun => by
      obtain ⟨s', hs, hrun'⟩ := runFrom_cons hrun
      exact invariant_of_step hstep (hstep s e s' hI hs) hrun'

/-- Where every step that meets the condition is possible and keeps `I`, a run whose
steps meet it is possible and keeps `I`. -/
theorem total_of_meets {C : σ → ε → Prop} {I : σ → Prop}
    (hstep : ∀ s e, I s → C s e → ∃ s', step s e = some s' ∧ I s') {s : σ} {es : List ε} (hI : I s)
    (hC : Meets step C s es) : ∃ s', runFrom step s es = some s' ∧ I s' := by
  induction es generalizing s with
  | nil => exact ⟨s, rfl, hI⟩
  | cons e es ih =>
      obtain ⟨s₁, hs, hI₁⟩ := hstep s e hI hC.1
      obtain ⟨s', hrun, hI'⟩ := ih hI₁ (hC.2 s₁ hs)
      exact ⟨s', Option.bind_eq_some_iff.mpr ⟨s₁, hs, hrun⟩, hI'⟩

theorem meets_true (s : σ) (es : List ε) : Meets step (fun _ _ => True) s es := by
  induction es generalizing s with
  | nil => trivial
  | cons e es ih => exact ⟨trivial, fun s' _ => ih s'⟩

/-- Where every step is possible and keeps `I`, every run is possible and keeps it. -/
theorem total_of_step {I : σ → Prop} (hstep : ∀ s e, I s → ∃ s', step s e = some s' ∧ I s')
    {s : σ} (hI : I s) (es : List ε) : ∃ s', runFrom step s es = some s' ∧ I s' :=
  total_of_meets (fun s e h _ => hstep s e h) hI (meets_true s es)

/-- Where every step makes a measure smaller, a run is no longer than the measure of
its start. -/
theorem length_add_le {μ : σ → Nat} (hstep : ∀ s e s', step s e = some s' → μ s' < μ s) :
    ∀ {es : List ε} {s s' : σ}, runFrom step s es = some s' → es.length + μ s' ≤ μ s
  | [], _, _, hrun => by
      cases hrun
      exact Nat.le_of_eq (Nat.zero_add _)
  | e :: es, s, s'', hrun => by
      obtain ⟨s', hs, hrun'⟩ := runFrom_cons hrun
      have hless := hstep s e s' hs
      have hrest := length_add_le hstep hrun'
      rw [List.length_cons]
      omega

/-- Some run whose steps meet the condition leads from `s` to `s'`. -/
def Reaches (step : σ → ε → Option σ) (C : σ → ε → Prop) (s s' : σ) : Prop :=
  ∃ es, Meets step C s es ∧ runFrom step s es = some s'

section Reaches

variable {C : σ → ε → Prop} {s s' s'' : σ} {e : ε}

theorem Reaches.refl (step : σ → ε → Option σ) (C : σ → ε → Prop) (s : σ) : Reaches step C s s :=
  ⟨[], trivial, rfl⟩

theorem Reaches.head (hC : C s e) (h : step s e = some s') (hs : Reaches step C s' s'') :
    Reaches step C s s'' := by
  obtain ⟨es, hmeets, hrun⟩ := hs
  refine ⟨e :: es, ⟨hC, ?_⟩, Option.bind_eq_some_iff.mpr ⟨s', h, hrun⟩⟩
  intro t ht
  cases h.symm.trans ht
  exact hmeets

theorem Reaches.trans (hs : Reaches step C s s') (hs' : Reaches step C s' s'') :
    Reaches step C s s'' := by
  obtain ⟨es, hmeets, hrun⟩ := hs
  induction es generalizing s with
  | nil =>
      cases hrun
      exact hs'
  | cons e es ih =>
      obtain ⟨t, ht, hrest⟩ := runFrom_cons hrun
      exact Reaches.head hmeets.1 ht (ih (hmeets.2 t ht) hrest)

theorem Reaches.invariant {I : σ → Prop}
    (hstep : ∀ s e s', I s → C s e → step s e = some s' → I s') (hI : I s)
    (hs : Reaches step C s s') : I s' := by
  obtain ⟨es, hmeets, hrun⟩ := hs
  exact invariant_of_meets hstep hI hmeets hrun

/-- Where a state that is not at its end can make a step, and every step makes a measure
smaller, an end can be reached. -/
theorem reaches_end {μ : σ → Nat} {Ended : σ → Prop}
    (hless : ∀ s e s', step s e = some s' → μ s' < μ s)
    (hgoes : ∀ s, ¬ Ended s → ∃ e s', C s e ∧ step s e = some s') (s : σ) :
    ∃ s', Reaches step C s s' ∧ Ended s' := by
  induction hn : μ s using Nat.strongRecOn generalizing s with
  | ind n ih =>
      by_cases hend : Ended s
      · exact ⟨s, Reaches.refl step C s, hend⟩
      · obtain ⟨e, t, hC, ht⟩ := hgoes s hend
        obtain ⟨s', hs', hend'⟩ := ih (μ t) (hn ▸ hless s e t ht) t rfl
        exact ⟨s', Reaches.head hC ht hs', hend'⟩

end Reaches

/-! ## Repeating one event -/

/-- Some number of events `e` leads from `s` to `s'`. -/
def Repeats (step : σ → ε → Option σ) (e : ε) (s s' : σ) : Prop :=
  ∃ n, runFrom step s (List.replicate n e) = some s'

theorem Repeats.refl (step : σ → ε → Option σ) (e : ε) (s : σ) : Repeats step e s s := ⟨0, rfl⟩

theorem Repeats.head {e : ε} {s s' s'' : σ} (h : step s e = some s')
    (hs : Repeats step e s' s'') : Repeats step e s s'' := by
  obtain ⟨n, hn⟩ := hs
  refine ⟨n + 1, ?_⟩
  rw [List.replicate_succ, runFrom, h]
  exact hn

theorem Repeats.trans {e : ε} {s s' s'' : σ} (h : Repeats step e s s')
    (h' : Repeats step e s' s'') : Repeats step e s s'' := by
  obtain ⟨n, hn⟩ := h
  induction n generalizing s with
  | zero =>
      cases hn
      exact h'
  | succ n ih =>
      rw [List.replicate_succ] at hn
      obtain ⟨t, ht, hrest⟩ := runFrom_cons hn
      exact Repeats.head ht (ih hrest)

/-- A system that makes the same steps as another repeats them with it. -/
theorem Repeats.map {τ : Type} {step' : τ → ε → Option τ} {e : ε} {s s' : σ} (g : σ → τ)
    (hg : ∀ s s', step s e = some s' → step' (g s) e = some (g s')) (h : Repeats step e s s') :
    Repeats step' e (g s) (g s') := by
  obtain ⟨n, hn⟩ := h
  induction n generalizing s with
  | zero =>
      cases hn
      exact Repeats.refl ..
  | succ n ih =>
      rw [List.replicate_succ] at hn
      obtain ⟨t, ht, hrest⟩ := runFrom_cons hn
      exact Repeats.head (hg s t ht) (ih hrest)

end Run
