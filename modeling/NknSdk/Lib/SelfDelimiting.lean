import Mathlib.Data.List.Basic

/-!
# Self-delimiting encodings

An encoding into strings over `β` is *self-delimiting* when its end is visible:
whatever follows an encoded value, the value and the rest can be told apart.
Such encodings compose.  A list of values, each written with a self-delimiting
encoding that is never empty, can be read back from the concatenation.
-/

variable {α β γ : Type}

/-- Two encoded values followed by anything agree only if the values and what
follows them agree. -/
def SelfDelimiting (enc : α → List β) : Prop :=
  ∀ a b r s, enc a ++ r = enc b ++ s → a = b ∧ r = s

namespace SelfDelimiting

variable {enc : α → List β}

/-- An encoding with a decoder that takes one value off the front. -/
theorem of_decoder (dec : List β → Option (α × List β))
    (hdec : ∀ a rest, dec (enc a ++ rest) = some (a, rest)) : SelfDelimiting enc := by
  intro a b r s h
  have hread := hdec a r
  rw [h, hdec b s] at hread
  simp only [Option.some.injEq, Prod.mk.injEq] at hread
  exact ⟨hread.1.symm, hread.2.symm⟩

/-- An injective encoding all of whose strings have one length. -/
theorem of_length {n : Nat} (hlen : ∀ a, (enc a).length = n) (hinj : Function.Injective enc) :
    SelfDelimiting enc := by
  intro a b r s h
  have hparts := List.append_inj h (by rw [hlen, hlen])
  exact ⟨hinj hparts.1, hparts.2⟩

theorem injective (h : SelfDelimiting enc) : Function.Injective enc := by
  intro a b hab
  exact (h a b [] [] (by rw [hab])).1

/-- The concatenation of a list of encoded values determines the list. -/
theorem flatMap_injective (h : SelfDelimiting enc) (hne : ∀ a, enc a ≠ []) :
    Function.Injective fun as : List α => as.flatMap enc := by
  intro as
  induction as with
  | nil =>
      intro bs hbs
      cases bs with
      | nil => rfl
      | cons b bs => simp [hne b] at hbs
  | cons a as ih =>
      intro bs hbs
      cases bs with
      | nil => simp [hne a] at hbs
      | cons b bs =>
          simp only [List.flatMap_cons] at hbs
          obtain ⟨hab, hrest⟩ := h a b _ _ hbs
          rw [hab, ih hrest]

/-- Writing a value by way of an injective translation keeps the property. -/
theorem comp (h : SelfDelimiting enc) {f : γ → α} (hf : Function.Injective f) :
    SelfDelimiting (enc ∘ f) := by
  intro a b r s hab
  obtain ⟨he, hr⟩ := h (f a) (f b) r s hab
  exact ⟨hf he, hr⟩

end SelfDelimiting
