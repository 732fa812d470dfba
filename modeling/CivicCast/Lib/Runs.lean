import Mathlib

/-! # Runs under a condition

A system that takes labelled steps, each of them a function of the state. `Reached` are the states
that steps meeting a condition lead to: the condition sees the state before the step. A list of
steps that meet it is a run (`reached_of_meets`), which is how a concrete run is written down.
-/

namespace Lib.Runs

variable {σ α : Type} (act : σ → α → σ) (ok : σ → α → Prop)

/-- What is reached from `s₀` in steps that all meet the condition. -/
inductive Reached (s₀ : σ) : σ → Prop where
  | start : Reached s₀ s₀
  | step {s : σ} (a : α) (h : Reached s₀ s) (hok : ok s a) : Reached s₀ (act s a)

/-- The steps of the list, taken one after the other, meet the condition. -/
def Meets : σ → List α → Prop
  | _, [] => True
  | s, a :: as => ok s a ∧ Meets (act s a) as

instance decidableMeets [∀ s a, Decidable (ok s a)] :
    ∀ (s : σ) (as : List α), Decidable (Meets act ok s as)
  | _, [] => .isTrue trivial
  | s, a :: as => @instDecidableAnd _ _ _ (decidableMeets (act s a) as)

variable {act ok} {s₀ s : σ}

/-- The invariant rule. -/
lemma Reached.invariant {J : σ → Prop} (h : Reached act ok s₀ s) (hinit : J s₀)
    (hstep : ∀ s a, J s → ok s a → J (act s a)) : J s := by
  induction h with
  | start => exact hinit
  | step a _ hok ih => exact hstep _ a ih hok

lemma Reached.of_meets {as : List α} (h : Reached act ok s₀ s) (hmeets : Meets act ok s as) :
    Reached act ok s₀ (as.foldl act s) := by
  induction as generalizing s with
  | nil => exact h
  | cons a as ih => exact ih (h.step a hmeets.1) hmeets.2

lemma reached_of_meets {as : List α} (h : Meets act ok s₀ as) :
    Reached act ok s₀ (as.foldl act s₀) :=
  Reached.start.of_meets h

end Lib.Runs
