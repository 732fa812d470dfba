import Mathlib

/-! # Loops that a step can leave

`Sweep.run f` goes through a list and carries a state on; a step that answers `false` leaves
the loop, with the state it left. Either no step does (`Passes`), or there is a first one
that does (`Leaves`), and the steps before it went on as if there were none.
-/

namespace Lib.Sweep

variable {σ α : Type} (f : σ → α → σ × Bool)

def run : σ → List α → σ × Bool
  | s, [] => (s, true)
  | s, a :: as => if (f s a).2 then run (f s a).1 as else ((f s a).1, false)

def after (s : σ) (as : List α) : σ := as.foldl (fun s a => (f s a).1) s

/-- No step leaves the loop. -/
def Passes (s : σ) (as : List α) : Prop :=
  ∀ pre a post, as = pre ++ a :: post → (f (after f s pre) a).2 = true

/-- The loop is left at `a`, with `pre` behind it. -/
structure Leaves (s : σ) (as pre : List α) (a : α) (post : List α) : Prop where
  split : as = pre ++ a :: post
  passes : Passes f s pre
  stops : (f (after f s pre) a).2 = false

variable {f} {s : σ} {a : α} {as pre post : List α}

lemma passes_nil : Passes f s [] := by
  intro pre a post h
  cases pre <;> cases h

lemma passes_cons : Passes f s (a :: as) ↔ (f s a).2 = true ∧ Passes f (f s a).1 as := by
  constructor
  · intro h
    refine ⟨h [] a as rfl, ?_⟩
    intro pre b post hsplit
    exact h (a :: pre) b post (by rw [hsplit]; rfl)
  · rintro ⟨ha, has⟩ pre b post hsplit
    cases pre with
    | nil =>
      cases hsplit
      exact ha
    | cons a' pre =>
      cases hsplit
      exact has pre b post rfl

lemma run_of_passes (h : Passes f s as) : run f s as = (after f s as, true) := by
  induction as generalizing s with
  | nil => rfl
  | cons a as ih =>
    obtain ⟨ha, has⟩ := passes_cons.mp h
    rw [run, if_pos ha, ih has]
    rfl

lemma Leaves.run_eq (h : Leaves f s as pre a post) :
    run f s as = ((f (after f s pre) a).1, false) := by
  obtain ⟨rfl, hpasses, hstops⟩ := h
  induction pre generalizing s with
  | nil =>
    have hstops : (f s a).2 = false := hstops
    show run f s (a :: post) = _
    rw [run, if_neg (by simp [hstops])]
    rfl
  | cons b pre ih =>
    obtain ⟨hb, hpre⟩ := passes_cons.mp hpasses
    show run f s (b :: (pre ++ a :: post)) = _
    rw [run, if_pos hb, ih hpre hstops]
    rfl

lemma Leaves.not_passes (h : Leaves f s as pre a post) : ¬ Passes f s as := by
  intro hpasses
  have hgoes := hpasses pre a post h.split
  rw [h.stops] at hgoes
  cases hgoes

lemma Leaves.unique {pre' post' : List α} {a' : α} (h : Leaves f s as pre a post)
    (h' : Leaves f s as pre' a' post') : pre = pre' ∧ a = a' := by
  obtain ⟨rfl, hpasses, hstops⟩ := h
  obtain ⟨hsplit, hpasses', hstops'⟩ := h'
  induction pre generalizing s pre' with
  | nil =>
    have hstops : (f s a).2 = false := hstops
    cases pre' with
    | nil =>
      obtain ⟨rfl, -⟩ := List.cons.inj hsplit
      exact ⟨rfl, rfl⟩
    | cons b pre' =>
      obtain ⟨rfl, -⟩ := List.cons.inj hsplit
      have hgoes := (passes_cons.mp hpasses').1
      rw [hstops] at hgoes
      cases hgoes
  | cons b pre ih =>
    obtain ⟨hgoes, hpre⟩ := passes_cons.mp hpasses
    cases pre' with
    | nil =>
      obtain ⟨rfl, -⟩ := List.cons.inj hsplit
      have hstops' : (f s b).2 = false := hstops'
      rw [hstops'] at hgoes
      cases hgoes
    | cons b' pre' =>
      obtain ⟨rfl, hrest⟩ := List.cons.inj hsplit
      obtain ⟨rfl, ha⟩ := ih hpre hstops hrest (passes_cons.mp hpasses').2 hstops'
      exact ⟨rfl, ha⟩

lemma passes_or_leaves (s : σ) (as : List α) :
    Passes f s as ∨ ∃ pre a post, Leaves f s as pre a post := by
  induction as generalizing s with
  | nil => exact .inl passes_nil
  | cons a as ih =>
    by_cases ha : (f s a).2 = true
    · rcases ih (f s a).1 with hpasses | ⟨pre, b, post, hsplit, hpre, hstops⟩
      · exact .inl (passes_cons.mpr ⟨ha, hpasses⟩)
      · refine .inr ⟨a :: pre, b, post, ?_, passes_cons.mpr ⟨ha, hpre⟩, hstops⟩
        rw [hsplit]
        rfl
    · exact .inr ⟨[], a, as, rfl, passes_nil, Bool.eq_false_iff.mpr ha⟩

lemma passes_of_run (h : (run f s as).2 = true) : Passes f s as := by
  rcases passes_or_leaves s as with hpasses | ⟨pre, a, post, hleaves⟩
  · exact hpasses
  · rw [hleaves.run_eq] at h
    cases h

lemma leaves_of_run (h : (run f s as).2 = false) : ∃ pre a post, Leaves f s as pre a post := by
  rcases passes_or_leaves s as with hpasses | hleaves
  · rw [run_of_passes hpasses] at h
    cases h
  · exact hleaves

end Lib.Sweep
