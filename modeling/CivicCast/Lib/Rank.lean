import Mathlib

/-!
# What a cut of an ordered list leaves

A list is cut after its first `r` places, in whatever order it is. When is everything cut off
older than everything kept? `cut_iff` answers by counting: exactly when an element is among
the first `r` if and only if at most `r` elements are as new as it is.
-/

namespace Lib

open List

variable {α τ : Type} [LinearOrder τ] (t : α → τ)

/-- How many elements of the list are as new as `a`, itself included. -/
def asNewAs (l : List α) (a : α) : ℕ := l.countP fun b => t a ≤ t b

variable {t} {l kept cut : List α} {a b : α}

lemma asNewAs_anti (h : t a ≤ t b) : asNewAs t l b ≤ asNewAs t l a := by
  refine countP_mono_left fun c _ hc => ?_
  simp only [decide_eq_true_eq] at hc ⊢
  exact le_trans h hc

lemma asNewAs_perm {l' : List α} (h : l.Perm l') : asNewAs t l a = asNewAs t l' a :=
  h.countP_eq _

section Cut

variable (hnewer : ∀ c ∈ cut, ∀ k ∈ kept, t c < t k)

include hnewer in
lemma asNewAs_le_of_kept (ha : a ∈ kept) : asNewAs t (kept ++ cut) a ≤ kept.length := by
  have hcut : cut.countP (fun b => t a ≤ t b) = 0 := by
    rw [countP_eq_zero]
    intro c hc
    simpa using hnewer c hc a ha
  rw [asNewAs, countP_append, hcut]
  exact countP_le_length

include hnewer in
/-- All that is kept, and the element itself, are as new as something cut off. -/
lemma lt_asNewAs_of_cut (ha : a ∈ cut) : kept.length < asNewAs t (kept ++ cut) a := by
  have hkept : kept.countP (fun b => t a ≤ t b) = kept.length := by
    rw [countP_eq_length]
    intro k hk
    simpa using le_of_lt (hnewer a ha k hk)
  have hself : 0 < cut.countP (fun b => t a ≤ t b) := by
    rw [countP_pos_iff]
    exact ⟨a, ha, by simp⟩
  rw [asNewAs, countP_append, hkept]
  omega

end Cut

lemma cut_iff (hdisjoint : ∀ c ∈ cut, c ∉ kept) :
    (∀ c ∈ cut, ∀ k ∈ kept, t c < t k) ↔
      ∀ a ∈ kept ++ cut, a ∈ kept ↔ asNewAs t (kept ++ cut) a ≤ kept.length := by
  constructor
  · intro hnewer a ha
    constructor
    · exact asNewAs_le_of_kept hnewer
    · intro hle
      rcases mem_append.mp ha with hkept | hcut
      · exact hkept
      · have := lt_asNewAs_of_cut hnewer hcut
        omega
  · intro hranks c hc k hk
    by_contra hle
    have hk' := (hranks k (mem_append_left _ hk)).mp hk
    have hc' := (hranks c (mem_append_right _ hc)).not.mp (hdisjoint c hc)
    have := asNewAs_anti (l := kept ++ cut) (not_lt.mp hle)
    omega

end Lib
