import Mathlib

/-! # Disjoint intervals in an interval

Half-open intervals of integers that are pairwise disjoint and lie in one interval are
together no longer than it: `sum_length_le`.
-/

namespace Lib.Packing

variable {ι : Type} {lo hi : ι → ℤ}

/-- Disjoint intervals in a finite set have no more points than the set. -/
lemma sum_length_le_card {s : List ι} {points : Finset ℤ}
    (horder : ∀ i ∈ s, lo i ≤ hi i)
    (hinside : ∀ i ∈ s, Finset.Ico (lo i) (hi i) ⊆ points)
    (hdisjoint : s.Pairwise fun i j =>
      Disjoint (Finset.Ico (lo i) (hi i)) (Finset.Ico (lo j) (hi j))) :
    (s.map fun i => hi i - lo i).sum ≤ points.card := by
  -- the first interval is taken out of the set, and the others are in what is left
  induction s generalizing points with
  | nil => simp
  | cons i rest ih =>
    have hsplit := List.pairwise_cons.mp hdisjoint
    have hfirst : Finset.Ico (lo i) (hi i) ⊆ points := hinside i List.mem_cons_self
    have hrest : ∀ j ∈ rest,
        Finset.Ico (lo j) (hi j) ⊆ points \ Finset.Ico (lo i) (hi i) := by
      intro j hj
      apply Finset.subset_sdiff.mpr
      constructor
      · exact hinside j (List.mem_cons_of_mem _ hj)
      · exact (hsplit.1 j hj).symm
    have hih := ih (fun j hj => horder j (List.mem_cons_of_mem _ hj)) hrest hsplit.2
    have hcard : (points \ Finset.Ico (lo i) (hi i)).card + (Finset.Ico (lo i) (hi i)).card =
        points.card := Finset.card_sdiff_add_card_eq_card hfirst
    have hlength : ((Finset.Ico (lo i) (hi i)).card : ℤ) = hi i - lo i := by
      rw [Int.card_Ico]
      exact Int.toNat_of_nonneg (sub_nonneg.mpr (horder i List.mem_cons_self))
    rw [List.map_cons, List.sum_cons]
    omega

/-- Disjoint intervals in an interval are together no longer than it. -/
lemma sum_length_le {s : List ι} {a b : ℤ} (hab : a ≤ b) (horder : ∀ i ∈ s, lo i ≤ hi i)
    (hinside : ∀ i ∈ s, Set.Ico (lo i) (hi i) ⊆ Set.Ico a b)
    (hdisjoint : s.Pairwise fun i j => Disjoint (Set.Ico (lo i) (hi i)) (Set.Ico (lo j) (hi j))) :
    (s.map fun i => hi i - lo i).sum ≤ b - a := by
  have hcard : (s.map fun i => hi i - lo i).sum ≤ (Finset.Ico a b).card := by
    apply sum_length_le_card horder
    · intro i hi
      rw [← Finset.coe_subset, Finset.coe_Ico, Finset.coe_Ico]
      exact hinside i hi
    · apply hdisjoint.imp
      intro i j h
      rw [← Finset.disjoint_coe, Finset.coe_Ico, Finset.coe_Ico]
      exact h
  rw [Int.card_Ico, Int.toNat_of_nonneg (sub_nonneg.mpr hab)] at hcard
  exact hcard

end Lib.Packing
