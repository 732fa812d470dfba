import Mathlib

/-!
# Additions to a list

`Joins R old new`: the elements of `new` go well with each other and with all of `old`. Where `R` is
symmetric it does not matter in which order they come (`joins_cons`), nor in how many batches
(`joins_append`). For intervals, `disjoint_Ico_iff_tail` and `disjoint_Ico_iff_split` say what is
left to check once a first part is known to be free.
-/

namespace Lib

section Joins

variable {α : Type} {R : α → α → Prop}

def Joins (R : α → α → Prop) (old new : List α) : Prop :=
  new.Pairwise R ∧ ∀ x ∈ new, ∀ y ∈ old, R x y

lemma joins_nil {old : List α} : Joins R old [] :=
  ⟨.nil, nofun⟩

lemma joins_cons (hsymm : ∀ x y, R x y → R y x) {old new : List α} {x : α} :
    Joins R old (x :: new) ↔ (∀ y ∈ old, R x y) ∧ Joins R (old ++ [x]) new := by
  simp only [Joins, List.pairwise_cons, List.forall_mem_cons, List.forall_mem_append,
    List.not_mem_nil, false_implies, implies_true, and_true]
  constructor
  · rintro ⟨⟨hx, hnew⟩, hxold, hold⟩
    exact ⟨hxold, hnew, fun y hy => ⟨hold y hy, hsymm _ _ (hx y hy)⟩⟩
  · rintro ⟨hxold, hnew, hold⟩
    exact ⟨⟨fun y hy => hsymm _ _ (hold y hy).2, hnew⟩, hxold, fun y hy => (hold y hy).1⟩

lemma joins_append (hsymm : ∀ x y, R x y → R y x) {old new more : List α} :
    Joins R old (new ++ more) ↔ Joins R old new ∧ Joins R (old ++ new) more := by
  induction new generalizing old with
  | nil =>
    simp only [List.nil_append, List.append_nil]
    exact ⟨fun h => ⟨joins_nil, h⟩, fun h => h.2⟩
  | cons x new ih =>
    rw [List.cons_append, joins_cons hsymm, joins_cons hsymm, ih, and_assoc]
    simp

end Joins

section Ico

variable {τ : Type} [LinearOrder τ] {a b c s e : τ} {S : Set τ}

/-- Past a free first part, the rest decides. -/
lemma disjoint_Ico_iff_tail (hab : a ≤ b) (hfree : Disjoint (Set.Ico a b) S) :
    Disjoint (Set.Ico a c) S ↔ Disjoint (Set.Ico b c) S := by
  constructor
  · intro h
    exact h.mono_left (Set.Ico_subset_Ico_left hab)
  · intro h
    exact (hfree.union_left h).mono_left Set.Ico_subset_Ico_union_Ico

/-- An interval that starts no later reaches into `[a, c)` exactly if it reaches `a`. -/
lemma disjoint_Ico_iff_split (hac : a < c) (hsa : s ≤ a) (hab : a < b) :
    Disjoint (Set.Ico a c) (Set.Ico s e) ↔
      Disjoint (Set.Ico a b) (Set.Ico s e) ∧ Disjoint (Set.Ico b c) (Set.Ico s e) := by
  constructor
  · intro h
    have hea : e ≤ a := by
      by_contra hlt
      exact Set.disjoint_left.mp h ⟨le_refl a, hac⟩ ⟨hsa, not_le.mp hlt⟩
    constructor
    · exact Set.disjoint_left.mpr fun t ht hs => absurd (hs.2.trans_le hea) (not_lt.mpr ht.1)
    · exact Set.disjoint_left.mpr fun t ht hs =>
        absurd (hs.2.trans_le (hea.trans hab.le)) (not_lt.mpr ht.1)
  · rintro ⟨hfirst, hrest⟩
    exact (disjoint_Ico_iff_tail hab.le hfirst).mpr hrest

end Ico

end Lib
