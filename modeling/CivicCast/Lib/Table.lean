import Mathlib

/-! # Tables with a primary key

A table is a list of rows in which no two rows share a key. Rows are read by
key, changed in place, or added; the key of a row never changes. The lemmas say
what each operation does to `get`, so that a proof about a table never looks at
the list of its rows.
-/

namespace Lib

open List Function

/-- Rows with pairwise different keys, in insertion order. -/
structure Table (α κ : Type) (key : α → κ) where
  rows : List α
  nodup : (rows.map key).Nodup

namespace Table

variable {α κ : Type} [DecidableEq κ] {key : α → κ}

def empty : Table α κ key where
  rows := []
  nodup := List.nodup_nil

/-- The row with key `k`. -/
def get (t : Table α κ key) (k : κ) : Option α :=
  t.rows.find? fun a => key a = k

/-- Apply `f` to the row with key `k`, if there is one. -/
def modify (t : Table α κ key) (k : κ) (f : α → α) (hf : ∀ a, key (f a) = key a) :
    Table α κ key where
  rows := t.rows.map fun a => if key a = k then f a else a
  nodup := by
    have hkeys : (t.rows.map fun a => if key a = k then f a else a).map key = t.rows.map key := by
      rw [List.map_map]
      apply List.map_congr_left
      intro a _
      simp only [comp_apply]
      split
      · exact hf a
      · rfl
    rw [hkeys]
    exact t.nodup

/-- Apply `f` to every row. -/
def map (t : Table α κ key) (f : α → α) (hf : ∀ a, key (f a) = key a) : Table α κ key where
  rows := t.rows.map f
  nodup := by
    have hkeys : (t.rows.map f).map key = t.rows.map key := by
      rw [List.map_map]
      apply List.map_congr_left
      intro a _
      exact hf a
    rw [hkeys]
    exact t.nodup

def insert (t : Table α κ key) (a : α) (ha : t.get (key a) = none) : Table α κ key where
  rows := t.rows ++ [a]
  nodup := by
    have hfresh : key a ∉ t.rows.map key := by
      intro hmem
      rcases List.mem_map.mp hmem with ⟨b, hb, hkey⟩
      have hnone := List.find?_eq_none.mp ha b hb
      simp [hkey] at hnone
    rw [List.map_append, List.nodup_append]
    refine ⟨t.nodup, List.nodup_singleton _, ?_⟩
    intro k hk k' hk'
    have hk' : k' = key a := by simpa using hk'
    rw [hk']
    intro heq
    exact hfresh (heq ▸ hk)

/-- Insert `a`, or apply `f` to the row already there. -/
def upsert (t : Table α κ key) (a : α) (f : α → α) (hf : ∀ b, key (f b) = key b) :
    Table α κ key :=
  if ha : t.get (key a) = none then t.insert a ha else t.modify (key a) f hf

def filter (t : Table α κ key) (p : α → Bool) : Table α κ key where
  rows := t.rows.filter p
  nodup := t.nodup.sublist (List.filter_sublist.map key)

variable {t : Table α κ key} {a b : α} {k k' : κ} {f : α → α} {hf : ∀ a, key (f a) = key a}

lemma key_of_get (h : t.get k = some a) : key a = k := by
  simpa using find?_some h

lemma mem_of_get (h : t.get k = some a) : a ∈ t.rows :=
  mem_of_find?_eq_some h

lemma get_eq_none_iff : t.get k = none ↔ ∀ a ∈ t.rows, key a ≠ k := by
  simp [get]

@[simp] lemma get_empty : (empty : Table α κ key).get k = none := rfl

omit [DecidableEq κ] in
lemma eq_of_key_eq (ha : a ∈ t.rows) (hb : b ∈ t.rows) (h : key a = key b) : a = b :=
  inj_on_of_nodup_map t.nodup ha hb h

lemma get_eq_some_iff : t.get k = some a ↔ a ∈ t.rows ∧ key a = k := by
  constructor
  · intro h
    exact ⟨mem_of_get h, key_of_get h⟩
  · rintro ⟨hmem, rfl⟩
    cases hget : t.get (key a) with
    | none => exact absurd rfl (get_eq_none_iff.mp hget a hmem)
    | some b => rw [eq_of_key_eq (mem_of_get hget) hmem (key_of_get hget)]

/-- A key in use names exactly one row. -/
lemma filter_key_of_get (h : t.get k = some a) : t.rows.filter (fun b => key b = k) = [a] := by
  have hmem : ∀ b, b ∈ t.rows.filter (fun b => key b = k) ↔ b = a := by
    intro b
    rw [mem_filter, decide_eq_true_iff, ← get_eq_some_iff, h, Option.some.injEq]
    exact eq_comm
  have hnodup : (t.rows.filter (fun b => key b = k)).Nodup :=
    (List.Nodup.of_map key t.nodup).filter _
  have hsub : ∀ b ∈ t.rows.filter (fun b => key b = k), b = a := fun b hb => (hmem b).mp hb
  rw [eq_replicate_of_mem hsub] at hnodup ⊢
  have hne : t.rows.filter (fun b => key b = k) ≠ [] := by
    intro hnil
    have := (hmem a).mpr rfl
    simp [hnil] at this
  have hlen := nodup_replicate.mp hnodup
  have hpos := length_pos_iff.mpr hne
  have hone : (t.rows.filter (fun b => key b = k)).length = 1 := by omega
  rw [hone]
  rfl

variable (hf) in
@[simp] lemma get_modify_self : (t.modify k f hf).get k = (t.get k).map f := by
  simp only [get, modify, find?_map]
  have hp : ((fun a => decide (key a = k)) ∘ fun a => if key a = k then f a else a)
      = fun a => decide (key a = k) := by
    funext a
    by_cases h : key a = k <;> simp [h, hf]
  rw [hp]
  cases hfind : t.rows.find? (fun a => decide (key a = k)) with
  | none => rfl
  | some a => simp [key_of_get hfind]

variable (hf) in
lemma get_modify_of_ne (h : k' ≠ k) : (t.modify k f hf).get k' = t.get k' := by
  simp only [get, modify, find?_map]
  have hp : ((fun a => decide (key a = k')) ∘ fun a => if key a = k then f a else a)
      = fun a => decide (key a = k') := by
    funext a
    by_cases ha : key a = k <;> simp [ha, hf]
  rw [hp]
  cases hfind : t.rows.find? (fun a => decide (key a = k')) with
  | none => rfl
  | some a =>
    have hkey : key a = k' := key_of_get hfind
    simp [hkey, h]

variable (hf) in
/-- The rows of a modified table. -/
lemma of_get_modify (h : (t.modify k f hf).get k' = some b) :
    ∃ a, t.get k' = some a ∧ ((k' = k ∧ b = f a) ∨ b = a) := by
  by_cases hk : k' = k
  · subst hk
    rw [get_modify_self, Option.map_eq_some_iff] at h
    obtain ⟨a, ha, hb⟩ := h
    exact ⟨a, ha, .inl ⟨rfl, hb.symm⟩⟩
  · rw [get_modify_of_ne hf hk] at h
    exact ⟨b, h, .inr rfl⟩

variable (hf) in
lemma exists_get_modify (h : t.get k' = some a) :
    ∃ b, (t.modify k f hf).get k' = some b ∧ ((k' = k ∧ b = f a) ∨ b = a) := by
  by_cases hk : k' = k
  · subst hk
    exact ⟨f a, by rw [get_modify_self, h]; rfl, .inl ⟨rfl, rfl⟩⟩
  · exact ⟨a, by rw [get_modify_of_ne hf hk, h], .inr rfl⟩

variable (hf) in
@[simp] lemma get_map : (t.map f hf).get k = (t.get k).map f := by
  simp only [get, map, find?_map]
  congr 2
  funext a
  simp [hf]

lemma get_insert_self (ha : t.get (key a) = none) : (t.insert a ha).get (key a) = some a := by
  rw [get_eq_some_iff]
  simp [insert]

lemma get_insert_of_ne (ha : t.get (key a) = none) (h : k ≠ key a) :
    (t.insert a ha).get k = t.get k := by
  have hne : ¬ key a = k := fun heq => h heq.symm
  simp [get, insert, find?_append, hne]

/-- An upsert leaves exactly one row under the key: the new one, or the changed
old one. -/
lemma get_upsert_self : (t.upsert a f hf).get (key a) = some ((t.get (key a)).elim a f) := by
  unfold upsert
  split
  · rename_i hnone
    rw [get_insert_self, hnone]
    rfl
  · rename_i hsome
    rw [get_modify_self]
    cases hget : t.get (key a) with
    | none => exact absurd hget hsome
    | some b => rfl

lemma get_upsert_of_ne (h : k ≠ key a) : (t.upsert a f hf).get k = t.get k := by
  unfold upsert
  split
  · exact get_insert_of_ne _ h
  · exact get_modify_of_ne _ h

lemma upsert_eq_self (h : t.get (key a) = some b) (hb : f b = b) : t.upsert a f hf = t := by
  have hsome : ¬ t.get (key a) = none := by
    rw [h]
    exact Option.some_ne_none b
  have hrows : t.rows.map (fun r => if key r = key a then f r else r) = t.rows.map id := by
    apply map_congr_left
    intro r hr
    split
    · rename_i hkey
      have hsame : r = b := eq_of_key_eq hr (mem_of_get h) (hkey.trans (key_of_get h).symm)
      rw [hsame, hb, id]
    · rfl
  rw [upsert, dif_neg hsome, modify]
  cases t
  simp only [mk.injEq]
  exact hrows.trans (map_id _)

@[simp] lemma get_filter (p : α → Bool) : (t.filter p).get k = (t.get k).filter p := by
  have hmem : ∀ a, (t.filter p).get k = some a ↔ (t.get k).filter p = some a := by
    intro a
    rw [get_eq_some_iff, Option.filter_eq_some_iff, get_eq_some_iff]
    simp only [filter, mem_filter]
    tauto
  cases hget : (t.filter p).get k with
  | some a => exact ((hmem a).mp hget).symm
  | none =>
    cases hfilter : (t.get k).filter p with
    | none => rfl
    | some a => rw [← hget, (hmem a).mpr hfilter]

/-! ## Counts -/

section Counts

variable {q : α → Bool}

variable (hf) in
/-- A change after which no further row counts. -/
lemma countP_modify_le (h : ∀ a, q (f a) = true → q a = true) :
    (t.modify k f hf).rows.countP q ≤ t.rows.countP q := by
  show (t.rows.map _).countP q ≤ _
  rw [countP_map]
  apply countP_mono_left
  intro a _ ha
  simp only [comp_apply] at ha
  split at ha
  · exact h a ha
  · exact ha

variable (hf) in
/-- A change of one row counts one row more at most. -/
lemma countP_modify_le_succ : (t.modify k f hf).rows.countP q ≤ t.rows.countP q + 1 := by
  -- the row is the only one with its key, so the rows before it and after it are left alone
  have hrows : ∀ rows : List α, (rows.map key).Nodup →
      (rows.map fun a => if key a = k then f a else a).countP q ≤ rows.countP q + 1 := by
    intro rows hnodup
    induction rows with
    | nil => exact Nat.zero_le _
    | cons a rows ih =>
      rw [map_cons, nodup_cons] at hnodup
      rw [map_cons, countP_cons, countP_cons]
      by_cases ha : key a = k
      · have hrest : (rows.map fun a => if key a = k then f a else a) = rows := by
          have hsame : ∀ b ∈ rows, (if key b = k then f b else b) = id b := by
            intro b hb
            rw [if_neg, id]
            intro hkey
            exact hnodup.1 (ha.trans hkey.symm ▸ mem_map_of_mem hb)
          rw [map_congr_left hsame, map_id]
        have hone : ∀ b, (if q b = true then 1 else 0) ≤ 1 := by
          intro b
          split
          · exact le_refl 1
          · exact Nat.zero_le 1
        have hhead := hone (if key a = k then f a else a)
        rw [hrest]
        omega
      · have hle := ih hnodup.2
        rw [if_neg ha]
        omega
  exact hrows t.rows t.nodup

/-- An upsert counts one row more at most, and none if the row it leaves does not count. -/
lemma countP_upsert_le {b : Bool} (ha : q a = true → b = true)
    (hq : ∀ row, q (f row) = true → b = true) :
    (t.upsert a f hf).rows.countP q ≤ t.rows.countP q + (if b then 1 else 0) := by
  unfold upsert
  split
  · show (t.rows ++ [a]).countP q ≤ _
    rw [countP_append, countP_singleton]
    apply Nat.add_le_add_left
    split
    · rename_i hcounts
      rw [if_pos (ha hcounts)]
    · exact Nat.zero_le _
  · cases b with
    | true => exact countP_modify_le_succ hf
    | false =>
      apply countP_modify_le hf
      intro row hrow
      cases hq row hrow

end Counts

end Table

/-! ## Sums over rows -/

section Sums

variable {α β κ : Type} [DecidableEq κ] {key : α → κ} {f : α → ℤ} {rows : List α}

/-- The rows grouped by a key, in the order of first appearance. -/
def groupBy (key : α → κ) (rows : List α) : List (κ × List α) :=
  (rows.map key).dedup.map fun k => (k, rows.filter fun row => key row = k)

lemma sum_map_ite_of_mem {keys : List κ} (hnodup : keys.Nodup) {k : κ} (hk : k ∈ keys) (x : ℤ) :
    (keys.map fun k' => if k = k' then x else 0).sum = x := by
  induction keys with
  | nil => cases hk
  | cons k' keys ih =>
    rcases nodup_cons.mp hnodup with ⟨hnew, hnodup⟩
    rw [map_cons, sum_cons]
    rcases mem_cons.mp hk with rfl | hmem
    · have hzero : keys.map (fun k' => if k = k' then x else 0) = keys.map fun _ => 0 := by
        apply map_congr_left
        intro k' hk'
        rw [if_neg]
        rintro rfl
        exact hnew hk'
      rw [if_pos rfl, hzero]
      simp
    · rw [if_neg, ih hnodup hmem, zero_add]
      rintro rfl
      exact hnew hmem

/-- The sums of the groups add up to the sum of the rows. -/
lemma sum_groupBy {key : α → κ} {f : α → ℤ} {rows : List α} :
    ((groupBy key rows).map fun g => (g.2.map f).sum).sum = (rows.map f).sum := by
  have hkeys : ∀ (keys : List κ) (rows : List α), keys.Nodup → (∀ row ∈ rows, key row ∈ keys) →
      (keys.map fun k => ((rows.filter fun row => key row = k).map f).sum).sum =
        (rows.map f).sum := by
    intro keys rows hnodup hmem
    induction rows with
    | nil => simp
    | cons row rows ih =>
      have hone := sum_map_ite_of_mem hnodup (hmem row mem_cons_self) (f row)
      have hrest := ih fun row' hrow' => hmem row' (mem_cons_of_mem _ hrow')
      have hsplit : ∀ k, (((row :: rows).filter fun row => key row = k).map f).sum =
          (if key row = k then f row else 0) +
            ((rows.filter fun row => key row = k).map f).sum := by
        intro k
        by_cases hk : key row = k
        · rw [filter_cons_of_pos (by simpa using hk), if_pos hk, map_cons, sum_cons]
        · rw [filter_cons_of_neg (by simpa using hk), if_neg hk, zero_add]
      simp only [hsplit]
      rw [sum_map_add, hone, hrest, map_cons, sum_cons]
  unfold groupBy
  rw [map_map]
  apply hkeys _ _ (nodup_dedup _)
  intro row hrow
  exact mem_dedup.mpr (mem_map.mpr ⟨row, hrow, rfl⟩)

lemma sum_filter_le {p : α → Bool} (hf : ∀ a ∈ rows, 0 ≤ f a) :
    ((rows.filter p).map f).sum ≤ (rows.map f).sum := by
  induction rows with
  | nil => simp
  | cons row rows ih =>
    have hrow := hf row mem_cons_self
    have hrest := ih fun a ha => hf a (mem_cons_of_mem _ ha)
    by_cases hp : p row = true
    · rw [filter_cons_of_pos hp, map_cons, map_cons, sum_cons, sum_cons]
      omega
    · rw [filter_cons_of_neg hp, map_cons, sum_cons]
      omega

omit [DecidableEq κ] in
/-- A sum is bounded by another one if every positive term of it is bounded by a term
with the same key, and no two positive terms share a key. -/
lemma sum_le_sum_of_keyed [DecidableEq β] {g : β → ℤ} {keyOf : β → κ} :
    ∀ {rows : List α} {others : List β}, (∀ b ∈ others, 0 ≤ g b) →
      (∀ a ∈ rows, 0 < f a → ∃ b ∈ others, keyOf b = key a ∧ f a ≤ g b) →
      rows.Pairwise (fun a a' => 0 < f a → 0 < f a' → key a ≠ key a') →
      (rows.map f).sum ≤ (others.map g).sum := by
  intro rows
  induction rows with
  | nil =>
    intro others hg _ _
    exact sum_nonneg (by simpa using hg)
  | cons a rows ih =>
    intro others hg hbound hapart
    rcases pairwise_cons.mp hapart with ⟨ha, hapart⟩
    rw [map_cons, sum_cons]
    by_cases hpos : 0 < f a
    · rcases hbound a mem_cons_self hpos with ⟨b, hb, hkey, hle⟩
      have hperm := perm_cons_erase hb
      have hsum : (others.map g).sum = g b + ((others.erase b).map g).sum := by
        rw [(hperm.map g).sum_eq, map_cons, sum_cons]
      have hrest := @ih (others.erase b) (fun b' hb' => hg b' (mem_of_mem_erase hb')) ?_ hapart
      · omega
      · intro a' ha' hpos'
        rcases hbound a' (mem_cons_of_mem _ ha') hpos' with ⟨b', hb', hkey', hle'⟩
        have hne : b' ≠ b := by
          rintro rfl
          exact ha a' ha' hpos hpos' (hkey.symm.trans hkey')
        exact ⟨b', (mem_erase_of_ne hne).mpr hb', hkey', hle'⟩
    · have hrest := ih hg (fun a' ha' => hbound a' (mem_cons_of_mem _ ha')) hapart
      omega

end Sums

end Lib
