import CivicCast.Eas.Cap
import CivicCast.Eas.Store

/-! # Recalled alerts

An Update or a Cancel strikes the alerts it references at the moment it is
stored, once: what is not there yet is not struck when it comes later.

* `active_ingestAll_iff` says when an active alert survives a sequence of
  deliveries: no Update or Cancel that the store takes names it.
* `deliveries_agree_iff` says for which orders of delivery the alerts left active
  do not depend on the order.
* `nws_reference_struck_iff` says when an alert that a weather-service feature
  references is struck: the flattened reference text has to spell the pair of
  sender and identifier, and the code flattens a reference to its identifier.
-/

namespace CivicCast.Eas

open Lib (Text bind_ok)

namespace AlertTable

/-- Deliver alerts one after another; the first that raises ends it. -/
def ingestAll : List EasCapAlert → AlertTable → Except EasStoreError AlertTable
  | [], t => .ok t
  | alert :: rest, t =>
    match t.ingestAlert alert with
    | .ok (t', _) => ingestAll rest t'
    | .error e => .error e

/-- An alert with the key is active. -/
def Active (t : AlertTable) (key : Text × Text) : Prop :=
  ∃ row, t.get key = some row ∧ row.status = .active

def Struck (t : AlertTable) (key : Text × Text) : Prop :=
  ∃ row, t.get key = some row ∧ (row.status = .superseded ∨ row.status = .cancelled)

end AlertTable

/-- An Update or a Cancel that references the key. -/
def Recalls (alert : EasCapAlert) (key : Text × Text) : Prop :=
  (alert.msgType = .update ∨ alert.msgType = .cancel) ∧
    key ∈ parseCapReferences alert.references

instance (alert : EasCapAlert) (key : Text × Text) : Decidable (Recalls alert key) :=
  inferInstanceAs (Decidable (_ ∧ _))

namespace AlertTable

variable {t t' : AlertTable} {a b alert row : EasCapAlert} {key : Text × Text}
  {as : List EasCapAlert} {isNew : Bool}

/-! ## One delivery -/

lemma struck_sent (alert row : EasCapAlert) : (struck alert row).sent = row.sent := by
  unfold struck
  split
  · split <;> rfl
  · rfl

lemma struck_alertId (alert row : EasCapAlert) : (struck alert row).alertId = row.alertId := by
  unfold struck
  split
  · split <;> rfl
  · rfl

variable (alert) in
lemma struck_status (hactive : row.status = .active) :
    (Recalls alert row.dedupKey ∧
        ((struck alert row).status = .superseded ∨ (struck alert row).status = .cancelled)) ∨
      (¬ Recalls alert row.dedupKey ∧ (struck alert row).status = .active) := by
  unfold Recalls struck strikeStatus
  by_cases href : row.dedupKey ∈ parseCapReferences alert.references
  · cases hmsg : alert.msgType <;> simp [href, hactive]
  · cases hmsg : alert.msgType <;> simp [href, hactive]

lemma struck_inactive (h : row.status ≠ .active) : struck alert row = row := by
  unfold struck
  split
  · rw [if_neg]
    rintro ⟨_, hactive⟩
    exact h hactive
  · rfl

variable (h : t.ingestAlert a = .ok (t', isNew))
include h

lemma takes_ingest_iff : t'.Takes b ↔ t.Takes b ∧ (a.dedupKey = b.dedupKey → a.sent < b.sent) := by
  by_cases htakes : t.Takes a
  · by_cases hkey : b.dedupKey = a.dedupKey
    · have hself := get_ingest_self h htakes
      have hsent : (stored a (t.get a.dedupKey)).sent = a.sent := by
        cases t.get a.dedupKey <;> rfl
      constructor
      · intro hb
        have hlt : a.sent < b.sent := by
          have := hb _ (by rw [hkey]; exact hself)
          rwa [hsent] at this
        refine ⟨?_, fun _ => hlt⟩
        intro row hrow
        rw [hkey] at hrow
        exact lt_trans (htakes row hrow) hlt
      · rintro ⟨_, hlt⟩ row hrow
        rw [hkey, hself] at hrow
        cases hrow
        rw [hsent]
        exact hlt hkey.symm
    · -- another key: striking a row does not change when it was sent
      have hother := get_ingest_of_ne h htakes hkey
      constructor
      · intro hb
        refine ⟨?_, fun heq => absurd heq.symm hkey⟩
        intro row hrow
        rw [hrow] at hother
        have := hb _ hother
        rwa [struck_sent] at this
      · rintro ⟨hb, _⟩ row hrow
        rw [hother] at hrow
        rcases Option.map_eq_some_iff.mp hrow with ⟨row', hrow', rfl⟩
        rw [struck_sent]
        exact hb row' hrow'
  · rw [ingest_of_not_takes htakes] at h
    cases h
    constructor
    · intro hb
      refine ⟨hb, ?_⟩
      intro hkey
      unfold Takes at htakes
      push Not at htakes
      rcases htakes with ⟨row, hrow, hsent⟩
      rw [hkey] at hrow
      exact lt_of_le_of_lt hsent (hb row hrow)
    · intro hb
      exact hb.1

lemma active_ingest (hactive : t.Active key) :
    (t.Takes a ∧ a.dedupKey ≠ key ∧ Recalls a key ∧ t'.Struck key) ∨
      (¬ (t.Takes a ∧ a.dedupKey ≠ key ∧ Recalls a key) ∧ t'.Active key) := by
  rcases hactive with ⟨row, hrow, hstatus⟩
  by_cases htakes : t.Takes a
  · by_cases hkey : key = a.dedupKey
    · right
      refine ⟨fun hrecall => hrecall.2.1 hkey.symm, ?_⟩
      refine ⟨stored a (t.get key), ?_, ?_⟩
      · rw [hkey]
        exact get_ingest_self h htakes
      · rw [hrow]
        exact hstatus
    · -- the row stands under another key: it is struck or left
      have hother := get_ingest_of_ne h htakes hkey
      rw [hrow] at hother
      have hrowKey := key_of_get hrow
      rcases struck_status a hstatus with ⟨hrecalls, hstruck⟩ | ⟨hrecalls, hkept⟩
      · left
        rw [hrowKey] at hrecalls
        exact ⟨htakes, fun heq => hkey heq.symm, hrecalls, _, hother, hstruck⟩
      · right
        rw [hrowKey] at hrecalls
        exact ⟨fun hrecall => hrecalls hrecall.2.2, _, hother, hkept⟩
  · rw [ingest_of_not_takes htakes] at h
    cases h
    right
    exact ⟨fun hrecall => htakes hrecall.1, row, hrow, hstatus⟩

lemma inactive_ingest (hrow : t.get key = some row) (hstatus : row.status ≠ .active) :
    ∃ row', t'.get key = some row' ∧ row'.status = row.status := by
  by_cases htakes : t.Takes a
  · by_cases hkey : key = a.dedupKey
    · refine ⟨stored a (t.get key), ?_, ?_⟩
      · rw [hkey]
        exact get_ingest_self h htakes
      · rw [hrow]
        rfl
    · refine ⟨struck a row, ?_, ?_⟩
      · rw [get_ingest_of_ne h htakes hkey, hrow]
        rfl
      · rw [struck_inactive hstatus]
  · rw [ingest_of_not_takes htakes] at h
    cases h
    exact ⟨row, hrow, rfl⟩

omit h

/-! ## Sequences of deliveries -/

lemma ingestAll_cons : ingestAll (a :: as) t = .ok t' ↔
    ∃ t₁ isNew, t.ingestAlert a = .ok (t₁, isNew) ∧ ingestAll as t₁ = .ok t' := by
  constructor
  · intro h
    rw [ingestAll] at h
    split at h
    · rename_i t₁ isNew hingest
      exact ⟨t₁, isNew, hingest, h⟩
    · cases h
  · rintro ⟨t₁, isNew, hingest, hrest⟩
    rw [ingestAll, hingest]
    exact hrest

lemma ingestAll_append {bs : List EasCapAlert} : ∀ {t : AlertTable},
    ingestAll (as ++ bs) t = .ok t' ↔ ∃ t₁, ingestAll as t = .ok t₁ ∧ ingestAll bs t₁ = .ok t' := by
  induction as with
  | nil =>
    intro t
    simp [ingestAll]
  | cons a as ih =>
    intro t
    constructor
    · intro h
      rcases ingestAll_cons.mp h with ⟨t₁, isNew, hingest, hrest⟩
      rcases ih.mp hrest with ⟨t₂, has, hbs⟩
      exact ⟨t₂, ingestAll_cons.mpr ⟨t₁, isNew, hingest, has⟩, hbs⟩
    · rintro ⟨t₂, has, hbs⟩
      rcases ingestAll_cons.mp has with ⟨t₁, isNew, hingest, hrest⟩
      exact ingestAll_cons.mpr ⟨t₁, isNew, hingest, ih.mpr ⟨t₂, hrest, hbs⟩⟩

/-- What is newer than everything held and everything delivered is taken. -/
lemma takes_ingestAll_iff : ∀ {t : AlertTable}, ingestAll as t = .ok t' →
    (t'.Takes b ↔ t.Takes b ∧ ∀ a ∈ as, a.dedupKey = b.dedupKey → a.sent < b.sent) := by
  induction as with
  | nil =>
    intro t h
    cases h
    simp
  | cons a as ih =>
    intro t h
    rcases ingestAll_cons.mp h with ⟨t₁, isNew, hingest, hrest⟩
    rw [ih hrest, takes_ingest_iff hingest, List.forall_mem_cons, and_assoc]

/-- Some delivery of the sequence is taken and recalls the key. -/
def RecalledIn (t : AlertTable) (as : List EasCapAlert) (key : Text × Text) : Prop :=
  ∃ pre a post, as = pre ++ a :: post ∧ a.dedupKey ≠ key ∧ Recalls a key ∧
    t.Takes a ∧ ∀ b ∈ pre, b.dedupKey = a.dedupKey → b.sent < a.sent

lemma recalledIn_cons {t₁ : AlertTable} (h : t.ingestAlert a = .ok (t₁, isNew)) :
    t.RecalledIn (a :: as) key ↔
      (t.Takes a ∧ a.dedupKey ≠ key ∧ Recalls a key) ∨ t₁.RecalledIn as key := by
  constructor
  · rintro ⟨pre, r, post, hsplit, hne, hrecalls, htakes, hpre⟩
    cases pre with
    | nil =>
      cases hsplit
      exact .inl ⟨htakes, hne, hrecalls⟩
    | cons b pre =>
      cases hsplit
      right
      have hfirst := hpre a List.mem_cons_self
      refine ⟨pre, r, post, rfl, hne, hrecalls, ?_, ?_⟩
      · exact (takes_ingest_iff h).mpr ⟨htakes, hfirst⟩
      · intro b hb
        exact hpre b (List.mem_cons_of_mem _ hb)
  · rintro (⟨htakes, hne, hrecalls⟩ | ⟨pre, r, post, rfl, hne, hrecalls, htakes, hpre⟩)
    · exact ⟨[], a, as, rfl, hne, hrecalls, htakes, by simp⟩
    · rcases (takes_ingest_iff h).mp htakes with ⟨htakes, hfirst⟩
      refine ⟨a :: pre, r, post, rfl, hne, hrecalls, htakes, ?_⟩
      intro b hb
      rcases List.mem_cons.mp hb with rfl | hb
      · exact hfirst
      · exact hpre b hb

lemma inactive_ingestAll : ∀ {t : AlertTable} {row : EasCapAlert}, ingestAll as t = .ok t' →
    t.get key = some row → row.status ≠ .active →
    ∃ row', t'.get key = some row' ∧ row'.status = row.status := by
  induction as with
  | nil =>
    intro t row h hrow _
    cases h
    exact ⟨row, hrow, rfl⟩
  | cons a as ih =>
    intro t row h hrow hstatus
    rcases ingestAll_cons.mp h with ⟨t₁, isNew, hingest, hrest⟩
    rcases inactive_ingest hingest hrow hstatus with ⟨row₁, hrow₁, hstatus₁⟩
    rcases ih hrest hrow₁ (hstatus₁ ▸ hstatus) with ⟨row₂, hrow₂, hstatus₂⟩
    exact ⟨row₂, hrow₂, hstatus₂.trans hstatus₁⟩

lemma struck_ingestAll (h : ingestAll as t = .ok t') (hstruck : t.Struck key) : t'.Struck key := by
  rcases hstruck with ⟨row, hrow, hstatus⟩
  have hinactive : row.status ≠ .active := by
    rcases hstatus with hstatus | hstatus <;> rw [hstatus] <;> decide
  rcases inactive_ingestAll h hrow hinactive with ⟨row', hrow', heq⟩
  exact ⟨row', hrow', heq ▸ hstatus⟩

/-- An active alert is struck by a sequence of deliveries exactly when one of them
is taken and recalls it, and stays active otherwise. -/
lemma active_ingestAll : ∀ {t : AlertTable}, ingestAll as t = .ok t' → t.Active key →
    (t.RecalledIn as key ∧ t'.Struck key) ∨ (¬ t.RecalledIn as key ∧ t'.Active key) := by
  induction as with
  | nil =>
    intro t h hactive
    cases h
    right
    refine ⟨?_, hactive⟩
    rintro ⟨pre, a, post, hsplit, _⟩
    simp at hsplit
  | cons a as ih =>
    intro t h hactive
    rcases ingestAll_cons.mp h with ⟨t₁, isNew, hingest, hrest⟩
    rw [recalledIn_cons hingest]
    rcases active_ingest hingest hactive with ⟨htakes, hne, hrecalls, hstruck⟩ | ⟨hnot, hactive₁⟩
    · exact .inl ⟨.inl ⟨htakes, hne, hrecalls⟩, struck_ingestAll hrest hstruck⟩
    · rcases ih hrest hactive₁ with ⟨hrecalled, hstruck⟩ | ⟨hrecalled, hkept⟩
      · exact .inl ⟨.inr hrecalled, hstruck⟩
      · right
        refine ⟨?_, hkept⟩
        rintro (hfirst | hlater)
        · exact hnot hfirst
        · exact hrecalled hlater

/-! ## When every delivery is stored -/

lemma ident_ingest {id : Text} (h : t.ingestAlert a = .ok (t', isNew))
    (hid : ∀ row, t.get a.dedupKey = some row → row.alertId = a.alertId) :
    (∃ row, t'.get key = some row ∧ row.alertId = id) ↔
      (∃ row, t.get key = some row ∧ row.alertId = id) ∨ (key = a.dedupKey ∧ id = a.alertId) := by
  by_cases htakes : t.Takes a
  · by_cases hkey : key = a.dedupKey
    · subst hkey
      have hself := get_ingest_self h htakes
      have hstored : (stored a (t.get a.dedupKey)).alertId = a.alertId := by
        cases hget : t.get a.dedupKey with
        | none => rfl
        | some row => exact hid row hget
      rw [hself]
      constructor
      · rintro ⟨row, hrow, rfl⟩
        cases hrow
        exact .inr ⟨rfl, hstored⟩
      · rintro (⟨row, hrow, rfl⟩ | ⟨_, rfl⟩)
        · exact ⟨_, rfl, hstored.trans (hid row hrow).symm⟩
        · exact ⟨_, rfl, hstored⟩
    · rw [get_ingest_of_ne h htakes hkey]
      constructor
      · rintro ⟨row, hrow, rfl⟩
        rcases Option.map_eq_some_iff.mp hrow with ⟨row', hrow', rfl⟩
        exact .inl ⟨row', hrow', (struck_alertId a row').symm⟩
      · rintro (⟨row, hrow, rfl⟩ | ⟨heq, _⟩)
        · rw [hrow]
          exact ⟨_, rfl, struck_alertId a row⟩
        · exact absurd heq hkey
  · -- not taken, as a row with the key is as new
    rw [ingest_of_not_takes htakes] at h
    cases h
    unfold Takes at htakes
    push Not at htakes
    rcases htakes with ⟨row, hrow, _⟩
    constructor
    · intro hheld
      exact .inl hheld
    · rintro (hheld | ⟨rfl, rfl⟩)
      · exact hheld
      · exact ⟨row, hrow, hid row hrow⟩

/-- The two rows, or deliveries, that share an alert id are one alert. -/
def DistinctIds (t : AlertTable) (as : List EasCapAlert) : Prop :=
  ∀ a ∈ as, (∀ row ∈ t.rows, row.alertId = a.alertId → row.dedupKey = a.dedupKey) ∧
    ∀ b ∈ as, b.alertId = a.alertId → b.dedupKey = a.dedupKey

/-- Where an alert's id depends on its key alone, a sequence of deliveries raises
nothing exactly when no two different alerts share an id. -/
lemma ingestAll_ok_iff : ∀ {t : AlertTable},
    (∀ a ∈ as, ∀ row, t.get a.dedupKey = some row → row.alertId = a.alertId) →
    (∀ a ∈ as, ∀ b ∈ as, a.dedupKey = b.dedupKey → a.alertId = b.alertId) →
    ((∃ t', ingestAll as t = .ok t') ↔ t.DistinctIds as) := by
  induction as with
  | nil =>
    intro t _ _
    simp [ingestAll, DistinctIds]
  | cons a as ih =>
    intro t hrows has
    have hida := hrows a List.mem_cons_self
    have hrows₁ : ∀ t₁ isNew, t.ingestAlert a = .ok (t₁, isNew) →
        ∀ b ∈ as, ∀ row, t₁.get b.dedupKey = some row → row.alertId = b.alertId := by
      intro t₁ isNew hingest b hb row hrow
      rcases (ident_ingest hingest hida).mp ⟨row, hrow, rfl⟩ with ⟨row', hrow', heq⟩ | ⟨hkey, heq⟩
      · rw [← heq]
        exact hrows b (List.mem_cons_of_mem _ hb) row' hrow'
      · rw [heq]
        exact has a List.mem_cons_self b (List.mem_cons_of_mem _ hb) hkey.symm
    have has₁ : ∀ b ∈ as, ∀ c ∈ as, b.dedupKey = c.dedupKey → b.alertId = c.alertId :=
      fun b hb c hc => has b (List.mem_cons_of_mem _ hb) c (List.mem_cons_of_mem _ hc)
    constructor
    · rintro ⟨t', h⟩
      rcases ingestAll_cons.mp h with ⟨t₁, isNew, hingest, hrest⟩
      have hdistinct := (ih (hrows₁ t₁ isNew hingest) has₁).mp ⟨t', hrest⟩
      have hmem₁ : ∀ key id, (∃ row, t₁.get key = some row ∧ row.alertId = id) →
          ∀ b ∈ as, id = b.alertId → key = b.dedupKey := by
        rintro key id ⟨row, hrow, rfl⟩ b hb heq
        have := (hdistinct b hb).1 row (mem_of_get hrow) heq
        rwa [key_of_get hrow] at this
      have hfirst : ∀ row ∈ t.rows, row.alertId = a.alertId → row.dedupKey = a.dedupKey := by
        intro row hrow heq
        by_contra hne
        cases hget : t.get a.dedupKey with
        | none =>
          rcases ingest_error_iff.mpr ⟨hget, row, hrow, heq⟩ with ⟨e, herror⟩
          rw [herror] at hingest
          cases hingest
        | some row' =>
          have hsame := eq_of_alertId_eq hrow (mem_of_get hget) (heq.trans (hida row' hget).symm)
          rw [hsame, key_of_get hget] at hne
          exact hne rfl
      -- an id met again stands in the table, under its key
      have hself : ∀ b ∈ as, a.alertId = b.alertId → a.dedupKey = b.dedupKey :=
        hmem₁ _ _ ((ident_ingest hingest hida).mpr (.inr ⟨rfl, rfl⟩))
      intro c hc
      rcases List.mem_cons.mp hc with rfl | hrest'
      · refine ⟨hfirst, ?_⟩
        intro b hb heq
        rcases List.mem_cons.mp hb with rfl | hb
        · rfl
        · exact (hself b hb heq.symm).symm
      · refine ⟨?_, ?_⟩
        · intro row hrow heq
          exact hmem₁ _ _ ((ident_ingest hingest hida).mpr
            (.inl ⟨row, get_of_mem hrow, rfl⟩)) c hrest' heq
        · intro b hb heq
          rcases List.mem_cons.mp hb with rfl | hb
          · exact hself c hrest' heq
          · exact (hdistinct c hrest').2 b hb heq
    · intro hdistinct
      have hclear := hdistinct a List.mem_cons_self
      cases hingest : t.ingestAlert a with
      | error e =>
        rcases ingest_error_iff.mp ⟨e, hingest⟩ with ⟨hnone, row, hrow, heq⟩
        have hkey := hclear.1 row hrow heq
        have hget := get_of_mem hrow
        rw [hkey, hnone] at hget
        cases hget
      | ok result =>
        obtain ⟨t₁, isNew⟩ := result
        -- the table after the first alert still keeps the ids apart
        have hdistinct₁ : t₁.DistinctIds as := by
          intro b hb
          have hclearb := hdistinct b (List.mem_cons_of_mem _ hb)
          refine ⟨?_, fun c hc => hclearb.2 c (List.mem_cons_of_mem _ hc)⟩
          intro row hrow heq
          rcases (ident_ingest hingest hida).mp ⟨row, get_of_mem hrow, rfl⟩ with
            ⟨row', hrow', heq'⟩ | ⟨hkey, heq'⟩
          · rw [← key_of_get hrow']
            exact hclearb.1 row' (mem_of_get hrow') (heq'.trans heq)
          · rw [hkey]
            exact hclearb.2 a List.mem_cons_self (heq'.symm.trans heq)
        rcases (ih (hrows₁ t₁ isNew hingest) has₁).mpr hdistinct₁ with ⟨t', hrest⟩
        exact ⟨t', ingestAll_cons.mpr ⟨t₁, isNew, hingest, hrest⟩⟩

lemma get_ingestAll_none : ∀ {t : AlertTable}, ingestAll as t = .ok t' → t.get key = none →
    (∀ a ∈ as, a.dedupKey ≠ key) → t'.get key = none := by
  induction as with
  | nil =>
    intro t h hnone _
    cases h
    exact hnone
  | cons a as ih =>
    intro t h hnone hkeys
    rcases ingestAll_cons.mp h with ⟨t₁, isNew, hingest, hrest⟩
    have hother : t₁.get key = none := by
      by_cases htakes : t.Takes a
      · rw [get_ingest_of_ne hingest htakes (hkeys a List.mem_cons_self).symm, hnone]
        rfl
      · rw [ingest_of_not_takes htakes] at hingest
        cases hingest
        exact hnone
    exact ih hrest hother fun b hb => hkeys b (List.mem_cons_of_mem _ hb)

end AlertTable

/-! ## The order of delivery -/

section Delivery

open AlertTable List

variable {M : Finset EasCapAlert} {σ σ' : List EasCapAlert} {t : AlertTable}
  {m : EasCapAlert} {key : Text × Text}

/-- An order of delivery: every message arrives, some of them repeatedly. -/
def Delivers (σ : List EasCapAlert) (M : Finset EasCapAlert) : Prop := ∀ m, m ∈ σ ↔ m ∈ M

/-- Two deliveries are received in full, leave the same alerts active, and none
that one of the messages recalls. -/
def Agree (M : Finset EasCapAlert) (σ σ' : List EasCapAlert) : Prop :=
  ∃ t t', ingestAll σ .empty = .ok t ∧ ingestAll σ' .empty = .ok t' ∧
    (∀ key, t.Active key ↔ t'.Active key) ∧
    ∀ key, t.Active key → ∀ r ∈ M, ¬ Recalls r key

/-- Some recall of the alert arrives first after the alert did. -/
def RecalledAfter (σ : List EasCapAlert) (m : EasCapAlert) : Prop :=
  ∃ pre r post, σ = pre ++ r :: post ∧ m ∈ pre ∧ r ∉ pre ∧ Recalls r m.dedupKey

/-- Every alert that is recalled at all is recalled by a message that arrives
after it. -/
def RecallsFollow (σ : List EasCapAlert) : Prop :=
  ∀ m ∈ σ, m.status = .active → (∃ r ∈ σ, Recalls r m.dedupKey) → RecalledAfter σ m

/-- Among messages told apart by their keys, being older than `r` is being another
message than `r`. -/
lemma sent_lt_iff_not_mem {pre : List EasCapAlert} {r : EasCapAlert}
    (hkeys : ∀ b ∈ pre, b.dedupKey = r.dedupKey → b = r) :
    (∀ b ∈ pre, b.dedupKey = r.dedupKey → b.sent < r.sent) ↔ r ∉ pre := by
  constructor
  · intro h hr
    exact lt_irrefl _ (h r hr rfl)
  · intro hr b hb hkey
    exact absurd (hkeys b hb hkey ▸ hb) hr

lemma active_delivery_iff (hkeys : ∀ a ∈ σ, ∀ b ∈ σ, a.dedupKey = b.dedupKey → a = b)
    (h : ingestAll σ .empty = .ok t) (hm : m ∈ σ) :
    t.Active m.dedupKey ↔ m.status = .active ∧ ¬ RecalledAfter σ m := by
  rcases eq_append_cons_of_mem hm with ⟨pre, post, rfl, hfirst⟩
  rcases ingestAll_append.mp h with ⟨t₀, hpre, hrest⟩
  rcases ingestAll_cons.mp hrest with ⟨t₁, isNew, hingest, hpost⟩
  have hmem_pre : ∀ b ∈ pre, b ∈ pre ++ m :: post := fun b hb => mem_append_left _ hb
  have hnone : t₀.get m.dedupKey = none := by
    refine get_ingestAll_none hpre rfl ?_
    intro b hb heq
    exact hfirst (hkeys b (hmem_pre b hb) m hm heq ▸ hb)
  have htakes : t₀.Takes m := by
    intro row hrow
    rw [hnone] at hrow
    cases hrow
  have hrow : t₁.get m.dedupKey = some m := by
    have hself := get_ingest_self hingest htakes
    rw [hnone] at hself
    exact hself
  -- a message is taken in what follows exactly when it has not arrived before
  have htaken : ∀ mid r rest, post = mid ++ r :: rest →
      ((t₁.Takes r ∧ ∀ b ∈ mid, b.dedupKey = r.dedupKey → b.sent < r.sent) ↔
        r ∉ pre ++ m :: mid) := by
    intro mid r rest hpost'
    have hall : ∀ b ∈ pre ++ m :: mid, b.dedupKey = r.dedupKey → b = r := by
      intro b hb heq
      refine hkeys b ?_ r (by simp [hpost']) heq
      rw [hpost']
      simp only [mem_append, mem_cons] at hb ⊢
      tauto
    rw [← sent_lt_iff_not_mem hall, takes_ingest_iff hingest, takes_ingestAll_iff hpre]
    have hempty : AlertTable.empty.Takes r := by
      intro row hrow
      cases hrow
    simp only [hempty, true_and, forall_mem_append, forall_mem_cons]
    tauto
  have hrecalled : t₁.RecalledIn post m.dedupKey ↔ RecalledAfter (pre ++ m :: post) m := by
    constructor
    · rintro ⟨mid, r, rest, hsplit, _, hrecalls, htakes, hmid⟩
      refine ⟨pre ++ m :: mid, r, rest, ?_, by simp, ?_, hrecalls⟩
      · rw [hsplit, append_assoc, cons_append]
      · exact (htaken mid r rest hsplit).mp ⟨htakes, hmid⟩
    · rintro ⟨before, r, rest, hsplit, hbefore, hr, hrecalls⟩
      have hall : before <+: pre ++ m :: post := ⟨r :: rest, hsplit.symm⟩
      -- the alert stands first at the end of `pre`, so `before` reaches past it
      have hlt : pre.length < before.length := by
        by_contra hle
        have hbegins : before <+: pre := by
          have hpre : pre <+: pre ++ m :: post := ⟨m :: post, rfl⟩
          exact prefix_of_prefix_length_le hall hpre (by omega)
        exact hfirst (hbegins.subset hbefore)
      have hbegins : pre ++ [m] <+: before := by
        have hpre : pre ++ [m] <+: pre ++ m :: post := ⟨post, by simp⟩
        exact prefix_of_prefix_length_le hpre hall (by simp; omega)
      rcases hbegins with ⟨mid, rfl⟩
      have hpost' : post = mid ++ r :: rest := by simpa using hsplit
      have htook := (htaken mid r rest hpost').mpr (by simpa using hr)
      refine ⟨mid, r, rest, hpost', ?_, hrecalls, htook.1, htook.2⟩
      intro heq
      have hsame := hkeys r (by simp [hpost']) m hm heq
      simp [hsame] at hr
  by_cases hstatus : m.status = .active
  · rcases active_ingestAll hpost ⟨m, hrow, hstatus⟩ with ⟨hin, hstruck⟩ | ⟨hout, hactive⟩
    · constructor
      · rintro ⟨row, hget, hactive⟩
        rcases hstruck with ⟨row', hget', hstruck⟩
        rw [hget] at hget'
        cases hget'
        rw [hactive] at hstruck
        rcases hstruck with hstruck | hstruck <;> cases hstruck
      · rintro ⟨_, hnot⟩
        exact absurd (hrecalled.mp hin) hnot
    · exact ⟨fun _ => ⟨hstatus, fun hafter => hout (hrecalled.mpr hafter)⟩, fun _ => hactive⟩
  · rcases inactive_ingestAll hpost hrow hstatus with ⟨row', hget', heq⟩
    constructor
    · rintro ⟨row, hget, hactive⟩
      rw [hget] at hget'
      cases hget'
      exact absurd (heq ▸ hactive) hstatus
    · rintro ⟨hactive, _⟩
      exact absurd hactive hstatus

lemma mem_of_active (h : ingestAll σ .empty = .ok t) (hactive : t.Active key) :
    ∃ m ∈ σ, m.dedupKey = key := by
  by_contra hnone
  push Not at hnone
  rcases hactive with ⟨row, hrow, _⟩
  rw [get_ingestAll_none h rfl hnone] at hrow
  cases hrow

/-- No recalled alert is left active exactly when the recalls follow. -/
lemma no_recalled_active_iff (hkeys : ∀ a ∈ σ, ∀ b ∈ σ, a.dedupKey = b.dedupKey → a = b)
    (h : ingestAll σ .empty = .ok t) :
    (∀ key, t.Active key → ∀ r ∈ σ, ¬ Recalls r key) ↔ RecallsFollow σ := by
  constructor
  · intro hclean m hm hstatus ⟨r, hr, hrecalls⟩
    by_contra hnot
    have hactive := (active_delivery_iff hkeys h hm).mpr ⟨hstatus, hnot⟩
    exact hclean m.dedupKey hactive r hr hrecalls
  · intro hfollow key hactive r hr hrecalls
    rcases mem_of_active h hactive with ⟨m, hm, rfl⟩
    rcases (active_delivery_iff hkeys h hm).mp hactive with ⟨hstatus, hnot⟩
    exact hnot (hfollow m hm hstatus ⟨r, hr, hrecalls⟩)

/-- Where the recalls follow, the alerts left active are the ones nobody recalls. -/
lemma active_of_recallsFollow (hkeys : ∀ a ∈ σ, ∀ b ∈ σ, a.dedupKey = b.dedupKey → a = b)
    (h : ingestAll σ .empty = .ok t) (hfollow : RecallsFollow σ) :
    t.Active key ↔ ∃ m ∈ σ, m.dedupKey = key ∧ m.status = .active ∧ ∀ r ∈ σ, ¬ Recalls r key := by
  constructor
  · intro hactive
    rcases mem_of_active h hactive with ⟨m, hm, rfl⟩
    have hstatus := ((active_delivery_iff hkeys h hm).mp hactive).1
    exact ⟨m, hm, rfl, hstatus, (no_recalled_active_iff hkeys h).mpr hfollow _ hactive⟩
  · rintro ⟨m, hm, rfl, hstatus, hnone⟩
    refine (active_delivery_iff hkeys h hm).mpr ⟨hstatus, ?_⟩
    rintro ⟨pre, r, post, rfl, _, _, hrecalls⟩
    exact hnone r (by simp) hrecalls

/-- The alerts left active are the same for two orders of delivery, and none of
them is recalled, exactly when no two messages share an alert id and in both
orders every recalled alert is recalled after it arrived. -/
theorem deliveries_agree_iff (M : Finset EasCapAlert)
    (hM : ∀ a ∈ M, ∀ b ∈ M, a.dedupKey = b.dedupKey → a = b) (σ σ' : List EasCapAlert)
    (hσ : Delivers σ M) (hσ' : Delivers σ' M) :
    Agree M σ σ' ↔ (∀ a ∈ M, ∀ b ∈ M, a.alertId = b.alertId → a = b) ∧
      RecallsFollow σ ∧ RecallsFollow σ' := by
  have hkeys : ∀ τ, Delivers τ M → ∀ a ∈ τ, ∀ b ∈ τ, a.dedupKey = b.dedupKey → a = b :=
    fun τ hτ a ha b hb => hM a ((hτ a).mp ha) b ((hτ b).mp hb)
  have hreceived : ∀ τ, Delivers τ M →
      ((∃ t, ingestAll τ .empty = .ok t) ↔
        ∀ a ∈ M, ∀ b ∈ M, a.alertId = b.alertId → a = b) := by
    intro τ hτ
    rw [ingestAll_ok_iff]
    · constructor
      · intro h a ha b hb heq
        exact hM a ha b hb ((h b ((hτ b).mpr hb)).2 a ((hτ a).mpr ha) heq)
      · intro h a ha
        refine ⟨fun row hrow => absurd hrow not_mem_nil, ?_⟩
        intro b hb heq
        rw [h b ((hτ b).mp hb) a ((hτ a).mp ha) heq]
    · intro a _ row hrow
      cases hrow
    · intro a ha b hb heq
      rw [hkeys τ hτ a ha b hb heq]
  constructor
  · -- what the second table has active the first one has too
    rintro ⟨t, t', ht, ht', hsame, hclean⟩
    refine ⟨(hreceived σ hσ).mp ⟨t, ht⟩, ?_, ?_⟩
    · apply (no_recalled_active_iff (hkeys σ hσ) ht).mp
      intro key hactive r hr
      exact hclean key hactive r ((hσ r).mp hr)
    · apply (no_recalled_active_iff (hkeys σ' hσ') ht').mp
      intro key hactive r hr
      exact hclean key ((hsame key).mpr hactive) r ((hσ' r).mp hr)
  · -- each table then has active what is not recalled, whatever the order
    rintro ⟨hids, hfollow, hfollow'⟩
    rcases (hreceived σ hσ).mpr hids with ⟨t, ht⟩
    rcases (hreceived σ' hσ').mpr hids with ⟨t', ht'⟩
    refine ⟨t, t', ht, ht', ?_, ?_⟩
    · intro key
      rw [active_of_recallsFollow (hkeys σ hσ) ht hfollow,
        active_of_recallsFollow (hkeys σ' hσ') ht' hfollow']
      simp only [hσ _, hσ' _]
    · intro key hactive r hr
      exact (no_recalled_active_iff (hkeys σ hσ) ht).mpr hfollow key hactive r ((hσ r).mpr hr)

def warning : EasCapAlert where
  alertId := ['w']
  sourceId := ['s']
  sender := ['n', 'w', 's']
  identifier := ['1']
  sent := 0
  msgType := .alert
  status := .active
  event := ['T']
  severity := .extreme
  urgency := []
  certainty := []
  headline := none
  description := none
  instruction := none
  areas := []
  references := none
  effective := none
  onset := none
  expires := none
  createdAt := 0

def cancellation : EasCapAlert :=
  { warning with
    alertId := ['c']
    identifier := ['2']
    sent := 5
    msgType := .cancel
    severity := .unknown
    references := some ['n', 'w', 's', ',', '1', ',', '0']
    alertIdBounds := by decide
    bounds := by decide }

lemma not_recalls_cancellation :
    ∀ r ∈ [warning, cancellation], ¬ Recalls r cancellation.dedupKey := by
  decide +kernel

/-- Delivered after the alert, the cancellation takes it off the air. -/
theorem deliveries_agree_in_order :
    Agree {warning, cancellation} [warning, cancellation]
      [warning, warning, cancellation, warning] := by
  have hfollow : ∀ pre post : List EasCapAlert, warning ∈ pre → cancellation ∉ pre →
      (∀ m ∈ pre ++ cancellation :: post, m ∈ [warning, cancellation]) →
      RecallsFollow (pre ++ cancellation :: post) := by
    intro pre post hpre hnew hall m hm _ ⟨r, hr, hrecalls⟩
    have hcases : m = warning ∨ m = cancellation := by simpa using hall m hm
    rcases hcases with rfl | rfl
    · exact ⟨pre, cancellation, post, rfl, hpre, hnew, by decide +kernel⟩
    · exact absurd hrecalls (not_recalls_cancellation r (hall r hr))
  refine (deliveries_agree_iff _ (by decide +kernel) _ _ ?_ ?_).mpr
    ⟨by decide +kernel, hfollow [warning] [] ?_ ?_ ?_,
      hfollow [warning, warning] [warning] ?_ ?_ ?_⟩
  · intro m
    simp
  · intro m
    simp only [mem_cons, not_mem_nil, or_false, Finset.mem_insert, Finset.mem_singleton]
    tauto
  all_goals decide +kernel

/-- Delivered before the alert, it does not: the warning goes on the air and stays
there. -/
theorem cancellation_before_warning :
    ¬ ∀ M : Finset EasCapAlert, (∀ a ∈ M, ∀ b ∈ M, a.dedupKey = b.dedupKey → a = b) →
      ∀ σ σ', Delivers σ M → Delivers σ' M → Agree M σ σ' := by
  intro hall
  have hkeys : ∀ a ∈ [cancellation, warning], ∀ b ∈ [cancellation, warning],
      a.dedupKey = b.dedupKey → a = b := by decide +kernel
  have hagree := hall {warning, cancellation} (by decide +kernel) [cancellation, warning]
    [cancellation, warning] (by intro m; simp [or_comm]) (by intro m; simp [or_comm])
  rcases hagree with ⟨t, _, ht, _, _, hclean⟩
  have hfollow : RecallsFollow [cancellation, warning] := by
    apply (no_recalled_active_iff hkeys ht).mp
    intro key hactive r hr
    exact hclean key hactive r (by simpa [or_comm] using hr)
  rcases hfollow warning (by simp) rfl ⟨cancellation, by simp, by decide +kernel⟩ with
    ⟨pre, r, post, hsplit, hwarning, hr, hrecalls⟩
  -- only the cancellation recalls, and nothing stands before it
  match pre with
  | [] => cases hwarning
  | [first] =>
    have hr : r = warning := by
      have := congrArg (fun l => l[1]?) hsplit
      simpa using this.symm
    rw [hr] at hrecalls
    exact absurd hrecalls (by decide +kernel)
  | first :: second :: rest =>
    have := congrArg length hsplit
    simp at this

end Delivery

/-! ## References of the weather service -/

/-- The reference text holds the pair as a token `sender,identifier` or
`sender,identifier,...`. -/
def Spells (references : Option Text) (key : Text × Text) : Prop :=
  key.1 ≠ [] ∧ key.2 ≠ [] ∧ ',' ∉ key.1 ∧ ',' ∉ key.2 ∧
    ∃ token ∈ (references.getD []).words,
      token = key.1 ++ ',' :: key.2 ∨ ∃ rest, token = key.1 ++ ',' :: (key.2 ++ ',' :: rest)

variable {references : Option Text} {key : Text × Text}

lemma mem_parseCapReferences_iff : key ∈ parseCapReferences references ↔ Spells references key := by
  unfold parseCapReferences Spells
  rw [List.mem_filterMap]
  constructor
  · rintro ⟨token, htoken, hpair⟩
    split at hpair
    · rename_i sender identifier rest hfields
      split at hpair
      · cases hpair
      · rename_i hfull
        cases hpair
        have hsender : ',' ∉ sender := Lib.Text.not_mem_of_mem_fields (by rw [hfields]; simp)
        have hidentifier : ',' ∉ identifier :=
          Lib.Text.not_mem_of_mem_fields (by rw [hfields]; simp)
        have hne : sender ≠ [] ∧ identifier ≠ [] := by simpa using hfull
        refine ⟨hne.1, hne.2, hsender, hidentifier, token, htoken, ?_⟩
        exact (Lib.Text.fields_eq_cons_cons_iff hsender hidentifier).mp ⟨rest, hfields⟩
    · cases hpair
  · rintro ⟨hsender, hidentifier, hcomma, hcomma', token, htoken, hspelled⟩
    rcases (Lib.Text.fields_eq_cons_cons_iff hcomma hcomma').mpr hspelled with ⟨rest, hfields⟩
    refine ⟨token, htoken, ?_⟩
    rw [hfields]
    simp [hsender, hidentifier]

lemma not_spells_of_no_comma (h : ',' ∉ references.getD []) : ¬ Spells references key := by
  rintro ⟨_, _, _, _, token, htoken, rfl | ⟨rest, rfl⟩⟩
  · exact h (Lib.Text.mem_of_mem_words htoken (by simp))
  · exact h (Lib.Text.mem_of_mem_words htoken (by simp))

/-- `properties.references` of a feature. -/
def referencesOf (feature : Json) : Json :=
  match featureProps feature with
  | some props => Json.get props "references".toList
  | none => .null

/-- An Update or Cancel feature names an alert by identifier and sender. -/
def Names (feature : Json) (key : Text × Text) : Prop :=
  ∃ references entry, referencesOf feature = .arr references ∧ .obj entry ∈ references ∧
    Json.get entry "sender".toList = .str key.1 ∧
    Json.get entry "identifier".toList = .str key.2

/-- References as the weather service lists them: identifiers without a comma, or
none at all. -/
def PlainReferences (rt : Runtime) (references : Json) : Prop :=
  references = .null ∨ ∃ entries, references = .arr entries ∧
    ∀ part ∈ entries.filterMap (referencePart rt), ',' ∉ part

section Nws

open AlertTable

variable {rt : Runtime} {now : Instant} {sourceId : Text} {features : List Json}
  {alerts : List EasCapAlert} {t t' : AlertTable} {key : Text × Text} {u : EasCapAlert}
  {feature : Json}

lemma references_of_buildAlert {sender identifier event urgency certainty : Text}
    {sent : Instant} {msgType : EasMsgType} {severity : EasSeverity}
    {headline description instruction references : Option Text} {areas : List Text}
    {effective onset expires : Option Instant}
    (h : buildAlert rt now sourceId sender identifier sent msgType event severity urgency certainty
      headline description instruction areas references effective onset expires = .ok u) :
    u.references = references := by
  unfold buildAlert at h
  split at h
  · cases h
    rfl
  · cases h

lemma parseFeature_references (h : parseFeature rt now sourceId feature = .ok (some u)) :
    u.references = clip (nwsReferences rt (referencesOf feature)) 4000 := by
  unfold parseFeature at h
  split at h
  · rename_i props hprops
    have hrefs : referencesOf feature = Json.get props "references".toList := by
      unfold referencesOf
      rw [hprops]
    rw [hrefs]
    rcases bind_ok h with ⟨sender, _, h⟩
    rcases bind_ok h with ⟨identifier, _, h⟩
    dsimp only at h
    split at h
    · cases h
    · iterate 14 rcases bind_ok h with ⟨_, _, h⟩
      rcases bind_ok h with ⟨alert, halert, h⟩
      cases h
      exact references_of_buildAlert halert
  · cases h

lemma parseFeatures_cons : parseFeatures rt now sourceId (feature :: features) =
    .ok alerts ↔ ∃ alert rest, parseFeature rt now sourceId feature = .ok alert ∧
      parseFeatures rt now sourceId features = .ok rest ∧ alerts = alert.toList ++ rest := by
  constructor
  · intro h
    rw [parseFeatures] at h
    rcases bind_ok h with ⟨alert, halert, h⟩
    rcases bind_ok h with ⟨rest, hrest, h⟩
    cases h
    exact ⟨alert, rest, halert, hrest, rfl⟩
  · rintro ⟨alert, rest, halert, hrest, rfl⟩
    rw [parseFeatures, halert, hrest]
    rfl

/-- A feature that the store takes, on its own turn, and what it is parsed to. -/
def TakenFeature (rt : Runtime) (now : Instant) (sourceId : Text) (t : AlertTable)
    (features : List Json) (feature : Json) (u : EasCapAlert) : Prop :=
  ∃ pre post, features = pre ++ feature :: post ∧
    parseFeature rt now sourceId feature = .ok (some u) ∧ t.Takes u ∧
    ∀ g ∈ pre, ∀ v, parseFeature rt now sourceId g = .ok (some v) →
      v.dedupKey = u.dedupKey → v.sent < u.sent

lemma taken_iff_takenFeature : ∀ {alerts : List EasCapAlert} {u : EasCapAlert},
    parseFeatures rt now sourceId features = .ok alerts →
    ((∃ pre post, alerts = pre ++ u :: post ∧ t.Takes u ∧
        ∀ b ∈ pre, b.dedupKey = u.dedupKey → b.sent < u.sent) ↔
      ∃ feature, TakenFeature rt now sourceId t features feature u) := by
  induction features with
  | nil =>
    intro alerts u h
    cases h
    simp [TakenFeature]
  | cons f features ih =>
    intro alerts u h
    rcases parseFeatures_cons.mp h with ⟨alert, rest, halert, hrest, rfl⟩
    constructor
    · rintro ⟨pre, post, hsplit, htakes, hpre⟩
      cases alert with
      | none =>
        rcases (ih hrest).mp ⟨pre, post, hsplit, htakes, hpre⟩ with
          ⟨feature, before, after, rfl, hparsed, _, hbefore⟩
        refine ⟨feature, f :: before, after, rfl, hparsed, htakes, ?_⟩
        intro g hg v hv
        rcases List.mem_cons.mp hg with rfl | hg
        · rw [halert] at hv
          cases hv
        · exact hbefore g hg v hv
      | some a =>
        cases pre with
        | nil =>
          cases hsplit
          exact ⟨f, [], features, rfl, halert, htakes, by simp⟩
        | cons b pre =>
          cases hsplit
          have hlater : ∀ b ∈ pre, b.dedupKey = u.dedupKey → b.sent < u.sent :=
            fun b hb => hpre b (List.mem_cons_of_mem _ hb)
          rcases (ih hrest).mp ⟨pre, post, rfl, htakes, hlater⟩ with
            ⟨feature, before, after, rfl, hparsed, _, hbefore⟩
          refine ⟨feature, f :: before, after, rfl, hparsed, htakes, ?_⟩
          intro g hg v hv
          rcases List.mem_cons.mp hg with rfl | hg
          · rw [halert] at hv
            cases hv
            exact hpre a List.mem_cons_self
          · exact hbefore g hg v hv
    · -- the feature is the first one, or one of the rest
      rintro ⟨feature, before, after, hsplit, hparsed, htakes, hbefore⟩
      cases before with
      | nil =>
        cases hsplit
        rw [halert] at hparsed
        cases hparsed
        exact ⟨[], rest, rfl, htakes, by simp⟩
      | cons g before =>
        cases hsplit
        have hlater : ∃ feature', TakenFeature rt now sourceId t
            (before ++ feature :: after) feature' u :=
          ⟨feature, before, after, rfl, hparsed, htakes,
            fun g hg => hbefore g (List.mem_cons_of_mem _ hg)⟩
        rcases (ih hrest).mpr hlater with ⟨pre, post, rfl, _, hpre⟩
        refine ⟨alert.toList ++ pre, post, by simp, htakes, ?_⟩
        intro b hb heq
        rcases List.mem_append.mp hb with hb | hb
        · have hself : alert = some b := by simpa using hb
          exact hbefore f List.mem_cons_self b (hself ▸ halert) heq
        · exact hpre b hb heq

/-- Flattened references hold no comma where none of the identifiers does. -/
lemma no_comma_of_plainReferences {references : Json} (h : PlainReferences rt references) :
    ',' ∉ (clip (nwsReferences rt references) 4000).getD [] := by
  rcases h with rfl | ⟨entries, rfl, hparts⟩
  · simp [nwsReferences, clip]
  · have hjoined : ∀ parts : List Text, (∀ part ∈ parts, ',' ∉ part) →
        ',' ∉ [' '].intercalate parts := by
      intro parts
      induction parts with
      | nil => simp [List.intercalate]
      | cons part parts ih =>
        intro hall
        rw [List.forall_mem_cons] at hall
        cases parts with
        | nil => simpa [List.intercalate] using hall.1
        | cons next parts =>
          have hrest := ih hall.2
          simp only [List.intercalate_cons_cons, List.mem_append, List.mem_singleton, not_or]
          exact ⟨⟨hall.1, by decide⟩, hrest⟩
    unfold nwsReferences clip
    dsimp only
    split
    · simp
    · simp only [Option.bind_some]
      split
      · simp
      · intro hmem
        refine hjoined _ ?_ (List.mem_of_mem_take hmem)
        intro part hpart
        exact hparts part (List.mem_filter.mp hpart).1

/-- An active alert that a feature of the collection names is struck exactly when
the flattened and clipped reference text of some Update or Cancel feature, taken by
the store, spells its sender and identifier. Where the references are lists of
identifiers without a comma, it stays active. -/
theorem nws_reference_struck_iff (rt : Runtime) (now : Instant) (jsonText sourceId : Text)
    (features : List Json) (alerts : List EasCapAlert) (t t' : AlertTable) (key : Text × Text)
    (hload : (rt.loads jsonText).bind featuresOf = some features)
    (hparse : parseNwsGeojson rt now jsonText sourceId = .ok alerts)
    (hingest : ingestAll alerts t = .ok t') (hactive : t.Active key) :
    (t'.Struck key ↔ ∃ feature u, TakenFeature rt now sourceId t features feature u ∧
      (u.msgType = .update ∨ u.msgType = .cancel) ∧ u.dedupKey ≠ key ∧
      Spells (clip (nwsReferences rt (referencesOf feature)) 4000) key) ∧
    ((∀ feature ∈ features, PlainReferences rt (referencesOf feature)) → t'.Active key) := by
  unfold parseNwsGeojson at hparse
  rw [hload] at hparse
  have hrecalled : t.RecalledIn alerts key ↔
      ∃ feature u, TakenFeature rt now sourceId t features feature u ∧
        (u.msgType = .update ∨ u.msgType = .cancel) ∧ u.dedupKey ≠ key ∧
        Spells (clip (nwsReferences rt (referencesOf feature)) 4000) key := by
    constructor
    · rintro ⟨pre, u, post, hsplit, hne, ⟨hmsg, href⟩, htakes, hpre⟩
      rcases (taken_iff_takenFeature hparse).mp ⟨pre, post, hsplit, htakes, hpre⟩ with
        ⟨feature, hfeature⟩
      obtain ⟨before, after, hfeatures, hparsed, htaken⟩ := hfeature
      refine ⟨feature, u, ⟨before, after, hfeatures, hparsed, htaken⟩, hmsg, hne, ?_⟩
      rw [← parseFeature_references hparsed]
      exact mem_parseCapReferences_iff.mp href
    · rintro ⟨feature, u, hfeature, hmsg, hne, hspells⟩
      have hparsed : parseFeature rt now sourceId feature = .ok (some u) := by
        rcases hfeature with ⟨_, _, _, hparsed, _⟩
        exact hparsed
      rcases (taken_iff_takenFeature hparse).mpr ⟨feature, hfeature⟩ with
        ⟨pre, post, hsplit, htakes, hpre⟩
      refine ⟨pre, u, post, hsplit, hne, ⟨hmsg, ?_⟩, htakes, hpre⟩
      rw [← parseFeature_references hparsed] at hspells
      exact mem_parseCapReferences_iff.mpr hspells
  rw [← hrecalled]
  rcases active_ingestAll hingest hactive with ⟨hin, hstruck⟩ | ⟨hout, hkept⟩
  · -- a plain reference text holds no comma, so it spells nothing
    refine ⟨⟨fun _ => hin, fun _ => hstruck⟩, ?_⟩
    intro hplain
    rcases hrecalled.mp hin with ⟨feature, u, ⟨before, after, rfl, _⟩, _, _, hspells⟩
    have hfeature := hplain feature (by simp)
    exact absurd hspells (not_spells_of_no_comma (no_comma_of_plainReferences hfeature))
  · refine ⟨⟨?_, fun hin => absurd hin hout⟩, fun _ => hkept⟩
    rintro ⟨row, hrow, hstatus⟩
    rcases hkept with ⟨row', hrow', hactive'⟩
    rw [hrow] at hrow'
    cases hrow'
    rw [hactive'] at hstatus
    rcases hstatus with hstatus | hstatus <;> cases hstatus

/-- The update that the weather service sends for `warning`, as its feed has it. -/
def updateFeature : Json :=
  .obj [("properties".toList, .obj [
    ("id".toList, .str ['2']),
    ("sender".toList, .str ['n', 'w', 's']),
    ("sent".toList, .str "2026-01-01T12:05:00+00:00".toList),
    ("messageType".toList, .str "Update".toList),
    ("event".toList, .str ['T']),
    ("severity".toList, .str "Severe".toList),
    ("references".toList, .arr [.obj [
      ("@id".toList, .str "https://api.weather.gov/alerts/1".toList),
      ("identifier".toList, .str ['1']),
      ("sender".toList, .str ['n', 'w', 's'])]])])]

/-- The library functions, as they answer on that feed. -/
def feedRuntime : Runtime where
  loads := fun _ => some (.obj [("features".toList, .arr [updateFeature])])
  fromstring := fun _ => none
  fromisoformat := fun t =>
    if t = "2026-01-01T12:05:00+00:00".toList then some 1767269100000000 else none
  repr := fun _ => []
  sha1 := fun t =>
    if t = "nws|1".toList then "f55a3fef8267d51e797073a34984b63c86512f98".toList
    else "c1608f8ba8c62b75d1551aab283237f1e47c956a".toList

def warned : AlertTable := AlertTable.empty.insert warning rfl rfl

lemma warned_active : warned.Active warning.dedupKey := ⟨warning, rfl, rfl⟩

lemma warned_after_feed : ∃ alerts t', parseNwsGeojson feedRuntime 0 [] ['s'] = .ok alerts ∧
    ingestAll alerts warned = .ok t' ∧ (t'.get warning.dedupKey).map (·.status) = some .active := by
  have hrun : (match parseNwsGeojson feedRuntime 0 [] ['s'] with
      | .ok alerts =>
        match ingestAll alerts warned with
        | .ok t' => (t'.get warning.dedupKey).map (·.status)
        | .error _ => none
      | .error _ => none) = some .active := by
    decide +kernel
  split at hrun
  · rename_i alerts hparse
    split at hrun
    · rename_i t' hingest
      exact ⟨alerts, t', hparse, hingest, hrun⟩
    · cases hrun
  · cases hrun

theorem nws_reference_struck_iff_warned : ∃ alerts t',
    parseNwsGeojson feedRuntime 0 [] ['s'] = .ok alerts ∧ ingestAll alerts warned = .ok t' ∧
      t'.Active warning.dedupKey := by
  rcases warned_after_feed with ⟨alerts, t', hparse, hingest, _⟩
  refine ⟨alerts, t', hparse, hingest, ?_⟩
  refine (nws_reference_struck_iff feedRuntime 0 [] ['s'] [updateFeature] alerts warned t'
    warning.dedupKey rfl hparse hingest warned_active).2 ?_
  intro feature hfeature
  rw [List.mem_singleton] at hfeature
  subst hfeature
  refine .inr ⟨_, rfl, ?_⟩
  intro part hpart
  have hone : part = ['1'] := by simpa [referencePart, pyStr, Json.get, Json.orElse,
    Json.truthy, List.lookup] using hpart
  rw [hone]
  decide

/-- An update of the weather service does not supersede the alert it names: the
reference is flattened to the identifier, and the store looks for a sender too. -/
theorem nws_update_strikes_nothing :
    ¬ ∀ (rt : Runtime) (now : Instant) (jsonText sourceId : Text) (features : List Json)
      (alerts : List EasCapAlert) (t t' : AlertTable),
      (rt.loads jsonText).bind featuresOf = some features →
      parseNwsGeojson rt now jsonText sourceId = .ok alerts → ingestAll alerts t = .ok t' →
      ∀ feature ∈ features, ∀ u, parseFeature rt now sourceId feature = .ok (some u) →
        (u.msgType = .update ∨ u.msgType = .cancel) →
        (∀ key, Names feature key → t.Active key) → ∀ key, Names feature key → t'.Struck key := by
  intro hall
  rcases warned_after_feed with ⟨alerts, t', hparse, hingest, hstatus⟩
  have hupdate : (parseFeature feedRuntime 0 ['s'] updateFeature).toOption.map
      (fun u => u.map (·.msgType)) = some (some .update) := by
    decide +kernel
  rcases Option.map_eq_some_iff.mp hupdate with ⟨parsed, hparsed, hmsg⟩
  rcases Option.map_eq_some_iff.mp hmsg with ⟨u, rfl, hmsgType⟩
  have hparsed : parseFeature feedRuntime 0 ['s'] updateFeature = .ok (some u) := by
    cases hresult : parseFeature feedRuntime 0 ['s'] updateFeature with
    | error e =>
      rw [hresult] at hparsed
      cases hparsed
    | ok result =>
      rw [hresult] at hparsed
      cases hparsed
      rfl
  have hnamed : ∀ key, Names updateFeature key → key = warning.dedupKey := by
    rintro ⟨sender, identifier⟩ ⟨references, entry, href, hentry, hsender, hidentifier⟩
    cases href
    rw [List.mem_singleton] at hentry
    cases hentry
    cases hsender
    cases hidentifier
    rfl
  have hstruck := hall feedRuntime 0 [] ['s'] [updateFeature] alerts warned t' rfl hparse hingest
    updateFeature (by simp) u hparsed (.inl hmsgType)
    (fun key hkey => hnamed key hkey ▸ warned_active) warning.dedupKey
    ⟨_, _, rfl, List.mem_singleton_self _, rfl, rfl⟩
  rcases hstruck with ⟨row, hrow, hrow'⟩
  rw [hrow] at hstatus
  have hactive : row.status = .active := by simpa using hstatus
  rw [hactive] at hrow'
  rcases hrow' with h | h <;> cases h

end Nws

end CivicCast.Eas
