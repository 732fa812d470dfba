import CivicCast.Reporting.AsRunOutbox

/-! # Exactly-once draining of the as-run journal

Draining is repeatable as long as an open never lands on top of its own close. The
batches keep opens and closes of one entry in order within a drain, and a close is
only applied once its open is marked (`Batch.drained_of_lt`). What no lock prevents
is a second drain that read the open earlier and applies it again after the close:
`append_as_run` is an upsert and puts the old end back.

* `ExactlyOnce` is what the ledger owes the journal.
* `Benign` is the condition on a single step, `Inv` the invariant it keeps.
* `exactlyOnce_of_benign` is the result over whole runs; `stale_open_reopens_entry`
  is a run with one step that is not benign.
-/

namespace CivicCast.Reporting

open Option

def Journal.Opened (j : Journal) (entry : AsRunLogEntry) : Prop :=
  ∃ p, j.Has p ∧ p.op = .append entry

def Journal.Closed (j : Journal) (id : String) (actualEnd : Instant) (durationS : Int) : Prop :=
  ∃ p, j.Has p ∧ p.op = .close id actualEnd durationS

/-- The ledger holds one row for each journaled open and no other row, and every
entry with a journaled close has that close's end and duration. -/
structure ExactlyOnce (j : Journal) (l : Ledger) : Prop where
  opened : ∀ entry, j.Opened entry →
    (l.rows.filter fun row => row.entryId = entry.entryId).length = 1
  only : ∀ row ∈ l.rows, ∃ entry, j.Opened entry ∧ entry.entryId = row.entryId
  closed : ∀ id actualEnd durationS, j.Closed id actualEnd durationS →
    ∀ row ∈ l.rows, row.entryId = id → row.actualEnd = actualEnd ∧ row.durationS = durationS

/-! ## The condition on a step -/

namespace OutboxOp

def closes (id : String) : OutboxOp → Bool
  | close id' _ _ => id' = id
  | append _ => false

/-- An open that already carries a duration; `close_entry` would skip its row. -/
def opensEnded (id : String) : OutboxOp → Bool
  | append entry => entry.entryId = id && entry.durationS != 0
  | close _ _ _ => false

end OutboxOp

/-- An entry is opened before it is closed, with `duration_s` 0. -/
def Journal.InOrder (j : Journal) : OutboxOp → Prop
  | .append entry => ∀ r ∈ j.rows, r.op.closes entry.entryId = false
  | .close id _ _ => ∀ r ∈ j.rows, r.op.opensEnded id = false

instance (j : Journal) (op : OutboxOp) : Decidable (j.InOrder op) :=
  match op with
  | .append entry => inferInstanceAs (Decidable (∀ r ∈ j.rows, r.op.closes entry.entryId = false))
  | .close id _ _ => inferInstanceAs (Decidable (∀ r ∈ j.rows, r.op.opensEnded id = false))

/-- The ledger does not hold the entry of this open with another end: the open has
not been applied yet, or no close has followed it. -/
def Ledger.NotEnded (l : Ledger) : OutboxOp → Prop
  | .append entry => ∀ row ∈ l.get entry.entryId,
      row.actualEnd = entry.actualEnd ∧ row.durationS = entry.durationS
  | .close _ _ _ => True

instance (l : Ledger) (op : OutboxOp) : Decidable (l.NotEnded op) :=
  match op with
  | .append entry => inferInstanceAs (Decidable (∀ row ∈ l.get entry.entryId,
      row.actualEnd = entry.actualEnd ∧ row.durationS = entry.durationS))
  | .close _ _ _ => inferInstanceAs (Decidable True)

variable {T : Type}

/-- Callers open an entry before they close it, and no drain applies an open to an
entry that was closed meanwhile. -/
def State.Benign (s : State T) : Event T → Prop
  | .appendAndDrain _ op _ _ => s.journal.InOrder op.op
  | .advance t _ _ => ∀ row ∈ (s.pc t).next, s.ledger.NotEnded row.op
  | _ => True

instance (s : State T) (ev : Event T) : Decidable (s.Benign ev) :=
  match ev with
  | .appendAndDrain _ op _ _ => inferInstanceAs (Decidable (s.journal.InOrder op.op))
  | .advance t _ _ =>
    inferInstanceAs (Decidable (∀ row ∈ (s.pc t).next, s.ledger.NotEnded row.op))
  | .ensureStarted _ => inferInstanceAs (Decidable True)
  | .replayPending _ => inferInstanceAs (Decidable True)
  | .drainOnce _ _ => inferInstanceAs (Decidable True)
  | .crash => inferInstanceAs (Decidable True)

/-- Every step of the run is benign in the state it is taken in. -/
def State.BenignRun [DecidableEq T] (s : State T) : List (Event T) → Prop
  | [] => True
  | ev :: rest => s.Benign ev ∧ ∀ s' ∈ s.step ev, s'.BenignRun rest

instance State.decidableBenignRun [DecidableEq T] (s : State T) :
    (evs : List (Event T)) → Decidable (s.BenignRun evs)
  | [] => inferInstanceAs (Decidable True)
  | ev :: rest =>
    have := fun s' : State T => s'.decidableBenignRun rest
    inferInstanceAs (Decidable (s.Benign ev ∧ ∀ s' ∈ s.step ev, s'.BenignRun rest))

/-! ## What the tables owe each other -/

namespace Journal

variable {j : Journal} {now : Instant} {new : OutboxRow} {entry entry' : AsRunLogEntry}
  {id : String} {actualEnd actualEnd' : Instant} {durationS durationS' : Int} {p q : PendingRow}

lemma Has.eq_of_op (hp : j.Has p) (hq : j.Has q) (h : p.op.eventId = q.op.eventId) : p = q :=
  hp.eq_of_eventId hq (by rw [p.eventId_eq, q.eventId_eq, h])

lemma opened_unique (h : j.Opened entry) (h' : j.Opened entry')
    (hid : entry.entryId = entry'.entryId) : entry = entry' := by
  rcases h with ⟨p, hp, hop⟩
  rcases h' with ⟨q, hq, hoq⟩
  have hpq : p = q := by
    apply hp.eq_of_op hq
    simp [hop, hoq, OutboxOp.eventId, hid]
  rw [hpq, hoq] at hop
  injection hop with heq
  exact heq.symm

lemma closed_unique (h : j.Closed id actualEnd durationS)
    (h' : j.Closed id actualEnd' durationS') : actualEnd = actualEnd' ∧ durationS = durationS' := by
  rcases h with ⟨p, hp, hop⟩
  rcases h' with ⟨q, hq, hoq⟩
  have hpq : p = q := by
    apply hp.eq_of_op hq
    simp [hop, hoq, OutboxOp.eventId]
  rw [hpq, hoq] at hop
  injection hop with _ hend hdur
  exact ⟨hend.symm, hdur.symm⟩

lemma opened_insertOrIgnore (h : (j.insertOrIgnore now new).Opened entry) :
    j.Opened entry ∨ new.op = .append entry := by
  rcases h with ⟨p, hp, hop⟩
  rcases has_insertOrIgnore.mp hp with hp | ⟨_, rfl⟩
  · exact .inl ⟨p, hp, hop⟩
  · exact .inr hop

end Journal

/-- The ledger shows the effect of a journaled operation. -/
def Landed (j : Journal) (l : Ledger) : OutboxOp → Prop
  | .append entry => ∃ row, l.get entry.entryId = some row
  | .close id actualEnd durationS => ∀ entry, j.Opened entry → entry.entryId = id →
      ∃ row, l.get id = some row ∧ row.actualEnd = actualEnd ∧ row.durationS = durationS

/-- Every marked row has landed; a row of the ledger has the end it was opened with
or that of its close; and opens precede their closes. -/
structure Agree (j : Journal) (l : Ledger) : Prop where
  drained : ∀ p, j.Drained p → Landed j l p.op
  row : ∀ id row, l.get id = some row → ∃ entry, j.Opened entry ∧ entry.entryId = id ∧
    (row.actualEnd = entry.actualEnd ∧ row.durationS = entry.durationS ∨
      j.Closed id row.actualEnd row.durationS)
  order : ∀ p q entry actualEnd durationS, j.Has p → j.Has q → p.op = .append entry →
    q.op = .close entry.entryId actualEnd durationS → p.seq < q.seq ∧ entry.durationS = 0

/-- Besides the tables, each thread's batch is in order, and a row about to be
marked has landed. -/
structure Inv (s : State T) : Prop where
  tables : Agree s.journal s.ledger
  batch : ∀ t, Batch s.journal (s.pc t).batch
  applied : ∀ t row, (s.pc t).applied = some row → Landed s.journal s.ledger row.op

lemma Batch.nil (j : Journal) : Batch j [] := by
  constructor
  · exact List.Pairwise.nil
  · intro p hp
    cases hp
  · intro p hp
    cases hp

lemma inv_init : Inv (State.init T) := by
  constructor
  · constructor
    · rintro p ⟨r, hr, _⟩
      cases hr
    · intro id row hrow
      cases hrow
    · rintro p q entry actualEnd durationS ⟨r, hr, _⟩
      cases hr
  · intro t
    exact Batch.nil _
  · intro t row hrow
    cases hrow

/-! ## Journaling -/

section Journaling

variable {j : Journal} {l : Ledger} {now : Instant} {new : OutboxRow} {p : PendingRow}

lemma Landed.insertOrIgnore (h : Landed j l p.op) (hp : j.Has p) (hnew : j.InOrder new.op) :
    Landed (j.insertOrIgnore now new) l p.op := by
  cases hop : p.op with
  | append entry =>
    rw [hop] at h
    exact h
  | close id actualEnd durationS =>
    rw [hop] at h
    intro entry hopened hid
    rcases Journal.opened_insertOrIgnore hopened with hopened | hnewop
    · exact h entry hopened hid
    · -- an open is not journaled once its close is
      rcases hp with ⟨r, hr, rfl⟩
      rw [hnewop] at hnew
      have hcloses := hnew r hr
      simp [hop, OutboxOp.closes, hid] at hcloses

lemma Agree.insertOrIgnore (h : Agree j l) (hnew : j.InOrder new.op) :
    Agree (j.insertOrIgnore now new) l := by
  constructor
  · intro p hp
    have hp := Journal.drained_insertOrIgnore.mp hp
    exact (h.drained p hp).insertOrIgnore hp.has hnew
  · intro id row hrow
    rcases h.row id row hrow with ⟨entry, ⟨p, hp, hop⟩, hid, hend⟩
    refine ⟨entry, ⟨p, Journal.has_insertOrIgnore.mpr (.inl hp), hop⟩, hid, ?_⟩
    rcases hend with hend | ⟨q, hq, hoq⟩
    · exact .inl hend
    · exact .inr ⟨q, Journal.has_insertOrIgnore.mpr (.inl hq), hoq⟩
  · intro p q entry actualEnd durationS hp hq hop hoq
    rcases Journal.has_insertOrIgnore.mp hp with hp | ⟨_, rfl⟩
    · rcases Journal.has_insertOrIgnore.mp hq with hq | ⟨_, rfl⟩
      · exact h.order p q entry actualEnd durationS hp hq hop hoq
      · -- the close is the new row
        have hnewop : new.op = .close entry.entryId actualEnd durationS := hoq
        constructor
        · exact hp.lt_nextSeq
        · rcases hp with ⟨r, hr, rfl⟩
          rw [hnewop] at hnew
          have hended := hnew r hr
          simpa [hop, OutboxOp.opensEnded] using hended
    · rcases Journal.has_insertOrIgnore.mp hq with ⟨r, hr, rfl⟩ | ⟨_, rfl⟩
      · -- the open is the new row, and its close is already there
        have hnewop : new.op = .append entry := hop
        rw [hnewop] at hnew
        have hcloses := hnew r hr
        simp [hoq, OutboxOp.closes] at hcloses
      · rw [hop] at hoq
        cases hoq

end Journaling

/-! ## Marking -/

section Marking

variable {j : Journal} {l : Ledger} {now : Instant} {p : PendingRow} {op : OutboxOp}

lemma landed_markDrained {seq : Nat} : Landed (j.markDrained now seq) l op ↔ Landed j l op := by
  cases op with
  | append entry => exact .rfl
  | close id actualEnd durationS => simp only [Landed, Journal.Opened, Journal.has_markDrained]

lemma Agree.markDrained (h : Agree j l) (hp : j.Has p) (hlanded : Landed j l p.op) :
    Agree (j.markDrained now p.seq) l := by
  constructor
  · intro q hq
    rw [landed_markDrained]
    rcases Journal.drained_markDrained.mp hq with hq | ⟨hq, hseq⟩
    · exact h.drained q hq
    · rw [hq.eq_of_seq hp hseq]
      exact hlanded
  · simpa only [Journal.Opened, Journal.Closed, Journal.has_markDrained] using h.row
  · simpa only [Journal.has_markDrained] using h.order

end Marking

/-! ## Applying -/

section Applying

variable {j : Journal} {l : Ledger} {now : Instant} {row p : PendingRow} {rest : List PendingRow}

/-- The first row of a batch lands. For a close this is where the order counts: its
open is older, hence marked, hence in the ledger. -/
lemma landed_applyOp_self (now : Instant) (h : Agree j l) (hb : Batch j (row :: rest)) :
    Landed j (applyOp now row.op l) row.op := by
  have hrow : j.Has row := hb.journaled row List.mem_cons_self
  cases hop : row.op with
  | append entry =>
    rcases Ledger.get_appendAsRun_self now entry l with ⟨r, hr, _⟩
    exact ⟨r, hr⟩
  | close id actualEnd durationS =>
    rintro entry ⟨p, hp, hpop⟩ rfl
    have horder := h.order p row entry actualEnd durationS hp hrow hpop hop
    have hdrained := hb.drained_of_lt hp horder.1
    have hlanded := h.drained p hdrained
    rw [hpop] at hlanded
    rcases hlanded with ⟨r, hr⟩
    simp only [applyOp, Ledger.get_closeEntry_self, hr, map_some]
    refine ⟨_, rfl, ?_⟩
    by_cases hzero : r.durationS = 0
    · simp [hzero]
    · -- a row with a duration can only have it from this very close
      rcases h.row _ r hr with ⟨entry', hopened, hid, hend | hclosed⟩
      · have heq := Journal.opened_unique hopened ⟨p, hp, hpop⟩ hid
        rw [heq, horder.2] at hend
        exact absurd hend.2 hzero
      · have heq := Journal.closed_unique hclosed ⟨row, hrow, hop⟩
        simpa [hzero] using heq

lemma Landed.applyOp (h : Agree j l) (hb : Batch j (row :: rest)) (hended : l.NotEnded row.op)
    (hp : j.Has p) (hlanded : Landed j l p.op) : Landed j (applyOp now row.op l) p.op := by
  have hrow : j.Has row := hb.journaled row List.mem_cons_self
  have hself := landed_applyOp_self now h hb
  cases hrop : row.op with
  | append entry =>
    rw [hrop] at hended hself
    rcases Ledger.get_appendAsRun_self now entry l with ⟨r, hr, hrend⟩
    cases hop : p.op with
    | append entry' =>
      rw [hop] at hlanded
      by_cases hid : entry'.entryId = entry.entryId
      · exact ⟨r, by rw [hid]; exact hr⟩
      · rcases hlanded with ⟨r', hr'⟩
        refine ⟨r', ?_⟩
        rw [Reporting.applyOp, Ledger.get_appendAsRun_of_ne hid]
        exact hr'
    | close id actualEnd durationS =>
      rw [hop] at hlanded
      intro entry' hopened hid'
      rcases hlanded entry' hopened hid' with ⟨r', hr', hend'⟩
      by_cases hid : id = entry.entryId
      · -- the entry is not ended, so the close left the end it was opened with
        have hsame := hended r' (by rw [← hid]; exact hr')
        refine ⟨r, by rw [hid]; exact hr, ?_⟩
        rw [hrend.1, hrend.2, ← hsame.1, ← hsame.2]
        exact hend'
      · refine ⟨r', ?_, hend'⟩
        rw [Reporting.applyOp, Ledger.get_appendAsRun_of_ne hid]
        exact hr'
  | close id actualEnd durationS =>
    cases hop : p.op with
    | append entry' =>
      rw [hop] at hlanded
      rcases hlanded with ⟨r', hr'⟩
      by_cases hid : entry'.entryId = id
      · subst hid
        simp only [Landed, Reporting.applyOp, Ledger.get_closeEntry_self, hr', map_some]
        exact ⟨_, rfl⟩
      · refine ⟨r', ?_⟩
        rw [Reporting.applyOp, Ledger.get_closeEntry_of_ne hid]
        exact hr'
    | close id' actualEnd' durationS' =>
      by_cases hid : id' = id
      · -- one entry has one journaled close
        have hsame : p = row := by
          apply hp.eq_of_op hrow
          simp [hop, hrop, OutboxOp.eventId, hid]
        rw [hsame, hrop] at hop
        rw [hrop] at hself
        rw [← hop]
        exact hself
      · rw [hop] at hlanded
        intro entry' hopened hid'
        rcases hlanded entry' hopened hid' with ⟨r', hr', hend'⟩
        refine ⟨r', ?_, hend'⟩
        rw [Reporting.applyOp, Ledger.get_closeEntry_of_ne hid]
        exact hr'

lemma Agree.applyOp (h : Agree j l) (hb : Batch j (row :: rest)) (hended : l.NotEnded row.op) :
    Agree j (applyOp now row.op l) := by
  have hrow : j.Has row := hb.journaled row List.mem_cons_self
  constructor
  · intro p hp
    exact (h.drained p hp).applyOp h hb hended hp.has
  · intro id r hr
    cases hrop : row.op with
    | append entry =>
      -- the row that is appended is the journal's, any other one is as before
      rw [hrop] at hr
      by_cases hid : id = entry.entryId
      · subst hid
        rcases Ledger.get_appendAsRun_self now entry l with ⟨r', hr', hrend⟩
        rw [Reporting.applyOp, hr'] at hr
        injection hr with hr
        subst hr
        exact ⟨entry, ⟨row, hrow, hrop⟩, rfl, .inl hrend⟩
      · rw [Reporting.applyOp, Ledger.get_appendAsRun_of_ne hid] at hr
        exact h.row id r hr
    | close id' actualEnd durationS =>
      -- a close counts only for a row that has not ended
      rw [hrop] at hr
      by_cases hid : id = id'
      · subst hid
        rw [Reporting.applyOp, Ledger.get_closeEntry_self] at hr
        rcases map_eq_some_iff.mp hr with ⟨r₀, hr₀, rfl⟩
        rcases h.row id r₀ hr₀ with ⟨entry, hopened, hid, hend⟩
        refine ⟨entry, hopened, hid, ?_⟩
        split
        · exact .inr ⟨row, hrow, hrop⟩
        · exact hend
      · rw [Reporting.applyOp, Ledger.get_closeEntry_of_ne hid] at hr
        exact h.row id r hr
  · exact h.order

end Applying

/-! ## Steps and runs -/

section Steps

variable {s s' : State T} {t : T} {ev : Event T} {now : Instant} {outcome : Outcome} {pc : Pc}

lemma Inv.insertOrIgnore {op : OutboxRow} (h : Inv s) (now : Instant)
    (hop : s.journal.InOrder op.op) :
    Inv { s with journal := s.journal.insertOrIgnore now op } := by
  constructor
  · exact h.tables.insertOrIgnore hop
  · intro t
    exact (h.batch t).insertOrIgnore
  · intro t row hrow
    have hmem : row ∈ (s.pc t).batch := by
      cases hpc : s.pc t <;> simp_all [Pc.applied, Pc.batch]
    exact (h.applied t row hrow).insertOrIgnore ((h.batch t).journaled row hmem) hop

lemma Inv.markDrained {p : PendingRow} (h : Inv s) (now : Instant) (hp : s.journal.Has p)
    (hlanded : Landed s.journal s.ledger p.op) :
    Inv { s with journal := s.journal.markDrained now p.seq } := by
  constructor
  · exact h.tables.markDrained hp hlanded
  · intro t
    exact (h.batch t).markDrained
  · intro t row hrow
    rw [landed_markDrained]
    exact h.applied t row hrow

lemma Inv.applyOp {row : PendingRow} {rest : List PendingRow} (h : Inv s) (now : Instant)
    (hb : Batch s.journal (row :: rest)) (hended : s.ledger.NotEnded row.op) :
    Inv { s with ledger := applyOp now row.op s.ledger } := by
  constructor
  · exact h.tables.applyOp hb hended
  · exact h.batch
  · intro t p hp
    have hmem : p ∈ (s.pc t).batch := by
      cases hpc : s.pc t <;> simp_all [Pc.applied, Pc.batch]
    exact (h.applied t p hp).applyOp h.tables hb hended ((h.batch t).journaled p hmem)

lemma Inv.exactlyOnce (h : Inv s) (hall : s.journal.AllDrained) :
    ExactlyOnce s.journal s.ledger := by
  have hlanded : ∀ p, s.journal.Has p → Landed s.journal s.ledger p.op := by
    rintro p ⟨r, hr, rfl⟩
    exact h.tables.drained _ ⟨r, hr, rfl, hall r hr⟩
  constructor
  · rintro entry ⟨p, hp, hop⟩
    have hopen := hlanded p hp
    rw [hop] at hopen
    rcases hopen with ⟨row, hrow⟩
    rw [Lib.Table.filter_key_of_get hrow]
    rfl
  · intro row hrow
    have hget := Lib.Table.get_eq_some_iff.mpr ⟨hrow, rfl⟩
    rcases h.tables.row _ row hget with ⟨entry, hopened, hid, _⟩
    exact ⟨entry, hopened, hid⟩
  · rintro id actualEnd durationS ⟨p, hp, hop⟩ row hrow hid
    have hget := Lib.Table.get_eq_some_iff.mpr ⟨hrow, hid⟩
    rcases h.tables.row _ row hget with ⟨entry, hopened, hentry, _⟩
    have hclose := hlanded p hp
    rw [hop] at hclose
    rcases hclose entry hopened hentry with ⟨row', hrow', hend⟩
    rw [hget] at hrow'
    injection hrow' with hrow'
    rw [hrow']
    exact hend

variable [DecidableEq T]

lemma Inv.setPc (h : Inv s) (hbatch : Batch s.journal pc.batch)
    (happlied : ∀ row, pc.applied = some row → Landed s.journal s.ledger row.op) :
    Inv (s.setPc t pc) := by
  constructor
  · exact h.tables
  · intro t'
    by_cases ht : t' = t
    · subst ht
      simpa [State.setPc] using hbatch
    · simpa [State.setPc, ht] using h.batch t'
  · intro t'
    by_cases ht : t' = t
    · subst ht
      simpa [State.setPc] using happlied
    · simpa [State.setPc, ht] using h.applied t'

lemma Inv.setPc_nil (h : Inv s) (hbatch : pc.batch = []) (happlied : pc.applied = none) :
    Inv (s.setPc t pc) := by
  apply h.setPc
  · rw [hbatch]
    exact Batch.nil _
  · intro row hrow
    rw [happlied] at hrow
    cases hrow

lemma Inv.advance (h : Inv s) (hev : s.Benign (.advance t now outcome))
    (hstep : s.advance t now outcome = some s') : Inv s' := by
  have hbatch := h.batch t
  have happlied := h.applied t
  simp only [State.advance] at hstep
  split at hstep
  · -- an idle thread has no next step
    cases hstep
  · -- `ensure_started` picks a drain or a replay
    cases hstep
    exact Inv.setPc_nil ⟨h.tables, h.batch, h.applied⟩ rfl rfl
  · -- the read of a batch
    split at hstep
    · cases hstep
      apply h.setPc
      · exact Batch.select
      · intro row hrow
        cases hrow
    · cases hstep
      exact h.setPc_nil rfl rfl
  · -- the batch is used up
    cases hstep
    exact h.setPc_nil rfl rfl
  · -- the store applies the first row, or fails
    rename_i c row rest drained hpc
    rw [hpc] at hbatch
    have hended : s.ledger.NotEnded row.op := by
      apply hev
      rw [hpc]
      rfl
    have hself := landed_applyOp_self now h.tables hbatch
    have happly := h.applyOp now hbatch hended
    cases hstep
    cases outcome with
    | done =>
      apply happly.setPc
      · exact hbatch
      · intro p hp
        injection hp with hp
        subst hp
        exact hself
    | failed => exact h.setPc_nil rfl rfl
    | lost => exact happly.setPc_nil rfl rfl
  · -- the applied row is marked, or the mark fails
    rename_i c row rest drained hpc
    rw [hpc] at hbatch happlied
    have hhas : s.journal.Has row := hbatch.journaled row List.mem_cons_self
    have hmark := h.markDrained now hhas (happlied row rfl)
    cases hstep
    cases outcome with
    | done =>
      apply hmark.setPc
      · apply hbatch.markDrained.tail
        exact Journal.drained_markDrained.mpr (.inr ⟨hhas, rfl⟩)
      · intro p hp
        cases hp
    | failed => exact h.setPc_nil rfl rfl
    | lost => exact hmark.setPc_nil rfl rfl
  · -- the count behind the loop; a replay goes round again
    cases hstep
    split
    · exact h.setPc_nil rfl rfl
    · exact h.setPc_nil rfl rfl

lemma Inv.step (h : Inv s) (hev : s.Benign ev) (hstep : s.step ev = some s') : Inv s' := by
  cases ev with
  | appendAndDrain t op now outcome =>
    simp only [State.step] at hstep
    split at hstep
    · have hinsert := h.insertOrIgnore now hev
      cases hstep
      cases outcome with
      | done => exact hinsert.setPc_nil rfl rfl
      | failed => exact h.setPc_nil rfl rfl
      | lost => exact hinsert.setPc_nil rfl rfl
    · cases hstep
  | ensureStarted t | replayPending t | drainOnce t maxBatch =>
    simp only [State.step] at hstep
    split at hstep
    · cases hstep
      exact h.setPc_nil rfl rfl
    · cases hstep
  | advance t now outcome => exact h.advance hev hstep
  | crash =>
    -- the tables stay, and every batch in hand is gone
    cases hstep
    constructor
    · exact h.tables
    · intro t
      exact Batch.nil _
    · intro t row hrow
      cases hrow

lemma Inv.run {evs : List (Event T)} (h : Inv s) (hevs : s.BenignRun evs)
    (hrun : s.run evs = some s') : Inv s' := by
  induction evs generalizing s with
  | nil =>
    injection hrun with hrun
    rw [← hrun]
    exact h
  | cons ev rest ih =>
    rcases bind_eq_some_iff.mp hrun with ⟨s₁, hstep, hrest⟩
    exact ih (h.step hevs.1 hstep) (hevs.2 s₁ hstep) hrest

/-- The ledger of every run whose steps are benign is exactly-once as soon as the
journal is drained. -/
theorem exactlyOnce_of_benignRun {evs : List (Event T)} (hevs : (State.init T).BenignRun evs)
    (hrun : (State.init T).run evs = some s) (hall : s.journal.AllDrained) :
    ExactlyOnce s.journal s.ledger :=
  (inv_init.run hevs hrun).exactlyOnce hall

end Steps

/-! ## A late open -/

def airing : AsRunLogEntry where
  entryId := "asrun-1"
  stationId := "civiccast-station"
  channelId := "main"
  scheduleItemId := none
  assetId := none
  scheduledStart := none
  actualStart := 0
  actualEnd := 0
  durationS := 0
  sourceKind := .program
  verified := true
  createdAt := 0
  updatedAt := 0

/-- A thread makes its next `n` steps, all of which return. -/
def advances (t : Bool) (n : Nat) : List (Event Bool) := List.replicate n (.advance t 61 .done)

/-- The recorder's thread opens the entry and, a minute later, closes it; between
the two calls the drain of the other thread gets `between` and, at the end, `after`. -/
def openThenClose (between after : List (Event Bool)) : List (Event Bool) :=
  [Event.appendAndDrain true (makeAppendOp airing) 1 .done] ++ between ++ advances true 9 ++
    [Event.appendAndDrain true (makeCloseOp "main" "asrun-1" 60000000 60) 60 .done] ++
    advances true 5 ++ after

/-- The other drain starts late: every step is benign. -/
def drainAfter : List (Event Bool) :=
  openThenClose [] ([.drainOnce false 500] ++ advances false 3)

/-- The other drain reads its batch before the close and applies it after. -/
def drainAcross : List (Event Bool) :=
  openThenClose ([.drainOnce false 500] ++ advances false 1) (advances false 3)

def endOf (evs : List (Event Bool)) : State Bool :=
  ((State.init Bool).run evs).getD (State.init Bool)

lemma run_endOf {evs : List (Event Bool)} (h : ((State.init Bool).run evs).isSome) :
    (State.init Bool).run evs = some (endOf evs) := by
  rcases isSome_iff_exists.mp h with ⟨s, hs⟩
  rw [endOf, hs]
  rfl

theorem exactlyOnce_drainAfter :
    ExactlyOnce (endOf drainAfter).journal (endOf drainAfter).ledger ∧
      (endOf drainAfter).ledger.rows.map (·.durationS) = [60] := by
  constructor
  · have hbenign : (State.init Bool).BenignRun drainAfter := by decide
    have hrun := run_endOf (show ((State.init Bool).run drainAfter).isSome by decide)
    exact exactlyOnce_of_benignRun hbenign hrun (by decide)
  · decide

/-- The late open takes the recorded end back: the entry stays open for good. -/
theorem stale_open_reopens_entry : ¬ ∀ (evs : List (Event Bool)) (s : State Bool),
    (State.init Bool).run evs = some s → s.journal.AllDrained →
      ExactlyOnce s.journal s.ledger := by
  intro h
  have hrun := run_endOf (show ((State.init Bool).run drainAcross).isSome by decide)
  have honce := h drainAcross (endOf drainAcross) hrun (by decide)
  have hclose : ∃ r ∈ (endOf drainAcross).journal.rows,
      r.op = .close "asrun-1" 60000000 60 := by decide
  have hrow : ∃ row ∈ (endOf drainAcross).ledger.rows,
      row.entryId = "asrun-1" ∧ row.durationS = 0 := by decide
  rcases hclose with ⟨r, hr, hop⟩
  rcases hrow with ⟨row, hrow, hid, hzero⟩
  have hend := honce.closed _ _ _ ⟨_, ⟨r, hr, rfl⟩, hop⟩ row hrow hid
  rw [hzero] at hend
  exact absurd hend.2 (by decide)

end CivicCast.Reporting
