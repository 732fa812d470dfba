import CivicCast.Alerting.Store
import CivicCast.Lib.Runs

/-! # Reporting a condition from several sessions

Every call of `record_alert_condition` looks for the firing event of its condition and then
writes, in a transaction of its own. Under read-committed isolation the lookup sees what is
committed when it runs, and nothing keeps two calls from looking before either has committed:
the index on the condition, the resource and the state is not unique.

`Hub` is the committed database with the calls in flight. `one_firing` is about every run in
which no call that is to create a firing event looks while another such call for the same
condition and resource is between its lookup and its commit. Row locks only take interleavings
away, and are left out.
-/

namespace CivicCast.Alerting

open List

open Lib (Text Table)

/-! ## Calls in flight -/

/-- What a call was given. -/
structure Report where
  condition : Condition
  now : Instant
  resolved : Bool
deriving DecidableEq

/-- How far a call is: it is to look for the firing event, it has found it or found none, it
has written, and it is over or has raised. -/
inductive Phase where
  | looking (report : Report)
  | found (report : Report) (row : Option AlertEvent)
  | flushed (report : Report) (row : Option AlertEvent)
  | over
  | raised
deriving DecidableEq

structure Hub where
  db : Db
  calls : List Phase

/-- A firing event as a call that read it writes it back: the count is the one it read. -/
def AlertEvent.seenAgain (c : Condition) (now : Instant) (read e : AlertEvent) : AlertEvent :=
  { e with
    occurrenceCount := read.occurrenceCount + 1
    lastObservedAt := now
    summary := c.summary.take 300
    detail := c.detail.take 2000 }

/-- What a call commits, by what it has found. -/
def Db.write (db : Db) (r : Report) : Option AlertEvent → Db
  | none => (db.createEvent r.condition r.now (if r.resolved then .resolved else .firing)).1
  | some row =>
    if r.resolved then db.updateEvent row.eventId (AlertEvent.resolve r.now) fun _ => rfl
    else db.updateEvent row.eventId (AlertEvent.seenAgain r.condition r.now row) fun _ => rfl

/-- A step of the calls: one is made, looks, writes, commits or is rolled back. -/
inductive Action where
  | call (report : Report)
  | find (i : ℕ)
  | flush (i : ℕ)
  | commit (i : ℕ)
  | rollback (i : ℕ)
deriving DecidableEq

def Hub.act (s : Hub) : Action → Hub
  | .call report => { s with calls := s.calls ++ [.looking report] }
  | .find i =>
    match s.calls[i]? with
    | some (.looking r) =>
      match s.db.findFiringEvent r.condition.kind r.condition.resourceRef with
      | .error _ => { s with calls := s.calls.set i .raised }
      | .ok row => { s with calls := s.calls.set i (.found r row) }
    | _ => s
  | .flush i =>
    match s.calls[i]? with
    | some (.found r row) => { s with calls := s.calls.set i (.flushed r row) }
    | _ => s
  | .commit i =>
    match s.calls[i]? with
    | some (.flushed r row) => { db := s.db.write r row, calls := s.calls.set i .over }
    | _ => s
  | .rollback i =>
    match s.calls[i]? with
    | some _ => { s with calls := s.calls.set i .over }
    | none => s

lemma mem_of_findFiringEvent {db : Db} {kind : AlertConditionKind} {resourceRef : Text}
    {row : AlertEvent} (h : db.findFiringEvent kind resourceRef = .ok (some row)) :
    row ∈ db.events.rows := by
  unfold Db.findFiringEvent at h
  have hmem : row ∈ db.events.rows.filter (AlertEvent.Fires kind resourceRef) := by
    match hrows : db.events.rows.filter (AlertEvent.Fires kind resourceRef) with
    | [] =>
      rw [hrows] at h
      cases h
    | [e] =>
      rw [hrows] at h
      cases h
      exact mem_singleton_self _
    | _ :: _ :: _ =>
      rw [hrows] at h
      cases h
  exact (mem_filter.mp hmem).1

lemma updateEvent_congr {db : Db} {eventId : ℕ} {f g : AlertEvent → AlertEvent}
    {hf : ∀ e, (f e).eventId = e.eventId} {hg : ∀ e, (g e).eventId = e.eventId}
    (h : ∀ e ∈ db.events.rows, e.eventId = eventId → f e = g e) :
    db.updateEvent eventId f hf = db.updateEvent eventId g hg := by
  unfold Db.updateEvent Table.modify
  congr 2
  apply map_congr_left
  intro e he
  split
  · rename_i hid
    exact h e he hid
  · rfl

/-- A call that runs with no other beside it does what `record_alert_condition` does. -/
lemma write_eq_record {db : Db} {r : Report} {row : Option AlertEvent}
    (h : db.findFiringEvent r.condition.kind r.condition.resourceRef = .ok row) :
    ∃ e, db.recordAlertCondition r.condition r.now r.resolved = .ok (db.write r row, e) := by
  unfold Db.recordAlertCondition
  rw [h]
  cases row with
  | none => exact ⟨_, rfl⟩
  | some row =>
    have hmem : row ∈ db.events.rows := mem_of_findFiringEvent h
    unfold Db.write
    dsimp only
    by_cases hresolved : r.resolved = true
    · rw [if_pos hresolved, if_pos hresolved]
      exact ⟨_, rfl⟩
    · rw [if_neg hresolved, if_neg hresolved]
      refine ⟨row.bump r.condition r.now, ?_⟩
      -- one row has the id, so both changes leave the same one
      have hsame : db.updateEvent row.eventId (AlertEvent.bump r.condition r.now)
          (fun _ => rfl) = db.updateEvent row.eventId
            (AlertEvent.seenAgain r.condition r.now row) fun _ => rfl := by
        apply updateEvent_congr
        intro e he heq
        rw [Table.eq_of_key_eq he hmem heq]
        rfl
      rw [hsame]

/-! ## One firing -/

/-- No two events fire for one condition on one resource, and no call has raised. -/
def Hub.Safe (s : Hub) : Prop :=
  OneFiring s.db.events.rows ∧ .raised ∉ s.calls

/-- The call is to create a firing event of the condition, and has not committed it. -/
def Phase.creates (kind : AlertConditionKind) (resourceRef : Text) : Phase → Bool
  | .found r none | .flushed r none =>
    !r.resolved && r.condition.kind = kind && r.condition.resourceRef = resourceRef
  | _ => false

/-- A call that reports a condition of which no event is firing looks only while no other call
is to create one. -/
def Hub.Alone (s : Hub) : Action → Prop
  | .find i => ∀ r, s.calls[i]? = some (.looking r) → r.resolved = false →
      s.db.events.rows.countP (AlertEvent.Fires r.condition.kind r.condition.resourceRef) = 0 →
      s.calls.countP (Phase.creates r.condition.kind r.condition.resourceRef) = 0
  | _ => True

/-! ## One firing event -/

/-- The firing events and those that calls are to create are one at most. -/
def Hub.Bounded (s : Hub) : Prop :=
  (∀ kind resourceRef, s.db.events.rows.countP (AlertEvent.Fires kind resourceRef) +
    s.calls.countP (Phase.creates kind resourceRef) ≤ 1) ∧ .raised ∉ s.calls

section Steps

variable {s : Hub} {i : ℕ} {r : Report} {row : Option AlertEvent} {phase next : Phase}

lemma Hub.Bounded.oneFiring (h : s.Bounded) : OneFiring s.db.events.rows := by
  intro kind resourceRef
  have hle := h.1 kind resourceRef
  omega

lemma countP_creates_set (h : s.calls[i]? = some phase) (next : Phase)
    (kind : AlertConditionKind) (resourceRef : Text) :
    (s.calls.set i next).countP (Phase.creates kind resourceRef) +
        (if phase.creates kind resourceRef then 1 else 0) =
      s.calls.countP (Phase.creates kind resourceRef) +
        (if next.creates kind resourceRef then 1 else 0) := by
  rcases List.getElem?_eq_some_iff.mp h with ⟨hi, hphase⟩
  have hpos : (if phase.creates kind resourceRef then 1 else 0) ≤
      s.calls.countP (Phase.creates kind resourceRef) := by
    split
    · rename_i hcreates
      exact countP_pos_iff.mpr ⟨phase, mem_of_getElem? h, hcreates⟩
    · exact Nat.zero_le _
  rw [countP_set hi, hphase]
  omega

lemma raised_not_mem_set (h : .raised ∉ s.calls) (hnext : next ≠ .raised) :
    .raised ∉ s.calls.set i next := by
  intro hmem
  rcases mem_or_eq_of_mem_set hmem with hold | hnew
  · exact h hold
  · exact hnext hnew.symm

lemma Hub.Bounded.set (h : s.Bounded) (hphase : s.calls[i]? = some phase)
    (hnext : next ≠ .raised)
    (hcreates : ∀ kind resourceRef, next.creates kind resourceRef = true →
      phase.creates kind resourceRef = true) :
    Hub.Bounded { s with calls := s.calls.set i next } := by
  refine ⟨?_, raised_not_mem_set h.2 hnext⟩
  intro kind resourceRef
  have hle := h.1 kind resourceRef
  have hset := countP_creates_set hphase next kind resourceRef
  have himp := hcreates kind resourceRef
  show s.db.events.rows.countP _ + (s.calls.set i next).countP _ ≤ 1
  by_cases hnew : next.creates kind resourceRef = true
  · rw [if_pos (himp hnew), if_pos hnew] at hset
    omega
  · rw [if_neg hnew] at hset
    omega

lemma Hub.Bounded.call (h : s.Bounded) (report : Report) : (s.act (.call report)).Bounded := by
  constructor
  · intro kind resourceRef
    show _ + (s.calls ++ [_]).countP _ ≤ 1
    rw [countP_append]
    exact h.1 kind resourceRef
  · intro hmem
    rcases mem_append.mp hmem with hold | hnew
    · exact h.2 hold
    · cases mem_singleton.mp hnew

lemma creates_found_iff {kind : AlertConditionKind} {resourceRef : Text} :
    (Phase.found r row).creates kind resourceRef = true ↔
      row = none ∧ r.resolved = false ∧ r.condition.kind = kind ∧
        r.condition.resourceRef = resourceRef := by
  cases row with
  | none => simp [Phase.creates, and_assoc]
  | some e => simp [Phase.creates]

lemma creates_flushed (kind : AlertConditionKind) (resourceRef : Text) :
    (Phase.flushed r row).creates kind resourceRef =
      (Phase.found r row).creates kind resourceRef := by
  cases row <;> rfl

lemma Hub.Bounded.find (h : s.Bounded) (hok : s.Alone (.find i)) : (s.act (.find i)).Bounded := by
  unfold Hub.act
  dsimp only
  split
  · rename_i r hlooking
    rw [findFiringEvent_eq h.oneFiring]
    refine ⟨?_, raised_not_mem_set h.2 (by simp)⟩
    intro kind resourceRef
    have hle := h.1 kind resourceRef
    have hset := countP_creates_set hlooking (.found r (s.db.events.rows.filter
      (AlertEvent.Fires r.condition.kind r.condition.resourceRef)).head?) kind resourceRef
    show s.db.events.rows.countP _ + (s.calls.set i _).countP _ ≤ 1
    by_cases hnew : (Phase.found r (s.db.events.rows.filter
        (AlertEvent.Fires r.condition.kind r.condition.resourceRef)).head?).creates
          kind resourceRef = true
    · -- the call has found no firing event, and no other call is to create one
      rw [if_pos hnew] at hset
      rcases creates_found_iff.mp hnew with ⟨hnone, hresolved, rfl, rfl⟩
      have hfiring : s.db.events.rows.countP
          (AlertEvent.Fires r.condition.kind r.condition.resourceRef) = 0 := by
        rw [countP_eq_length_filter, head?_eq_none_iff.mp hnone]
        rfl
      have hcreating := hok r hlooking hresolved hfiring
      omega
    · rw [if_neg hnew] at hset
      omega
  · exact h

/-- A commit adds a firing event only for a call that was to create it. -/
lemma countP_write_le (db : Db) (r : Report) (row : Option AlertEvent)
    (kind : AlertConditionKind) (resourceRef : Text) :
    (db.write r row).events.rows.countP (AlertEvent.Fires kind resourceRef) ≤
      db.events.rows.countP (AlertEvent.Fires kind resourceRef) +
        (if (Phase.flushed r row).creates kind resourceRef then 1 else 0) := by
  cases row with
  | none =>
    show (db.events.rows ++ [_]).countP _ ≤ _
    rw [countP_append, countP_singleton]
    apply Nat.add_le_add_left
    -- a new row: it fires only where the call is one that creates
    by_cases hfires : AlertEvent.Fires kind resourceRef (newEvent db r.condition r.now
        (if r.resolved then .resolved else .firing)) = true
    · have hcreates : (Phase.flushed r none).creates kind resourceRef = true := by
        rw [creates_flushed, creates_found_iff]
        simp only [AlertEvent.Fires, newEvent, Bool.and_eq_true] at hfires
        rcases hfires with ⟨⟨hkind, href⟩, hstate⟩
        refine ⟨rfl, ?_, of_decide_eq_true hkind, of_decide_eq_true href⟩
        cases hresolved : r.resolved with
        | false => rfl
        | true => simp [hresolved] at hstate
      rw [if_pos hfires, if_pos hcreates]
    · rw [if_neg hfires]
      exact Nat.zero_le _
  | some e =>
    -- a row that was found: no other row is touched
    apply le_trans _ (Nat.le_add_right _ _)
    unfold Db.write
    dsimp only
    split
    · apply Table.countP_modify_le (f := AlertEvent.resolve r.now) fun _ => rfl
      intro e he
      simp [AlertEvent.Fires, AlertEvent.resolve] at he
    · exact Table.countP_modify_le (f := AlertEvent.seenAgain r.condition r.now e)
        (fun _ => rfl) fun _ he => he

lemma Hub.Bounded.commit (h : s.Bounded) : (s.act (.commit i)).Bounded := by
  unfold Hub.act
  dsimp only
  split
  · rename_i r row hflushed
    refine ⟨?_, raised_not_mem_set h.2 (by simp)⟩
    intro kind resourceRef
    have hle := h.1 kind resourceRef
    have hset := countP_creates_set hflushed .over kind resourceRef
    have hwrite := countP_write_le s.db r row kind resourceRef
    have hover : Phase.over.creates kind resourceRef = false := rfl
    rw [hover, if_neg Bool.false_ne_true] at hset
    show (s.db.write r row).events.rows.countP _ + (s.calls.set i _).countP _ ≤ 1
    omega
  · exact h

lemma Hub.Bounded.act (h : s.Bounded) {a : Action} (hok : s.Alone a) : (s.act a).Bounded := by
  cases a with
  | call report => exact h.call report
  | find i => exact h.find hok
  | commit i => exact h.commit
  | flush i =>
    unfold Hub.act
    dsimp only
    split
    · -- what it found is still what it will write
      rename_i r row hfound
      apply h.set hfound (by simp)
      intro kind resourceRef hcreates
      rw [← creates_flushed]
      exact hcreates
    · exact h
  | rollback i =>
    unfold Hub.act
    dsimp only
    split
    · -- a call that is rolled back creates nothing
      rename_i phase hphase
      apply h.set hphase (by simp)
      intro kind resourceRef hcreates
      cases hcreates
    · exact h

end Steps

/-- In every run in which no call that is to create a firing event looks while another such call
for the same condition is in flight, at most one event of a condition fires and no call
raises. -/
theorem one_firing (db : Db) (s : Hub) (hone : OneFiring db.events.rows)
    (h : Lib.Runs.Reached Hub.act Hub.Alone ⟨db, []⟩ s) : s.Safe := by
  have hbounded : s.Bounded := by
    apply h.invariant
    · refine ⟨?_, not_mem_nil⟩
      intro kind resourceRef
      exact hone kind resourceRef
    · intro s a hs hok
      exact hs.act hok
  exact ⟨hbounded.oneFiring, hbounded.2⟩

/-! ## Two sessions at once -/

def noEvents : Db where
  rules := []
  channels := .empty
  events := .empty
  deliveries := .empty

def diskLow : Report where
  condition :=
    { kind := .diskLow, resourceRef := ['d'], sourceSection := ['S', '8'], summary := ['d'] }
  now := 0
  resolved := false

/-- Two calls one after the other: the second counts on the event of the first. -/
def inTurn : List Action :=
  [.call diskLow, .find 0, .flush 0, .commit 0, .call diskLow, .find 1, .flush 1, .commit 1]

theorem one_firing_in_turn :
    (inTurn.foldl Hub.act ⟨noEvents, []⟩).Safe ∧
      (inTurn.foldl Hub.act ⟨noEvents, []⟩).db.events.rows.map
        AlertEvent.occurrenceCount = [2] := by
  have hnone : OneFiring noEvents.events.rows := fun _ _ => Nat.zero_le _
  constructor
  · apply one_firing noEvents _ hnone
    apply Lib.Runs.reached_of_meets
    refine ⟨trivial, ?_, trivial, trivial, trivial, ?_, trivial, trivial, trivial⟩
    · intro r hlooking _ _
      cases hlooking
      rfl
    · intro r hlooking _ _
      cases hlooking
      rfl
  · rfl

/-- Two calls that both look before either commits, and a third after them. -/
def atOnce : List Action :=
  [.call diskLow, .call diskLow, .find 0, .find 1, .flush 0, .flush 1, .commit 0, .commit 1,
    .call diskLow, .find 2]

/-- Both create a firing event, and the third call raises. -/
theorem at_once_two_firing :
    ¬ ∀ (db : Db) (s : Hub), OneFiring db.events.rows →
      Lib.Runs.Reached Hub.act (fun _ _ => True) ⟨db, []⟩ s → s.Safe := by
  intro h
  have hnone : OneFiring noEvents.events.rows := fun _ _ => Nat.zero_le _
  have hreached : Lib.Runs.Reached Hub.act (fun _ _ => True) ⟨noEvents, []⟩
      (atOnce.foldl Hub.act ⟨noEvents, []⟩) := by
    apply Lib.Runs.reached_of_meets
    exact ⟨trivial, trivial, trivial, trivial, trivial, trivial, trivial, trivial, trivial,
      trivial, trivial⟩
  have hsafe := h noEvents _ hnone hreached
  have htwo : (atOnce.foldl Hub.act ⟨noEvents, []⟩).db.events.rows.countP
      (AlertEvent.Fires .diskLow ['d']) = 2 := by
    decide +kernel
  have hone := hsafe.1 .diskLow ['d']
  rw [htwo] at hone
  exact absurd hone (by decide)

/-! ## Commits in turn -/

/-- A call commits only while it would still find what it has found. -/
def Hub.Current (s : Hub) : Action → Prop
  | .commit i => ∀ r row, s.calls[i]? = some (.flushed r row) →
      s.db.findFiringEvent r.condition.kind r.condition.resourceRef = .ok row
  | _ => True

def Hub.commits (s : Hub) : Action → List Report
  | .commit i =>
    match s.calls[i]? with
    | some (.flushed r _) => [r]
    | _ => []
  | _ => []

def Hub.log (run : Hub × List Report) (a : Action) : Hub × List Report :=
  (run.1.act a, run.2 ++ run.1.commits a)

/-- The calls of `record_alert_condition` for the reports, one after the other. -/
def Db.recordAll (db : Db) (reports : List Report) : Except StoreError Db :=
  reports.foldlM (fun db r => Prod.fst <$> db.recordAlertCondition r.condition r.now r.resolved) db

lemma recordAll_commits {s : Hub} {a : Action} (h : s.Current a) :
    s.db.recordAll (s.commits a) = .ok (s.act a).db := by
  cases a with
  | commit i =>
    unfold Hub.commits Hub.act
    dsimp only
    match hcall : s.calls[i]? with
    | some (.flushed r row) =>
      obtain ⟨e, hrecord⟩ := write_eq_record (h r row hcall)
      simp [Db.recordAll, hrecord]
    | none | some (.looking _) | some (.found ..) | some .over | some .raised => rfl
  | _ =>
    unfold Hub.act
    dsimp only
    repeat' split
    all_goals rfl

/-- In every run in which the calls commit only while they would still find what they have found,
the database is what the committed calls leave one after the other. -/
theorem recorded_in_turn (db : Db) (run : Hub × List Report)
    (h : Lib.Runs.Reached Hub.log (fun run a => run.1.Current a) (⟨db, []⟩, []) run) :
    db.recordAll run.2 = .ok run.1.db := by
  apply h.invariant (J := fun run => db.recordAll run.2 = .ok run.1.db) rfl
  intro run a hrun hok
  unfold Db.recordAll at hrun ⊢
  rw [Hub.log, foldlM_append, hrun]
  exact recordAll_commits hok

def otherDisk : Report :=
  { diskLow with condition := { diskLow.condition with resourceRef := ['e'] } }

/-- Two calls about two disks that overlap; the second one commits first. -/
def overlapping : List Action :=
  [.call diskLow, .call otherDisk, .find 0, .find 1, .flush 0, .flush 1, .commit 1, .commit 0]

theorem recorded_in_turn_overlapping :
    noEvents.recordAll [otherDisk, diskLow] =
      .ok (overlapping.foldl Hub.act ⟨noEvents, []⟩).db := by
  refine recorded_in_turn noEvents (overlapping.foldl Hub.log (⟨noEvents, []⟩, []))
    (Lib.Runs.reached_of_meets
      ⟨trivial, trivial, trivial, trivial, trivial, trivial, ?_, ?_, trivial⟩)
  all_goals
    rintro r row ⟨⟩
    rfl

end CivicCast.Alerting
