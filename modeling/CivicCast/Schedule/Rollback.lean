import CivicCast.Lib.Runs
import CivicCast.Schedule.Commit

/-!
# Approvals and rollbacks

`CommitService.commit` checks an item, publishes it together with a pending report in one
transaction, hands it to the engine, and writes the report once more with the outcome.
`CommitService.rollback` reads the report, cancels the item, hands back to the engine and writes
the report as cancelled. Both write the whole report from the copy they hold.

A rollback can run from its first to its last statement while a commit is at its dispatch, and the
second write of the commit then takes the cancellation back (`commit_undoes_rollback`). In every
run in which that write does not meet a cancelled report a rolled-back approval stays rolled back
(`rolled_back_stays`).
-/

namespace CivicCast.Schedule

open Lib Egress Option Table Function

/-! ## Where a call is -/

inductive CommitError where
  | scheduleItemNotFound
  | conflict (plan : CommitToAirPlan)
  | badUuid
  | integrity
  deriving DecidableEq

/-- Where a commit is: its copies of the item and the asset, then of the plan and its report. -/
inductive CommitPhase where
  | ready
  | fetched (item : ScheduleItem)
  | judged (item : ScheduleItem) (asset : Option StaffAssetRow)
  | approving (plan : CommitToAirPlan) (report : CommitToAirReport)
  | published (report : CommitToAirReport)
  | returned (report : CommitToAirReport)
  | raised (e : CommitError)
  deriving DecidableEq

inductive RollbackPhase where
  | ready
  | loaded (report : CommitToAirReport)
  | cancelled (report : CommitToAirReport)
  | returned (report : CommitToAirReport)
  | notFound
  deriving DecidableEq

/-! ## Interleavings -/

/-- What the calls share, and where each of them is. -/
structure State (C R : Type) where
  store : Store
  commits : C → CommitPhase
  rollbacks : R → RollbackPhase

/-- The statements of the calls. A dispatch touches nothing that the calls share, so that it is part
of the write that follows it; clocks, tokens and outcomes can be any. -/
inductive Action (C R : Type) where
  | fetch (c : C)
  | judge (c : C)
  | approve (c : C) (token : Text) (now : ℤ)
  | publish (c : C) (now : ℤ)
  | record (c : C) (result : DispatchResult) (now : ℤ)
  | load (r : R)
  | cancel (r : R)
  | finish (r : R) (now : ℤ) (writtenAt : ℤ)

section Interleave

variable {C R : Type}
  /- `str(uuid.UUID(text))`; `none` is its `ValueError`. -/
  (uuidOf : Text → Option Text)
  (commitCalls : C → CommitCall) (rollbackCalls : R → RollbackCall)

namespace State

variable (s : State C R)

def withCommit [DecidableEq C] (c : C) (phase : CommitPhase) : State C R :=
  { s with commits := update s.commits c phase }

def withRollback [DecidableEq R] (r : R) (phase : RollbackPhase) : State C R :=
  { s with rollbacks := update s.rollbacks r phase }

end State

/-- `commit`, statement by statement. -/
def fetch [DecidableEq C] (s : State C R) (c : C) : State C R :=
  match s.store.get (commitCalls c).scheduleItemId with
  | none => s.withCommit c (.raised .scheduleItemNotFound)
  | some item => s.withCommit c (.fetched item)

def approve [DecidableEq C] (s : State C R) (c : C) (item : ScheduleItem)
    (asset : Option StaffAssetRow) (token : Text) (now : ℤ) : State C R :=
  let plan := prepareCommit (commitCalls c).occurrenceId item asset (s.store.list item.channelId)
  if plan.dryRunPassed then
    s.withCommit c (.approving plan (pendingReport (commitCalls c) plan token now))
  else s.withCommit c (.raised (.conflict plan))

def publish [DecidableEq C] (s : State C R) (c : C) (plan : CommitToAirPlan)
    (report : CommitToAirReport) (now : ℤ) : State C R :=
  match uuidOf plan.scheduleItemId with
  | none => s.withCommit c (.raised .badUuid)
  | some id =>
    match s.store.commitToAir id report now with
    | none => s.withCommit c (.raised .integrity)
    | some (false, _) =>
      s.withCommit c (.raised (.conflict
        { plan with dryRunPassed := false, missingMediaDetail := some .committedByAnother }))
    | some (true, store) => { s.withCommit c (.published report) with store := store }

/-- The answer of `upsert_commit_report`. -/
def stored (store : Store) (report : CommitToAirReport) : CommitToAirReport :=
  (store.reports.get report.reportId).getD report

def recordDispatch [DecidableEq C] (s : State C R) (c : C) (report : CommitToAirReport)
    (result : DispatchResult) (now : ℤ) : State C R :=
  let store := s.store.upsertCommitReport (afterDispatch report result) now
  { s.withCommit c (.returned (stored store report)) with store := store }

/-- `rollback`, statement by statement. -/
def load [DecidableEq R] (s : State C R) (r : R) : State C R :=
  match s.store.getCommitReport (rollbackCalls r).reportId with
  | none => s.withRollback r .notFound
  | some report => s.withRollback r (.loaded report)

def cancelItem [DecidableEq R] (s : State C R) (r : R) (report : CommitToAirReport) : State C R :=
  let store := (uuidOf report.scheduleItemId).elim s.store s.store.cancel
  { s.withRollback r (.cancelled report) with store := store }

def finish [DecidableEq R] (s : State C R) (r : R) (report : CommitToAirReport)
    (now writtenAt : ℤ) : State C R :=
  let store := s.store.upsertCommitReport
    (afterRollback report (rollbackCalls r).reason now) writtenAt
  { s.withRollback r (.returned (stored store report)) with store := store }

/-- Statements that are not next do nothing. -/
def act [DecidableEq C] [DecidableEq R] (s : State C R) : Action C R → State C R
  | .fetch c =>
    match s.commits c with
    | .ready => fetch commitCalls s c
    | _ => s
  | .judge c =>
    match s.commits c with
    | .fetched item => s.withCommit c (.judged item (s.store.assets item.assetId))
    | _ => s
  | .approve c token now =>
    match s.commits c with
    | .judged item asset => approve commitCalls s c item asset token now
    | _ => s
  | .publish c now =>
    match s.commits c with
    | .approving plan report => publish uuidOf s c plan report now
    | _ => s
  | .record c result now =>
    match s.commits c with
    | .published report => recordDispatch s c report result now
    | _ => s
  | .load r =>
    match s.rollbacks r with
    | .ready => load rollbackCalls s r
    | _ => s
  | .cancel r =>
    match s.rollbacks r with
    | .loaded report => cancelItem uuidOf s r report
    | _ => s
  | .finish r now writtenAt =>
    match s.rollbacks r with
    | .cancelled report => finish rollbackCalls s r report now writtenAt
    | _ => s

def start (store : Store) : State C R := ⟨store, fun _ => .ready, fun _ => .ready⟩

/-- The condition of a run: where a commit writes its report for the second time, the stored one
is not cancelled. -/
def Unhurried (s : State C R) : Action C R → Prop
  | .record c _ _ =>
    match s.commits c with
    | .published report =>
      (s.store.reports.get report.reportId).all fun row => row.dispatchStatus ≠ .cancelled
    | _ => True
  | _ => True

instance (s : State C R) (a : Action C R) : Decidable (Unhurried s a) := by
  unfold Unhurried
  split
  · split <;> infer_instance
  · infer_instance

end Interleave

/-! ## What the store keeps -/

/-- The stored report of the id is about the item. -/
def Names (store : Store) (reportId itemId : Text) : Prop :=
  ∃ row, store.reports.get reportId = some row ∧ row.scheduleItemId = itemId

/-- What every statement keeps of the store: rows stay, a cancelled item stays cancelled, and a
report stays about its item. -/
structure Evolves (store store' : Store) : Prop where
  items : ∀ id item', store'.items.get id = some item' →
    ∃ item, store.items.get id = some item ∧ (item.state = .cancelled → item'.state = .cancelled)
  kept : ∀ id item, store.items.get id = some item → ∃ item', store'.items.get id = some item'
  names : ∀ reportId itemId, Names store reportId itemId → Names store' reportId itemId

section StoreLemmas

variable {store store' : Store} {report : CommitToAirReport} {now : ℤ} {id : Text}

lemma get_upsertCommitReport_self (store : Store) (report : CommitToAirReport) (now : ℤ) :
    ∃ row, (store.upsertCommitReport report now).reports.get report.reportId = some row ∧
      row.scheduleItemId = report.scheduleItemId ∧ row.dispatchStatus = report.dispatchStatus ∧
      row.rollbackReason = report.rollbackReason := by
  refine ⟨_, get_upsert_self, ?_⟩
  cases get store.reports report.reportId with
  | none | some row => exact ⟨rfl, rfl, rfl⟩

lemma get_upsertCommitReport_of_ne (h : id ≠ report.reportId) :
    (store.upsertCommitReport report now).reports.get id = store.reports.get id :=
  get_upsert_of_ne h

lemma evolves_upsertCommitReport (now : ℤ) (h : Names store report.reportId report.scheduleItemId) :
    Evolves store (store.upsertCommitReport report now) := by
  refine ⟨fun id item hitem => ⟨item, hitem, fun h => h⟩, fun id item hitem => ⟨item, hitem⟩, ?_⟩
  intro reportId itemId hnames
  by_cases hid : reportId = report.reportId
  · obtain ⟨row, hrow, hitem, -⟩ := get_upsertCommitReport_self store report now
    rcases hnames with ⟨old, hold, rfl⟩
    rcases h with ⟨old', hold', hitem'⟩
    rw [hid, hold'] at hold
    cases hold
    rw [hid]
    exact ⟨row, hrow, hitem.trans hitem'.symm⟩
  · unfold Names
    rw [get_upsertCommitReport_of_ne hid]
    exact hnames

lemma cancelRow_state {row : ScheduleItem} : (Store.cancelRow row).state = .cancelled := by
  unfold Store.cancelRow
  split
  · rfl
  · rfl
  · assumption

lemma evolves_cancel (id : Text) : Evolves store (store.cancel id) := by
  refine ⟨?_, ?_, fun _ _ h => h⟩
  · intro id' item' hitem'
    obtain ⟨item, hitem, hchanged⟩ := of_get_modify Store.cancelRow_id hitem'
    refine ⟨item, hitem, ?_⟩
    intro hstate
    rcases hchanged with ⟨-, rfl⟩ | rfl
    · exact cancelRow_state
    · exact hstate
  · intro id' item hitem
    obtain ⟨item', hitem', -⟩ := exists_get_modify Store.cancelRow_id hitem
    exact ⟨item', hitem'⟩

lemma afterDispatch_ids (report : CommitToAirReport) (result : DispatchResult) :
    (afterDispatch report result).reportId = report.reportId ∧
      (afterDispatch report result).scheduleItemId = report.scheduleItemId := by
  cases result <;> exact ⟨rfl, rfl⟩

variable (h : store.commitToAir id report now = some (true, store'))
include h

/-- An approval that goes through: a waiting row is published under a report that is new. -/
lemma commitToAir_true :
    ∃ item hnew, store.items.get id = some item ∧ item.state = .scheduled ∧
      store'.items = store.items.modify id Store.publishRow Store.publishRow_id ∧
      store'.reports = store.reports.insert { report with updatedAt := now } hnew := by
  unfold Store.commitToAir at h
  split at h
  · rename_i hstate
    obtain ⟨item, hitem, hscheduled⟩ := map_eq_some_iff.mp hstate
    split at h
    · rename_i hnew
      cases h
      exact ⟨item, hnew, hitem, hscheduled, rfl, rfl⟩
    · cases h
  · cases h

lemma evolves_commitToAir : Evolves store store' := by
  obtain ⟨item, hnew, hitem, hscheduled, hitems, hreports⟩ := commitToAir_true h
  refine ⟨?_, ?_, ?_⟩
  · intro id' item' hitem'
    rw [hitems] at hitem'
    obtain ⟨old, hold, hchanged⟩ := of_get_modify Store.publishRow_id hitem'
    refine ⟨old, hold, ?_⟩
    intro hcancelled
    rcases hchanged with ⟨rfl, -⟩ | rfl
    · -- the row that is published was waiting
      rw [hitem] at hold
      cases hold
      rw [hscheduled] at hcancelled
      cases hcancelled
    · exact hcancelled
  · intro id' old hold
    rw [hitems]
    obtain ⟨item', hitem', -⟩ := exists_get_modify Store.publishRow_id hold
    exact ⟨item', hitem'⟩
  · rintro reportId itemId ⟨row, hrow, hnames⟩
    have hne : reportId ≠ report.reportId := by
      rintro rfl
      rw [hnew] at hrow
      cases hrow
    refine ⟨row, ?_, hnames⟩
    rw [hreports, get_insert_of_ne hnew hne]
    exact hrow

lemma names_commitToAir : Names store' report.reportId report.scheduleItemId := by
  obtain ⟨item, hnew, hitem, hscheduled, hitems, hreports⟩ := commitToAir_true h
  refine ⟨{ report with updatedAt := now }, ?_, rfl⟩
  rw [hreports]
  exact get_insert_self hnew

end StoreLemmas

/-! ## The invariant -/

def CommitPhase.itemId : CommitPhase → Option Text
  | .fetched item | .judged item _ => some item.id
  | .approving plan _ => some plan.scheduleItemId
  | .published report | .returned report => some report.scheduleItemId
  | .ready | .raised _ => none

/-- The report of a commit, from the transaction that publishes the item on. -/
def CommitPhase.report : CommitPhase → Option CommitToAirReport
  | .published report | .returned report => some report
  | .ready | .fetched _ | .judged _ _ | .approving _ _ | .raised _ => none

/-- The copy that a rollback works on. -/
def RollbackPhase.report : RollbackPhase → Option CommitToAirReport
  | .loaded report | .cancelled report | .returned report => some report
  | .ready | .notFound => none

def RollbackPhase.pastCancel : RollbackPhase → Bool
  | .cancelled _ | .returned _ => true
  | .ready | .loaded _ | .notFound => false

/-- No other rollback is of the same report. -/
def Sole {R : Type} (rollbackCalls : R → RollbackCall) (r : R) : Prop :=
  ∀ r', (rollbackCalls r').reportId = (rollbackCalls r).reportId → r' = r

/-- The items that are published have a report, unless they were before. -/
def Approved (store₀ store : Store) : Prop :=
  ∀ id item, store.items.get id = some item → item.state = .published →
    (∃ item₀, store₀.items.get id = some item₀ ∧ item₀.state = .published) ∨
      ∃ reportId, Names store reportId id

section Invariant

variable {C R : Type} (uuidOf : Text → Option Text) (rollbackCalls : R → RollbackCall)
  (store₀ : Store)

/-- The report of a rollback that has returned. -/
def Closed (rollbacks : R → RollbackPhase) (store : Store) : Prop :=
  ∀ r report row, rollbacks r = .returned report → store.reports.get report.reportId = some row →
    row.dispatchStatus = .cancelled ∧
      (Sole rollbackCalls r → row.rollbackReason = some (rollbackCalls r).reason)

structure Inv (s : State C R) : Prop where
  uuids : ∀ id item, s.store.items.get id = some item → uuidOf id = some id
  found : ∀ c id, (s.commits c).itemId = some id → ∃ item, s.store.items.get id = some item
  approving : ∀ c plan report, s.commits c = .approving plan report →
    report.scheduleItemId = plan.scheduleItemId
  reported : ∀ c report, (s.commits c).report = some report →
    Names s.store report.reportId report.scheduleItemId
  copies : ∀ r report, (s.rollbacks r).report = some report →
    report.reportId = (rollbackCalls r).reportId ∧
      Names s.store report.reportId report.scheduleItemId
  off : ∀ r report, (s.rollbacks r).report = some report → (s.rollbacks r).pastCancel = true →
    ∀ id item, uuidOf report.scheduleItemId = some id → s.store.items.get id = some item →
      item.state = .cancelled
  closed : Closed rollbackCalls s.rollbacks s.store
  approved : Approved store₀ s.store

variable {uuidOf rollbackCalls store₀} {s : State C R} {store : Store} {report : CommitToAirReport}
  {now : ℤ}

variable (h : Inv uuidOf rollbackCalls store₀ s)
include h

lemma Inv.withStore (hevolves : Evolves s.store store)
    (hclosed : Closed rollbackCalls s.rollbacks store) (happroved : Approved store₀ store) :
    Inv uuidOf rollbackCalls store₀ { s with store := store } := by
  refine ⟨?_, ?_, h.approving, ?_, ?_, ?_, hclosed, happroved⟩
  · intro id item hitem
    obtain ⟨old, hold, -⟩ := hevolves.items id item hitem
    exact h.uuids id old hold
  · intro c id hid
    obtain ⟨item, hitem⟩ := h.found c id hid
    exact hevolves.kept id item hitem
  · intro c report hreport
    exact hevolves.names _ _ (h.reported c report hreport)
  · intro r report hreport
    obtain ⟨hid, hnames⟩ := h.copies r report hreport
    exact ⟨hid, hevolves.names _ _ hnames⟩
  · intro r report hreport hpast id item hid hitem
    obtain ⟨old, hold, hkept⟩ := hevolves.items id item hitem
    exact hkept (h.off r report hreport hpast id old hid hold)

lemma Inv.closed_commitToAir {id : Text}
    (hcommit : s.store.commitToAir id report now = some (true, store)) :
    Closed rollbackCalls s.rollbacks store := by
  obtain ⟨item, hnew, -, -, -, hreports⟩ := commitToAir_true hcommit
  intro r report' row hphase hrow
  obtain ⟨-, old, hold, -⟩ := h.copies r report' (by rw [hphase]; rfl)
  have hne : report'.reportId ≠ report.reportId := by
    intro heq
    rw [heq, hnew] at hold
    cases hold
  rw [hreports, get_insert_of_ne hnew hne] at hrow
  exact h.closed r report' row hphase hrow

lemma Inv.approved_commitToAir {id : Text}
    (hcommit : s.store.commitToAir id report now = some (true, store))
    (hid : report.scheduleItemId = id) : Approved store₀ store := by
  obtain ⟨item, hnew, hitem, hscheduled, hitems, hreports⟩ := commitToAir_true hcommit
  intro id' item' hitem' hpublished
  rw [hitems] at hitem'
  obtain ⟨old, hold, hchanged⟩ := of_get_modify Store.publishRow_id hitem'
  rcases hchanged with ⟨rfl, -⟩ | rfl
  · right
    exact ⟨report.reportId, hid ▸ names_commitToAir hcommit⟩
  · rcases h.approved id' item' hold hpublished with hbefore | ⟨reportId, hnames⟩
    · exact .inl hbefore
    · exact .inr ⟨reportId, (evolves_commitToAir hcommit).names _ _ hnames⟩

lemma Inv.approved_upsert (hnames : Names s.store report.reportId report.scheduleItemId) :
    Approved store₀ (s.store.upsertCommitReport report now) := by
  intro id item hitem hpublished
  rcases h.approved id item hitem hpublished with hbefore | ⟨reportId, hid⟩
  · exact .inl hbefore
  · exact .inr ⟨reportId, (evolves_upsertCommitReport now hnames).names _ _ hid⟩

omit h

@[simp] lemma withCommit_self [DecidableEq C] (c : C) (phase : CommitPhase) :
    (s.withCommit c phase).commits c = phase := by
  simp [State.withCommit]

lemma withCommit_of_ne [DecidableEq C] {c c' : C} (h : c' ≠ c) (phase : CommitPhase) :
    (s.withCommit c phase).commits c' = s.commits c' := by
  simp [State.withCommit, h]

@[simp] lemma withRollback_self [DecidableEq R] (r : R) (phase : RollbackPhase) :
    (s.withRollback r phase).rollbacks r = phase := by
  simp [State.withRollback]

lemma withRollback_of_ne [DecidableEq R] {r r' : R} (h : r' ≠ r) (phase : RollbackPhase) :
    (s.withRollback r phase).rollbacks r' = s.rollbacks r' := by
  simp [State.withRollback, h]

lemma Inv.withCommit [DecidableEq C] (h : Inv uuidOf rollbackCalls store₀ s) (c : C)
    {phase : CommitPhase}
    (hfound : ∀ id, phase.itemId = some id → ∃ item, s.store.items.get id = some item)
    (happroving : ∀ plan report, phase = .approving plan report →
      report.scheduleItemId = plan.scheduleItemId)
    (hreported : ∀ report, phase.report = some report →
      Names s.store report.reportId report.scheduleItemId) :
    Inv uuidOf rollbackCalls store₀ (s.withCommit c phase) := by
  refine ⟨h.uuids, ?_, ?_, ?_, h.copies, h.off, h.closed, h.approved⟩
  · intro c' id hid
    -- the call that moved is in the new phase, the others where they were
    by_cases hc : c' = c
    · subst hc
      rw [withCommit_self] at hid
      exact hfound id hid
    · rw [withCommit_of_ne hc] at hid
      exact h.found c' id hid
  · intro c' plan report hphase
    by_cases hc : c' = c
    · subst hc
      rw [withCommit_self] at hphase
      exact happroving plan report hphase
    · rw [withCommit_of_ne hc] at hphase
      exact h.approving c' plan report hphase
  · intro c' report hreport
    by_cases hc : c' = c
    · subst hc
      rw [withCommit_self] at hreport
      exact hreported report hreport
    · rw [withCommit_of_ne hc] at hreport
      exact h.reported c' report hreport

lemma Inv.withRollback [DecidableEq R] (h : Inv uuidOf rollbackCalls store₀ s) (r : R)
    {phase : RollbackPhase}
    (hcopies : ∀ report, phase.report = some report →
      report.reportId = (rollbackCalls r).reportId ∧
        Names s.store report.reportId report.scheduleItemId)
    (hoff : ∀ report, phase.report = some report → phase.pastCancel = true →
      ∀ id item, uuidOf report.scheduleItemId = some id → s.store.items.get id = some item →
        item.state = .cancelled)
    (hclosed : ∀ report row, phase = .returned report →
      s.store.reports.get report.reportId = some row → row.dispatchStatus = .cancelled ∧
        row.rollbackReason = some (rollbackCalls r).reason) :
    Inv uuidOf rollbackCalls store₀ (s.withRollback r phase) := by
  refine ⟨h.uuids, h.found, h.approving, h.reported, ?_, ?_, ?_, h.approved⟩
  · intro r' report hreport
    -- the call that moved is in the new phase, the others where they were
    by_cases hr : r' = r
    · subst hr
      rw [withRollback_self] at hreport
      exact hcopies report hreport
    · rw [withRollback_of_ne hr] at hreport
      exact h.copies r' report hreport
  · intro r' report hreport hpast
    by_cases hr : r' = r
    · subst hr
      rw [withRollback_self] at hreport hpast
      exact hoff report hreport hpast
    · rw [withRollback_of_ne hr] at hreport hpast
      exact h.off r' report hreport hpast
  · intro r' report row hphase hrow
    by_cases hr : r' = r
    · subst hr
      rw [withRollback_self] at hphase
      obtain ⟨hstatus, hreason⟩ := hclosed report row hphase hrow
      exact ⟨hstatus, fun _ => hreason⟩
    · rw [withRollback_of_ne hr] at hphase
      exact h.closed r' report row hphase hrow

end Invariant

/-! ## The statements keep the invariant -/

section Steps

variable {C R : Type} {uuidOf : Text → Option Text}
  {commitCalls : C → CommitCall} {rollbackCalls : R → RollbackCall} {store₀ : Store}
  {s : State C R}

lemma Inv.start (huuids : ∀ id item, store₀.items.get id = some item → uuidOf id = some id) :
    Inv uuidOf rollbackCalls store₀ (start store₀ : State C R) := by
  constructor
  case uuids => exact huuids
  case closed =>
    intro r report row hphase
    cases hphase
  case approved =>
    intro id item hitem hpublished
    exact .inl ⟨item, hitem, hpublished⟩
  all_goals
    intros
    simp_all [Schedule.start, CommitPhase.itemId, CommitPhase.report, RollbackPhase.report]

section Commits

variable [DecidableEq C] {c : C} {item : ScheduleItem} {report : CommitToAirReport}

variable (h : Inv uuidOf rollbackCalls store₀ s)
include h

lemma Inv.raised (c : C) (e : CommitError) :
    Inv uuidOf rollbackCalls store₀ (s.withCommit c (.raised e)) :=
  h.withCommit c (fun _ h => nomatch h) (fun _ _ h => nomatch h) fun _ h => nomatch h

lemma Inv.fetch (c : C) : Inv uuidOf rollbackCalls store₀ (fetch commitCalls s c) := by
  unfold Schedule.fetch
  split
  · exact h.raised c _
  · rename_i item hget
    apply h.withCommit c
    · intro id hid
      obtain ⟨row, hrow, rfl⟩ := map_eq_some_iff.mp hget
      have hkey : row.id = id := some.inj hid
      rw [← hkey, key_of_get hrow]
      exact ⟨row, hrow⟩
    · intro plan report hphase
      cases hphase
    · intro report hreport
      cases hreport

lemma Inv.judge (hphase : s.commits c = .fetched item) :
    Inv uuidOf rollbackCalls store₀
      (s.withCommit c (.judged item (s.store.assets item.assetId))) := by
  apply h.withCommit c
  · intro id hid
    exact h.found c id (by rw [hphase]; exact hid)
  · intro plan report hphase
    cases hphase
  · intro report hreport
    cases hreport

lemma Inv.approve
    {asset : Option StaffAssetRow} (hphase : s.commits c = .judged item asset) (token : Text)
    (now : ℤ) : Inv uuidOf rollbackCalls store₀ (approve commitCalls s c item asset token now) := by
  simp only [Schedule.approve]
  split
  · apply h.withCommit c
    · intro id hid
      exact h.found c id (by rw [hphase]; exact hid)
    · intro plan report hnew
      cases hnew
      rfl
    · intro report hreport
      cases hreport
  · exact h.raised c _

lemma Inv.publish {plan : CommitToAirPlan} (hphase : s.commits c = .approving plan report)
    (now : ℤ) : Inv uuidOf rollbackCalls store₀ (publish uuidOf s c plan report now) := by
  obtain ⟨item, hitem⟩ := h.found c plan.scheduleItemId (by rw [hphase]; rfl)
  have hid : report.scheduleItemId = plan.scheduleItemId := h.approving c plan report hphase
  unfold Schedule.publish
  rw [h.uuids _ item hitem]
  simp only
  split
  · exact h.raised c _
  · exact h.raised c _
  · rename_i store hcommit
    have hmoved := h.withStore (evolves_commitToAir hcommit) (h.closed_commitToAir hcommit)
      (h.approved_commitToAir hcommit hid)
    apply hmoved.withCommit c
    · intro id hid'
      have hsame : id = plan.scheduleItemId := (some.inj hid').symm.trans hid
      rw [hsame]
      exact (evolves_commitToAir hcommit).kept _ item hitem
    · intro plan' report' hnew
      cases hnew
    · intro report' hreport
      cases hreport
      exact names_commitToAir hcommit

lemma Inv.record (hphase : s.commits c = .published report) (result : DispatchResult) (now : ℤ)
    (hunhurried : Unhurried s (.record c result now)) :
    Inv uuidOf rollbackCalls store₀ (recordDispatch s c report result now) := by
  have hnames := h.reported c report (by rw [hphase]; rfl)
  obtain ⟨hreportId, hitemId⟩ := afterDispatch_ids report result
  have hnames' : Names s.store (afterDispatch report result).reportId
      (afterDispatch report result).scheduleItemId := by
    rw [hreportId, hitemId]
    exact hnames
  have hopen : ∀ row, s.store.reports.get report.reportId = some row →
      row.dispatchStatus ≠ .cancelled := by
    intro row hrow
    simpa [Unhurried, hphase, hrow] using hunhurried
  have hclosed : Closed rollbackCalls s.rollbacks
      (s.store.upsertCommitReport (afterDispatch report result) now) := by
    intro r report' row hreturned hrow
    by_cases hid : report'.reportId = report.reportId
    · -- the stored report would be cancelled
      obtain ⟨old, hold, -⟩ := hnames
      have hcancelled := (h.closed r report' old hreturned (hid ▸ hold)).1
      exact absurd hcancelled (hopen old hold)
    · rw [get_upsertCommitReport_of_ne (hreportId ▸ hid)] at hrow
      exact h.closed r report' row hreturned hrow
  have hevolves := evolves_upsertCommitReport now hnames'
  have hmoved := h.withStore hevolves hclosed (h.approved_upsert hnames')
  obtain ⟨row, hrow, hrowItem, -⟩ :=
    get_upsertCommitReport_self s.store (afterDispatch report result) now
  rw [hreportId] at hrow
  rw [hitemId] at hrowItem
  have hstored : stored (s.store.upsertCommitReport (afterDispatch report result) now) report =
      row := by
    rw [stored, hrow, getD_some]
  simp only [recordDispatch, hstored]
  apply hmoved.withCommit c
  · intro id hid
    have hsame : id = report.scheduleItemId := (some.inj hid).symm.trans hrowItem
    obtain ⟨item, hitem⟩ := h.found c report.scheduleItemId (by rw [hphase]; rfl)
    rw [hsame]
    exact hevolves.kept _ item hitem
  · intro plan report' hnew
    cases hnew
  · intro report' hreport
    cases hreport
    refine ⟨row, ?_, rfl⟩
    rw [key_of_get hrow]
    exact hrow

end Commits

section Rollbacks

variable [DecidableEq R] {report : CommitToAirReport}

variable (h : Inv uuidOf rollbackCalls store₀ s)
include h

lemma Inv.load (r : R) : Inv uuidOf rollbackCalls store₀ (load rollbackCalls s r) := by
  unfold Schedule.load
  split
  · exact h.withRollback r (fun _ h => nomatch h) (fun _ h => nomatch h) fun _ _ h => nomatch h
  · rename_i report hget
    apply h.withRollback r
    · intro report' hreport
      cases hreport
      have hkey : report.reportId = (rollbackCalls r).reportId := key_of_get hget
      refine ⟨hkey, report, ?_, rfl⟩
      rw [hkey]
      exact hget
    · intro report' hreport hpast
      cases hpast
    · intro report' row hphase
      cases hphase

lemma Inv.cancel {r : R} (hphase : s.rollbacks r = .loaded report) :
    Inv uuidOf rollbackCalls store₀ (cancelItem uuidOf s r report) := by
  obtain ⟨hid, hnames⟩ := h.copies r report (by rw [hphase]; rfl)
  unfold cancelItem
  cases huuid : uuidOf report.scheduleItemId with
  | none =>
    apply h.withRollback r
    · intro report' hreport
      cases hreport
      exact ⟨hid, hnames⟩
    · intro report' hreport _ id item hid'
      cases hreport
      rw [huuid] at hid'
      cases hid'
    · intro report' row hnew
      cases hnew
  | some id =>
    -- the item is off the air from here on
    have hoff : ∀ item, (s.store.cancel id).items.get id = some item →
        item.state = .cancelled := by
      intro item hitem
      simp only [Store.cancel, get_modify_self] at hitem
      obtain ⟨old, -, rfl⟩ := map_eq_some_iff.mp hitem
      exact cancelRow_state
    have happroved : Approved store₀ (s.store.cancel id) := by
      intro id' item hitem hpublished
      obtain ⟨old, hold, hchanged⟩ := of_get_modify Store.cancelRow_id hitem
      rcases hchanged with ⟨-, rfl⟩ | rfl
      · rw [cancelRow_state] at hpublished
        cases hpublished
      · exact h.approved id' item hold hpublished
    have hmoved := h.withStore (evolves_cancel id) h.closed happroved
    apply hmoved.withRollback r
    · intro report' hreport
      cases hreport
      exact ⟨hid, hnames⟩
    · intro report' hreport _ id' item hid' hitem
      cases hreport
      rw [huuid] at hid'
      cases hid'
      exact hoff item hitem
    · intro report' row hnew
      cases hnew

lemma Inv.finish {r : R} (hphase : s.rollbacks r = .cancelled report) (now writtenAt : ℤ) :
    Inv uuidOf rollbackCalls store₀ (finish rollbackCalls s r report now writtenAt) := by
  obtain ⟨hid, hnames⟩ := h.copies r report (by rw [hphase]; rfl)
  generalize hwritten : afterRollback report (rollbackCalls r).reason now = written
  have hnames' : Names s.store written.reportId written.scheduleItemId := by
    rw [← hwritten]
    exact hnames
  have hreportId : written.reportId = report.reportId := by
    rw [← hwritten]
    rfl
  obtain ⟨row, hrow, hrowItem, hstatus, hreason⟩ :=
    get_upsertCommitReport_self s.store written writtenAt
  rw [hreportId] at hrow
  have hrowItem' : row.scheduleItemId = report.scheduleItemId := by
    rw [hrowItem, ← hwritten]
    rfl
  have hstatus' : row.dispatchStatus = .cancelled := by
    rw [hstatus, ← hwritten]
    rfl
  have hreason' : row.rollbackReason = some (rollbackCalls r).reason := by
    rw [hreason, ← hwritten]
    rfl
  have hclosed : Closed rollbackCalls s.rollbacks
      (s.store.upsertCommitReport written writtenAt) := by
    intro r' report' row' hreturned hrow'
    by_cases hsame : report'.reportId = report.reportId
    · -- a second rollback of the report: only the reason can be another
      rw [hsame, hrow] at hrow'
      cases hrow'
      refine ⟨hstatus', ?_⟩
      intro hsole
      obtain ⟨hid', -⟩ := h.copies r' report' (by rw [hreturned]; rfl)
      have hr : r = r' := hsole r (by rw [← hid, ← hid', hsame])
      rw [hreason', hr]
    · rw [get_upsertCommitReport_of_ne (hreportId ▸ hsame)] at hrow'
      exact h.closed r' report' row' hreturned hrow'
  have hevolves := evolves_upsertCommitReport writtenAt hnames'
  have hmoved := h.withStore hevolves hclosed (h.approved_upsert hnames')
  have hstored : stored (s.store.upsertCommitReport written writtenAt) report = row := by
    rw [stored, hrow, getD_some]
  have hkey : row.reportId = report.reportId := key_of_get hrow
  simp only [Schedule.finish, hwritten, hstored]
  apply hmoved.withRollback r
  · intro report' hreport
    cases hreport
    refine ⟨hkey.trans hid, row, ?_, rfl⟩
    rw [hkey]
    exact hrow
  · intro report' hreport _ id item hid' hitem
    cases hreport
    rw [hrowItem'] at hid'
    exact h.off r report (by rw [hphase]; rfl) (by rw [hphase]; rfl) id item hid' hitem
  · intro report' row' hnew hrow'
    cases hnew
    rw [hkey, hrow] at hrow'
    cases hrow'
    exact ⟨hstatus', hreason'⟩

end Rollbacks

lemma Inv.step [DecidableEq C] [DecidableEq R] (h : Inv uuidOf rollbackCalls store₀ s)
    (a : Action C R) (hunhurried : Unhurried s a) :
    Inv uuidOf rollbackCalls store₀ (act uuidOf commitCalls rollbackCalls s a) := by
  cases a with
  | fetch c =>
    simp only [act]
    split
    · exact h.fetch c
    · exact h
  | judge c =>
    simp only [act]
    split
    · rename_i hphase
      exact h.judge hphase
    · exact h
  | approve c token now =>
    simp only [act]
    split
    · rename_i hphase
      exact h.approve hphase token now
    · exact h
  | publish c now =>
    simp only [act]
    split
    · rename_i hphase
      exact h.publish hphase now
    · exact h
  | record c result now =>
    simp only [act]
    split
    · rename_i hphase
      exact h.record hphase result now hunhurried
    · exact h
  | load r =>
    simp only [act]
    split
    · exact h.load r
    · exact h
  | cancel r =>
    simp only [act]
    split
    · rename_i hphase
      exact h.cancel hphase
    · exact h
  | finish r now writtenAt =>
    simp only [act]
    split
    · rename_i hphase
      exact h.finish hphase now writtenAt
    · exact h

end Steps

/-! ## Whole runs -/

section Runs

variable {C R : Type} [DecidableEq C] [DecidableEq R] {uuidOf : Text → Option Text}
  {commitCalls : C → CommitCall} {rollbackCalls : R → RollbackCall} {store : Store}
  {s s' : State C R} {r : R} {copy : CommitToAirReport}

lemma act_kept {id : Text} {item : ScheduleItem} (h : s.store.items.get id = some item)
    (a : Action C R) :
    ∃ item', (act uuidOf commitCalls rollbackCalls s a).store.items.get id = some item' := by
  cases a with
  | fetch c =>
    simp only [act, fetch]
    repeat' split
    all_goals exact ⟨item, h⟩
  | judge c =>
    simp only [act]
    split <;> exact ⟨item, h⟩
  | approve c token now =>
    simp only [act, approve]
    repeat' split
    all_goals exact ⟨item, h⟩
  | publish c now =>
    -- of the steps of a commit only this one writes an item
    simp only [act, publish]
    repeat' split
    all_goals first
      | exact ⟨item, h⟩
      | rename_i hcommit
        exact (evolves_commitToAir hcommit).kept id item h
  | record c result now =>
    simp only [act]
    split <;> exact ⟨item, h⟩
  | load r =>
    simp only [act, load]
    repeat' split
    all_goals exact ⟨item, h⟩
  | cancel r =>
    simp only [act]
    split
    · rename_i report hphase
      simp only [cancelItem]
      cases uuidOf report.scheduleItemId with
      | none => exact ⟨item, h⟩
      | some id' => exact (evolves_cancel id').kept id item h
    · exact ⟨item, h⟩
  | finish r now writtenAt =>
    simp only [act]
    split <;> exact ⟨item, h⟩

lemma act_returned (h : s.rollbacks r = .returned copy) (a : Action C R) :
    (act uuidOf commitCalls rollbackCalls s a).rollbacks r = .returned copy := by
  have hother : ∀ (r' : R) (phase : RollbackPhase), r' ≠ r →
      (s.withRollback r' phase).rollbacks r = .returned copy := by
    intro r' phase hne
    rw [withRollback_of_ne (Ne.symm hne), h]
  cases a with
  | fetch c =>
    simp only [act, fetch]
    repeat' split
    all_goals exact h
  | judge c =>
    simp only [act]
    split <;> exact h
  | approve c token now =>
    simp only [act, approve]
    repeat' split
    all_goals exact h
  | publish c now =>
    simp only [act, publish]
    repeat' split
    all_goals exact h
  | record c result now =>
    simp only [act]
    split <;> exact h
  | load r' =>
    simp only [act, load]
    split
    · rename_i hphase
      -- a rollback that has returned does not load again
      have hne : r' ≠ r := fun heq => by simp [heq, h] at hphase
      split <;> exact hother r' _ hne
    · exact h
  | cancel r' | finish r' now writtenAt =>
    simp only [act]
    split
    · rename_i hphase
      exact hother r' _ fun heq => by simp [heq, h] at hphase
    · exact h

/-- The report says that the approval was rolled back, and the item is off. -/
def Undone (rollbackCalls : R → RollbackCall) (s : State C R) (r : R)
    (report : CommitToAirReport) : Prop :=
  (∃ row, s.store.reports.get report.reportId = some row ∧ row.dispatchStatus = .cancelled ∧
      (Sole rollbackCalls r → row.rollbackReason = some (rollbackCalls r).reason)) ∧
    ∃ item, s.store.items.get report.scheduleItemId = some item ∧ item.state = .cancelled

def RollbackReturned (rollbackCalls : R → RollbackCall) (s : State C R) (c : C) (r : R)
    (report : CommitToAirReport) : Prop :=
  (s.commits c).report = some report ∧ (rollbackCalls r).reportId = report.reportId ∧
    ∃ copy, s.rollbacks r = .returned copy

/-- In an unhurried run every published item has a report, that of the commit among them; and once
a rollback of it has returned, the approval is undone in every later state. -/
theorem rolled_back_stays
    (huuids : ∀ id item, store.items.get id = some item → uuidOf id = some id)
    (h : Runs.Reached (act uuidOf commitCalls rollbackCalls) Unhurried (start store) s) :
    Approved store s.store ∧
      (∀ c report, (s.commits c).report = some report →
        Names s.store report.reportId report.scheduleItemId) ∧
      ∀ c r report, RollbackReturned rollbackCalls s c r report →
        ∀ s', Runs.Reached (act uuidOf commitCalls rollbackCalls) Unhurried s s' →
          Undone rollbackCalls s' r report := by
  have hinv : Inv uuidOf rollbackCalls store s :=
    h.invariant (Inv.start huuids) fun s a hs ha => hs.step a ha
  refine ⟨hinv.approved, hinv.reported, ?_⟩
  rintro c r report ⟨hreport, hid, copy, hreturned⟩ s' hlater
  obtain ⟨item, hitem⟩ := hinv.found c report.scheduleItemId (by
    cases hphase : s.commits c <;> simp_all [CommitPhase.report, CommitPhase.itemId])
  -- the copy of the rollback is about the same item
  obtain ⟨hcopyId, rowCopy, hrowCopy, hcopyItem⟩ := hinv.copies r copy (by rw [hreturned]; rfl)
  obtain ⟨row, hrow, hrowItem⟩ := hinv.reported c report hreport
  have hsameId : copy.reportId = report.reportId := hcopyId.trans hid
  have hsameItem : copy.scheduleItemId = report.scheduleItemId := by
    rw [hsameId, hrow] at hrowCopy
    cases hrowCopy
    rw [← hcopyItem, hrowItem]
  have hkept : Inv uuidOf rollbackCalls store s' ∧ s'.rollbacks r = .returned copy ∧
      ∃ item', s'.store.items.get report.scheduleItemId = some item' := by
    apply hlater.invariant ⟨hinv, hreturned, item, hitem⟩
    rintro t a ⟨ht, htreturned, item', hitem'⟩ ha
    exact ⟨ht.step a ha, act_returned htreturned a, act_kept hitem' a⟩
  obtain ⟨hinv', hreturned', item', hitem'⟩ := hkept
  obtain ⟨-, row', hrow', -⟩ := hinv'.copies r copy (by rw [hreturned']; rfl)
  obtain ⟨hstatus, hreason⟩ := hinv'.closed r copy row' hreturned' hrow'
  have huuid := hinv'.uuids _ item' hitem'
  refine ⟨⟨row', hsameId ▸ hrow', hstatus, hreason⟩, item', hitem', ?_⟩
  exact hinv'.off r copy (by rw [hreturned']; rfl) (by rw [hreturned']; rfl)
    report.scheduleItemId item' (hsameItem.symm ▸ huuid) hitem'

end Runs

/-! ## Runs of one commit and one rollback -/

def councilItem : ScheduleItem where
  id := "6ba7b810-9dad-11d1-80b4-00c04fd430c8".toList
  channelId := "gov".toList
  state := .scheduled
  mode := .premiere
  scheduledAt := 0
  durationSeconds := some 60
  assetId := "council".toList

def councilAsset : StaffAssetRow where
  title := "Council".toList
  state := .validated
  filePath := some "/media/council.mp4".toList
  durationSeconds := some 60
  trimInSeconds := none
  trimOutSeconds := none

def councilStore : Store where
  items := ⟨[councilItem], by simp⟩
  reports := Table.empty
  assets _ := some councilAsset

/-- `str(uuid.UUID(text))` on texts with hyphens. -/
def hyphenated (text : Text) : Option Text := if text.length = 36 then some text else none

def approval : CommitCall := ⟨"occurrence".toList, councilItem.id, "clerk".toList, none⟩

def withdrawal : RollbackCall := ⟨"ctar_a".toList, "wrong meeting".toList, "clerk".toList⟩

abbrev councilAct : State Unit Unit → Action Unit Unit → State Unit Unit :=
  act hyphenated (fun _ => approval) fun _ => withdrawal

def approvalRun : List (Action Unit Unit) :=
  [.fetch (), .judge (), .approve () "a".toList 1, .publish () 1]

def withdrawalRun : List (Action Unit Unit) := [.load (), .cancel (), .finish () 3 3]

def queuedReport : CommitToAirReport where
  reportId := "ctar_a".toList
  channelId := "gov".toList
  occurrenceId := "occurrence".toList
  scheduleItemId := councilItem.id
  assetId := "council".toList
  title := "Council".toList
  scheduledAt := 0
  durationSeconds := 60
  approvedByOperatorId := "clerk".toList
  approvedAt := 1
  conflictsFound := 0
  gapsFound := 0
  dispatchStatus := .queued
  dispatchErrorDetail := none
  dispatchTimestamp := some 2
  operatorNotes := none
  rollbackReason := none
  rolledBackAt := none
  createdAt := 1
  updatedAt := 2

/-- The commit comes to its end, then the rollback. -/
def orderlyRun : List (Action Unit Unit) :=
  approvalRun ++ .record () (.dispatched 2) 2 :: withdrawalRun

theorem rollback_after_commit_stays :
    RollbackReturned (fun _ => withdrawal) (orderlyRun.foldl councilAct (start councilStore)) () ()
        queuedReport ∧
      Undone (fun _ => withdrawal) (orderlyRun.foldl councilAct (start councilStore)) ()
        queuedReport := by
  have hreturned : RollbackReturned (fun _ => withdrawal)
      (orderlyRun.foldl councilAct (start councilStore)) () () queuedReport :=
    ⟨by decide, by decide, _, by rfl⟩
  have huuids : ∀ id item, councilStore.items.get id = some item → hyphenated id = some id := by
    intro id item hitem
    have hrow : item = councilItem := List.mem_singleton.mp (mem_of_get hitem)
    rw [← key_of_get hitem, hrow]
    rfl
  have hreached : Runs.Reached councilAct Unhurried (start councilStore)
      (orderlyRun.foldl councilAct (start councilStore)) :=
    Runs.reached_of_meets (by decide)
  exact ⟨hreturned, (rolled_back_stays huuids hreached).2.2 _ _ _ hreturned _ .start⟩

/-- The rollback runs while the commit is at its dispatch. -/
theorem commit_undoes_rollback :
    ¬ ∀ s, Runs.Reached councilAct (fun _ _ => True) (start councilStore) s →
      ∀ c r report, RollbackReturned (fun _ => withdrawal) s c r report →
        ∀ s', Runs.Reached councilAct (fun _ _ => True) s s' →
          Undone (fun _ => withdrawal) s' r report := by
  intro hundone
  let s := (approvalRun ++ withdrawalRun).foldl councilAct (start councilStore)
  have hreached : Runs.Reached councilAct (fun _ _ => True) (start councilStore) s :=
    Runs.reached_of_meets (by decide)
  have hlater : Runs.Reached councilAct (fun _ _ => True) s
      (councilAct s (.record () (.dispatched 2) 2)) :=
    Runs.Reached.start.step _ trivial
  have hreturned : RollbackReturned (fun _ => withdrawal) s () ()
      { queuedReport with dispatchStatus := .pending, dispatchTimestamp := none, updatedAt := 1 } :=
    ⟨by decide, by decide, _, by rfl⟩
  obtain ⟨⟨row, hrow, hstatus, -⟩, -⟩ := hundone s hreached () () _ hreturned _ hlater
  have hqueued : (councilAct s (.record () (.dispatched 2) 2)).store.reports.get
      "ctar_a".toList = some queuedReport := by decide
  have hsame : some queuedReport = some row := hqueued.symm.trans hrow
  cases hsame
  cases hstatus

end CivicCast.Schedule
