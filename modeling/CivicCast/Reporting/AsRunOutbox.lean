import CivicCast.Lib.Table

/-! # The as-run outbox

The outbox journals every as-run write in a local SQLite table before anything
touches the reporting database, and drains the journal into the ledger: read the
pending rows in order, apply each to the store, mark it drained. The outbox lock
covers the read of a batch and the marking of one row, never a whole drain, so the
steps of two drains interleave freely and a batch can be stale when it is applied.

A step of the model is one journal statement or one `ReportingStore` method, each
of them atomic. Each can fail, before it took effect or after.

* `Journal`, `Ledger` are the two tables with the operations the code performs.
* `Pc` is where a thread stands inside a call; `step` is one step of the system.
* `Inv` ties the ledger to the journal; it is kept by every step that does not put
  an open back over an entry that was closed meanwhile.
-/

namespace CivicCast.Reporting

open List Option

/-- Instants and their differences, in microseconds. -/
abbrev Instant := Int

inductive SourceKind where
  | program
  | filler
  | live
  | slate
  | spot
deriving DecidableEq

/-- One as-aired record. -/
structure AsRunLogEntry where
  entryId : String
  stationId : String
  channelId : String
  scheduleItemId : Option String
  assetId : Option String
  scheduledStart : Option Instant
  actualStart : Instant
  actualEnd : Instant
  durationS : Int
  sourceKind : SourceKind
  verified : Bool
  createdAt : Instant
  updatedAt : Instant
deriving DecidableEq

/-! ## The ledger -/

/-- The `as_run_log` table, with its primary key. -/
abbrev Ledger := Lib.Table AsRunLogEntry String AsRunLogEntry.entryId

namespace Ledger

/-- Upsert by `entry_id`; an existing row keeps only its `created_at`. -/
def appendAsRun (now : Instant) (entry : AsRunLogEntry) (l : Ledger) : Ledger :=
  l.upsert { entry with updatedAt := now }
    (fun row => { entry with
      entryId := row.entryId, createdAt := row.createdAt, updatedAt := now })
    fun _ => rfl

/-- One guarded `UPDATE`: only a row whose `duration_s` is still 0 is closed. -/
def closeEntry (now : Instant) (entryId : String) (actualEnd : Instant) (durationS : Int)
    (l : Ledger) : Ledger :=
  l.modify entryId
    (fun row =>
      if row.durationS = 0 then
        { row with actualEnd := actualEnd, durationS := durationS, updatedAt := now }
      else row)
    (by intro row; split <;> rfl)

variable {now : Instant} {entry : AsRunLogEntry} {l : Ledger} {id : String}
  {actualEnd : Instant} {durationS : Int}

lemma get_appendAsRun_self (now : Instant) (entry : AsRunLogEntry) (l : Ledger) :
    ∃ row, (appendAsRun now entry l).get entry.entryId = some row ∧
    row.actualEnd = entry.actualEnd ∧ row.durationS = entry.durationS := by
  refine ⟨_, Lib.Table.get_upsert_self, ?_⟩
  cases l.get entry.entryId with
  | none | some row => exact ⟨rfl, rfl⟩

lemma get_appendAsRun_of_ne (h : id ≠ entry.entryId) :
    (appendAsRun now entry l).get id = l.get id :=
  Lib.Table.get_upsert_of_ne h

lemma get_closeEntry_self : (closeEntry now id actualEnd durationS l).get id =
    (l.get id).map fun row =>
      if row.durationS = 0 then
        { row with actualEnd := actualEnd, durationS := durationS, updatedAt := now }
      else row :=
  Lib.Table.get_modify_self _

lemma get_closeEntry_of_ne {id' : String} (h : id' ≠ id) :
    (closeEntry now id actualEnd durationS l).get id' = l.get id' :=
  Lib.Table.get_modify_of_ne _ h

end Ledger

/-! ## The journal -/

/-- What a journaled row asks of the store: the parsed payload. -/
inductive OutboxOp where
  | append (entry : AsRunLogEntry)
  | close (entryId : String) (actualEnd : Instant) (durationS : Int)
deriving DecidableEq

namespace OutboxOp

/-- The stable id of an operation, by which the journal recognises a repeat. -/
def eventId : OutboxOp → String
  | append entry => "asrun-open:" ++ entry.entryId
  | close id _ _ => "asrun-close:" ++ id

end OutboxOp

/-- An operation handed to the outbox. Rows are only built by `makeAppendOp` and
`makeCloseOp`, so the event id is the one of the operation. -/
structure OutboxRow where
  eventId : String
  channelId : String
  op : OutboxOp
  eventId_eq : eventId = op.eventId
deriving DecidableEq

def makeAppendOp (entry : AsRunLogEntry) : OutboxRow where
  eventId := "asrun-open:" ++ entry.entryId
  channelId := entry.channelId
  op := .append entry
  eventId_eq := rfl

def makeCloseOp (channelId entryId : String) (actualEnd : Instant) (durationS : Int) :
    OutboxRow where
  eventId := "asrun-close:" ++ entryId
  channelId := channelId
  op := .close entryId actualEnd durationS
  eventId_eq := rfl

/-- The columns a drain reads. -/
structure PendingRow extends OutboxRow where
  seq : Nat
deriving DecidableEq

/-- A row of the `asrun_outbox` table. -/
structure JournalRow extends PendingRow where
  createdAt : Instant
  drainedAt : Option Instant
deriving DecidableEq

/-- The `asrun_outbox` table: `seq` is an autoincremented primary key and
`event_id` is unique. -/
structure Journal where
  rows : List JournalRow
  nextSeq : Nat
  ordered : rows.Pairwise fun r r' => r.seq < r'.seq
  bounded : ∀ r ∈ rows, r.seq < nextSeq
  unique : (rows.map fun r => r.eventId).Nodup

namespace Journal

def empty : Journal where
  rows := []
  nextSeq := 1
  ordered := List.Pairwise.nil
  bounded := by simp
  unique := List.nodup_nil

def newRow (j : Journal) (now : Instant) (op : OutboxRow) : JournalRow :=
  { op with seq := j.nextSeq, createdAt := now, drainedAt := none }

def mentions (j : Journal) (eventId : String) : Bool :=
  j.rows.any fun r => r.eventId = eventId

/-- `INSERT OR IGNORE`: an event id already journaled leaves the table alone. -/
def insertOrIgnore (j : Journal) (now : Instant) (op : OutboxRow) : Journal :=
  if hnew : j.mentions op.eventId then j
  else
    { rows := j.rows ++ [j.newRow now op]
      nextSeq := j.nextSeq + 1
      ordered := by
        rw [List.pairwise_append]
        refine ⟨j.ordered, List.pairwise_singleton _ _, ?_⟩
        intro r hr r' hr'
        have hr' : r' = j.newRow now op := by simpa using hr'
        rw [hr']
        exact j.bounded r hr
      bounded := by
        intro r hr
        rcases List.mem_append.mp hr with hr | hr
        · exact Nat.lt_succ_of_lt (j.bounded r hr)
        · have hr : r = j.newRow now op := by simpa using hr
          rw [hr]
          exact Nat.lt_succ_self _
      unique := by
        rw [List.map_append, List.nodup_append]
        refine ⟨j.unique, List.nodup_singleton _, ?_⟩
        intro e he e' he'
        have he' : e' = op.eventId := by simpa [newRow] using he'
        rw [he']
        rintro rfl
        rcases List.mem_map.mp he with ⟨r, hr, hre⟩
        apply hnew
        rw [mentions, List.any_eq_true]
        exact ⟨r, hr, by simpa using hre⟩ }

/-- Set `drained_at` on one row. -/
def drainRow (now : Instant) (seq : Nat) (r : JournalRow) : JournalRow :=
  if r.seq = seq then { r with drainedAt := some now } else r

@[simp] lemma drainRow_toPendingRow {now : Instant} {seq : Nat} {r : JournalRow} :
    (drainRow now seq r).toPendingRow = r.toPendingRow := by
  unfold drainRow
  split <;> rfl

/-- `UPDATE asrun_outbox SET drained_at = now WHERE seq = seq`. -/
def markDrained (j : Journal) (now : Instant) (seq : Nat) : Journal where
  rows := j.rows.map (drainRow now seq)
  nextSeq := j.nextSeq
  ordered := by
    rw [List.pairwise_map]
    simpa using j.ordered
  bounded := by
    intro r hr
    rcases List.mem_map.mp hr with ⟨r₀, hr₀, rfl⟩
    simpa using j.bounded r₀ hr₀
  unique := by
    have heq : (j.rows.map (drainRow now seq)).map (fun r => r.eventId)
        = j.rows.map fun r => r.eventId := by
      rw [List.map_map]
      apply List.map_congr_left
      intro r _
      simp
    rw [heq]
    exact j.unique

/-- The rows not yet drained, oldest first. -/
def pending (j : Journal) : List PendingRow :=
  (j.rows.filter fun r => r.drainedAt.isNone).map (·.toPendingRow)

/-- The batch of one drain: SQLite reads a negative `LIMIT` as none. -/
def selectPending (j : Journal) (maxBatch : Int) : List PendingRow :=
  if maxBatch < 0 then j.pending else j.pending.take maxBatch.toNat

def AllDrained (j : Journal) : Prop := ∀ r ∈ j.rows, r.drainedAt.isSome

instance (j : Journal) : Decidable j.AllDrained :=
  inferInstanceAs (Decidable (∀ r ∈ j.rows, r.drainedAt.isSome))

/-- The row is journaled. -/
def Has (j : Journal) (p : PendingRow) : Prop := ∃ r ∈ j.rows, r.toPendingRow = p

def Drained (j : Journal) (p : PendingRow) : Prop :=
  ∃ r ∈ j.rows, r.toPendingRow = p ∧ r.drainedAt.isSome

variable {j : Journal} {now : Instant} {op : OutboxRow} {p q : PendingRow} {seq : Nat}

lemma Drained.has (h : j.Drained p) : j.Has p := by
  rcases h with ⟨r, hr, hp, _⟩
  exact ⟨r, hr, hp⟩

lemma Has.eq_of_eventId (hp : j.Has p) (hq : j.Has q) (h : p.eventId = q.eventId) : p = q := by
  rcases hp with ⟨r, hr, rfl⟩
  rcases hq with ⟨r', hr', rfl⟩
  rw [inj_on_of_nodup_map j.unique hr hr' h]

lemma Has.eq_of_seq (hp : j.Has p) (hq : j.Has q) (h : p.seq = q.seq) : p = q := by
  rcases hp with ⟨r, hr, rfl⟩
  rcases hq with ⟨r', hr', rfl⟩
  have hseq : (j.rows.map fun r => r.seq).Nodup := by
    rw [List.Nodup, pairwise_map]
    exact j.ordered.imp fun hlt => Nat.ne_of_lt hlt
  rw [inj_on_of_nodup_map hseq hr hr' h]

lemma Has.lt_nextSeq (hp : j.Has p) : p.seq < j.nextSeq := by
  rcases hp with ⟨r, hr, rfl⟩
  exact j.bounded r hr

lemma has_insertOrIgnore : (j.insertOrIgnore now op).Has p ↔
    j.Has p ∨ j.mentions op.eventId = false ∧ p = (j.newRow now op).toPendingRow := by
  unfold insertOrIgnore
  split
  · rename_i hold
    simp [hold]
  · rename_i hnew
    have hnew : j.mentions op.eventId = false := by simpa using hnew
    simp only [Has, mem_append, mem_singleton, hnew, true_and]
    constructor
    · rintro ⟨r, hr | rfl, rfl⟩
      · exact .inl ⟨r, hr, rfl⟩
      · exact .inr rfl
    · rintro (⟨r, hr, rfl⟩ | rfl)
      · exact ⟨r, .inl hr, rfl⟩
      · exact ⟨_, .inr rfl, rfl⟩

@[simp] lemma drained_insertOrIgnore : (j.insertOrIgnore now op).Drained p ↔ j.Drained p := by
  unfold insertOrIgnore
  split
  · exact .rfl
  · simp only [Drained, mem_append, mem_singleton]
    constructor
    · rintro ⟨r, hr | rfl, rfl, hdrained⟩
      · exact ⟨r, hr, rfl, hdrained⟩
      · simp [newRow] at hdrained
    · rintro ⟨r, hr, rfl, hdrained⟩
      exact ⟨r, .inl hr, rfl, hdrained⟩

@[simp] lemma has_markDrained : (j.markDrained now seq).Has p ↔ j.Has p := by
  simp only [Has, markDrained, List.mem_map]
  constructor
  · rintro ⟨_, ⟨r, hr, rfl⟩, rfl⟩
    exact ⟨r, hr, by simp⟩
  · rintro ⟨r, hr, rfl⟩
    exact ⟨_, ⟨r, hr, rfl⟩, by simp⟩

lemma drained_markDrained :
    (j.markDrained now seq).Drained p ↔ j.Drained p ∨ j.Has p ∧ p.seq = seq := by
  simp only [Drained, Has, markDrained, List.mem_map]
  constructor
  · rintro ⟨_, ⟨r, hr, rfl⟩, rfl, hdrained⟩
    by_cases hseq : r.seq = seq
    · exact .inr ⟨⟨r, hr, by simp⟩, by simpa using hseq⟩
    · refine .inl ⟨r, hr, by simp, ?_⟩
      simpa [drainRow, hseq] using hdrained
  · rintro (⟨r, hr, rfl, hdrained⟩ | ⟨⟨r, hr, rfl⟩, rfl⟩)
    · refine ⟨_, ⟨r, hr, rfl⟩, by simp, ?_⟩
      unfold drainRow
      split
      · rfl
      · exact hdrained
    · exact ⟨_, ⟨r, hr, rfl⟩, by simp, by simp [drainRow]⟩

lemma mem_pending : p ∈ j.pending ↔ ∃ r ∈ j.rows, r.toPendingRow = p ∧ r.drainedAt = none := by
  simp only [pending, List.mem_map, mem_filter, isNone_iff_eq_none]
  constructor
  · rintro ⟨r, ⟨hr, hnone⟩, rfl⟩
    exact ⟨r, hr, rfl, hnone⟩
  · rintro ⟨r, hr, rfl, hnone⟩
    exact ⟨r, ⟨hr, hnone⟩, rfl⟩

lemma pending_ordered : j.pending.Pairwise fun p q => p.seq < q.seq := by
  rw [pending, pairwise_map]
  exact j.ordered.filter _

lemma selectPending_isPrefix (j : Journal) (maxBatch : Int) :
    j.selectPending maxBatch <+: j.pending := by
  unfold selectPending
  split
  · exact prefix_rfl
  · exact take_prefix _ _

end Journal

/-! ## Batches -/

/-- What a drain knows about the rest of its batch: the rows are journaled and in
order, and every older row of the journal is drained or still ahead in the batch. -/
structure Batch (j : Journal) (batch : List PendingRow) : Prop where
  ordered : batch.Pairwise fun p q => p.seq < q.seq
  journaled : ∀ p ∈ batch, j.Has p
  complete : ∀ p ∈ batch, ∀ q, j.Has q → q.seq < p.seq → j.Drained q ∨ q ∈ batch

namespace Batch

variable {j : Journal} {now : Instant} {op : OutboxRow} {p q : PendingRow}
  {batch rest : List PendingRow} {seq : Nat}

lemma select {j : Journal} {maxBatch : Int} : Batch j (j.selectPending maxBatch) := by
  rcases j.selectPending_isPrefix maxBatch with ⟨behind, hsplit⟩
  have hordered := j.pending_ordered
  rw [← hsplit, pairwise_append] at hordered
  constructor
  · exact hordered.1
  · intro p hp
    have hpending : p ∈ j.pending := hsplit ▸ mem_append_left _ hp
    rcases Journal.mem_pending.mp hpending with ⟨r, hr, hrp, _⟩
    exact ⟨r, hr, hrp⟩
  · intro p hp q hq hlt
    rcases hq with ⟨r, hr, rfl⟩
    by_cases hnone : r.drainedAt = none
    · right
      have hpending : r.toPendingRow ∈ j.pending := Journal.mem_pending.mpr ⟨r, hr, rfl, hnone⟩
      rw [← hsplit] at hpending
      rcases mem_append.mp hpending with hmem | hmem
      · exact hmem
      · -- a row behind the batch is younger than every row of the batch
        have hgt := hordered.2.2 p hp _ hmem
        omega
    · left
      exact ⟨r, hr, rfl, isSome_iff_ne_none.mpr hnone⟩

lemma drained_of_lt (h : Batch j (p :: rest)) (hq : j.Has q) (hlt : q.seq < p.seq) :
    j.Drained q := by
  rcases h.complete p (mem_cons_self) q hq hlt with hdrained | hmem
  · exact hdrained
  · rcases mem_cons.mp hmem with rfl | hmem
    · omega
    · have hgt := rel_of_pairwise_cons h.ordered hmem
      omega

/-- Journaling a row does not disturb a batch: the new row is the youngest. -/
lemma insertOrIgnore (h : Batch j batch) : Batch (j.insertOrIgnore now op) batch := by
  constructor
  · exact h.ordered
  · intro p hp
    exact Journal.has_insertOrIgnore.mpr (.inl (h.journaled p hp))
  · intro p hp q hq hlt
    rw [Journal.drained_insertOrIgnore]
    rcases Journal.has_insertOrIgnore.mp hq with hq | ⟨_, rfl⟩
    · exact h.complete p hp q hq hlt
    · have hbound := (h.journaled p hp).lt_nextSeq
      simp only [Journal.newRow] at hlt
      omega

lemma markDrained (h : Batch j batch) : Batch (j.markDrained now seq) batch := by
  constructor
  · exact h.ordered
  · intro p hp
    exact Journal.has_markDrained.mpr (h.journaled p hp)
  · intro p hp q hq hlt
    rcases h.complete p hp q (Journal.has_markDrained.mp hq) hlt with hdrained | hmem
    · exact .inl (Journal.drained_markDrained.mpr (.inl hdrained))
    · exact .inr hmem

lemma tail (h : Batch j (p :: rest)) (hp : j.Drained p) : Batch j rest := by
  constructor
  · exact h.ordered.of_cons
  · intro q hq
    exact h.journaled q (mem_cons_of_mem _ hq)
  · intro q hq q' hq' hlt
    rcases h.complete q (mem_cons_of_mem _ hq) q' hq' hlt with hdrained | hmem
    · exact .inl hdrained
    · rcases mem_cons.mp hmem with rfl | hmem
      · exact .inl hp
      · exact .inr hmem

end Batch

/-! ## Threads and steps -/

/-- How a statement or a store method ends: it returns, it fails without effect,
or it takes effect and raises all the same. -/
inductive Outcome where
  | done
  | failed
  | lost
deriving DecidableEq

namespace Outcome

def returns : Outcome → Bool
  | done => true
  | _ => false

def lands : Outcome → Bool
  | failed => false
  | _ => true

end Outcome

/-- A drain in progress: its batch limit, and whether `replay_pending` repeats it
for as long as it makes progress. -/
structure DrainCall where
  maxBatch : Int
  replay : Bool
deriving DecidableEq

def defaultMaxBatch : Int := 500

/-- Where a thread stands. -/
inductive Pc where
  | idle
  /-- About to read and set the replay flag in `ensure_started`. -/
  | ensuring
  /-- About to read a batch. -/
  | selecting (c : DrainCall)
  /-- In the drain loop, with the rest of the batch and the rows drained so far. -/
  | applying (c : DrainCall) (batch : List PendingRow) (drained : Nat)
  /-- The store has applied `row`; it is not marked yet. -/
  | marking (c : DrainCall) (row : PendingRow) (rest : List PendingRow) (drained : Nat)
  /-- Out of the loop, about to count the remaining rows for the health report. -/
  | counting (c : DrainCall) (drained : Nat)

namespace Pc

/-- The rows the thread has read and not yet marked. -/
def batch : Pc → List PendingRow
  | applying _ batch _ => batch
  | marking _ row rest _ => row :: rest
  | _ => []

def next : Pc → Option PendingRow
  | applying _ (row :: _) _ => some row
  | _ => none

/-- The row the store has applied and the thread is about to mark. -/
def applied : Pc → Option PendingRow
  | marking _ row _ _ => some row
  | _ => none

end Pc

/-- The two tables, the replay flag of the process, and its threads. -/
structure State (T : Type) where
  journal : Journal
  ledger : Ledger
  didStartupReplay : Bool
  pc : T → Pc

/-- Nothing journaled, nothing aired. -/
def State.init (T : Type) : State T where
  journal := .empty
  ledger := .empty
  didStartupReplay := false
  pc := fun _ => .idle

/-- Apply one journaled operation to the store. -/
def applyOp (now : Instant) : OutboxOp → Ledger → Ledger
  | .append entry => Ledger.appendAsRun now entry
  | .close id actualEnd durationS => Ledger.closeEntry now id actualEnd durationS

inductive Event (T : Type) where
  /-- An idle thread calls `append_and_drain`: the journal statement. -/
  | appendAndDrain (t : T) (op : OutboxRow) (now : Instant) (outcome : Outcome)
  | ensureStarted (t : T)
  | replayPending (t : T)
  | drainOnce (t : T) (maxBatch : Int)
  /-- A thread inside a call takes its next step. -/
  | advance (t : T) (now : Instant) (outcome : Outcome)
  /-- The process dies and comes back on the same journal. -/
  | crash

namespace State

variable {T : Type} [DecidableEq T]

def setPc (s : State T) (t : T) (pc : Pc) : State T :=
  { s with pc := Function.update s.pc t pc }

/-- `ensure_started`, under the lock: replay on the first call only. -/
def ensureStarted (s : State T) (t : T) : State T :=
  { s with didStartupReplay := true }.setPc t
    (.selecting { maxBatch := defaultMaxBatch, replay := !s.didStartupReplay })

/-- The next step of a thread that is inside a call. -/
def advance (s : State T) (t : T) (now : Instant) (outcome : Outcome) : Option (State T) :=
  match s.pc t with
  | .idle => none
  | .ensuring => some (s.ensureStarted t)
  | .selecting c =>
    -- an exception of the read leaves the call
    if outcome.returns then
      some (s.setPc t (.applying c (s.journal.selectPending c.maxBatch) 0))
    else some (s.setPc t .idle)
  | .applying c [] drained => some (s.setPc t (.counting c drained))
  | .applying c (row :: rest) drained =>
    let ledger := if outcome.lands then applyOp now row.op s.ledger else s.ledger
    -- the first failing row ends the loop and stays pending
    let pc := if outcome.returns then .marking c row rest drained else .counting c drained
    some ({ s with ledger := ledger }.setPc t pc)
  | .marking c row rest drained =>
    let journal := if outcome.lands then s.journal.markDrained now row.seq else s.journal
    let pc := if outcome.returns then .applying c rest (drained + 1) else .idle
    some ({ s with journal := journal }.setPc t pc)
  | .counting c drained =>
    let pc := if outcome.returns && c.replay && drained != 0 then .selecting c else .idle
    some (s.setPc t pc)

/-- One step; `none` when the thread cannot take it. -/
def step (s : State T) : Event T → Option (State T)
  | .appendAndDrain t op now outcome =>
    match s.pc t with
    | .idle =>
      let journal := if outcome.lands then s.journal.insertOrIgnore now op else s.journal
      let pc := if outcome.returns then .ensuring else .idle
      some ({ s with journal := journal }.setPc t pc)
    | _ => none
  | .ensureStarted t =>
    match s.pc t with
    | .idle => some (s.setPc t .ensuring)
    | _ => none
  | .replayPending t =>
    match s.pc t with
    | .idle => some (s.setPc t (.selecting { maxBatch := defaultMaxBatch, replay := true }))
    | _ => none
  | .drainOnce t maxBatch =>
    match s.pc t with
    | .idle => some (s.setPc t (.selecting { maxBatch := maxBatch, replay := false }))
    | _ => none
  | .advance t now outcome => s.advance t now outcome
  | .crash => some { s with didStartupReplay := false, pc := fun _ => .idle }

def run : State T → List (Event T) → Option (State T)
  | s, [] => some s
  | s, ev :: rest => (s.step ev).bind fun s' => s'.run rest

end State

end CivicCast.Reporting
