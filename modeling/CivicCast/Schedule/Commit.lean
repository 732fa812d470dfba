import CivicCast.Egress.SourcePlan
import CivicCast.Lib.Table

/-!
# Commit to Air

The reports of approvals, the calls of the schedule store that approve and cancel an item, and the
dry run that comes before an approval: the playability of the asset, the items of the channel
that overlap, and the dead air before it. Instants are in microseconds.
-/

namespace CivicCast.Schedule

open Lib Egress

inductive DispatchStatus where
  | pending
  | queued
  | acknowledged
  | error
  | cancelled
  deriving DecidableEq

structure CommitToAirReport where
  reportId : Text
  channelId : Text
  occurrenceId : Text
  scheduleItemId : Text
  assetId : Text
  title : Text
  scheduledAt : ℤ
  durationSeconds : ℕ
  approvedByOperatorId : Text
  approvedAt : ℤ
  conflictsFound : ℕ
  gapsFound : ℕ
  dispatchStatus : DispatchStatus
  dispatchErrorDetail : Option Text
  dispatchTimestamp : Option ℤ
  operatorNotes : Option Text
  rollbackReason : Option Text
  rolledBackAt : Option ℤ
  createdAt : ℤ
  updatedAt : ℤ
  deriving DecidableEq

/-! ## The store -/

abbrev ItemTable : Type := Table ScheduleItem Text ScheduleItem.id

abbrev ReportTable : Type := Table CommitToAirReport Text CommitToAirReport.reportId

structure Store where
  items : ItemTable
  reports : ReportTable
  assets : Text → Option StaffAssetRow

namespace Store

def toResponse (s : Store) (row : ScheduleItem) : ScheduleItem :=
  { row with assetTitle := (s.assets row.assetId).map (·.title) }

def get (s : Store) (scheduleId : Text) : Option ScheduleItem :=
  (s.items.get scheduleId).map s.toResponse

/-- `list` of a channel, in the two states that occupy air time. -/
def list (s : Store) (channelId : Text) : List ScheduleItem :=
  ((s.items.rows.filter fun i => i.channelId = channelId &&
      (i.state = .scheduled || i.state = .published)).insertionSort
    fun a b => a.scheduledAt ≤ b.scheduledAt).map s.toResponse

def cancelRow (row : ScheduleItem) : ScheduleItem :=
  match row.state with
  | .scheduled | .published => { row with state := .cancelled }
  | .cancelled => row

lemma cancelRow_id (row : ScheduleItem) : (cancelRow row).id = row.id := by
  unfold cancelRow
  split <;> rfl

/-- `cancel`; a row that is not there is a `ScheduleItemNotFoundError`, which changes nothing. -/
def cancel (s : Store) (scheduleId : Text) : Store :=
  { s with items := s.items.modify scheduleId cancelRow cancelRow_id }

def publishRow (row : ScheduleItem) : ScheduleItem := { row with state := .published }

lemma publishRow_id (row : ScheduleItem) : (publishRow row).id = row.id := rfl

/-- `commit_to_air`: `false` where the row is not waiting for approval, `none` where the id of the
report is taken, which is an `IntegrityError`. Neither writes anything. -/
def commitToAir (s : Store) (scheduleId : Text) (report : CommitToAirReport) (now : ℤ) :
    Option (Bool × Store) :=
  match (s.items.get scheduleId).map ScheduleItem.state with
  | some .scheduled =>
    if h : s.reports.get report.reportId = none then
      some (true,
        { s with
          items := s.items.modify scheduleId publishRow publishRow_id
          reports := s.reports.insert { report with updatedAt := now } h })
    else none
  | _ => some (false, s)

/-- `upsert_commit_report`: a row that is there keeps its `created_at`. -/
def upsertCommitReport (s : Store) (report : CommitToAirReport) (now : ℤ) : Store :=
  { s with
    reports := s.reports.upsert { report with updatedAt := now }
      (fun row =>
        { report with reportId := row.reportId, createdAt := row.createdAt, updatedAt := now })
      fun _ => rfl }

def getCommitReport (s : Store) (reportId : Text) : Option CommitToAirReport :=
  s.reports.get reportId

end Store

/-! ## The dry run -/

structure ScheduleConflict where
  existingScheduleItemId : Text
  existingAssetId : Text
  existingAssetTitle : Text
  existingScheduledAt : ℤ
  existingDurationSeconds : ℕ
  proposedScheduledAt : ℤ
  proposedDurationSeconds : ℕ
  overlapSeconds : ℤ
  deriving DecidableEq

/-- A `PlayoutEventPlan` of kind `gap`; its length is in microseconds. -/
structure Gap where
  startsAt : ℤ
  endsAt : ℤ
  duration : ℤ
  label : Text
  deriving DecidableEq

/-- The texts of `missing_media_detail`, with what they quote. -/
inductive MissingDetail where
  | assetMissing (assetId : Text)
  | assetNotAirable (assetId : Text) (state : AssetState)
  | noMediaFile (assetId : Text)
  | noKnownDuration (assetId : Text)
  | notScheduled (itemId : Text) (state : ScheduleState)
  | noAirDuration
  | committedByAnother
  deriving DecidableEq

structure CommitToAirPlan where
  channelId : Text
  occurrenceId : Text
  scheduleItemId : Text
  assetId : Text
  title : Text
  scheduledAt : ℤ
  durationSeconds : ℕ
  dryRunPassed : Bool
  conflictsDetected : List ScheduleConflict
  missingMediaDetail : Option MissingDetail
  gapsDetected : List Gap
  deriving DecidableEq

/-- `_check_playability`; `none` is a pass. -/
def checkPlayability (item : ScheduleItem) (asset : Option StaffAssetRow) : Option MissingDetail :=
  match asset with
  | none => some (.assetMissing item.assetId)
  | some asset =>
    if !asset.state.playable then some (.assetNotAirable item.assetId asset.state)
    else if asset.filePath.all (· = []) then some (.noMediaFile item.assetId)
    else if asset.durationSeconds.isNone then some (.noKnownDuration item.assetId)
    else none

/-- `a or b` on a title and an id. -/
def titleOr (title : Option Text) (assetId : Text) : Text :=
  match title with
  | some (c :: cs) => c :: cs
  | _ => assetId

/-- The loop state of `_detect_conflicts_and_gaps`: the conflicts, and the prior item that ends
last. -/
structure Scan where
  conflicts : List ScheduleConflict
  latestPrior : Option (ScheduleItem × ℤ)

def scanOther (item : ScheduleItem) (proposedDuration : ℕ) (scan : Scan) (other : ScheduleItem) :
    Scan :=
  let proposedStart := item.scheduledAt
  let proposedEnd := proposedStart + microseconds proposedDuration
  match other.mode, other.durationSeconds with
  | .premiere, some duration =>
    if other.id = item.id then scan
    else
      let otherEnd := other.scheduledAt + microseconds duration
      if other.scheduledAt < proposedEnd ∧ proposedStart < otherEnd then
        let overlap := min otherEnd proposedEnd - max other.scheduledAt proposedStart
        { scan with
          conflicts := scan.conflicts ++
            [{ existingScheduleItemId := other.id
               existingAssetId := other.assetId
               existingAssetTitle := titleOr other.assetTitle other.assetId
               existingScheduledAt := other.scheduledAt
               existingDurationSeconds := duration
               proposedScheduledAt := proposedStart
               proposedDurationSeconds := proposedDuration
               overlapSeconds := overlap / 1000000 }] }
      else if otherEnd ≤ proposedStart ∧ scan.latestPrior.all fun prior => prior.2 < otherEnd then
        { scan with latestPrior := some (other, otherEnd) }
      else scan
  | _, _ => scan

/-- Dead air of more than a second after the prior item. -/
def gapsAfter (proposedStart : ℤ) (latestPrior : Option (ScheduleItem × ℤ)) : List Gap :=
  match latestPrior with
  | none => []
  | some (prior, priorEnd) =>
    if microseconds 1 < proposedStart - priorEnd then
      [{ startsAt := priorEnd
         endsAt := proposedStart
         duration := proposedStart - priorEnd
         label := "Dead air after ".toList ++ titleOr prior.assetTitle prior.assetId }]
    else []

/-- `_detect_conflicts_and_gaps` over the rows of the channel. -/
def detectConflictsAndGaps (item : ScheduleItem) (proposedDuration : ℕ)
    (others : List ScheduleItem) : List ScheduleConflict × List Gap :=
  let scan := others.foldl (scanOther item proposedDuration) ⟨[], none⟩
  (scan.conflicts, gapsAfter item.scheduledAt scan.latestPrior)

/-- `prepare_commit` after its reads: the item, its asset and the rows of the channel. -/
def prepareCommit (occurrenceId : Text) (item : ScheduleItem) (asset : Option StaffAssetRow)
    (others : List ScheduleItem) : CommitToAirPlan :=
  let missing := checkPlayability item asset
  let missing := missing <|>
    if item.state ≠ .scheduled then some (.notScheduled item.id item.state) else none
  let missing := missing <|> if item.durationSeconds.isNone then some .noAirDuration else none
  let (conflicts, gaps) :=
    match item.durationSeconds with
    | none => ([], [])
    | some duration => detectConflictsAndGaps item duration others
  { channelId := item.channelId
    occurrenceId := occurrenceId
    scheduleItemId := item.id
    assetId := item.assetId
    title := (asset.map (·.title)).getD (titleOr item.assetTitle item.assetId)
    scheduledAt := item.scheduledAt
    durationSeconds := item.durationSeconds.getD 0
    dryRunPassed := missing.isNone && conflicts.isEmpty
    conflictsDetected := conflicts
    missingMediaDetail := missing
    gapsDetected := gaps }

/-! ## The calls -/

structure CommitCall where
  occurrenceId : Text
  scheduleItemId : Text
  operatorId : Text
  operatorNotes : Option Text

structure RollbackCall where
  reportId : Text
  reason : Text
  operatorId : Text

/-- How the dispatcher ends: with the instant of the dispatch, or with an exception of a type. -/
inductive DispatchResult where
  | dispatched (at_ : ℤ)
  | failed (exceptionType : Text)
  deriving DecidableEq

def pendingReport (call : CommitCall) (plan : CommitToAirPlan) (token : Text) (now : ℤ) :
    CommitToAirReport where
  reportId := "ctar_".toList ++ token
  channelId := plan.channelId
  occurrenceId := plan.occurrenceId
  scheduleItemId := plan.scheduleItemId
  assetId := plan.assetId
  title := plan.title
  scheduledAt := plan.scheduledAt
  durationSeconds := plan.durationSeconds
  approvedByOperatorId := call.operatorId
  approvedAt := now
  conflictsFound := plan.conflictsDetected.length
  gapsFound := plan.gapsDetected.length
  dispatchStatus := .pending
  dispatchErrorDetail := none
  dispatchTimestamp := none
  operatorNotes := call.operatorNotes
  rollbackReason := none
  rolledBackAt := none
  createdAt := now
  updatedAt := now

def dispatchErrorText (exceptionType : Text) : Text :=
  "Could not hand the program to the broadcast engine (".toList ++ exceptionType ++
    "). The approval is recorded but the item is not on air yet — retry, ".toList ++
    "or check the egress daemon.".toList

/-- The report after the dispatch, from the copy of the commit. -/
def afterDispatch (report : CommitToAirReport) : DispatchResult → CommitToAirReport
  | .dispatched at_ => { report with dispatchStatus := .queued, dispatchTimestamp := some at_ }
  | .failed exceptionType =>
    { report with
      dispatchStatus := .error
      dispatchErrorDetail := some (dispatchErrorText exceptionType) }

/-- The report after a rollback, from the copy of the rollback. -/
def afterRollback (report : CommitToAirReport) (reason : Text) (now : ℤ) : CommitToAirReport :=
  { report with
    dispatchStatus := .cancelled
    rollbackReason := some reason
    rolledBackAt := some now
    updatedAt := now }

end CivicCast.Schedule
