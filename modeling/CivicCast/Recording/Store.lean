import CivicCast.Lib.Table

/-! # The store of recordings

Schedules and jobs as the recording tables hold them, and the operations of
`RecordingStore` as functions on the tables. Each of them is one transaction, except the
transition to `arming`, whose probe and commit are two functions: between them another
transaction can commit.

Instants are whole microseconds. A job's id is kept by its parts instead of as a text: the
prefix, the schedule and the stamp determine the text and are determined by it. Encoder
profile, loudness regime, target series and custom fields are left out, with the times at
which a row was created and last written: they are handed through, and decide nothing.
-/

namespace CivicCast.Recording

open Lib (Table)

/-! ## Rows -/

inductive SourceKind where
  | sdi
  | hdmi
  | ndi
  | rtsp
  | srt
  | hls
  | rtmp
  | mpegts
deriving DecidableEq

/-- Opened by address rather than by input. -/
def SourceKind.isNetwork : SourceKind → Bool
  | sdi => false
  | hdmi => false
  | ndi => false
  | _ => true

structure RecordingSource where
  kind : SourceKind
  inputId : String
  uri : String
deriving DecidableEq

namespace RecordingSource

/-- `uri or input_id`. -/
def identifier (s : RecordingSource) : String :=
  if s.uri = "" then s.inputId else s.uri

/-- The column of `ux_recording_jobs_active_source`: `COALESCE` over the serialized source.
Both fields are always serialized, an empty one as an empty text, so that the first of them
is never null. -/
def indexKey (s : RecordingSource) : String := s.uri

end RecordingSource

inductive JobState where
  | scheduled
  | arming
  | recording
  | finalizing
  | done
  | failed
  | skipped
deriving DecidableEq

namespace JobState

/-- `_ALLOWED_TRANSITIONS`. -/
def allowed : JobState → List JobState
  | scheduled => [arming, skipped, failed]
  | arming => [recording, skipped, failed]
  | recording => [finalizing, failed]
  | finalizing => [done, failed]
  | done => []
  | failed => []
  | skipped => []

/-- `JOB_STATE_ACTIVE`. -/
def isActive : JobState → Bool
  | arming => true
  | recording => true
  | finalizing => true
  | _ => false

end JobState

/-- `_job_id_for`: the prefix, the schedule and the stamp. `jobday` has the day of the
occurrence for a stamp, `now` a random suffix in its prefix. -/
inductive JobId where
  | job (scheduleId : String) (second : ℤ)
  | jobday (scheduleId : String) (day : ℤ)
  | now (suffix : String) (scheduleId : String) (second : ℤ)
  | adhoc (name : String)
deriving DecidableEq

/-- The steps of a capture that can fail. -/
inductive Phase where
  | arm
  | start
  | finalize
  | stop
deriving DecidableEq

inductive FailureReason where
  | pipeline (phase : Phase)
  | overlap (conflicting : Option JobId)
  | stoppedBeforeStart
  | zeroByteStop
  | interrupted
  | scheduleDisabled
deriving DecidableEq

structure RecordingJob where
  jobId : JobId
  stationId : String
  scheduleId : Option String
  plannedStart : ℤ
  plannedEnd : ℤ
  source : RecordingSource
  state : JobState
  startedAt : Option ℤ
  endedAt : Option ℤ
  assetId : Option String
  bytesWritten : Option ℕ
  failureReason : Option FailureReason
  dropoutCount : ℕ
deriving DecidableEq

/-- A job as it is created. -/
def RecordingJob.planned (jobId : JobId) (stationId : String) (scheduleId : Option String)
    (plannedStart plannedEnd : ℤ) (source : RecordingSource) : RecordingJob where
  jobId := jobId
  stationId := stationId
  scheduleId := scheduleId
  plannedStart := plannedStart
  plannedEnd := plannedEnd
  source := source
  state := .scheduled
  startedAt := none
  endedAt := none
  assetId := none
  bytesWritten := none
  failureReason := none
  dropoutCount := 0

/-- What of a job never changes. -/
structure SameJob (j k : RecordingJob) : Prop where
  jobId : j.jobId = k.jobId
  stationId : j.stationId = k.stationId
  source : j.source = k.source
  plannedStart : j.plannedStart = k.plannedStart
  plannedEnd : j.plannedEnd = k.plannedEnd

section SameJob

variable {j j' k : RecordingJob}

lemma SameJob.refl (j : RecordingJob) : SameJob j j := ⟨rfl, rfl, rfl, rfl, rfl⟩

lemma SameJob.trans (h : SameJob j j') (h' : SameJob j' k) : SameJob j k where
  jobId := h.jobId.trans h'.jobId
  stationId := h.stationId.trans h'.stationId
  source := h.source.trans h'.source
  plannedStart := h.plannedStart.trans h'.plannedStart
  plannedEnd := h.plannedEnd.trans h'.plannedEnd

lemma SameJob.symm (h : SameJob j k) : SameJob k j where
  jobId := h.jobId.symm
  stationId := h.stationId.symm
  source := h.source.symm
  plannedStart := h.plannedStart.symm
  plannedEnd := h.plannedEnd.symm

end SameJob

abbrev Jobs := Table RecordingJob JobId RecordingJob.jobId

/-! ## Operations -/

inductive StoreError where
  | jobNotFound
  | jobState
  | jobIdConflict
  | jobOverlap
deriving DecidableEq

namespace Jobs

def createJob (jobs : Jobs) (job : RecordingJob) : Except StoreError Jobs :=
  if h : jobs.get job.jobId = none then .ok (jobs.insert job h) else .error .jobIdConflict

/-- `list_jobs` of a station: the newest planned first, at most `limit`. -/
def listJobs (jobs : Jobs) (stationId : String) (state : Option JobState) (limit : ℕ) :
    List RecordingJob :=
  let rows := jobs.rows.filter fun j =>
    j.stationId = stationId && (state.isNone || state = some j.state)
  (rows.mergeSort fun j k => k.plannedStart ≤ j.plannedStart).take limit

/-- The side fields of a transition; those not given stay. -/
structure Update where
  startedAt : Option ℤ := none
  endedAt : Option ℤ := none
  assetId : Option String := none
  bytesWritten : Option ℕ := none
  failureReason : Option FailureReason := none
deriving DecidableEq

def Update.apply (u : Update) (state : JobState) (j : RecordingJob) : RecordingJob :=
  { j with
    state := state
    startedAt := u.startedAt.or j.startedAt
    endedAt := u.endedAt.or j.endedAt
    assetId := u.assetId.or j.assetId
    bytesWritten := u.bytesWritten.or j.bytesWritten
    failureReason := u.failureReason.or j.failureReason }

def setJobState (jobs : Jobs) (jobId : JobId) (state : JobState) (u : Update) :
    Except StoreError Jobs :=
  match jobs.get jobId with
  | none => .error .jobNotFound
  | some row =>
    if state ∉ row.state.allowed ∧ state ≠ row.state then .error .jobState
    else .ok (jobs.modify jobId (u.apply state) fun _ => rfl)

/-- The other jobs of the station that are active in the window of `row`. -/
def siblings (jobs : Jobs) (row : RecordingJob) : List RecordingJob :=
  jobs.rows.filter fun j =>
    j.stationId = row.stationId && j.state.isActive && decide (j.plannedStart < row.plannedEnd) &&
      decide (row.plannedStart < j.plannedEnd) && decide (j.jobId ≠ row.jobId)

/-- The first half of `transition_to_arming_with_overlap_guard`: the row, if it is
scheduled and no sibling has its source. -/
def probeArming (jobs : Jobs) (jobId : JobId) : Except StoreError RecordingJob :=
  match jobs.get jobId with
  | none => .error .jobNotFound
  | some row =>
    if row.state ≠ .scheduled then .error .jobState
    else if (jobs.siblings row).any fun j =>
        j.source.kind = row.source.kind && j.source.identifier = row.source.identifier then
      .error .jobOverlap
    else .ok row

/-- Another active row has the index entry of this one. -/
def indexTaken (jobs : Jobs) (row : RecordingJob) : Bool :=
  jobs.rows.any fun j =>
    j.jobId ≠ row.jobId && j.state.isActive && j.stationId = row.stationId &&
      j.source.indexKey = row.source.indexKey

/-- The second half: the write, which the unique index refuses where there is one
(`indexed`: Postgres). -/
def commitArming (indexed : Bool) (jobs : Jobs) (row : RecordingJob) : Except StoreError Jobs :=
  if indexed && jobs.indexTaken row then .error .jobOverlap
  else .ok (jobs.modify row.jobId (fun j => { j with state := .arming }) fun _ => rfl)

/-- `transition_to_arming_with_overlap_guard`. -/
def transitionToArming (indexed : Bool) (jobs : Jobs) (jobId : JobId) : Except StoreError Jobs := do
  let row ← jobs.probeArming jobId
  jobs.commitArming indexed row

/-- `find_overlapping_jobs`, as `arm_job` calls it: the active ones of them. -/
def findOverlapping (jobs : Jobs) (row : RecordingJob) : List RecordingJob :=
  (jobs.siblings row).filter fun j =>
    j.source.kind = row.source.kind && j.source.identifier = row.source.identifier

/-- `reconcile_orphaned_active_jobs`. -/
def reconcile (jobs : Jobs) (cutoff : ℤ) : Jobs :=
  let fail := fun j : RecordingJob =>
    if j.state.isActive && j.plannedEnd ≤ cutoff then
      { j with state := .failed, endedAt := some cutoff, failureReason := some .interrupted }
    else j
  jobs.map fail (by
    intro j
    dsimp only [fail]
    split <;> rfl)

def recordDropout (jobs : Jobs) (jobId : JobId) : Jobs :=
  jobs.modify jobId (fun j => { j with dropoutCount := j.dropoutCount + 1 }) fun _ => rfl

variable {jobs jobs' : Jobs} {jobId k : JobId} {row : RecordingJob} {state : JobState} {u : Update}

lemma setJobState_of_get (hget : jobs.get jobId = some row)
    (hallowed : state ∈ row.state.allowed ∨ state = row.state) :
    jobs.setJobState jobId state u = .ok (jobs.modify jobId (u.apply state) fun _ => rfl) := by
  unfold setJobState
  rw [hget]
  dsimp only
  rw [if_neg]
  rintro ⟨hnot, hne⟩
  rcases hallowed with hmem | heq
  · exact hnot hmem
  · exact hne heq

lemma setJobState_ok (h : jobs.setJobState jobId state u = .ok jobs') :
    ∃ row, jobs.get jobId = some row ∧ (state ∈ row.state.allowed ∨ state = row.state) ∧
      jobs' = jobs.modify jobId (u.apply state) fun _ => rfl := by
  unfold setJobState at h
  split at h
  · cases h
  · rename_i row hget
    split at h
    · cases h
    · rename_i hallowed
      cases h
      refine ⟨row, hget, ?_, rfl⟩
      by_cases hmem : state ∈ row.state.allowed
      · exact .inl hmem
      · exact .inr (not_not.mp fun hne => hallowed ⟨hmem, hne⟩)

lemma get_setJobState (hget : jobs.get jobId = some row)
    (h : jobs.setJobState jobId state u = .ok jobs') :
    jobs'.get jobId = some (u.apply state row) ∧
      (state ∈ row.state.allowed ∨ state = row.state) := by
  obtain ⟨row', hget', hallowed, rfl⟩ := setJobState_ok h
  rw [hget] at hget'
  cases hget'
  have hself := Table.get_modify_self (t := jobs) (k := jobId) (f := u.apply state) fun _ => rfl
  rw [hget] at hself
  exact ⟨hself, hallowed⟩

lemma get_setJobState_of_ne (h : jobs.setJobState jobId state u = .ok jobs') (hk : jobId ≠ k) :
    jobs'.get k = jobs.get k := by
  obtain ⟨row, -, -, rfl⟩ := setJobState_ok h
  exact Table.get_modify_of_ne _ hk.symm

/-- The row as the transition to `arming` leaves it. -/
def armed (row : RecordingJob) : RecordingJob := { row with state := .arming }

lemma commitArming_ok {indexed : Bool} (h : jobs.commitArming indexed row = .ok jobs') :
    jobs' = jobs.modify row.jobId armed fun _ => rfl := by
  unfold commitArming at h
  split at h
  · cases h
  · cases h
    rfl

lemma transitionToArming_ok {indexed : Bool}
    (h : jobs.transitionToArming indexed jobId = .ok jobs') :
    ∃ row, jobs.get jobId = some row ∧ row.state = .scheduled ∧
      jobs' = jobs.modify jobId armed fun _ => rfl := by
  unfold transitionToArming probeArming at h
  cases hget : jobs.get jobId with
  | none =>
    rw [hget] at h
    cases h
  | some row =>
    rw [hget] at h
    dsimp only at h
    have hkey : row.jobId = jobId := Table.key_of_get hget
    split at h
    · cases h
    · rename_i hstate
      split at h
      · cases h
      · have h : jobs.commitArming indexed row = .ok jobs' := h
        unfold commitArming at h
        split at h
        · cases h
        · cases h
          subst hkey
          exact ⟨row, rfl, not_not.mp hstate, rfl⟩

lemma transitionToArming_error {indexed : Bool} {error : StoreError}
    (hget : jobs.get jobId = some row) (hstate : row.state = .scheduled)
    (h : jobs.transitionToArming indexed jobId = .error error) : error = .jobOverlap := by
  unfold transitionToArming probeArming at h
  rw [hget] at h
  dsimp only at h
  rw [if_neg (by simp [hstate])] at h
  split at h
  · cases h
    rfl
  · have h : jobs.commitArming indexed row = .error error := h
    unfold commitArming at h
    split at h
    · cases h
      rfl
    · cases h

end Jobs

end CivicCast.Recording
