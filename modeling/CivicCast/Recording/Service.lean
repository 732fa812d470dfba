import CivicCast.Lib.Prog
import CivicCast.Recording.Recurrence

/-! # The recording service

The operations of `RecordingService` as programs over the store, the capture pipeline, the
asset finalizer and the clock. A store call is one transaction, and one step, except the
transition to `arming`: its probe and its commit are two, as other transactions can commit
between them. `pipeline.stop` is two calls as well: what it does under the pipeline's lock
(`takeCapture`, which takes the capture out of the active ones), and the merge of its
segments after that.

`Op` is what a program calls, `World` what the calls act on: the tables, the captures that
the pipeline has, and the assets that were made. `World.machine` answers a store call as the
store does, and lets the pipeline and the finalizer fail in every way they can.

Alerts are left out: a sink that raises is swallowed. So is the check that a pipeline and a
finalizer are wired. Passes over the schedules are one call here (`Op.expand`).
-/

namespace CivicCast.Recording

open Lib (Iface Machine Prog Table)

/-! ## Calls -/

/-- Why the pipeline or the finalizer raised. -/
inductive Fault where
  | armFailed
  | notActive
  | notStarted
  | exited
  | windowElapsed
  | launchFailed
  | terminateFailed
  | mergeFailed
  | assetFailed
deriving DecidableEq

inductive Failure where
  | store (error : StoreError)
  | scheduleNotFound
  | fault (fault : Fault)
  /-- `RecordingPipelineFailureError`. -/
  | pipelineFailure (phase : Phase)
deriving DecidableEq

structure CaptureResult where
  bytesWritten : ℕ
  captureEndedAt : Option ℤ
deriving DecidableEq

structure DropoutCheckResult where
  dropoutDetected : Bool
  reconnected : Bool
deriving DecidableEq

inductive Op where
  | clock
  /-- The deadline of a drain has passed. -/
  | deadlinePassed
  /-- `expand_jobs_for_horizon` at a time. -/
  | expand (now : ℤ)
  | getSchedule (scheduleId : String)
  | getJob (jobId : JobId)
  | listJobs (state : JobState)
  | listJobsOf (scheduleId : String) (state : JobState)
  | createJob (job : RecordingJob)
  | setJobState (jobId : JobId) (state : JobState) (update : Jobs.Update)
  | probeArming (jobId : JobId)
  | commitArming (row : RecordingJob)
  | findOverlapping (row : RecordingJob)
  | recordDropout (jobId : JobId)
  | armCapture (jobId : JobId)
  | startCapture (jobId : JobId)
  | takeCapture (jobId : JobId)
  | mergeCapture (jobId : JobId)
  | stopArming (jobId : JobId)
  | checkDropout (jobId : JobId)
  | finalizeToAsset (jobId : JobId)

/-- The calls that can write the table of jobs. -/
def Op.isWrite : Op → Bool
  | expand _ => true
  | createJob _ => true
  | setJobState _ _ _ => true
  | commitArming _ => true
  | recordDropout _ => true
  | _ => false

def Op.Res : Op → Type
  | clock => ℤ
  | deadlinePassed => Bool
  | expand _ => ℕ
  | getSchedule _ => Option RecordingSchedule
  | getJob _ => Option RecordingJob
  | listJobs _ => List RecordingJob
  | listJobsOf _ _ => List RecordingJob
  | createJob _ => RecordingJob
  | setJobState _ _ _ => RecordingJob
  | probeArming _ => RecordingJob
  | commitArming _ => Unit
  | findOverlapping _ => List RecordingJob
  | recordDropout _ => Unit
  | armCapture _ => Unit
  | startCapture _ => Unit
  | takeCapture _ => Option ℤ
  | mergeCapture _ => ℕ
  | stopArming _ => Unit
  | checkDropout _ => DropoutCheckResult
  | finalizeToAsset _ => String

abbrev recordingIface : Iface where
  Op := Op
  Ans := fun o => Except Failure o.Res

abbrev RecordingM := Prog recordingIface Failure

def ask (o : Op) : RecordingM o.Res := .call o Prog.ofExcept

/-! ## Helpers of the service -/

def requireJob (jobId : JobId) : RecordingM RecordingJob := do
  match ← ask (.getJob jobId) with
  | some job => return job
  | none => .raise (.store .jobNotFound)

/-- The write that `_fail_job` and `_record_job_failure` share. -/
def writeFailure (jobId : JobId) (phase : Phase) : RecordingM Unit := do
  let now : ℤ ← ask .clock
  let _ ← ask (.setJobState jobId .failed
    { endedAt := some now, failureReason := some (.pipeline phase) })
  return ()

/-- `_fail_job`: it always raises. -/
def failJob (jobId : JobId) (phase : Phase) : RecordingM RecordingJob := do
  writeFailure jobId phase
  .raise (.pipelineFailure phase)

def recordJobFailure (jobId : JobId) (phase : Phase) : RecordingM RecordingJob := do
  writeFailure jobId phase
  requireJob jobId

/-- `pipeline.stop`, and `pipeline.finalize`, which is the same. -/
def stopCapture (jobId : JobId) : RecordingM CaptureResult := do
  let endedAt ← ask (.takeCapture jobId)
  let bytes ← ask (.mergeCapture jobId)
  return ⟨bytes, endedAt⟩

/-- The capture, and the asset that is made of it. -/
def deliver (jobId : JobId) : RecordingM (CaptureResult × String) := do
  let result ← stopCapture jobId
  let assetId ← ask (.finalizeToAsset jobId)
  return (result, assetId)

/-- The last write of a delivered recording. -/
def complete (jobId : JobId) (result : CaptureResult) (assetId : String) :
    RecordingM RecordingJob := do
  let now : ℤ ← ask .clock
  ask (.setJobState jobId .done
    { endedAt := some (result.captureEndedAt.getD now)
      assetId := some assetId
      bytesWritten := some result.bytesWritten })

/-! ## Progress of a job -/

/-- `transition_to_arming_with_overlap_guard`: the probe, and the commit that the unique
index can still refuse. -/
def transitionToArming (jobId : JobId) : RecordingM Unit := do
  let row ← ask (.probeArming jobId)
  ask (.commitArming row)

/-- What `arm_job` does with a job that overlaps. -/
def skipOverlapping (jobId : JobId) (job : RecordingJob) : RecordingM RecordingJob := do
  let overlaps : List RecordingJob ← ask (.findOverlapping job)
  let now : ℤ ← ask .clock
  ask (.setJobState jobId .skipped
    { endedAt := some now, failureReason := some (.overlap (overlaps.head?.map (·.jobId))) })

def armJob (jobId : JobId) : RecordingM RecordingJob := do
  let job ← requireJob jobId
  if job.state ≠ .scheduled then .raise (.store .jobState)
  else
    match ← (transitionToArming jobId).attempt with
    | .error (.store .jobOverlap) => skipOverlapping jobId job
    | .error failure => .raise failure
    | .ok _ =>
      match ← (ask (.armCapture jobId)).attempt with
      | .error _ => failJob jobId .arm
      | .ok _ => requireJob jobId

def startJob (jobId : JobId) : RecordingM RecordingJob := do
  let job ← requireJob jobId
  if job.state ≠ .arming then .raise (.store .jobState)
  else
    let now : ℤ ← ask .clock
    if job.plannedEnd ≤ now then failJob jobId .start
    else
      match ← (ask (.startCapture jobId)).attempt with
      | .error _ => failJob jobId .start
      | .ok _ => ask (.setJobState jobId .recording { startedAt := some now })

def finalizeJob (jobId : JobId) : RecordingM RecordingJob := do
  let job ← requireJob jobId
  if job.state ≠ .recording then .raise (.store .jobState)
  else
    let _ ← ask (.setJobState jobId .finalizing {})
    match ← (deliver jobId).attempt with
    | .error _ => failJob jobId .finalize
    | .ok (result, assetId) => complete jobId result assetId

def stopFinalizing (jobId : JobId) : RecordingM RecordingJob := do
  match ← (deliver jobId).attempt with
  | .error _ => recordJobFailure jobId .stop
  | .ok (result, assetId) =>
    if result.bytesWritten = 0 then
      let now : ℤ ← ask .clock
      ask (.setJobState jobId .failed
        { endedAt := some now, bytesWritten := some 0, failureReason := some .zeroByteStop })
    else complete jobId result assetId

/-- The stop of a job that has a capture, or had one. -/
def stopRecording (jobId : JobId) (job : RecordingJob) : RecordingM RecordingJob :=
  if job.state = .recording then do
    let _ ← ask (.setJobState jobId .finalizing {})
    stopFinalizing jobId
  else stopFinalizing jobId

/-- The stop of a job that only arms. -/
def stopPrearmed (jobId : JobId) : RecordingM RecordingJob := do
  match ← (ask (.stopArming jobId)).attempt with
  | .error _ => failJob jobId .stop
  | .ok _ =>
    let now : ℤ ← ask .clock
    ask (.setJobState jobId .failed
      { endedAt := some now, bytesWritten := some 0, failureReason := some .stoppedBeforeStart })

def stopJob (jobId : JobId) : RecordingM RecordingJob := do
  let job ← requireJob jobId
  if job.state.isActive then
    if job.state = .arming then stopPrearmed jobId else stopRecording jobId job
  else .raise (.store .jobState)

def runNow (job : RecordingJob) : RecordingM RecordingJob := do
  let stored ← ask (.createJob job)
  let armed ← armJob stored.jobId
  if armed.state ≠ .arming then return armed else startJob stored.jobId

/-- `record_now`, with the random part of the new id. -/
def recordNow (scheduleId suffix : String) : RecordingM RecordingJob := do
  match ← ask (.getSchedule scheduleId) with
  | none => .raise .scheduleNotFound
  | some schedule =>
    let now : ℤ ← ask .clock
    runNow (recordNowJob schedule suffix now)

def recordNowFromSource (name stationId : String) (source : RecordingSource) (duration : ℤ) :
    RecordingM RecordingJob := do
  let now : ℤ ← ask .clock
  runNow (.planned (.adhoc name) stationId none now (now + duration) source)

/-- The jobs of a disabled schedule that can still be skipped are skipped; the prearmed ones
of them lose their capture. -/
def cancelJobs (prearmed : Bool) : List RecordingJob → ℕ → RecordingM ℕ
  | [], cancelled => return cancelled
  | job :: rest, cancelled => do
    let now : ℤ ← ask .clock
    let write := ask (.setJobState job.jobId .skipped
      { endedAt := some now, failureReason := some .scheduleDisabled })
    match ← write.attempt with
    | .error (.store .jobState) => cancelJobs prearmed rest cancelled
    | .error failure => .raise failure
    | .ok _ =>
      if prearmed then
        let _ ← (ask (.stopArming job.jobId)).attempt
        cancelJobs prearmed rest (cancelled + 1)
      else cancelJobs prearmed rest (cancelled + 1)

def cancelScheduledJobsForSchedule (scheduleId : String) : RecordingM ℕ := do
  match ← ask (.getSchedule scheduleId) with
  | none => return 0
  | some _ =>
    let pending : List RecordingJob ← ask (.listJobsOf scheduleId .scheduled)
    let cancelled ← cancelJobs false pending 0
    let prearmed : List RecordingJob ← ask (.listJobsOf scheduleId .arming)
    cancelJobs true prearmed cancelled

/-! ## Drain -/

structure DrainCounters where
  considered : ℕ := 0
  finalized : ℕ := 0
  failed : ℕ := 0
  notDrained : ℕ := 0
deriving DecidableEq

/-- The jobs of one state, each of them stopped while there is time. -/
def drainJobs : List RecordingJob → DrainCounters → RecordingM DrainCounters
  | [], n => return n
  | job :: rest, n => do
    let n := { n with considered := n.considered + 1 }
    let passed : Bool ← ask .deadlinePassed
    if passed then drainJobs rest { n with notDrained := n.notDrained + 1 }
    else
      match ← (stopJob job.jobId).attempt with
      | .error _ => drainJobs rest { n with failed := n.failed + 1 }
      | .ok stopped =>
        if stopped.state = .done then drainJobs rest { n with finalized := n.finalized + 1 }
        else drainJobs rest { n with failed := n.failed + 1 }

def drainInFlight : List JobState → DrainCounters → RecordingM DrainCounters
  | [], n => return n
  | state :: rest, n => do
    let jobs : List RecordingJob ← ask (.listJobs state)
    drainInFlight rest (← drainJobs jobs n)

def drainOrder : List JobState := [.recording, .finalizing, .arming]

/-! ## Tick -/

structure TickCounters where
  expanded : ℕ := 0
  armed : ℕ := 0
  started : ℕ := 0
  finalized : ℕ := 0
  skipped : ℕ := 0
  failed : ℕ := 0
  dropoutsDetected : ℕ := 0
deriving DecidableEq

/-- The first loop: what raises in it leaves the tick. -/
def armDue (cutoff : ℤ) : List RecordingJob → TickCounters → RecordingM TickCounters
  | [], n => return n
  | job :: rest, n => do
    if cutoff < job.plannedStart then armDue cutoff rest n
    else
      let armed ← armJob job.jobId
      if armed.state = .skipped then armDue cutoff rest { n with skipped := n.skipped + 1 }
      else if armed.state = .failed then armDue cutoff rest { n with failed := n.failed + 1 }
      else armDue cutoff rest { n with armed := n.armed + 1 }

def startDue (now : ℤ) : List RecordingJob → TickCounters → RecordingM TickCounters
  | [], n => return n
  | job :: rest, n => do
    if now < job.plannedStart then startDue now rest n
    else
      let started ← startJob job.jobId
      if started.state = .recording then startDue now rest { n with started := n.started + 1 }
      else if started.state = .failed then startDue now rest { n with failed := n.failed + 1 }
      else startDue now rest n

/-- The third loop: a pipeline failure is counted. -/
def finalizeDue (now : ℤ) : List RecordingJob → TickCounters → RecordingM TickCounters
  | [], n => return n
  | job :: rest, n => do
    if now < job.plannedEnd then finalizeDue now rest n
    else
      match ← (finalizeJob job.jobId).attempt with
      | .error (.pipelineFailure _) => finalizeDue now rest { n with failed := n.failed + 1 }
      | .error failure => .raise failure
      | .ok finalized =>
        if finalized.state = .done then
          finalizeDue now rest { n with finalized := n.finalized + 1 }
        else if finalized.state = .failed then
          finalizeDue now rest { n with failed := n.failed + 1 }
        else finalizeDue now rest n

def pollActiveRecordings : List RecordingJob → ℕ → RecordingM ℕ
  | [], recorded => return recorded
  | job :: rest, recorded => do
    match ← (ask (.checkDropout job.jobId)).attempt with
    | .error _ => pollActiveRecordings rest recorded
    | .ok result =>
      if result.dropoutDetected then
        ask (.recordDropout job.jobId)
        pollActiveRecordings rest (recorded + 1)
      else pollActiveRecordings rest recorded

def tick (armLead : ℤ) : RecordingM TickCounters := do
  let passed : ℤ ← ask .clock
  let expanded : ℕ ← ask (.expand passed)
  let now : ℤ ← ask .clock
  let pending : List RecordingJob ← ask (.listJobs .scheduled)
  let n ← armDue (now + armLead) pending { expanded := expanded }
  let ready : List RecordingJob ← ask (.listJobs .arming)
  let n ← startDue now ready n
  let due : List RecordingJob ← ask (.listJobs .recording)
  let n ← finalizeDue now due n
  let recording : List RecordingJob ← ask (.listJobs .recording)
  let dropouts ← pollActiveRecordings recording 0
  return { n with dropoutsDetected := dropouts }

/-! ## Requests -/

/-- The operations of the service that a request can make. -/
inductive ServiceCall where
  | arm (jobId : JobId)
  | start (jobId : JobId)
  | finalize (jobId : JobId)
  | stop (jobId : JobId)
  | recordNow (scheduleId suffix : String)
  | recordNowFromSource (name stationId : String) (source : RecordingSource) (duration : ℤ)
  | cancel (scheduleId : String)
  | drain
  | tick (armLead : ℤ)

def discard {α : Type} (p : RecordingM α) : RecordingM Unit := do
  let _ ← p.attempt
  return ()

def ServiceCall.code : ServiceCall → RecordingM Unit
  | arm jobId => discard (armJob jobId)
  | start jobId => discard (startJob jobId)
  | finalize jobId => discard (finalizeJob jobId)
  | stop jobId => discard (stopJob jobId)
  | recordNow scheduleId suffix => discard (Recording.recordNow scheduleId suffix)
  | recordNowFromSource name stationId source duration =>
    discard (Recording.recordNowFromSource name stationId source duration)
  | cancel scheduleId => discard (cancelScheduledJobsForSchedule scheduleId)
  | drain => discard (drainInFlight drainOrder {})
  | tick armLead => discard (Recording.tick armLead)

def requests : List ServiceCall → RecordingM Unit
  | [] => return ()
  | request :: rest => do
    request.code
    requests rest

/-! ## Properties of every request -/

/-- The calls that neither write the state of a job nor touch its capture. -/
def Op.isPlain : Op → Bool
  | clock => true
  | deadlinePassed => true
  | expand _ => true
  | getSchedule _ => true
  | listJobs _ => true
  | listJobsOf _ _ => true
  | recordDropout _ => true
  | checkDropout _ => true
  | _ => false

/-- A property of programs that goes through sequences and attempts, and holds of the plain
calls and of what is done to one job. -/
structure Compositional (P : ∀ {α : Type}, RecordingM α → Prop) : Prop where
  pure : ∀ {α : Type} (a : α), P (.ret a)
  raise : ∀ {α : Type} (e : Failure), P (.raise e : RecordingM α)
  bind : ∀ {α β : Type} {p : RecordingM α} {f : α → RecordingM β},
    P p → (∀ a, P (f a)) → P (p >>= f)
  attempt : ∀ {α : Type} {p : RecordingM α}, P p → P p.attempt
  plain : ∀ o : Op, o.isPlain = true → P (ask o)
  create : ∀ job : RecordingJob, job.state = .scheduled → P (ask (.createJob job))
  arm : ∀ jobId, P (armJob jobId)
  start : ∀ jobId, P (startJob jobId)
  finalize : ∀ jobId, P (finalizeJob jobId)
  stop : ∀ jobId, P (stopJob jobId)
  cancel : ∀ prearmed list n, P (cancelJobs prearmed list n)

namespace Compositional

variable {P : ∀ {α : Type}, RecordingM α → Prop} {α : Type}

lemma ite (_ : Compositional P) {φ : Prop} [Decidable φ] {p q : RecordingM α} (hp : P p)
    (hq : P q) : P (if φ then p else q) := by
  split
  · exact hp
  · exact hq

variable (h : Compositional P)
include h

lemma runNow {job : RecordingJob} (hjob : job.state = .scheduled) : P (runNow job) := by
  refine h.bind (h.create job hjob) fun (stored : RecordingJob) => ?_
  refine h.bind (h.arm stored.jobId) fun armed => ?_
  exact h.ite (h.pure armed) (h.start stored.jobId)

lemma recordNow (scheduleId suffix : String) : P (recordNow scheduleId suffix) := by
  refine h.bind (h.plain (.getSchedule scheduleId) rfl) ?_
  rintro (_ | schedule)
  · exact h.raise _
  · exact h.bind (h.plain .clock rfl) fun now => h.runNow rfl

lemma recordNowFromSource (name stationId : String) (source : RecordingSource) (duration : ℤ) :
    P (recordNowFromSource name stationId source duration) :=
  h.bind (h.plain .clock rfl) fun _ => h.runNow rfl

lemma cancelScheduledJobs (scheduleId : String) :
    P (cancelScheduledJobsForSchedule scheduleId) := by
  refine h.bind (h.plain (.getSchedule scheduleId) rfl) ?_
  rintro (_ | schedule)
  · exact h.pure 0
  · refine h.bind (h.plain (.listJobsOf scheduleId .scheduled) rfl) fun pending => ?_
    refine h.bind (h.cancel false pending 0) fun cancelled => ?_
    refine h.bind (h.plain (.listJobsOf scheduleId .arming) rfl) fun prearmed => ?_
    exact h.cancel true prearmed cancelled

lemma drainJobs (list : List RecordingJob) : ∀ n, P (drainJobs list n) := by
  induction list with
  | nil => exact h.pure
  | cons job rest ih =>
    intro n
    refine h.bind (h.plain .deadlinePassed rfl) fun (passed : Bool) => ?_
    refine h.ite (ih _) (h.bind (h.attempt (h.stop job.jobId)) ?_)
    rintro (failure | stopped)
    · exact ih _
    · exact h.ite (ih _) (ih _)

lemma drainInFlight (states : List JobState) : ∀ n, P (drainInFlight states n) := by
  induction states with
  | nil => exact h.pure
  | cons state rest ih =>
    intro n
    refine h.bind (h.plain (.listJobs state) rfl) fun jobs => ?_
    exact h.bind (h.drainJobs jobs n) ih

lemma armDue (cutoff : ℤ) (list : List RecordingJob) : ∀ n, P (armDue cutoff list n) := by
  induction list with
  | nil => exact h.pure
  | cons job rest ih =>
    intro n
    refine h.ite (ih n) (h.bind (h.arm job.jobId) fun armed => ?_)
    exact h.ite (ih _) (h.ite (ih _) (ih _))

lemma startDue (now : ℤ) (list : List RecordingJob) : ∀ n, P (startDue now list n) := by
  induction list with
  | nil => exact h.pure
  | cons job rest ih =>
    intro n
    refine h.ite (ih n) (h.bind (h.start job.jobId) fun started => ?_)
    exact h.ite (ih _) (h.ite (ih _) (ih _))

lemma finalizeDue (now : ℤ) (list : List RecordingJob) : ∀ n, P (finalizeDue now list n) := by
  induction list with
  | nil => exact h.pure
  | cons job rest ih =>
    intro n
    refine h.ite (ih n) (h.bind (h.attempt (h.finalize job.jobId)) ?_)
    rintro (failure | finalized)
    · cases failure with
      | pipelineFailure phase => exact ih _
      | _ => exact h.raise _
    · exact h.ite (ih _) (h.ite (ih _) (ih _))

lemma poll (list : List RecordingJob) : ∀ n, P (pollActiveRecordings list n) := by
  induction list with
  | nil => exact h.pure
  | cons job rest ih =>
    intro n
    refine h.bind (h.attempt (h.plain (.checkDropout job.jobId) rfl)) ?_
    rintro (failure | result)
    · exact ih n
    · exact h.ite (h.bind (h.plain (.recordDropout job.jobId) rfl) fun _ => ih _) (ih n)

lemma tick (armLead : ℤ) : P (tick armLead) := by
  refine h.bind (h.plain .clock rfl) fun passed => ?_
  refine h.bind (h.plain (.expand passed) rfl) fun expanded => ?_
  refine h.bind (h.plain .clock rfl) fun now => ?_
  refine h.bind (h.plain (.listJobs .scheduled) rfl) fun pending => ?_
  refine h.bind (h.armDue _ pending _) fun n => ?_
  refine h.bind (h.plain (.listJobs .arming) rfl) fun ready => ?_
  refine h.bind (h.startDue now ready n) fun n => ?_
  refine h.bind (h.plain (.listJobs .recording) rfl) fun due => ?_
  refine h.bind (h.finalizeDue now due n) fun n => ?_
  refine h.bind (h.plain (.listJobs .recording) rfl) fun recording => ?_
  exact h.bind (h.poll recording 0) fun _ => h.pure _

lemma discard {p : RecordingM α} (hp : P p) : P (discard p) :=
  h.bind (h.attempt hp) fun _ => h.pure ()

lemma code : (request : ServiceCall) → P request.code
  | .arm jobId => h.discard (h.arm jobId)
  | .start jobId => h.discard (h.start jobId)
  | .finalize jobId => h.discard (h.finalize jobId)
  | .stop jobId => h.discard (h.stop jobId)
  | .recordNow scheduleId suffix => h.discard (h.recordNow scheduleId suffix)
  | .recordNowFromSource name stationId source duration =>
    h.discard (h.recordNowFromSource name stationId source duration)
  | .cancel scheduleId => h.discard (h.cancelScheduledJobs scheduleId)
  | .drain => h.discard (h.drainInFlight drainOrder {})
  | .tick armLead => h.discard (h.tick armLead)

lemma requests (list : List ServiceCall) : P (requests list) := by
  induction list with
  | nil => exact h.pure ()
  | cons request rest ih => exact h.bind (h.code request) fun _ => ih

end Compositional

/-! ## The machine -/

/-- What a service is set up with. `indexed` is a database that has the unique index. -/
structure Station where
  stationId : String
  horizon : ℤ
  tz : Zone
  limit : ℕ
  indexed : Bool

structure World where
  schedules : List RecordingSchedule
  jobs : Jobs
  /-- The captures of the pipeline, and whether each of them was started. -/
  active : JobId → Option Bool
  assets : List (JobId × String)
  now : ℤ

namespace World

def dropCapture (w : World) (jobId : JobId) : World :=
  { w with active := fun id => if id = jobId then none else w.active id }

def setCapture (w : World) (jobId : JobId) (started : Bool) : World :=
  { w with active := fun id => if id = jobId then some started else w.active id }

/-- The tables after a write that may be refused. -/
def wrote (w : World) : Except StoreError Jobs → World
  | .ok jobs => { w with jobs := jobs }
  | .error _ => w

variable (c : Station)

def expansion (w : World) (now : ℤ) : Expansion :=
  expandJobsForHorizon w.schedules w.jobs c.stationId now c.horizon c.tz c.limit

/-- A write answers with the row it left, or with its error. -/
def Writes (result : Except StoreError Jobs) (jobId : JobId) : Except Failure RecordingJob → Prop
  | .ok row => ∃ jobs : Jobs, result = .ok jobs ∧ jobs.get jobId = some row
  | .error failure => ∃ error, result = .error error ∧ failure = .store error

/-- The faults that leave a capture that was active out of the pipeline. -/
def Fault.drops : Fault → Bool
  | .notStarted => true
  | .launchFailed => true
  | .terminateFailed => true
  | _ => false

def Replies (w : World) : (o : Op) → Except Failure o.Res → Prop
  | .clock, .ok now => w.now ≤ now
  | .deadlinePassed, .ok _ => True
  | .expand now, .ok n => n = (w.expansion c now).created.length
  | .getSchedule scheduleId, .ok r =>
    r = w.schedules.find? fun schedule => schedule.scheduleId = scheduleId
  | .getJob jobId, .ok r => r = w.jobs.get jobId
  | .listJobs state, .ok r => r = w.jobs.listJobs c.stationId (some state) c.limit
  | .listJobsOf scheduleId state, .ok r =>
    r = ((w.jobs.rows.filter fun job => job.stationId = c.stationId && job.state = state &&
      decide (job.scheduleId = some scheduleId)).mergeSort
        fun j k => k.plannedStart ≤ j.plannedStart).take c.limit
  | .createJob job, r => Writes (w.jobs.createJob job) job.jobId r
  | .setJobState jobId state u, r => Writes (w.jobs.setJobState jobId state u) jobId r
  | .probeArming jobId, .ok row => w.jobs.probeArming jobId = .ok row
  | .probeArming jobId, .error failure =>
    ∃ error, w.jobs.probeArming jobId = .error error ∧ failure = .store error
  | .commitArming row, .ok _ => ∃ jobs, w.jobs.commitArming c.indexed row = .ok jobs
  | .commitArming row, .error failure =>
    ∃ error, w.jobs.commitArming c.indexed row = .error error ∧ failure = .store error
  | .findOverlapping row, .ok r => r = w.jobs.findOverlapping row
  | .recordDropout _, .ok _ => True
  | .armCapture _, .ok _ => True
  | .armCapture jobId, .error failure => w.active jobId = none ∧ failure = .fault .armFailed
  | .startCapture jobId, .ok _ => (w.active jobId).isSome = true
  | .startCapture jobId, .error (.fault fault) =>
    (w.active jobId = none ∧ fault = .notActive) ∨
      ((w.active jobId).isSome = true ∧
        fault ∈ [Fault.exited, .windowElapsed, .launchFailed])
  | .takeCapture jobId, .ok _ => w.active jobId = some true
  | .takeCapture jobId, .error (.fault fault) =>
    (w.active jobId = none ∧ fault = .notActive) ∨
      (w.active jobId = some false ∧ fault = .notStarted) ∨
      (w.active jobId = some true ∧ fault = .terminateFailed)
  | .mergeCapture _, .ok (bytes : ℕ) => bytes ≠ 0
  | .mergeCapture _, .error failure => failure = .fault .mergeFailed
  | .stopArming _, .ok _ => True
  | .stopArming jobId, .error failure =>
    (w.active jobId).isSome = true ∧ failure = .fault .terminateFailed
  | .checkDropout jobId, .ok r => w.active jobId = none → r.dropoutDetected = false
  | .checkDropout jobId, .error failure =>
    (w.active jobId).isSome = true ∧ failure = .fault .terminateFailed
  | .finalizeToAsset _, .ok _ => True
  | .finalizeToAsset _, .error failure => failure = .fault .assetFailed
  | _, .error _ => False

/-- What a call leaves behind. -/
def next (w : World) : (o : Op) → Except Failure o.Res → World
  | .clock, .ok now => { w with now := now }
  | .expand now, .ok _ => { w with jobs := (w.expansion c now).jobs }
  | .createJob job, _ => w.wrote (w.jobs.createJob job)
  | .setJobState jobId state u, _ => w.wrote (w.jobs.setJobState jobId state u)
  | .commitArming row, _ => w.wrote (w.jobs.commitArming c.indexed row)
  | .recordDropout jobId, .ok _ => { w with jobs := w.jobs.recordDropout jobId }
  | .armCapture jobId, .ok _ =>
    if (w.active jobId).isSome then w else w.setCapture jobId false
  | .startCapture jobId, .ok _ => w.setCapture jobId true
  | .startCapture jobId, .error (.fault fault) =>
    if Fault.drops fault then w.dropCapture jobId else w
  | .takeCapture jobId, .ok _ => w.dropCapture jobId
  | .takeCapture jobId, .error _ => w.dropCapture jobId
  | .stopArming jobId, _ => w.dropCapture jobId
  | .finalizeToAsset jobId, .ok assetId => { w with assets := (jobId, assetId) :: w.assets }
  | _, _ => w

def machine : Machine recordingIface World where
  pre := fun _ _ => True
  legal := fun w o reply => w.Replies c o reply
  next := fun w o reply => w.next c o reply

/-- An answer to every call, of a pipeline and a finalizer that do not fail. -/
def reply (w : World) : (o : Op) → Option {x : Except Failure o.Res // w.Replies c o x}
  | .clock => some ⟨.ok w.now, le_refl w.now⟩
  | .deadlinePassed => some ⟨.ok false, trivial⟩
  | .expand now => some ⟨.ok (w.expansion c now).created.length, rfl⟩
  | .getSchedule scheduleId =>
    some ⟨.ok (w.schedules.find? fun schedule => schedule.scheduleId = scheduleId), rfl⟩
  | .getJob jobId => some ⟨.ok (w.jobs.get jobId), rfl⟩
  | .listJobs state => some ⟨.ok (w.jobs.listJobs c.stationId (some state) c.limit), rfl⟩
  | .listJobsOf _ _ => some ⟨.ok _, rfl⟩
  | .createJob job =>
    match h : w.jobs.createJob job with
    | .ok jobs =>
      match hget : jobs.get job.jobId with
      | some row => some ⟨.ok row, jobs, h, hget⟩
      | none => none
    | .error error => some ⟨.error (.store error), error, h, rfl⟩
  | .setJobState jobId state u =>
    match h : w.jobs.setJobState jobId state u with
    | .ok jobs =>
      match hget : jobs.get jobId with
      | some row => some ⟨.ok row, jobs, h, hget⟩
      | none => none
    | .error error => some ⟨.error (.store error), error, h, rfl⟩
  | .probeArming jobId =>
    match h : w.jobs.probeArming jobId with
    | .ok row => some ⟨.ok row, h⟩
    | .error error => some ⟨.error (.store error), error, h, rfl⟩
  | .commitArming row =>
    match h : w.jobs.commitArming c.indexed row with
    | .ok jobs => some ⟨.ok (), jobs, h⟩
    | .error error => some ⟨.error (.store error), error, h, rfl⟩
  | .findOverlapping row => some ⟨.ok (w.jobs.findOverlapping row), rfl⟩
  | .recordDropout _ => some ⟨.ok (), trivial⟩
  | .armCapture _ => some ⟨.ok (), trivial⟩
  | .startCapture jobId =>
    match h : w.active jobId with
    | some started => some ⟨.ok (), show (w.active jobId).isSome = true by rw [h]; rfl⟩
    | none => some ⟨.error (.fault .notActive), .inl ⟨h, rfl⟩⟩
  | .takeCapture jobId =>
    match h : w.active jobId with
    | some true => some ⟨.ok none, h⟩
    | some false => some ⟨.error (.fault .notStarted), .inr (.inl ⟨h, rfl⟩)⟩
    | none => some ⟨.error (.fault .notActive), .inl ⟨h, rfl⟩⟩
  | .mergeCapture _ => some ⟨.ok (1 : ℕ), Nat.one_ne_zero⟩
  | .stopArming _ => some ⟨.ok (), trivial⟩
  | .checkDropout _ => some ⟨.ok ⟨false, false⟩, fun _ => rfl⟩
  | .finalizeToAsset _ => some ⟨.ok "asset", trivial⟩

variable {c} {w : World}

lemma next_jobs {o : Op} (ho : o.isWrite = false) (reply : Except Failure o.Res) :
    (w.next c o reply).jobs = w.jobs := by
  cases o with
  | clock => cases reply <;> rfl
  | armCapture jobId =>
    cases reply with
    | ok _ =>
      show (if (w.active jobId).isSome then w else w.setCapture jobId false).jobs = w.jobs
      split <;> rfl
    | error failure => rfl
  | startCapture jobId =>
    rcases reply with failure | _
    · cases failure with
      | fault fault =>
        show (if Fault.drops fault then w.dropCapture jobId else w).jobs = w.jobs
        split <;> rfl
      | _ => rfl
    · rfl
  | takeCapture jobId | finalizeToAsset jobId => cases reply <;> rfl
  | stopArming jobId => rfl
  | _ => first | rfl | exact absurd ho (by simp [Op.isWrite])

variable {o : Op} {reply : Except Failure o.Res} {k : JobId} {row row' : RecordingJob}

lemma stays_modify {jobs : Jobs} {jobId : JobId} {f : RecordingJob → RecordingJob}
    (hf : ∀ j, (f j).jobId = j.jobId) (hsame : ∀ j, SameJob (f j) j)
    (hget : jobs.get k = some row) :
    ∃ row', (jobs.modify jobId f hf).get k = some row' ∧ SameJob row' row := by
  obtain ⟨row', hrow', horigin⟩ := Table.exists_get_modify hf hget
  refine ⟨row', hrow', ?_⟩
  rcases horigin with ⟨-, rfl⟩ | rfl
  · exact hsame row
  · exact .refl _

lemma stays_grown {ν : RecordingJob → Prop} {jobs jobs' : Jobs} (h : Grown ν jobs jobs')
    (hget : jobs.get k = some row) : jobs'.get k = some row :=
  Table.get_eq_some_iff.mpr ⟨h.1 row (Table.mem_of_get hget), Table.key_of_get hget⟩

/-- What an answer can make of the state of a row. -/
def Restates (o : Op) (row row' : RecordingJob) : Prop :=
  row'.state = row.state ∨
    (∃ u, o = .setJobState row.jobId row'.state u ∧ row'.state ∈ row.state.allowed) ∨
    ∃ row₀, o = .commitArming row₀ ∧ row'.state = .arming

/-- What an answer does to the jobs: nothing, or it adds some, or one row is rewritten. -/
lemma next_cases (c : Station) (w : World) (o : Op) (reply : Except Failure o.Res) :
    (w.next c o reply).jobs = w.jobs ∨
    Grown (fun j => o = .createJob j ∨ j.state = .scheduled) w.jobs (w.next c o reply).jobs ∨
    ∃ (id : JobId) (f : RecordingJob → RecordingJob) (hf : ∀ j, (f j).jobId = j.jobId),
      (w.next c o reply).jobs = w.jobs.modify id f hf ∧ (∀ j, SameJob (f j) j) ∧
      ∀ row, w.jobs.get id = some row → Restates o row (f row) := by
  cases o with
  | expand now =>
    cases reply with
    | ok n => exact .inr (.inl (grown_expandJobsForHorizon fun _ _ _ _ => .inr rfl))
    | error failure => exact .inl rfl
  | createJob job =>
    dsimp only [next]
    cases hcreate : w.jobs.createJob job with
    | error error => exact .inl rfl
    | ok jobs => exact .inr (.inl (grown_createJob hcreate (.inl rfl)))
  | setJobState jobId state u =>
    -- the state is one that the row allows, or the one it has
    dsimp only [next]
    cases hset : w.jobs.setJobState jobId state u with
    | error error => exact .inl rfl
    | ok jobs =>
      obtain ⟨row, hrow, hallowed, rfl⟩ := Jobs.setJobState_ok hset
      refine .inr (.inr ⟨jobId, u.apply state, fun _ => rfl, rfl,
        fun _ => ⟨rfl, rfl, rfl, rfl, rfl⟩, fun row' hrow' => ?_⟩)
      obtain rfl : row = row' := Option.some.inj (hrow.symm.trans hrow')
      obtain rfl := Table.key_of_get hrow
      rcases hallowed with hmem | heq
      · exact .inr (.inl ⟨u, rfl, hmem⟩)
      · exact .inl heq
  | commitArming row₀ =>
    dsimp only [next]
    cases hcommit : w.jobs.commitArming c.indexed row₀ with
    | error error => exact .inl rfl
    | ok jobs =>
      exact .inr (.inr ⟨row₀.jobId, Jobs.armed, fun _ => rfl, Jobs.commitArming_ok hcommit,
        fun _ => ⟨rfl, rfl, rfl, rfl, rfl⟩, fun _ _ => .inr (.inr ⟨row₀, rfl, rfl⟩)⟩)
  | recordDropout jobId =>
    cases reply with
    | ok _ =>
      exact .inr (.inr ⟨jobId, fun j => { j with dropoutCount := j.dropoutCount + 1 },
        fun _ => rfl, rfl, fun _ => ⟨rfl, rfl, rfl, rfl, rfl⟩, fun _ _ => .inl rfl⟩)
    | error failure => exact .inl rfl
  | _ => exact .inl (next_jobs rfl _)

lemma next_stays (hget : w.jobs.get k = some row) :
    ∃ row', (w.next c o reply).jobs.get k = some row' ∧ SameJob row' row := by
  rcases next_cases c w o reply with hsame | hgrown | ⟨id, f, hf, hjobs, hsame, -⟩
  · exact ⟨row, hsame ▸ hget, .refl row⟩
  · exact ⟨row, stays_grown hgrown hget, .refl row⟩
  · rw [hjobs]
    exact stays_modify hf hsame hget

/-- Where a row can come from: it was there, and has the state it had, or that of a write, or
is armed by a commit; or it is new. -/
lemma row_cases (hget : (w.next c o reply).jobs.get k = some row') :
    (∃ row, w.jobs.get k = some row ∧ SameJob row' row ∧
      (row'.state = row.state ∨
        (∃ u, o = .setJobState k row'.state u ∧ row'.state ∈ row.state.allowed) ∨
        ∃ row₀, o = .commitArming row₀ ∧ row'.state = .arming)) ∨
    (w.jobs.get k = none ∧ (o = .createJob row' ∨ row'.state = .scheduled)) := by
  rcases next_cases c w o reply with hsame | hgrown | ⟨id, f, hf, hjobs, hsame, hstate⟩
  · exact .inl ⟨row', hsame ▸ hget, .refl row', .inl rfl⟩
  · cases hold : w.jobs.get k with
    | some row =>
      have hrow := (stays_grown hgrown hold).symm.trans hget
      cases hrow
      exact .inl ⟨_, rfl, .refl _, .inl rfl⟩
    | none =>
      refine .inr ⟨rfl, ?_⟩
      rcases hgrown.2 row' (Table.mem_of_get hget) with hmem | hnew
      · exact absurd (Table.key_of_get hget) (Table.get_eq_none_iff.mp hold row' hmem)
      · exact hnew
  · rw [hjobs] at hget
    obtain ⟨row, hrow, horigin⟩ := Table.of_get_modify hf hget
    rcases horigin with ⟨rfl, rfl⟩ | rfl
    · obtain rfl := Table.key_of_get hrow
      exact .inl ⟨row, hrow, hsame row, hstate row hrow⟩
    · exact .inl ⟨row', hrow, .refl row', .inl rfl⟩

/-- The capture of a job as an answer leaves it: as it was, unless the call is about it. -/
lemma active_cases (c : Station) (w : World) (o : Op) (reply : Except Failure o.Res) (k : JobId) :
    (w.next c o reply).active k = w.active k ∨ o = .startCapture k ∨ o = .takeCapture k ∨
      o = .stopArming k ∨ o = .armCapture k ∧ w.active k = none := by
  have hother : ∀ {k'} {v : Option Bool}, k ≠ k' →
      (if k = k' then v else w.active k) = w.active k := fun hk => if_neg hk
  cases o with
  | armCapture k' =>
    cases reply with
    | ok _ =>
      -- an arming of a job that has a capture changes nothing
      by_cases hk : k = k'
      · subst hk
        cases hactive : w.active k with
        | none => simp
        | some b => simp [next, hactive]
      · dsimp only [next]
        split
        · exact .inl rfl
        · exact .inl (hother hk)
    | error failure => exact .inl rfl
  | startCapture k' =>
    by_cases hk : k = k'
    · exact .inr (.inl (hk ▸ rfl))
    · -- only a fault of the launch takes a capture out, its own
      rcases reply with failure | _
      · cases failure with
        | fault fault =>
          dsimp only [next]
          split
          · exact .inl (hother hk)
          · exact .inl rfl
        | _ => exact .inl rfl
      · exact .inl (hother hk)
  | takeCapture k' =>
    by_cases hk : k = k'
    · exact .inr (.inr (.inl (hk ▸ rfl)))
    · cases reply <;> exact .inl (hother hk)
  | stopArming k' =>
    by_cases hk : k = k'
    · exact .inr (.inr (.inr (.inl (hk ▸ rfl))))
    · exact .inl (hother hk)
  | createJob job =>
    dsimp only [next]
    cases w.jobs.createJob job <;> exact .inl rfl
  | setJobState k' state u =>
    dsimp only [next]
    cases w.jobs.setJobState k' state u <;> exact .inl rfl
  | commitArming row =>
    dsimp only [next]
    cases w.jobs.commitArming c.indexed row <;> exact .inl rfl
  | _ => cases reply <;> exact .inl rfl

end World

end CivicCast.Recording
