import CivicCast.Lib.Interleave

/-!
# The finalization worker

`LiveFinalizationWorker.run_once` looks at the sessions whose recording is not packaged yet: it
observes the recording file until it is settled, makes the asset, packages the recording for
playback with the trim of the asset, uploads the package and records all of it on the job. A
completed job whose asset got another trim is queued again.

Every transaction, every file and every external tool is a call, and any of them can raise or be
the last thing the process does. `packVodAsset` is here as far as it writes files: which packager
call wrote what of a package is all that is kept of their content.
-/

namespace CivicCast.Live.Finalization

open Lib Lib.Prog Function

inductive JobState where
  | pending
  | running
  | failed
  | completed
  deriving DecidableEq

inductive FailureCode where
  | cdnUploadFailed
  | internalError
  | invalidTrim
  | packageFailed
  | probeFailed
  | recordingNeverAppeared
  | recordingNotLocal
  | workerInterrupted
  deriving DecidableEq

/-- `trim_in_seconds` and `trim_out_seconds`. -/
structure Trim where
  trimIn : Option ℚ
  trimOut : Option ℚ
  deriving DecidableEq

/-- What the packager and the finalizer ask of a trim. -/
def Trim.valid : Trim → Bool
  | ⟨none, none⟩ => true
  | ⟨some i, none⟩ => 0 ≤ i
  | ⟨none, some o⟩ => 0 < o
  | ⟨some i, some o⟩ => 0 ≤ i && 0 < o && i < o

/-- The trim ends inside the recording, where its duration is known. -/
def Trim.within (trim : Trim) (duration : Option ℚ) : Bool :=
  match trim.trimOut, duration with
  | some o, some d => o ≤ d
  | _, _ => true

/-- A recording lies in a directory under the name of its session, or its URI is not a local
path. -/
inductive RecordingUri (P : Type) where
  | file (dir : P)
  | other
  deriving DecidableEq

def localRecordingPath {P : Type} : RecordingUri P → Option P
  | .file dir => some dir
  | .other => none

/-- `LiveFinalizationJob`. A package is known by the directory of its recording. -/
structure Job (K P : Type) where
  state : JobState
  attempts : ℕ
  maxAttempts : ℕ
  recordingUri : Option (RecordingUri P)
  recordingSizeBytes : Option ℕ
  lastObservedSizeBytes : Option ℕ
  lastObservedAt : Option ℚ
  nextAttemptAt : Option ℚ
  startedAt : Option ℚ
  failureCode : Option FailureCode
  assetId : Option K
  localPackageManifestPath : Option P
  trim : Trim
  packagedTrim : Trim
  deriving DecidableEq

inductive SessionState where
  | ending
  | recorded
  | other
  deriving DecidableEq

structure LiveSession where
  state : SessionState
  endedAt : Option ℚ
  deriving DecidableEq

/-- `live` says that the asset is of the session of its name. -/
structure Asset where
  trim : Trim
  live : Bool
  deriving DecidableEq

/-- The arguments of the worker; `cdn` says whether it has an adapter. -/
structure Settings where
  settleSeconds : ℚ
  maxAttempts : ℕ
  backoffSeconds : ℚ
  runningLeaseSeconds : ℚ
  neverAppearedSeconds : ℚ
  cdn : Bool

/-! ## A package on disk -/

/-- What the packager writes, in this order. -/
inductive Part where
  | slate
  | rendition (n : ℕ)
  | manifest
  | timeline
  deriving DecidableEq

/-- A call of the packager: the trim it was given, what it has written, and whether it has come
to its end. -/
structure PackCall where
  trim : Trim
  written : List Part
  succeeded : Bool
  deriving DecidableEq

/-- The directory of a package: the packager calls, the last one first, and which of them, counted
from the first, wrote each file last. -/
structure Shelf where
  calls : List PackCall
  writer : Part → Option ℕ

namespace Shelf

def bare : Shelf := ⟨[], fun _ => none⟩

def hasManifest (s : Shelf) : Bool := (s.writer .manifest).isSome

def start (s : Shelf) (trim : Trim) : Shelf := { s with calls := ⟨trim, [], false⟩ :: s.calls }

/-- The call at work writes a part; the timeline is the last. -/
def write (s : Shelf) (part : Part) (done : Bool) : Shelf :=
  match s.calls with
  | [] => s
  | c :: earlier =>
    { calls := ⟨c.trim, part :: c.written, done && part = .timeline⟩ :: earlier
      writer := update s.writer part (some earlier.length) }

/-- What is on disk is the output of a packager call that succeeded with this trim, and no later
call has overwritten a part of it. -/
def Holds (s : Shelf) (trim : Trim) : Prop :=
  ∃ later c earlier, s.calls = later ++ c :: earlier ∧ c.succeeded = true ∧ c.trim = trim ∧
    ∀ part ∈ c.written, s.writer part = some earlier.length

/-- The last packager call that wrote anything. -/
def last (s : Shelf) : Option PackCall := s.calls.find? fun c => !c.written.isEmpty

end Shelf

/-! ## The calls -/

/-- The calls of the worker, and those of everybody else. Sessions go by `K`, directories by
`P`. -/
inductive FinOp (K P : Type) where
  | requeueTrimDrift
  | candidateSessionIds
  /-- `_recording_path_for_session`, and the size of the file. -/
  | recordingPath (id : K)
  | observeJob (id : K) (uri : Option (RecordingUri P)) (size : Option ℕ) (now : ℚ)
    (maxAttempts : ℕ)
  | endedAt (id : K)
  | neverAppeared (id : K)
  | recordingSize (dir : P) (id : K)
  | lastObservedAt (id : K)
  | startAttempt (id : K) (now : ℚ)
  | getStatus (id : K)
  | probe (dir : P) (id : K)
  | finalizeRecording (id : K) (trim : Trim) (duration : Option ℚ)
  /-- Is there a manifest, of the trim that is asked for? -/
  | isPackaged (dir : P) (id : K) (packaged requested : Trim)
  | isFile (dir : P) (id : K)
  | mkdir (dir : P) (id : K) (trim : Trim)
  | selectLadder (dir : P) (id : K)
  | write (dir : P) (id : K) (part : Part)
  | uploadPackage (dir : P) (id : K)
  | complete (id : K) (dir : P) (trim : Trim)
  | recordFailure (id : K) (code : FailureCode) (now backoffSeconds : ℚ)
  /-- An operator changes the trim of an asset. -/
  | editTrim (id : K) (trim : Trim)
  | requestRetry (id : K)
  /-- A broadcast ends. -/
  | endBroadcast (id : K) (at_ : ℚ)

/-- What `finalize_recording` raises, if it does. -/
inductive FinalizeError where
  | valueError
  | other
  deriving DecidableEq

namespace FinOp

variable {K P : Type}

/-- A write answers `false` where the encoder failed, having touched the file. -/
def Res : FinOp K P → Type
  | candidateSessionIds => List K
  | recordingPath _ => Option P × Option ℕ
  | observeJob .. | neverAppeared _ | complete .. | recordFailure .. => Job K P
  | endedAt _ | lastObservedAt _ | probe _ _ => Option ℚ
  | recordingSize _ _ => Option ℕ
  | getStatus _ => Option (Job K P)
  | finalizeRecording _ _ _ => Except FinalizeError Trim
  | isPackaged .. | isFile _ _ | write _ _ _ => Bool
  | selectLadder _ _ => List ℕ
  | _ => Unit

def isOperator : FinOp K P → Bool
  | editTrim _ _ | requestRetry _ | endBroadcast _ _ => true
  | _ => false

end FinOp

/-- A call gives a value, raises, or is where the process dies. -/
inductive Answer (α : Type) where
  | value (x : α)
  | raised
  | died

abbrev finIface (K P : Type) : Iface where
  Op := FinOp K P
  Ans := fun o => Answer o.Res

/-- The exceptions. `died` is the end of the process, and no handler sees it. -/
inductive FinError where
  | died
  | valueError
  | raised
  | classified (code : FailureCode)
  deriving DecidableEq

abbrev FinM (K P : Type) := Prog (finIface K P) FinError

section Worker

variable {K P : Type}

def ask (o : FinOp K P) : FinM K P o.Res :=
  .call o fun
    | .value x => .ret x
    | .raised => .raise .raised
    | .died => .raise .died

/-- `try` with an `except Exception`. -/
def exceptAny {α : Type} (p : FinM K P α) (handler : FinError → FinM K P α) : FinM K P α := do
  match ← p.attempt with
  | .ok a => return a
  | .error .died => .raise .died
  | .error e => handler e

/-! ## The packager -/

def writePart (dir : P) (id : K) (part : Part) : FinM K P Unit := do
  let done : Bool ← ask (.write dir id part)
  if done then return () else .raise .raised

/-- A plain slate where the one with text fails. -/
def generateSlate (dir : P) (id : K) : FinM K P Unit := do
  let done : Bool ← ask (.write dir id .slate)
  if done then return () else writePart dir id .slate

def encodeRenditions (dir : P) (id : K) : List ℕ → FinM K P Unit
  | [] => return ()
  | n :: rest => do
    writePart dir id (.rendition n)
    encodeRenditions dir id rest

def packVodAsset (dir : P) (id : K) (trim : Trim) : FinM K P Unit := do
  let there : Bool ← ask (.isFile dir id)
  if there then
    if trim.valid then
      ask (.mkdir dir id trim)
      generateSlate dir id
      let ladder : List ℕ ← ask (.selectLadder dir id)
      encodeRenditions dir id ladder
      writePart dir id .manifest
      writePart dir id .timeline
    else .raise .valueError
  else .raise .raised

/-! ## An attempt -/

def packageOnce (dir : P) (id : K) (requested packaged : Trim) : FinM K P P := do
  let skip : Bool ← ask (.isPackaged dir id packaged requested)
  if skip then return dir
  else
    packVodAsset dir id requested
    return dir

/-- `finalize_recording`, whose `ValueError` is an invalid trim. -/
def finalizeRecording (id : K) (trim : Trim) (duration : Option ℚ) : FinM K P Trim := do
  let result : Except FinalizeError Trim ← ask (.finalizeRecording id trim duration)
  match result with
  | .ok trim => return trim
  | .error .valueError => .raise (.classified .invalidTrim)
  | .error .other => .raise .raised

def recordFailure (cfg : Settings) (id : K) (failure : FinError) (now : ℚ) : FinM K P (Job K P) :=
  let code := match failure with
    | .classified code => code
    | _ => .internalError
  ask (.recordFailure id code now cfg.backoffSeconds)

/-- `_attempt_job` inside its `try`. -/
def attempted (cfg : Settings) (id : K) : FinM K P (Job K P) := do
  let status : Option (Job K P) ← ask (.getStatus id)
  match status.bind fun job => job.recordingUri.map (job, ·) with
  | none => .raise (.classified .recordingNotLocal)
  | some (job, uri) =>
    match localRecordingPath uri with
    | none => .raise (.classified .recordingNotLocal)
    | some dir => do
      let duration : Option ℚ ←
        exceptAny (ask (.probe dir id)) fun _ => .raise (.classified .probeFailed)
      let trim ← finalizeRecording id job.trim duration
      let package ← exceptAny (packageOnce dir id trim job.packagedTrim) fun _ =>
        .raise (.classified .packageFailed)
      if cfg.cdn then
        exceptAny (ask (.uploadPackage package id)) fun _ => .raise (.classified .cdnUploadFailed)
        ask (.complete id package trim)
      else ask (.complete id package trim)

def attemptJob (cfg : Settings) (id : K) (now : ℚ) : FinM K P (Job K P) := do
  ask (.startAttempt id now)
  exceptAny (attempted cfg id) fun failure => recordFailure cfg id failure now

/-! ## A scan -/

def ensureOrObserveJob (cfg : Settings) (id : K) (now : ℚ) : FinM K P (Job K P) := do
  let found : Option P × Option ℕ ← ask (.recordingPath id)
  ask (.observeJob id (found.1.map .file) found.2 now cfg.maxAttempts)

def recoverStaleRunning (cfg : Settings) (id : K) (job : Job K P) (now : ℚ) :
    FinM K P (Option (Job K P)) :=
  match job.state, job.startedAt with
  | .running, some startedAt =>
    if now - startedAt ≤ cfg.runningLeaseSeconds then return none
    else do
      let job ← recordFailure cfg id (.classified .workerInterrupted) now
      return some job
  | _, _ => return none

def failNeverAppeared (cfg : Settings) (id : K) (job : Job K P) (now : ℚ) :
    FinM K P (Option (Job K P)) :=
  if job.state = .pending ∧ job.recordingSizeBytes = none then do
    let endedAt : Option ℚ ← ask (.endedAt id)
    match endedAt with
    | none => return none
    | some endedAt =>
      if now - endedAt ≤ cfg.neverAppearedSeconds then return none
      else do
        let job : Job K P ← ask (.neverAppeared id)
        return some job
  else return none

def jobDue (job : Job K P) (now : ℚ) : Bool :=
  job.state ≠ .completed && job.state ≠ .running && job.attempts < job.maxAttempts &&
    match job.nextAttemptAt with
    | none => true
    | some next => next ≤ now

def jobSettled (cfg : Settings) (id : K) (job : Job K P) (now : ℚ) : FinM K P Bool :=
  match job.recordingUri.bind localRecordingPath, job.recordingSizeBytes with
  | some dir, some size => do
    let current : Option ℕ ← ask (.recordingSize dir id)
    if current = some size then
      let observedAt : Option ℚ ← ask (.lastObservedAt id)
      match observedAt with
      | none => return false
      | some observedAt => return decide (cfg.settleSeconds ≤ now - observedAt)
    else return false
  | _, _ => return false

/-- The attempt of a scan, if the job is due and its recording settled. -/
def attemptIfReady (cfg : Settings) (id : K) (job : Job K P) (now : ℚ) : FinM K P (Job K P) :=
  if jobDue job now then do
    let settled ← jobSettled cfg id job now
    if settled then attemptJob cfg id now else return job
  else return job

def visit (cfg : Settings) (id : K) (now : ℚ) : FinM K P (Job K P) := do
  let job ← ensureOrObserveJob cfg id now
  let recovered ← recoverStaleRunning cfg id job now
  match recovered with
  | some job => return job
  | none =>
    let expired ← failNeverAppeared cfg id job now
    match expired with
    | some job => return job
    | none => attemptIfReady cfg id job now

def visitAll (cfg : Settings) (now : ℚ) : List K → FinM K P (List (Job K P))
  | [] => return []
  | id :: rest => do
    let status ← visit cfg id now
    let statuses ← visitAll cfg now rest
    return status :: statuses

def runOnce (cfg : Settings) (now : ℚ) : FinM K P (List (Job K P)) := do
  ask .requeueTrimDrift
  let ids : List K ← ask .candidateSessionIds
  visitAll cfg now ids

/-- Scans at these times. A scan that raises is logged; after one in which the process died the
next is of a new process. -/
def runForever (cfg : Settings) : List ℚ → FinM K P Unit
  | [] => return ()
  | now :: rest => do
    let _ ← (runOnce cfg now).attempt
    runForever cfg rest

end Worker

/-! ## The database and the disk -/

/-- The tables, and the packages on disk. -/
structure World (K P : Type) where
  jobs : K → Option (Job K P)
  sessions : K → Option LiveSession
  assets : K → Option Asset
  shelves : P → K → Shelf

namespace Job

variable {K P : Type} (job : Job K P)

/-- Pending again, with a fresh attempt budget. -/
def requeued : Job K P :=
  { job with state := .pending, attempts := 0, nextAttemptAt := none, failureCode := none }

/-- `_ensure_or_observe_job` on a row that is there. -/
def observed (uri : Option (RecordingUri P)) (size : Option ℕ) (now : ℚ) : Job K P :=
  let job := { job with recordingUri := uri.or job.recordingUri }
  match size with
  | none => job
  | some size =>
    if job.lastObservedSizeBytes = some size then { job with recordingSizeBytes := some size }
    else
      { job with
        lastObservedSizeBytes := some size
        lastObservedAt := some now
        recordingSizeBytes := some size }

/-- The row `_ensure_or_observe_job` makes. -/
def new (uri : Option (RecordingUri P)) (size : Option ℕ) (now : ℚ) (maxAttempts : ℕ) :
    Job K P where
  state := .pending
  attempts := 0
  maxAttempts := maxAttempts
  recordingUri := uri
  recordingSizeBytes := size
  lastObservedSizeBytes := size
  lastObservedAt := size.map fun _ => now
  nextAttemptAt := none
  startedAt := none
  failureCode := none
  assetId := none
  localPackageManifestPath := none
  trim := ⟨none, none⟩
  packagedTrim := ⟨none, none⟩

def neverAppeared : Job K P :=
  { job with
    state := .failed
    attempts := job.maxAttempts
    failureCode := some .recordingNeverAppeared
    nextAttemptAt := none }

def started (now : ℚ) : Job K P := { job with state := .running, startedAt := some now }

def failed (code : FailureCode) (now backoffSeconds : ℚ) : Job K P :=
  let attempts := job.attempts + 1
  { job with
    state := .failed
    attempts := attempts
    failureCode := some code
    nextAttemptAt :=
      if attempts < job.maxAttempts then some (now + backoffSeconds * 2 ^ (attempts - 1))
      else none }

def completed (id : K) (dir : P) (trim : Trim) : Job K P :=
  { job with
    state := .completed
    failureCode := none
    assetId := some id
    localPackageManifestPath := some dir
    trim := trim
    packagedTrim := trim }

def Terminal : Prop := job.state = .failed ∧ job.maxAttempts ≤ job.attempts

instance : Decidable job.Terminal := inferInstanceAs (Decidable (_ ∧ _))

end Job

namespace World

variable {K P : Type} [DecidableEq K] [DecidableEq P] (w : World K P)

/-- A completed job whose asset has another trim than its package. -/
def drifted (job : Job K P) : Bool :=
  job.state = .completed &&
    match job.assetId.bind w.assets with
    | none => false
    | some asset => asset.trim ≠ job.packagedTrim

/-- `_candidate_session_ids`: an ending session, or a job that is not completed, and not a job
that has failed for good. -/
def Candidate (id : K) : Prop :=
  ((∃ session ∈ w.sessions id, session.state = .ending) ∨
      ∃ job ∈ w.jobs id, job.state ≠ .completed) ∧
    ∀ job ∈ w.jobs id, ¬ job.Terminal

instance (id : K) : Decidable (w.Candidate id) := inferInstanceAs (Decidable ((_ ∨ _) ∧ _))

def Candidates (ids : List K) : Prop := ids.Nodup ∧ ∀ id, id ∈ ids ↔ w.Candidate id

def putJob (id : K) (job : Job K P) : World K P :=
  { w with jobs := update w.jobs id (some job) }

def withJob (id : K) (f : Job K P → Job K P) : World K P :=
  match w.jobs id with
  | none => w
  | some job => w.putJob id (f job)

def withShelf (dir : P) (id : K) (f : Shelf → Shelf) : World K P :=
  { w with
    shelves := update w.shelves dir
      (update (w.shelves dir) id (f (w.shelves dir id))) }

def observed (id : K) (uri : Option (RecordingUri P)) (size : Option ℕ) (now : ℚ)
    (maxAttempts : ℕ) : Job K P :=
  match w.jobs id with
  | none => .new uri size now maxAttempts
  | some job => job.observed uri size now

/-- `finalize_recording`: what it raises, or the trim of the asset and whether it is new. -/
def finalized (id : K) (trim : Trim) (duration : Option ℚ) : Except FinalizeError (Trim × Bool) :=
  if trim.valid && trim.within duration then
    match (w.sessions id).map LiveSession.state, w.assets id with
    | some .recorded, some asset => if asset.live then .ok (asset.trim, false) else .error .other
    | some .ending, none => .ok (trim, true)
    | _, _ => .error .other
  else .error .valueError

/-- `finalize_recording` on the tables. -/
def finalize (id : K) (trim : Trim) (duration : Option ℚ) : World K P :=
  match w.finalized id trim duration with
  | .ok (trim, true) =>
    { w with
      assets := update w.assets id (some ⟨trim, true⟩)
      sessions := update w.sessions id
        ((w.sessions id).map fun session => { session with state := .recorded }) }
  | _ => w

/-- The values that can be answered. The recording file and the tools answer as they like. -/
def Legal : (o : FinOp K P) → Answer o.Res → Prop
  | .candidateSessionIds, .value ids => w.Candidates ids
  | .observeJob id uri size now maxAttempts, .value job =>
    job = w.observed id uri size now maxAttempts
  | .endedAt id, .value x => x = (w.sessions id).bind (·.endedAt)
  | .neverAppeared id, .value x => (w.jobs id).map (·.neverAppeared) = some x
  | .lastObservedAt id, .value x => (w.jobs id).map (·.lastObservedAt) = some x
  | .startAttempt id _, .value _ => (w.jobs id).isSome = true
  | .getStatus id, .value x => x = w.jobs id
  | .finalizeRecording id trim duration, .value x =>
    x = (w.finalized id trim duration).map Prod.fst
  | .isPackaged dir id packaged requested, .value x =>
    x = ((w.shelves dir id).hasManifest && packaged = requested)
  | .complete id dir trim, .value x => (w.jobs id).map (·.completed id dir trim) = some x
  | .recordFailure id code now backoffSeconds, .value x =>
    (w.jobs id).map (·.failed code now backoffSeconds) = some x
  | _, _ => True

def after : (o : FinOp K P) → Answer o.Res → World K P
  | .requeueTrimDrift, .value _ =>
    { w with
      jobs := fun id => (w.jobs id).map fun job => if w.drifted job then job.requeued else job }
  | .observeJob id _ _ _ _, .value job => w.putJob id job
  | .neverAppeared id, .value _ => w.withJob id (·.neverAppeared)
  | .startAttempt id now, .value _ => w.withJob id (·.started now)
  | .finalizeRecording id trim duration, .value _ => w.finalize id trim duration
  | .mkdir dir id trim, .value _ => w.withShelf dir id (·.start trim)
  | .write dir id part, .value done => w.withShelf dir id (·.write part done)
  | .complete id dir trim, .value _ => w.withJob id (·.completed id dir trim)
  | .recordFailure id code now backoffSeconds, .value _ =>
    w.withJob id (·.failed code now backoffSeconds)
  | .editTrim id trim, .value _ =>
    { w with
      assets := update w.assets id
        ((w.assets id).map fun asset => { asset with trim := trim }) }
  | .requestRetry id, .value _ =>
    w.withJob id fun job =>
      if job.state = .running ∨ job.state = .completed then job else job.requeued
  | .endBroadcast id at_, .value _ =>
    { w with
      sessions := update w.sessions id
        (if (w.sessions id).map (·.state) = some .recorded then w.sessions id
          else some ⟨.ending, some at_⟩) }
  | _, _ => w

def machine : Machine (finIface K P) (World K P) where
  pre := fun _ _ => True
  legal := Legal
  next := after

/-- Where packaging is skipped, the last packager call that wrote to the package succeeded, and
with the trim that is asked for. -/
def Settled : (o : FinOp K P) → Answer o.Res → Prop
  | .isPackaged dir id _ requested, .value x =>
    x = true → ∃ c ∈ (w.shelves dir id).last, c.succeeded = true ∧ c.trim = requested
  | _, _ => True

/-- The machine for the runs in which packaging is skipped only so. -/
def settledMachine : Machine (finIface K P) (World K P) where
  pre := fun _ _ => True
  legal := fun w o x => w.Legal o x ∧ w.Settled o x
  next := after

/-- Every completed job names a package that one packager call made, with the trim that the job
has recorded, and that no later call has overwritten. -/
def Published : Prop :=
  ∀ id job, w.jobs id = some job → job.state = .completed →
    ∃ dir, job.localPackageManifestPath = some dir ∧ (w.shelves dir id).Holds job.packagedTrim

end World

end CivicCast.Live.Finalization
