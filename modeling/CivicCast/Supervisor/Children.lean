import CivicCast.Supervisor.Seams

/-! # Child specs, readiness checks, the bounded poll and the backoff

`children.py`, with the Job Object controller of `job_object.py`. The poll is
the source's `while True` loop: it asks the interface for a number of rounds
and recurses on it, so every completed poll is one for some number of rounds.
-/

namespace CivicCast.Supervisor

open Lib

/-! ## Specs -/

/-- `_spec_for`. The optional child's spec comes from its provider instead. -/
def specFor (name : ChildName) (maintenance : Bool) : Except PyError ChildSpec :=
  match name with
  | .postgres => .ok { readinessBudgetSeconds := 60 }
  | .controlPlane => .ok
      { mode := if maintenance then .maintenance else .normal
        readinessBudgetSeconds := 180
        readinessStallSeconds := some 60 }
  | .ollama => .error .value

/-! ## Readiness -/

/-- `ReadinessOutcome`. -/
inductive ReadinessOutcome where
  | ready
  | notReady
  | timeout
  | aborted
deriving DecidableEq

/-- A probe that returns `True` is ready; one that raises is not. -/
def probeOutcome (ok : Option Bool) : ReadinessOutcome :=
  if ok = some true then .ready else .notReady

def checkPostgresReady : SupM ReadinessOutcome := do
  let ok : Option Bool ← call .postgresProbe
  return probeOutcome ok

def checkOllamaReady : SupM ReadinessOutcome := do
  let ok : Option Bool ← call .ollamaProbe
  return probeOutcome ok

/-- `GET /health` 200, nothing more. -/
def checkControlPlaneReady : SupM ReadinessOutcome := do
  let probe : Option ControlPlaneHealthProbe ← call .healthProbe
  return if probe.any (fun p => p.statusCode = 200) then .ready else .notReady

/-- The fail-closed maintenance attestation. -/
def ControlPlaneHealthProbe.attestsMaintenance (p : ControlPlaneHealthProbe) : Bool :=
  p.statusCode = 200 ∧ p.mode = some .maintenance ∧ p.workersStarted = some false ∧
    p.mutatingDisabled = some true ∧ p.modeContract = some 1

def checkControlPlaneMaintenanceReady : SupM ReadinessOutcome := do
  let probe : Option ControlPlaneHealthProbe ← call .healthProbe
  return if probe.any ControlPlaneHealthProbe.attestsMaintenance then .ready else .notReady

def readinessCheckFor (name : ChildName) (maintenance : Bool) : SupM ReadinessOutcome :=
  match name with
  | .postgres => checkPostgresReady
  | .controlPlane =>
    if maintenance then checkControlPlaneMaintenanceReady else checkControlPlaneReady
  | .ollama => checkOllamaReady

/-- `_abort_requested`: either stop mechanism has begun. -/
def abortRequested : SupM Bool := do
  let intent : Bool ← call .stopIntent
  if intent then return true else call .shouldAbort

/-- A loop that is still going after its rounds. -/
def diverge {α : Type} : SupM α := do
  let e : Empty ← call .diverge
  nomatch e

/-- One sample of the child's CPU seconds, when the poll has that seam. -/
def sampleProgress : Option Handle → SupM (Option ℚ)
  | none => return none
  | some h => call (.cpuSeconds h)

/-- The child exited, as far as a poll with the liveness seam can tell. -/
def exited : Option Handle → SupM Bool
  | none => return false
  | some h => do
    let alive : Bool ← call (.isAlive h)
    return !alive

/-- What a poll remembers between rounds. -/
structure PollMemory where
  lastProgress : Option ℚ
  lastProgressAt : ℚ

/-- The no-progress rule at time `now`: `none` when the child stalled for a
whole window, else what to remember. A sample that could not be taken restarts
the window. -/
def stallStep (stallSeconds : ℚ) (m : PollMemory) (current : Option ℚ) (now : ℚ) :
    Option PollMemory :=
  match current, m.lastProgress with
  | some c, some p =>
    if p < c then some ⟨some c, now⟩
    else if stallSeconds ≤ now - m.lastProgressAt then none
    else some m
  | _, _ => some ⟨current, now⟩

/-- The stall rule of a poll, active when it has both a handle and a window. -/
def stallCheck (watched : Option Handle) (stallSeconds : Option ℚ) (m : PollMemory) (now : ℚ) :
    SupM (Option PollMemory) :=
  match watched, stallSeconds with
  | some h, some window => do
    let current : Option ℚ ← call (.cpuSeconds h)
    return stallStep window m current now
  | _, _ => return some m

/-- The `while True` of `poll_until_ready`. `watched` carries the progress and
liveness seams, which the source supplies together. -/
def pollLoop (check : SupM ReadinessOutcome) (watched : Option Handle) (stallSeconds : Option ℚ)
    (deadline : ℚ) : ℕ → PollMemory → SupM ReadinessOutcome
  | 0, _ => diverge
  | fuel + 1, m => do
    if ← abortRequested then return .aborted
    else
      let result ← check
      -- the check may have taken long: a stop that came meanwhile wins over its result
      if ← abortRequested then return .aborted
      -- also after a ready answer: another listener must not make a dead child look ready
      else if ← exited watched then return .notReady
      else if result = .ready then return .ready
      else
        let now : ℚ ← call .clock
        -- the stall rule comes before the budget: either ends the poll with a timeout
        match ← stallCheck watched stallSeconds m now with
        | none => return .timeout
        | some m' =>
          if deadline ≤ now then return .timeout
          else
            call (.sleep 1)
            pollLoop check watched stallSeconds deadline fuel m'

def pollUntilReady (check : SupM ReadinessOutcome) (budgetSeconds : ℚ) (watched : Option Handle)
    (stallSeconds : Option ℚ) : SupM ReadinessOutcome := do
  let start : ℚ ← call .clock
  let lastProgress ← sampleProgress watched
  let lastProgressAt : ℚ ← call .clock
  let fuel : ℕ ← call .rounds
  pollLoop check watched stallSeconds (start + budgetSeconds) fuel ⟨lastProgress, lastProgressAt⟩

/-! ## Backoff -/

/-- `backoff_with_jitter`. A jitter of zero does not call the generator. -/
def backoffWithJitter (attempt : ℤ) (cfg : SupervisorConfig) : SupM ℚ := do
  let base ← Prog.ofExcept
    (backoffBaseSeconds attempt cfg.backoffInitialSeconds cfg.backoffMaxSeconds)
  if cfg.backoffJitterFraction ≤ 0 then return base
  else
    let r : ℚ ← call .rng
    return max (base * (1 + (r * 2 - 1) * cfg.backoffJitterFraction)) 0

def restartStormCheck (restartEpochs : List ℚ) (now : ℚ) (cfg : SupervisorConfig) : Bool :=
  isRestartStorm restartEpochs now cfg.restartStormWindowSeconds cfg.restartStormThreshold

/-! ## The Job Object -/

def errorAlreadyInJob : ℤ := 5

/-- `ensure_job`: create and configure the job once. -/
def ensureJob : SupM ℕ := do
  let s ← self
  match s.jobHandle with
  | some job => return job
  | none => do
    let created : Except Fault ℕ ← call .createJob
    let job ← orRaise created
    let configured : Except Fault Unit ← call (.configureJob job)
    orRaise configured
    write (.jobHandle (some job))
    return job

/-- What `assign_child` does with a fault of the raw assignment: the pid counts
as assigned only on a positively confirmed membership. -/
def acceptMembership (job pid : ℕ) (acceptForeign : Bool) (fault : Fault) : SupM Unit := do
  if fault ≠ some errorAlreadyInJob then Prog.raise (.fault fault)
  else
    let inThis : Except Fault Bool ← call (.isProcessInJob job pid)
    if ← orRaise inThis then return ()
    else if !acceptForeign then Prog.raise (.fault fault)
    else
      let inAny : Except Fault Bool ← call (.isProcessInAnyJob pid)
      if ← orRaise inAny then return () else Prog.raise (.fault fault)

/-- The body of `assign_child`. -/
def assignChildBody (pid : ℕ) (acceptForeign : Bool) : SupM Unit := do
  let s ← self
  if pid ∈ s.assignedPids then return ()
  else
    let job ← ensureJob
    let assigned : Except Fault Unit ← call (.assignProcess job pid)
    match assigned with
    | .ok () => write (.assignedPid pid)
    | .error fault => do
      -- only a fault that turns out to be harmless reaches the assignment
      acceptMembership job pid acceptForeign fault
      write (.assignedPid pid)

/-- `JobObjectController.assign_child`, with its entry and exit observed. -/
def assignChild (pid : ℕ) (acceptForeign : Bool) : SupM Unit := do
  call (.mark (.assignEnter pid))
  (assignChildBody pid acceptForeign).andFinally (call (.mark (.assignExit pid)))

/-- `JobObjectController.close`. -/
def closeJob : SupM Unit := do
  let s ← self
  match s.jobHandle with
  | none => call (.mark .closed)
  | some job => do
    call (.closeJob job)
    write (.jobHandle none)
    write .assignedPidsReset
    call (.mark .closed)

/-- `sweep_stragglers`, then `_swept = True`. -/
def sweepOnce : SupM Unit := do
  let existing : Option ℕ ← call .openExistingJob
  match existing with
  | none => write .swept
  | some job => do
    let _pids : List ℕ ← call (.listJobProcessIds job)
    call (.terminateJob job 1)
    call (.closeJob job)
    write .swept

end CivicCast.Supervisor
