import CivicCast.Supervisor.Children

/-! # The supervisor's orchestration

`core.Supervisor`: starting one child, the full bring-up, the maintenance
interlock, the reconciliation tick, the graceful stop and the control-plane
restart, and the admin router's `restart` in front of the last.

A function of the source that is one long method is cut at its critical
sections: `decideAndSpawn` is the body of the lifecycle lock in
`_start_child`, `handOverPostmaster` what follows a ready postgres poll.
-/

namespace CivicCast.Supervisor

open Lib

/-- `ChildStartStatus`. -/
inductive ChildStartStatus where
  | startedReady
  | guardBlocked
  | notEligible
  | notReady
  | skipped
  | aborted
deriving DecidableEq

/-- `ChildStartOutcome`, without its texts. -/
structure ChildStartOutcome where
  name : ChildName
  status : ChildStartStatus
  pid : Option ℕ := none
deriving DecidableEq

/-- `_dispatch`: read the state, then assign the transition. -/
def dispatch (event : SupervisorEvent) : SupM Unit := do
  let s ← self
  write (.state (supervisorTransition s.state event))

def interlockFreedEvent (action : GuardAction) : SupervisorEvent :=
  if action.authorizes then .interlockFreedClear
  else if action = .blockedProbeUnavailable then .interlockFreedBlockedProbe
  else .interlockFreedBlockedWsl

def guardBlockEvent (action : GuardAction) : SupervisorEvent :=
  if action = .blockedProbeUnavailable then .guardBlockProbe else .guardBlockWsl

def isWriterCapable (name : ChildName) (maintenance : Bool) : Bool :=
  name = .controlPlane ∧ !maintenance

/-! ## Starting one child -/

/-- The sweep before the first spawn of a run. -/
def sweepUnlessSwept : SupM Unit := do
  let s ← self
  if s.swept then return () else sweepOnce

/-- The launch spec, or `none` when the optional child's provider skips it. -/
def chooseSpec (setup : Setup) (name : ChildName) (maintenance : Bool) :
    SupM (Option ChildSpec) :=
  if name = .ollama then
    if setup.ollama then do
      let decision : Option ChildSpec ← call .ollamaSpecProvider
      match decision with
      | some spec => return some spec
      | none => do
        -- a clean skip: `stopped` keeps the recovery pass away until the recheck
        write (.startBlocked .ollama true)
        write (.childState .ollama .stopped)
        return none
    else Prog.raise .value
  else do
    let spec ← Prog.ofExcept (specFor name maintenance)
    return some spec

/-- The pre-start guard gate: true when it withholds the start. A withheld
child stays `starting`, so that a later tick retries it. -/
def guardWithholds (name : ChildName) (maintenance : Bool) : SupM Bool :=
  if isWriterCapable name maintenance then do
    let action : GuardAction ← call .preChildStart
    if action.authorizes then return false
    else
      write (.startBlocked name true)
      write (.childState name .starting)
      return true
  else return false

def trackMode (name : ChildName) (maintenance : Bool) : SupM Unit :=
  if name = .controlPlane then
    write (.cpMode (some (if maintenance then .maintenance else .normal)))
  else return ()

/-- Every child but postgres is assigned to the job with its spawn. -/
def assignOnSpawn (name : ChildName) (handle : Handle) : SupM Unit :=
  if name = .postgres then return () else assignChild handle.pid false

/-- The decide-and-spawn section; `none` when a stop was requested. -/
def decideAndSpawn (name : ChildName) (maintenance : Bool) (spec : ChildSpec) :
    SupM (Option Handle) :=
  withLifecycleLock do
    if ← abortRequested then return none
    else
      let spawned : Except Fault Handle ← call (.spawn name spec)
      let handle ← orRaise spawned
      write (.startBlocked name false)
      -- the handle is tracked before the assignment, which may still raise
      write (.handle name (some handle))
      write (.childState name .starting)
      trackMode name maintenance
      assignOnSpawn name handle
      return some handle

/-- `postgres` failed closed after its readiness poll. -/
def failPostgres (launcher : Handle) : SupM ChildStartOutcome := do
  write (.childState .postgres .failed)
  return ⟨.postgres, .notReady, some launcher.pid⟩

/-- Contain the opened postmaster, then swap it in for the launcher; a fault
rolls it back. -/
def containPostmaster (launcher postmaster : Handle) : SupM ChildStartOutcome := do
  match ← (assignChild postmaster.pid true).attempt with
  | .error _ => do
    -- a failed graceful stop is swallowed; the terminate follows either way
    let _stopped : Except Fault Unit ← call (.gracefulStop postmaster)
    call (.terminate postmaster)
    failPostgres launcher
  | .ok () => do
    write (.handle .postgres (some postmaster))
    write (.childState .postgres .ready)
    return ⟨.postgres, .startedReady, some postmaster.pid⟩

/-- What follows a ready postgres poll: find the durable postmaster, open it,
contain it. The lifecycle lock is not taken and no stop signal is read. -/
def handOverPostmaster (launcher : Handle) : SupM ChildStartOutcome := do
  let postmasterPid : Option ℕ ← call .postmasterPidReader
  match postmasterPid with
  | none => failPostgres launcher
  | some pid => do
    let opened : Except Fault Unit ← call (.openExisting pid)
    match opened with
    | .error _ => failPostgres launcher
    | .ok () => containPostmaster launcher (.opened pid)

/-- What `_start_child` does with the result of its poll. -/
def finishStart (name : ChildName) (handle : Handle) (result : ReadinessOutcome) :
    SupM ChildStartOutcome :=
  match result with
  | .aborted => return ⟨name, .aborted, some handle.pid⟩
  | .ready =>
    if name = .postgres then handOverPostmaster handle
    else do
      write (.childState name .ready)
      return ⟨name, .startedReady, some handle.pid⟩
  | _ => do
    write (.childState name .failed)
    return ⟨name, .notReady, some handle.pid⟩

def pollSpawned (name : ChildName) (maintenance : Bool) (spec : ChildSpec) (handle : Handle) :
    SupM ReadinessOutcome :=
  pollUntilReady (readinessCheckFor name maintenance) spec.readinessBudgetSeconds
    (if spec.readinessStallSeconds.isSome then some handle else none) spec.readinessStallSeconds

/-- From the launch spec on: gate, spawn, poll. -/
def launch (name : ChildName) (maintenance : Bool) (spec : ChildSpec) :
    SupM ChildStartOutcome := do
  if ← guardWithholds name maintenance then return ⟨name, .guardBlocked, none⟩
  else
    match ← decideAndSpawn name maintenance spec with
    | none => return ⟨name, .aborted, none⟩
    | some handle => do
      let result ← pollSpawned name maintenance spec handle
      finishStart name handle result

def startChild (setup : Setup) (name : ChildName) (maintenance : Bool) :
    SupM ChildStartOutcome := do
  sweepUnlessSwept
  let s ← self
  if restartEligible name s.childStates startupOrder then
    match ← chooseSpec setup name maintenance with
    | none => return ⟨name, .skipped, none⟩
    | some spec => launch name maintenance spec
  else return ⟨name, .notEligible, none⟩

/-! ## Maintenance -/

/-- `_poll_control_plane_maintenance_ready`: re-poll the existing maintenance
control plane; it is ready only when the fail-closed gate passes. -/
def pollControlPlaneMaintenanceReady : SupM ReadinessOutcome := do
  let spec ← Prog.ofExcept (specFor .controlPlane true)
  let s ← self
  let result ← pollUntilReady checkControlPlaneMaintenanceReady spec.readinessBudgetSeconds
    (s.handles .controlPlane) spec.readinessStallSeconds
  write (.childState .controlPlane (if result = .ready then .ready else .starting))
  return result

/-- The maintenance control plane's own decide-and-spawn section. -/
def spawnMaintenance (spec : ChildSpec) : SupM Bool :=
  withLifecycleLock do
    if ← abortRequested then return false
    else
      let spawned : Except Fault Handle ← call (.spawn .controlPlane spec)
      let handle ← orRaise spawned
      write (.handle .controlPlane (some handle))
      write (.childState .controlPlane .starting)
      write (.cpMode (some .maintenance))
      assignChild handle.pid false
      return true

def startControlPlaneMaintenance : SupM ReadinessOutcome := do
  let s ← self
  if restartEligible .controlPlane s.childStates startupOrder then
    let spec ← Prog.ofExcept (specFor .controlPlane true)
    if ← spawnMaintenance spec then pollControlPlaneMaintenanceReady else return .notReady
  else return .notReady

/-- Terminate the tracked control plane and drop its handle. -/
def dropControlPlane : SupM Unit := do
  let s ← self
  match s.handles .controlPlane with
  | none => return ()
  | some cp => do
    call (.terminate cp)
    write (.handle .controlPlane none)

def stopControlPlane : SupM Unit := do
  dropControlPlane
  write (.childState .controlPlane .stopped)
  write (.cpMode none)

/-- `on_interlock_freed`: exactly one guard evaluation, one composite event,
and a controlled stop unless the verdict is clear. -/
def onInterlockFreed : SupM SupervisorEvent := do
  let action : GuardAction ← call .evaluateOnce
  dispatch (interlockFreedEvent action)
  if interlockFreedEvent action ≠ .interlockFreedClear then
    stopControlPlane
    return interlockFreedEvent action
  else return interlockFreedEvent action

/-- What `poll_interlock` does on the edge from `prev` to `status`. -/
def interlockEdge (prev : Option InterlockStatus) (status : InterlockStatus) :
    SupM (Option SupervisorEvent) :=
  if status = .held ∧ prev ≠ some .held then do
    dispatch .interlockHeld
    return some .interlockHeld
  else if prev = some .held ∧ status = .free then do
    let event ← onInterlockFreed
    return some event
  else return none

/-- `poll_interlock`: the last raw reading is the only memory. -/
def pollInterlock : SupM (Option SupervisorEvent) := do
  let status : InterlockStatus ← call .interlockReader
  let s ← self
  write (.prevInterlock status)
  interlockEdge s.prevInterlock status

/-! ## Bring-up -/

/-- The writer's half of the bring-up, behind the interlock. -/
def startWriter (setup : Setup) : SupM Unit := do
  if ← abortRequested then return ()
  else
    let event ← pollInterlock
    if event = some .interlockHeld then
      let _ready ← startControlPlaneMaintenance
      return ()
    else
      let outcome ← startChild setup .controlPlane false
      if outcome.status = .startedReady then dispatch .childrenReady else return ()

def startInfra (setup : Setup) : SupM Unit := do
  if ← abortRequested then return ()
  else
    let outcome ← startChild setup .postgres false
    if outcome.status = .startedReady then startWriter setup else return ()

def start (setup : Setup) : SupM Unit := do
  sweepOnce
  if setup.ollama then
    if ← abortRequested then return ()
    else
      let _outcome ← startChild setup .ollama false
      startInfra setup
  else startInfra setup

/-! ## The tick -/

/-- A throttled check is due `interval` seconds after the last one; `none` is
`-inf`. -/
def due (now : ℚ) (last : Option ℚ) (interval : ℚ) : Bool :=
  match last with
  | none => true
  | some t => interval ≤ now - t

/-- `_guard_block_if_dual_runtime`: true when a block was applied. -/
def guardBlockIfDualRuntime (cfg : SupervisorConfig) (now : ℚ) : SupM Bool := do
  let s ← self
  if due now s.lastGuardCheckEpoch cfg.guardIntervalSeconds then
    write (.lastGuardCheckEpoch now)
    let action : GuardAction ← call .evaluateOnce
    if action.authorizes then return false
    else
      dispatch (guardBlockEvent action)
      stopControlPlane
      return true
  else return false

/-- `_guard_reconcile_while_blocked`: true when the block cleared. The control
plane is taken to be down already. -/
def guardReconcileWhileBlocked (cfg : SupervisorConfig) (now : ℚ) : SupM Bool := do
  let s ← self
  if due now s.lastGuardCheckEpoch cfg.guardIntervalSeconds then
    write (.lastGuardCheckEpoch now)
    let action : GuardAction ← call .evaluateOnce
    if action.authorizes then
      dispatch .guardClear
      write (.childState .controlPlane .starting)
      return true
    else
      dispatch (guardBlockEvent action)
      return false
  else return false

/-- Re-poll a live maintenance control plane until its gate passes. -/
def repollMaintenance : SupM Unit := do
  let s ← self
  if s.childStates .controlPlane = .ready then return ()
  else
    let _ready ← pollControlPlaneMaintenanceReady
    return ()

def launchMaintenance : SupM Unit := do
  let _ready ← startControlPlaneMaintenance
  return ()

def reconcileMaintenance : SupM Unit := do
  let s ← self
  match s.handles .controlPlane with
  | none => launchMaintenance
  | some cp => do
    let s' ← self
    if s'.cpMode = some .normal then
      -- a writer that was up when the interlock was taken
      stopControlPlane
      launchMaintenance
    else
      let alive : Bool ← call (.isAlive cp)
      if alive then repollMaintenance else launchMaintenance

def allReady (s : Sup) : Bool := startupOrder.all fun n => s.childStates n = .ready

def resumeToServing (setup : Setup) : SupM Unit := do
  dropControlPlane
  write (.childState .controlPlane .starting)
  let outcome ← startChild setup .controlPlane false
  let s ← self
  -- a control plane alone does not make the machine ready
  if outcome.status = .startedReady ∧ allReady s then dispatch .childrenReady else return ()

def evaluateRestartStorm (cfg : SupervisorConfig) (now : ℚ) : SupM Bool := do
  let s ← self
  if restartStormCheck s.restartEpochs now cfg then
    dispatch .restartStorm
    let s' ← self
    call (.alertFire s'.restartEpochs.length cfg.restartStormWindowSeconds
      cfg.restartStormThreshold)
    return true
  else return false

def onDependencyLost (name : ChildName) : SupM Unit := do
  write (.childState name .failed)
  dispatch .dependencyLost

/-- Terminate a handle's process if it is alive. -/
def terminateIfAlive : Option Handle → SupM Bool
  | none => return false
  | some h => do
    let alive : Bool ← call (.isAlive h)
    if alive then
      call (.terminate h)
      return true
    else return false

/-- The body of `_mark_downstream_for_restart` for each downstream child. -/
def markForRestart : List ChildName → SupM Unit
  | [] => return ()
  | n :: rest => do
    let s ← self
    -- an orphan of a lost dependency is not left running beside its replacement
    let _terminated ← terminateIfAlive (s.handles n)
    write (.handle n none)
    write (.childState n .failed)
    markForRestart rest

/-- `_mark_downstream_for_restart`: everything later in the startup order. -/
def markDownstreamForRestart (name : ChildName) : SupM Unit :=
  markForRestart ((startupOrder.dropWhile (· ≠ name)).drop 1)

/-- A child that was ready and is gone: mark it lost and count it once. -/
def recordDeath (name : ChildName) (now : ℚ) : SupM Unit :=
  if name = .ollama then do
    write (.childState .ollama .failed)
    write (.restartEpoch now)
  else do
    onDependencyLost name
    write (.restartEpoch now)
    markDownstreamForRestart name

def noteDeath (name : ChildName) (now : ℚ) : SupM Unit := do
  let s ← self
  match s.handles name with
  | none => return ()
  | some h => do
    let alive : Bool ← call (.isAlive h)
    if alive then return ()
    else
      let s' ← self
      -- a child that never got ready is no new death: its failure is counted by the retry
      if s'.childStates name = .ready then recordDeath name now else return ()

def recheckSkippedOptionalChild (setup : Setup) (now : ℚ) : SupM Unit :=
  withLifecycleLock do
    if ← abortRequested then return ()
    else if setup.ollama then
      let s ← self
      if s.childStates .ollama = .stopped ∧ s.startBlocked .ollama ∧
          due now s.lastOptionalRecheckEpoch setup.config.optionalChildRecheckSeconds then
        write (.lastOptionalRecheckEpoch now)
        write (.childState .ollama .starting)
      else return ()
    else return ()

def handleAlive : Option Handle → SupM Bool
  | none => return false
  | some h => call (.isAlive h)

def needsRestart (name : ChildName) : SupM Bool := do
  let s ← self
  if s.childStates name = .stopped then return false
  else
    let s' ← self
    let alive ← handleAlive (s'.handles name)
    return !(s.childStates name = .ready ∧ alive)

/-- The backoff bookkeeping of `_attempt_restart` after a start. -/
def settleBackoff (cfg : SupervisorConfig) (name : ChildName) (now : ℚ)
    (status : ChildStartStatus) : SupM Bool := do
  match status with
  | .startedReady => do
    write (.backoff name { attempt := 0, nextRetryEpoch := 0 })
    return true
  | .notReady => do
    let s ← self
    let attempt := (s.backoff name).attempt + 1
    -- the count is assigned before the delay is computed, so it survives a raise there
    write (.backoff name { s.backoff name with attempt := attempt })
    let delay ← backoffWithJitter attempt cfg
    write (.backoff name { attempt := attempt, nextRetryEpoch := now + delay })
    return false
  | _ => return false

/-- Terminate a stale live process and drop its handle. -/
def dropStale (name : ChildName) : SupM Unit := do
  let s ← self
  if ← terminateIfAlive (s.handles name) then write (.handle name none) else return ()

def attemptRestart (setup : Setup) (name : ChildName) (now : ℚ) : SupM Bool := do
  if ← abortRequested then return false
  else
    dropStale name
    let outcome ← startChild setup name false
    settleBackoff setup.config name now outcome.status

/-- The recovery attempt of one child: it needs a restart and its backoff has
run out. -/
def retryChild (setup : Setup) (name : ChildName) (now : ℚ) : SupM Bool := do
  if ← needsRestart name then
    let s ← self
    if (s.backoff name).nextRetryEpoch ≤ now then attemptRestart setup name now
    else return false
  else return false

/-- The loop of `_recover_dead_children`; `none` when a stop cut it short. -/
def recoverChildren (setup : Setup) (now : ℚ) :
    List ChildName → Bool → SupM (Option Bool)
  | [], recoveredFresh => return some recoveredFresh
  | name :: rest, recoveredFresh => do
    if ← abortRequested then return none
    else
      noteDeath name now
      -- both halves read the tables afresh: a death noted here is retried in the same pass
      let fresh ← retryChild setup name now
      recoverChildren setup now rest (recoveredFresh || fresh)

/-- The storm is evaluated only on the edge into `degraded`. -/
def stormOnEdge (cfg : SupervisorConfig) (now : ℚ) : SupM Unit := do
  let s ← self
  if s.state = .degraded then return ()
  else
    let _storm ← evaluateRestartStorm cfg now
    return ()

/-- Return to serving once every child of the startup order is ready. -/
def settleServing (wasDegraded recoveredFresh : Bool) : SupM Unit := do
  let s ← self
  if allReady s then
    let s' ← self
    if s'.state = .starting then dispatch .childrenReady
    -- `recovered` needs a restart that succeeded in this very pass
    else if wasDegraded ∧ recoveredFresh then dispatch .recovered
    else return ()
  else return ()

/-- The children a recovery pass visits. -/
def recoveryNames (setup : Setup) : List ChildName :=
  if setup.ollama then startupOrder ++ [.ollama] else startupOrder

def recoverDeadChildren (setup : Setup) (now : ℚ) : SupM Unit := do
  let s ← self
  recheckSkippedOptionalChild setup now
  match ← recoverChildren setup now (recoveryNames setup) false with
  | none => return ()
  | some recoveredFresh => do
    stormOnEdge setup.config now
    settleServing (s.state = .degraded) recoveredFresh

/-- The last stage of a tick: child recovery in the serving states. -/
def recoverIfServing (setup : Setup) (now : ℚ) : SupM Unit := do
  let s ← self
  if s.state = .ready ∨ s.state = .degraded ∨ s.state = .starting then
    recoverDeadChildren setup now
  else return ()

/-- The continuous guard in front of the recovery. -/
def serve (setup : Setup) (now : ℚ) : SupM Unit := do
  let s ← self
  if s.state = .ready ∨ s.state = .degraded then
    if ← guardBlockIfDualRuntime setup.config now then return ()
    else recoverIfServing setup now
  else recoverIfServing setup now

/-- What a tick does with the interlock event, outside maintenance. -/
def reconcileServing (setup : Setup) (now : ℚ) (event : Option SupervisorEvent) :
    SupM Unit := do
  if event = some .interlockFreedClear then resumeToServing setup
  else
    let s ← self
    if s.state.blocked then
      if ← guardReconcileWhileBlocked setup.config now then serve setup now else return ()
    else serve setup now

/-- A tick after its stop check and its interlock poll. -/
def reconcile (setup : Setup) (now : ℚ) (event : Option SupervisorEvent) : SupM Unit := do
  let s ← self
  if s.state = .maintenance then reconcileMaintenance
  else reconcileServing setup now event

def tick (setup : Setup) (now : ℚ) : SupM Unit := do
  if ← abortRequested then return ()
  else
    let event ← pollInterlock
    reconcile setup now event

/-! ## The graceful stop -/

/-- Wait for the control plane to exit, up to the deadline. -/
def drainLoop (h : Handle) (deadline : ℚ) : ℕ → SupM Unit
  | 0 => diverge
  | fuel + 1 => do
    let alive : Bool ← call (.isAlive h)
    if alive then
      let now : ℚ ← call .clock
      if deadline ≤ now then return ()
      else
        call (.sleep 1)
        drainLoop h deadline fuel
    else return ()

/-- The drain of the control plane, outside the lifecycle lock. -/
def drain (cfg : SupervisorConfig) : Option Handle → SupM Unit
  | none => return ()
  | some h => do
    call (.sendCtrlBreak h)
    let now : ℚ ← call .clock
    let fuel : ℕ ← call .rounds
    drainLoop h (now + cfg.gracefulStopDeadlineSeconds) fuel

/-- Publish the stop intent and make the transition, atomically against the
decide-and-spawn sections. -/
def publishStop : SupM (Option Handle) :=
  withLifecycleLock do
    write .stopIntent
    dispatch .stop
    let s ← self
    return s.handles .controlPlane

def gracefulStop (cfg : SupervisorConfig) : SupM Unit := do
  let controlPlane ← publishStop
  drain cfg controlPlane
  withLifecycleLock closeJob

/-! ## The admin restart -/

def restartControlPlane (setup : Setup) : SupM ChildStartOutcome := do
  dropControlPlane
  write (.childState .controlPlane .starting)
  startChild setup .controlPlane false

/-- `_LIFECYCLE_HELD_STATES`: the states that own the control plane. -/
def lifecycleHeld : SupervisorState → Bool
  | .stopping | .blockedWslActive | .blockedProbeUnavailable | .maintenance => true
  | _ => false

/-- `AdminOutcome`, as far as `restart` produces it. -/
inductive AdminOutcome where
  | applied
  | refused
deriving DecidableEq

/-- `AdminCommandRouter._restart` behind its state check (`lifecycleHeld`), which comes before
`restart_control_plane` takes the reconciliation lock. -/
def restartAdmitted (setup : Setup) : SupM AdminOutcome := do
  let outcome ← restartControlPlane setup
  return if outcome.status = .startedReady then .applied else .refused

end CivicCast.Supervisor
