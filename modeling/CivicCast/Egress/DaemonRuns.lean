import CivicCast.Egress.Daemon

/-! # The polls and commands of the egress daemon, and its runs

The rest of `EgressDaemon` and `PlayoutSupervisor` for one channel: settling reloads, the
worker's exits, the overrides, the quality guards and the commands. `Event` is what can
happen to the daemon, and a `Run` is any sequence of events; `Event.processOnce` is the
order `process_once` makes its polls in, but no result depends on it.
-/

namespace CivicCast.Egress

namespace Daemon

open Lib Playout

variable (setup : Setup)

/-! ## Settling a reload -/

/-- The transition's proof, when something was on air before. -/
def proveTransition (previousState : Option EgressState) : DaemonM Unit :=
  if previousState = some .onAir ∨ previousState = some .fallbackSlate then do
    let _ ← appendProofEvent
  else return ()

def commitReloadSettlement (pending : Settlement) : DaemonM Unit := do
  proveTransition pending.previousState
  let event ← appendProofEvent
  writeState pending.targetState (some event) (some pending.process)
  recordDispatchedPlan event pending.sourcePlan pending.switchAtEndOfCurrent
    pending.chainedProgramEndAt
  appendHealth
  let d ← self
  modify fun d => { d with activeDir := none }
  releasePreparedPlanDir d.activeDir
  if pending.planDir.isSome then modify fun d => { d with activeDir := pending.planDir }

def retryAbortedBoundaryReload (pending : Settlement) : DaemonM Bool :=
  match pending.rolloverPlanEndAt with
  | none => return false
  | some horizon => do
    let d ← self
    let used := ((d.reloadRetries.filter fun r => decide (r.1 = horizon)).map Prod.snd).getD 0
    if reloadRetryLimit < used then return false
    else
      call (.dropSettle .aborted)
      modify fun d =>
        { d with reloadRetries := some (horizon, used + 1)
                 rolloverRecord := some ⟨none, horizon, decide (reloadRetryLimit ≤ used), none⟩ }
      requestReload setup {}
      return true

/-- Is the worker still waiting for the switch's instant? -/
def beforeSwitch (switchAtUnix : Option ℚ) : DaemonM Bool :=
  match switchAtUnix with
  | none => return false
  | some at_ => do
    let unix : Instant ← call .utcNow
    return decide (unix < at_)

/-- The status of the pending reload: what `_poll_reload_settlement` does with it. -/
def settle (pending : Settlement) : ReloadResult → DaemonM Unit
  | .applied => do
    let code ← processPoll pending.process
    if code.isSome then
      call (.dropSettle .workerExited)
      fallBackToRestartReload false none pending.rolloverPlanEndAt
    else
      call (.mark (.applied pending))
      modify fun d => { d with settle := none }
      commitReloadSettlement pending
  | .aborted => do
    let early ← beforeSwitch pending.switchAtUnix
    -- an aborted slate hand-off keeps the slate
    if early then call (.dropSettle .aborted)
    else
      let retried ← retryAbortedBoundaryReload setup pending
      if retried then return ()
      else
        call (.dropSettle .aborted)
        fallBackToRestartReload true none pending.rolloverPlanEndAt
  | .unrecognized => do
    call (.dropSettle .unrecognized)
    fallBackToRestartReload false none pending.rolloverPlanEndAt

def pollReloadSettlement : DaemonM Unit := do
  let d ← self
  match d.settle with
  | none =>
    if d.discardedReloadId.isSome then
      let status : Option (ℕ × ReloadResult) ← call .reloadStatus
      if status.map Prod.fst = d.discardedReloadId then
        modify fun d => { d with discardedReloadId := none }
  | some pending =>
    let _ ← call .meanwhile
    let status : Option (ℕ × ReloadResult) ← call .reloadStatus
    match status.filter fun s => decide (s.1 = pending.reloadId) with
    | some (_, result) => settle setup pending result
    | none =>
      let now : ℚ ← call .monotonic
      if pendingReloadSettleDeadlineSeconds + pending.scheduledWaitSeconds ≤ now - pending.since
      then
        call (.dropSettle .deadline)
        fallBackToRestartReload false none pending.rolloverPlanEndAt

/-- The watchdog's first rung: re-issue the reload. Arming the pin again takes the rung down,
so it is put back up. -/
def reissueStalled (now : ℚ) : DaemonM Unit := do
  modify fun d => { d with stallRung := 1 }
  call (.mark .reissued)
  requestReload setup {}
  let d ← self
  if d.pendingReload.isSome then
    modify fun d => { d with stallSince := some now, stallRung := 1 }

/-- The watchdog's second rung: drop the pin and kill the worker. -/
def killStalled (process : Option Proc) : DaemonM Unit := do
  modify fun d => { d with stallRung := d.stallRung + 1, pendingReload := none }
  match process with
  | none => return ()
  | some p =>
    let code ← processPoll p
    if code.isNone then
      modify fun d => { d with reloadKill := true }
      terminateBounded p

def pollReloadStallWatchdog : DaemonM Unit := do
  let d ← self
  if d.pendingReload.isNone then
    modify fun d => { d with stallSince := none, stallBound := none, stallRung := 0 }
  else
    let now : ℚ ← call .monotonic
    if d.hasPendingReloadSettlement then
      modify fun d => { d with stallSince := some now, stallRung := 0 }
    else
      match d.stallSince with
      | none =>
        modify fun d => { d with
          stallSince := some now
          stallBound := some (d.stallBound.getD transitioningWatchdogSeconds) }
      | some since =>
        let bound := if 0 < d.stallRung then transitioningWatchdogReissueGraceSeconds
          else d.stallBound.getD transitioningWatchdogSeconds
        if now - since < bound then return ()
        else
          modify fun d => { d with stallSince := some now }
          let _ ← readState
          if d.stallRung = 0 then reissueStalled setup now else killStalled d.process

/-! ## The worker's exits -/

def beginRelaunch (previousState : Option EgressState) (proofEventId : Option ℕ) :
    DaemonM Unit := do
  let d ← self
  let force := decide (liveSourceFailureFallbackStreak ≤ d.restartStreak.getD 0)
    && setup.fallbackProvider
  writeState .starting proofEventId none
  appendHealth
  start setup { previousState := previousState, forceFallbackSlate := force, slateFirst := true }
  assist

/-- Put the relaunch off until the cooldown is over. -/
def backOff (state : EgressState) (proofEventId : Option ℕ) : DaemonM Unit := do
  modify fun d => { d with backoff := some ⟨some state⟩ }
  writeState .starting proofEventId none
  appendHealth
  modify fun d => { d with rolloverRecord := none }

/-- The restart streak after a worker exit: a long run forgives the exits before it, and a
slow start counts once a minute. -/
def crashStreak (d : Attrs) (uptime : Option ℚ) (code : ℤ) (now : ℚ) : ℕ × Option ℚ :=
  let slow := decide (code ∈ slowStartExitCodes)
  let long := uptime.any fun t => decide (restartStreakResetUptimeSeconds ≤ t)
  let forgiven := long && !slow
  let streak := if forgiven then 0 else d.restartStreak.getD 0
  let incrAt := if forgiven then none else d.prerollTimeoutStreakIncrAt
  let counted := slow && incrAt.any fun t => decide (now - t < prerollTimeoutStreakCooldownSeconds)
  (if counted then streak else streak + 1, if slow && !counted then some now else incrAt)

/-- The failure's proof, and every fifth time in a row the escalation's. -/
def proveCrash (streak : ℕ) : DaemonM ℕ := do
  let failure ← appendProofEvent
  if restartEscalationStreak ≤ streak ∧ streak % restartEscalationStreak = 0
  then appendProofEvent
  else return failure

def relaunchAfterCrash (row : StateRow) (uptime : Option ℚ) (code : ℤ) : DaemonM Unit := do
  let now : ℚ ← call .monotonic
  let d ← self
  let (streak, incrAt) := crashStreak d uptime code now
  modify fun d => { d with restartStreak := some streak, prerollTimeoutStreakIncrAt := incrAt }
  let event ← proveCrash streak
  let allowed ← restartLatchShouldRunNow
  if allowed then beginRelaunch setup (some row.state) (some event)
  else backOff row.state (some event)

def serviceBackoffRelaunch : DaemonM Unit := do
  let d ← self
  match d.backoff with
  | none => return ()
  | some pin =>
    let queued ← hasPendingTerminalCommand
    if queued then return ()
    else if d.process.isSome then modify fun d => { d with backoff := none }
    else
      let now ← restartLatchShouldRunNow
      if now then
        modify fun d => { d with backoff := none }
        let state ← readState
        beginRelaunch setup pin.previousState (state.bind (·.currentProofEventId))

/-- Renew the slate, or start the due program; inside the cooldown, later. -/
def relaunchSlate (row : StateRow) (force : Bool) (plan : Option SourcePlan)
    (startedAt : Option ℚ) : DaemonM Bool := do
  let now ← restartLatchShouldRunNow
  if now then
    writeState .starting none none
    start setup { previousState := some row.state, forceFallbackSlate := force,
                  resolvedPlan := plan, planResolutionStartedAt := startedAt }
    return true
  else
    backOff row.state none
    return true

def relaunchSlateEosOntoDueProgram : DaemonM Bool := do
  match ← readState with
  | none => return false
  | some row =>
    if row.state ≠ .fallbackSlate then return false
    else
      let queued ← hasPendingTerminalCommand
      let d ← self
      if queued || decide (slateEosRelaunchMaxConsecutive ≤ d.slateEosRelaunches.getD 0)
      then return false
      else if decide (liveSourceFailureFallbackStreak ≤ d.restartStreak.getD 0)
          && setup.fallbackProvider
      then relaunchSlate setup row true none none
      else
        let now : ℚ ← call .monotonic
        match ← catchSourcePrepare (nextSourcePlan setup) with
        | some (some plan) =>
          if plan.channelId ≠ setup.channelId then return false
          else
            modify fun d => { d with slateEosRelaunches := some (d.slateEosRelaunches.getD 0 + 1) }
            relaunchSlate setup row false (some plan) (some now)
        | _ => return false

/-- A channel that stays down after its worker's exit. -/
def settleDown (state : EgressState) : DaemonM Unit := do
  resetRestartTracking true
  assist
  writeState state none none
  appendHealth
  modify fun d => { d with rolloverRecord := none }

def uptimeOf (startedAt : Option ℚ) : DaemonM (Option ℚ) :=
  match startedAt with
  | none => return none
  | some t => do
    let now : ℚ ← call .monotonic
    return some (max 0 (now - t))

/-- A slate that reached its end may be relaunched; a drained channel is not. -/
def relaunchUnlessDrained (draining : Bool) : DaemonM Bool :=
  if draining then return false else relaunchSlateEosOntoDueProgram setup

/-- No relaunch for a clean exit of an active channel: stop it, or take it for a crash. -/
def downOrCrash (code : ℤ) (d : Attrs) (queued : Bool) (uptime : Option ℚ) : DaemonM Unit := do
  if code = 0 || d.draining || queued then
    let relaunched ← relaunchUnlessDrained setup d.draining
    if relaunched then return () else settleDown .stopped
  else
    modify fun d => { d with pendingReload := none }
    let state ← readState
    match state.filter fun s =>
        decide (s.state = .onAir ∨ s.state = .fallbackSlate ∨ s.state = .transitioning) with
    | some row => relaunchAfterCrash setup row uptime code
    | none => settleDown .error

/-- What the daemon forgets of an exited worker; raising in here leaves the rest behind.
Returns what it was, and whether a stop or drain is queued. -/
def clearExited : DaemonM (Attrs × Bool) := do
  let d ← self
  modify fun d => { d with process := none, startedAt := none, onAirConfirmedAt := none,
                           draining := false, reloadKill := false }
  let queued ← hasPendingTerminalCommand
  let _ ← readState
  modify fun d => { d with pendingReload := none }
  call (.dropSettle .workerExited)
  discardActivePreparedPlanDir
  return (d, queued)

/-- The start that a pinned reload was waiting for. -/
def restartPinned (pin : Pin) : DaemonM Unit := do
  writeState .starting none none
  let held ← self
  modify fun d => { d with restartPlan := none }
  start setup { previousState := pin.previousState, preparedReload := held.restartPlan }

/-- `_poll_process`, once the worker is seen to have exited. -/
def workerExited (code : ℤ) : DaemonM Unit := do
  let before ← self
  let uptime ← uptimeOf before.startedAt
  let (d, queued) ← clearExited
  let honoured := !(code ≠ 0 && !d.reloadKill || d.draining || queued)
  match if honoured then d.pendingReload else none with
  | some pin => restartPinned setup pin
  | none =>
    discardPreparedRestartPlan
    let state ← readState
    match state.filter fun s => decide (s.state = .onAir ∨ s.state = .transitioning) with
    | some row =>
      if code = 0 && !d.draining && !queued then relaunchAfterCrash setup row uptime code
      else downOrCrash setup code d queued uptime
    | none => downOrCrash setup code d queued uptime

/-- `_poll_source_output`: each observation re-writes the row under its own proof. -/
def pollSourceOutput (p : Proc) : ℕ → DaemonM Unit
  | 0 => return ()
  | n + 1 => do
    let _ ← (observe : DaemonM Unit).attempt
    pollSourceOutput p n
where
  observe : DaemonM Unit := do
    let answer : Except Fault Unit ← call .appendProof
    orRaise answer
    let state ← readState
    writeState ((state.map (·.state)).getD .onAir) (state.bind (·.currentProofEventId)) (some p)
    assist

/-- Note the first evidence that the worker is on air. -/
def confirmOnAir (d : Attrs) : DaemonM Unit := do
  if d.onAirConfirmedAt.isNone then
    let evidence : Bool ← call .onAirEvidence
    if evidence then
      let now : ℚ ← call .monotonic
      modify fun d => { d with onAirConfirmedAt := some now }

def forgetRestarts (current : EgressState) : DaemonM Unit := do
  let d ← self
  match d.onAirConfirmedAt with
  | none => return ()
  | some confirmedAt =>
    let now : ℚ ← call .monotonic
    let tracking := d.restartStreak.isSome || d.backoff.isSome || d.restartLatch.getD 0 ≠ 0
      || (current = .onAir && d.slateEosRelaunches.isSome)
    if restartStreakResetUptimeSeconds ≤ now - confirmedAt ∧ tracking then
      resetRestartTracking (current = .onAir)

/-- The state a live worker's channel is in. -/
def currentState (d : Attrs) (state : Option StateRow) : EgressState :=
  if d.draining then .draining
  else if d.pendingReload.isSome then .transitioning
  else if state.any fun s => decide (s.state = .fallbackSlate) then .fallbackSlate
  else .onAir

/-- `_poll_process`, while the worker is alive. -/
def workerAlive (p : Proc) : DaemonM Unit := do
  let state ← readState
  assist
  let d ← self
  let current := currentState d state
  appendHealth
  writeState current (state.bind (·.currentProofEventId)) (some p)
  assist
  confirmOnAir d
  forgetRestarts current

def pollProcess : DaemonM Unit := do
  let d ← self
  match d.process with
  | none => return ()
  | some p =>
    let code ← processPoll p
    let n : ℕ ← call .rounds
    pollSourceOutput p n
    match code with
    | none => workerAlive p
    | some code => workerExited setup code

/-! ## Overrides: `PlayoutSupervisor` -/

def reloadOrSwap : DaemonM Unit := do
  if setup.supportsLiveSwap then
    let answer : Except Fault Unit ← call .swapRole
    orRaise answer
  else requestReload setup {}

/-- `_validate_live_takeover_plan`. -/
def isLiveTakeoverPlan (plan : SourcePlan) : Bool :=
  plan.channelId = setup.channelId && plan.segments.head?.any fun s => decide (s.kind = .live)

def requestLiveTakeover (plan : SourcePlan) : DaemonM Unit := do
  if !isLiveTakeoverPlan setup plan then Prog.raise .configInvalid
  else
    modify fun d => { d with forcedSlate := none, takeover := some plan, lookahead := none }
    requestReload setup {}

def requestLiveHandback : DaemonM Unit := do
  modify fun d => { d with takeover := none, lookahead := none }
  let now : Instant ← call .utcNow
  requestReload setup { handoffAt := some now }

def requestFallbackSlate (reason : String) : DaemonM Unit := do
  if reason = "" then Prog.raise .other
  else
    modify fun d => { d with forcedSlate := some reason, takeover := none, lookahead := none }
    reloadOrSwap setup

def requestSlateExit : DaemonM Unit := do
  modify fun d => { d with forcedSlate := none, lookahead := none }
  reloadOrSwap setup

def clearFallbackSlate (reason : String) : DaemonM Unit := do
  let d ← self
  if d.forcedSlate = some reason then
    modify fun d => { d with forcedSlate := none, lookahead := none }

def consumeTakeover : DaemonM Unit := do
  if !setup.takeoverStore then return ()
  else
    let answer : Except Fault SessionPlan ← call .activeSession
    match ← orRaise answer with
    | .none => return ()
    | .unreadable => return ()
    | .plan plan =>
      modify fun d => { d with operatorStopped := false }
      requestLiveTakeover setup plan

/-! ## The quality guards -/

def qualityGuardDeferred : DaemonM Bool := do
  let d ← self
  if d.qualityRecovery.isSome || d.operatorStopped then return true
  else hasPendingTerminalCommand

def beginQualityRecovery (retryAt : ℚ) (detail : String) : DaemonM Unit := do
  let deferred ← qualityGuardDeferred
  if deferred then return ()
  else
    let reason := "automatic quality recovery cooldown: " ++ detail
    modify fun d => { d with qualityRecovery := some (retryAt, reason) }
    let d ← self
    if d.hasManualOverride then return ()
    else
      let _ ← (requestFallbackSlate setup reason).attempt

/-- `_clear_quality_recovery`, with `clear_slate`. -/
def clearQualityRecovery : DaemonM Unit := do
  let d ← self
  modify fun d => { d with qualityRecovery := none }
  match d.qualityRecovery with
  | none => return ()
  | some (_, reason) => clearFallbackSlate reason

def terminalIntent (d : Attrs) : DaemonM Bool :=
  if d.operatorStopped then return true else hasPendingTerminalCommand

def pollQualityRecovery : DaemonM Unit := do
  let d ← self
  match d.qualityRecovery with
  | none => return ()
  | some (retryAt, reason) =>
    let terminal ← terminalIntent d
    if terminal then clearQualityRecovery
    else
      let now : ℚ ← call .monotonic
      if now < retryAt then return ()
      else
        modify fun d => { d with qualityRecovery := none }
        let d ← self
        if d.forcedSlate = some reason then
          let _ ← (requestSlateExit setup).attempt

/-- `_poll_output_av_guard` and `_poll_freeze_escalation`, over their measurement. -/
def pollGuard (verdict : DaemonM (Except Fault Verdict)) (detail : String) : DaemonM Unit := do
  let d ← self
  match d.process with
  | none => return ()
  | some p =>
    let deferred ← qualityGuardDeferred
    if deferred then return ()
    else
      let state ← readState
      let onAir := state.any fun s => decide (s.state = .onAir ∨ s.state = .fallbackSlate)
      if !onAir || d.draining then return ()
      else
        let answer ← verdict
        match ← orRaise answer with
        | .quiet => return ()
        | .restart =>
          let deferred ← qualityGuardDeferred
          if deferred then return () else terminateBounded p
        | .exhausted retryAt =>
          let deferred ← qualityGuardDeferred
          if deferred then return () else beginQualityRecovery setup retryAt detail

def pollOutputAvGuard : DaemonM Unit :=
  pollGuard setup (call .outputAvGuard) "output A/V desync"

def pollFreezeEscalation : DaemonM Unit :=
  pollGuard setup (call .freezeEscalation) "frozen HLS output after relay self-heal"

/-! ## Commands -/

def Command.isOperatorCommand (c : Command) : Bool :=
  !(c.issuedBy = "channel-automation" || c.issuedBy = "restart-recovery"
    || slateRestartCommandPrefix.isPrefixOf c.commandId
    || restartRecoveryCommandPrefix.isPrefixOf c.commandId
    || commitStartCommandPrefix.isPrefixOf c.commandId)

def Command.slateRestartGuardState (c : Command) : Option EgressState :=
  if slateRestartCommandPrefix.isPrefixOf c.commandId then
    match c.action with
    | .stop => some .fallbackSlate
    | .start => some .stopped
    | _ => none
  else none

/-- `restart_recovery_previous_state`: the command id is the prefix, the state's name,
a dash and a uuid in hex. -/
def Command.restartRecoveryPreviousState (c : Command) : Option EgressState :=
  if names "ON_AIR-" then some .onAir
  else if names "STARTING-" then some .starting
  else if names "TRANSITIONING-" then some .transitioning
  else none
where
  names (token : String) : Bool :=
    let named := restartRecoveryCommandPrefix ++ token
    named.isPrefixOf c.commandId && decide (named.length < c.commandId.length)
      && !(c.commandId.toList.drop named.length).contains '-'

/-- What `_stop` forgets, before anything in it can raise; returns the process. -/
def clearForStop : DaemonM (Option Proc) := do
  call .cancelPreparation
  clearQualityRecovery
  let d ← self
  modify fun d => { d with rolloverRecord := none, process := none, startedAt := none,
                           onAirConfirmedAt := none }
  resetRestartTracking true
  modify fun d => { d with draining := false, pendingReload := none, reloadKill := false }
  call (.dropSettle .stopped)
  discardPreparedRestartPlan
  discardActivePreparedPlanDir
  return d.process

/-- What `_stop` does with the process. -/
def standDown (process : Option Proc) : DaemonM Unit := do
  assist
  match process with
  | none => return ()
  | some p =>
    writeState .stopping none none
    call (.terminate p)
    assist

/-- `_stop`, with `draining` off. -/
def stop : DaemonM Unit := do
  let process ← clearForStop
  standDown process

def drain : DaemonM Unit := do
  call .cancelPreparation
  clearQualityRecovery
  let d ← self
  match d.process with
  | none =>
    writeState .stopped none none
    appendHealth
    modify fun d => { d with rolloverRecord := none }
    discardPreparedRestartPlan
  | some p =>
    let state ← readState
    let _ ← getConfig
    modify fun d => { d with draining := true, pendingReload := none }
    discardPreparedRestartPlan
    modify fun d => { d with reloadKill := false }
    writeState .draining (state.bind (·.currentProofEventId)) (some p)
    appendHealth

def isDisabled : DaemonM Bool := do
  let config ← getConfig
  return config.any fun c => !c.enabled

/-- Does the slate-restart guard skip the command? -/
def guardSkips (c : Command) : DaemonM Bool :=
  match c.slateRestartGuardState with
  | none => return false
  | some required => do
    let row ← readState
    return decide (row.map (·.state) ≠ some required)

/-- An operator's stop or drain is remembered. -/
def latchOperatorStop (c : Command) : DaemonM Unit :=
  modify fun d => { d with operatorStopped := c.isOperatorCommand || d.operatorStopped }

/-- `_process_command`, for a start. -/
def startCommand (c : Command) : DaemonM Unit := do
  let disabled ← isDisabled
  let d ← self
  if disabled || !c.isOperatorCommand && d.operatorStopped then return ()
  else
    modify fun d => { d with
      operatorStopped := !c.isOperatorCommand && d.operatorStopped
      slateEosRelaunches := none }
    start setup { previousState := c.restartRecoveryPreviousState
                  slateFirst := c.restartRecoveryPreviousState.isSome }

/-- `_process_command`, for a stop. -/
def stopCommand (c : Command) : DaemonM Unit := do
  latchOperatorStop c
  clearQualityRecovery
  stop
  assist
  writeState .stopped none none

/-- `_process_command`, for a drain. -/
def drainCommand (c : Command) : DaemonM Unit := do
  latchOperatorStop c
  clearQualityRecovery
  drain

/-- `_process_command`, for a reload; a disabled channel forgets the record made for it. -/
def reloadCommand (c : Command) : DaemonM Unit := do
  let disabled ← isDisabled
  if disabled then
    let _ ← takeRolloverRecord (some c.commandId)
  else requestReload setup { commandId := some c.commandId }

/-- `EgressDaemon._process_command`. -/
def processDaemonCommand (c : Command) : DaemonM Unit := do
  modify fun d => { d with backoff := none }
  let skipped ← guardSkips c
  if skipped then return ()
  else
    match c.action with
    | .start => startCommand setup c
    | .stop => stopCommand c
    | .drain => drainCommand c
    | .reload => reloadCommand setup c
    | _ => Prog.raise .configInvalid

/-- `PlayoutSupervisor._process_command`. -/
def processCommand (c : Command) : DaemonM Unit :=
  match c.action with
  | .takeover => do
    let disabled ← isDisabled
    if disabled then return () else consumeTakeover setup
  | .handback => do
    let disabled ← isDisabled
    if disabled then return () else requestLiveHandback setup
  | _ => processDaemonCommand setup c

/-! ## The polls -/

/-- `_poll_preparation`, once the future is done: step the generator to its end. -/
def preparationDone (pending : Preparation) (sent : Except Fault Report) : DaemonM Unit := do
  modify fun d => { d with preparation := none }
  let outcome ← resumeWith setup pending.resume (some sent)
  match outcome, pending.resume with
  | .reuse plan, _ => fallBackToRestartReload false (some plan) none
  | .declined, .reload _ =>
    if pending.slateFirst then return () else fallBackToRestartReload false none none
  | .startExpired, .start _ => start setup { forceFallbackSlate := true }
  | .slateFirst, .start _ => do
    let n : ℕ ← call .rounds
    handOffSlateFirstProgram setup (startUpTo setup n)
  | _, _ => return ()

/-- The plan a suspended generator yielded. -/
def Resume.sourcePlan : Resume → SourcePlan
  | .start r => r.sourcePlan
  | .reload r => r.sourcePlan

/-- Has the channel moved on since the preparation was queued? -/
def isStale (pending : Preparation) (d : Attrs) : DaemonM Bool :=
  if pending.process ≠ d.process then return true
  else do
    let config ← getConfig
    return decide (pending.config ≠ config)

def pollPreparation : DaemonM Unit := do
  let d ← self
  match d.preparation with
  | none => return ()
  | some pending =>
    let answer : Option (Except Fault Report) ←
      call (.futureDone pending.ticket pending.resume.sourcePlan pending.suppliedReport)
    match answer with
    | none => return ()
    | some sent =>
      let stale ← isStale pending d
      if stale then
        call .cancelPreparation
        requestReload setup {}
      else preparationDone setup pending sent

def isGone (row : StateRow) (pidless : Bool) : DaemonM Bool :=
  if row.pid.isNone then return pidless else call .encoderGone

/-- `_reconcile_stale_claims`, for the channel; the start it queues is a command. -/
def reconcileStaleClaims (pidless : Bool) : DaemonM Unit := do
  let config ← getConfig
  let d ← self
  let terminal ← terminalIntent d
  if !(config.any (·.enabled)) || terminal || d.process.isSome then return ()
  else
    match ← readState with
    | none => return ()
    | some row =>
      if row.state ≠ .onAir ∧ row.state ≠ .starting ∧ row.state ≠ .transitioning then return ()
      else
        let gone ← isGone row pidless
        if gone then writeState .stopped none none

/-! ## Runs -/

/-- What happens to the daemon from outside: a poll of `process_once`, a queued command,
the automation's recorded boundary, a reconciliation, the preparation executor coming up
or going away, a new configuration, or a move of the worker. -/
inductive Event where
  | pollHlsRelay
  | pollProcess
  | serviceBackoffRelaunch
  | pollReloadSettlement
  | pollOutputAvGuard
  | pollFreezeEscalation
  | pollQualityRecovery
  | pollReloadStallWatchdog
  | pollPreparation
  | command (c : Command)
  | recordRolloverPlanEnd (r : RolloverRecord)
  | reconcile (pidless : Bool)
  | enableAsyncPreparation
  | shutdownPreparation
  | configure (config : Option Config)
  | worker
deriving DecidableEq

namespace Event

/-- `process_once`: every poll, the queued commands, and the finished preparation. -/
def processOnce (commands : List Command) : List Event :=
  [Event.pollHlsRelay, .pollProcess, .serviceBackoffRelaunch, .pollReloadSettlement,
    .pollOutputAvGuard, .pollFreezeEscalation, .pollQualityRecovery, .pollReloadStallWatchdog]
    ++ commands.map Event.command ++ [Event.pollPreparation]

def code : Event → DaemonM Unit
  | .pollHlsRelay => assist
  | .pollProcess => Daemon.pollProcess setup
  | .serviceBackoffRelaunch => Daemon.serviceBackoffRelaunch setup
  | .pollReloadSettlement => Daemon.pollReloadSettlement setup
  | .pollOutputAvGuard => Daemon.pollOutputAvGuard setup
  | .pollFreezeEscalation => Daemon.pollFreezeEscalation setup
  | .pollQualityRecovery => Daemon.pollQualityRecovery setup
  | .pollReloadStallWatchdog => Daemon.pollReloadStallWatchdog setup
  | .pollPreparation => Daemon.pollPreparation setup
  | .command c => processCommand setup c
  | .recordRolloverPlanEnd r => modify fun d => { d with rolloverRecord := some r }
  | .reconcile pidless => reconcileStaleClaims pidless
  | .enableAsyncPreparation => do
    let d ← self
    if !d.executor then modify fun d => { d with executor := true, preparationClosed := false }
  | .shutdownPreparation => do
    modify fun d => { d with preparationClosed := true }
    call .cancelPreparation
    modify fun d => { d with executor := false }
  | .configure config => call (.configure config)
  | .worker => do
    let _ ← call .meanwhile

end Event

/-- One event, on the machine `M`; an exception ends it early, and is logged. -/
def Step (M : Machine daemonIface World) (w : World) (e : Event) (w' : World) : Prop :=
  ∃ r, Exec M (e.code setup) w r w'

/-- A run: events, one after the other, each from a world that `P` allows it in. -/
inductive Run (M : Machine daemonIface World) (P : World → Event → Prop) :
    World → List Event → World → Prop where
  | nil (w : World) : Run M P w [] w
  | cons {w w₁ w₂ : World} {e : Event} {es : List Event} (allowed : P w e)
      (h : Step setup M w e w₁) (hs : Run M P w₁ es w₂) : Run M P w (e :: es) w₂

namespace Run

variable {setup} {M : Machine daemonIface World} {P : World → Event → Prop}

lemma keeps {J : World → Prop} (hstep : ∀ w e w', P w e → J w → Step setup M w e w' → J w')
    {w w' : World} {es : List Event} (h : Run setup M P w es w') (hw : J w) : J w' := by
  induction h with
  | nil w => exact hw
  | cons allowed h _ ih => exact ih (hstep _ _ _ allowed hw h)

end Run

/-! ## A daemon that has just come up -/

/-- The world at boot: an idle channel with the given configuration and state row. -/
def World.boot (config : Option Config) (row : Option StateRow) : World where
  d := {}
  config := config
  row := row
  worker := none
  status := none
  fresh := 0
  starts := 0
  reissues := 0
  terminated := []
  applied := none
  offLive := false
  releasedInUse := false

/-! ## Evaluating a run

An environment answers every operation; where it has a choice it is fixed for one event. -/

structure Env where
  monotonic : ℚ := 0
  utcNow : Instant := 0
  /-- Do store calls fail? -/
  writeState : Except Fault Unit := .ok ()
  appendProof : Except Fault Unit := .ok ()
  pending : List Command := []
  move : WorkerMove := .stays
  exitCode : ℤ := 0
  upstreamPlan : Except Fault (Option SourcePlan) := .ok none
  boundaryPlan : Except Fault (Option SourcePlan) := .ok none
  fallbackPlan : Except Fault SourcePlan := .error .sourcePrepare
  prepared : Except Fault (SourcePlan → SourcePlan) := .ok id
  /-- Does a preparation make a directory? -/
  makesDir : Bool := true
  /-- Is the preparation done? -/
  done : Bool := true
  armed : Except Fault Bool := .ok true
  session : SessionPlan := .none

namespace Env

def report (v : Env) (w : World) (plan : SourcePlan) : Except Fault Report :=
  v.prepared.map fun conform => ⟨conform plan, plan, if v.makesDir then some w.fresh else none⟩

/-- The answer, except to a call that does not come back. -/
def answer (v : Env) (w : World) : (o : Op) → Option (Ans o)
  | .self => some w.d
  | .modify _ => some ()
  | .release _ => some ()
  | .dropSettle _ => some ()
  | .cancelPreparation => some ()
  | .monotonic => some v.monotonic
  | .utcNow => some v.utcNow
  | .uuid => some w.fresh
  | .getConfig => some (.ok w.config)
  | .readState => some (.ok w.row)
  | .writeState _ => some v.writeState
  | .appendProof => some v.appendProof
  | .peekCommands => some (.ok v.pending)
  | .assist => some (.ok ())
  | .meanwhile => some (if legal w .meanwhile v.move then v.move else .stays)
  | .poll p => some (if w.runs p then none else some v.exitCode)
  | .terminate _ => some ()
  | .upstreamPlan => some v.upstreamPlan
  | .lookaheadPlans => some v.upstreamPlan
  | .boundaryPlan _ _ => some v.boundaryPlan
  | .fallbackPlan => some v.fallbackPlan
  | .nextProgramStart _ => some (.ok none)
  | .captionReadiness => some (.ok .ready)
  | .prepare plan => some (v.report w plan)
  | .submit _ => some w.fresh
  | .futureDone _ plan supplied =>
    some (if v.done then some ((supplied.map .ok).getD (v.report w plan)) else none)
  | .launch _ _ => some (.ok w.fresh)
  | .reloadContent _ => some v.armed
  | .ackTimedOut => some false
  | .swapRole => some (.ok ())
  | .reloadStatus => some w.status
  | .outputAvGuard => some (.ok .quiet)
  | .freezeEscalation => some (.ok .quiet)
  | .onAirEvidence => some false
  | .encoderGone => some false
  | .activeSession => some (.ok v.session)
  | .mark _ => some ()
  | .configure _ => some ()
  | .rounds => some 5
  | .diverge => none

/-- The environment as a strategy, where it keeps the promises. -/
def strategy (v : Env) (q : Promises) (w : World) (o : Op) :
    Option {x : Ans o // (machine q).legal w o x} :=
  match v.answer w o with
  | none => none
  | some x => if h : (legal w o x && q.allows w o x) = true then some ⟨x, h⟩ else none

end Env

/-- The world after a list of events, each in its environment; the world itself if an
event gets stuck. -/
def play (w : World) (script : List (Event × Env)) (q : Promises := {}) : World :=
  match script with
  | [] => w
  | (e, v) :: rest => play ((e.code setup).finish (machine q) (v.strategy q) w) rest q

/-- Does every event come back? -/
def plays (w : World) (script : List (Event × Env)) (q : Promises := {}) : Bool :=
  match script with
  | [] => true
  | (e, v) :: rest =>
    ((e.code setup).play (machine q) (v.strategy q) w).isSome
      && plays ((e.code setup).finish (machine q) (v.strategy q) w) rest q

section Play

variable {q : Promises}

lemma step_of_play {w : World} {e : Event} {v : Env} (h : plays setup w [(e, v)] q = true) :
    Step setup (machine q) w e (play setup w [(e, v)] q) := by
  simp only [plays, Bool.and_true] at h
  obtain ⟨⟨r, w'⟩, hplay⟩ := Option.isSome_iff_exists.mp h
  have hw' : play setup w [(e, v)] q = w' := by
    simp [play, Prog.finish, hplay]
  exact ⟨r, hw' ▸ Prog.exec_of_play hplay⟩

lemma run_of_play {P : World → Event → Prop} (script : List (Event × Env))
    (hP : ∀ ev ∈ script, ∀ w, P w ev.1) {w : World} (h : plays setup w script q = true) :
    Run setup (machine q) P w (script.map Prod.fst) (play setup w script q) := by
  induction script generalizing w with
  | nil => exact .nil w
  | cons ev rest ih =>
    obtain ⟨e, v⟩ := ev
    have hboth : plays setup w [(e, v)] q = true ∧
        plays setup (play setup w [(e, v)] q) rest q = true := by
      simpa [plays, play] using h
    exact .cons (hP _ List.mem_cons_self w) (step_of_play setup hboth.1)
      (ih (fun ev hev => hP ev (List.mem_cons_of_mem _ hev)) hboth.2)

end Play

/-! The channel the examples are about. -/

namespace Gov

/-- A channel whose strategy takes reloads; nothing is prepared. -/
def plain : Setup where
  channelId := "gov"
  boundaryProvider := false
  nextProgramProvider := false
  fallbackProvider := false
  lookaheadProvider := false
  takeoverStore := false
  sourcePreparer := false
  captionReadiness := false
  captionPrepareHook := false
  supportsContentReload := true
  supportsLiveSwap := false
  supportsScheduledStart := false

/-- Every plan is prepared, in a directory of its own. -/
def preparing : Setup := { plain with sourcePreparer := true }

def program : SourcePlan :=
  ⟨"gov", [⟨600, .program, some "asset-1", some "occurrence-1", some 0, "Council", none, none,
    none⟩]⟩

def scheduled : Env := { upstreamPlan := .ok (some program) }

def operatorStart : Command := ⟨.start, "op-1", "operator"⟩

def operatorReload : Command := ⟨.reload, "op-3", "operator"⟩

def boot : World := .boot (some ⟨true, 0⟩) none

end Gov

end Daemon

end CivicCast.Egress
