import CivicCast.Egress.DaemonSeams

/-! # Starts and reloads of the egress daemon

`EgressDaemon`, with `PlayoutSupervisor`'s overrides on top, for one channel: how a plan is
resolved, how an encoder is started on it, and how a running one is handed a new one.

`_start_steps` and `_reload_steps` are generators that yield once, at the media
preparation. Here each is cut at that point: the first half returns what it yields
together with a `Resume`, and `startFinish`/`reloadFinish` is the other half. `_start` and
`_request_reload` call each other without a bound of their own; `rounds` bounds the
depth, and a run that goes deeper does not come back (`diverge`).
-/

namespace CivicCast.Egress

namespace Daemon

open Lib Playout

/-! ## Constants -/

def restartCooldownSeconds : ℚ := 15
def restartStreakResetUptimeSeconds : ℚ := 60
def slateEosRelaunchMaxConsecutive : ℕ := 1
def restartEscalationStreak : ℕ := 5
def liveSourceFailureFallbackStreak : ℕ := restartEscalationStreak
def prerollTimeoutStreakCooldownSeconds : ℚ := 60
def pendingReloadSettleDeadlineSeconds : ℚ := 960
def rolloverExtensionToleranceSeconds : ℚ := 1 / 4
def scheduleTailFloorSeconds : ℚ := 30
def scheduleTailBoundaryMarginSeconds : ℚ := 1
def transitioningWatchdogLeadSeconds : ℚ := 690
def transitioningWatchdogSeconds : ℚ :=
  transitioningWatchdogLeadSeconds + pendingReloadSettleDeadlineSeconds
def transitioningWatchdogReissueGraceSeconds : ℚ := 300
def failedPreparationStallMarginSeconds : ℚ := 60
def failedPreparationRecordTtlSeconds : ℚ := 30
def reloadRetryLimit : ℕ := 2
def maxPlaylistSubchains : ℕ := 12
def slateRestartCommandPrefix : String := "headend-profile-restart-"
def restartRecoveryCommandPrefix : String := "restart-recovery-"
def commitStartCommandPrefix : String := "commit-start-"
def scheduledSlateStartCommandPrefix : String := "auto-slate-start-"

/-- `_SLOW_START_EXIT_CODES`: preroll timeout and first-output timeout. -/
def slowStartExitCodes : List ℤ := [3, 4]

/-! ## Small parts -/

def getConfig : DaemonM (Option Config) := do orRaise (← call .getConfig)

def readState : DaemonM (Option StateRow) := do orRaise (← call .readState)

def writeState (state : EgressState) (proofEventId : Option ℕ) (pid : Option Proc) :
    DaemonM Unit := do
  orRaise (← call (.writeState ⟨state, proofEventId, pid⟩))

def appendProofEvent : DaemonM ℕ := do
  let eventId : ℕ ← call .uuid
  orRaise (← call .appendProof)
  return eventId

/-- `_append_health`: metrics, samples, the emergency overlay and the alert hook. -/
def appendHealth : DaemonM Unit := assist

namespace Attrs

/-- `PlayoutSupervisor.has_manual_override`. -/
def hasManualOverride (d : Attrs) : Bool := d.takeover.isSome || d.forcedSlate.isSome

def hasPendingReloadSettlement (d : Attrs) : Bool := d.settle.isSome || d.preparation.isSome

def livePreparedPlanDirs (d : Attrs) : List Dir :=
  [d.activeDir, d.settle.bind (·.planDir), d.restartPlan.bind (·.report.planDir),
    (d.preparation.bind (·.suppliedReport)).bind (·.planDir)].filterMap id

end Attrs

def releasePreparedPlanDir (planDir : Option Dir) : DaemonM Unit :=
  match planDir with
  | none => return ()
  | some d => call (.release d)

def releasePreparedRestartPlan (plan : Option ReusePreparedPlan) : DaemonM Unit :=
  releasePreparedPlanDir (plan.bind (·.report.planDir))

def discardActivePreparedPlanDir : DaemonM Unit := do
  let d ← self
  modify fun d => { d with activeDir := none }
  releasePreparedPlanDir d.activeDir

def discardPreparedRestartPlan : DaemonM Unit := do
  let d ← self
  modify fun d => { d with restartPlan := none }
  releasePreparedRestartPlan d.restartPlan

def stashPreparedRestartPlan (plan : ReusePreparedPlan) : DaemonM Unit := do
  discardPreparedRestartPlan
  modify fun d => { d with restartPlan := some plan }

def isReadyGeneratedSlate (plan : SourcePlan) : Bool :=
  plan.segments ≠ [] && plan.segments.all fun s =>
    s.kind = .slate ∧ s.sourceRef = some "civiccast-slate" ∧ s.inpointSeconds = none
      ∧ s.outpointSeconds = none

/-- `should_defer_switch` of `reload_policy`. -/
def shouldDeferSwitch (previousState : Option EgressState) (manualOverrideActive : Bool)
    (planEndAt now : Option Instant) : Bool :=
  match planEndAt, now with
  | some e, some t => decide (t < e) && !manualOverrideActive &&
      (previousState = some .onAir || previousState = some .fallbackSlate)
  | some _, none => !manualOverrideActive &&
      (previousState = some .onAir || previousState = some .fallbackSlate)
  | none, _ => !manualOverrideActive && previousState = some .onAir

def recordDispatchedPlan (proofEventId : ℕ) (plan : SourcePlan) (switchDeferred : Bool)
    (chainedProgramEndAt : Option Instant) : DaemonM Unit :=
  modify fun d =>
    { d with
      horizon := some ⟨some proofEventId, plan.segments.map (·.durationSeconds), switchDeferred⟩
      programSource :=
        match plan.segments with
        | [] => none
        | first :: _ =>
          match first.kind, first.sourceRef, first.scheduleOccurrenceId with
          | .program, some ref, some occurrence =>
            some ⟨proofEventId, occurrence, ref, first.inpointSeconds.getD 0⟩
          | _, _, _ => none
      chainedSlateProgram := chainedProgramEndAt.map fun e => (some proofEventId, e) }

def restartLatchShouldRunNow : DaemonM Bool := do
  let now : ℚ ← call .monotonic
  let d ← self
  if d.restartLatch.getD 0 ≤ now then
    modify fun d => { d with restartLatch := some (now + restartCooldownSeconds) }
    return true
  else return false

def resetRestartTracking (slateEosRelaunches : Bool) : DaemonM Unit :=
  modify fun d =>
    { d with
      restartStreak := none
      prerollTimeoutStreakIncrAt := none
      backoff := none
      restartLatch := none
      slateEosRelaunches := if slateEosRelaunches then none else d.slateEosRelaunches }

def hasPendingTerminalCommand : DaemonM Bool := do
  let pending : Except Fault (List Command) ← call .peekCommands
  let commands ← orRaise pending
  return commands.any fun c => c.action = .stop ∨ c.action = .drain

/-! ## Resolving plans -/

variable (setup : Setup)

/-- The look-ahead provider's combined plan, or the upstream provider's. -/
def upcomingPlan : DaemonM (Except Fault (Option SourcePlan)) :=
  if setup.lookaheadProvider then call .lookaheadPlans else call .upstreamPlan

/-- `PlayoutSupervisor._refresh_source_lookahead`. -/
def refreshSourceLookahead : DaemonM Unit := do
  let answer ← upcomingPlan setup
  let plan ← orRaise answer
  modify fun d => { d with lookahead := some plan.toList }

/-- Refill an empty look-ahead queue. -/
def ensureLookahead : DaemonM Unit := do
  let d ← self
  if d.lookahead.getD [] = [] then
    modify fun d => { d with lookahead := some [] }
    refreshSourceLookahead setup

/-- `PlayoutSupervisor._next_source_plan`, the daemon's `_source_plan_provider`. -/
def nextSourcePlan : DaemonM (Option SourcePlan) := do
  let d ← self
  if d.forcedSlate.isSome then Prog.raise .sourcePrepare
  else
    match d.takeover with
    | some live => return some live
    | none =>
      ensureLookahead setup
      let d ← self
      match d.lookahead.getD [] with
      | [] => return none
      | plan :: rest =>
        modify fun d => { d with lookahead := some rest }
        return some plan

/-- A provider's answer, with `SourcePrepareError` turned into `none`. -/
def catchSourcePrepare {α : Type} (p : DaemonM α) : DaemonM (Option α) := do
  match ← p.attempt with
  | .ok a => return some a
  | .error .sourcePrepare => return none
  | .error fault => Prog.raise fault

def boundaryPlan (at_ : Instant) (minPlanSeconds : Option ℚ) : DaemonM (Option SourcePlan) := do
  orRaise (← call (.boundaryPlan at_ minPlanSeconds))

def fallbackPlan : DaemonM SourcePlan := do orRaise (← call .fallbackPlan)

/-- `re_resolve_program_at_occurrence_start`, over the daemon's boundary provider. -/
def reResolveProgramAtOccurrenceStart (probed : Option SourcePlan)
    (probedAt trueBoundary : Instant) (minPlanSeconds : Option ℚ) :
    DaemonM (Option SourcePlan) :=
  match probed with
  | none => return none
  | some plan =>
    match startsInsideProbe setup.channelId plan probedAt trueBoundary with
    | none => return some plan
    | some (occurrenceId, sourceRef, occurrenceStart) => do
      match ← catchSourcePrepare (boundaryPlan occurrenceStart minPlanSeconds) with
      | some (some replacement) =>
        if confirmsOccurrence setup.channelId plan replacement occurrenceId sourceRef
            occurrenceStart
        then return some replacement
        else return some plan
      | _ => return some plan

def isDispatchedProgramRemainder (plan : SourcePlan) : DaemonM Bool := do
  let d ← self
  let state ← readState
  match d.programSource, state, plan.segments with
  | some source, some row, first :: _ =>
    return row.currentProofEventId = some source.proofEventId ∧ first.kind = .program
      ∧ first.scheduleOccurrenceId = some source.scheduleOccurrenceId
      ∧ first.sourceRef = some source.sourceRef ∧ source.inpoint < first.inpointSeconds.getD 0
  | _, _, _ => return false

/-- A plan made of whole short programs, which the tail floor leaves alone. -/
def isWholeShortProgram (plan : SourcePlan) : Bool :=
  0 < plan.seconds && plan.segments.all (fun s => s.kind = .program ∧
    s.playableDurationSeconds.isSome)
    && decide ((plan.segments.filterMap (·.playableDurationSeconds)).sum < scheduleTailFloorSeconds)

/-- Does the tail floor leave the plan alone because it airs short programs whole? -/
def airsWhole (plan : SourcePlan) : DaemonM Bool :=
  if isWholeShortProgram plan then do
    let remainder ← isDispatchedProgramRemainder plan
    return !remainder
  else return false

/-- `_resolve_schedule_tail`: the plan to air, and whether it is the fallback slate. -/
def resolveScheduleTail (plan : SourcePlan) (resolvedAt : Option Instant)
    (slateWhenNoNext : Bool) : DaemonM (SourcePlan × Bool) := do
  let d ← self
  if !setup.boundaryProvider || d.hasManualOverride then return (plan, false)
  else
    let whole ← airsWhole plan
    if whole then return (plan, false)
    else if plan.seconds ≤ 0 ∨ scheduleTailFloorSeconds ≤ plan.seconds then return (plan, false)
    else
      let now : Instant ← call .utcNow
      let base := resolvedAt.getD now
      let boundaryAt := base + (plan.seconds + scheduleTailBoundaryMarginSeconds)
      let probed ← catchSourcePrepare (boundaryPlan boundaryAt none)
      let next ← reResolveProgramAtOccurrenceStart setup (probed.getD none) boundaryAt
        (base + plan.seconds) none
      match next with
      | some nextPlan =>
        if nextPlan.channelId = setup.channelId then
          if nextPlan.seconds ≤ plan.seconds then return (plan, false) else return (nextPlan, false)
        else noNext plan
      | none => noNext plan
where
  /-- Nothing is scheduled where the tail ends. -/
  noNext (plan : SourcePlan) : DaemonM (SourcePlan × Bool) := do
    if slateWhenNoNext && setup.fallbackProvider then
      match ← catchSourcePrepare fallbackPlan with
      | some slate =>
        if slate.channelId = setup.channelId then return (slate, true) else return (plan, false)
      | none => return (plan, false)
    else return (plan, false)

/-- Trim the filler to `remaining` seconds; `none` when it is shorter. -/
def trimFiller : ℚ → List Segment → Option (List Segment)
  | remaining, [] => if 0 < remaining then none else some []
  | remaining, segment :: rest =>
    if segment.durationSeconds < remaining then
      (trimFiller (remaining - segment.durationSeconds) rest).map (segment :: ·)
    else some [{ segment with durationSeconds := remaining }]

def chainNextProgram (filler : SourcePlan) (boundaryAt : Option Instant) :
    DaemonM (SourcePlan × Option Instant) :=
  match boundaryAt with
  | none => return (filler, none)
  | some boundary =>
    if !setup.nextProgramProvider || !setup.boundaryProvider then return (filler, none)
    else do
      let answer : Except Fault (Option Instant) ← call (.nextProgramStart boundary)
      match answer with
      | .error _ => return (filler, none)
      | .ok none => return (filler, none)
      | .ok (some nextStart) =>
        if nextStart - boundary ≤ 0 then return (filler, none)
        else
          match trimFiller (nextStart - boundary) filler.segments with
          | none => return (filler, none)
          | some trimmed =>
            let program : Except Fault (Option SourcePlan) ← call (.boundaryPlan nextStart none)
            match program with
            | .ok (some program) =>
              if program.channelId ≠ setup.channelId ∨ program.segments = []
                  ∨ maxPlaylistSubchains < trimmed.length + program.segments.length
              then return (filler, none)
              else return ({ filler with segments := trimmed ++ program.segments },
                some (nextStart + program.seconds))
            | _ => return (filler, none)

/-! ## Media preparation

`_drive_preparation` steps a generator up to its one `yield`, has the media prepared,
inline or on the executor, and steps it to its end. -/

/-- `_PreparationOutcome`. -/
inductive Outcome where
  | none
  | accepted
  | declined
  | pending
  | startExpired
  | slateFirst
  | reuse (plan : ReusePreparedPlan)
deriving DecidableEq

/-- The first half of a generator: its return value, what it yields, or (when there is
nothing to prepare) what it goes straight on with. -/
inductive Steps where
  | finished (outcome : Outcome)
  | goesOn (resume : Resume)
  | yields (plan : SourcePlan) (supplied : Option Report) (resume : Resume)
deriving DecidableEq

/-- What comes back from the `yield`; `none` when the generator did not yield. -/
abbrev Sent := Option (Except Fault Report)

/-- Does this operation yield only to warm the captions up? -/
def warmsCaptions (d : Attrs) (plan : SourcePlan) : Bool :=
  setup.captionPrepareHook && d.executor && !isReadyGeneratedSlate plan

/-- `SourcePreparationReport(source_plan, ())`. -/
def bareReport (plan : SourcePlan) : Report := ⟨plan, plan, none⟩

/-- `_drive_preparation`; `finish` is the generator's other half. -/
def drive (steps : DaemonM Steps) (finish : Resume → Sent → DaemonM Outcome) (slateFirst : Bool) :
    DaemonM Outcome := do
  let d ← self
  if d.preparationClosed then return .none
  else
    match ← steps with
    | .finished outcome => return outcome
    | .goesOn resume => finish resume none
    | .yields plan supplied resume =>
      let d ← self
      if d.executor then do
        let ticket : ℕ ← call (.submit plan)
        let config ← getConfig
        modify fun d => { d with
          preparation := some ⟨resume, ticket, d.process, config, slateFirst, supplied⟩ }
        return .pending
      else
        match supplied with
        | some report => finish resume (some (.ok report))
        | none => do
          let report : Except Fault Report ← call (.prepare plan)
          finish resume (some report)

/-! ## Starting an encoder -/

/-- The keyword arguments of `_start`. -/
structure StartArgs where
  previousState : Option EgressState := none
  forceFallbackSlate : Bool := false
  resolvedPlan : Option SourcePlan := none
  planResolutionStartedAt : Option ℚ := none
  preparedReload : Option ReusePreparedPlan := none
  slateFirst : Bool := false
deriving DecidableEq

/-- `_SLATE_FIRST_ACTIVE_STATES`. -/
def isSlateFirstActive (state : Option EgressState) : Bool :=
  state = some .onAir || state = some .starting || state = some .fallbackSlate
    || state = some .transitioning

/-- The plan a start resolves: `none` when the start ends here. -/
structure StartPlan where
  sourcePlan : SourcePlan
  usingFallbackSlate : Bool
  slateFirstHandoff : Bool
deriving DecidableEq

/-- Write FALLBACK_SLATE and resolve the slate. -/
def resolveSlate (slateFirstHandoff : Bool) : DaemonM (Option StartPlan) := do
  writeState .fallbackSlate none none
  let slate ← fallbackPlan
  return some ⟨slate, true, slateFirstHandoff⟩

/-- A start with no plan and no fallback source. -/
def nothingToStart : DaemonM (Option StartPlan) := do
  writeState .fallbackSlate none none
  appendHealth
  return none

def captionReadiness : DaemonM Readiness :=
  if setup.captionReadiness then do
    let answer : Except Fault Readiness ← call .captionReadiness
    orRaise answer
  else return .ready

/-- The plan resolution of `_start_steps`. -/
def resolveStart (a : StartArgs) : DaemonM (Option StartPlan) := do
  if a.forceFallbackSlate && setup.fallbackProvider then resolveSlate false
  else
    match ← captionReadiness setup with
    | .refused requiresFallbackSlate =>
      if !requiresFallbackSlate then Prog.raise .configInvalid
      else if !setup.fallbackProvider then do
        let stopped ← nothingToStart
        releasePreparedRestartPlan a.preparedReload
        return stopped
      else resolveSlate false
    | .ready =>
      match (a.preparedReload.map (·.report.sourcePlan)).or a.resolvedPlan with
      | some plan => return some ⟨plan, false, false⟩
      | none =>
        let d ← self
        if a.slateFirst && isSlateFirstActive a.previousState && a.preparedReload.isNone
            && setup.fallbackProvider && d.executor
        then resolveSlate true
        else
          match ← (nextSourcePlan setup).attempt with
          | .ok (some plan) => return some ⟨plan, false, false⟩
          | .ok none =>
            if setup.fallbackProvider then resolveSlate false else nothingToStart
          | .error .sourcePrepare =>
            if setup.fallbackProvider then resolveSlate false else Prog.raise .sourcePrepare
          | .error fault => Prog.raise fault

/-- How long the plan's first program still runs, when the schedule decides about it. -/
def firstProgramRemaining (d : Attrs) (plan : StartPlan) : Option ℚ :=
  match plan.sourcePlan.segments with
  | [] => none
  | first :: _ =>
    if !plan.usingFallbackSlate && setup.boundaryProvider && !d.hasManualOverride
        && first.kind = .program
    then some first.durationSeconds
    else none

/-- The schedule's tail floor, as a start applies it. -/
def applyTailFloor (a : StartArgs) (plan : StartPlan) : DaemonM (StartPlan × Option ℚ) := do
  let d ← self
  let remaining := firstProgramRemaining setup d plan
  if remaining.isSome && a.preparedReload.isNone then do
    let (tail, slate) ← resolveScheduleTail setup plan.sourcePlan none true
    if slate || tail ≠ plan.sourcePlan then
      let first := (tail.segments.head?).map (·.durationSeconds)
      return ({ plan with sourcePlan := tail, usingFallbackSlate := slate },
        if slate then none else first)
    else return (plan, remaining)
  else return (plan, remaining)

/-- The tracked process, if its worker is still alive. -/
def liveProcess : DaemonM (Option Proc) := do
  let d ← self
  match d.process with
  | none => return none
  | some p =>
    let code ← processPoll p
    return if code.isNone then some p else none

/-- A held restart plan that this start does not carry itself is released. -/
def dropHeldRestartPlan (prepared : Option ReusePreparedPlan) : DaemonM Unit := do
  let d ← self
  modify fun d => { d with restartPlan := none }
  if d.restartPlan ≠ prepared then releasePreparedRestartPlan d.restartPlan

/-- Everything of `_start_steps` before the plan is resolved: `none` when a live worker
already owns the channel, and the configuration otherwise. -/
def clearForStart (prepared : Option ReusePreparedPlan) : DaemonM (Option Config) := do
  match ← getConfig with
  | none => Prog.raise .configInvalid
  | some config =>
    if !config.enabled then Prog.raise .configInvalid
    else
      -- the relays rewrite the configuration, and may refuse
      assist
      let live ← liveProcess
      if live.isSome then
        releasePreparedRestartPlan prepared
        return none
      else
        modify fun d =>
          { d with pendingReload := none, reloadKill := false, stallSince := none,
                   stallBound := none, stallRung := 0 }
        dropHeldRestartPlan prepared
        call (.dropSettle .restarting)
        discardActivePreparedPlanDir
        -- `_reap_orphan`
        let _ ← readState
        assist
        return some config

/-- What `_start_steps` yields for its plan. -/
def yieldStart (prepared : Option ReusePreparedPlan) (plan : StartPlan) (resume : StartResume)
    (d : Attrs) : Steps :=
  match if plan.usingFallbackSlate then none else prepared with
  | some held =>
    let resume := { resume with sourcePlan := held.report.sourcePlan, reuse := some held }
    if warmsCaptions setup d held.report.sourcePlan
    then .yields held.report.sourcePlan (some held.report) (.start resume)
    else .goesOn (.start resume)
  | none =>
    if plan.slateFirstHandoff || !setup.sourcePreparer
        || (plan.usingFallbackSlate && isReadyGeneratedSlate plan.sourcePlan)
    then
      if warmsCaptions setup d plan.sourcePlan
      then .yields plan.sourcePlan (some (bareReport plan.sourcePlan)) (.start resume)
      else .goesOn (.start resume)
    else .yields plan.sourcePlan none (.start { resume with conforms := true })

/-- The exception handlers of `_start_steps`: only an exception that is not an
`EgressError` is raised again. -/
def startGuarded {α : Type} (otherwise : α) (p : DaemonM α) : DaemonM α := do
  match ← p.attempt with
  | .ok a => return a
  | .error fault =>
    writeState .error none none
    appendHealth
    modify fun d => { d with rolloverRecord := none }
    if fault = .other then Prog.raise fault else return otherwise

/-- The state row of a start; a reused plan is of no use to a start that airs the slate. -/
def announceStart (prepared : Option ReusePreparedPlan) (plan : StartPlan) : DaemonM Unit :=
  if plan.usingFallbackSlate then releasePreparedRestartPlan prepared
  else writeState .starting none none

/-- `_start_steps`, up to its `yield`. -/
def startSteps (a : StartArgs) (startedAt : ℚ) : DaemonM Steps :=
  startGuarded (.finished .none) do
    match ← clearForStart a.preparedReload with
    | none => return .finished .none
    | some config =>
      match ← resolveStart setup a with
      | none => return .finished .none
      | some plan =>
        if plan.sourcePlan.channelId ≠ setup.channelId then Prog.raise .configInvalid
        else
          let (plan, remaining) ← applyTailFloor setup a plan
          announceStart a.preparedReload plan
          let d ← self
          return yieldStart setup a.preparedReload plan
            { config := config, previousState := a.previousState, sourcePlan := plan.sourcePlan,
              usingFallbackSlate := plan.usingFallbackSlate,
              slateFirstHandoff := plan.slateFirstHandoff, reuse := none, conforms := false,
              firstProgramRemainingSeconds := remaining, planResolutionStartedAt := startedAt } d

/-- What the start airs once the preparation is back. -/
structure Prepared where
  sourcePlan : SourcePlan
  usingFallbackSlate : Bool
  planDir : Option Dir
deriving DecidableEq

/-- `_start_steps` at its `yield`. -/
def receiveStart (r : StartResume) (sent : Sent) : DaemonM Prepared :=
  match r.reuse, sent with
  | some held, some (.ok report) =>
    return ⟨r.sourcePlan, held.targetState = .fallbackSlate, report.planDir⟩
  | some held, none =>
    return ⟨r.sourcePlan, held.targetState = .fallbackSlate, held.report.planDir⟩
  | none, some (.ok report) =>
    if r.conforms then return ⟨report.sourcePlan, r.usingFallbackSlate, report.planDir⟩
    else return ⟨r.sourcePlan, r.usingFallbackSlate, none⟩
  | none, none => return ⟨r.sourcePlan, r.usingFallbackSlate, none⟩
  | _, some (.error fault) =>
    if r.conforms && fault = .sourcePrepare && setup.fallbackProvider then do
      writeState .fallbackSlate none none
      let slate ← fallbackPlan
      return ⟨slate, true, none⟩
    else Prog.raise fault

/-- What came up: the plan on air, and whether it is the slate. -/
structure Launched where
  sourcePlan : SourcePlan
  usingFallbackSlate : Bool
  process : Proc
deriving DecidableEq

def runningState (usingFallbackSlate : Bool) : EgressState :=
  if usingFallbackSlate then .fallbackSlate else .onAir

/-- `encoder_strategy.start`, with the slate when the encoder is not available. -/
def launchEncoder (p : Prepared) : DaemonM Launched := do
  let started : Except Fault Proc ← call (.launch p.sourcePlan p.planDir)
  match started with
  | .ok process => return ⟨p.sourcePlan, p.usingFallbackSlate, process⟩
  | .error fault =>
    if (fault = .encoderUnavailable || fault = .ffmpegNotFound) && setup.fallbackProvider
        && !p.usingFallbackSlate
    then do
      let slate ← fallbackPlan
      writeState .fallbackSlate none none
      assist
      let again : Except Fault Proc ← call (.launch slate none)
      let process ← orRaise again
      return ⟨slate, true, process⟩
    else Prog.raise fault

/-- The proof and the row of a transition from what was on air. -/
def announceTransition (previousState : Option EgressState) : DaemonM Unit :=
  if previousState = some .onAir ∨ previousState = some .fallbackSlate then do
    let event ← appendProofEvent
    writeState .transitioning (some event) none
  else return ()

/-- The directory of what went on air is the active one. -/
def bindPlanDir (p : Prepared) (up : Launched) : DaemonM Unit :=
  if up.usingFallbackSlate && !p.usingFallbackSlate then releasePreparedPlanDir p.planDir
  else if p.planDir.isSome then modify fun d => { d with activeDir := p.planDir }
  else return ()

/-- Announce the start and launch: the part whose failure releases the prepared media. -/
def bringUp (previousState : Option EgressState) (p : Prepared) : DaemonM Launched := do
  writeState .starting none none
  assist
  announceTransition previousState
  writeState (runningState p.usingFallbackSlate) none none
  assist
  let up ← launchEncoder setup p
  let now : ℚ ← call .monotonic
  modify fun d => { d with process := some up.process, startedAt := some now,
                           onAirConfirmedAt := none }
  bindPlanDir p up
  return up

/-- Release `planDir` if `p` raises. -/
def releaseOnError {α : Type} (planDir : Option Dir) (p : DaemonM α) : DaemonM α := do
  match ← p.attempt with
  | .ok a => return a
  | .error fault =>
    releasePreparedPlanDir planDir
    Prog.raise fault

/-- Has the first program ended while its plan was prepared? -/
def startExpired (r : StartResume) (p : Prepared) : DaemonM Bool :=
  match r.firstProgramRemainingSeconds with
  | some remaining =>
    if p.usingFallbackSlate then return false
    else do
      let now : ℚ ← call .monotonic
      return decide (remaining ≤ now - r.planResolutionStartedAt)
  | none => return false

/-- The proof, the state row and the dispatched plan of a start. -/
def recordStart (r : StartResume) (up : Launched) : DaemonM Outcome := do
  let event ← appendProofEvent
  assist
  writeState (runningState up.usingFallbackSlate) (some event) (some up.process)
  recordDispatchedPlan event up.sourcePlan false none
  appendHealth
  return if r.slateFirstHandoff then .slateFirst else .none

/-- `_start_steps`, from its `yield` on. -/
def startFinish (r : StartResume) (sent : Sent) : DaemonM Outcome :=
  startGuarded .none do
    let p ← receiveStart setup r sent
    let expired ← startExpired r p
    if expired then do
      releasePreparedPlanDir p.planDir
      if setup.fallbackProvider then return .startExpired else Prog.raise .sourcePrepare
    else
      let up ← releaseOnError p.planDir (bringUp setup r.previousState p)
      recordStart r up

/-! ## Reloading content -/

/-- What a rollover asks of a reload. -/
structure ReloadArgs where
  rolloverPlanEndAt : Option Instant := none
  minPlanSeconds : Option ℚ := none
  forceFallback : Bool := false
  scheduledStartAt : Option Instant := none
deriving DecidableEq

/-- The plan a reload resolves, or the outcome it ends with. -/
inductive ReloadPlan where
  | ended (outcome : Outcome)
  | resolved (plan : Option SourcePlan) (targetState : EgressState)
deriving DecidableEq

/-- The ordinary lookup: at the boundary, or now. -/
def lookUpPlan (boundaryAt : Option Instant) (horizon : Option ℚ) : DaemonM ReloadPlan := do
  let d ← self
  let lookUp := match setup.boundaryProvider && !d.hasManualOverride, boundaryAt with
    | true, some at_ => boundaryPlan at_ horizon
    | _, _ => nextSourcePlan setup
  match ← catchSourcePrepare lookUp with
  | some plan => return .resolved plan .onAir
  | none => return .ended .declined

/-- The filler, kept off the air when it cannot be resolved. -/
def fillerPlan : DaemonM ReloadPlan := do
  match ← catchSourcePrepare fallbackPlan with
  | some slate => return .resolved (some slate) .fallbackSlate
  | none => return .ended .accepted

/-- The forced filler, unless a plan that outlasts the boundary has turned up. -/
def lookUpFiller (boundaryAt planEndAt : Option Instant) : DaemonM ReloadPlan := do
  let now : Instant ← call .utcNow
  let lookUp := match setup.boundaryProvider, boundaryAt with
    | true, some at_ => boundaryPlan at_ none
    | _, _ => nextSourcePlan setup
  let sampledAt := if setup.boundaryProvider then boundaryAt.getD now else now
  let late ← catchSourcePrepare lookUp
  match late.getD none, planEndAt with
  | some plan, some endAt =>
    let lateSeconds := if plan.channelId = setup.channelId then plan.seconds else 0
    if endAt < sampledAt + (lateSeconds - rolloverExtensionToleranceSeconds)
    then return .resolved (some plan) .onAir
    else if setup.fallbackProvider then fillerPlan
    else return .resolved none .onAir
  | _, _ =>
    if setup.fallbackProvider then fillerPlan else return .resolved none .onAir

/-- Nothing at the boundary itself: look one margin past it. -/
def lookUpPastBoundary (boundaryAt : Option Instant) (horizon : Option ℚ) :
    DaemonM (Option SourcePlan) := do
  let d ← self
  match setup.boundaryProvider && !d.hasManualOverride, boundaryAt with
  | true, some boundary =>
    let recoveryAt := boundary + scheduleTailBoundaryMarginSeconds
    let probed ← catchSourcePrepare (boundaryPlan recoveryAt horizon)
    reResolveProgramAtOccurrenceStart setup (probed.getD none) recoveryAt boundary horizon
  | _, _ => return none

/-- Still nothing: the slate takes over at the boundary. -/
def terminalSlate (planEndAt : Option Instant) : DaemonM ReloadPlan := do
  let d ← self
  if planEndAt.isSome && !d.hasManualOverride && setup.fallbackProvider then
    match ← catchSourcePrepare fallbackPlan with
    | some slate =>
      return .resolved (some slate)
        (if slate.channelId = setup.channelId then .fallbackSlate else .onAir)
    | none => return .ended .accepted
  else return .resolved none .onAir

/-- The plan resolution of `_reload_steps`, with the end of a chained program. -/
def resolveReload (state : StateRow) (a : ReloadArgs) (boundaryAt : Option Instant) :
    DaemonM (ReloadPlan × Option Instant) := do
  if a.forceFallback then
    match ← lookUpFiller setup boundaryAt a.rolloverPlanEndAt with
    | .resolved (some filler) .fallbackSlate =>
      let (chained, chainedEnd) ← chainNextProgram setup filler a.rolloverPlanEndAt
      return (.resolved (some chained) .fallbackSlate, chainedEnd)
    | found => return (found, none)
  else
    let d ← self
    let horizon := if shouldDeferSwitch (some state.state) d.hasManualOverride
        a.rolloverPlanEndAt none
      then a.minPlanSeconds else none
    match ← lookUpPlan setup boundaryAt horizon with
    | .resolved none .onAir =>
      match ← lookUpPastBoundary setup boundaryAt horizon with
      | some plan => return (.resolved (some plan) .onAir, none)
      | none =>
        let found ← terminalSlate setup a.rolloverPlanEndAt
        return (found, none)
    | found => return (found, none)

/-- Where the new plan takes over: the recorded boundary, or now if that has passed. -/
def handoffBoundary (planEndAt : Option Instant) : DaemonM (Option Instant) :=
  match planEndAt with
  | none => return none
  | some endAt => do
    let now : Instant ← call .utcNow
    return some (max endAt now)

/-- The schedule's tail floor, as a reload applies it. -/
def floorReload (a : ReloadArgs) (boundaryAt : Option Instant) (plan : SourcePlan)
    (targetState : EgressState) : DaemonM (SourcePlan × EgressState) :=
  if !a.forceFallback && targetState ≠ .fallbackSlate then do
    let (tail, slate) ← resolveScheduleTail setup plan boundaryAt true
    return (tail, if slate then .fallbackSlate else targetState)
  else return (plan, targetState)

/-- What `_reload_steps` yields for its plan. -/
def yieldReload (resume : ReloadResume) (d : Attrs) : Steps :=
  if resume.targetState = .fallbackSlate && isReadyGeneratedSlate resume.sourcePlan then
    .goesOn (.reload resume)
  else if setup.sourcePreparer then
    .yields resume.sourcePlan none (.reload { resume with conforms := true })
  else if warmsCaptions setup d resume.sourcePlan then
    .yields resume.sourcePlan (some (bareReport resume.sourcePlan)) (.reload resume)
  else .goesOn (.reload resume)

/-- `_reload_steps`, up to its `yield`. -/
def reloadSteps (state : StateRow) (process : Proc) (a : ReloadArgs) : DaemonM Steps := do
  match ← getConfig with
  | none => return .finished .declined
  | some config =>
    if !config.enabled then return .finished .declined
    else
      -- the relays rewrite the configuration, and may refuse
      assist
      let boundaryAt ← handoffBoundary a.rolloverPlanEndAt
      let (found, chainedEnd) ← resolveReload setup state a boundaryAt
      match found with
      | .ended outcome => return .finished outcome
      | .resolved none _ => return .finished .declined
      | .resolved (some plan) targetState =>
        if plan.channelId ≠ setup.channelId then return .finished .declined
        else
          let (plan, targetState) ← floorReload setup a boundaryAt plan targetState
          let d ← self
          return yieldReload setup
            { state := state, process := process, sourcePlan := plan, targetState := targetState,
              conforms := false, rolloverPlanEndAt := a.rolloverPlanEndAt,
              chainedProgramEndAt := chainedEnd, scheduledStartAt := a.scheduledStartAt } d

def armPendingReload (state : Option StateRow) (planEndAt : Option Instant) : DaemonM Unit := do
  modify fun d => { d with pendingReload := some ⟨state.map (·.state)⟩ }
  let now : ℚ ← call .monotonic
  modify fun d => { d with stallSince := some now }
  let d ← self
  modify fun d => { d with failedPreparation := none }
  let bound ← stallBound d.failedPreparation now
  modify fun d => { d with stallBound := some bound, stallRung := 0 }
where
  /-- `_failed_preparation_stall_bound_seconds` and `_reload_stall_bound_seconds`. -/
  stallBound (failed : Option (ℚ × Instant)) (now : ℚ) : DaemonM ℚ := do
    let utc : Instant ← call .utcNow
    match failed.filter fun f => decide (now - f.1 ≤ failedPreparationRecordTtlSeconds) with
    | some (_, endAt) => return max 0 (endAt - utc) + failedPreparationStallMarginSeconds
    | none =>
      match planEndAt with
      | none => return transitioningWatchdogSeconds
      | some endAt =>
        return max transitioningWatchdogSeconds
          (endAt - utc + transitioningWatchdogLeadSeconds + pendingReloadSettleDeadlineSeconds)

/-- `_note_deliberate_kill`, then `_process_terminate`. -/
def terminateForReload (p : Proc) : DaemonM Unit := do
  modify fun d => { d with reloadKill := true }
  call (.terminate p)

/-- `_process_terminate_bounded`: the worker has time to go. -/
def terminateBounded (p : Proc) : DaemonM Unit := do
  call (.terminate p)
  let _ ← call .meanwhile

/-- A rollover's failed preparation is remembered for the stall bound. -/
def noteFailedPreparation (planEndAt : Option Instant) : DaemonM Unit :=
  match planEndAt with
  | none => return ()
  | some endAt => do
    let now : ℚ ← call .monotonic
    modify fun d => { d with failedPreparation := some (now, endAt) }

/-- `_reload_steps` at its `yield`: the plan, its directory, and the report if the media
was conformed; `none` when the preparation failed. -/
def receiveReload (r : ReloadResume) (sent : Sent) :
    DaemonM (Option (SourcePlan × Option Report)) :=
  match sent with
  | none => return some (r.sourcePlan, none)
  | some (.ok report) =>
    if r.conforms then return some (report.sourcePlan, some report)
    else return some (r.sourcePlan, none)
  | some (.error fault) =>
    if r.conforms && fault = .sourcePrepare then do
      noteFailedPreparation r.rolloverPlanEndAt
      return none
    else Prog.raise fault

/-- The `_PendingReloadSettlement` of a request. -/
def settlementOf (r : ReloadResume) (req : ReloadRequest) (now unix : ℚ) : Settlement where
  reloadId := req.reloadId
  since := now
  process := r.process
  sourcePlan := req.sourcePlan
  switchAtEndOfCurrent := req.switchAtEndOfCurrent
  previousState := some r.state.state
  targetState := r.targetState
  planDir := req.planDir
  rolloverPlanEndAt := r.rolloverPlanEndAt
  chainedProgramEndAt := r.chainedProgramEndAt
  switchAtUnix := req.switchAtUnix
  scheduledWaitSeconds := (req.switchAtUnix.map fun at_ => max 0 (at_ - unix)).getD 0

/-- The worker took the request: `_reload_steps` awaits its settlement. -/
def awaitSettlement (r : ReloadResume) (req : ReloadRequest) : DaemonM Unit := do
  call (.dropSettle .superseded)
  modify fun d => { d with pendingReload := none }
  let now : ℚ ← call .monotonic
  let unix : Instant ← call .utcNow
  modify fun d => { d with settle := some (settlementOf r req now unix) }

/-- The worker declined: a worker that no longer answers is killed. -/
def reloadDeclined (r : ReloadResume) : DaemonM Unit := do
  let timedOut : Bool ← call .ackTimedOut
  if timedOut then
    let code ← processPoll r.process
    if code.isNone then
      armPendingReload (some r.state) r.rolloverPlanEndAt
      modify fun d => { d with reloadKill := true }
      terminateBounded r.process

/-- Has the scheduled start passed while the plan was prepared? -/
def missedStart (scheduledStartAt : Option Instant) : DaemonM Bool :=
  match scheduledStartAt with
  | none => return false
  | some startAt => do
    let now : Instant ← call .utcNow
    return decide (startAt ≤ now)

/-- Hand the request to the worker. -/
def dispatchReload (r : ReloadResume) (plan : SourcePlan) (planDir : Option Dir)
    (deferred : Bool) : DaemonM Outcome := do
  let reloadId : ℕ ← call .uuid
  let req : ReloadRequest := ⟨reloadId, plan, r.sourcePlan, planDir, deferred, r.scheduledStartAt⟩
  let armed : Except Fault Bool ← call (.reloadContent req)
  match armed with
  | .error _ => return .declined
  | .ok false =>
    reloadDeclined r
    return .declined
  | .ok true =>
    awaitSettlement r req
    return .accepted

/-- `_reload_steps`, from its `yield` on. -/
def reloadFinish (r : ReloadResume) (sent : Sent) : DaemonM Outcome := do
  match ← receiveReload r sent with
  | none => return .declined
  | some (plan, report) =>
    let planDir := report.bind (·.planDir)
    let late ← missedStart r.scheduledStartAt
    if late then do
      releasePreparedPlanDir planDir
      return .declined
    else
      assist
      let d ← self
      let now : Instant ← call .utcNow
      let deferred := shouldDeferSwitch (some r.state.state) d.hasManualOverride
        r.rolloverPlanEndAt (some now)
      if !deferred && r.state.state = .fallbackSlate then
        match report with
        | none => return .declined
        | some report => return .reuse ⟨report, r.targetState⟩
      else dispatchReload r plan planDir deferred

/-- The other half of a suspended generator. -/
def resumeWith : Resume → Sent → DaemonM Outcome
  | .start r, sent => startFinish setup r sent
  | .reload r, sent => reloadFinish r sent

def stashIfPrepared (prepared : Option ReusePreparedPlan) : DaemonM Unit :=
  match prepared with
  | none => return ()
  | some plan => stashPreparedRestartPlan plan

/-- The proof a restart is announced under: an aborted reload leaves one of its own. -/
def restartProof (failed : Bool) (state : Option StateRow) : DaemonM (Option ℕ) :=
  if failed then do
    let event ← appendProofEvent
    return some event
  else return state.bind (·.currentProofEventId)

def boundaryExpired (planEndAt : Option Instant) : DaemonM Bool :=
  match planEndAt with
  | none => return false
  | some endAt => do
    let now : Instant ← call .utcNow
    return decide (endAt ≤ now)

/-- The state row of the restart to come. The slate, and a plan past its boundary, need not
play out first. -/
def announceRestart (failed : Bool) (state : Option StateRow) (process : Option Proc)
    (planEndAt : Option Instant) : DaemonM Unit := do
  let proofEventId ← restartProof failed state
  writeState .transitioning proofEventId process
  let expired ← boundaryExpired planEndAt
  match state, process with
  | some row, some p =>
    if row.state = .fallbackSlate || expired then terminateForReload p
  | _, _ => return ()

def fallBackToRestartReload (failed : Bool) (prepared : Option ReusePreparedPlan)
    (planEndAt : Option Instant) : DaemonM Unit := do
  call (.dropSettle .fallingBack)
  stashIfPrepared prepared
  let state ← readState
  let d ← self
  armPendingReload state planEndAt
  announceRestart failed state d.process planEndAt

/-- `_try_content_reload`: is the reload armed, or at least under way? -/
def tryContentReload (state : StateRow) (process : Proc) (a : ReloadArgs) (slateFirst : Bool) :
    DaemonM Bool := do
  call .cancelPreparation
  let outcome ← drive (reloadSteps setup state process a) (resumeWith setup) slateFirst
  match outcome with
  | .reuse plan =>
    fallBackToRestartReload false (some plan) none
    return false
  | .none => return false
  | .declined => return false
  | _ => return true

/-- The keyword arguments of `_request_reload`. -/
structure RequestArgs where
  commandId : Option String := none
  slateFirst : Bool := false
  handoffAt : Option Instant := none
deriving DecidableEq

/-- Take the rollover record, if it is this command's. -/
def takeRolloverRecord (commandId : Option String) : DaemonM (Option RolloverRecord) := do
  let d ← self
  match d.rolloverRecord.filter fun r => decide (r.commandId = commandId) with
  | none => return none
  | some recorded =>
    modify fun d => { d with rolloverRecord := none }
    return some recorded

/-- `scheduled_start_at`: a slate's program, armed ahead of its start. -/
def scheduledStart (a : RequestArgs) (state : StateRow) (planEndAt : Option Instant) :
    DaemonM (Option Instant) :=
  match a.commandId, planEndAt with
  | some commandId, some endAt =>
    if scheduledSlateStartCommandPrefix.isPrefixOf commandId && state.state = .fallbackSlate
    then do
      let now : Instant ← call .utcNow
      let d ← self
      return if now < endAt ∧ setup.supportsScheduledStart ∧ setup.supportsContentReload
          ∧ ¬ d.hasManualOverride
        then some endAt else none
    else return none
  | _, _ => return none

/-- `_request_reload`, over the `_start` it falls back to. -/
def requestReloadWith (start : StartArgs → DaemonM Unit) (a : RequestArgs) : DaemonM Unit := do
  call .cancelPreparation
  let recorded ← takeRolloverRecord a.commandId
  let planEndAt := a.handoffAt.or (recorded.map (·.planEndAt))
  let forceFallback := (recorded.map (·.forceFallback)).getD false
  call (.mark (.requested forceFallback))
  let state ← readState
  match ← liveProcess with
  | none => start { previousState := state.map (·.state), slateFirst := a.slateFirst }
  | some p =>
    match if setup.supportsContentReload then state else none with
    | none => fallBackToRestartReload false none planEndAt
    | some row =>
      let scheduledStartAt ← scheduledStart setup a row planEndAt
      let slateFirst := a.slateFirst || scheduledStartAt.isSome
      let armed ← tryContentReload setup row p
        ⟨planEndAt, recorded.bind (·.minPlanSeconds), forceFallback, scheduledStartAt⟩ slateFirst
      -- a failed slate-first hand-off keeps the slate
      if armed || slateFirst then return ()
      else fallBackToRestartReload false none planEndAt

def handOffSlateFirstProgram (start : StartArgs → DaemonM Unit) : DaemonM Unit := do
  let live ← liveProcess
  if live.isSome then requestReloadWith setup start { slateFirst := true }

/-- When the plan's resolution began: the caller's reading, or now. -/
def resolutionStart (startedAt : Option ℚ) : DaemonM ℚ :=
  match startedAt with
  | some t => return t
  | none => call .monotonic

/-- `_start`, over the `_start` it may call again. -/
def startWith (start : StartArgs → DaemonM Unit) (a : StartArgs) : DaemonM Unit := do
  let d ← self
  if d.preparation.isSome then releasePreparedRestartPlan a.preparedReload
  else
    let startedAt ← resolutionStart a.planResolutionStartedAt
    let outcome ← releaseOnError (a.preparedReload.bind (·.report.planDir))
      (drive (startSteps setup a startedAt) (resumeWith setup) false)
    match outcome with
    | .startExpired => start { forceFallbackSlate := true }
    | .slateFirst => handOffSlateFirstProgram setup start
    | _ => return ()

/-- `_start`, at most `n` calls deep. -/
def startUpTo : ℕ → StartArgs → DaemonM Unit
  | 0, _ => do
    let gone : Empty ← call .diverge
    nomatch gone
  | n + 1, a => startWith setup (startUpTo n) a

def start (a : StartArgs) : DaemonM Unit := do
  let n : ℕ ← call .rounds
  startUpTo setup n a

def requestReload (a : RequestArgs) : DaemonM Unit := do
  let n : ℕ ← call .rounds
  requestReloadWith setup (startUpTo setup n) a

end Daemon

end CivicCast.Egress
