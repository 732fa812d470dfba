import CivicCast.Egress.Plans

/-! # One channel's automation pass

`ChannelAutomationService` visits every enabled channel once a poll. A pass starts a
dark channel, lets the daemon process the channel, and then makes two checks on the
state row: `_check_slate_replan` reloads a channel that stands on its fallback slate
when a program is due, and `_check_plan_rollover` reloads a channel whose finite plan
is about to run out.

* `Env` holds what one pass finds around it: the clocks, the store's row, the daemon's
  answers and the schedule's plans. A pass reads each of them at one instant.
* `Latches` is what the service remembers of the channel from pass to pass, with the
  calls that the pass in progress has made.
* `runChannelPassBody` is the pass, `run` a sequence of passes.

An operator override (a live takeover or a forced slate) is consulted by the rollover
check and by the slate pre-arm. The slate re-plan does not consult it: under an
override it is the only part of a pass that can queue a reload
(`reload_iff_replanDue`).
-/

namespace CivicCast.Egress

namespace Automation

open Playout Option

/-- `EgressStateRow`, as far as the automation reads it. -/
structure StateRow where
  state : EgressState
  currentProofEventId : Option String
  pid : Option ℕ
deriving DecidableEq

/-- The plan the daemon has on air: its proof event, its segments' durations, and
whether the switch to it was deferred to the end of the plan before. -/
structure DispatchedPlan where
  proofEventId : Option String
  durations : List ℚ
  switchDeferred : Bool
deriving DecidableEq

/-- What one pass finds around it. -/
structure Env where
  channelId : String
  autoStart : Bool
  now : Instant
  monotonic : ℚ
  /-- The random part of a command id. -/
  uuid : String
  -- before the daemon processes the channel
  hasLiveProcess : Bool
  operatorStopIntent : Bool
  pendingActions : Except Fault (List Action)
  processOnce : Except Fault Unit
  -- after it
  readState : Except Fault (Option StateRow)
  liveTakeover : Bool
  forcedSlate : Bool
  workerConnected : Bool
  pendingPreparation : Bool
  pendingScheduledStart : Bool
  pendingReloadSettlement : Bool
  chainedSlateProgramEnd : Option Instant
  dispatchedPlanHorizon : Option DispatchedPlan
  supportsScheduledStart : Bool
  supportsContentReload : Bool
  -- the schedule
  sourcePlan : PlanAnswer
  boundaryPlan : Option (Instant → PlanAnswer)
  nextItemStartAt : Instant → Except Fault (Option Instant)
  -- the writes that may raise
  enqueue : Action → Except Fault Unit
  warm : SourcePlan → Except Fault Unit

namespace Env

/-- `PlayoutSupervisor.has_manual_override`. -/
def hasManualOverride (env : Env) : Bool := env.liveTakeover || env.forcedSlate

/-- `EgressDaemon.can_prearm_slate_program`. -/
def canPrearmSlateProgram (env : Env) : Bool :=
  env.supportsScheduledStart && env.supportsContentReload && !env.hasManualOverride

end Env

/-- The environment variables a lead is computed from. -/
structure Settings where
  rolloverLeadOverride : Option ℚ
  preparationTimeoutSeconds : ℚ
deriving DecidableEq

/-- A call the pass makes on the store or the daemon. -/
inductive Call where
  | enqueue (action : Action) (commandId : String)
  | recordRolloverPlanEnd (planEndAt : Instant) (commandId : String) (forceFallback : Bool)
      (minPlanSeconds : Option ℚ)
  | warmSourcePlan (plan : SourcePlan)
deriving DecidableEq

def Call.reloads : Call → Bool
  | .enqueue .reload _ => true
  | _ => false

/-- An entry of `_plan_horizon`. -/
structure Horizon where
  proofEventId : Option String
  planEndAt : Instant
  lastSegmentStartAt : Instant
  plannedSeconds : ℚ
deriving DecidableEq

/-- An entry of `_rollover_asset_probe`. -/
structure AssetProbe where
  planEndAt : Instant
  seconds : Option ℚ
deriving DecidableEq

structure Latches where
  startRetryAt : Option ℚ := none
  reloadIssued : Bool := false
  replanRetryAt : Option ℚ := none
  slateWarmRetryAt : Option ℚ := none
  planHorizon : Option Horizon := none
  rolloverIssued : Bool := false
  rolloverIssuedAt : Option ℚ := none
  rolloverAssetProbe : Option AssetProbe := none
  rolloverDispatchedAt : Option ℚ := none
  rolloverRetryDispatchedAt : Option ℚ := none
  rolloverRetryWarnedAt : Option ℚ := none
  rolloverPidAgeWarnedAt : Option ℚ := none
  rolloverRetryAt : Option ℚ := none
  pidFirstSeenAt : Option (ℕ × ℚ) := none
  /-- The calls of the pass in progress, the last one first. -/
  calls : List Call := []
deriving DecidableEq

/-! ## Constants -/

def startRetryCooldownSeconds : ℚ := 30
def reloadRetryCooldownSeconds : ℚ := 30
def rolloverMinLeadSeconds : ℚ := 120
def rolloverReloadSettleBudgetSeconds : ℚ := 30
def rolloverLeadMarginSeconds : ℚ := 60
def rolloverPreparationPasses : ℚ := 2
def rolloverConformRealtimeFactor : ℚ := 12
def rolloverConformMarginSeconds : ℚ := 120
def rolloverIssuedTimeoutSeconds : ℚ := 45
def rolloverRetryWarnIntervalSeconds : ℚ := 60
def rolloverRetryCooldownSeconds : ℚ := 30
def rolloverTailFloorSeconds : ℚ := 30
def rolloverTailBoundaryMarginSeconds : ℚ := 1
def rolloverMinIntervalSeconds : ℚ := 300
def rolloverMinIntervalFloorSeconds : ℚ := 1
def rolloverRetryMinIntervalSeconds : ℚ := 60
def rolloverRetryMinWorkerAgeSeconds : ℚ := 60
def rolloverLookaheadMaxSteps : ℕ := 8
def scheduledSlateStartCommandPrefix : String := "auto-slate-start-"

/-- `retry_at is not None and self._monotonic() < retry_at`. -/
def coolingDown (tick : ℚ) (retryAt : Option ℚ) : Bool := retryAt.any (tick < ·)

/-- `last_warned_at is None or ... >= _ROLLOVER_RETRY_WARN_INTERVAL_SECONDS`. -/
def warnDue (tick : ℚ) (warnedAt : Option ℚ) : Bool :=
  warnedAt.all (rolloverRetryWarnIntervalSeconds ≤ tick - ·)

namespace Latches

variable (set : Settings) (env : Env) (s : Latches)

/-- `_enqueue`: the call is made; the store may raise. -/
def enqueue (action : Action) (commandId : String) : Latches × Except Fault Unit :=
  ({ s with calls := .enqueue action commandId :: s.calls }, env.enqueue action)

def warmSourcePlan (plan : SourcePlan) : Latches × Except Fault Unit :=
  ({ s with calls := .warmSourcePlan plan :: s.calls }, env.warm plan)

def recordRolloverPlanEnd (planEndAt : Instant) (commandId : String) (forceFallback : Bool)
    (minPlanSeconds : Option ℚ) : Latches :=
  { s with calls :=
      .recordRolloverPlanEnd planEndAt commandId forceFallback minPlanSeconds :: s.calls }

/-! ## Starting a dark channel -/

/-- The first half of `_run_channel_pass_body`: keep a dark `auto_start` channel asked
for, unless the operator stopped it. -/
def startDarkChannel : Latches × Except Fault Unit :=
  if env.hasLiveProcess then ({ s with startRetryAt := none }, .ok ())
  else if !env.autoStart || env.operatorStopIntent then (s, .ok ())
  else
    match env.pendingActions with
    | .error fault => (s, .error fault)
    | .ok pending =>
      if pending.any fun a => a = .stop ∨ a = .drain then (s, .ok ())
      else if coolingDown env.monotonic s.startRetryAt then (s, .ok ())
      else
        let retryAt := some (env.monotonic + startRetryCooldownSeconds)
        if pending.contains .start then ({ s with startRetryAt := retryAt }, .ok ())
        else
          match s.enqueue env .start ("auto-start-" ++ env.uuid) with
          | (t, .error fault) => (t, .error fault)
          | (t, .ok ()) => ({ t with startRetryAt := retryAt }, .ok ())

/-! ## Leads and intervals -/

end Latches

def rolloverLeadSeconds (set : Settings) (assetSeconds : Option ℚ) : ℚ :=
  match set.rolloverLeadOverride with
  | some lead => lead
  | none =>
    let computed := max rolloverMinLeadSeconds
      (rolloverPreparationPasses * set.preparationTimeoutSeconds
        + rolloverReloadSettleBudgetSeconds + rolloverLeadMarginSeconds)
    match assetSeconds with
    | some seconds =>
      if 0 < seconds then
        max computed (seconds / rolloverConformRealtimeFactor + rolloverConformMarginSeconds)
      else computed
    | none => computed

/-- `_rollover_min_lead_seconds`. -/
def rolloverMinLead (plannedSeconds : ℚ) : ℚ := min rolloverMinLeadSeconds (plannedSeconds / 2)

/-- `_rollover_min_interval_seconds`. -/
def rolloverMinInterval (plannedSeconds : ℚ) : ℚ :=
  min rolloverMinIntervalSeconds (max rolloverMinIntervalFloorSeconds (plannedSeconds / 2))

/-- `rollover_trigger_at` of `reload_policy`. -/
def rolloverTriggerAt (planEndAt lastSegmentStartAt : Instant) (minLeadSeconds : ℚ) : Instant :=
  min lastSegmentStartAt (planEndAt - minLeadSeconds)

/-! ## Resolving plans at a boundary -/

/-- `_resolve_boundary_plan_at`: a `SourcePrepareError` is no plan. -/
def resolveBoundaryPlanAt (env : Env) (boundary : Instant) : PlanAnswer :=
  match env.boundaryPlan with
  | none => .ok none
  | some provider =>
    match provider boundary with
    | .error .sourcePrepare => .ok none
    | answer => answer

/-- `_resolve_rollover_tail`: a plan shorter than the floor is the tail of the closing
item; ask again where it ends, and keep the longer plan. -/
def resolveRolloverTail (channelId : String) (provider : Instant → PlanAnswer)
    (boundary : Instant) (freshPlan : Option SourcePlan) : PlanAnswer :=
  let tailSeconds := (freshPlan.map SourcePlan.seconds).getD 0
  if rolloverTailFloorSeconds ≤ tailSeconds then .ok freshPlan
  else
    let reAskAt := boundary + (tailSeconds + rolloverTailBoundaryMarginSeconds)
    match provider reAskAt with
    | .error .sourcePrepare => .ok freshPlan
    | .error fault => .error fault
    | .ok probed =>
      match reResolveProgramAtOccurrenceStart channelId provider probed reAskAt
          (boundary + tailSeconds) with
      | .error fault => .error fault
      | .ok none => .ok freshPlan
      | .ok (some replacement) =>
        if replacement.channelId ≠ channelId ∨ replacement.seconds ≤ tailSeconds
        then .ok freshPlan
        else .ok (some replacement)

namespace Latches

variable (set : Settings) (env : Env) (s : Latches)

/-! ## The look-ahead -/

/-- The loop of `_warm_upcoming_plan`; whatever is raised inside it is swallowed. -/
def warmLoop (leadSeconds : ℚ) : ℕ → (previousStart boundary : Instant) → Latches → Latches
  | 0, _, _, s => s
  | steps + 1, previousStart, boundary, s =>
    match resolveBoundaryPlanAt env boundary with
    | .error _ => s
    | .ok none => s
    | .ok (some plan) =>
      let dispatchAt := max previousStart (boundary - leadSeconds)
      if plan.segments = [] then s
      else if env.now + leadSeconds ≤ dispatchAt ∨ dispatchAt ≤ previousStart then
        (s.warmSourcePlan env plan).1
      else if plan.seconds ≤ 0 then s
      else warmLoop leadSeconds steps boundary (boundary + plan.seconds) s

def warmUpcomingPlan (leadSeconds : ℚ) (freshStart freshEnd : Instant) : Latches :=
  warmLoop env leadSeconds rolloverLookaheadMaxSteps freshStart freshEnd s

/-- The pre-arm, or the warm-up, of the program that follows the slate. -/
def prearmOrWarm (start : Instant) (plan : SourcePlan) : Latches × Except Fault Unit :=
  if env.canPrearmSlateProgram then
    let commandId := scheduledSlateStartCommandPrefix ++ env.uuid
    (s.recordRolloverPlanEnd start commandId false none).enqueue env .reload commandId
  else s.warmSourcePlan env plan

/-- `_warm_after_slate`, once the program at `start` has a plan. -/
def warmAfterSlateAt (start : Instant) (plan : SourcePlan) : Latches :=
  let s := { s with slateWarmRetryAt := some (env.monotonic + reloadRetryCooldownSeconds) }
  match s.prearmOrWarm env start plan with
  | (s, .error _) => s
  | (s, .ok ()) =>
    if 0 < plan.seconds then
      s.warmUpcomingPlan env (rolloverLeadSeconds set none) start (start + plan.seconds)
    else s

def warmAfterSlate : Latches :=
  if env.boundaryPlan.isNone then s
  else if env.monotonic < s.slateWarmRetryAt.getD 0 then s
  else
    match env.nextItemStartAt env.now with
    | .error _ => s
    | .ok none => s
    | .ok (some start) =>
      if env.now < start ∧ start ≤ env.now + rolloverLeadSeconds set none then
        match resolveBoundaryPlanAt env start with
        | .error _ => s
        | .ok none => s
        | .ok (some plan) => if plan.segments = [] then s else s.warmAfterSlateAt set env start plan
      else s

/-! ## The slate re-plan -/

/-- `_check_slate_replan` on a slate that nothing holds back. -/
def replanFromSlate : Latches × Except Fault Unit :=
  match env.sourcePlan with
  | .error .sourcePrepare => (s, .ok ())
  | .error fault => (s, .error fault)
  | .ok none => (s.warmAfterSlate set env, .ok ())
  | .ok (some _) =>
    match s.enqueue env .reload ("auto-reload-" ++ env.uuid) with
    | (s, .error fault) => (s, .error fault)
    | (s, .ok ()) =>
      ({ s with
          reloadIssued := true
          replanRetryAt := some (env.monotonic + reloadRetryCooldownSeconds) }, .ok ())

/-- What holds a re-plan back, in the order of `_check_slate_replan`. -/
def replanHeldBack : Bool :=
  !env.workerConnected || env.pendingPreparation || env.pendingScheduledStart
    || env.chainedSlateProgramEnd.any (env.now < ·) || s.reloadIssued
    || coolingDown env.monotonic s.replanRetryAt

def checkSlateReplan : Latches × Except Fault Unit :=
  match env.readState with
  | .error fault => (s, .error fault)
  | .ok none => ({ s with reloadIssued := false }, .ok ())
  | .ok (some row) =>
    if row.state = .fallbackSlate then
      if s.replanHeldBack env then (s, .ok ()) else s.replanFromSlate set env
    else if row.state = .onAir then
      ({ s with reloadIssued := false, replanRetryAt := none }, .ok ())
    else ({ s with reloadIssued := false }, .ok ())

/-! ## The horizon of the plan on air -/

def trackWorkerPid (row : StateRow) : Latches :=
  match row.pid with
  | none => { s with pidFirstSeenAt := none }
  | some pid =>
    if s.pidFirstSeenAt.any (·.1 = pid) then s
    else { s with pidFirstSeenAt := some (pid, env.monotonic) }

def workerPidAgeSeconds : Option ℚ := s.pidFirstSeenAt.map (env.monotonic - ·.2)

/-- When the dispatched plan went on air: a deferred switch seen just before the tracked
end of the plan before is placed at that end. -/
def dispatchStartsAt (previous : Option Horizon) (switchDeferred : Bool) : Instant :=
  match previous with
  | none => env.now
  | some h =>
    if switchDeferred ∧ env.now < h.planEndAt
        ∧ h.planEndAt ≤ env.now + rolloverMinLead h.plannedSeconds
    then h.planEndAt
    else env.now

/-- The horizon of a plan with the given segments that goes on air at `startsAt`. -/
def horizonFrom (proofEventId : Option String) (startsAt : Instant) (durations : List ℚ) :
    Horizon where
  proofEventId := proofEventId
  planEndAt := startsAt + durations.sum
  lastSegmentStartAt := startsAt + durations.sum - durations.getLastD 0
  plannedSeconds := durations.sum

/-- `_establish_horizon_from_dispatch`; `none` when the daemon has nothing to say of the
plan with this proof event. -/
def establishHorizonFromDispatch (proofEventId : Option String) (previous : Option Horizon) :
    Option Latches :=
  match env.dispatchedPlanHorizon with
  | none => none
  | some d =>
    if d.proofEventId ≠ proofEventId ∨ d.durations = [] then none
    else
      some { s with
        planHorizon := some (horizonFrom proofEventId
          (dispatchStartsAt env previous d.switchDeferred) d.durations)
        rolloverRetryAt := none }

def reestablishPlanHorizon (proofEventId : Option String) (previous : Option Horizon) :
    Latches × Except Fault Unit :=
  match s.establishHorizonFromDispatch env proofEventId previous with
  | some s => (s, .ok ())
  | none =>
    let retryAt := some (env.monotonic + rolloverRetryCooldownSeconds)
    if coolingDown env.monotonic s.rolloverRetryAt then ({ s with planHorizon := none }, .ok ())
    else
      match env.sourcePlan with
      | .error .sourcePrepare => ({ s with rolloverRetryAt := retryAt }, .ok ())
      | .error fault => (s, .error fault)
      | .ok none => ({ s with planHorizon := none, rolloverRetryAt := retryAt }, .ok ())
      | .ok (some plan) =>
        if plan.segments = [] then
          ({ s with planHorizon := none, rolloverRetryAt := retryAt }, .ok ())
        else
          ({ s with
              planHorizon := some (horizonFrom proofEventId env.now
                (plan.segments.map Segment.durationSeconds))
              rolloverRetryAt := none }, .ok ())

/-! ## The rollover -/

def cachedRolloverAsset (planEndAt : Instant) : Option (Option ℚ) :=
  match s.rolloverAssetProbe with
  | some probe => if probe.planEndAt = planEndAt then some probe.seconds else none
  | none => none

def probeRolloverAsset (provider : Instant → PlanAnswer) (planEndAt : Instant) :
    Latches × Except Fault (Option ℚ) :=
  let probed (seconds : Option ℚ) : Latches × Except Fault (Option ℚ) :=
    ({ s with rolloverAssetProbe := some ⟨planEndAt, seconds⟩ }, .ok seconds)
  match s.cachedRolloverAsset planEndAt with
  | some seconds => (s, .ok seconds)
  | none =>
    match provider planEndAt with
    | .error .sourcePrepare => probed none
    | .error fault => (s, .error fault)
    | .ok none => probed none
    | .ok (some plan) => if plan.segments = [] then probed none else probed (some plan.seconds)

/-- When the rollover of a horizon is due. -/
structure Trigger where
  leadSeconds : Option ℚ
  triggerAt : Instant
  insideLeadRecovery : Bool

/-- The trigger of a plan whose successor is looked up at the boundary. -/
def boundaryTrigger (h : Horizon) (assetSeconds : Option ℚ) : Trigger where
  leadSeconds := some (rolloverLeadSeconds set assetSeconds)
  triggerAt := max h.lastSegmentStartAt (h.planEndAt - rolloverLeadSeconds set assetSeconds)
  insideLeadRecovery :=
    h.planEndAt - h.lastSegmentStartAt < rolloverLeadSeconds set assetSeconds

def rolloverTrigger (h : Horizon) : Latches × Except Fault Trigger :=
  match env.boundaryPlan with
  | none =>
    (s, .ok
      { leadSeconds := none
        triggerAt := rolloverTriggerAt h.planEndAt h.lastSegmentStartAt
          (rolloverMinLead h.plannedSeconds)
        insideLeadRecovery := false })
  | some provider =>
    -- only a probe made before the flat trigger can move the lead
    if env.now < max h.lastSegmentStartAt (h.planEndAt - rolloverLeadSeconds set none) then
      match s.probeRolloverAsset provider h.planEndAt with
      | (s, .error fault) => (s, .error fault)
      | (s, .ok asset) => (s, .ok (boundaryTrigger set h asset))
    else (s, .ok (boundaryTrigger set h ((s.cachedRolloverAsset h.planEndAt).getD none)))

/-- The cadence floor of a first dispatch, and the pacing of a retry. -/
def rolloverPaced (h : Horizon) (retryingUndelivered staleHorizonRecovery : Bool)
    (trigger : Trigger) : Latches × Bool :=
  if retryingUndelivered then
    if s.rolloverRetryDispatchedAt.any (env.monotonic - · < rolloverRetryMinIntervalSeconds) then
      (s, false)
    else if (s.workerPidAgeSeconds env).any (· < rolloverRetryMinWorkerAgeSeconds) then
      if warnDue env.monotonic s.rolloverPidAgeWarnedAt then
        ({ s with rolloverPidAgeWarnedAt := some env.monotonic }, false)
      else (s, false)
    else (s, true)
  else if staleHorizonRecovery || trigger.insideLeadRecovery then (s, true)
  else (s, !s.rolloverDispatchedAt.any
    (env.monotonic - · < rolloverMinInterval h.plannedSeconds))

def resolveFreshPlan (h : Horizon) : PlanAnswer :=
  match env.boundaryPlan with
  | none => env.sourcePlan
  | some provider =>
    match provider (max env.now h.planEndAt) with
    | .error fault => .error fault
    | .ok freshPlan =>
      match resolveRolloverTail env.channelId provider (max env.now h.planEndAt) freshPlan with
      -- `_resolve_rollover_tail` itself raises outside the `except SourcePrepareError`
      | .error _ => .error .other
      | .ok plan => .ok plan

/-- Where the fresh plan starts; `now` for a provider that knows no boundary. -/
def freshStart (h : Horizon) : Instant :=
  if env.boundaryPlan.isSome then max env.now h.planEndAt else env.now

/-- Whether the rollover goes to filler: nothing is scheduled, or only less than what is
on air. -/
def forcesFallback (h : Horizon) (freshPlan : Option SourcePlan) : Bool :=
  match freshPlan with
  | none => true
  | some plan => plan.segments = [] ∨
      (freshStart env h + plan.seconds ≤ h.planEndAt ∧ plan.seconds < h.plannedSeconds)

/-- Whether a fresh plan that does not outlast the one on air is waited for. -/
def extendsNothing (h : Horizon) (freshPlan : Option SourcePlan) : Bool :=
  !forcesFallback env h freshPlan &&
    freshPlan.any fun plan => freshStart env h + plan.seconds ≤ h.planEndAt

/-- The dispatch of `_check_plan_rollover`. -/
def dispatchRollover (h : Horizon) (retryingUndelivered : Bool) (trigger : Trigger)
    (freshPlan : Option SourcePlan) : Latches × Except Fault Unit :=
  let commandId := "auto-reload-" ++ env.uuid
  let s := { s with rolloverRetryAt := none }
  let s := s.recordRolloverPlanEnd h.planEndAt commandId (forcesFallback env h freshPlan)
    trigger.leadSeconds
  match s.enqueue env .reload commandId with
  | (s, .error fault) => (s, .error fault)
  | (s, .ok ()) =>
    let s := { s with
      rolloverIssued := true
      rolloverIssuedAt := some env.monotonic
      rolloverDispatchedAt := some env.monotonic }
    let s := if retryingUndelivered then
        { s with
          rolloverRetryDispatchedAt := some env.monotonic
          rolloverRetryWarnedAt := none
          rolloverPidAgeWarnedAt := none }
      else s
    match forcesFallback env h freshPlan, freshPlan, trigger.leadSeconds with
    | false, some plan, some lead =>
      (s.warmUpcomingPlan env lead (freshStart env h) (freshStart env h + plan.seconds), .ok ())
    | _, _, _ => (s, .ok ())

/-- The rest of `_check_plan_rollover`, once the trigger has been reached. -/
def rollover (h : Horizon) (retryingUndelivered staleHorizonRecovery : Bool) (trigger : Trigger) :
    Latches × Except Fault Unit :=
  match s.rolloverPaced env h retryingUndelivered staleHorizonRecovery trigger with
  | (s, false) => (s, .ok ())
  | (s, true) =>
    if coolingDown env.monotonic s.rolloverRetryAt then (s, .ok ())
    else
      let retryAt := some (env.monotonic + rolloverRetryCooldownSeconds)
      match resolveFreshPlan env h with
      | .error .sourcePrepare => ({ s with rolloverRetryAt := retryAt }, .ok ())
      | .error fault => (s, .error fault)
      | .ok freshPlan =>
        if extendsNothing env h freshPlan then ({ s with rolloverRetryAt := retryAt }, .ok ())
        else s.dispatchRollover env h retryingUndelivered trigger freshPlan

/-- `_check_plan_rollover` from the trigger on. -/
def rolloverIfDue (h : Horizon) (retryingUndelivered staleHorizonRecovery : Bool) :
    Latches × Except Fault Unit :=
  match s.rolloverTrigger set env h with
  | (s, .error fault) => (s, .error fault)
  | (s, .ok trigger) =>
    if env.now < trigger.triggerAt then (s, .ok ())
    else s.rollover env h retryingUndelivered staleHorizonRecovery trigger

/-- The latches that a new proof event, or a stale horizon, drops. -/
def dropRetryLatches : Latches :=
  { s with
    rolloverIssuedAt := none
    rolloverRetryDispatchedAt := none
    rolloverRetryWarnedAt := none
    rolloverPidAgeWarnedAt := none }

/-- `_check_plan_rollover` on a tracked horizon. -/
def rolloverTracked (h : Horizon) : Latches × Except Fault Unit :=
  if h.planEndAt ≤ env.now ∧ env.pendingReloadSettlement then
    if warnDue env.monotonic s.rolloverRetryWarnedAt then
      ({ s with rolloverRetryWarnedAt := some env.monotonic }, .ok ())
    else (s, .ok ())
  else if h.planEndAt ≤ env.now ∧ !s.rolloverIssued then
    s.dropRetryLatches.rolloverIfDue set env h false true
  else if s.rolloverIssued then
    if env.pendingReloadSettlement then (s, .ok ())
    else if s.rolloverIssuedAt.any (rolloverIssuedTimeoutSeconds ≤ env.monotonic - ·) then
      let s := if warnDue env.monotonic s.rolloverRetryWarnedAt then
          { s with rolloverRetryWarnedAt := some env.monotonic }
        else s
      s.rolloverIfDue set env h true false
    else (s, .ok ())
  else s.rolloverIfDue set env h false false

def checkPlanRollover : Latches × Except Fault Unit :=
  match env.readState with
  | .error fault => (s, .error fault)
  | .ok none =>
    ({ s.dropRetryLatches with
        planHorizon := none, rolloverIssued := false, rolloverDispatchedAt := none }, .ok ())
  | .ok (some row) =>
    if row.state ≠ .onAir ∧ row.state ≠ .fallbackSlate then
      ({ s.dropRetryLatches with
          planHorizon := none, rolloverIssued := false, rolloverDispatchedAt := none }, .ok ())
    else if env.hasManualOverride then (s, .ok ())
    else if row.state = .fallbackSlate ∧ s.reloadIssued then (s, .ok ())
    else
      let s := s.trackWorkerPid env row
      match s.planHorizon with
      | none =>
        ({ s.dropRetryLatches with rolloverIssued := false }).reestablishPlanHorizon env
          row.currentProofEventId none
      | some h =>
        if h.proofEventId ≠ row.currentProofEventId then
          ({ s.dropRetryLatches with rolloverIssued := false }).reestablishPlanHorizon env
            row.currentProofEventId (some h)
        else if !env.workerConnected then (s, .ok ())
        else s.rolloverTracked set env h

/-! ## The pass -/

/-- `_run_channel_pass_body`; an exception ends the pass with what it has done so far. -/
def runChannelPassBody : Latches :=
  match ({ s with calls := [] }).startDarkChannel env with
  | (s, .error _) => s
  | (s, .ok ()) =>
    match env.processOnce with
    | .error _ => s
    | .ok () =>
      match s.checkSlateReplan set env with
      | (s, .error _) => s
      | (s, .ok ()) => (s.checkPlanRollover set env).1

/-- The pass asked the store to queue a reload. -/
def ReloadIssued : Prop := ∃ c ∈ s.calls, c.reloads

instance : Decidable s.ReloadIssued := inferInstanceAs (Decidable (∃ c ∈ s.calls, c.reloads))

/-- The passes of a run, each with the latches it starts from. -/
def run (set : Settings) : Latches → List Env → List (Env × Latches)
  | _, [] => []
  | s, env :: rest => (env, s) :: run set (s.runChannelPassBody set env) rest

end Latches

/-! ## Reloads under an override -/

namespace Latches

variable {set : Settings} {env : Env} {s : Latches}

/-- The start request of the pass raised: the peek into the queue, or the enqueue. -/
def StartRaised (env : Env) (s : Latches) : Prop :=
  env.hasLiveProcess = false ∧ env.autoStart = true ∧ env.operatorStopIntent = false ∧
    match env.pendingActions with
    | .error _ => True
    | .ok pending =>
      (∀ a ∈ pending, a ≠ .stop ∧ a ≠ .drain ∧ a ≠ .start)
        ∧ coolingDown env.monotonic s.startRetryAt = false ∧ env.enqueue .start ≠ .ok ()

/-- A program is due on a slate that nothing holds back: the row stands on the fallback
slate, its worker is connected with nothing in preparation, no re-plan is out or cooling
down, and the schedule has a plan for now. -/
structure ReplanDue (env : Env) (s : Latches) : Prop where
  started : ¬StartRaised env s
  processed : env.processOnce = .ok ()
  slate : ∃ row, env.readState = .ok (some row) ∧ row.state = .fallbackSlate
  free : s.replanHeldBack env = false
  due : ∃ plan, env.sourcePlan = .ok (some plan)

section Calls

@[simp]
lemma reloadIssued_nil : ¬({ s with calls := [] } : Latches).ReloadIssued := by
  simp [ReloadIssued]

lemma reloadIssued_cons {c : Call} {calls : List Call} (h : s.calls = c :: calls) :
    s.ReloadIssued ↔ c.reloads ∨ ∃ d ∈ calls, d.reloads := by
  simp [ReloadIssued, h]

lemma reloadIssued_congr {t : Latches} (h : s.calls = t.calls) :
    s.ReloadIssued ↔ t.ReloadIssued := by
  rw [ReloadIssued, ReloadIssued, h]

@[simp]
lemma reloadIssued_enqueue (env : Env) (s : Latches) (action : Action) (commandId : String) :
    (s.enqueue env action commandId).1.ReloadIssued ↔ action = .reload ∨ s.ReloadIssued := by
  rw [enqueue, reloadIssued_cons rfl]
  cases action <;> simp [Call.reloads, ReloadIssued]

@[simp]
lemma reloadIssued_warmSourcePlan {plan : SourcePlan} :
    (s.warmSourcePlan env plan).1.ReloadIssued ↔ s.ReloadIssued := by
  rw [warmSourcePlan, reloadIssued_cons rfl]
  simp [Call.reloads, ReloadIssued]

lemma reloadIssued_warmLoop (lead : ℚ) (steps : ℕ) (previousStart boundary : Instant) :
    (warmLoop env lead steps previousStart boundary s).ReloadIssued ↔ s.ReloadIssued := by
  induction steps generalizing previousStart boundary with
  | zero => rfl
  | succ steps ih =>
    simp only [warmLoop]
    split
    · rfl
    · rfl
    · split_ifs
      · rfl
      · exact reloadIssued_warmSourcePlan
      · rfl
      · exact ih _ _

lemma reloadIssued_prearmOrWarm (h : env.hasManualOverride) (start : Instant)
    (plan : SourcePlan) : (s.prearmOrWarm env start plan).1.ReloadIssued ↔ s.ReloadIssued := by
  have hprearm : env.canPrearmSlateProgram = false := by
    simp [Env.canPrearmSlateProgram, h]
  simp [prearmOrWarm, hprearm]

lemma reloadIssued_warmAfterSlateAt (h : env.hasManualOverride) {start : Instant}
    {plan : SourcePlan} :
    (s.warmAfterSlateAt set env start plan).ReloadIssued ↔ s.ReloadIssued := by
  have hwarm := reloadIssued_prearmOrWarm
    (s := { s with slateWarmRetryAt := some (env.monotonic + reloadRetryCooldownSeconds) })
    h start plan
  simp only [warmAfterSlateAt]
  rcases hrun : prearmOrWarm env _ start plan with ⟨t, r⟩
  rw [hrun] at hwarm
  cases r with
  | error => exact hwarm
  | ok =>
    dsimp only
    split_ifs
    · rw [warmUpcomingPlan, reloadIssued_warmLoop]
      exact hwarm
    · exact hwarm

/-- The look-ahead behind the slate queues no reload under an override. -/
lemma reloadIssued_warmAfterSlate (h : env.hasManualOverride) :
    (s.warmAfterSlate set env).ReloadIssued ↔ s.ReloadIssued := by
  rw [warmAfterSlate]
  split_ifs
  · rfl
  · rfl
  · split
    · rfl
    · rfl
    · split_ifs
      · split
        · rfl
        · rfl
        · split_ifs
          · rfl
          · exact reloadIssued_warmAfterSlateAt h
      · rfl

/-- The start request touches its own cooldown and asks for at most a start. -/
lemma startDarkChannel_eq (env : Env) (s : Latches) : ∃ retryAt calls,
    (s.startDarkChannel env).1 = { s with startRetryAt := retryAt, calls := calls }
      ∧ (calls = s.calls ∨ calls = .enqueue .start ("auto-start-" ++ env.uuid) :: s.calls) := by
  rw [startDarkChannel]
  rcases env.pendingActions with fault | pending
  · split_ifs <;> exact ⟨_, _, rfl, .inl rfl⟩
  · dsimp only
    split_ifs
    · exact ⟨_, _, rfl, .inl rfl⟩
    · exact ⟨_, _, rfl, .inl rfl⟩
    · exact ⟨_, _, rfl, .inl rfl⟩
    · exact ⟨_, _, rfl, .inl rfl⟩
    · exact ⟨_, _, rfl, .inl rfl⟩
    · rw [enqueue]
      cases env.enqueue .start <;> exact ⟨_, _, rfl, .inr rfl⟩

@[simp]
lemma reloadIssued_startDarkChannel : (s.startDarkChannel env).1.ReloadIssued ↔ s.ReloadIssued := by
  obtain ⟨retryAt, calls, heq, rfl | rfl⟩ := startDarkChannel_eq env s
  · rw [heq]
    rfl
  · rw [heq, reloadIssued_cons rfl]
    simp [Call.reloads, ReloadIssued]

lemma replanHeldBack_startDarkChannel :
    (s.startDarkChannel env).1.replanHeldBack env = s.replanHeldBack env := by
  obtain ⟨retryAt, calls, heq, -⟩ := startDarkChannel_eq env s
  rw [heq]
  rfl

/-- The start request returns unless one of its two store calls raised. -/
lemma startDarkChannel_returns_iff (env : Env) (s : Latches) :
    (s.startDarkChannel env).2 = .ok () ↔ ¬StartRaised env s := by
  simp only [startDarkChannel, StartRaised, enqueue]
  cases env.hasLiveProcess with
  | true => simp
  | false =>
    by_cases hstart : env.autoStart = true ∧ env.operatorStopIntent = false
    · rcases env.pendingActions with fault | pending
      · simp [hstart]
      · rcases hq : env.enqueue .start with fault | ⟨⟩
        · simp [hstart]
          split_ifs with hstop hcool hpending
          · simp
            grind
          · simp [hcool]
          · simp
            grind
          · simp
            grind
        · simp [hstart]
          split_ifs <;> simp
    · have hoff : (!env.autoStart || env.operatorStopIntent) = true := by
        grind
      simp [hoff]
      grind

/-- A re-plan from a free slate queues a reload exactly when the schedule has a plan. -/
lemma reloadIssued_replanFromSlate (h : env.hasManualOverride) :
    (s.replanFromSlate set env).1.ReloadIssued ↔
      s.ReloadIssued ∨ ∃ plan, env.sourcePlan = .ok (some plan) := by
  have hreload := reloadIssued_enqueue env s .reload ("auto-reload-" ++ env.uuid)
  rw [replanFromSlate]
  rcases hplan : env.sourcePlan with fault | _ | plan
  · cases fault <;> simp
  · simp [reloadIssued_warmAfterSlate h]
  · rcases hrun : enqueue env s .reload ("auto-reload-" ++ env.uuid) with ⟨t, r⟩
    rw [hrun] at hreload
    have ht : t.ReloadIssued := hreload.mpr (.inl rfl)
    cases r with
    | error fault => simp [ht]
    | ok =>
      simp only [Except.ok.injEq, some.injEq, exists_eq', or_true, iff_true]
      exact ht

/-- The slate check queues a reload when a program is due on a free slate. -/
lemma reloadIssued_checkSlateReplan (set : Settings) (s : Latches) (h : env.hasManualOverride) :
    (s.checkSlateReplan set env).1.ReloadIssued ↔ s.ReloadIssued ∨
      (∃ row, env.readState = .ok (some row) ∧ row.state = .fallbackSlate)
        ∧ s.replanHeldBack env = false ∧ ∃ plan, env.sourcePlan = .ok (some plan) := by
  rw [checkSlateReplan]
  rcases hrow : env.readState with fault | _ | row
  · simp
  · simp only [Except.ok.injEq, reduceCtorEq, false_and, exists_false, or_false]
    rfl
  · by_cases hslate : row.state = .fallbackSlate
    · cases hheld : s.replanHeldBack env with
      | true => simp [hslate]
      | false => simp [hslate, reloadIssued_replanFromSlate h]
    · by_cases hair : row.state = .onAir
      · simp only [hair, reduceCtorEq, if_false, if_true, Except.ok.injEq, some.injEq,
          exists_eq_left', false_and, or_false]
        rfl
      · simp only [hslate, hair, if_false, Except.ok.injEq, some.injEq,
          exists_eq_left', false_and, or_false]
        rfl

lemma checkPlanRollover_calls (h : env.hasManualOverride) :
    (s.checkPlanRollover set env).1.calls = s.calls := by
  rw [checkPlanRollover]
  rcases env.readState with fault | _ | row
  · rfl
  · rfl
  · dsimp only
    split_ifs
    · rfl
    · rfl

end Calls

/-- Under an override, a pass queues a reload exactly when a program is due on a slate
that nothing holds back. -/
lemma reload_iff_replanDue (h : env.hasManualOverride) :
    (s.runChannelPassBody set env).ReloadIssued ↔ ReplanDue env s := by
  have hraised : StartRaised env { s with calls := [] } ↔ StartRaised env s := .rfl
  have hstart := startDarkChannel_returns_iff env { s with calls := [] }
  have hquiet : ¬(startDarkChannel env { s with calls := [] }).1.ReloadIssued := by simp
  have hheld : (startDarkChannel env { s with calls := [] }).1.replanHeldBack env
      = s.replanHeldBack env := replanHeldBack_startDarkChannel
  rw [hraised] at hstart
  rw [runChannelPassBody]
  rcases hrun : startDarkChannel env { s with calls := [] } with ⟨t, r⟩
  rw [hrun] at hstart hquiet hheld
  cases r with
  | error fault =>
    constructor
    · intro hissued
      exact absurd hissued hquiet
    · intro hdue
      have hok := hstart.mpr hdue.started
      cases hok
  | ok u =>
    cases u
    have hstarted : ¬StartRaised env s := hstart.mp rfl
    cases hproc : env.processOnce with
    | error fault =>
      constructor
      · intro hissued
        exact absurd hissued hquiet
      · intro hdue
        have hok := hdue.processed
        rw [hproc] at hok
        cases hok
    | ok u =>
      cases u
      have hcheck := reloadIssued_checkSlateReplan set t h
      rw [hheld] at hcheck
      -- only the slate check can queue the reload
      have hiff : (checkSlateReplan set env t).1.ReloadIssued ↔ ReplanDue env s := by
        rw [hcheck]
        constructor
        · rintro (hissued | ⟨hslate, hfree, hdue⟩)
          · exact absurd hissued hquiet
          · exact ⟨hstarted, hproc, hslate, hfree, hdue⟩
        · intro hdue
          exact .inr ⟨hdue.slate, hdue.free, hdue.due⟩
      dsimp only
      rcases hslate : checkSlateReplan set env t with ⟨v, r⟩
      rw [hslate] at hiff
      cases r with
      | error fault => exact hiff
      | ok u =>
        cases u
        -- under an override the rollover check calls nothing
        rw [← hiff]
        exact reloadIssued_congr (checkPlanRollover_calls h)

/-- No pass of a run queues a reload under an override exactly when no pass finds, under
an override, a program due on a slate that nothing holds back. -/
theorem overridden_passes_quiet_iff (set : Settings) (s : Latches) (passes : List Env) :
    (∀ p ∈ run set s passes, p.1.hasManualOverride →
        ¬(p.2.runChannelPassBody set p.1).ReloadIssued) ↔
      ∀ p ∈ run set s passes, p.1.hasManualOverride → ¬ReplanDue p.1 p.2 := by
  constructor
  · intro hquiet p hp hover hdue
    exact hquiet p hp hover ((reload_iff_replanDue hover).mpr hdue)
  · intro hfree p hp hover hissued
    exact hfree p hp hover ((reload_iff_replanDue hover).mp hissued)

/-- The council meeting the operator covers with a forced slate. -/
def meeting : SourcePlan where
  channelId := "gov"
  segments := [⟨3600, .program, some "asset-1", some "row-1", some 1000, "Council", none, none,
    none⟩]

/-- A pass over a forced slate while the meeting is due. -/
def forcedSlatePass : Env where
  channelId := "gov"
  autoStart := true
  now := 1200
  monotonic := 500
  uuid := "0a1b2c3d4e5f"
  hasLiveProcess := true
  operatorStopIntent := false
  pendingActions := .ok []
  processOnce := .ok ()
  readState := .ok (some ⟨.fallbackSlate, some "proof-1", some 4242⟩)
  liveTakeover := false
  forcedSlate := true
  workerConnected := true
  pendingPreparation := false
  pendingScheduledStart := false
  pendingReloadSettlement := false
  chainedSlateProgramEnd := none
  dispatchedPlanHorizon := none
  supportsScheduledStart := true
  supportsContentReload := true
  sourcePlan := .ok (some meeting)
  boundaryPlan := some fun _ => .ok (some meeting)
  nextItemStartAt := fun _ => .ok none
  enqueue := fun _ => .ok ()
  warm := fun _ => .ok ()

/-- The slate re-plan queues a reload under a forced slate. -/
theorem forced_slate_reloaded : ¬∀ (set : Settings) (s : Latches) (passes : List Env),
    ∀ p ∈ run set s passes, p.1.hasManualOverride →
      ¬(p.2.runChannelPassBody set p.1).ReloadIssued := by
  intro hquiet
  have hpass := hquiet ⟨none, 915⟩ {} [forcedSlatePass] (forcedSlatePass, {})
    (List.mem_singleton.mpr rfl) (by decide)
  exact hpass (by decide +kernel)

end Latches

end Automation

end CivicCast.Egress
