import CivicCast.Egress.Automation

/-! # Back-to-back plans: the horizon does not drift, every plan is rolled over once

The automation learns of a switch only when a pass finds a new proof event in the state
row, up to `d` seconds after the switch. From then on it tracks the end of the plan on
air, and queues the reload that puts the next plan on air. Each horizon is derived from
the one before, so an error could add up.

* `Chain` is the channel as the passes find it: the latches, the plan the row shows, and
  the reload that waits to be applied. `Chain.step` is one pass.
* `BackToBack` collects what a run promises: plans aired one after the other, each switch
  the effect of a reload, landing at the end of the outgoing plan.
* `Inv` is what every pass leaves behind; `rollovers_keep_up` reads the result off it.
-/

namespace CivicCast.Egress

namespace Automation

open Playout List Latches Option

/-! ## The chain of plans -/

/-- A finite plan on air. -/
structure AiredPlan where
  proofEventId : String
  durations : List ℚ
  switchDeferred : Bool
deriving DecidableEq

def AiredPlan.seconds (plan : AiredPlan) : ℚ := plan.durations.sum

/-- One pass: what it finds, and whether the row shows the next plan for the first time. -/
structure Visit where
  env : Env
  pid : Option ℕ
  switched : Bool

structure Chain where
  latches : Latches
  /-- The plan the row shows. -/
  index : ℕ
  /-- When a pass first saw that plan. -/
  seenAt : Instant
  /-- When the reload of that plan was queued. -/
  queuedAt : Option Instant
deriving DecidableEq

/-- The number of reloads a pass queued. -/
def Latches.reloadCount (s : Latches) : ℕ := s.calls.countP Call.reloads

namespace Chain

variable (set : Settings) (plan : ℕ → AiredPlan)

def start (init : Latches) (seenAt : Instant) : Chain := ⟨init, 0, seenAt, none⟩

/-- What the pass finds on the row and at the daemon: a reload is pending from the pass
that queues it until the row shows its plan. -/
def shown (c : Chain) (v : Visit) : Chain :=
  if v.switched then { c with index := c.index + 1, seenAt := v.env.now, queuedAt := none } else c

/-- The environment of a pass over the plan the row shows. -/
def envOf (c : Chain) (v : Visit) : Env :=
  { v.env with
    readState := .ok (some ⟨.onAir, some (plan c.index).proofEventId, v.pid⟩)
    pendingReloadSettlement := c.queuedAt.isSome
    dispatchedPlanHorizon := some ⟨some (plan c.index).proofEventId, (plan c.index).durations,
      (plan c.index).switchDeferred⟩ }

def visit (c : Chain) (v : Visit) : Chain :=
  let latches := c.latches.runChannelPassBody set (c.envOf plan v)
  { c with
    latches := latches
    queuedAt := if 0 < latches.reloadCount then some v.env.now else c.queuedAt }

def step (c : Chain) (v : Visit) : Chain := (c.shown v).visit set plan v

/-- The channel before pass `k`. -/
def before (init : Latches) (visits : ℕ → Visit) : ℕ → Chain
  | 0 => start init (visits 0).env.now
  | k + 1 => (before init visits k).step set plan (visits k)

end Chain

/-! ## What a run promises -/

/-- A run of back-to-back plans: `startsAt i` is the instant plan `i` goes on air, passes
are at most `p` apart, and a new plan is first seen at most `d` after its start. -/
structure BackToBack (set : Settings) (d p offset : ℚ) (plan : ℕ → AiredPlan)
    (startsAt : ℕ → Instant) (init : Latches) (visits : ℕ → Visit) : Prop where
  durations_ne : ∀ i, (plan i).durations ≠ []
  durations_pos : ∀ i, ∀ x ∈ (plan i).durations, 0 < x
  proof_ne : ∀ i, (plan i).proofEventId ≠ (plan (i + 1)).proofEventId
  /-- A switch lands at the end of the outgoing plan. -/
  lands : ∀ i, startsAt (i + 1) = startsAt i + (plan i).seconds
  forward : ∀ k, (visits k).env.now ≤ (visits (k + 1)).env.now
  gap : ∀ k, (visits (k + 1)).env.now ≤ (visits k).env.now + p
  unbounded : ∀ t, ∃ k, t ≤ (visits k).env.now
  /-- The two clocks run alike. -/
  clock : ∀ k, (visits k).env.monotonic = (visits k).env.now + offset
  first_plan : (visits 0).switched = false
  first_seen : startsAt 0 ≤ (visits 0).env.now ∧ (visits 0).env.now ≤ startsAt 0 + d
  seen : ∀ k, (visits k).switched →
    startsAt ((Chain.before set plan init visits k).index + 1) ≤ (visits k).env.now ∧
      (visits k).env.now ≤ startsAt ((Chain.before set plan init visits k).index + 1) + d
  /-- A switch is the effect of a reload queued before it. -/
  caused : ∀ k, (visits k).switched →
    ∃ t ∈ (Chain.before set plan init visits k).queuedAt,
      t ≤ startsAt ((Chain.before set plan init visits k).index + 1)
  live : ∀ k, (visits k).env.hasLiveProcess = true
  connected : ∀ k, (visits k).env.workerConnected = true
  no_override : ∀ k, (visits k).env.hasManualOverride = false
  processes : ∀ k, (visits k).env.processOnce = .ok ()
  enqueues : ∀ k, (visits k).env.enqueue .reload = .ok ()
  /-- The boundary provider always has a plan of at least the tail floor. -/
  provides : ∀ k, ∃ provider, (visits k).env.boundaryPlan = some provider ∧
    ∀ t, ∃ next, provider t = .ok (some next) ∧ rolloverTailFloorSeconds ≤ next.seconds
  /-- The latches of a channel that has not been on air. -/
  fresh_horizon : init.planHorizon = none
  fresh_dispatch : init.rolloverDispatchedAt = none
  fresh_probe : init.rolloverAssetProbe = none

/-! ## One pass over a plan on air -/

/-- The latches the horizon and the dispatch rest on. -/
structure View where
  horizon : Option Horizon
  issued : Bool
  dispatchedAt : Option ℚ
  retryAt : Option ℚ
  probe : Option AssetProbe
  reloads : ℕ
deriving DecidableEq

/-- What a pass finds on a channel that airs undisturbed. -/
structure Calm (env : Env) (provider : Instant → PlanAnswer) : Prop where
  live : env.hasLiveProcess = true
  connected : env.workerConnected = true
  no_override : env.hasManualOverride = false
  processes : env.processOnce = .ok ()
  enqueues : env.enqueue .reload = .ok ()
  boundary : env.boundaryPlan = some provider
  provides : ∀ t, ∃ next, provider t = .ok (some next) ∧ rolloverTailFloorSeconds ≤ next.seconds

/-- `lead` is at most the lead of every plan the provider may have at `boundary`. -/
def LeadBound (set : Settings) (lead : ℚ) (boundary : Instant) (provider : Instant → PlanAnswer) :
    Prop :=
  ∀ next, provider boundary = .ok (some next) → lead ≤ rolloverLeadSeconds set (some next.seconds)

/-- `lead` is at most the lead of what was probed at `boundary`. -/
def ProbeBound (set : Settings) (lead : ℚ) (boundary : Instant) (probe : Option AssetProbe) :
    Prop :=
  ∀ p ∈ probe, p.planEndAt = boundary → lead ≤ rolloverLeadSeconds set p.seconds

namespace Latches

def view (s : Latches) : View where
  horizon := s.planHorizon
  issued := s.rolloverIssued
  dispatchedAt := s.rolloverDispatchedAt
  retryAt := s.rolloverRetryAt
  probe := s.rolloverAssetProbe
  reloads := s.reloadCount

variable {set : Settings} {env : Env} {provider : Instant → PlanAnswer} {s : Latches}
  {row : StateRow} {h : Horizon} {next : SourcePlan}

/-- The latches after the first two parts of a pass over a row on air. -/
def onAirStart (s : Latches) : Latches :=
  { s with calls := [], startRetryAt := none, reloadIssued := false, replanRetryAt := none }

lemma onAirStart_view : s.onAirStart.view = { s.view with reloads := 0 } := rfl

lemma runChannelPassBody_onAir (hcalm : Calm env provider)
    (hrow : env.readState = .ok (some row)) (hair : row.state = .onAir) :
    s.runChannelPassBody set env = (s.onAirStart.checkPlanRollover set env).1 := by
  simp [runChannelPassBody, startDarkChannel, checkSlateReplan, hcalm.live, hcalm.processes, hrow,
    hair, onAirStart]

lemma trackWorkerPid_view : (s.trackWorkerPid env row).view = s.view := by
  rw [trackWorkerPid]
  split
  · rfl
  · split_ifs <;> rfl

/-! ### A new plan -/

/-- A pass that finds a new proof event takes the new plan's horizon, and does no more. -/
lemma pass_newPlan (set : Settings) (hcalm : Calm env provider)
    (hrow : env.readState = .ok (some row)) (hair : row.state = .onAir) {durations : List ℚ}
    {deferred : Bool}
    (hplan : env.dispatchedPlanHorizon = some ⟨row.currentProofEventId, durations, deferred⟩)
    (hne : durations ≠ []) (hnew : ∀ h ∈ s.planHorizon, h.proofEventId ≠ row.currentProofEventId) :
    (s.runChannelPassBody set env).view =
      { s.view with
        horizon := some (horizonFrom row.currentProofEventId
          (dispatchStartsAt env s.planHorizon deferred) durations)
        issued := false
        retryAt := none
        reloads := 0 } := by
  have hest (t : Latches) (previous : Option Horizon) :
      (t.reestablishPlanHorizon env row.currentProofEventId previous).1 =
        { t with
          planHorizon := some (horizonFrom row.currentProofEventId
            (dispatchStartsAt env previous deferred) durations)
          rolloverRetryAt := none } := by
    simp [reestablishPlanHorizon, establishHorizonFromDispatch, hplan, hne]
  rw [runChannelPassBody_onAir hcalm hrow hair, checkPlanRollover]
  have hview : (trackWorkerPid env s.onAirStart row).view = _ := trackWorkerPid_view
  rw [onAirStart_view] at hview
  have hhorizon : (trackWorkerPid env s.onAirStart row).planHorizon = s.planHorizon :=
    congrArg View.horizon hview
  simp only [hrow, hair, ne_eq, not_true_eq_false, reduceCtorEq, not_false_eq_true, and_true,
    false_and, if_false, hcalm.no_override, Bool.false_eq_true, hhorizon]
  have hafter (previous : Option Horizon) :
      (reestablishPlanHorizon env { (trackWorkerPid env s.onAirStart row).dropRetryLatches with
          rolloverIssued := false } row.currentProofEventId previous).1.view =
        { s.view with
          horizon := some (horizonFrom row.currentProofEventId
            (dispatchStartsAt env previous deferred) durations)
          issued := false
          retryAt := none
          reloads := 0 } := by
    rw [hest]
    have hdispatched := congrArg View.dispatchedAt hview
    have hprobe := congrArg View.probe hview
    have hreloads := congrArg View.reloads hview
    simp only [view] at hdispatched hprobe hreloads ⊢
    rw [← hdispatched, ← hprobe, ← hreloads]
    rfl
  cases hs : s.planHorizon with
  | none => exact hafter none
  | some h =>
    rw [hs] at hnew
    have hproof : h.proofEventId ≠ row.currentProofEventId := hnew h rfl
    simp only [hproof, not_false_eq_true, if_true]
    exact hafter (some h)

lemma pass_tracked (hcalm : Calm env provider) (hrow : env.readState = .ok (some row))
    (hair : row.state = .onAir)
    (htracked : s.planHorizon = some h) (hproof : h.proofEventId = row.currentProofEventId) :
    s.runChannelPassBody set env =
      ((s.onAirStart.trackWorkerPid env row).rolloverTracked set env h).1 := by
  have hview : (trackWorkerPid env s.onAirStart row).view = _ := trackWorkerPid_view
  rw [onAirStart_view] at hview
  have hhorizon : (trackWorkerPid env s.onAirStart row).planHorizon = some h := by
    have := congrArg View.horizon hview
    exact this.trans htracked
  rw [runChannelPassBody_onAir hcalm hrow hair, checkPlanRollover]
  simp only [hrow, hair, ne_eq, not_true_eq_false, reduceCtorEq, not_false_eq_true, and_true,
    false_and, if_false, hcalm.no_override, Bool.false_eq_true, hhorizon, hproof, hcalm.connected,
    Bool.not_true]

/-! ### A plan whose reload is pending -/

lemma rolloverTracked_pending (hissued : s.rolloverIssued = true)
    (hpending : env.pendingReloadSettlement = true) :
    (s.rolloverTracked set env h).1.view = s.view := by
  by_cases hend : h.planEndAt ≤ env.now
  · rw [rolloverTracked, if_pos ⟨hend, hpending⟩]
    split_ifs <;> rfl
  · rw [rolloverTracked, if_neg (fun hc => hend hc.1), if_neg (fun hc => hend hc.1),
      if_pos hissued, if_pos hpending]

lemma pass_pending (set : Settings) (hcalm : Calm env provider)
    (hrow : env.readState = .ok (some row)) (hair : row.state = .onAir)
    (htracked : s.planHorizon = some h) (hproof : h.proofEventId = row.currentProofEventId)
    (hissued : s.rolloverIssued = true) (hpending : env.pendingReloadSettlement = true) :
    (s.runChannelPassBody set env).view = { s.view with reloads := 0 } := by
  have hview : (trackWorkerPid env s.onAirStart row).view = _ := trackWorkerPid_view
  have hstill : (trackWorkerPid env s.onAirStart row).rolloverIssued = true := by
    have := congrArg View.issued hview
    exact this.trans hissued
  rw [pass_tracked hcalm hrow hair htracked hproof, rolloverTracked_pending hstill hpending, hview,
    onAirStart_view]

/-! ### A plan whose reload is not queued yet -/

lemma warmLoop_view (lead : ℚ) (steps : ℕ) (previousStart boundary : Instant) :
    (warmLoop env lead steps previousStart boundary s).view = s.view := by
  induction steps generalizing previousStart boundary with
  | zero => rfl
  | succ steps ih =>
    simp only [warmLoop]
    split
    · rfl
    · rfl
    · split_ifs
      · rfl
      · simp [warmSourcePlan, view, reloadCount, Call.reloads]
      · rfl
      · exact ih _ _

lemma resolveFreshPlan_ok (hcalm : Calm env provider) (h : Horizon) :
    ∃ next, resolveFreshPlan env h = .ok (some next) ∧ rolloverTailFloorSeconds ≤ next.seconds := by
  obtain ⟨next, hnext, hfloor⟩ := hcalm.provides (max env.now h.planEndAt)
  have htail : resolveRolloverTail env.channelId provider (max env.now h.planEndAt) (some next)
      = .ok (some next) := by
    simp [resolveRolloverTail, hfloor]
  exact ⟨next, by simp [resolveFreshPlan, hcalm.boundary, hnext, htail], hfloor⟩

/-- A plan of at least the floor, placed at the boundary, extends what is on air. -/
lemma forcesFallback_false (hcalm : Calm env provider)
    (hfloor : rolloverTailFloorSeconds ≤ next.seconds) :
    forcesFallback env h (some next) = false ∧ extendsNothing env h (some next) = false := by
  have hpos : 0 < next.seconds := by
    have : (0 : ℚ) < rolloverTailFloorSeconds := by norm_num [rolloverTailFloorSeconds]
    linarith
  have hsegments : next.segments ≠ [] := by
    intro hnil
    simp [SourcePlan.seconds, hnil] at hpos
  have hlater : ¬freshStart env h + next.seconds ≤ h.planEndAt := by
    have : h.planEndAt ≤ freshStart env h := by simp [freshStart, hcalm.boundary]
    linarith
  constructor
  · simp [forcesFallback, hsegments, hlater]
  · simp [extendsNothing, hlater]

lemma dispatchRollover_view (hcalm : Calm env provider) (s : Latches) (h : Horizon)
    (trigger : Trigger) (hfloor : rolloverTailFloorSeconds ≤ next.seconds) :
    (s.dispatchRollover env h false trigger (some next)).1.view =
      { s.view with
        issued := true
        dispatchedAt := some env.monotonic
        retryAt := none
        reloads := s.reloadCount + 1 } := by
  have hforce := (forcesFallback_false (h := h) hcalm hfloor).1
  simp only [dispatchRollover, hforce, enqueue, hcalm.enqueues, recordRolloverPlanEnd,
    Bool.false_eq_true, if_false]
  cases trigger.leadSeconds with
  | none => simp [view, reloadCount, countP_cons, Call.reloads]
  | some lead =>
    simp only [warmUpcomingPlan, warmLoop_view]
    simp [view, reloadCount, countP_cons, Call.reloads]

/-- The trigger of a pass: a probe keeps every bound on the lead, and a bound that has
been reached triggers. -/
lemma rolloverTrigger_spec (set : Settings) (hcalm : Calm env provider) (s : Latches)
    (h : Horizon) :
    ∃ probe asset,
      s.rolloverTrigger set env h
          = ({ s with rolloverAssetProbe := probe }, .ok (boundaryTrigger set h asset)) ∧
      (∀ lead boundary, LeadBound set lead boundary provider →
        ProbeBound set lead boundary s.rolloverAssetProbe → ProbeBound set lead boundary probe) ∧
      (∀ lead, LeadBound set lead h.planEndAt provider →
        ProbeBound set lead h.planEndAt s.rolloverAssetProbe →
        max h.lastSegmentStartAt (h.planEndAt - lead) ≤ env.now →
        (boundaryTrigger set h asset).triggerAt ≤ env.now) := by
  have hreached {lead leadSeconds : ℚ} (hle : lead ≤ leadSeconds)
      (hnow : max h.lastSegmentStartAt (h.planEndAt - lead) ≤ env.now) :
      max h.lastSegmentStartAt (h.planEndAt - leadSeconds) ≤ env.now := by
    have hlast : h.lastSegmentStartAt ≤ env.now := le_trans (le_max_left _ _) hnow
    have hlead : h.planEndAt - lead ≤ env.now := le_trans (le_max_right _ _) hnow
    exact max_le hlast (by linarith)
  have hcached {asset : Option ℚ} (hasset : s.cachedRolloverAsset h.planEndAt = some asset)
      {lead : ℚ} (hprobe : ProbeBound set lead h.planEndAt s.rolloverAssetProbe) :
      lead ≤ rolloverLeadSeconds set asset := by
    rw [cachedRolloverAsset] at hasset
    cases hs : s.rolloverAssetProbe with
    | none => simp [hs] at hasset
    | some p =>
      simp only [hs, ite_none_right_eq_some, some.injEq] at hasset
      rw [← hasset.2]
      exact hprobe p hs hasset.1
  rw [rolloverTrigger, hcalm.boundary]
  by_cases hflat : env.now < max h.lastSegmentStartAt (h.planEndAt - rolloverLeadSeconds set none)
  · simp only [hflat, if_true, probeRolloverAsset]
    cases hasset : s.cachedRolloverAsset h.planEndAt with
    | some asset =>
      refine ⟨s.rolloverAssetProbe, asset, rfl, fun _ _ _ hprobe => hprobe, ?_⟩
      intro lead _ hprobe hnow
      exact hreached (hcached hasset hprobe) hnow
    | none =>
      obtain ⟨next, hnext, hfloor⟩ := hcalm.provides h.planEndAt
      have hsegments : next.segments ≠ [] := by
        intro hnil
        simp only [SourcePlan.seconds, hnil, map_nil, sum_nil, rolloverTailFloorSeconds] at hfloor
        linarith
      refine ⟨some ⟨h.planEndAt, some next.seconds⟩, some next.seconds, ?_, ?_, ?_⟩
      · simp [hnext, hsegments]
      · -- the new probe answers for the boundary it was made at
        intro lead boundary hlead _ p hp hat
        cases hp
        subst hat
        exact hlead next hnext
      · intro lead hlead _ hnow
        exact hreached (hlead next hnext) hnow
  · refine ⟨s.rolloverAssetProbe, (s.cachedRolloverAsset h.planEndAt).getD none, ?_,
      fun _ _ _ hprobe => hprobe, ?_⟩
    · simp [hflat]
    · intro lead _ hprobe hnow
      cases hasset : s.cachedRolloverAsset h.planEndAt with
      | some asset => exact hreached (hcached hasset hprobe) hnow
      | none =>
        -- nothing was probed: the flat trigger is the trigger
        exact not_lt.mp hflat

/-- A first dispatch either waits or queues one reload, after a probe that keeps every bound on the
lead; it does not wait once every bound on it has passed. -/
def Dispatches (set : Settings) (env : Env) (provider : Instant → PlanAnswer) (h : Horizon)
    (before after : View) : Prop :=
  ∃ probe,
    (∀ lead boundary, LeadBound set lead boundary provider →
      ProbeBound set lead boundary before.probe → ProbeBound set lead boundary probe) ∧
    (after = { before with probe := probe } ∨
      after =
        { before with
          issued := true
          dispatchedAt := some env.monotonic
          retryAt := none
          probe := probe
          reloads := before.reloads + 1 }) ∧
    ∀ lead, LeadBound set lead h.planEndAt provider →
      ProbeBound set lead h.planEndAt before.probe →
      max h.lastSegmentStartAt (h.planEndAt - lead) ≤ env.now →
      (∀ t ∈ before.dispatchedAt, rolloverMinInterval h.plannedSeconds ≤ env.monotonic - t) →
      after.reloads = before.reloads + 1

lemma rolloverIfDue_view (set : Settings) (h : Horizon) (hcalm : Calm env provider)
    (hretry : s.rolloverRetryAt = none) (stale : Bool) :
    Dispatches set env provider h s.view (s.rolloverIfDue set env h false stale).1.view := by
  obtain ⟨probe, asset, htrigger, hkeeps, hreached⟩ := rolloverTrigger_spec set hcalm s h
  obtain ⟨next, hfresh, hfloor⟩ := resolveFreshPlan_ok hcalm h
  have hextends := (forcesFallback_false (h := h) hcalm hfloor).2
  have hdispatch := dispatchRollover_view hcalm { s with rolloverAssetProbe := probe } h
    (boundaryTrigger set h asset) hfloor
  have hcool : coolingDown env.monotonic s.rolloverRetryAt = false := by
    simp [hretry, coolingDown]
  have hrun : s.rolloverIfDue set env h false stale =
      if env.now < (boundaryTrigger set h asset).triggerAt then
        ({ s with rolloverAssetProbe := probe }, .ok ())
      else if stale || (boundaryTrigger set h asset).insideLeadRecovery ||
          !s.rolloverDispatchedAt.any
            (env.monotonic - · < rolloverMinInterval h.plannedSeconds) then
        dispatchRollover env { s with rolloverAssetProbe := probe } h false
          (boundaryTrigger set h asset) (some next)
      else ({ s with rolloverAssetProbe := probe }, .ok ()) := by
    simp only [rolloverIfDue, htrigger, rollover, rolloverPaced, Bool.false_eq_true, if_false]
    split_ifs <;> simp_all
  refine ⟨probe, hkeeps, ?_, ?_⟩
  · rw [hrun]
    split_ifs
    · exact .inl rfl
    · exact .inr hdispatch
    · exact .inl rfl
  · -- past the trigger, and not paced: the reload is dispatched
    intro lead hlead hprobe hnow hpaced
    have hdue : ¬env.now < (boundaryTrigger set h asset).triggerAt :=
      not_lt.mpr (hreached lead hlead hprobe hnow)
    have hfloor' : s.rolloverDispatchedAt.any
        (env.monotonic - · < rolloverMinInterval h.plannedSeconds) = false := by
      cases hd : s.rolloverDispatchedAt with
      | none => rfl
      | some t =>
        have := hpaced t hd
        simpa using this
    rw [hrun, if_neg hdue, hfloor']
    simp only [Bool.not_false, Bool.or_true, if_true]
    exact congrArg View.reloads hdispatch

lemma pass_waiting (set : Settings) (hcalm : Calm env provider)
    (hrow : env.readState = .ok (some row)) (hair : row.state = .onAir)
    (htracked : s.planHorizon = some h) (hproof : h.proofEventId = row.currentProofEventId)
    (hissued : s.rolloverIssued = false)
    (hpending : env.pendingReloadSettlement = false) (hretry : s.rolloverRetryAt = none) :
    Dispatches set env provider h { s.view with reloads := 0 }
      (s.runChannelPassBody set env).view := by
  rw [pass_tracked hcalm hrow hair htracked hproof]
  have hview : (trackWorkerPid env s.onAirStart row).view = _ := trackWorkerPid_view
  rw [onAirStart_view] at hview
  generalize trackWorkerPid env s.onAirStart row = t at hview
  -- a horizon that has run out is dispatched from at once, any other when it triggers
  have hrun : ∃ (u : Latches) (stale : Bool), u.view = t.view ∧
      t.rolloverTracked set env h = u.rolloverIfDue set env h false stale := by
    have hstill : t.rolloverIssued = false := by
      have := congrArg View.issued hview
      exact this.trans hissued
    by_cases hend : h.planEndAt ≤ env.now
    · exact ⟨t.dropRetryLatches, true, rfl, by simp [rolloverTracked, hend, hpending, hstill]⟩
    · exact ⟨t, false, rfl, by simp [rolloverTracked, hend, hstill]⟩
  obtain ⟨u, stale, hu, heq⟩ := hrun
  rw [hview] at hu
  have hretry' : u.rolloverRetryAt = none := (congrArg View.retryAt hu).trans hretry
  rw [heq, ← hu]
  exact rolloverIfDue_view set h hcalm hretry' stale

end Latches

/-! ## The invariant of a run -/

/-- `lead` is at most the lead of every plan any pass may have at `boundary`. -/
def LeadOf (set : Settings) (visits : ℕ → Visit) (lead : ℚ) (boundary : Instant) : Prop :=
  ∀ k provider, (visits k).env.boundaryPlan = some provider →
    LeadBound set lead boundary provider

/-- What every pass leaves behind. -/
structure Inv (set : Settings) (d offset : ℚ) (plan : ℕ → AiredPlan) (startsAt : ℕ → Instant)
    (visits : ℕ → Visit) (c : Chain) : Prop where
  /-- The plan the row shows is tracked, from an instant at most `d` after its start. -/
  horizon : ∃ σ, c.latches.planHorizon = some (Latches.horizonFrom
      (some (plan c.index).proofEventId) σ (plan c.index).durations) ∧
    startsAt c.index ≤ σ ∧ σ ≤ startsAt c.index + d ∧ c.seenAt ≤ σ
  issued : c.latches.rolloverIssued = c.queuedAt.isSome
  retry : c.latches.rolloverRetryAt = none
  queued : ∀ q ∈ c.queuedAt, c.latches.rolloverDispatchedAt = some (q + offset)
  /-- The last dispatch was made before the plan on air went on air. -/
  earlier : c.queuedAt = none →
    ∀ t ∈ c.latches.rolloverDispatchedAt, t ≤ startsAt c.index + offset
  probe : ∀ lead boundary, LeadOf set visits lead boundary →
    ProbeBound set lead boundary c.latches.rolloverAssetProbe

/-- A horizon taken within `d` of a switch, from one that was within `d` of it, starts
within `d` of it. -/
lemma dispatchStartsAt_mem {env : Env} {previous : Option Horizon} (deferred : Bool) {lo d : ℚ}
    (hnow : lo ≤ env.now ∧ env.now ≤ lo + d)
    (hprev : ∀ h ∈ previous, lo ≤ h.planEndAt ∧ h.planEndAt ≤ lo + d) :
    lo ≤ Latches.dispatchStartsAt env previous deferred ∧
      Latches.dispatchStartsAt env previous deferred ≤ lo + d := by
  cases previous with
  | none => exact hnow
  | some h =>
    rw [dispatchStartsAt]
    split_ifs
    · exact hprev h rfl
    · exact hnow

lemma le_dispatchStartsAt {env : Env} {previous : Option Horizon} {deferred : Bool} :
    env.now ≤ Latches.dispatchStartsAt env previous deferred := by
  cases previous with
  | none => exact le_rfl
  | some h =>
    rw [dispatchStartsAt]
    split_ifs with hanchor
    · exact hanchor.2.1.le
    · exact le_rfl

namespace Chain

variable {set : Settings} {d p offset : ℚ} {plan : ℕ → AiredPlan} {startsAt : ℕ → Instant}
  {init : Latches} {visits : ℕ → Visit} {c : Chain} {k m : ℕ} {h : Horizon}

lemma calm (hrun : BackToBack set d p offset plan startsAt init visits) (k : ℕ) (c : Chain) :
    ∃ provider, Calm (c.envOf plan (visits k)) provider ∧
      (visits k).env.boundaryPlan = some provider := by
  obtain ⟨provider, hprovider, hprovides⟩ := hrun.provides k
  refine ⟨provider, ?_, hprovider⟩
  exact
    { live := hrun.live k
      connected := hrun.connected k
      no_override := hrun.no_override k
      processes := hrun.processes k
      enqueues := hrun.enqueues k
      boundary := hprovider
      provides := hprovides }

@[simp]
lemma horizonFrom_planEndAt (proofEventId : Option String) (σ : Instant) (durations : List ℚ) :
    (Latches.horizonFrom proofEventId σ durations).planEndAt = σ + durations.sum := rfl

lemma inv_of_view {v : View} {queued : Option Instant}
    (hview : (c.latches.runChannelPassBody set (c.envOf plan (visits k))).view = v)
    (hsame : (if 0 < v.reloads then some (visits k).env.now else c.queuedAt) = queued)
    (hhorizon : ∃ σ, v.horizon = some (Latches.horizonFrom (some (plan c.index).proofEventId) σ
      (plan c.index).durations) ∧ startsAt c.index ≤ σ ∧ σ ≤ startsAt c.index + d ∧ c.seenAt ≤ σ)
    (hissued : v.issued = queued.isSome) (hretry : v.retryAt = none)
    (hqueued : ∀ q ∈ queued, v.dispatchedAt = some (q + offset))
    (hearlier : queued = none → ∀ t ∈ v.dispatchedAt, t ≤ startsAt c.index + offset)
    (hprobe : ∀ lead boundary, LeadOf set visits lead boundary →
      ProbeBound set lead boundary v.probe) :
    Inv set d offset plan startsAt visits (c.visit set plan (visits k)) ∧
      (c.visit set plan (visits k)).queuedAt = queued := by
  subst hview hsame
  exact ⟨⟨hhorizon, hissued, hretry, hqueued, hearlier, hprobe⟩, rfl⟩

/-- The instant from which a plan's reload is overdue. -/
def overdueAt (h : Horizon) (lead : ℚ) (start : Instant) : Instant :=
  max (max h.lastSegmentStartAt (h.planEndAt - lead)) (start + rolloverMinInterval h.plannedSeconds)

lemma overdueAt_mono {lead : ℚ} {s t : Instant} (hst : s ≤ t) :
    overdueAt h lead s ≤ overdueAt h lead t :=
  max_le_max le_rfl (add_le_add_left hst _)

lemma shown_of_not_switched {v : Visit} (h : v.switched = false) : c.shown v = c := by
  simp [shown, h]

variable (hrun : BackToBack set d p offset plan startsAt init visits)
include hrun

lemma visit_newPlan {k : ℕ}
    (hqueued : c.queuedAt = none) (hsight : c.seenAt = (visits k).env.now)
    (hnow : startsAt c.index ≤ (visits k).env.now ∧ (visits k).env.now ≤ startsAt c.index + d)
    (hprev : ∀ h ∈ c.latches.planHorizon,
      h.proofEventId ≠ some (plan c.index).proofEventId ∧
        startsAt c.index ≤ h.planEndAt ∧ h.planEndAt ≤ startsAt c.index + d)
    (hdispatched : ∀ t ∈ c.latches.rolloverDispatchedAt, t ≤ startsAt c.index + offset)
    (hprobe : ∀ lead boundary, LeadOf set visits lead boundary →
      ProbeBound set lead boundary c.latches.rolloverAssetProbe) :
    Inv set d offset plan startsAt visits (c.visit set plan (visits k)) ∧
      (c.visit set plan (visits k)).queuedAt = none ∧
      (c.visit set plan (visits k)).latches.reloadCount = 0 := by
  obtain ⟨provider, hcalm, -⟩ := calm hrun k c
  have hpass := pass_newPlan set hcalm rfl rfl rfl
    (hrun.durations_ne c.index) (fun h hh => (hprev h hh).1)
  have hbounds := dispatchStartsAt_mem (plan c.index).switchDeferred hnow
    (fun h hh => (hprev h hh).2)
  have hσ : c.seenAt ≤ dispatchStartsAt (c.envOf plan (visits k)) c.latches.planHorizon
      (plan c.index).switchDeferred := by
    rw [hsight]
    exact le_dispatchStartsAt
  have hinv := inv_of_view hpass hqueued ⟨_, rfl, hbounds.1, hbounds.2, hσ⟩ rfl rfl nofun
    (fun _ => hdispatched) hprobe
  exact ⟨hinv.1, hinv.2, congrArg View.reloads hpass⟩

lemma visit_pending {k : ℕ}
    (hinv : Inv set d offset plan startsAt visits c) {q : Instant} (hqueued : c.queuedAt = some q) :
    Inv set d offset plan startsAt visits (c.visit set plan (visits k)) ∧
      (c.visit set plan (visits k)).latches.planHorizon = c.latches.planHorizon ∧
      (c.visit set plan (visits k)).latches.reloadCount = 0 := by
  obtain ⟨provider, hcalm, -⟩ := calm hrun k c
  obtain ⟨σ, hhorizon, hσ⟩ := hinv.horizon
  have hissued : c.latches.rolloverIssued = true := by
    rw [hinv.issued, hqueued]
    rfl
  have hpending : (c.envOf plan (visits k)).pendingReloadSettlement = true := by
    simp [envOf, hqueued]
  have hpass := pass_pending set hcalm rfl rfl hhorizon rfl hissued hpending
  have hinv' := inv_of_view hpass hqueued ⟨σ, hhorizon, hσ⟩ hissued hinv.retry
    (hqueued ▸ hinv.queued) nofun hinv.probe
  exact ⟨hinv'.1, congrArg View.horizon hpass, congrArg View.reloads hpass⟩

/-- A pass over a plan whose reload is not queued yet queues it at most once, and does
queue it when it is overdue. -/
lemma visit_waiting (k : ℕ)
    (hinv : Inv set d offset plan startsAt visits c) (hqueued : c.queuedAt = none) :
    Inv set d offset plan startsAt visits (c.visit set plan (visits k)) ∧
      (c.visit set plan (visits k)).latches.planHorizon = c.latches.planHorizon ∧
      (c.visit set plan (visits k)).latches.reloadCount ≤ 1 ∧
      ∀ h ∈ c.latches.planHorizon, ∀ lead, LeadOf set visits lead h.planEndAt →
        overdueAt h lead (startsAt c.index) ≤ (visits k).env.now →
        (c.visit set plan (visits k)).latches.reloadCount = 1 := by
  obtain ⟨provider, hcalm, hprovider⟩ := calm hrun k c
  obtain ⟨σ, hhorizon, hσ⟩ := hinv.horizon
  have hissued : c.latches.rolloverIssued = false := by
    rw [hinv.issued, hqueued]
    rfl
  have hpending : (c.envOf plan (visits k)).pendingReloadSettlement = false := by
    simp [envOf, hqueued]
  obtain ⟨probe, hkeeps, hcases, hdue⟩ := pass_waiting set hcalm rfl rfl hhorizon rfl
    hissued hpending hinv.retry
  have hprobe : ∀ lead boundary, LeadOf set visits lead boundary →
      ProbeBound set lead boundary probe := by
    intro lead boundary hlead
    exact hkeeps lead boundary (hlead k provider hprovider) (hinv.probe lead boundary hlead)
  refine ⟨?_, ?_, ?_, ?_⟩
  · rcases hcases with hwait | hfire
    · -- the pass waits: the plan stays unqueued
      exact (inv_of_view hwait hqueued ⟨σ, hhorizon, hσ⟩ hissued hinv.retry nofun
        (fun _ => hinv.earlier hqueued) hprobe).1
    · -- the pass fires: the dispatch is latched at its own instant
      refine (inv_of_view hfire rfl ⟨σ, hhorizon, hσ⟩ rfl rfl ?_ nofun hprobe).1
      rintro _ ⟨⟩
      rw [← hrun.clock k]
      rfl
  · rcases hcases with hwait | hfire
    · exact congrArg View.horizon hwait
    · exact congrArg View.horizon hfire
  · rcases hcases with hwait | hfire
    · exact le_of_eq_of_le (congrArg View.reloads hwait) zero_le_one
    · exact le_of_eq (congrArg View.reloads hfire)
  · intro h hh lead hlead hoverdue
    rw [hhorizon] at hh
    cases hh
    apply hdue lead (hlead k provider hprovider) (hinv.probe lead _ hlead)
    · exact le_trans (le_max_left _ _) hoverdue
    · -- the last dispatch lies before the plan's start, so the cadence floor has passed
      intro t ht
      have hearlier := hinv.earlier hqueued t ht
      have hpaced := le_trans (le_max_right _ _) hoverdue
      have hclock : (c.envOf plan (visits k)).monotonic = (visits k).env.now + offset :=
        hrun.clock k
      rw [hclock]
      linarith

/-! ## Whole runs -/

/-- A pass that sees the next plan for the first time. -/
lemma step_switched {k : ℕ}
    (hinv : Inv set d offset plan startsAt visits (before set plan init visits k))
    (hswitched : (visits k).switched = true) :
    Inv set d offset plan startsAt visits (before set plan init visits (k + 1)) ∧
      (before set plan init visits (k + 1)).queuedAt = none ∧
      (before set plan init visits (k + 1)).latches.reloadCount = 0 := by
  have hseen := hrun.seen k hswitched
  obtain ⟨q, hq, hbefore⟩ := hrun.caused k hswitched
  obtain ⟨σ, hhorizon, hlo, hhi, -⟩ := hinv.horizon
  have hdispatched := hinv.queued q hq
  generalize hc : before set plan init visits k = c at *
  have hlands := hrun.lands c.index
  have hshown : c.shown (visits k) =
      { c with index := c.index + 1, seenAt := (visits k).env.now, queuedAt := none } := by
    simp [shown, hswitched]
  have hnew := visit_newPlan hrun
    (c := { c with index := c.index + 1, seenAt := (visits k).env.now, queuedAt := none })
    rfl rfl hseen ?_ ?_ hinv.probe
  · rw [before, hc, step, hshown]
    exact hnew
  · -- the outgoing plan's horizon ends within `d` of the switch
    intro h hh
    have hh' : c.latches.planHorizon = some h := hh
    rw [hhorizon] at hh'
    cases hh'
    refine ⟨?_, ?_, ?_⟩
    · intro heq
      have hsame : (plan c.index).proofEventId = (plan (c.index + 1)).proofEventId := by
        simpa [horizonFrom] using heq
      exact hrun.proof_ne c.index hsame
    · rw [hlands, horizonFrom_planEndAt]
      simp only [AiredPlan.seconds]
      linarith
    · rw [hlands, horizonFrom_planEndAt]
      simp only [AiredPlan.seconds]
      linarith
  · intro t ht
    have ht' : c.latches.rolloverDispatchedAt = some t := ht
    rw [hdispatched] at ht'
    cases ht'
    linarith

lemma step_first :
    Inv set d offset plan startsAt visits (before set plan init visits 1) ∧
      (before set plan init visits 1).queuedAt = none ∧
      (before set plan init visits 1).latches.reloadCount = 0 := by
  have hnew := visit_newPlan hrun (c := start init (visits 0).env.now) rfl rfl
    hrun.first_seen ?_ ?_ ?_
  · rw [before, before, step, shown_of_not_switched hrun.first_plan]
    exact hnew
  · intro h hh
    have hh' : init.planHorizon = some h := hh
    rw [hrun.fresh_horizon] at hh'
    cases hh'
  · intro t ht
    have ht' : init.rolloverDispatchedAt = some t := ht
    rw [hrun.fresh_dispatch] at ht'
    cases ht'
  · intro lead boundary _ p hp
    have hp' : init.rolloverAssetProbe = some p := hp
    rw [hrun.fresh_probe] at hp'
    cases hp'

lemma inv_after (k : ℕ) :
    Inv set d offset plan startsAt visits (before set plan init visits (k + 1)) := by
  induction k with
  | zero => exact (step_first hrun).1
  | succ k ih =>
    cases hswitched : (visits (k + 1)).switched with
    | true => exact (step_switched hrun ih hswitched).1
    | false =>
      rw [before, step, shown_of_not_switched hswitched]
      cases hqueued : (before set plan init visits (k + 1)).queuedAt with
      | none => exact (visit_waiting hrun (k + 1) ih hqueued).1
      | some q => exact (visit_pending hrun ih hqueued).1

/-! ### What the row shows, and when a reload is queued -/

omit hrun

section Runs

variable (set plan init visits)

/-- The plan the row shows to pass `k`. -/
def shownAt (k : ℕ) : ℕ := (before set plan init visits (k + 1)).index

/-- The number of reloads pass `k` queues. -/
def reloadsAt (k : ℕ) : ℕ := (before set plan init visits (k + 1)).latches.reloadCount

lemma shownAt_succ (k : ℕ) :
    shownAt set plan init visits (k + 1) =
      shownAt set plan init visits k + if (visits (k + 1)).switched then 1 else 0 := by
  rw [shownAt, before, step, shown]
  split_ifs <;> rfl

lemma shownAt_mono {k m : ℕ} (h : k ≤ m) :
    shownAt set plan init visits k ≤ shownAt set plan init visits m := by
  induction m, h using Nat.le_induction with
  | base => exact le_rfl
  | succ m _ ih =>
    rw [shownAt_succ set plan init visits m]
    exact le_trans ih (Nat.le_add_right _ _)

lemma shownAt_between {k n m : ℕ} (hkn : k ≤ n) (hnm : n ≤ m)
    (h : shownAt set plan init visits m = shownAt set plan init visits k) :
    shownAt set plan init visits n = shownAt set plan init visits k := by
  have hlo := shownAt_mono set plan init visits hkn
  have hhi := shownAt_mono set plan init visits hnm
  omega

end Runs

lemma shownAt_zero (hrun : BackToBack set d p offset plan startsAt init visits) :
    shownAt set plan init visits 0 = 0 := by
  rw [shownAt, before, step, shown_of_not_switched hrun.first_plan]
  rfl

/-- A pass that shows what the pass before it showed has seen no switch. -/
lemma not_switched_of_shownAt
    (h : shownAt set plan init visits (k + 1) = shownAt set plan init visits k) :
    (visits (k + 1)).switched = false := by
  rw [shownAt_succ] at h
  cases hs : (visits (k + 1)).switched with
  | false => rfl
  | true => simp [hs] at h

/-- A pass queues a reload only for a plan seen before, and only once. -/
lemma reloadsAt_cases (hrun : BackToBack set d p offset plan startsAt init visits) (k : ℕ) :
    reloadsAt set plan init visits k = 0 ∨
      reloadsAt set plan init visits k = 1 ∧ (before set plan init visits k).queuedAt = none := by
  cases k with
  | zero => exact .inl (step_first hrun).2.2
  | succ k =>
    have hinv := inv_after hrun k
    cases hswitched : (visits (k + 1)).switched with
    | true => exact .inl (step_switched hrun hinv hswitched).2.2
    | false =>
      rw [reloadsAt, before, step, shown_of_not_switched hswitched]
      cases hqueued : (before set plan init visits (k + 1)).queuedAt with
      | none =>
        have hle := (visit_waiting hrun (k + 1) hinv hqueued).2.2.1
        rcases Nat.le_one_iff_eq_zero_or_eq_one.mp hle with hzero | hone
        · exact .inl hzero
        · exact .inr ⟨hone, rfl⟩
      | some q => exact .inl (visit_pending hrun hinv hqueued).2.2

lemma queuedAt_succ {k : ℕ} (hswitched : (visits k).switched = false) :
    (before set plan init visits (k + 1)).queuedAt =
      if 0 < reloadsAt set plan init visits k then some (visits k).env.now
      else (before set plan init visits k).queuedAt := by
  rw [reloadsAt, before, step, shown_of_not_switched hswitched]
  rfl

lemma queuedAt_persists (hkm : k ≤ m)
    (hshown : shownAt set plan init visits m = shownAt set plan init visits k)
    (hqueued : (before set plan init visits (k + 1)).queuedAt ≠ none) :
    (before set plan init visits (m + 1)).queuedAt ≠ none := by
  induction m, hkm using Nat.le_induction with
  | base => exact hqueued
  | succ m hkm ih =>
    have hsame := shownAt_between set plan init visits hkm (Nat.le_succ m) hshown
    have hswitched := not_switched_of_shownAt (hshown.trans hsame.symm)
    rw [queuedAt_succ hswitched]
    split_ifs
    · exact some_ne_none _
    · exact ih hsame

lemma rolloverLeadSeconds_none_le (set : Settings) {asset : Option ℚ} :
    rolloverLeadSeconds set none ≤ rolloverLeadSeconds set asset := by
  rw [rolloverLeadSeconds, rolloverLeadSeconds]
  cases set.rolloverLeadOverride with
  | some lead => exact le_rfl
  | none =>
    cases asset with
    | none => exact le_rfl
    | some seconds =>
      dsimp only
      split_ifs
      · exact le_max_left _ _
      · exact le_rfl

include hrun

lemma queued_by_pass {k : ℕ} (hqueued : (before set plan init visits (k + 1)).queuedAt ≠ none) :
    ∃ j ≤ k, shownAt set plan init visits j = shownAt set plan init visits k ∧
      reloadsAt set plan init visits j = 1 := by
  induction k with
  | zero => exact absurd (step_first hrun).2.1 hqueued
  | succ k ih =>
    rcases reloadsAt_cases hrun (k + 1) with hzero | ⟨hone, -⟩
    · cases hswitched : (visits (k + 1)).switched with
      | true =>
        have hnone := (step_switched hrun (inv_after hrun k) hswitched).2.1
        exact absurd hnone hqueued
      | false =>
        rw [queuedAt_succ hswitched, hzero] at hqueued
        obtain ⟨j, hj, hshown, hone⟩ := ih hqueued
        have hsucc := shownAt_succ set plan init visits k
        simp only [hswitched, Bool.false_eq_true, if_false, Nat.add_zero] at hsucc
        exact ⟨j, Nat.le_succ_of_le hj, hshown.trans hsucc.symm, hone⟩
    · exact ⟨k + 1, le_rfl, rfl, hone⟩

lemma planHorizon_persists
    (hkm : k ≤ m) (hshown : shownAt set plan init visits m = shownAt set plan init visits k) :
    (before set plan init visits (m + 1)).latches.planHorizon =
      (before set plan init visits (k + 1)).latches.planHorizon := by
  induction m, hkm using Nat.le_induction with
  | base => rfl
  | succ m hkm ih =>
    have hsame := shownAt_between set plan init visits hkm (Nat.le_succ m) hshown
    have hswitched := not_switched_of_shownAt (hshown.trans hsame.symm)
    have hinv := inv_after hrun m
    rw [before, step, shown_of_not_switched hswitched, ← ih hsame]
    cases hqueued : (before set plan init visits (m + 1)).queuedAt with
    | none => exact (visit_waiting hrun (m + 1) hinv hqueued).2.1
    | some q => exact (visit_pending hrun hinv hqueued).2.1

/-- A pass that shows an earlier plan was made before the later one was seen. -/
lemma now_le_seenAt (hshown : shownAt set plan init visits m < shownAt set plan init visits k) :
    (visits m).env.now ≤ (before set plan init visits (k + 1)).seenAt := by
  induction k with
  | zero =>
    rw [shownAt_zero hrun] at hshown
    cases hshown
  | succ k ih =>
    have hforward : Monotone fun n => (visits n).env.now := monotone_nat_of_le_succ hrun.forward
    cases hswitched : (visits (k + 1)).switched with
    | true =>
      have hm : m ≤ k + 1 := by
        by_contra hlater
        have hmono := shownAt_mono set plan init visits (show k + 1 ≤ m by omega)
        omega
      have hsight :
          (before set plan init visits (k + 1 + 1)).seenAt = (visits (k + 1)).env.now := by
        rw [before, step, shown]
        simp [hswitched, visit]
      rw [hsight]
      exact hforward hm
    | false =>
      -- the plan was seen before, so was the one shown at `m`
      have hsight : (before set plan init visits (k + 1 + 1)).seenAt =
          (before set plan init visits (k + 1)).seenAt := by
        rw [before, step, shown_of_not_switched hswitched]
        rfl
      have hsucc := shownAt_succ set plan init visits k
      simp only [hswitched, Bool.false_eq_true, if_false, Nat.add_zero] at hsucc
      rw [hsight]
      exact ih (hsucc ▸ hshown)

lemma reloadsAt_unique {j : ℕ}
    (hshown : shownAt set plan init visits m = shownAt set plan init visits j)
    (hj : reloadsAt set plan init visits j = 1) (hm : reloadsAt set plan init visits m = 1) :
    m = j := by
  -- the latch of the first reload stays while the plan is shown
  have hlate {a b : ℕ} (hab : a < b)
      (hsame : shownAt set plan init visits b = shownAt set plan init visits a)
      (ha : reloadsAt set plan init visits a = 1) (hb : reloadsAt set plan init visits b = 1) :
      False := by
    obtain ⟨n, rfl⟩ : ∃ n, b = n + 1 := ⟨b - 1, by omega⟩
    have hbefore : (before set plan init visits (n + 1)).queuedAt = none := by
      rcases reloadsAt_cases hrun (n + 1) with hzero | ⟨-, hnone⟩
      · rw [hzero] at hb
        cases hb
      · exact hnone
    have hqueued : (before set plan init visits (a + 1)).queuedAt ≠ none := by
      cases hswitched : (visits a).switched with
      | false =>
        rw [queuedAt_succ hswitched, ha]
        exact some_ne_none _
      | true =>
        cases a with
        | zero =>
          rw [hrun.first_plan] at hswitched
          cases hswitched
        | succ a =>
          have hzero : reloadsAt set plan init visits (a + 1) = 0 :=
            (step_switched hrun (inv_after hrun a) hswitched).2.2
          rw [hzero] at ha
          cases ha
    have hmid := shownAt_between set plan init visits (show a ≤ n by omega) (Nat.le_succ n) hsame
    exact queuedAt_persists (show a ≤ n by omega) hmid hqueued hbefore
  rcases Nat.lt_trichotomy m j with hlt | heq | hgt
  · exact (hlate hlt hshown.symm hm hj).elim
  · exact heq
  · exact (hlate hgt hshown hj hm).elim

/-- A plan whose reload is overdue at a pass that shows it has it queued by the next. -/
lemma queued_once_overdue {m : ℕ}
    (hh : h ∈ (before set plan init visits (m + 1)).latches.planHorizon) {lead : ℚ}
    (hlead : LeadOf set visits lead h.planEndAt)
    (hover : overdueAt h lead (startsAt (shownAt set plan init visits m)) ≤ (visits m).env.now) :
    ∃ j ≤ m + 1, shownAt set plan init visits j = shownAt set plan init visits m ∧
      reloadsAt set plan init visits j = 1 := by
  by_cases hqueued : (before set plan init visits (m + 1)).queuedAt = none
  · cases hswitched : (visits (m + 1)).switched with
    | true =>
      -- a switch would be the effect of a reload that is already queued
      obtain ⟨q, hq, -⟩ := hrun.caused (m + 1) hswitched
      rw [hqueued] at hq
      cases hq
    | false =>
      have hwait := visit_waiting hrun (m + 1) (inv_after hrun m) hqueued
      have hlate := le_trans hover (hrun.forward m)
      have hfire := hwait.2.2.2 h hh lead hlead hlate
      refine ⟨m + 1, le_rfl, ?_, ?_⟩
      · rw [shownAt_succ, hswitched]
        rfl
      · rw [reloadsAt, before, step, shown_of_not_switched hswitched]
        exact hfire
  · obtain ⟨j, hj, hshown, hone⟩ := queued_by_pass hrun hqueued
    exact ⟨j, Nat.le_succ_of_le hj, hshown, hone⟩

lemma queued_some_time (k : ℕ) :
    ∃ j, shownAt set plan init visits j = shownAt set plan init visits k ∧
      reloadsAt set plan init visits j = 1 := by
  by_contra hnever
  -- a plan whose reload is never queued is never replaced
  have hstays (n : ℕ) : shownAt set plan init visits (k + n) = shownAt set plan init visits k := by
    induction n with
    | zero => rfl
    | succ n ih =>
      have hqueued : (before set plan init visits (k + n + 1)).queuedAt = none := by
        by_contra hsome
        obtain ⟨j, -, hshown, hone⟩ := queued_by_pass hrun hsome
        exact hnever ⟨j, hshown.trans ih, hone⟩
      cases hswitched : (visits (k + n + 1)).switched with
      | true =>
        obtain ⟨q, hq, -⟩ := hrun.caused (k + n + 1) hswitched
        rw [hqueued] at hq
        cases hq
      | false =>
        rw [← Nat.add_assoc, shownAt_succ, hswitched]
        exact ih
  obtain ⟨σ, hhorizon, -⟩ := (inv_after hrun k).horizon
  generalize hh : horizonFrom
    (some (plan (before set plan init visits (k + 1)).index).proofEventId) σ
    (plan (before set plan init visits (k + 1)).index).durations = h at hhorizon
  have hlead : LeadOf set visits (rolloverLeadSeconds set none) h.planEndAt := by
    intro _ _ _ next _
    exact rolloverLeadSeconds_none_le set
  have hforward : Monotone fun n => (visits n).env.now := monotone_nat_of_le_succ hrun.forward
  obtain ⟨n, hn⟩ := hrun.unbounded (overdueAt h (rolloverLeadSeconds set none)
    (startsAt (shownAt set plan init visits k)))
  have hover : overdueAt h (rolloverLeadSeconds set none)
      (startsAt (shownAt set plan init visits (k + n))) ≤ (visits (k + n)).env.now := by
    rw [hstays n]
    exact le_trans hn (hforward (Nat.le_add_left n k))
  have hmem : h ∈ (before set plan init visits (k + n + 1)).latches.planHorizon := by
    rw [planHorizon_persists hrun (Nat.le_add_right k n) (hstays n)]
    exact hhorizon
  obtain ⟨j, -, hshown, hone⟩ := queued_once_overdue hrun hmem hlead hover
  exact hnever ⟨j, hshown.trans (hstays n), hone⟩

omit hrun

lemma rolloverMinInterval_pos (seconds : ℚ) : 0 < rolloverMinInterval seconds := by
  have hfloor : (0 : ℚ) < max rolloverMinIntervalFloorSeconds (seconds / 2) :=
    lt_of_lt_of_le (by norm_num [rolloverMinIntervalFloorSeconds]) (le_max_left _ _)
  exact lt_min (by norm_num [rolloverMinIntervalSeconds]) hfloor

/-- Rollovers keep up without drift. At every pass the plan the row shows is tracked, and
its tracked end lies between its true end and `d` later, however many plans came before.
The reload of that plan is queued by exactly one pass, once, and no later than the second
pass from the instant on at which it is overdue, whether the plan's start is taken as
tracked or, for the passes that show the plan, as the true one. -/
theorem rollovers_keep_up (hrun : BackToBack set d p offset plan startsAt init visits) (k : ℕ) :
    ∃ h, (before set plan init visits (k + 1)).latches.planHorizon = some h ∧
      h.proofEventId = some (plan (shownAt set plan init visits k)).proofEventId ∧
      startsAt (shownAt set plan init visits k)
          + (plan (shownAt set plan init visits k)).seconds ≤ h.planEndAt ∧
      h.planEndAt ≤ startsAt (shownAt set plan init visits k)
          + (plan (shownAt set plan init visits k)).seconds + d ∧
      ∃ j, shownAt set plan init visits j = shownAt set plan init visits k ∧
        reloadsAt set plan init visits j = 1 ∧
        (∀ m, shownAt set plan init visits m = shownAt set plan init visits k → m ≠ j →
          reloadsAt set plan init visits m = 0) ∧
        ∀ lead, LeadOf set visits lead h.planEndAt →
          (∀ m, overdueAt h lead (h.planEndAt - h.plannedSeconds) ≤ (visits m).env.now →
            j ≤ m + 1) ∧
          ∀ m, shownAt set plan init visits m = shownAt set plan init visits k →
            overdueAt h lead (startsAt (shownAt set plan init visits k)) ≤ (visits m).env.now →
            j ≤ m + 1 := by
  obtain ⟨σ, hhorizon, hlo, hhi, hsight⟩ := (inv_after hrun k).horizon
  obtain ⟨j, hj, hone⟩ := queued_some_time hrun k
  have htrue {h : Horizon} (hh : (before set plan init visits (k + 1)).latches.planHorizon = some h)
      {lead : ℚ} (hlead : LeadOf set visits lead h.planEndAt) {m : ℕ}
      (hm : shownAt set plan init visits m = shownAt set plan init visits k)
      (hover : overdueAt h lead (startsAt (shownAt set plan init visits k)) ≤ (visits m).env.now) :
      j ≤ m + 1 := by
    have hmem : h ∈ (before set plan init visits (m + 1)).latches.planHorizon := by
      rcases Nat.le_total k m with hkm | hmk
      · rw [planHorizon_persists hrun hkm hm]
        exact hh
      · rw [← planHorizon_persists hrun hmk hm.symm]
        exact hh
    rw [← hm] at hover
    obtain ⟨i, hi, hshown, hi1⟩ := queued_once_overdue hrun hmem hlead hover
    have hij : i = j := reloadsAt_unique hrun (hshown.trans (hm.trans hj.symm)) hone hi1
    exact hij ▸ hi
  refine ⟨_, hhorizon, rfl, ?_, ?_, j, hj, hone, ?_, ?_⟩
  · exact add_le_add_left hlo _
  · rw [horizonFrom_planEndAt, AiredPlan.seconds]
    have hhi' : σ ≤ startsAt (shownAt set plan init visits k) + d := hhi
    simp only [shownAt] at hhi' ⊢
    linarith
  · intro m hm hne
    rcases reloadsAt_cases hrun m with hzero | ⟨hm1, -⟩
    · exact hzero
    · exact absurd (reloadsAt_unique hrun (hm.trans hj.symm) hone hm1) hne
  · intro lead hlead
    refine ⟨?_, fun m hm hover => htrue hhorizon hlead hm hover⟩
    intro m hover
    have hstart : (horizonFrom (some (plan (shownAt set plan init visits k)).proofEventId) σ
        (plan (shownAt set plan init visits k)).durations).planEndAt -
        (horizonFrom (some (plan (shownAt set plan init visits k)).proofEventId) σ
          (plan (shownAt set plan init visits k)).durations).plannedSeconds = σ :=
      add_sub_cancel_right _ _
    rw [shownAt] at hstart
    rw [hstart] at hover
    rcases Nat.lt_trichotomy (shownAt set plan init visits m) (shownAt set plan init visits k)
      with hearly | hsame | hlate
    · -- the pass was made before the plan was seen, so before its tracked start
      have hbefore := now_le_seenAt hrun hearly
      have hpaced := le_trans (le_max_right _ _) hover
      have hpos := rolloverMinInterval_pos (plan (shownAt set plan init visits k)).durations.sum
      have hpaced' : σ + rolloverMinInterval
          (plan (shownAt set plan init visits k)).durations.sum ≤ (visits m).env.now := hpaced
      linarith
    · exact htrue hhorizon hlead hsame (le_trans (overdueAt_mono hlo) hover)
    · by_contra hmj
      have hmono := shownAt_mono set plan init visits (show m ≤ j by omega)
      omega

/-! ### A run with two switches -/

/-- Minute-long plans of two segments. -/
def minutePlan (i : ℕ) : AiredPlan where
  proofEventId := if i % 2 = 0 then "proof-even" else "proof-odd"
  durations := [40, 20]
  switchDeferred := true

def minuteSource : SourcePlan where
  channelId := "gov"
  segments := [⟨60, .program, some "asset-1", some "row-1", none, "Council", none, none, none⟩]

/-- A pass every ten seconds, three seconds late; the third plan goes on air after two minutes and
stays. -/
def minuteVisit (k : ℕ) : Visit where
  pid := some 4242
  switched := k = 6 ∨ k = 12
  env :=
    { channelId := "gov"
      autoStart := true
      now := 10 * k + 3
      monotonic := 10 * k + 3 + 5
      uuid := "0a1b2c3d4e5f"
      hasLiveProcess := true
      operatorStopIntent := false
      pendingActions := .ok []
      processOnce := .ok ()
      readState := .ok none
      liveTakeover := false
      forcedSlate := false
      workerConnected := true
      pendingPreparation := false
      pendingScheduledStart := false
      pendingReloadSettlement := false
      chainedSlateProgramEnd := none
      dispatchedPlanHorizon := none
      supportsScheduledStart := true
      supportsContentReload := true
      sourcePlan := .ok (some minuteSource)
      boundaryPlan := some fun _ => .ok (some minuteSource)
      nextItemStartAt := fun _ => .ok none
      enqueue := fun _ => .ok ()
      warm := fun _ => .ok () }

lemma minuteRun : BackToBack ⟨none, 915⟩ 3 10 5 minutePlan (60 * ·) {} minuteVisit where
  durations_ne _ := cons_ne_nil _ _
  durations_pos i x hx := by
    have hx' : x = 40 ∨ x = 20 := by simpa [minutePlan] using hx
    rcases hx' with rfl | rfl <;> norm_num
  proof_ne i := by
    rcases Nat.mod_two_eq_zero_or_one i with hi | hi
    · have hsucc : (i + 1) % 2 = 1 := by omega
      simp [minutePlan, hi, hsucc]
    · have hsucc : (i + 1) % 2 = 0 := by omega
      simp [minutePlan, hi, hsucc]
  lands i := by
    simp only [AiredPlan.seconds, minutePlan, sum_cons, sum_nil]
    push_cast
    linarith
  forward k := by
    simp only [minuteVisit]
    push_cast
    linarith
  gap k := by
    simp only [minuteVisit]
    push_cast
    linarith
  unbounded t := by
    obtain ⟨k, hk⟩ := exists_nat_ge t
    refine ⟨k, ?_⟩
    simp only [minuteVisit]
    have : (0 : ℚ) ≤ k := Nat.cast_nonneg k
    linarith
  clock _ := rfl
  first_plan := rfl
  first_seen := by decide +kernel
  seen k hk := by
    have hk : k = 6 ∨ k = 12 := of_decide_eq_true hk
    rcases hk with rfl | rfl <;> decide +kernel
  caused k hk := by
    have hk : k = 6 ∨ k = 12 := of_decide_eq_true hk
    rcases hk with rfl | rfl <;> decide +kernel
  live _ := rfl
  connected _ := rfl
  no_override _ := rfl
  processes _ := rfl
  enqueues _ := rfl
  provides _ := ⟨_, rfl, fun _ => ⟨minuteSource, rfl, by decide +kernel⟩⟩
  fresh_horizon := rfl
  fresh_dispatch := rfl
  fresh_probe := rfl

/-- The third plan of the run is tracked to three seconds past its true end at most. -/
theorem rollovers_keep_up_minutes :
    ∃ h, (before ⟨none, 915⟩ minutePlan {} minuteVisit 14).latches.planHorizon = some h ∧
      180 ≤ h.planEndAt ∧ h.planEndAt ≤ 183 := by
  obtain ⟨h, hhorizon, -, hlo, hhi, -⟩ := rollovers_keep_up minuteRun 13
  have hshown : shownAt ⟨none, 915⟩ minutePlan {} minuteVisit 13 = 2 := by decide +kernel
  rw [hshown] at hlo hhi
  simp only [AiredPlan.seconds, minutePlan, sum_cons, sum_nil] at hlo hhi
  norm_num at hlo hhi
  exact ⟨h, hhorizon, hlo, hhi⟩

end Chain

end Automation

end CivicCast.Egress
