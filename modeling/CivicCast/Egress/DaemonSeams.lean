import CivicCast.Egress.Plans
import CivicCast.Lib.Prog

/-! # The egress daemon's attributes, its seams, and their world

`EgressDaemon` (with `PlayoutSupervisor` on top of it) drives one encoder worker per
channel. This module follows one channel: what the daemon remembers of it, every call it
makes on the store, the schedule, the source preparer and the encoder strategy, and the
worker on the other side of the strategy.

* `Attrs` is what the daemon's dictionaries hold for the channel.
* `Op`/`Ans` is the interface; `daemonIface` packages it for `Lib.Prog`.
* `World` adds the state row, the worker, and the registers the results speak about.
* `machine` is the meaning of the operations. Answers are demonic wherever the source
  calls out: every store call may raise, providers and the preparer answer anything, and
  the worker may apply or abort an accepted reload, or exit, whenever the daemon looks
  away (`meanwhile`).

Deliberate scope limits:

* log lines, error texts, source labels, health samples, captions, overlays, relays,
  branding and as-run records are one operation, `assist`, that may raise;
* the two output guards' measurements are one verdict each;
* a uuid is a fresh number, and so is a prepared-plan directory;
* locks are left out: the calls of `process_once` are the atomic steps.
-/

namespace CivicCast.Egress

namespace Daemon

open Lib Playout

/-! ## Data -/

/-- A worker process. -/
abbrev Proc := ℕ

/-- A prepared-plan directory. -/
abbrev Dir := ℕ

structure Config where
  enabled : Bool
  /-- Everything else of the stored configuration. -/
  revision : ℕ
deriving DecidableEq

structure Command where
  action : Action
  commandId : String
  issuedBy : String
deriving DecidableEq

structure StateRow where
  state : EgressState
  currentProofEventId : Option ℕ
  pid : Option Proc
deriving DecidableEq

/-- `SourcePreparationReport`: the conformed plan, and the plan it was made from. -/
structure Report where
  sourcePlan : SourcePlan
  madeFrom : SourcePlan
  planDir : Option Dir
deriving DecidableEq

/-- `_ReusePreparedPlan`. -/
structure ReusePreparedPlan where
  report : Report
  targetState : EgressState
deriving DecidableEq

/-- A value of `_pending_reloads` and `_backoff_relaunch`: the state to come back from. -/
structure Pin where
  previousState : Option EgressState
deriving DecidableEq

/-- `_PendingReloadSettlement`. -/
structure Settlement where
  reloadId : ℕ
  since : ℚ
  process : Proc
  sourcePlan : SourcePlan
  switchAtEndOfCurrent : Bool
  previousState : Option EgressState
  targetState : EgressState
  planDir : Option Dir
  rolloverPlanEndAt : Option Instant
  chainedProgramEndAt : Option Instant
  switchAtUnix : Option ℚ
  scheduledWaitSeconds : ℚ
deriving DecidableEq

/-- A value of `_rollover_plan_end_at`. -/
structure RolloverRecord where
  commandId : Option String
  planEndAt : Instant
  forceFallback : Bool
  minPlanSeconds : Option ℚ
deriving DecidableEq

/-- A value of `_dispatched_plan_horizon`. -/
structure PlanHorizon where
  proofEventId : Option ℕ
  durations : List ℚ
  switchDeferred : Bool
deriving DecidableEq

/-- A value of `_dispatched_program_source`. -/
structure ProgramSource where
  proofEventId : ℕ
  scheduleOccurrenceId : String
  sourceRef : String
  inpoint : ℚ
deriving DecidableEq

/-- What a suspended `_start_steps` goes on with. -/
structure StartResume where
  config : Config
  previousState : Option EgressState
  sourcePlan : SourcePlan
  usingFallbackSlate : Bool
  slateFirstHandoff : Bool
  /-- The reused plan's state, when the yielded report is a reused one. -/
  reuse : Option ReusePreparedPlan
  /-- The report replaces the plan (`_PreparationRequest` without a supplied report). -/
  conforms : Bool
  firstProgramRemainingSeconds : Option ℚ
  planResolutionStartedAt : ℚ
deriving DecidableEq

/-- What a suspended `_reload_steps` goes on with. -/
structure ReloadResume where
  state : StateRow
  process : Proc
  sourcePlan : SourcePlan
  targetState : EgressState
  conforms : Bool
  rolloverPlanEndAt : Option Instant
  chainedProgramEndAt : Option Instant
  scheduledStartAt : Option Instant
deriving DecidableEq

inductive Resume where
  | start (r : StartResume)
  | reload (r : ReloadResume)
deriving DecidableEq

/-- `_PendingPreparation`. -/
structure Preparation where
  resume : Resume
  ticket : ℕ
  process : Option Proc
  config : Option Config
  slateFirst : Bool
  suppliedReport : Option Report
deriving DecidableEq

/-- What the daemon's dictionaries hold for the channel. -/
structure Attrs where
  process : Option Proc := none
  startedAt : Option ℚ := none
  onAirConfirmedAt : Option ℚ := none
  operatorStopped : Bool := false
  draining : Bool := false
  pendingReload : Option Pin := none
  reloadKill : Bool := false
  settle : Option Settlement := none
  stallSince : Option ℚ := none
  stallBound : Option ℚ := none
  stallRung : ℕ := 0
  failedPreparation : Option (ℚ × Instant) := none
  activeDir : Option Dir := none
  restartPlan : Option ReusePreparedPlan := none
  discardedReloadId : Option ℕ := none
  reloadRetries : Option (Instant × ℕ) := none
  rolloverRecord : Option RolloverRecord := none
  horizon : Option PlanHorizon := none
  programSource : Option ProgramSource := none
  chainedSlateProgram : Option (Option ℕ × Instant) := none
  restartStreak : Option ℕ := none
  slateEosRelaunches : Option ℕ := none
  prerollTimeoutStreakIncrAt : Option ℚ := none
  backoff : Option Pin := none
  restartLatch : Option ℚ := none
  qualityRecovery : Option (ℚ × String) := none
  preparation : Option Preparation := none
  executor : Bool := false
  preparationClosed : Bool := false
  -- `PlayoutSupervisor`
  takeover : Option SourcePlan := none
  forcedSlate : Option String := none
  lookahead : Option (List SourcePlan) := none
deriving DecidableEq

/-- What the constructor fixes. -/
structure Setup where
  channelId : String
  boundaryProvider : Bool
  nextProgramProvider : Bool
  fallbackProvider : Bool
  lookaheadProvider : Bool
  takeoverStore : Bool
  sourcePreparer : Bool
  captionReadiness : Bool
  captionPrepareHook : Bool
  supportsContentReload : Bool
  supportsLiveSwap : Bool
  supportsScheduledStart : Bool
deriving DecidableEq

/-! ## The interface -/

/-- The request handed to `reload_content`. -/
structure ReloadRequest where
  reloadId : ℕ
  sourcePlan : SourcePlan
  /-- The plan that was resolved; `sourcePlan` is it, or its preparation. -/
  resolved : SourcePlan
  planDir : Option Dir
  switchAtEndOfCurrent : Bool
  switchAtUnix : Option ℚ
deriving DecidableEq

/-- The settlement a worker writes to `reload-status.json`. -/
inductive ReloadResult where
  | applied
  | aborted
  /-- Anything the daemon does not know. -/
  | unrecognized
deriving DecidableEq

/-- What the worker does while the daemon does something else. -/
inductive WorkerMove where
  | stays
  | applies
  | aborts
  | exits
deriving DecidableEq

/-- The answer of the caption readiness provider. -/
inductive Readiness where
  | ready
  | refused (requiresFallbackSlate : Bool)
deriving DecidableEq

/-- What an output guard makes of its measurements. -/
inductive Verdict where
  | quiet
  | restart
  | exhausted (retryAt : ℚ)
deriving DecidableEq

/-- The takeover session the audit store has open. -/
inductive SessionPlan where
  | none
  | unreadable
  | plan (p : SourcePlan)
deriving DecidableEq

/-- Why `_discard_pending_reload_settlement` is called. -/
inductive DropReason where
  | workerExited
  | restarting
  | stopped
  | superseded
  | aborted
  | unrecognized
  | deadline
  | fallingBack
deriving DecidableEq

/-- Observations only; they have no effect on the attributes. -/
inductive Mark where
  /-- `_request_reload` has read the rollover record. -/
  | requested (forceFallback : Bool)
  /-- The stall watchdog re-issues the reload. -/
  | reissued
  /-- A poll has read `applied` for the pending reload, with its worker alive. -/
  | applied (pending : Settlement)
deriving DecidableEq

inductive Op where
  | self
  | modify (f : Attrs → Attrs)
  /-- `_release_prepared_plan_dir`. -/
  | release (d : Dir)
  /-- `_discard_pending_reload_settlement`. -/
  | dropSettle (reason : DropReason)
  /-- `_cancel_preparation`. -/
  | cancelPreparation
  | monotonic
  | utcNow
  | uuid
  | getConfig
  | readState
  | writeState (row : StateRow)
  | appendProof
  | peekCommands
  | assist
  | meanwhile
  | poll (p : Proc)
  | terminate (p : Proc)
  | upstreamPlan
  | lookaheadPlans
  | boundaryPlan (at_ : Instant) (minPlanSeconds : Option ℚ)
  | fallbackPlan
  | nextProgramStart (at_ : Instant)
  | captionReadiness
  | prepare (plan : SourcePlan)
  | submit (plan : SourcePlan)
  | futureDone (ticket : ℕ) (plan : SourcePlan) (supplied : Option Report)
  | launch (plan : SourcePlan) (planDir : Option Dir)
  | reloadContent (req : ReloadRequest)
  | ackTimedOut
  | swapRole
  | reloadStatus
  | outputAvGuard
  | freezeEscalation
  | onAirEvidence
  | encoderGone
  | activeSession
  | mark (m : Mark)
  /-- The stored configuration changes. -/
  | configure (config : Option Config)
  | rounds
  | diverge

@[reducible] def Ans : Op → Type
  | .self => Attrs
  | .monotonic => ℚ
  | .utcNow => Instant
  | .uuid => ℕ
  | .getConfig => Except Fault (Option Config)
  | .readState => Except Fault (Option StateRow)
  | .writeState _ => Except Fault Unit
  | .appendProof => Except Fault Unit
  | .peekCommands => Except Fault (List Command)
  | .assist => Except Fault Unit
  | .meanwhile => WorkerMove
  | .poll _ => Option ℤ
  | .upstreamPlan => Except Fault (Option SourcePlan)
  | .lookaheadPlans => Except Fault (Option SourcePlan)
  | .boundaryPlan _ _ => Except Fault (Option SourcePlan)
  | .fallbackPlan => Except Fault SourcePlan
  | .nextProgramStart _ => Except Fault (Option Instant)
  | .captionReadiness => Except Fault Readiness
  | .prepare _ => Except Fault Report
  | .submit _ => ℕ
  | .futureDone _ _ _ => Option (Except Fault Report)
  | .launch _ _ => Except Fault Proc
  | .reloadContent _ => Except Fault Bool
  | .ackTimedOut => Bool
  | .swapRole => Except Fault Unit
  | .reloadStatus => Option (ℕ × ReloadResult)
  | .outputAvGuard => Except Fault Verdict
  | .freezeEscalation => Except Fault Verdict
  | .onAirEvidence => Bool
  | .encoderGone => Bool
  | .activeSession => Except Fault SessionPlan
  | .rounds => ℕ
  | .diverge => Empty
  | _ => Unit

abbrev daemonIface : Iface := ⟨Op, Ans⟩

/-- The daemon's code: programs over the interface. -/
abbrev DaemonM (α : Type) : Type := Prog daemonIface Fault α

def call (o : Op) : DaemonM (Ans o) := Prog.lift (I := daemonIface) o

def self : DaemonM Attrs := call .self

def modify (f : Attrs → Attrs) : DaemonM Unit := call (.modify f)

/-- A seam's exception propagates. -/
def orRaise {α : Type} : Except Fault α → DaemonM α
  | .ok a => return a
  | .error fault => Prog.raise fault

/-- Call a store or a provider; its exception propagates. -/
def assist : DaemonM Unit := do orRaise (← call .assist)

/-- `_process_poll`, with the worker free to move before it. -/
def processPoll (p : Proc) : DaemonM (Option ℤ) := do
  let _ ← call .meanwhile
  call (.poll p)

/-! ## The world -/

/-- The encoder worker, as it really is. -/
structure Worker where
  proc : Proc
  alive : Bool
  /-- The prepared-plan directory of the plan it airs, and the reload it came with. -/
  airing : Option Dir
  airingId : Option ℕ
  /-- The newest reload it has accepted and not yet settled. -/
  accepted : Option (ℕ × Option Dir)
deriving DecidableEq

structure World where
  d : Attrs
  config : Option Config
  row : Option StateRow
  worker : Option Worker
  /-- `reload-status.json`. -/
  status : Option (ℕ × ReloadResult)
  /-- The next unused uuid, process, directory or ticket. -/
  fresh : ℕ
  -- Registers the results speak about.
  /-- Encoders launched so far. -/
  starts : ℕ
  /-- Reloads the stall watchdog has re-issued. -/
  reissues : ℕ
  /-- Processes asked to terminate. -/
  terminated : List Proc
  /-- The reload whose `applied` a poll read last. -/
  applied : Option Settlement
  /-- A reload request under a live takeover carried something else. -/
  offLive : Bool
  /-- A directory the live worker needs was released. -/
  releasedInUse : Bool
deriving DecidableEq

namespace World

/-- The daemon's attributes change. -/
@[simps]
def setD (w : World) (d : Attrs) : World := { w with d := d }

def live (w : World) : Option Worker :=
  w.worker.filter fun k => k.alive && w.d.process = some k.proc

/-- Does the tracked live worker need this directory? -/
def inUse (w : World) (d : Dir) : Bool :=
  match w.live with
  | none => false
  | some k => k.airing = some d || k.accepted.bind Prod.snd = some d

/-- Does the tracked live worker air this reload, or may it still apply it? -/
def mayAir (w : World) (reloadId : ℕ) : Bool :=
  match w.live with
  | none => false
  | some k => k.airingId = some reloadId || k.accepted.map Prod.fst = some reloadId

/-- `prepared_plan_release`. -/
@[simps d starts]
def release (w : World) (d : Dir) : World :=
  { w with releasedInUse := w.releasedInUse || w.inUse d }

def releaseOpt (w : World) : Option Dir → World
  | none => w
  | some d => w.release d

/-- `_discard_pending_reload_settlement`. -/
def dropSettle (w : World) : World :=
  match w.d.settle with
  | none => w
  | some pending =>
    let w := w.setD { w.d with settle := none, discardedReloadId := some pending.reloadId }
    w.releaseOpt pending.planDir

/-- `_cancel_preparation`. The result of a preparation that is not a supplied report is
released too, but nothing has seen its directory yet. -/
def cancelPreparation (w : World) : World :=
  match w.d.preparation with
  | none => w
  | some pending =>
    let w := w.setD { w.d with preparation := none }
    w.releaseOpt (pending.suppliedReport.bind (·.planDir))

def move (w : World) (m : WorkerMove) : World :=
  match w.worker with
  | none => w
  | some k =>
    match m, k.accepted with
    | .applies, some (id, dir) =>
      { w with
        worker := some { k with airing := dir, airingId := some id, accepted := none }
        status := some (id, .applied) }
    | .aborts, some (id, _) =>
      { w with worker := some { k with accepted := none }, status := some (id, .aborted) }
    | .exits, _ => { w with worker := some { k with alive := false } }
    | _, _ => w

/-- A new worker airs the plan it was started with. -/
def launched (w : World) (p : Proc) (planDir : Option Dir) : World :=
  { w with worker := some ⟨p, true, planDir, none, none⟩, fresh := w.fresh + 1,
           starts := w.starts + 1 }

/-- The worker takes a reload request. -/
def accepts (w : World) (req : ReloadRequest) : World :=
  { w with worker := w.worker.map fun k => { k with accepted := some (req.reloadId, req.planDir) } }

/-- The registers that watch `reload_content`. -/
def handed (w : World) (req : ReloadRequest) : World :=
  { w with offLive := w.offLive || w.d.takeover.any (· ≠ req.resolved) }

def marked (w : World) : Mark → World
  | .requested _ => w
  | .reissued => { w with reissues := w.reissues + 1 }
  | .applied pending => { w with applied := some pending }

end World

/-- Is process `p` the worker, and alive? -/
def World.runs (w : World) (p : Proc) : Bool := w.worker.any fun k => k.alive && k.proc = p

/-- A preparation's report: made from the plan, in a directory of its own. -/
def Report.isMadeFrom (report : Report) (plan : SourcePlan) (dir : Dir) : Bool :=
  report.madeFrom = plan && (report.planDir = none || report.planDir = some dir)

/-- The answers an operation can get. -/
def legal (w : World) : (o : Op) → Ans o → Bool
  | .self, d => d = w.d
  | .uuid, x => x = w.fresh
  | .submit _, x => x = w.fresh
  | .getConfig, .ok config => config = w.config
  | .readState, .ok row => row = w.row
  | .meanwhile, .applies => w.worker.any fun k => k.alive && k.accepted.isSome
  | .meanwhile, .aborts => w.worker.any fun k => k.alive && k.accepted.isSome
  | .poll p, x => x.isNone = w.runs p
  | .prepare plan, .ok report => report.isMadeFrom plan w.fresh
  | .futureDone _ plan none, some (.ok report) => report.isMadeFrom plan w.fresh
  | .futureDone _ _ (some supplied), some (.ok report) => report = supplied
  | .launch _ _, .ok p => p = w.fresh
  | .reloadContent _, .ok true => w.live.isSome
  | .reloadStatus, some (id, result) => result = .unrecognized || w.status = some (id, result)
  | _, _ => true

def next (w : World) : (o : Op) → Ans o → World
  | .modify f, _ => w.setD (f w.d)
  | .release d, _ => w.release d
  | .dropSettle _, _ => w.dropSettle
  | .cancelPreparation, _ => w.cancelPreparation
  | .uuid, _ => { w with fresh := w.fresh + 1 }
  | .submit _, _ => { w with fresh := w.fresh + 1 }
  | .writeState row, .ok _ => { w with row := some row }
  | .meanwhile, m => w.move m
  | .terminate p, _ => { w with terminated := p :: w.terminated }
  | .prepare _, .ok _ => { w with fresh := w.fresh + 1 }
  | .futureDone _ _ none, some (.ok _) => { w with fresh := w.fresh + 1 }
  | .launch _ planDir, .ok p => w.launched p planDir
  | .reloadContent req, .ok true => (w.handed req).accepts req
  | .reloadContent req, _ => w.handed req
  | .mark m, _ => w.marked m
  | .configure config, _ => { w with config := config }
  | _, _ => w

/-- What a run may be told about its surroundings. -/
structure Promises where
  /-- The store, and everything behind `assist`, returns. -/
  storeWorks : Bool := false
  /-- The worker does not exit. -/
  workerStays : Bool := false
  /-- The worker takes no reload. -/
  reloadsDeclined : Bool := false
  /-- No preparation is left in flight. -/
  nothingSubmitted : Bool := false
  /-- No quality guard gives up on the program. -/
  guardsContent : Bool := false
  /-- The monotonic clock has come this far. -/
  notBefore : Option ℚ := none
  /-- No reload is requested with a forced filler while a live takeover plan is set. -/
  unforced : Bool := false
  /-- No settlement is dropped that the live worker airs or may still apply. -/
  dropsSettled : Bool := false
deriving DecidableEq

def Promises.allows (q : Promises) (w : World) : (o : Op) → Ans o → Bool
  | .getConfig, .error _ => !q.storeWorks
  | .readState, .error _ => !q.storeWorks
  | .writeState _, .error _ => !q.storeWorks
  | .appendProof, .error _ => !q.storeWorks
  | .peekCommands, .error _ => !q.storeWorks
  | .assist, .error _ => !q.storeWorks
  | .meanwhile, .exits => !q.workerStays
  | .reloadContent _, .ok true => !q.reloadsDeclined
  | .submit _, _ => !q.nothingSubmitted
  | .monotonic, now => q.notBefore.all fun t => decide (t ≤ now)
  | .mark (.requested forceFallback), _ =>
    !(q.unforced && forceFallback && w.d.takeover.isSome)
  | .dropSettle _, _ => !(q.dropsSettled && w.d.settle.any fun s => w.mayAir s.reloadId)
  | .outputAvGuard, .ok (.exhausted _) => !q.guardsContent
  | .freezeEscalation, .ok (.exhausted _) => !q.guardsContent
  | _, _ => true

def machine (q : Promises) : Machine daemonIface World where
  pre := fun _ _ => True
  legal := fun w o x => (legal w o x && q.allows w o x) = true
  next := next

end Daemon

end CivicCast.Egress
