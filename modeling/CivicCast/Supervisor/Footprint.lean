import CivicCast.Supervisor.Core

/-! # What each function of the supervisor can touch

Classes of operations, from the least to the most intrusive, and for
every function the class its calls stay in. An invariant that the operations
of a class keep is then kept by all the functions of that class
(`Prog.Uses.keeps`).

* `Containing`: the assignment of a process to the job;
* `Passive`: probes, clocks, liveness, the stop signals and the Job Object's
  own bookkeeping;
* `Stopping`: also terminations and the child attributes, which is all that
  stopping a child can do;
* `Starting`: also locks, spawns and assignments to the job;
* `Tending` and `Reconciling`: also the throttles and the guard, over
  `Stopping` and over `Starting`.

Outside all of them are the machine state, the interlock memory and the
backoff (`Settling`). A bring-up or a tick changes the state only by
dispatching events, and apart from the interlock poll only `ordinary` ones;
`Lasting` collects what an assertion needs to be kept by a whole `start` or
`tick`. Every function but the backoff's raises `Benign` exceptions only.
-/

namespace CivicCast.Supervisor

open Lib Lib.Prog

/-- What the assignment of a process to the job touches. -/
def Containing : Op → Prop
  | .self | .createJob | .configureJob _ | .assignProcess _ _ | .isProcessInJob _ _
  | .isProcessInAnyJob _ => True
  | .write (.jobHandle _) | .write (.assignedPid _) => True
  | _ => False

/-- Polling and the Job Object's bookkeeping. -/
def Passive : Op → Prop
  | .self | .stopIntent | .isAlive _ | .cpuSeconds _ | .openExisting _ | .preChildStart
  | .shouldAbort | .clock | .sleep _ | .rng | .postgresProbe | .healthProbe | .ollamaProbe
  | .ollamaSpecProvider | .postmasterPidReader | .createJob | .configureJob _
  | .assignProcess _ _ | .isProcessInJob _ _ | .isProcessInAnyJob _ | .closeJob _
  | .openExistingJob | .listJobProcessIds _ | .terminateJob _ _ | .rounds | .diverge => True
  | .write .swept | .write (.jobHandle _) | .write (.assignedPid _) => True
  | _ => False

def Stopping : Op → Prop
  | .terminate _ | .gracefulStop _ => True
  | .write (.childState _ _) | .write (.startBlocked _ _) | .write (.handle _ _)
  | .write (.cpMode _) => True
  | o => Passive o

/-- Starting the child `name`: it is the one that is spawned and tracked. -/
def StartingChild (name : ChildName) : Op → Prop
  | .lock | .unlock | .terminate _ | .gracefulStop _ => True
  | .mark (.assignEnter _) | .mark (.assignExit _) => True
  | .write (.childState _ _) | .write (.startBlocked _ _) => True
  | .spawn n _ => n = name
  | .write (.handle n _) => n = name
  | .write (.cpMode _) => name = .controlPlane
  | o => Passive o

def Starting : Op → Prop
  | .lock | .unlock | .spawn _ _ => True
  | .mark (.assignEnter _) | .mark (.assignExit _) => True
  | o => Stopping o

/-- Reconciling children without starting any. -/
def Tending : Op → Prop
  | .evaluateOnce | .alertFire _ _ _ => True
  | .write (.restartEpoch _) | .write (.lastGuardCheckEpoch _)
  | .write (.lastOptionalRecheckEpoch _) => True
  | o => Stopping o

/-- Reconciling children, apart from the state and the backoff. -/
def Reconciling : Op → Prop
  | .evaluateOnce | .alertFire _ _ _ => True
  | .write (.restartEpoch _) | .write (.lastGuardCheckEpoch _)
  | .write (.lastOptionalRecheckEpoch _) => True
  | o => Starting o

/-- The backoff bookkeeping. -/
def Settling : Op → Prop
  | .write (.backoff _ _) => True
  | o => Passive o

variable {o : Op} {name : ChildName} {φ : Op → Prop} {p : SupM α} {ψ : PyError → Prop}
  {check : SupM ReadinessOutcome}

lemma Settling.cases (h : Settling o) : (∃ n b, o = .write (.backoff n b)) ∨ Passive o := by
  unfold Settling at h
  split at h
  · exact .inl ⟨_, _, rfl⟩
  · exact .inr h

lemma Passive.of_containing (h : Containing o) : Passive o := by
  unfold Containing at h
  split at h <;> trivial

lemma StartingChild.of_passive (h : Passive o) : StartingChild name o := by
  unfold StartingChild
  split <;> trivial

lemma StartingChild.starting (h : StartingChild name o) : Starting o := by
  cases o with
  | write w => cases w <;> trivial
  | mark m => cases m <;> trivial
  | _ => trivial

lemma Stopping.of_passive (h : Passive o) : Stopping o := by
  unfold Stopping
  split <;> trivial

lemma Starting.of_stopping (h : Stopping o) : Starting o := by
  unfold Starting
  split <;> trivial

lemma Tending.of_stopping (h : Stopping o) : Tending o := by
  unfold Tending
  split <;> trivial

lemma Reconciling.of_starting (h : Starting o) : Reconciling o := by
  unfold Reconciling
  split <;> trivial

lemma Reconciling.of_tending (h : Tending o) : Reconciling o := by
  unfold Tending at h
  split at h
  · trivial
  · trivial
  · trivial
  · trivial
  · trivial
  · exact Reconciling.of_starting (Starting.of_stopping h)

/-- Every exception but the overflow of the backoff. -/
def Benign (e : PyError) : Prop := e ≠ .overflow

lemma uses_call (h : φ o) : (call o).Uses φ ψ :=
  ⟨h, fun _ => trivial⟩

lemma uses_ask {α : Type} {f : supIface.Ans o → SupM α} (h : φ o) (hf : ∀ a, (f a).Uses φ ψ) :
    (call o >>= f).Uses φ ψ := uses_bind (uses_call h) hf

lemma uses_orRaise {α : Type} (r : Except Fault α) : (orRaise r).Uses φ Benign := by
  cases r with
  | ok a => trivial
  | error code => exact nofun

lemma uses_specFor {name : ChildName} {maintenance : Bool} :
    (ofExcept (specFor name maintenance) : SupM ChildSpec).Uses φ Benign := by
  cases name with
  | postgres | controlPlane => trivial
  | ollama => exact nofun

variable {α : Type} (watched : Option Handle)

/-! ## Passive functions -/

lemma uses_self : self.Uses Passive Benign := uses_call trivial

lemma uses_abortRequested : abortRequested.Uses Passive Benign :=
  uses_ask trivial fun _ => uses_ite uses_pure (uses_call trivial)

lemma uses_diverge : (diverge : SupM α).Uses Passive Benign :=
  uses_ask trivial nofun

lemma uses_sampleProgress : (sampleProgress watched).Uses Passive Benign := by
  cases watched with
  | none => exact uses_pure
  | some h => exact uses_call trivial

lemma uses_exited : (exited watched).Uses Passive Benign := by
  cases watched with
  | none => exact uses_pure
  | some h => exact uses_ask trivial fun _ => uses_pure

lemma uses_stallCheck {stallSeconds : Option ℚ} (m : PollMemory)
    {now : ℚ} : (stallCheck watched stallSeconds m now).Uses Passive Benign := by
  unfold stallCheck
  split
  · exact uses_ask trivial fun _ => uses_pure
  · exact uses_pure

lemma uses_checkControlPlaneMaintenanceReady :
    checkControlPlaneMaintenanceReady.Uses Passive Benign :=
  uses_ask trivial fun _ => uses_pure

lemma uses_readinessCheckFor (name : ChildName) {maintenance : Bool} :
    (readinessCheckFor name maintenance).Uses Passive Benign := by
  cases name with
  | postgres => exact uses_ask trivial fun _ => uses_pure
  | controlPlane =>
    exact uses_ite uses_checkControlPlaneMaintenanceReady (uses_ask trivial fun _ => uses_pure)
  | ollama => exact uses_ask trivial fun _ => uses_pure

lemma uses_pollLoop (hcheck : check.Uses Passive Benign)
    (watched : Option Handle) {stallSeconds : Option ℚ} {deadline : ℚ} {fuel : ℕ} :
    ∀ m, (pollLoop check watched stallSeconds deadline fuel m).Uses Passive Benign := by
  induction fuel with
  | zero => intro m; exact uses_diverge
  | succ fuel ih =>
    intro m
    refine uses_bind uses_abortRequested fun _ => uses_ite uses_pure ?_
    refine uses_bind hcheck fun _ => ?_
    refine uses_bind uses_abortRequested fun _ => uses_ite uses_pure ?_
    refine uses_bind (uses_exited watched) fun _ => uses_ite uses_pure ?_
    refine uses_ite uses_pure ?_
    refine uses_ask trivial fun _ => ?_
    refine uses_bind (uses_stallCheck watched m) fun r => ?_
    cases r with
    | none => exact uses_pure
    | some m' =>
      exact uses_ite uses_pure (uses_ask trivial fun _ => ih m')

lemma uses_pollUntilReady (hcheck : check.Uses Passive Benign)
    {budget : ℚ} {watched : Option Handle} {stallSeconds : Option ℚ} :
    (pollUntilReady check budget watched stallSeconds).Uses Passive Benign :=
  uses_ask trivial fun _ => uses_bind (uses_sampleProgress watched) fun _ =>
    uses_ask trivial fun _ => uses_ask trivial fun _ =>
      uses_pollLoop hcheck watched _

lemma uses_ensureJob : ensureJob.Uses Containing Benign := by
  refine uses_ask trivial fun s => ?_
  cases s.jobHandle with
  | some job => exact uses_pure
  | none =>
    exact uses_ask trivial fun _ => uses_bind (uses_orRaise _) fun _ =>
      uses_ask trivial fun _ => uses_bind (uses_orRaise _) fun _ =>
        uses_ask trivial fun _ => uses_pure

lemma uses_acceptMembership (job pid : ℕ) {acceptForeign : Bool} (fault : Fault) :
    (acceptMembership job pid acceptForeign fault).Uses Containing Benign :=
  uses_ite (uses_raise nofun) <| uses_ask trivial fun _ =>
    uses_bind (uses_orRaise _) fun _ => uses_ite uses_pure <|
      uses_ite (uses_raise nofun) <| uses_ask trivial fun _ =>
        uses_bind (uses_orRaise _) fun _ => uses_ite uses_pure (uses_raise nofun)

lemma uses_assignChildBody (pid : ℕ) (acceptForeign : Bool) :
    (assignChildBody pid acceptForeign).Uses Containing Benign := by
  refine uses_ask trivial fun _ => uses_ite uses_pure ?_
  refine uses_bind uses_ensureJob fun job => uses_ask trivial fun r => ?_
  cases r with
  | ok _ => exact uses_call trivial
  | error fault =>
    exact uses_bind (uses_acceptMembership job pid fault) fun _ =>
      uses_call trivial

lemma uses_sweepOnce : sweepOnce.Uses Passive Benign := by
  refine uses_ask trivial fun existing => ?_
  cases existing with
  | none => exact uses_call trivial
  | some job =>
    exact uses_ask trivial fun _ => uses_ask trivial fun _ =>
      uses_ask trivial fun _ => uses_call trivial

lemma uses_sweepUnlessSwept : sweepUnlessSwept.Uses Passive Benign :=
  uses_bind uses_self fun _ => uses_ite uses_pure uses_sweepOnce

lemma uses_pollSpawned (name : ChildName) (maintenance : Bool) (spec : ChildSpec)
    (handle : Handle) : (pollSpawned name maintenance spec handle).Uses Passive Benign :=
  uses_pollUntilReady (uses_readinessCheckFor name)

lemma uses_handleAlive (h : Option Handle) : (handleAlive h).Uses Passive Benign := by
  cases h with
  | none => exact uses_pure
  | some h => exact uses_call trivial

lemma uses_needsRestart {name : ChildName} : (needsRestart name).Uses Passive Benign :=
  uses_bind uses_self fun _ => uses_ite uses_pure <| uses_bind uses_self fun _ =>
    uses_bind (uses_handleAlive _) fun _ => uses_pure

/-! ## Functions that start or stop children -/

lemma uses_stopping (h : p.Uses Passive Benign) : p.Uses Stopping Benign :=
  h.mono (fun _ => Stopping.of_passive) fun _ => id

lemma uses_startingChild (h : p.Uses Passive Benign) : p.Uses (StartingChild name) Benign :=
  h.mono (fun _ => StartingChild.of_passive) fun _ => id

lemma uses_withLifecycleLock {body : SupM α} (h : body.Uses (StartingChild name) Benign) :
    (withLifecycleLock body).Uses (StartingChild name) Benign :=
  uses_ask trivial fun _ => uses_andFinally h (uses_call trivial)

lemma uses_assignChild {pid : ℕ} {acceptForeign : Bool} :
    (assignChild pid acceptForeign).Uses (StartingChild name) Benign := by
  have hbody := (uses_assignChildBody pid acceptForeign).mono (fun _ => Passive.of_containing)
    fun _ => id
  exact uses_ask trivial fun _ =>
    uses_andFinally (uses_startingChild hbody) (uses_call trivial)

lemma uses_chooseSpec (setup : Setup) (name : ChildName) {maintenance : Bool} :
    (chooseSpec setup name maintenance).Uses (StartingChild name) Benign := by
  refine uses_ite (uses_ite (uses_ask trivial fun decision => ?_) (uses_raise nofun))
    (uses_bind uses_specFor fun _ => uses_pure)
  cases decision with
  | some spec => exact uses_pure
  | none =>
    exact uses_ask trivial fun _ => uses_ask trivial fun _ =>
      uses_pure

lemma uses_guardWithholds (name : ChildName) {maintenance : Bool} :
    (guardWithholds name maintenance).Uses (StartingChild name) Benign :=
  uses_ite (uses_ask trivial fun _ => uses_ite uses_pure <|
    uses_ask trivial fun _ => uses_ask trivial fun _ =>
      uses_pure) uses_pure

lemma uses_trackMode (name : ChildName) {maintenance : Bool} :
    (trackMode name maintenance).Uses (StartingChild name) Benign := by
  unfold trackMode
  split
  · rename_i hname
    exact uses_call hname
  · exact uses_pure

lemma uses_assignOnSpawn (name : ChildName) (handle : Handle) :
    (assignOnSpawn name handle).Uses (StartingChild name) Benign :=
  uses_ite uses_pure uses_assignChild

lemma uses_decideAndSpawn (name : ChildName) {maintenance : Bool} (spec : ChildSpec) :
    (decideAndSpawn name maintenance spec).Uses (StartingChild name) Benign :=
  uses_withLifecycleLock <| uses_bind (uses_startingChild uses_abortRequested) fun _ =>
    uses_ite uses_pure <| uses_ask rfl fun _ =>
      uses_bind (uses_orRaise _) fun handle => uses_ask trivial fun _ =>
        uses_ask rfl fun _ => uses_ask trivial fun _ =>
          uses_bind (uses_trackMode name) fun _ =>
            uses_bind (uses_assignOnSpawn name handle) fun _ => uses_pure

lemma uses_failPostgres {launcher : Handle} :
    (failPostgres launcher).Uses (StartingChild .postgres) Benign :=
  uses_ask trivial fun _ => uses_pure

lemma uses_containPostmaster (launcher postmaster : Handle) :
    (containPostmaster launcher postmaster).Uses (StartingChild .postgres) Benign := by
  refine uses_bind (uses_attempt uses_assignChild) fun r => ?_
  cases r with
  | error e =>
    exact uses_ask trivial fun _ => uses_ask trivial fun _ =>
      uses_failPostgres
  | ok u =>
    exact uses_ask rfl fun _ => uses_ask trivial fun _ =>
      uses_pure

lemma uses_handOverPostmaster (launcher : Handle) :
    (handOverPostmaster launcher).Uses (StartingChild .postgres) Benign := by
  refine uses_ask trivial fun pid => ?_
  cases pid with
  | none => exact uses_failPostgres
  | some pid =>
    refine uses_ask trivial fun opened => ?_
    cases opened with
    | error e => exact uses_failPostgres
    | ok u => exact uses_containPostmaster _ _

lemma uses_finishStart (name : ChildName) (handle : Handle) (result : ReadinessOutcome) :
    (finishStart name handle result).Uses (StartingChild name) Benign := by
  cases result with
  | aborted => exact uses_pure
  | ready =>
    by_cases hname : name = .postgres
    · subst hname
      exact uses_handOverPostmaster handle
    · simp only [finishStart, if_neg hname]
      exact uses_ask trivial fun _ => uses_pure
  | notReady | timeout => exact uses_ask trivial fun _ => uses_pure

lemma uses_launch (name : ChildName) {maintenance : Bool} (spec : ChildSpec) :
    (launch name maintenance spec).Uses (StartingChild name) Benign := by
  refine uses_bind (uses_guardWithholds name) fun _ => uses_ite uses_pure ?_
  refine uses_bind (uses_decideAndSpawn name spec) fun spawned => ?_
  cases spawned with
  | none => exact uses_pure
  | some handle =>
    exact uses_bind (uses_startingChild (uses_pollSpawned name maintenance spec handle)) fun r =>
      uses_finishStart name handle r

lemma uses_startChild {setup : Setup} {name : ChildName} {maintenance : Bool} :
    (startChild setup name maintenance).Uses (StartingChild name) Benign := by
  refine uses_bind (uses_startingChild uses_sweepUnlessSwept) fun _ =>
    uses_bind (uses_startingChild uses_self) fun s => uses_ite ?_ uses_pure
  refine uses_bind (uses_chooseSpec setup name) fun spec => ?_
  cases spec with
  | none => exact uses_pure
  | some spec => exact uses_launch name spec

lemma uses_pollControlPlaneMaintenanceReady (hpassive : ∀ o, Passive o → φ o)
    (hwrite : ∀ s, φ (.write (.childState .controlPlane s))) :
    pollControlPlaneMaintenanceReady.Uses φ Benign := by
  have hmono : ∀ {α : Type} {p : SupM α}, p.Uses Passive Benign → p.Uses φ Benign :=
    fun h => h.mono hpassive fun _ => id
  exact uses_bind uses_specFor fun _ => uses_bind (hmono uses_self) fun _ =>
    uses_bind (hmono (uses_pollUntilReady uses_checkControlPlaneMaintenanceReady)) fun _ =>
      uses_bind (uses_call (hwrite _)) fun _ => uses_pure

lemma uses_spawnMaintenance (spec : ChildSpec) :
    (spawnMaintenance spec).Uses (StartingChild .controlPlane) Benign :=
  uses_withLifecycleLock <| uses_bind (uses_startingChild uses_abortRequested) fun _ =>
    uses_ite uses_pure <| uses_ask rfl fun _ =>
      uses_bind (uses_orRaise _) fun _ => uses_ask rfl fun _ =>
        uses_ask trivial fun _ => uses_ask rfl fun _ =>
          uses_bind uses_assignChild fun _ => uses_pure

lemma uses_startControlPlaneMaintenance :
    startControlPlaneMaintenance.Uses (StartingChild .controlPlane) Benign :=
  uses_bind (uses_startingChild uses_self) fun _ => uses_ite
    (uses_bind uses_specFor fun spec => uses_bind (uses_spawnMaintenance spec) fun _ =>
      uses_ite (uses_pollControlPlaneMaintenanceReady (fun _ => StartingChild.of_passive)
        fun _ => trivial) uses_pure)
    uses_pure

lemma uses_ofChild (h : p.Uses (StartingChild name) Benign) : p.Uses Starting Benign :=
  h.mono (fun _ => StartingChild.starting) fun _ => id

/-! ## Functions that stop children -/

lemma uses_dropControlPlane : dropControlPlane.Uses Stopping Benign := by
  refine uses_bind (uses_stopping uses_self) fun s => ?_
  cases s.handles .controlPlane with
  | none => exact uses_pure
  | some cp => exact uses_ask trivial fun _ => uses_call trivial

lemma uses_stopControlPlane : stopControlPlane.Uses Stopping Benign :=
  uses_bind uses_dropControlPlane fun _ => uses_ask trivial fun _ =>
    uses_call trivial

lemma uses_repollMaintenance : repollMaintenance.Uses Stopping Benign :=
  uses_bind (uses_stopping uses_self) fun _ => uses_ite uses_pure
    (uses_bind (uses_pollControlPlaneMaintenanceReady (fun _ => Stopping.of_passive)
      fun _ => trivial) fun _ => uses_pure)

lemma uses_terminateIfAlive (h : Option Handle) : (terminateIfAlive h).Uses Stopping Benign := by
  cases h with
  | none => exact uses_pure
  | some h =>
    exact uses_ask trivial fun _ => uses_ite (uses_ask trivial fun _ => uses_pure) uses_pure

lemma uses_markForRestart {names : List ChildName} :
    (markForRestart names).Uses Stopping Benign := by
  induction names with
  | nil => exact uses_pure
  | cons n rest ih =>
    exact uses_bind (uses_stopping uses_self) fun _ =>
      uses_bind (uses_terminateIfAlive _) fun _ => uses_ask trivial fun _ =>
        uses_ask trivial fun _ => ih

lemma uses_dropStale {name : ChildName} : (dropStale name).Uses Stopping Benign :=
  uses_bind (uses_stopping uses_self) fun _ => uses_bind (uses_terminateIfAlive _) fun _ =>
    uses_ite (uses_call trivial) uses_pure

/-! ## Whole passes -/

/-- The events that neither enter nor leave maintenance nor stop: everything
but the interlock's and the stop. -/
def SupervisorEvent.ordinary : SupervisorEvent → Bool
  | .interlockHeld | .interlockFreedClear | .interlockFreedBlockedWsl
  | .interlockFreedBlockedProbe | .stop => false
  | _ => true

lemma uses_settleBackoff {cfg : SupervisorConfig} {name : ChildName} {now : ℚ}
    {status : ChildStartStatus} :
    (settleBackoff cfg name now status).Uses Settling fun _ => True := by
  have hdelay : ∀ attempt : ℤ, (backoffWithJitter attempt cfg).Uses Settling fun _ => True := by
    intro attempt
    unfold backoffWithJitter
    cases backoffBaseSeconds attempt cfg.backoffInitialSeconds cfg.backoffMaxSeconds with
    | error e => trivial
    | ok base => exact uses_ite uses_pure (uses_ask trivial fun _ => uses_pure)
  cases status with
  | startedReady => exact uses_ask trivial fun _ => uses_pure
  | notReady =>
    exact uses_ask trivial fun _ => uses_ask trivial fun _ =>
      uses_bind (hdelay _) fun _ => uses_ask trivial fun _ => uses_pure
  | guardBlocked | notEligible | skipped | aborted => exact uses_pure

/-- The events of a serving machine. -/
def SupervisorEvent.serving : SupervisorEvent → Bool
  | .childrenReady | .dependencyLost | .restartStorm | .recovered => true
  | _ => false

/-- What recovering children notes, besides polling. -/
def Noting : Op → Prop
  | .alertFire _ _ _ => True
  | .write (.childState _ _) | .write (.restartEpoch _)
  | .write (.lastOptionalRecheckEpoch _) => True
  | o => Passive o

lemma Noting.of_passive (h : Passive o) : Noting o := by
  unfold Noting
  split <;> trivial

lemma Tending.of_noting (h : Noting o) : Tending o := by
  unfold Noting at h
  split at h
  · trivial
  · trivial
  · trivial
  · trivial
  · exact Tending.of_stopping (Stopping.of_passive h)

/-- What the recovery of children needs of an assertion to keep it, the restarts aside. -/
structure Recovering {W : Type} (M : Machine supIface W) (J : W → Prop) (ψ : PyError → Prop) :
    Prop where
  noting : ∀ {α : Type} {p : SupM α}, p.Uses Noting Benign → p.Keeps M J ψ
  locked : ∀ body : SupM Unit, body.Uses Noting Benign → (withLifecycleLock body).Keeps M J ψ
  dispatch : ∀ e : SupervisorEvent, e.serving → (dispatch e).Keeps M J ψ
  mark : ∀ name, (markDownstreamForRestart name).Keeps M J ψ

namespace Recovering

variable {W : Type} {M : Machine supIface W} {J : W → Prop} {ψ : PyError → Prop}
  (hJ : Recovering M J ψ) (setup : Setup) (now : ℚ)

lemma uses (h : p.Uses Passive Benign) : p.Uses Noting Benign :=
  h.mono (fun _ => Noting.of_passive) fun _ => id

include hJ

lemma passive (h : p.Uses Passive Benign) : p.Keeps M J ψ := hJ.noting (uses h)

lemma read : self.Keeps M J ψ := hJ.passive uses_self

lemma call (h : Noting o) : (call o).Keeps M J ψ := hJ.noting (uses_call h)

lemma recordDeath (name : ChildName) : (recordDeath name now).Keeps M J ψ := by
  refine .ite ?_ ?_
  · exact .bind (hJ.call trivial) fun _ => hJ.call trivial
  · refine .bind (.bind (hJ.call trivial) fun _ => hJ.dispatch .dependencyLost rfl) ?_
    exact fun _ => .bind (hJ.call trivial) fun _ => hJ.mark name

lemma noteDeath (name : ChildName) : (noteDeath name now).Keeps M J ψ := by
  refine .bind hJ.read fun s => ?_
  cases s.handles name with
  | none => exact keeps_pure
  | some h =>
    exact .bind (hJ.call trivial) fun _ => .ite keeps_pure <|
      .bind hJ.read fun _ => .ite (hJ.recordDeath now name) keeps_pure

lemma recheckSkippedOptionalChild : (recheckSkippedOptionalChild setup now).Keeps M J ψ := by
  refine hJ.locked _ ?_
  refine uses_bind (uses uses_abortRequested) fun _ => uses_ite uses_pure <| uses_ite ?_ uses_pure
  exact uses_bind (uses uses_self) fun _ => uses_ite
    (uses_ask trivial fun _ => uses_call trivial) uses_pure

lemma stormOnEdge (cfg : SupervisorConfig) : (stormOnEdge cfg now).Keeps M J ψ := by
  have hstorm : (evaluateRestartStorm cfg now).Keeps M J ψ :=
    .bind hJ.read fun _ => .ite
      (.bind (hJ.dispatch .restartStorm rfl) fun _ => .bind hJ.read fun _ =>
        .bind (hJ.call trivial) fun _ => keeps_pure)
      keeps_pure
  exact .bind hJ.read fun _ => .ite keeps_pure <| .bind hstorm fun _ => keeps_pure

lemma settleServing (wasDegraded recoveredFresh : Bool) :
    (settleServing wasDegraded recoveredFresh).Keeps M J ψ :=
  .bind hJ.read fun _ => .ite (.bind hJ.read fun _ =>
    .ite (hJ.dispatch .childrenReady rfl) <|
      .ite (hJ.dispatch .recovered rfl) keeps_pure) keeps_pure

lemma recoverChildren (hrestart : ∀ name, (attemptRestart setup name now).Keeps M J ψ)
    (names : List ChildName) : ∀ fresh, (recoverChildren setup now names fresh).Keeps M J ψ := by
  have hretry : ∀ name, (retryChild setup name now).Keeps M J ψ := by
    intro name
    refine .bind (hJ.passive uses_needsRestart) fun _ => .ite ?_ keeps_pure
    exact .bind hJ.read fun _ => .ite (hrestart name) keeps_pure
  induction names with
  | nil => intro fresh; exact keeps_pure
  | cons name rest ih =>
    intro fresh
    exact .bind (hJ.passive uses_abortRequested) fun _ => .ite keeps_pure <|
      .bind (hJ.noteDeath now name) fun _ => .bind (hretry name) fun _ => ih _

/-- Up to the loop the pass stays in `J`, and after it in `K`. -/
lemma recoverIfServing {K : W → Prop} (hK : Recovering M K ψ) (hJK : ∀ w, J w → K w)
    (hloop : (Supervisor.recoverChildren setup now (recoveryNames setup) false).Leads M J K ψ) :
    (recoverIfServing setup now).Leads M J K ψ := by
  refine Keeps.bindLeads hJ.read hJK fun _ => Leads.ite ?_ (keeps_pure.leads hJK)
  refine Keeps.bindLeads hJ.read hJK fun _ =>
    Keeps.bindLeads (hJ.recheckSkippedOptionalChild setup now) hJK fun _ =>
      .bindKeeps hloop fun r => ?_
  cases r with
  | none => exact keeps_pure
  | some fresh => exact .bind (hK.stormOnEdge now _) fun _ => hK.settleServing _ _

end Recovering

/-- An assertion that reconciliation keeps, the interlock poll and the backoff
aside; `ψ` bounds the exceptions. -/
structure Lasting {W : Type} (M : Machine supIface W) (J : W → Prop) (ψ : PyError → Prop) :
    Prop where
  benign : ∀ e, Benign e → ψ e
  allowed : ∀ w o, Tending o → J w → M.pre w o
  tend : ∀ w o x, Tending o → M.legal w o x → J w → J (M.next w o x)
  dispatch : ∀ e : SupervisorEvent, e.ordinary → (dispatch e).Keeps M J ψ
  startChild : ∀ setup name, (startChild setup name false).Keeps M J ψ
  startMaintenance : startControlPlaneMaintenance.Keeps M J ψ
  locked : ∀ body : SupM Unit, body.Uses Tending Benign → (withLifecycleLock body).Keeps M J ψ

/-- Where every operation of reconciliation keeps the assertion, so do the
starts. -/
lemma Lasting.ofReconciling {t : Thread} {J : World → Prop} (benign : ∀ e, Benign e → ψ e)
    (op : ∀ w o x, Reconciling o → legal t w o x → J w → J ((machine t).next w o x))
    (dispatch : ∀ e : SupervisorEvent, e.ordinary → (Supervisor.dispatch e).Keeps (machine t) J ψ) :
    Lasting (machine t) J ψ := by
  have hreconciling : ∀ {α : Type} {p : SupM α}, p.Uses Reconciling Benign →
      p.Keeps (machine t) J ψ := fun h =>
    (h.mono (fun _ => id) benign).keeps (fun _ _ _ _ => trivial)
      fun w o x ho hw hx => op w o x ho hx hw
  have hstarting : ∀ {α : Type} {p : SupM α}, p.Uses Starting Benign → p.Keeps (machine t) J ψ :=
    fun h => hreconciling (h.mono (fun _ => Reconciling.of_starting) fun _ => id)
  refine ⟨benign, fun _ _ _ _ => trivial, fun w o x ho => op w o x (.of_tending ho), dispatch,
    fun setup name => hstarting (uses_ofChild uses_startChild),
    hstarting (uses_ofChild uses_startControlPlaneMaintenance), fun body hbody => ?_⟩
  refine hreconciling (uses_ask trivial fun _ =>
    uses_andFinally ?_ (uses_call trivial))
  exact hbody.mono (fun _ => Reconciling.of_tending) fun _ => id

namespace Lasting

variable {W : Type} {M : Machine supIface W} {J : W → Prop} {ψ : PyError → Prop}
  (hJ : Lasting M J ψ) (setup : Setup) (now : ℚ)

include hJ

lemma tending (h : p.Uses Tending Benign) : p.Keeps M J ψ :=
  (h.mono (fun _ => id) hJ.benign).keeps hJ.allowed fun w o x ho hw hx => hJ.tend w o x ho hx hw

lemma stopping (h : p.Uses Stopping Benign) : p.Keeps M J ψ :=
  hJ.tending (h.mono (fun _ => Tending.of_stopping) fun _ => id)

lemma passive (h : p.Uses Passive Benign) : p.Keeps M J ψ :=
  hJ.stopping (uses_stopping h)

lemma read : self.Keeps M J ψ := hJ.passive uses_self

lemma call (h : Tending o) : (call o).Keeps M J ψ := hJ.tending (uses_call h)

lemma recovering : Recovering M J ψ where
  noting h := hJ.tending (h.mono (fun _ => Tending.of_noting) fun _ => id)
  locked body h := hJ.locked body (h.mono (fun _ => Tending.of_noting) fun _ => id)
  dispatch e he := hJ.dispatch e (by revert he; cases e <;> decide)
  mark _ := hJ.stopping uses_markForRestart

lemma guardBlockIfDualRuntime (cfg : SupervisorConfig) :
    (guardBlockIfDualRuntime cfg now).Keeps M J ψ := by
  refine .bind hJ.read fun _ => .ite ?_ keeps_pure
  refine .bind (hJ.call trivial) fun _ => .bind (hJ.call trivial) fun action =>
    .ite keeps_pure ?_
  refine .bind (hJ.dispatch _ ?_) fun _ =>
    .bind (hJ.stopping uses_stopControlPlane) fun _ => keeps_pure
  cases action <;> rfl

lemma guardReconcileWhileBlocked (cfg : SupervisorConfig) :
    (guardReconcileWhileBlocked cfg now).Keeps M J ψ := by
  refine .bind hJ.read fun _ => .ite ?_ keeps_pure
  refine .bind (hJ.call trivial) fun _ => .bind (hJ.call trivial) fun action =>
    .ite ?_ ?_
  · exact .bind (hJ.dispatch .guardClear rfl) fun _ =>
      .bind (hJ.call trivial) fun _ => keeps_pure
  · refine .bind (hJ.dispatch _ ?_) fun _ => keeps_pure
    cases action <;> rfl

lemma resumeToServing : (resumeToServing setup).Keeps M J ψ :=
  .bind (hJ.stopping uses_dropControlPlane) fun _ => .bind (hJ.call trivial) fun _ =>
    .bind (hJ.startChild setup _) fun _ => .bind hJ.read fun _ =>
      .ite (hJ.dispatch .childrenReady rfl) keeps_pure

lemma reconcileMaintenance : reconcileMaintenance.Keeps M J ψ := by
  have hlaunch : launchMaintenance.Keeps M J ψ := .bind hJ.startMaintenance fun _ => keeps_pure
  refine .bind hJ.read fun s => ?_
  cases s.handles .controlPlane with
  | none => exact hlaunch
  | some cp =>
    refine .bind hJ.read fun _ => .ite ?_ ?_
    · exact .bind (hJ.stopping uses_stopControlPlane) fun _ => hlaunch
    · exact .bind (hJ.call trivial) fun _ =>
        .ite (hJ.stopping uses_repollMaintenance) hlaunch

lemma recoverChildren
    (hsettle : ∀ cfg name now status, (settleBackoff cfg name now status).Keeps M J ψ)
    (names : List ChildName) : ∀ fresh, (recoverChildren setup now names fresh).Keeps M J ψ := by
  refine hJ.recovering.recoverChildren setup now (fun name => ?_) names
  exact .bind (hJ.passive uses_abortRequested) fun _ => .ite keeps_pure <|
    .bind (hJ.stopping uses_dropStale) fun _ =>
      .bind (hJ.startChild setup _) fun _ => hsettle _ _ _ _

/-! A tick up to its recovery loop stays in `J`, and after it in `K`; what the
loop itself does is a hypothesis, since the backoff is settled there. -/

section Passes

variable {K : W → Prop} (hK : Lasting M K ψ) (hJK : ∀ w, J w → K w)
  (hloop : (Supervisor.recoverChildren setup now (recoveryNames setup) false).Leads
    M J K ψ)

include hK hJK hloop

lemma serve : (serve setup now).Leads M J K ψ := by
  have hrecover := hJ.recovering.recoverIfServing setup now hK.recovering hJK hloop
  exact Keeps.bindLeads hJ.read hJK fun _ => Leads.ite
    (Keeps.bindLeads (hJ.guardBlockIfDualRuntime now _) hJK fun _ =>
      .ite (keeps_pure.leads hJK) hrecover) hrecover

lemma reconcile (event : Option SupervisorEvent) : (reconcile setup now event).Leads M J K ψ := by
  have hserve := hJ.serve setup now hK hJK hloop
  refine Keeps.bindLeads hJ.read hJK fun _ =>
    .ite (hJ.reconcileMaintenance.leads hJK) ?_
  refine Leads.ite ((hJ.resumeToServing setup).leads hJK) <|
    Keeps.bindLeads hJ.read hJK fun _ => Leads.ite ?_ hserve
  exact Keeps.bindLeads (hJ.guardReconcileWhileBlocked now _) hJK fun _ =>
    .ite hserve (keeps_pure.leads hJK)

lemma tick (hpoll : pollInterlock.Keeps M J ψ) : (tick setup now).Leads M J K ψ :=
  Keeps.bindLeads (hJ.passive uses_abortRequested) hJK fun _ =>
    .ite (keeps_pure.leads hJK) <|
      Keeps.bindLeads hpoll hJK fun event => hJ.reconcile setup now hK hJK hloop event

end Passes

lemma start (hpoll : pollInterlock.Keeps M J ψ) : (start setup).Keeps M J ψ := by
  have hwriter : (startWriter setup).Keeps M J ψ :=
    .bind (hJ.passive uses_abortRequested) fun _ => .ite keeps_pure <|
      .bind hpoll fun _ => .ite
        (.bind hJ.startMaintenance fun _ => keeps_pure)
        (.bind (hJ.startChild setup _) fun _ =>
          .ite (hJ.dispatch .childrenReady rfl) keeps_pure)
  have hinfra : (startInfra setup).Keeps M J ψ :=
    .bind (hJ.passive uses_abortRequested) fun _ => .ite keeps_pure <|
      .bind (hJ.startChild setup _) fun _ => .ite hwriter keeps_pure
  exact .bind (hJ.passive uses_sweepOnce) fun _ => .ite
    (.bind (hJ.passive uses_abortRequested) fun _ => .ite keeps_pure <|
      .bind (hJ.startChild setup _) fun _ => hinfra) hinfra

end Lasting

end CivicCast.Supervisor
