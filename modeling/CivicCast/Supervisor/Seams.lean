import CivicCast.Lib.Prog
import CivicCast.Supervisor.States

/-! # The supervisor's attributes, its injected seams, and their world

`core.Supervisor` performs no I/O of its own: every side effect goes through
an injected seam. Here each seam is an operation of one interface, and so is
every read and write of the instance's attributes, because a second thread may
run between any two of them.

* `Sup` is the instance state, `Write` one attribute assignment.
* `Op`/`Ans` is the interface; `supIface` packages it for `Lib.Prog`.
* `World` adds what the code cannot see: which spawned processes are not yet
  known to be dead, who holds the lifecycle lock, and the trace of the events
  the results speak about.
* `machine t` is the meaning of the operations for thread `t`. Answers are
  demonic wherever the source calls out.

Deliberate scope limits:

* log lines, their latches and the `detail` texts are left out; of
  `_start_blocked` only the membership test is kept, which is all the code
  reads;
* a spawn, an open by pid and a call of the Job Object API may raise; the
  other seams return. A terminate makes its process dead;
* the reconciliation lock is held over a complete `start`, `tick` or
  `restart_control_plane`, so it is not an operation: those calls are the
  atomic steps of a run, and only the lifecycle lock is taken inside them.
-/

namespace CivicCast.Supervisor

open Lib Function

/-! ## Data -/

/-- The D5/D6 parameters with their validation. -/
structure SupervisorConfig where
  backoffInitialSeconds : ℚ := 1
  backoffMaxSeconds : ℚ := 30
  backoffJitterFraction : ℚ := 1 / 5
  restartStormThreshold : ℕ := 5
  restartStormWindowSeconds : ℚ := 600
  gracefulStopDeadlineSeconds : ℚ := 15
  guardIntervalSeconds : ℚ := 30
  optionalChildRecheckSeconds : ℚ := 60
  initial_pos : 0 < backoffInitialSeconds := by norm_num
  initial_le_max : backoffInitialSeconds ≤ backoffMaxSeconds := by norm_num
  jitter_nonneg : 0 ≤ backoffJitterFraction := by norm_num
  jitter_le_one : backoffJitterFraction ≤ 1 := by norm_num
  threshold_pos : 1 ≤ restartStormThreshold := by norm_num
  window_pos : 0 < restartStormWindowSeconds := by norm_num
  deadline_pos : 0 < gracefulStopDeadlineSeconds := by norm_num
  guardInterval_pos : 0 < guardIntervalSeconds := by norm_num
  recheck_pos : 0 < optionalChildRecheckSeconds := by norm_num

abbrev SupervisorConfig.defaults : SupervisorConfig := {}

/-- What the constructor fixes: the configuration and whether the optional
ollama child has a spec provider and a probe. -/
structure Setup where
  config : SupervisorConfig := .defaults
  ollama : Bool := false

/-- The mode of a control plane. Only `normal` is writer-capable. -/
inductive CpMode where
  | normal
  | maintenance
deriving DecidableEq

/-- `InterlockStatus`. -/
inductive InterlockStatus where
  | free
  | held
  | unreadable
deriving DecidableEq

/-- `GuardDecision.action`. -/
inductive GuardAction where
  | start
  | startDegraded
  | refuse
  | blockedProbeUnavailable
  | neverStart
  | refuseInstruct
deriving DecidableEq

/-- `_GUARD_START_ACTIONS`. -/
def GuardAction.authorizes : GuardAction → Bool
  | .start | .startDegraded => true
  | _ => false

/-- A child's launch shape, as far as the orchestration reads it. `mode` is
the control plane's mode in its environment; the name is passed along. -/
structure ChildSpec where
  mode : CpMode := .normal
  readinessBudgetSeconds : ℚ
  readinessStallSeconds : Option ℚ := none
deriving DecidableEq

/-- A process handle: the `proc`-th process this supervisor spawned, or a
process opened by pid. -/
inductive Handle where
  | child (proc pid : ℕ)
  | opened (pid : ℕ)
deriving DecidableEq

def Handle.pid : Handle → ℕ
  | .child _ pid => pid
  | .opened pid => pid

/-- The `GET /health` fields the readiness gates read. `mode` is `none` when
absent or `"unknown"`. -/
structure ControlPlaneHealthProbe where
  statusCode : ℤ
  mode : Option CpMode := none
  workersStarted : Option Bool := none
  mutatingDisabled : Option Bool := none
  modeContract : Option ℤ := none
deriving DecidableEq

/-- `_Backoff`. -/
structure Backoff where
  attempt : ℕ := 0
  nextRetryEpoch : ℚ := 0
deriving DecidableEq

/-- The instance attributes. A time of `none` is `-inf`. -/
@[ext] structure Sup where
  state : SupervisorState
  childStates : ChildName → ChildState
  startBlocked : ChildName → Bool
  handles : ChildName → Option Handle
  backoff : ChildName → Backoff
  restartEpochs : List ℚ
  prevInterlock : Option InterlockStatus
  swept : Bool
  cpMode : Option CpMode
  lastGuardCheckEpoch : Option ℚ
  lastOptionalRecheckEpoch : Option ℚ
  stopIntent : Bool
  jobHandle : Option ℕ
  assignedPids : List ℕ

/-- `Supervisor.__init__`. -/
def Sup.fresh : Sup where
  state := .starting
  childStates := fun n => if n = .ollama then .stopped else .pending
  startBlocked := fun _ => false
  handles := fun _ => none
  backoff := fun _ => {}
  restartEpochs := []
  prevInterlock := none
  swept := false
  cpMode := none
  lastGuardCheckEpoch := none
  lastOptionalRecheckEpoch := none
  stopIntent := false
  jobHandle := none
  assignedPids := []

/-- One attribute assignment. -/
inductive Write where
  | state (s : SupervisorState)
  | childState (n : ChildName) (s : ChildState)
  | startBlocked (n : ChildName) (b : Bool)
  | handle (n : ChildName) (h : Option Handle)
  | backoff (n : ChildName) (b : Backoff)
  | restartEpoch (t : ℚ)
  | prevInterlock (s : InterlockStatus)
  | swept
  | cpMode (m : Option CpMode)
  | lastGuardCheckEpoch (t : ℚ)
  | lastOptionalRecheckEpoch (t : ℚ)
  | stopIntent
  | jobHandle (h : Option ℕ)
  | assignedPid (pid : ℕ)
  | assignedPidsReset

/-- The effect of an assignment. -/
def Write.apply (s : Sup) : Write → Sup
  | .state x => { s with state := x }
  | .childState n x => { s with childStates := update s.childStates n x }
  | .startBlocked n b => { s with startBlocked := update s.startBlocked n b }
  | .handle n h => { s with handles := update s.handles n h }
  | .backoff n b => { s with backoff := update s.backoff n b }
  | .restartEpoch t => { s with restartEpochs := s.restartEpochs ++ [t] }
  | .prevInterlock x => { s with prevInterlock := some x }
  | .swept => { s with swept := true }
  | .cpMode m => { s with cpMode := m }
  | .lastGuardCheckEpoch t => { s with lastGuardCheckEpoch := some t }
  | .lastOptionalRecheckEpoch t => { s with lastOptionalRecheckEpoch := some t }
  | .stopIntent => { s with stopIntent := true }
  | .jobHandle h => { s with jobHandle := h }
  | .assignedPid pid => { s with assignedPids := s.assignedPids ++ [pid] }
  | .assignedPidsReset => { s with assignedPids := [] }

/-! ## The interface -/

/-- Entry and return of the two Job Object operations a shutdown must order;
observations only, they have no effect on the attributes. -/
inductive Mark where
  | assignEnter (pid : ℕ)
  | assignExit (pid : ℕ)
  | closed
deriving DecidableEq

/-- Attribute accesses, locks and seams. `rounds` and `diverge` bound the two
wall-clock loops: a loop asks for a number of rounds and calls `diverge`,
which nothing answers, if it is still going after them. -/
inductive Op where
  | self
  | stopIntent
  | write (w : Write)
  | lock
  | unlock
  | spawn (name : ChildName) (spec : ChildSpec)
  | isAlive (h : Handle)
  | cpuSeconds (h : Handle)
  | terminate (h : Handle)
  | sendCtrlBreak (h : Handle)
  | gracefulStop (h : Handle)
  | openExisting (pid : ℕ)
  | preChildStart
  | evaluateOnce
  | interlockReader
  | shouldAbort
  | clock
  | sleep (seconds : ℚ)
  | rng
  | postgresProbe
  | healthProbe
  | ollamaProbe
  | ollamaSpecProvider
  | postmasterPidReader
  | alertFire (restarts : ℕ) (windowSeconds : ℚ) (threshold : ℕ)
  | createJob
  | configureJob (job : ℕ)
  | assignProcess (job pid : ℕ)
  | isProcessInJob (job pid : ℕ)
  | isProcessInAnyJob (pid : ℕ)
  | closeJob (job : ℕ)
  | openExistingJob
  | listJobProcessIds (job : ℕ)
  | terminateJob (job exitCode : ℕ)
  | mark (m : Mark)
  | rounds
  | diverge

/-- What a raising seam raises: an exception with its `winerror`, if any. -/
abbrev Fault : Type := Option ℤ

/-- The answer of each operation; a probe that raises answers `none`. -/
@[reducible] def Ans : Op → Type
  | .self => Sup
  | .stopIntent => Bool
  | .spawn _ _ => Except Fault Handle
  | .isAlive _ => Bool
  | .cpuSeconds _ => Option ℚ
  | .gracefulStop _ => Except Fault Unit
  | .openExisting _ => Except Fault Unit
  | .preChildStart => GuardAction
  | .evaluateOnce => GuardAction
  | .interlockReader => InterlockStatus
  | .shouldAbort => Bool
  | .clock => ℚ
  | .rng => ℚ
  | .postgresProbe => Option Bool
  | .healthProbe => Option ControlPlaneHealthProbe
  | .ollamaProbe => Option Bool
  | .ollamaSpecProvider => Option ChildSpec
  | .postmasterPidReader => Option ℕ
  | .createJob => Except Fault ℕ
  | .configureJob _ => Except Fault Unit
  | .assignProcess _ _ => Except Fault Unit
  | .isProcessInJob _ _ => Except Fault Bool
  | .isProcessInAnyJob _ => Except Fault Bool
  | .openExistingJob => Option ℕ
  | .listJobProcessIds _ => List ℕ
  | .rounds => ℕ
  | .diverge => Empty
  | _ => Unit

abbrev supIface : Iface := ⟨Op, Ans⟩

/-- The supervisor's code: programs over the interface. -/
abbrev SupM (α : Type) : Type := Prog supIface PyError α

/-- Call one operation. -/
def call (o : Op) : SupM (Ans o) := Prog.lift (I := supIface) o

def self : SupM Sup := call .self

def write (w : Write) : SupM Unit := call (.write w)

/-- A seam's exception propagates. -/
def orRaise {α : Type} : Except Fault α → SupM α
  | .ok a => return a
  | .error code => Prog.raise (.fault code)

/-- Run a body under the lifecycle lock. -/
def withLifecycleLock {α : Type} (body : SupM α) : SupM α := do
  call .lock
  body.andFinally (call .unlock)

/-! ## The world -/

/-- The two threads of the shutdown results. -/
inductive Thread where
  | reconciler
  | stopper
deriving DecidableEq

/-- What the trace records. -/
inductive Event where
  | reading (s : InterlockStatus)
  | spawned (n : ChildName)
  | assignEnter (pid : ℕ)
  | assignExit (pid : ℕ)
  | stopPublished
  | jobClosed
deriving DecidableEq

/-- A spawned process. -/
structure Process where
  handle : Handle
  name : ChildName
  mode : CpMode
deriving DecidableEq

/-- `live` lists the spawned processes not yet known to be dead, so it bounds
the live ones from above. The trace is newest first. -/
structure World where
  sup : Sup
  lock : Option Thread
  live : List Process
  nextProc : ℕ
  trace : List Event

/-- Before the first call. -/
def World.fresh : World where
  sup := Sup.fresh
  lock := none
  live := []
  nextProc := 0
  trace := []

/-- Forget a process. -/
def World.kill (w : World) (h : Handle) : World :=
  { w with live := w.live.filter fun p => p.handle ≠ h }

/-- Is this handle's process possibly alive? A process opened by pid is not
one of ours, so anything goes. -/
def World.mayLive (w : World) : Handle → Bool
  | .child proc pid => w.live.any fun p => p.handle = .child proc pid
  | .opened _ => true

/-- The trace entries of an operation. -/
def observe : (o : Op) → Ans o → List Event
  | .interlockReader, x => [.reading x]
  | .spawn name _, .ok _ => [.spawned name]
  | .write .stopIntent, _ => [.stopPublished]
  | .mark (.assignEnter pid), _ => [.assignEnter pid]
  | .mark (.assignExit pid), _ => [.assignExit pid]
  | .mark .closed, _ => [.jobClosed]
  | _, _ => []

/-- The effect of an operation apart from the trace. -/
def effect (t : Thread) (w : World) : (o : Op) → Ans o → World
  | .write x, _ => { w with sup := x.apply w.sup }
  | .lock, _ => { w with lock := some t }
  | .unlock, _ => { w with lock := none }
  | .spawn name spec, .ok h =>
    { w with live := ⟨h, name, spec.mode⟩ :: w.live, nextProc := w.nextProc + 1 }
  | .isAlive h, false => w.kill h
  | .terminate h, _ => w.kill h
  | _, _ => w

/-- The answers an operation can get. -/
def legal (t : Thread) (w : World) : (o : Op) → Ans o → Prop
  | .self, s => s = w.sup
  | .stopIntent, b => b = w.sup.stopIntent
  | .lock, _ => w.lock = none
  | .unlock, _ => w.lock = some t
  | .spawn _ _, .ok h => h = .child w.nextProc h.pid
  | .isAlive h, true => w.mayLive h = true
  | .rng, (x : ℚ) => 0 ≤ x ∧ x < 1
  | _, _ => True

/-- The meaning of the interface for thread `t`. -/
def machine (t : Thread) : Machine supIface World where
  pre := fun _ _ => True
  legal := legal t
  next := fun w o x => { effect t w o x with trace := observe o x ++ (effect t w o x).trace }

/-! ## A fixed environment

One answer per seam, for the concrete runs that accompany the results: spawns
and job calls succeed, processes stay alive until they are terminated, and
every probe gives the same answer each time. -/

structure Environment where
  reading : InterlockStatus := .free
  guard : GuardAction := .start
  abort : Bool := false
  postgres : Option Bool := some true
  health : Option ControlPlaneHealthProbe := some
    { statusCode := 200, mode := some .maintenance, workersStarted := some false
      mutatingDisabled := some true, modeContract := some 1 }
  clock : ℚ := 0

/-- The environment as a strategy. -/
def Environment.answer (env : Environment) (t : Thread) (w : World) :
    (o : Op) → Option {x : Ans o // legal t w o x}
  | .self => some ⟨w.sup, rfl⟩
  | .stopIntent => some ⟨w.sup.stopIntent, rfl⟩
  | .lock => if h : w.lock = none then some ⟨(), h⟩ else none
  | .unlock => if h : w.lock = some t then some ⟨(), h⟩ else none
  | .spawn _ _ => some ⟨.ok (.child w.nextProc w.nextProc), rfl⟩
  | .isAlive h => if hl : w.mayLive h = true then some ⟨true, hl⟩ else some ⟨false, trivial⟩
  | .cpuSeconds _ => some ⟨none, trivial⟩
  | .gracefulStop _ => some ⟨.ok (), trivial⟩
  | .openExisting _ => some ⟨.ok (), trivial⟩
  | .preChildStart => some ⟨env.guard, trivial⟩
  | .evaluateOnce => some ⟨env.guard, trivial⟩
  | .interlockReader => some ⟨env.reading, trivial⟩
  | .shouldAbort => some ⟨env.abort, trivial⟩
  | .clock => some ⟨env.clock, trivial⟩
  | .rng => some ⟨(0 : ℚ), by norm_num [legal]⟩
  | .postgresProbe => some ⟨env.postgres, trivial⟩
  | .healthProbe => some ⟨env.health, trivial⟩
  | .ollamaProbe => some ⟨none, trivial⟩
  | .ollamaSpecProvider => some ⟨none, trivial⟩
  | .postmasterPidReader => some ⟨some 4000, trivial⟩
  | .createJob => some ⟨.ok 1, trivial⟩
  | .configureJob _ => some ⟨.ok (), trivial⟩
  | .assignProcess _ _ => some ⟨.ok (), trivial⟩
  | .isProcessInJob _ _ => some ⟨.ok true, trivial⟩
  | .isProcessInAnyJob _ => some ⟨.ok true, trivial⟩
  | .openExistingJob => some ⟨none, trivial⟩
  | .listJobProcessIds _ => some ⟨[], trivial⟩
  | .rounds => some ⟨1, trivial⟩
  | .diverge => none
  | .write _ => some ⟨(), trivial⟩
  | .terminate _ => some ⟨(), trivial⟩
  | .sendCtrlBreak _ => some ⟨(), trivial⟩
  | .sleep _ => some ⟨(), trivial⟩
  | .alertFire _ _ _ => some ⟨(), trivial⟩
  | .closeJob _ => some ⟨(), trivial⟩
  | .terminateJob _ _ => some ⟨(), trivial⟩
  | .mark _ => some ⟨(), trivial⟩

end CivicCast.Supervisor
