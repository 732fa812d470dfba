import CivicCast.Upgrade.Rollback

/-! # Cutover and rollback of the runtime

`cutover-to-native` and `rollback-to-wsl` are one kind of transaction: a list of phases
under the maintenance interlock, with a journal that is saved after each of them and read
by the next call. They differ in their phases, in the labels of the interlock checks, and
in the executable path that a rollback looks for before it changes anything.

`Reply` is what a seam comes back with; one that failed may have taken effect. A
`RuntimeError` is kept apart from other exceptions, since two handlers catch nothing else.

The time stamps, names and postconditions of phases, the unloaded profiles and the
evidence file are left out: nothing that decides a transaction reads them. The error texts
of the source are told apart by their beginnings, which are the constructors here.
-/

namespace CivicCast.Cutover

open Lib (Iface Prog)
open Upgrade (MaintenanceRecord)

/-! ## The journal -/

inductive Direction where
  | cutover
  | rollback
deriving DecidableEq

inductive PhaseStatus where
  | pending
  | done
  | failed
deriving DecidableEq

structure CutoverPhaseRecord where
  phase : ℕ
  status : PhaseStatus
  detail : String
  verifiedOnResume : Option Bool
deriving DecidableEq

inductive Fault where
  | runtimeError (what : String)
  | other (what : String)
deriving DecidableEq

/-- `str(exc)`. -/
def Fault.what : Fault → String
  | runtimeError what => what
  | other what => what

/-- Why the bracket could not be bound. -/
inductive SetupFailure where
  | incompleteOptions
  | optionsDoNotMatch
  | couldNotTake (what : String)
deriving DecidableEq

/-- Why the bracket did not verify. -/
inductive BracketFailure where
  | neverBound
  | unreadable
  | free
  | noRecord
  | ownerMismatch
  | generationDrift
deriving DecidableEq

inductive PreflightFailure where
  | noExePath
  | noSuchFile (path : String)
deriving DecidableEq

/-- An entry of the journal's `errors`. -/
inductive CutoverError where
  | setup (failure : SetupFailure)
  | bracket (before : String) (failure : BracketFailure)
  | phaseFailed (phase : ℕ) (fault : Fault)
  | preflight (failure : PreflightFailure)
  | releaseFailed (what : String)
  | corruptJournal
  | incompleteOpposite
deriving DecidableEq

structure CutoverJournal where
  runId : String
  direction : Direction
  phases : List CutoverPhaseRecord
  errors : List CutoverError
  interlockOwnerRunId : Option String
  interlockGeneration : Option ℕ
  removedRunEntryExePath : Option String
deriving DecidableEq

namespace CutoverJournal

/-- `CutoverJournal.ok`. -/
def ok (j : CutoverJournal) : Bool :=
  !j.phases.isEmpty && j.errors.isEmpty && j.phases.all fun p => p.status = .done

def start (runId : String) (direction : Direction) (exePath : Option String) : CutoverJournal where
  runId := runId
  direction := direction
  phases := []
  errors := []
  interlockOwnerRunId := none
  interlockGeneration := none
  removedRunEntryExePath := exePath

def addError (j : CutoverJournal) (e : CutoverError) : CutoverJournal :=
  { j with errors := j.errors ++ [e] }

@[simp] lemma ok_addError {j : CutoverJournal} {e : CutoverError} : (j.addError e).ok = false := by
  simp [ok, addError]

def upsertPhase (j : CutoverJournal) (record : CutoverPhaseRecord) : CutoverJournal :=
  let phases := j.phases.filter (fun p => p.phase ≠ record.phase) ++ [record]
  { j with phases := phases.mergeSort fun p q => p.phase ≤ q.phase }

def findPhase (j : CutoverJournal) (phase : ℕ) : Option CutoverPhaseRecord :=
  j.phases.find? fun p => p.phase = phase

/-- A phase that was found done passed its check again. -/
def confirmPhase (j : CutoverJournal) (phase : ℕ) : CutoverJournal :=
  let confirm := fun p : CutoverPhaseRecord =>
    if p.phase = phase then { p with verifiedOnResume := some true } else p
  { j with phases := j.phases.map confirm }

end CutoverJournal

/-! ## The seams -/

/-- What is found where the journal should be. -/
inductive Loaded where
  | absent
  | found (journal : CutoverJournal)
  | corrupt
deriving DecidableEq

inductive InterlockStatus where
  | free
  | held
  | unreadable
deriving DecidableEq

structure InterlockRead where
  status : InterlockStatus
  record : Option MaintenanceRecord
deriving DecidableEq

/-- What a phase's action returns; the removal of Run entries also finds a path. -/
structure ActionResult where
  detail : String
  exePath : Option String
deriving DecidableEq

inductive Op where
  | loadJournal
  | preserveCorruptJournal
  | saveJournal (journal : CutoverJournal)
  | uuid
  | takeInterlock (ownerRunId : String)
  | readInterlock
  | releaseInterlock
  | act (phase : ℕ)
  | verify (phase : ℕ)
  | isFile (path : String)

def Op.Res : Op → Type
  | loadJournal => Loaded
  | preserveCorruptJournal => Unit
  | saveJournal _ => Unit
  | uuid => String
  | takeInterlock _ => MaintenanceRecord
  | readInterlock => InterlockRead
  | releaseInterlock => Unit
  | act _ => ActionResult
  | verify _ => Bool × String
  | isFile _ => Bool

inductive Reply (α : Type) where
  | ok (a : α)
  | failed (fault : Fault) (landed : Bool)

abbrev cutoverIface : Iface where
  Op := Op
  Ans := fun o => Reply o.Res

abbrev CutoverM := Prog cutoverIface Fault

def Reply.result {α : Type} : Reply α → CutoverM α
  | ok a => .ret a
  | failed fault _ => .raise fault

def ask (o : Op) : CutoverM o.Res := .call o Reply.result

/-! ## The phases -/

structure PhaseSpec where
  number : ℕ
  /-- What the bracket check before it is called. -/
  before : String
  verifyAfterFreshAction : Bool
  /-- The action may find the path of the executable. -/
  findsExePath : Bool
deriving DecidableEq

inductive Step where
  | phase (spec : PhaseSpec)
  | preflight
deriving DecidableEq

def cutoverSteps : List Step :=
  [.phase ⟨1, "phase 1", false, false⟩,
    .phase ⟨2, "phase 2", true, true⟩,
    .phase ⟨3, "phase 3 (selector write)", false, false⟩,
    .phase ⟨4, "phase 4 (post-selector-mutation re-verify)", false, false⟩,
    .phase ⟨5, "phase 5", false, false⟩]

def rollbackSteps : List Step :=
  [.phase ⟨1, "phase 1", false, false⟩,
    .preflight,
    .phase ⟨2, "phase 2 (selector write)", false, false⟩,
    .phase ⟨3, "phase 3 (post-selector-mutation re-verify)", false, false⟩,
    .phase ⟨4, "phase 4", false, false⟩]

def Direction.steps : Direction → List Step
  | cutover => cutoverSteps
  | rollback => rollbackSteps

structure Args where
  runId : Option String
  forceNew : Bool
  interlockOwner : Option String
  interlockGeneration : Option ℕ
  exePath : Option String
deriving DecidableEq

/-- Neither interlock option is given. -/
def Args.Owned (args : Args) : Prop :=
  args.interlockOwner = none ∧ args.interlockGeneration = none

/-! ## The transaction -/

def saved (j : CutoverJournal) : CutoverM CutoverJournal := do
  ask (.saveJournal j)
  return j

def clearStaleErrors (j : CutoverJournal) (stale : CutoverError → Bool) :
    CutoverM CutoverJournal :=
  let filtered := j.errors.filter fun e => !stale e
  if filtered.length ≠ j.errors.length then saved { j with errors := filtered } else return j

def CutoverError.isSetup : CutoverError → Bool
  | setup _ => true
  | _ => false

def CutoverError.isBracket (before : String) : CutoverError → Bool
  | bracket before' _ => before' = before
  | _ => false

def CutoverError.isPhaseFailed (phase : ℕ) : CutoverError → Bool
  | phaseFailed phase' _ => phase' = phase
  | _ => false

def CutoverError.isPreflight : CutoverError → Bool
  | preflight _ => true
  | _ => false

/-- The detail of a phase says when it was run again. -/
def doneDetail (detail : String) : Option String → String
  | none => detail
  | some failure =>
    detail ++ " (RE-EXECUTED: resume-time verify failed: " ++ failure ++ ")"

/-- A phase is recorded done, and its stale errors go. -/
def recordDone (spec : PhaseSpec) (j : CutoverJournal) (detail : String)
    (resumeFailure : Option String) : CutoverM (CutoverJournal × Bool) := do
  let record :=
    ⟨spec.number, .done, doneDetail detail resumeFailure, resumeFailure.map fun _ => false⟩
  let j := j.upsertPhase record
  let j ← saved { j with errors := j.errors.filter fun e => !e.isPhaseFailed spec.number }
  return (j, true)

def recordFailed (spec : PhaseSpec) (j : CutoverJournal) (fault : Fault)
    (resumeFailure : Option String) : CutoverM (CutoverJournal × Bool) := do
  let j := j.upsertPhase ⟨spec.number, .failed, fault.what, resumeFailure.map fun _ => false⟩
  let j ← saved (j.addError (.phaseFailed spec.number fault))
  return (j, false)

/-- The path that an action found stays, whatever comes of the phase. -/
def noteExePath (spec : PhaseSpec) (result : ActionResult) (j : CutoverJournal) :
    CutoverJournal :=
  match spec.findsExePath, result.exePath with
  | true, some path => if path.isEmpty then j else { j with removedRunEntryExePath := some path }
  | _, _ => j

/-- The second half of `_run_phase`: the action, and the check after it where it is asked
for. -/
def runAction (spec : PhaseSpec) (j : CutoverJournal) (resumeFailure : Option String) :
    CutoverM (CutoverJournal × Bool) := do
  match ← (ask (.act spec.number)).attempt with
  | .error fault => recordFailed spec j fault resumeFailure
  | .ok result =>
    let j := noteExePath spec result j
    if spec.verifyAfterFreshAction then
      match ← (ask (.verify spec.number)).attempt with
      | .error fault => recordFailed spec j fault resumeFailure
      | .ok (confirmed, detail) =>
        if confirmed then recordDone spec j result.detail resumeFailure
        else
          recordFailed spec j
            (.runtimeError ("postcondition not confirmed after action: " ++ detail))
            resumeFailure
    else recordDone spec j result.detail resumeFailure

/-- `_run_phase`: a phase found done is checked again, and run again if it does not hold. -/
def runPhase (spec : PhaseSpec) (j : CutoverJournal) : CutoverM (CutoverJournal × Bool) := do
  match j.findPhase spec.number with
  | none => runAction spec j none
  | some existing =>
    if existing.status = .done then
      let (holds, detail) ← ask (.verify spec.number)
      if holds then
        let j ← saved (j.confirmPhase spec.number)
        return (j, true)
      else runAction spec j (some detail)
    else runAction spec j none

def verifyInterlockBracket (j : CutoverJournal) : CutoverM (Option BracketFailure) := do
  match j.interlockOwnerRunId, j.interlockGeneration with
  | some owner, some generation =>
    let current : InterlockRead ← ask .readInterlock
    match current.status, current.record with
    | .unreadable, _ => return some .unreadable
    | .free, _ => return some .free
    | .held, none => return some .noRecord
    | .held, some record =>
      if record.ownerRunId ≠ owner then return some .ownerMismatch
      else if record.generation ≠ generation then return some .generationDrift
      else return none
  | _, _ => return some .neverBound

def bracketOk (before : String) (j : CutoverJournal) : CutoverM (CutoverJournal × Bool) := do
  match ← verifyInterlockBracket j with
  | some failure =>
    let j ← saved (j.addError (.bracket before failure))
    return (j, false)
  | none =>
    let j ← clearStaleErrors j (CutoverError.isBracket before)
    return (j, true)

/-- The first of two texts that is not empty. -/
def firstGiven (a b : Option String) : Option String :=
  match a with
  | some path => if path.isEmpty then b else some path
  | none => b

/-- `_preflight_rollback_exe_path`, and what `run_rollback` does with its answer. -/
def preflight (args : Args) (j : CutoverJournal) : CutoverM (CutoverJournal × Bool) := do
  match firstGiven j.removedRunEntryExePath args.exePath with
  | none =>
    let j ← saved (j.addError (.preflight .noExePath))
    return (j, false)
  | some candidate =>
    if candidate.isEmpty then
      let j ← saved (j.addError (.preflight .noExePath))
      return (j, false)
    else
      let found : Bool ← ask (.isFile candidate)
      if found then
        let j ← clearStaleErrors j CutoverError.isPreflight
        if j.removedRunEntryExePath ≠ some candidate then
          let j ← saved { j with removedRunEntryExePath := some candidate }
          return (j, true)
        else return (j, true)
      else
        let j ← saved (j.addError (.preflight (.noSuchFile candidate)))
        return (j, false)

/-- The phases, each behind its bracket. The last one leaves the question whether it
succeeded to `ok`. -/
def runSteps (args : Args) : List Step → CutoverJournal → CutoverM (CutoverJournal × Bool)
  | [], j => return (j, true)
  | .preflight :: rest, j => do
    let (j, resolved) ← preflight args j
    if resolved then runSteps args rest j else return (j, false)
  | .phase spec :: rest, j => do
    let (j, bound) ← bracketOk spec.before j
    if bound then
      let (j, done) ← runPhase spec j
      if done || rest.isEmpty then runSteps args rest j else return (j, false)
    else return (j, false)

def bindInterlockBracket (args : Args) (j : CutoverJournal) :
    CutoverM (CutoverJournal × Option SetupFailure) := do
  match args.interlockOwner, args.interlockGeneration with
  | some owner, some generation =>
    if j.interlockOwnerRunId = none then
      let j ← saved { j with
        interlockOwnerRunId := some owner, interlockGeneration := some generation }
      let j ← clearStaleErrors j CutoverError.isSetup
      return (j, none)
    else if j.interlockOwnerRunId ≠ some owner ∨ j.interlockGeneration ≠ some generation then
      return (j, some .optionsDoNotMatch)
    else
      let j ← clearStaleErrors j CutoverError.isSetup
      return (j, none)
  | none, none =>
    if j.interlockOwnerRunId.isSome && !j.ok then
      let j ← clearStaleErrors j CutoverError.isSetup
      return (j, none)
    else
      match ← (ask (.takeInterlock j.runId)).attempt with
      | .error (.runtimeError what) => return (j, some (.couldNotTake what))
      | .error fault => .raise fault
      | .ok record =>
        let j ← saved { j with
          interlockOwnerRunId := some record.ownerRunId
          interlockGeneration := some record.generation }
        let j ← clearStaleErrors j CutoverError.isSetup
        return (j, none)
  | _, _ => return (j, some .incompleteOptions)

/-- The journal to go on with, or the refusal to return. -/
inductive Acquired where
  | use (journal : CutoverJournal)
  | refuse (journal : CutoverJournal)
deriving DecidableEq

def newRunId (args : Args) : CutoverM String :=
  match args.runId with
  | some runId => if runId.isEmpty then ask .uuid else return runId
  | none => ask .uuid

def loadOrStartJournal (direction : Direction) (args : Args) : CutoverM Acquired := do
  match ← ask .loadJournal with
  | .corrupt =>
    ask .preserveCorruptJournal
    let runId ← newRunId args
    return .refuse ((CutoverJournal.start runId direction none).addError .corruptJournal)
  | .absent =>
    let runId ← newRunId args
    return .use (.start runId direction none)
  | .found j =>
    if j.direction ≠ direction then
      let runId ← newRunId args
      if !j.ok && !args.forceNew then
        return .refuse ((CutoverJournal.start runId direction none).addError .incompleteOpposite)
      else return .use (.start runId direction j.removedRunEntryExePath)
    else return .use j

/-- The end of a transaction: in owned mode the interlock is released on full success. -/
def finish (args : Args) (j : CutoverJournal) : CutoverM CutoverJournal := do
  if j.ok && args.interlockOwner.isNone then
    match ← (ask .releaseInterlock).attempt with
    | .ok _ => return j
    | .error (.runtimeError what) => saved (j.addError (.releaseFailed what))
    | .error fault => .raise fault
  else return j

/-- The transaction on the journal that was loaded or started. -/
def transact (direction : Direction) (args : Args) (j : CutoverJournal) :
    CutoverM CutoverJournal := do
  match ← bindInterlockBracket args j with
  | (j, some failure) => saved (j.addError (.setup failure))
  | (j, none) =>
    let (j, completed) ← runSteps args direction.steps j
    if completed then finish args j else return j

def runTransaction (direction : Direction) (args : Args) : CutoverM CutoverJournal := do
  match ← loadOrStartJournal direction args with
  | .refuse j => return j
  | .use j => transact direction args j

def runCutover (args : Args) : CutoverM CutoverJournal := runTransaction .cutover args

def runRollback (args : Args) : CutoverM CutoverJournal := runTransaction .rollback args

def Direction.call : Direction → Args → CutoverM CutoverJournal
  | .cutover => runCutover
  | .rollback => runRollback

lemma Direction.call_eq (direction : Direction) (args : Args) :
    direction.call args = runTransaction direction args := by
  cases direction with
  | cutover | rollback => rfl

end CivicCast.Cutover
