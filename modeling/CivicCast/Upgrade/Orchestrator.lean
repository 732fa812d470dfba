import CivicCast.Lib.Prog

/-! # The journaled upgrade

An upgrade walks seven steps, each of them an action on the machine followed by a
write of the journal. The orchestrator is a program over its seams: it never looks
at the machine itself. A step that raises goes to the rollback, which decides what to
undo by the phase it was attempting and by the journal it holds in memory.

`Reply` is what a seam or a journal write comes back with. One that failed may have
taken effect before it did; the program cannot tell, and `ask` hides it.

The history of the journal, its time stamps and the texts of details are not kept:
nothing reads them. A sub-failure of a rollback is kept with the error.

`Course` is the shape of `run_upgrade`: an assertion that each of the seven steps carries
on to the next, one that a failing step leaves to the rollback, and what the rollback
makes of it.
-/

namespace CivicCast.Upgrade

open Lib Lib.Prog

/-! ## The journal -/

inductive UpgradePhase where
  | init
  | interlockAcquired
  | writersDrained
  | backupVerified
  | treeLaid
  | migrated
  | healthGreen
  | complete
  | rolledBack
  | haltedRestoreFailed
  | refusedNonRestorable
  | refusedStaleJournal
deriving DecidableEq

namespace UpgradePhase

def rank : UpgradePhase → ℕ
  | init => 0
  | interlockAcquired => 1
  | writersDrained => 2
  | backupVerified => 3
  | treeLaid => 4
  | migrated => 5
  | healthGreen => 6
  | complete => 7
  | rolledBack => 100
  | haltedRestoreFailed => 101
  | refusedNonRestorable => 102
  | refusedStaleJournal => 103

def isTerminal : UpgradePhase → Bool
  | complete => true
  | rolledBack => true
  | haltedRestoreFailed => true
  | refusedNonRestorable => true
  | refusedStaleJournal => true
  | _ => false

end UpgradePhase

structure UpgradePlan where
  oldVersion : String
  newVersion : String
  migrationRestorable : Bool
  operatorAck : Option String
deriving DecidableEq

structure UpgradeContext where
  stateRoot : String
  ownerRunId : String
deriving DecidableEq

/-- What is in the database: what the upgrade found, or what a migration left. -/
inductive Database where
  | preUpgrade
  | migrated
deriving DecidableEq

/-- A backup, with the database it holds. -/
structure BackupRef where
  backupDir : String
  verified : Bool
  restoreDrillOk : Bool
  restoreDrillErrors : List String
  content : Database
deriving DecidableEq

/-- Why a step failed. -/
inductive Reason where
  | raised (what : String)
  | notQuiescent
  | backupUnverified (detail : List String)
  | headUnavailable
  | migrationDidNotLand (found : Option String) (expected : String)
  | notGreen
  | illegalTransition (source target : UpgradePhase)
deriving DecidableEq

/-- What a seam or a step raises. A seam that is not wired is no upgrade failure. -/
inductive Fault where
  | notImplemented
  | operational (reason : Reason)
deriving DecidableEq

/-- What went wrong while a failure was being handled. -/
inductive SubFailure where
  | flipBack (fault : Fault)
  | release (fault : Fault)
  | interlockNotTaken
  | document (fault : Fault)
  | stop (fault : Fault)
deriving DecidableEq

/-- The `error` of a journal. -/
inductive UpgradeError where
  | rolledBack (reason : Reason) (subFailures : List SubFailure)
  | halted (restoreError : Fault) (subFailures : List SubFailure)
  | nonRestorable
  | staleJournal (previous : UpgradePhase)
deriving DecidableEq

structure UpgradeJournal where
  plan : UpgradePlan
  context : UpgradeContext
  phase : UpgradePhase
  preSchemaRevision : Option String
  postSchemaRevision : Option String
  backup : Option BackupRef
  previousJunctionTarget : Option String
  newJunctionTarget : Option String
  filesystemRollback : Bool
  error : Option UpgradeError
deriving DecidableEq

/-- `advance`: a forward move goes to the next boundary, a terminal phase can be
entered from every other one. -/
def advance (journal : UpgradeJournal) (phase : UpgradePhase) : Except Fault UpgradeJournal :=
  if journal.phase.isTerminal then
    .error (.operational (.illegalTransition journal.phase phase))
  else if !phase.isTerminal && phase.rank ≠ journal.phase.rank + 1 then
    .error (.operational (.illegalTransition journal.phase phase))
  else .ok { journal with phase := phase }

structure UpgradeOutcome where
  phase : UpgradePhase
  journal : UpgradeJournal
deriving DecidableEq

/-! ## The seams -/

inductive Op where
  | loadJournal
  | writeJournal (journal : UpgradeJournal)
  | schemaRevision
  | acquireInterlock
  | drainAndVerifyQuiescence
  | backup (backupDir : String)
  | readJunction
  | layTree (newVersion : String)
  | flipJunction (target : String)
  | migrate
  | expectedSchemaHead
  | healthGate
  | releaseInterlock
  | restoreBackup (backup : BackupRef)
  | writeRecoveryDocument
  | stopService

def Op.Res : Op → Type
  | loadJournal => Option UpgradeJournal
  | writeJournal _ => Unit
  | schemaRevision => Option String
  | acquireInterlock => Unit
  | drainAndVerifyQuiescence => Bool
  | backup _ => BackupRef
  | readJunction => Option String
  | layTree _ => String
  | flipJunction _ => Unit
  | migrate => Unit
  | expectedSchemaHead => Option String
  | healthGate => Bool
  | releaseInterlock => Unit
  | restoreBackup _ => Unit
  | writeRecoveryDocument => Unit
  | stopService => Unit

/-- How a call comes back: a failed one took effect or not. -/
inductive Reply (α : Type) where
  | ok (a : α)
  | failed (fault : Fault) (landed : Bool)

abbrev upgradeIface : Iface where
  Op := Op
  Ans := fun o => Reply o.Res

abbrev UpgradeM := Prog upgradeIface Fault

/-- The result of a call, as the program sees it. -/
def Reply.result {α : Type} : Reply α → UpgradeM α
  | ok a => .ret a
  | failed fault _ => .raise fault

/-- One call of a seam or of the journal's file. -/
def ask (o : Op) : UpgradeM o.Res := .call o Reply.result

/-! ## The sequence -/

/-- The seams of a run: whether it can undo the payload on disk, and whether it knows
the schema head to expect. -/
structure Seams where
  filesystemRollback : Bool
  hasExpectedSchemaHead : Bool

/-- Advance the journal one boundary and write it. -/
def persist (journal : UpgradeJournal) (phase : UpgradePhase)
    (update : UpgradeJournal → UpgradeJournal) : UpgradeM UpgradeJournal := do
  match advance journal phase with
  | .error fault => .raise fault
  | .ok journal => do
    ask (.writeJournal (update journal))
    return update journal

def contained (step : UpgradeM Unit) (failure : Fault → SubFailure) :
    UpgradeM (List SubFailure) := do
  match ← step.attempt with
  | .ok () => return []
  | .error fault => return [failure fault]

def halt (journal : UpgradeJournal) (restoreError : Fault) : UpgradeM UpgradeOutcome := do
  let document ← contained (ask .writeRecoveryDocument) .document
  let stop ← contained (ask .stopService) .stop
  let journal ← persist journal .haltedRestoreFailed fun journal =>
    { journal with error := some (.halted restoreError (document ++ stop)) }
  return { phase := journal.phase, journal := journal }

/-- Flip the junction back to the recorded target, if the journal says that it moved. -/
def flipBack (journal : UpgradeJournal) : UpgradeM (List SubFailure) :=
  match journal.previousJunctionTarget with
  | some target =>
    if UpgradePhase.treeLaid.rank ≤ journal.phase.rank then
      contained (ask (.flipJunction target)) .flipBack
    else return []
  | none => return []

/-- Release the interlock, if the journal says that this run took it. -/
def releaseOwn (journal : UpgradeJournal) : UpgradeM (List SubFailure) :=
  if UpgradePhase.interlockAcquired.rank ≤ journal.phase.rank then
    contained (ask .releaseInterlock) .release
  else return [.interlockNotTaken]

/-- The undoing of the file system and the interlock, and the terminal phase. -/
def unwind (journal : UpgradeJournal) (reason : Reason) : UpgradeM UpgradeOutcome := do
  let flip ← flipBack journal
  let release ← releaseOwn journal
  let journal ← persist journal .rolledBack fun journal =>
    { journal with error := some (.rolledBack reason (flip ++ release)) }
  return { phase := journal.phase, journal := journal }

def restore (journal : UpgradeJournal) : UpgradeM Unit :=
  match journal.backup with
  | none => .raise (.operational (.raised "no backup recorded"))
  | some backup => ask (.restoreBackup backup)

def rollback (journal : UpgradeJournal) (reason : Reason) (attempting : UpgradePhase) :
    UpgradeM UpgradeOutcome :=
  if UpgradePhase.migrated.rank ≤ attempting.rank then do
    match ← (restore journal).attempt with
    | .error restoreError => halt journal restoreError
    | .ok () => unwind journal reason
  else unwind journal reason

/-- One stretch of the forward sequence: what it raises goes to the rollback, with the
journal as it was and the phase that was attempted. -/
def stage {α : Type} (journal : UpgradeJournal) (attempting : UpgradePhase) (body : UpgradeM α)
    (next : α → UpgradeM UpgradeOutcome) : UpgradeM UpgradeOutcome := do
  match ← body.attempt with
  | .ok a => next a
  | .error .notImplemented => .raise .notImplemented
  | .error (.operational reason) => rollback journal reason attempting

def commit (journal : UpgradeJournal) : UpgradeM UpgradeOutcome :=
  if journal.phase.rank < UpgradePhase.complete.rank then
    stage journal .complete
      (do
        ask .releaseInterlock
        persist journal .complete id)
      fun journal => return { phase := journal.phase, journal := journal }
  else return { phase := journal.phase, journal := journal }

/-- Step 6. -/
def reachHealth (journal : UpgradeJournal) : UpgradeM UpgradeOutcome :=
  if journal.phase.rank < UpgradePhase.healthGreen.rank then
    stage journal .healthGreen
      (do
        let green : Bool ← ask .healthGate
        if green = false then .raise (.operational .notGreen)
        else persist journal .healthGreen id)
      commit
  else commit journal

/-- The check that the migration landed, where the head to expect is known. -/
def verifyHead (seams : Seams) (postRevision : Option String) : UpgradeM Unit :=
  if seams.hasExpectedSchemaHead then do
    match ← ask .expectedSchemaHead with
    | none => .raise (.operational .headUnavailable)
    | some expected =>
      if postRevision ≠ some expected then
        .raise (.operational (.migrationDidNotLand postRevision expected))
      else return ()
  else return ()

/-- Step 5. -/
def migrateSchema (seams : Seams) (journal : UpgradeJournal) : UpgradeM UpgradeOutcome :=
  if journal.phase.rank < UpgradePhase.migrated.rank then
    stage journal .migrated
      (do
        ask .migrate
        let postRevision ← ask .schemaRevision
        verifyHead seams postRevision
        persist journal .migrated fun journal =>
          { journal with postSchemaRevision := postRevision })
      reachHealth
  else reachHealth journal

/-- The second half of step 4: the previous target is in the journal that is written
before the flip, and in the one the rollback gets. -/
def flipTree (seams : Seams) (previousTarget : Option String) (journal : UpgradeJournal) :
    UpgradeM UpgradeOutcome :=
  stage journal .treeLaid
    (do
      ask (.writeJournal journal)
      let newTarget ← ask (.layTree journal.plan.newVersion)
      ask (.flipJunction newTarget)
      persist journal .treeLaid fun journal =>
        { journal with
          previousJunctionTarget := previousTarget
          newJunctionTarget := some newTarget })
    (migrateSchema seams)

/-- Step 4. -/
def layNewTree (seams : Seams) (journal : UpgradeJournal) : UpgradeM UpgradeOutcome :=
  if journal.phase.rank < UpgradePhase.treeLaid.rank then
    stage journal .treeLaid (ask .readJunction) fun previousTarget =>
      flipTree seams previousTarget { journal with previousJunctionTarget := previousTarget }
  else migrateSchema seams journal

def backupDir (journal : UpgradeJournal) : String :=
  journal.context.stateRoot ++ "/backups/pre-" ++ journal.plan.newVersion

/-- Step 3. -/
def takeBackup (seams : Seams) (journal : UpgradeJournal) : UpgradeM UpgradeOutcome :=
  if journal.phase.rank < UpgradePhase.backupVerified.rank then
    stage journal .backupVerified
      (do
        let backup ← ask (.backup (backupDir journal))
        if backup.verified && backup.restoreDrillOk then
          persist journal .backupVerified fun journal => { journal with backup := some backup }
        else .raise (.operational (.backupUnverified backup.restoreDrillErrors)))
      (layNewTree seams)
  else layNewTree seams journal

/-- Step 2. -/
def drainWriters (seams : Seams) (journal : UpgradeJournal) : UpgradeM UpgradeOutcome :=
  if journal.phase.rank < UpgradePhase.writersDrained.rank then
    stage journal .writersDrained
      (do
        let drained : Bool ← ask .drainAndVerifyQuiescence
        if drained = false then .raise (.operational .notQuiescent)
        else persist journal .writersDrained id)
      (takeBackup seams)
  else takeBackup seams journal

/-- `_drive_forward`, from step 1. -/
def driveForward (seams : Seams) (journal : UpgradeJournal) : UpgradeM UpgradeOutcome :=
  if journal.phase.rank < UpgradePhase.interlockAcquired.rank then
    stage journal .interlockAcquired
      (do
        ask .acquireInterlock
        persist journal .interlockAcquired id)
      (drainWriters seams)
  else drainWriters seams journal

def freshJournal (plan : UpgradePlan) (context : UpgradeContext) (seams : Seams) :
    UpgradeJournal where
  plan := plan
  context := context
  phase := .init
  preSchemaRevision := none
  postSchemaRevision := none
  backup := none
  previousJunctionTarget := none
  newJunctionTarget := none
  filesystemRollback := seams.filesystemRollback
  error := none

/-- The fresh half of `run_upgrade`. -/
def beginUpgrade (plan : UpgradePlan) (context : UpgradeContext) (seams : Seams) :
    UpgradeM UpgradeOutcome :=
  let journal := freshJournal plan context seams
  if plan.migrationRestorable = false ∧ (plan.operatorAck.getD "").isEmpty then do
    let journal ← persist journal .refusedNonRestorable fun journal =>
      { journal with error := some .nonRestorable }
    return { phase := journal.phase, journal := journal }
  else do
    ask (.writeJournal journal)
    let preRevision ← ask .schemaRevision
    let journal := { journal with preSchemaRevision := preRevision }
    ask (.writeJournal journal)
    driveForward seams journal

/-- `run_upgrade`: a journal that is under way is resumed, a terminal failure is left
alone, and everything else starts fresh. -/
def runUpgrade (plan : UpgradePlan) (context : UpgradeContext) (seams : Seams) :
    UpgradeM UpgradeOutcome := do
  match ← ask .loadJournal with
  | none => beginUpgrade plan context seams
  | some existing =>
    if existing.phase.isTerminal = false then driveForward seams existing
    else if existing.phase ≠ .complete then
      let refusal := { existing with
        phase := .refusedStaleJournal
        error := some (.staleJournal existing.phase) }
      return { phase := refusal.phase, journal := refusal }
    else beginUpgrade plan context seams

/-! ## Rules -/

section Rules

variable {W : Type} {M : Machine upgradeIface W} {w : W} {R : W → Prop}

/-- An open journal advances to the next phase, and to a terminal one from anywhere. -/
lemma advance_ok {journal : UpgradeJournal} {phase : UpgradePhase}
    (hopen : journal.phase.isTerminal = false)
    (hphase : phase.isTerminal = true ∨ phase.rank = journal.phase.rank + 1) :
    advance journal phase = .ok { journal with phase := phase } := by
  unfold advance
  rw [if_neg (by simp [hopen]), if_neg]
  rcases hphase with hterminal | hrank
  · simp [hterminal]
  · simp [hrank]

lemma persist_wp {journal next : UpgradeJournal} {phase : UpgradePhase}
    {update : UpgradeJournal → UpgradeJournal} {K : UpgradeJournal → W → Prop}
    (hopen : journal.phase.isTerminal = false)
    (hphase : phase.isTerminal = true ∨ phase.rank = journal.phase.rank + 1)
    (hnext : update { journal with phase := phase } = next)
    (hwrite : (ask (.writeJournal next)).wp M (Either (fun _ => K next) R) w) :
    (persist journal phase update).wp M (Either K R) w := by
  unfold persist
  rw [advance_ok hopen hphase]
  dsimp only
  rw [hnext]
  exact either_bind hwrite fun _ _ h => h

lemma contained_wp {step : UpgradeM Unit} {failure : Fault → SubFailure}
    {Q : Except Fault (List SubFailure) → W → Prop} {K : W → Prop}
    (hstep : step.wp M (Either (fun _ => K) R) w) (hok : ∀ w', K w' → Q (.ok []) w')
    (hfailed : ∀ fault w', R w' → Q (.ok [failure fault]) w') :
    (contained step failure).wp M Q w := by
  unfold contained
  rw [wp_bind, wp_attempt]
  refine wp_mono ?_ hstep
  intro r w' hr
  cases r with
  | ok a => exact hok w' hr
  | error fault => exact hfailed fault w' hr

lemma verifyHead_wp (hask : (ask .expectedSchemaHead).wp M (Either (fun _ w' => w' = w) R) w)
    (hR : R w) {seams : Seams} {postRevision : Option String} :
    (verifyHead seams postRevision).wp M (Either (fun _ w' => w' = w) R) w := by
  unfold verifyHead
  split
  · refine either_bind hask ?_
    rintro expected w' rfl
    cases expected with
    | none => exact hR
    | some expected =>
      dsimp only
      split
      · exact hR
      · exact rfl
  · exact rfl

end Rules

/-! ## The course of a run -/

/-- Step 4 once the junction has been read. -/
abbrev flipSteps (j : UpgradeJournal) : UpgradeM UpgradeJournal := do
  ask (.writeJournal j)
  let newTarget ← ask (.layTree j.plan.newVersion)
  ask (.flipJunction newTarget)
  persist j .treeLaid fun journal =>
    { journal with
      previousJunctionTarget := j.previousJunctionTarget
      newJunctionTarget := some newTarget }

abbrev migrateSteps (seams : Seams) (j : UpgradeJournal) : UpgradeM UpgradeJournal := do
  ask .migrate
  let postRevision ← ask .schemaRevision
  verifyHead seams postRevision
  persist j .migrated fun journal => { journal with postSchemaRevision := postRevision }

abbrev commitSteps (j : UpgradeJournal) : UpgradeM UpgradeJournal := do
  ask .releaseInterlock
  persist j .complete id

/-- The steps carry `At` on, with the journal in memory, and `Seen` once the junction has been
read; one that fails leaves `Back`, with the phase it attempted, and the rollback goes on from
there to `Q`. -/
structure Course {W : Type} (M : Machine upgradeIface W) (At Seen : UpgradeJournal → W → Prop)
    (Back : UpgradePhase → UpgradeJournal → W → Prop)
    (Q : Except Fault UpgradeOutcome → W → Prop) : Prop where
  underway : ∀ {j l}, At j l → j.phase.isTerminal = false
  acquire : ∀ {j l}, At j l → j.phase = .init →
    (do
      ask .acquireInterlock
      persist j .interlockAcquired id : UpgradeM UpgradeJournal).wp M
      (Either (fun j' l' => At j' l' ∧ j'.phase = .interlockAcquired)
        (Back .interlockAcquired j)) l
  drain : ∀ {j l}, At j l → j.phase = .interlockAcquired →
    (do
      let drained : Bool ← ask .drainAndVerifyQuiescence
      if drained = false then .raise (.operational .notQuiescent)
      else persist j .writersDrained id : UpgradeM UpgradeJournal).wp M
      (Either (fun j' l' => At j' l' ∧ j'.phase = .writersDrained) (Back .writersDrained j)) l
  backUp : ∀ {j l}, At j l → j.phase = .writersDrained →
    (do
      let backup ← ask (.backup (backupDir j))
      if backup.verified && backup.restoreDrillOk then
        persist j .backupVerified fun journal => { journal with backup := some backup }
      else .raise (.operational (.backupUnverified backup.restoreDrillErrors)) :
        UpgradeM UpgradeJournal).wp M
      (Either (fun j' l' => At j' l' ∧ j'.phase = .backupVerified) (Back .backupVerified j)) l
  look : ∀ {j l}, At j l → j.phase = .backupVerified →
    (ask .readJunction).wp M
      (Either (fun target l' => Seen { j with previousJunctionTarget := target } l')
        (Back .treeLaid j)) l
  flip : ∀ {j l}, Seen j l → j.phase = .backupVerified → (flipSteps j).wp M
      (Either (fun j' l' => At j' l' ∧ j'.phase = .treeLaid) (Back .treeLaid j)) l
  migrate : ∀ {j l} (seams : Seams), At j l → j.phase = .treeLaid →
    (migrateSteps seams j).wp M
      (Either (fun j' l' => At j' l' ∧ j'.phase = .migrated) (Back .migrated j)) l
  health : ∀ {j l}, At j l → j.phase = .migrated →
    (do
      let green : Bool ← ask .healthGate
      if green = false then .raise (.operational .notGreen)
      else persist j .healthGreen id : UpgradeM UpgradeJournal).wp M
      (Either (fun j' l' => At j' l' ∧ j'.phase = .healthGreen) (Back .healthGreen j)) l
  commit : ∀ {j l}, At j l → j.phase = .healthGreen → (commitSteps j).wp M
      (Either (fun j' l' => Q (.ok ⟨j'.phase, j'⟩) l') (Back .complete j)) l
  raised : ∀ {a j l} (fault : Fault), Back a j l → Q (.error fault) l
  back : ∀ {a j l} (reason : Reason), Back a j l → (rollback j reason a).wp M Q l

namespace Course

variable {W : Type} {M : Machine upgradeIface W} {At Seen : UpgradeJournal → W → Prop}
  {Back : UpgradePhase → UpgradeJournal → W → Prop} {Q : Except Fault UpgradeOutcome → W → Prop}
  {j : UpgradeJournal} {l : W} {seams : Seams}

variable (h : Course M At Seen Back Q)
include h

lemma stage_wp {α : Type} {attempting : UpgradePhase} {body : UpgradeM α}
    {next : α → UpgradeM UpgradeOutcome} {K : α → W → Prop}
    (hbody : body.wp M (Either K (Back attempting j)) l)
    (hnext : ∀ a l', K a l' → (next a).wp M Q l') : (stage j attempting body next).wp M Q l := by
  unfold stage
  rw [wp_bind, wp_attempt]
  refine wp_mono ?_ hbody
  intro r l' hr
  cases r with
  | ok a => exact hnext a l' hr
  | error fault =>
    cases fault with
    | notImplemented => exact h.raised .notImplemented hr
    | operational reason => exact h.back reason hr

variable (hat : At j l)
include hat

lemma phase_cases :
    j.phase = .init ∨ j.phase = .interlockAcquired ∨ j.phase = .writersDrained ∨
      j.phase = .backupVerified ∨ j.phase = .treeLaid ∨ j.phase = .migrated ∨
      j.phase = .healthGreen := by
  have hopen := h.underway hat
  revert hopen
  cases j.phase <;> simp [UpgradePhase.isTerminal]

lemma commit_wp (hphase : j.phase = .healthGreen) : (Upgrade.commit j).wp M Q l := by
  unfold Upgrade.commit
  rw [if_pos (by rw [hphase]; decide)]
  exact h.stage_wp (h.commit hat hphase) fun j' l' hdone => hdone

lemma reachHealth_wp (hphase : j.phase = .migrated ∨ j.phase = .healthGreen) :
    (reachHealth j).wp M Q l := by
  unfold reachHealth
  rcases hphase with hphase | hphase
  · rw [if_pos (by rw [hphase]; decide)]
    exact h.stage_wp (h.health hat hphase) fun j' l' hj => h.commit_wp hj.1 hj.2
  · rw [if_neg (by rw [hphase]; decide)]
    exact h.commit_wp hat hphase

lemma migrateSchema_wp
    (hphase : j.phase = .treeLaid ∨ j.phase = .migrated ∨ j.phase = .healthGreen) :
    (migrateSchema seams j).wp M Q l := by
  unfold migrateSchema
  rcases hphase with hphase | hphase
  · rw [if_pos (by rw [hphase]; decide)]
    exact h.stage_wp (h.migrate seams hat hphase) fun j' l' hj =>
      h.reachHealth_wp hj.1 (.inl hj.2)
  · have hpast : ¬ j.phase.rank < UpgradePhase.migrated.rank := by
      rcases hphase with hphase | hphase <;> rw [hphase] <;> decide
    rw [if_neg hpast]
    exact h.reachHealth_wp hat hphase

lemma layNewTree_wp
    (hphase : j.phase = .backupVerified ∨ j.phase = .treeLaid ∨ j.phase = .migrated ∨
      j.phase = .healthGreen) : (layNewTree seams j).wp M Q l := by
  unfold layNewTree
  rcases hphase with hphase | hphase
  · rw [if_pos (by rw [hphase]; decide)]
    refine h.stage_wp (h.look hat hphase) ?_
    intro target l' hseen
    exact h.stage_wp (h.flip hseen hphase) fun j' l'' hj => h.migrateSchema_wp hj.1 (.inl hj.2)
  · have hpast : ¬ j.phase.rank < UpgradePhase.treeLaid.rank := by
      rcases hphase with hphase | hphase | hphase <;> rw [hphase] <;> decide
    rw [if_neg hpast]
    exact h.migrateSchema_wp hat hphase

lemma takeBackup_wp
    (hphase : j.phase = .writersDrained ∨ j.phase = .backupVerified ∨ j.phase = .treeLaid ∨
      j.phase = .migrated ∨ j.phase = .healthGreen) : (takeBackup seams j).wp M Q l := by
  unfold takeBackup
  rcases hphase with hphase | hphase
  · rw [if_pos (by rw [hphase]; decide)]
    exact h.stage_wp (h.backUp hat hphase) fun j' l' hj => h.layNewTree_wp hj.1 (.inl hj.2)
  · have hpast : ¬ j.phase.rank < UpgradePhase.backupVerified.rank := by
      rcases hphase with hphase | hphase | hphase | hphase <;> rw [hphase] <;> decide
    rw [if_neg hpast]
    exact h.layNewTree_wp hat hphase

lemma drainWriters_wp (hphase : j.phase ≠ .init) : (drainWriters seams j).wp M Q l := by
  unfold drainWriters
  rcases h.phase_cases hat with hinit | hacquired | hlater
  · exact absurd hinit hphase
  · rw [if_pos (by rw [hacquired]; decide)]
    exact h.stage_wp (h.drain hat hacquired) fun j' l' hj => h.takeBackup_wp hj.1 (.inl hj.2)
  · have hpast : ¬ j.phase.rank < UpgradePhase.writersDrained.rank := by
      rcases hlater with hlater | hlater | hlater | hlater | hlater <;> rw [hlater] <;> decide
    rw [if_neg hpast]
    exact h.takeBackup_wp hat hlater

lemma driveForward_wp : (driveForward seams j).wp M Q l := by
  unfold driveForward
  by_cases hinit : j.phase = .init
  · rw [if_pos (by rw [hinit]; decide)]
    refine h.stage_wp (h.acquire hat hinit) ?_
    intro j' l' hj
    exact h.drainWriters_wp hj.1 (by rw [hj.2]; decide)
  · have hpast : ¬ j.phase.rank < UpgradePhase.interlockAcquired.rank := by
      have hcases := h.phase_cases hat
      rcases hcases with hp | hp | hp | hp | hp | hp | hp
      · exact absurd hp hinit
      all_goals rw [hp]; decide
    rw [if_neg hpast]
    exact h.drainWriters_wp hat hinit

end Course

end CivicCast.Upgrade
