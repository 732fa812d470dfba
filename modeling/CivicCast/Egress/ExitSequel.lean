import CivicCast.Egress.DaemonRuns

/-! # What follows a worker's exit

`_poll_process` and `_service_backoff_relaunch` decide about a worker that is gone and then make
the start they decided on. Here both are cut in front of that start: `observeExit` is the poll up
to the exit it finds, `exitSequel` and `backoffSequel` return the decision as a `Sequel`, and
`carryOut` makes its start. `pollProcess_eq` and `serviceBackoffRelaunch_eq` put the parts together
again, so that a result about the decisions is one about the daemon's polls.
-/

namespace CivicCast.Egress

namespace Daemon

open Lib Lib.Prog Playout Prog

/-! ## Exits and what follows them -/

/-- A worker's exit, as `_poll_process` sees it. -/
structure Exit where
  code : ℤ
  uptime : Option ℚ
deriving DecidableEq

namespace Exit

def slow (x : Exit) : Bool := decide (x.code ∈ slowStartExitCodes)

/-- A non-zero exit other than a slow start. -/
def counts (x : Exit) : Bool := decide (x.code ≠ 0) && !x.slow

/-- Up for a minute or more, as far as `_relaunch_after_crash` cares. -/
def long (x : Exit) : Bool :=
  (x.uptime.any fun t => decide (restartStreakResetUptimeSeconds ≤ t)) && !x.slow

end Exit

/-- What the daemon does about a worker that is gone. -/
inductive Sequel where
  /-- `_begin_relaunch` starts. -/
  | relaunch (a : StartArgs)
  /-- `_relaunch_slate_eos_onto_due_program` starts. -/
  | renew (a : StartArgs)
  /-- The pinned reload starts. -/
  | restart (a : StartArgs)
  /-- The cooldown is not over, or there is nothing to do. -/
  | wait
  /-- The channel stays down. -/
  | down
deriving DecidableEq

/-- The relaunch, if it is one. -/
def Sequel.relaunched : Sequel → Option StartArgs
  | .relaunch a => some a
  | .renew a => some a
  | _ => none

variable (setup : Setup)

def carryOut : Sequel → DaemonM Unit
  | .relaunch a => do
    start setup a
    assist
  | .renew a => start setup a
  | .restart a => start setup a
  | .wait => return ()
  | .down => return ()

/-- `_begin_relaunch`, up to its start. -/
def beginSequel (previousState : Option EgressState) (proofEventId : Option ℕ) :
    DaemonM Sequel := do
  let d ← self
  let force := decide (liveSourceFailureFallbackStreak ≤ d.restartStreak.getD 0)
    && setup.fallbackProvider
  writeState .starting proofEventId none
  appendHealth
  return .relaunch { previousState := previousState, forceFallbackSlate := force,
                     slateFirst := true }

/-- `_relaunch_after_crash`, up to its start. -/
def crashSequel (row : StateRow) (x : Exit) : DaemonM Sequel := do
  let now : ℚ ← call .monotonic
  let d ← self
  let (streak, incrAt) := crashStreak d x.uptime x.code now
  modify fun d => { d with restartStreak := some streak, prerollTimeoutStreakIncrAt := incrAt }
  let event ← proveCrash streak
  let allowed ← restartLatchShouldRunNow
  if allowed then beginSequel setup (some row.state) (some event)
  else do
    backOff row.state (some event)
    return .wait

/-- `_service_backoff_relaunch`, up to its start. -/
def backoffSequel : DaemonM Sequel := do
  let d ← self
  match d.backoff with
  | none => return .wait
  | some pin =>
    let queued ← hasPendingTerminalCommand
    if queued then return .wait
    else if d.process.isSome then do
      modify fun d => { d with backoff := none }
      return .wait
    else
      let now ← restartLatchShouldRunNow
      if now then
        modify fun d => { d with backoff := none }
        let state ← readState
        beginSequel setup pin.previousState (state.bind (·.currentProofEventId))
      else return .wait

/-- The slate is renewed, or the due program started; inside the cooldown, later. -/
def slateSequel (row : StateRow) (force : Bool) (plan : Option SourcePlan) (startedAt : Option ℚ) :
    DaemonM Sequel := do
  let now ← restartLatchShouldRunNow
  if now then
    writeState .starting none none
    return .renew { previousState := some row.state, forceFallbackSlate := force,
                    resolvedPlan := plan, planResolutionStartedAt := startedAt }
  else do
    backOff row.state none
    return .wait

/-- `_relaunch_slate_eos_onto_due_program`, up to its start; `none` when it declines. -/
def slateEosSequel : DaemonM (Option Sequel) := do
  match ← readState with
  | none => return none
  | some row =>
    if row.state ≠ .fallbackSlate then return none
    else
      let queued ← hasPendingTerminalCommand
      let d ← self
      if queued || decide (slateEosRelaunchMaxConsecutive ≤ d.slateEosRelaunches.getD 0)
      then return none
      else if decide (liveSourceFailureFallbackStreak ≤ d.restartStreak.getD 0)
          && setup.fallbackProvider
      then do
        let s ← slateSequel row true none none
        return some s
      else
        let now : ℚ ← call .monotonic
        match ← catchSourcePrepare (nextSourcePlan setup) with
        | some (some plan) =>
          if plan.channelId ≠ setup.channelId then return none
          else
            modify fun d => { d with slateEosRelaunches := some (d.slateEosRelaunches.getD 0 + 1) }
            let s ← slateSequel row false (some plan) (some now)
            return some s
        | _ => return none

/-- A slate that reached its end may be relaunched; a drained channel is not. -/
def slateEosUnlessDrained (draining : Bool) : DaemonM (Option Sequel) :=
  if draining then return none else slateEosSequel setup

/-- An exit that is no clean exit of an active channel. -/
def downSequel (x : Exit) (d : Attrs) (queued : Bool) : DaemonM Sequel := do
  if x.code = 0 || d.draining || queued then
    match ← slateEosUnlessDrained setup d.draining with
    | some s => return s
    | none =>
      settleDown .stopped
      return .down
  else
    modify fun d => { d with pendingReload := none }
    let state ← readState
    match state.filter fun s =>
        decide (s.state = .onAir ∨ s.state = .fallbackSlate ∨ s.state = .transitioning) with
    | some row => crashSequel setup row x
    | none =>
      settleDown .error
      return .down

/-- The pinned reload's start. -/
def pinSequel (pin : Pin) : DaemonM Sequel := do
  writeState .starting none none
  let held ← self
  modify fun d => { d with restartPlan := none }
  return .restart { previousState := pin.previousState, preparedReload := held.restartPlan }

/-- `_poll_process` on an exit, up to its start. -/
def exitSequel (x : Exit) : DaemonM Sequel := do
  let (d, queued) ← clearExited
  let honoured := !(x.code ≠ 0 && !d.reloadKill || d.draining || queued)
  match if honoured then d.pendingReload else none with
  | some pin => pinSequel pin
  | none =>
    discardPreparedRestartPlan
    let state ← readState
    match state.filter fun s => decide (s.state = .onAir ∨ s.state = .transitioning) with
    | some row =>
      if x.code = 0 && !d.draining && !queued then crashSequel setup row x
      else downSequel setup x d queued
    | none => downSequel setup x d queued

/-- `_poll_process`, up to the exit it finds; a live worker is looked after. -/
def observeExit : DaemonM (Option Exit) := do
  let d ← self
  match d.process with
  | none => return none
  | some p =>
    let code ← processPoll p
    let n : ℕ ← call .rounds
    pollSourceOutput p n
    match code with
    | none => do
      workerAlive p
      return none
    | some code => do
      let before ← self
      let uptime ← uptimeOf before.startedAt
      return some ⟨code, uptime⟩

/-! ## The parts make up the polls -/

lemma beginRelaunch_eq (previousState : Option EgressState) (proofEventId : Option ℕ) :
    beginRelaunch setup previousState proofEventId =
      beginSequel setup previousState proofEventId >>= carryOut setup := by
  unfold beginRelaunch beginSequel
  simp only [bind_assoc]
  rfl

lemma relaunchAfterCrash_eq (row : StateRow) (x : Exit) :
    relaunchAfterCrash setup row x.uptime x.code = crashSequel setup row x >>= carryOut setup := by
  unfold relaunchAfterCrash crashSequel
  simp only [bind_assoc, ite_bind, beginRelaunch_eq, ret_bind, carryOut, bind_unit]

lemma serviceBackoffRelaunch_eq :
    serviceBackoffRelaunch setup = backoffSequel setup >>= carryOut setup := by
  unfold serviceBackoffRelaunch backoffSequel
  rw [bind_assoc]
  refine bind_congr fun d => ?_
  cases d.backoff with
  | none => rfl
  | some pin =>
    simp only [bind_assoc, ite_bind, beginRelaunch_eq, ret_bind, carryOut, bind_unit]

lemma relaunchSlate_eq (row : StateRow) (force : Bool) (plan : Option SourcePlan)
    (startedAt : Option ℚ) : relaunchSlate setup row force plan startedAt =
      slateSequel row force plan startedAt >>= fun s =>
        carryOut setup s >>= fun _ => pure true := by
  unfold relaunchSlate slateSequel
  simp only [bind_assoc, ite_bind, ret_bind, carryOut]

/-- Carry a relaunch of the slate out, if there is one. -/
def carryOutSome : Option Sequel → DaemonM Bool
  | none => return false
  | some s => do
    carryOut setup s
    return true

lemma relaunchSlateEosOntoDueProgram_eq :
    relaunchSlateEosOntoDueProgram setup = slateEosSequel setup >>= carryOutSome setup := by
  unfold relaunchSlateEosOntoDueProgram slateEosSequel
  rw [bind_assoc]
  refine bind_congr fun state => ?_
  cases state with
  | none => rfl
  | some row =>
    simp only [bind_assoc, ite_bind, ret_bind, carryOutSome, relaunchSlate_eq]
    congr! 9
    refine bind_congr fun plan => ?_
    rcases plan with _ | _ | plan
    · rfl
    · rfl
    · simp only [bind_assoc, ite_bind, ret_bind, carryOutSome]

lemma downOrCrash_eq (x : Exit) (d : Attrs) (queued : Bool) :
    downOrCrash setup x.code d queued x.uptime =
      downSequel setup x d queued >>= carryOut setup := by
  have hdown : ∀ state, settleDown state =
      (settleDown state >>= fun _ => pure Sequel.down) >>= carryOut setup := fun state =>
    (bind_assoc.trans bind_unit).symm
  unfold downOrCrash downSequel
  by_cases hclean : (decide (x.code = 0) || d.draining || queued) = true
  · rw [if_pos hclean, if_pos hclean]
    cases d.draining with
    | true => exact hdown .stopped
    | false =>
      simp only [relaunchUnlessDrained, slateEosUnlessDrained, Bool.false_eq_true, if_false,
        relaunchSlateEosOntoDueProgram_eq, bind_assoc]
      refine bind_congr fun found => ?_
      cases found with
      | none => exact hdown .stopped
      | some s => exact bind_assoc.trans bind_unit
  · rw [if_neg hclean, if_neg hclean]
    simp only [bind_assoc]
    refine bind_congr fun _ => bind_congr fun state => ?_
    cases state.filter _ with
    | none => exact hdown .error
    | some row => exact relaunchAfterCrash_eq setup row x

lemma workerExited_eq (code : ℤ) : workerExited setup code =
    (self >>= fun before => uptimeOf before.startedAt) >>= fun uptime =>
      exitSequel setup ⟨code, uptime⟩ >>= carryOut setup := by
  unfold workerExited exitSequel
  simp only [bind_assoc]
  refine bind_congr fun before => bind_congr fun uptime => bind_congr fun cleared => ?_
  obtain ⟨d, queued⟩ := cleared
  split
  · rename_i pin hpin
    simp only [hpin, pinSequel, restartPinned, bind_assoc]
    rfl
  · rename_i hpin
    simp only [hpin, bind_assoc]
    refine bind_congr fun _ => bind_congr fun state => ?_
    cases state.filter _ with
    | none => exact downOrCrash_eq setup ⟨code, uptime⟩ d queued
    | some row =>
      rw [ite_bind]
      refine ite_congr rfl (fun _ => ?_) fun _ => ?_
      · exact relaunchAfterCrash_eq setup row ⟨code, uptime⟩
      · exact downOrCrash_eq setup ⟨code, uptime⟩ d queued

lemma pollProcess_eq : pollProcess setup = observeExit >>= fun exit =>
    match exit with
    | none => pure ()
    | some x => exitSequel setup x >>= carryOut setup := by
  unfold pollProcess observeExit
  rw [bind_assoc]
  refine bind_congr fun d => ?_
  cases d.process with
  | none => rfl
  | some p =>
    simp only [bind_assoc]
    refine bind_congr fun code => bind_congr fun n => bind_congr fun _ => ?_
    cases code with
    | none => exact (bind_assoc.trans bind_unit).symm
    | some code =>
      simp only [workerExited_eq, bind_assoc, ret_bind]

end Daemon

end CivicCast.Egress
