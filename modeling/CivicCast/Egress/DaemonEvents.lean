import CivicCast.Egress.DaemonFootprint

/-! # What every event is made of

A poll or a command is bookkeeping around a few moves: a start, a reload request, the end of
a worker, a settlement, an override. `Carried` lists the moves; an assertion that each of
them keeps is kept by every event, and so in every run.
-/

namespace CivicCast.Egress

namespace Daemon

open Lib Lib.Prog Playout

/-- The moves of the daemon keep `J`, on the machine of `q`, however they end. -/
structure Carried (setup : Setup) (q : Promises) (J : World → Prop) : Prop where
  plain : ∀ {α : Type} {p : DaemonM α}, IsPlain p → Preserves q J p
  reissued : Preserves q J (call (.mark .reissued))
  configure : ∀ config, Preserves q J (call (.configure config))
  cancelPreparation : Preserves q J (call .cancelPreparation)
  start : ∀ a : StartArgs, a.preparedReload = none →
    Preserves q J (start setup a)
  requestReload : ∀ a, Preserves q J (requestReload setup a)
  restartPinned : ∀ pin, Preserves q J (restartPinned setup pin)
  clearExited : Preserves q J clearExited
  clearForStop : Preserves q J clearForStop
  discardPreparedRestartPlan : Preserves q J discardPreparedRestartPlan
  pollReloadSettlement : Preserves q J (pollReloadSettlement setup)
  pollPreparation : Preserves q J (pollPreparation setup)
  requestLiveTakeover : ∀ plan, Preserves q J (requestLiveTakeover setup plan)
  requestLiveHandback : Preserves q J (requestLiveHandback setup)
  requestFallbackSlate : ∀ reason,
    Preserves q J (requestFallbackSlate setup reason)
  requestSlateExit : Preserves q J (requestSlateExit setup)
  clearQualityRecovery : Preserves q J clearQualityRecovery

section Events

variable {setup : Setup} {q : Promises} {J : World → Prop}

variable (h : Carried setup q J) (c : Command)
include h

lemma Carried.before {α β : Type} {p : DaemonM α} {f : α → DaemonM β} (hp : IsPlain p)
    (hf : ∀ a, Preserves q J (f a)) : Preserves q J (p >>= f) :=
  (h.plain hp).bind hf

/-! ## Exits -/

lemma Carried.beginRelaunch (previousState : Option EgressState) (proofEventId : Option ℕ) :
    Preserves q J (beginRelaunch setup previousState proofEventId) :=
  h.before tame_self.plain fun _ => h.before tame_writeState.plain fun _ =>
    h.before tame_assist.plain fun _ => (h.start _ rfl).bind fun _ => h.plain tame_assist.plain

lemma Carried.relaunchAfterCrash (row : StateRow) (uptime : Option ℚ)
    (code : ℤ) : Preserves q J (relaunchAfterCrash setup row uptime code) := by
  refine h.before (plain_call trivial) fun now => h.before tame_self.plain fun d => ?_
  refine
    h.before (plain_modify fun _ => rfl) fun _ => h.before tame_proveCrash.plain fun event => ?_
  exact h.before tame_restartLatchShouldRunNow.plain fun allowed =>
    (h.beginRelaunch _ _).ite (h.plain tame_backOff.plain)

lemma Carried.relaunchSlate (row : StateRow) (force : Bool) (plan : Option SourcePlan)
    (startedAt : Option ℚ) : Preserves q J (relaunchSlate setup row force plan startedAt) := by
  refine h.before tame_restartLatchShouldRunNow.plain fun now => .ite ?_ ?_
  · exact h.before tame_writeState.plain fun _ => (h.start _ rfl).bind fun _ => keeps_pure
  · exact h.before tame_backOff.plain fun _ => keeps_pure

lemma Carried.relaunchSlateEos : Preserves q J (relaunchSlateEosOntoDueProgram setup) := by
  refine h.before tame_readState.plain fun state => ?_
  cases state with
  | none => exact keeps_pure
  | some row =>
    refine .ite keeps_pure (h.before tame_hasPendingTerminalCommand.plain fun queued => ?_)
    refine h.before tame_self.plain fun d => .ite keeps_pure ?_
    refine .ite (h.relaunchSlate _ _ _ _) (h.before (plain_call trivial) fun now => ?_)
    refine h.before (uses_catchSourcePrepare (resolving_nextSourcePlan setup).plain) fun plan => ?_
    match plan with
    | some (some plan) =>
      refine .ite keeps_pure (h.before (plain_modify fun _ => rfl) fun _ => ?_)
      exact h.relaunchSlate _ _ _ _
    | some none | none => exact keeps_pure

lemma Carried.downOrCrash (code : ℤ) (d : Attrs) (queued : Bool) (uptime : Option ℚ) :
    Preserves q J (downOrCrash setup code d queued uptime) := by
  refine .ite ?_ (h.before (plain_modify fun _ => rfl) fun _ => ?_)
  · exact (Keeps.ite keeps_pure h.relaunchSlateEos).bind fun relaunched =>
      keeps_pure.ite (h.plain plain_settleDown)
  · refine h.before tame_readState.plain fun state => ?_
    split
    · exact h.relaunchAfterCrash _ _ _
    · exact h.plain plain_settleDown

lemma Carried.workerExited (code : ℤ) : Preserves q J (workerExited setup code) := by
  refine h.before tame_self.plain fun before => h.before tame_uptimeOf.plain fun uptime => ?_
  refine h.clearExited.bind fun cleared => ?_
  obtain ⟨d, queued⟩ := cleared
  dsimp only
  split
  · exact h.restartPinned _
  · refine h.discardPreparedRestartPlan.bind fun _ => h.before tame_readState.plain fun state => ?_
    split
    · exact (h.relaunchAfterCrash _ _ _).ite (h.downOrCrash _ _ _ _)
    · exact h.downOrCrash _ _ _ _

lemma Carried.pollProcess : Preserves q J (pollProcess setup) := by
  refine h.before tame_self.plain fun d => ?_
  cases d.process with
  | none => exact keeps_pure
  | some p =>
    refine h.before tame_processPoll.plain fun code => h.before (plain_call trivial) fun n => ?_
    refine h.before (tame_pollSourceOutput p n).plain fun _ => ?_
    cases code with
    | none => exact h.plain (plain_workerAlive p)
    | some code => exact h.workerExited code

lemma Carried.serviceBackoffRelaunch : Preserves q J (serviceBackoffRelaunch setup) := by
  refine h.before tame_self.plain fun d => ?_
  cases d.backoff with
  | none => exact keeps_pure
  | some pin =>
    refine h.before tame_hasPendingTerminalCommand.plain fun queued => .ite keeps_pure ?_
    refine .ite (h.plain (plain_modify fun _ => rfl)) ?_
    refine h.before tame_restartLatchShouldRunNow.plain fun now => .ite ?_ keeps_pure
    exact h.before (plain_modify fun _ => rfl) fun _ => h.before tame_readState.plain fun state =>
      h.beginRelaunch _ _

/-! ## Guards and the watchdog -/

lemma Carried.beginQualityRecovery (retryAt : ℚ) (detail : String) :
    Preserves q J (beginQualityRecovery setup retryAt detail) := by
  refine h.before tame_qualityGuardDeferred.plain fun deferred => .ite keeps_pure ?_
  refine h.before (plain_modify fun _ => rfl) fun _ => h.before tame_self.plain fun d => ?_
  exact .ite keeps_pure ((h.requestFallbackSlate _).attempt.bind fun _ => keeps_pure)

lemma Carried.pollGuard {verdict : DaemonM (Except Fault Verdict)} (hverdict : IsPlain verdict)
    (detail : String) : Preserves q J (pollGuard setup verdict detail) := by
  refine h.before tame_self.plain fun d => ?_
  cases d.process with
  | none => exact keeps_pure
  | some p =>
    refine h.before tame_qualityGuardDeferred.plain fun deferred => .ite keeps_pure ?_
    refine h.before tame_readState.plain fun state => .ite keeps_pure ?_
    refine h.before hverdict fun answer => h.before (uses_orRaise answer) fun verdict => ?_
    cases verdict with
    | quiet => exact keeps_pure
    | restart =>
      exact h.before tame_qualityGuardDeferred.plain fun deferred =>
        .ite keeps_pure (h.plain tame_terminateBounded.plain)
    | exhausted retryAt =>
      exact h.before tame_qualityGuardDeferred.plain fun deferred =>
        .ite keeps_pure (h.beginQualityRecovery _ _)

lemma Carried.pollQualityRecovery : Preserves q J (pollQualityRecovery setup) := by
  refine h.before tame_self.plain fun d => ?_
  match d.qualityRecovery with
  | none => exact keeps_pure
  | some (retryAt, reason) =>
    refine h.before (tame_terminalIntent d).plain fun terminal =>
      .ite h.clearQualityRecovery (h.before (plain_call trivial) fun now => ?_)
    refine .ite keeps_pure (h.before (plain_modify fun _ => rfl) fun _ => ?_)
    exact h.before tame_self.plain fun d =>
      .ite (h.requestSlateExit.attempt.bind fun _ => keeps_pure) keeps_pure

lemma Carried.pollReloadStallWatchdog : Preserves q J (pollReloadStallWatchdog setup) := by
  have hreissue : ∀ now, Preserves q J (reissueStalled setup now) := fun now =>
    h.before (plain_modify fun _ => rfl) fun _ => h.reissued.bind fun _ =>
      (h.requestReload _).bind fun _ => h.before tame_self.plain fun d =>
        .ite (h.plain (plain_modify fun _ => rfl)) keeps_pure
  have hkill : ∀ process, IsPlain (killStalled process) := by
    intro process
    refine uses_bind (plain_modify fun _ => rfl) fun _ => ?_
    cases process with
    | none => exact plain_pure
    | some p =>
      refine uses_bind tame_processPoll.plain fun code => uses_ite ?_ plain_pure
      exact uses_bind (plain_modify fun _ => rfl) fun _ => tame_terminateBounded.plain
  refine h.before tame_self.plain fun d => .ite (h.plain (plain_modify fun _ => rfl)) ?_
  refine h.before (plain_call trivial) fun now =>
    .ite (h.plain (plain_modify fun _ => rfl)) ?_
  split
  · exact h.plain (plain_modify fun _ => rfl)
  · refine .ite keeps_pure (h.before (plain_modify fun _ => rfl) fun _ => ?_)
    exact h.before tame_readState.plain fun _ => (hreissue now).ite (h.plain (hkill _))

/-! ## Commands -/

lemma Carried.drain : Preserves q J drain := by
  refine h.cancelPreparation.bind fun _ => h.clearQualityRecovery.bind fun _ => ?_
  refine h.before tame_self.plain fun d => ?_
  cases d.process with
  | none =>
    exact h.before tame_writeState.plain fun _ => h.before tame_assist.plain fun _ =>
      h.before (plain_modify fun _ => rfl) fun _ => h.discardPreparedRestartPlan
  | some p =>
    exact h.before tame_readState.plain fun state => h.before tame_getConfig.plain fun _ =>
      h.before (plain_modify fun _ => rfl) fun _ => h.discardPreparedRestartPlan.bind fun _ =>
          h.before (plain_modify fun _ => rfl) fun _ => h.before tame_writeState.plain fun _ =>
          h.plain tame_assist.plain

lemma Carried.startCommand : Preserves q J (startCommand setup c) :=
  h.before tame_isDisabled.plain fun _ => h.before tame_self.plain fun _ => .ite keeps_pure
    (h.before (plain_modify fun _ => rfl) fun _ => h.start _ rfl)

lemma Carried.stopCommand : Preserves q J (stopCommand c) := by
  refine h.before (plain_modify fun _ => rfl) fun _ => h.clearQualityRecovery.bind fun _ => ?_
  refine .bind (h.clearForStop.bind fun process => h.plain (tame_standDown process).plain) ?_
  exact fun _ => h.before tame_assist.plain fun _ => h.plain tame_writeState.plain

lemma Carried.drainCommand : Preserves q J (drainCommand c) :=
  h.before (plain_modify fun _ => rfl) fun _ => h.clearQualityRecovery.bind fun _ => h.drain

lemma Carried.reloadCommand : Preserves q J (reloadCommand setup c) :=
  h.before tame_isDisabled.plain fun _ => .ite
    (h.before tame_takeRolloverRecord.plain fun _ => keeps_pure) (h.requestReload _)

lemma Carried.processCommand : Preserves q J (processCommand setup c) := by
  have hdaemon : Preserves q J (processDaemonCommand setup c) := by
    refine
      h.before (plain_modify fun _ => rfl) fun _ => h.before (tame_guardSkips c).plain fun _ => ?_
    refine .ite keeps_pure ?_
    split
    · exact h.startCommand c
    · exact h.stopCommand c
    · exact h.drainCommand c
    · exact h.reloadCommand c
    · exact keeps_raise trivial
  have htakeover : Preserves q J (consumeTakeover setup) := by
    refine .ite keeps_pure (h.before (plain_call trivial) fun answer => ?_)
    refine h.before (uses_orRaise answer) fun session => ?_
    cases session with
    | none | unreadable => exact keeps_pure
    | plan plan =>
      exact h.before (plain_modify fun _ => rfl) fun _ => h.requestLiveTakeover plan
  unfold Daemon.processCommand
  split
  · exact h.before tame_isDisabled.plain fun _ => .ite keeps_pure htakeover
  · exact h.before tame_isDisabled.plain fun _ => .ite keeps_pure h.requestLiveHandback
  · exact hdaemon

/-! ## Runs -/

lemma Carried.event (e : Event) : Preserves q J (e.code setup) := by
  cases e with
  | pollHlsRelay => exact h.plain tame_assist.plain
  | pollProcess => exact h.pollProcess
  | serviceBackoffRelaunch => exact h.serviceBackoffRelaunch
  | pollReloadSettlement => exact h.pollReloadSettlement
  | pollOutputAvGuard => exact h.pollGuard (plain_call (o := .outputAvGuard) trivial) _
  | pollFreezeEscalation => exact h.pollGuard (plain_call (o := .freezeEscalation) trivial) _
  | pollQualityRecovery => exact h.pollQualityRecovery
  | pollReloadStallWatchdog => exact h.pollReloadStallWatchdog
  | pollPreparation => exact h.pollPreparation
  | command c => exact h.processCommand c
  | recordRolloverPlanEnd r => exact h.plain (plain_modify fun _ => rfl)
  | reconcile pidless => exact h.plain tame_reconcileStaleClaims.plain
  | enableAsyncPreparation =>
    exact h.before tame_self.plain fun d =>
      .ite (h.plain (plain_modify fun _ => rfl)) keeps_pure
  | shutdownPreparation =>
    exact h.before (plain_modify fun _ => rfl) fun _ => h.cancelPreparation.bind fun _ =>
      h.plain (plain_modify fun _ => rfl)
  | configure config => exact h.configure config
  | worker => exact h.before (plain_call trivial) fun _ => keeps_pure

lemma Carried.run {P : World → Event → Prop} {w w' : World}
    {es : List Event} (hrun : Run setup (machine q) P w es w') (hw : J w) : J w' := by
  refine hrun.keeps ?_ hw
  intro v e v' _ hv hstep
  obtain ⟨r, hexec⟩ := hstep
  exact hexec.post (keeps_iff.mp (h.event e) v hv)

end Events

end Daemon

end CivicCast.Egress
