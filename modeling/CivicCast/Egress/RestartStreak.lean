import CivicCast.Egress.DaemonEvents

/-! # What leaves the restart streak alone

The restart streak goes up when a worker's exit is taken for a crash, and it is reset when the
channel is taken down or a worker has been seen on air for a minute. Every start, every reload and
every poll but that of the worker's process is made of `Uncounted` operations, which do neither.
-/

namespace CivicCast.Egress

namespace Daemon

open Lib Lib.Prog Playout

/-- No worker of the channel is known to be on air, and the streak is this long. -/
structure Streak (s : Option ℕ) (w : World) : Prop where
  streak : w.d.restartStreak = s
  unconfirmed : w.d.onAirConfirmedAt = none

lemma next_d {o : Op} (ho : ∀ f, o ≠ .modify f) (w : World) (x : Ans o) :
    (next w o x).d = w.d ∨ (next w o x).d = w.dropSettle.d ∨
      (next w o x).d = w.cancelPreparation.d := by
  cases o with
  | modify f => exact absurd rfl (ho f)
  | dropSettle reason => exact .inr (.inl rfl)
  | cancelPreparation => exact .inr (.inr rfl)
  | meanwhile => exact .inl (World.move_d w x)
  | writeState row | prepare plan | launch plan planDir => cases x <;> exact .inl rfl
  | mark m => cases m <;> exact .inl rfl
  | reloadContent req =>
    match x with
    | .ok true => exact .inl rfl
    | .ok false => exact .inl rfl
    | .error e => exact .inl rfl
  | futureDone ticket plan supplied =>
    match supplied, x with
    | none, some (.ok report) | none, some (.error e) | none, none | some supplied, _ =>
      exact .inl rfl
  | _ => exact .inl rfl

lemma next_attr {β : Type} {get : Attrs → β} {o : Op} (ho : ∀ f, o ≠ .modify f) (w : World)
    (x : Ans o)
    (hget : ∀ d settle discarded preparation, get { d with
      settle := settle, discardedReloadId := discarded, preparation := preparation } = get d) :
    get (next w o x).d = get w.d := by
  rcases next_d ho w x with hd | hd | hd
  · rw [hd]
  · rw [hd, World.dropSettle_d]
    exact hget w.d _ _ w.d.preparation
  · rw [hd, World.cancelPreparation_d]
    exact hget w.d w.d.settle w.d.discardedReloadId _

lemma Streak.next {s : Option ℕ} {w : World} (h : Streak s w) {o : Op} (ho : Uncounted o)
    (x : Ans o) : Streak s (next w o x) := by
  by_cases hmodify : ∃ f, o = .modify f
  · obtain ⟨f, rfl⟩ := hmodify
    obtain ⟨hs, hc⟩ := ho w.d
    constructor
    · exact hs.trans h.streak
    · rcases hc with hc | hc
      · exact hc.trans h.unconfirmed
      · exact hc
  · have hother : ∀ f, o ≠ .modify f := fun f hf => hmodify ⟨f, hf⟩
    constructor
    · exact (next_attr hother w x fun _ _ _ _ => rfl).trans h.streak
    · exact (next_attr hother w x fun _ _ _ _ => rfl).trans h.unconfirmed

variable {α : Type}

/-- Uncounted code keeps the streak, on every machine that moves the daemon's world. -/
lemma IsUncounted.keeps {p : DaemonM α} (hp : IsUncounted p) {M : Machine daemonIface World}
    (hpre : ∀ w o, M.pre w o) (hnext : M.next = next) (s : Option ℕ) :
    p.Keeps M (Streak s) fun _ => True := by
  refine Uses.keeps hp (fun w o _ _ => hpre w o) ?_
  intro w o x ho hw _
  rw [hnext]
  exact hw.next ho x

/-! ## Parts -/

lemma uncounted_call {o : Op} (h : Uncounted o) : IsUncounted (call o) := ⟨h, fun _ => trivial⟩

lemma uncounted_modify {f : Attrs → Attrs}
    (h : ∀ d, (f d).restartStreak = d.restartStreak ∧ (f d).onAirConfirmedAt = d.onAirConfirmedAt) :
    IsUncounted (modify f) :=
  ⟨fun d => ⟨(h d).1, .inl (h d).2⟩, fun _ => trivial⟩

/-- A worker that comes up or is gone is not on air yet, or no more. -/
lemma uncounted_unconfirm {f : Attrs → Attrs}
    (h : ∀ d, (f d).restartStreak = d.restartStreak ∧ (f d).onAirConfirmedAt = none) :
    IsUncounted (modify f) :=
  ⟨fun d => ⟨(h d).1, .inr (h d).2⟩, fun _ => trivial⟩

/-! ## Starts and reloads -/

section Moves

variable (setup : Setup)

lemma uncounted_handOff {start : StartArgs → DaemonM Unit} (hstart : ∀ a, IsLocal (start a)) :
    IsUncounted (handOffSlateFirstProgram setup start) :=
  uses_bind tame_liveProcess.uncounted fun _ =>
    uses_ite (local_requestReloadWith setup hstart _).uncounted uses_pure

lemma uncounted_start (a : StartArgs) : IsUncounted (start setup a) :=
  uses_ask trivial fun n => (local_startUpTo setup n a).uncounted

/-! ## Settlements and preparations -/

lemma uncounted_retryAbortedBoundaryReload (pending : Settlement) :
    IsUncounted (retryAbortedBoundaryReload setup pending) := by
  unfold retryAbortedBoundaryReload
  split
  · exact uses_pure
  · refine uses_bind tame_self.uncounted fun d => uses_ite uses_pure ?_
    exact uses_ask trivial fun _ =>
      uses_bind (uncounted_modify fun _ => ⟨rfl, rfl⟩) fun _ =>
        uses_bind (local_requestReload setup).uncounted fun _ => uses_pure

lemma uncounted_settle (pending : Settlement) {result : ReloadResult} :
    IsUncounted (settle setup pending result) := by
  have hearly : IsUncounted (beforeSwitch pending.switchAtUnix) := by
    unfold beforeSwitch
    split
    · exact uses_pure
    · exact uses_ask trivial fun _ => uses_pure
  cases result with
  | applied =>
    refine uses_bind tame_processPoll.uncounted fun code => uses_ite ?_ ?_
    · exact uses_ask trivial fun _ =>
        tidy_fallBackToRestartReload.uncounted
    · exact uses_ask trivial fun _ =>
        uses_bind (uncounted_modify fun _ => ⟨rfl, rfl⟩) fun _ =>
          tidy_commitReloadSettlement.uncounted
  | aborted =>
    refine uses_bind hearly fun early => uses_ite (uncounted_call trivial) ?_
    refine uses_bind (uncounted_retryAbortedBoundaryReload setup pending) fun retried => ?_
    exact uses_ite uses_pure (uses_ask trivial fun _ =>
      tidy_fallBackToRestartReload.uncounted)
  | unrecognized =>
    exact uses_ask trivial fun _ => tidy_fallBackToRestartReload.uncounted

lemma uncounted_pollReloadSettlement : IsUncounted (pollReloadSettlement setup) := by
  refine uses_bind tame_self.uncounted fun d => ?_
  cases d.settle with
  | none =>
    refine uses_ite (uses_ask trivial fun status => ?_) uses_pure
    exact uses_ite (uncounted_modify fun _ => ⟨rfl, rfl⟩) uses_pure
  | some pending =>
    refine uses_ask trivial fun _ =>
      uses_ask trivial fun status => ?_
    split
    · exact uncounted_settle setup pending
    · refine uses_ask trivial fun now => uses_ite ?_ uses_pure
      exact uses_ask trivial fun _ =>
        tidy_fallBackToRestartReload.uncounted

lemma uncounted_preparationDone (pending : Preparation) (sent : Except Fault Report) :
    IsUncounted (preparationDone setup pending sent) := by
  refine uses_bind (uncounted_modify fun _ => ⟨rfl, rfl⟩) fun _ => ?_
  refine uses_bind (local_resumeWith setup _ _).uncounted fun outcome => ?_
  split
  · exact tidy_fallBackToRestartReload.uncounted
  · exact uses_ite uses_pure tidy_fallBackToRestartReload.uncounted
  · exact uncounted_start setup _
  · exact uses_ask trivial fun n =>
      uncounted_handOff setup (local_startUpTo setup n)
  · exact uses_pure

lemma uncounted_pollPreparation : IsUncounted (pollPreparation setup) := by
  refine uses_bind tame_self.uncounted fun d => ?_
  cases d.preparation with
  | none => exact uses_pure
  | some pending =>
    refine uses_ask trivial fun answer => ?_
    match answer with
    | none => exact uses_pure
    | some sent =>
      refine uses_bind (uses_ite uses_pure
        (uses_bind tame_getConfig.uncounted fun _ => uses_pure)) fun stale => ?_
      exact uses_ite (uses_ask trivial fun _ =>
        (local_requestReload setup).uncounted) (uncounted_preparationDone setup pending sent)

/-! ## Guards and the watchdog -/

lemma uncounted_reloadOrSwap : IsUncounted (reloadOrSwap setup) :=
  uses_ite (uses_ask trivial fun x => uses_orRaise x)
    (local_requestReload setup).uncounted

lemma uncounted_beginQualityRecovery {retryAt : ℚ} {detail : String} :
    IsUncounted (beginQualityRecovery setup retryAt detail) := by
  have hslate : ∀ reason, IsUncounted (requestFallbackSlate setup reason) := fun reason =>
    uses_ite trivial (uses_bind (uncounted_modify fun _ => ⟨rfl, rfl⟩) fun _ =>
      uncounted_reloadOrSwap setup)
  refine uses_bind tame_qualityGuardDeferred.uncounted fun deferred => uses_ite uses_pure ?_
  refine uses_bind (uncounted_modify fun _ => ⟨rfl, rfl⟩) fun _ =>
    uses_bind tame_self.uncounted fun d => ?_
  exact uses_ite uses_pure (uses_bind (uses_attempt (hslate _)) fun _ => uses_pure)

lemma uncounted_pollGuard {verdict : DaemonM (Except Fault Verdict)}
    (hverdict : IsUncounted verdict) {detail : String} :
    IsUncounted (pollGuard setup verdict detail) := by
  refine uses_bind tame_self.uncounted fun d => ?_
  cases d.process with
  | none => exact uses_pure
  | some p =>
    refine uses_bind tame_qualityGuardDeferred.uncounted fun deferred => uses_ite uses_pure ?_
    refine uses_bind tame_readState.uncounted fun state => uses_ite uses_pure ?_
    refine uses_bind hverdict fun answer => uses_bind (uses_orRaise answer) fun verdict => ?_
    cases verdict with
    | quiet => exact uses_pure
    | restart =>
      exact uses_bind tame_qualityGuardDeferred.uncounted fun deferred =>
        uses_ite uses_pure tame_terminateBounded.uncounted
    | exhausted retryAt =>
      exact uses_bind tame_qualityGuardDeferred.uncounted fun deferred =>
        uses_ite uses_pure (uncounted_beginQualityRecovery setup)

lemma uncounted_pollQualityRecovery : IsUncounted (pollQualityRecovery setup) := by
  have hslate : ∀ reason, IsUncounted (clearFallbackSlate reason) := fun reason =>
    uses_bind tame_self.uncounted fun _ =>
      uses_ite (uncounted_modify fun _ => ⟨rfl, rfl⟩) uses_pure
  have hclear : IsUncounted clearQualityRecovery := by
    refine uses_bind tame_self.uncounted fun d =>
      uses_bind (uncounted_modify fun _ => ⟨rfl, rfl⟩) fun _ => ?_
    cases d.qualityRecovery with
    | none => exact uses_pure
    | some recovery => exact hslate _
  have hexit : IsUncounted (requestSlateExit setup) :=
    uses_bind (uncounted_modify fun _ => ⟨rfl, rfl⟩) fun _ => uncounted_reloadOrSwap setup
  refine uses_bind tame_self.uncounted fun d => ?_
  match d.qualityRecovery with
  | none => exact uses_pure
  | some (retryAt, reason) =>
    refine uses_bind (tame_terminalIntent d).uncounted fun terminal =>
      uses_ite hclear (uses_ask trivial fun now => ?_)
    refine uses_ite uses_pure (uses_bind (uncounted_modify fun _ => ⟨rfl, rfl⟩) fun _ => ?_)
    exact uses_bind tame_self.uncounted fun d =>
      uses_ite (uses_bind (uses_attempt hexit) fun _ => uses_pure) uses_pure

lemma uncounted_pollReloadStallWatchdog : IsUncounted (pollReloadStallWatchdog setup) := by
  have hreissue : ∀ now, IsUncounted (reissueStalled setup now) := fun now =>
    uses_bind (uncounted_modify fun _ => ⟨rfl, rfl⟩) fun _ =>
      uses_ask trivial fun _ =>
        uses_bind (local_requestReload setup).uncounted fun _ =>
          uses_bind tame_self.uncounted fun d =>
          uses_ite (uncounted_modify fun _ => ⟨rfl, rfl⟩) uses_pure
  have hkill : ∀ process, IsUncounted (killStalled process) := by
    intro process
    refine uses_bind (uncounted_modify fun _ => ⟨rfl, rfl⟩) fun _ => ?_
    cases process with
    | none => exact uses_pure
    | some p =>
      refine uses_bind tame_processPoll.uncounted fun code => uses_ite ?_ uses_pure
      exact uses_bind (uncounted_modify fun _ => ⟨rfl, rfl⟩) fun _ =>
        tame_terminateBounded.uncounted
  refine uses_bind tame_self.uncounted fun d => uses_ite (uncounted_modify fun _ => ⟨rfl, rfl⟩) ?_
  refine uses_ask trivial fun now =>
    uses_ite (uncounted_modify fun _ => ⟨rfl, rfl⟩) ?_
  split
  · exact uncounted_modify fun _ => ⟨rfl, rfl⟩
  · refine uses_ite uses_pure (uses_bind (uncounted_modify fun _ => ⟨rfl, rfl⟩) fun _ => ?_)
    exact uses_bind tame_readState.uncounted fun _ => uses_ite (hreissue now) (hkill _)

/-! ## Events -/

/-- Events that are neither a command nor about the worker's exits. -/
def Event.IsQuiet : Event → Prop
  | .pollProcess | .serviceBackoffRelaunch | .command _ => False
  | _ => True

lemma Event.IsQuiet.uncounted {e : Event} (h : e.IsQuiet) : IsUncounted (e.code setup) := by
  cases e with
  | pollProcess | serviceBackoffRelaunch | command c => exact h.elim
  | pollHlsRelay => exact tame_assist.uncounted
  | pollReloadSettlement => exact uncounted_pollReloadSettlement setup
  | pollOutputAvGuard =>
    exact uncounted_pollGuard setup (uncounted_call (o := .outputAvGuard) trivial)
  | pollFreezeEscalation =>
    exact uncounted_pollGuard setup (uncounted_call (o := .freezeEscalation) trivial)
  | pollQualityRecovery => exact uncounted_pollQualityRecovery setup
  | pollReloadStallWatchdog => exact uncounted_pollReloadStallWatchdog setup
  | pollPreparation => exact uncounted_pollPreparation setup
  | recordRolloverPlanEnd r => exact uncounted_modify fun _ => ⟨rfl, rfl⟩
  | reconcile pidless => exact tame_reconcileStaleClaims.uncounted
  | enableAsyncPreparation =>
    exact uses_bind tame_self.uncounted fun d =>
      uses_ite (uncounted_modify fun _ => ⟨rfl, rfl⟩) uses_pure
  | shutdownPreparation =>
    exact uses_bind (uncounted_modify fun _ => ⟨rfl, rfl⟩) fun _ =>
      uses_ask trivial fun _ => uncounted_modify fun _ => ⟨rfl, rfl⟩
  | configure config => exact uncounted_call trivial
  | worker => exact uses_ask trivial fun _ => uses_pure

end Moves

end Daemon

end CivicCast.Egress
