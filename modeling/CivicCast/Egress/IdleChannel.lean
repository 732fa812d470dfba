import CivicCast.Egress.DaemonFootprint

/-! # Polls of an idle channel

A channel is idle when its worker runs and nothing waits to be settled, prepared or
recovered. Then the polls only keep books: they re-write the state row under its own proof,
confirm the channel on air, and forget old restarts. `Calm` is an assertion that such
bookkeeping does not disturb, and `Calm.poll` says that no poll but the stall watchdog
disturbs it, whatever the store answers.
-/

namespace CivicCast.Egress

namespace Daemon

open Lib Lib.Prog Playout Option

/-- The polls of `process_once`. -/
def Event.isPoll : Event → Bool
  | .pollHlsRelay | .pollProcess | .serviceBackoffRelaunch | .pollReloadSettlement
  | .pollOutputAvGuard | .pollFreezeEscalation | .pollQualityRecovery
  | .pollReloadStallWatchdog | .pollPreparation => true
  | _ => false

/-- The worker runs, and nothing is under way. -/
structure Idle (w : World) : Prop where
  settle : w.d.settle = none
  preparation : w.d.preparation = none
  qualityRecovery : w.d.qualityRecovery = none
  running : ∃ p, w.d.process = some p ∧ w.runs p = true

/-- What bookkeeping leaves alone. -/
structure Business where
  process : Option Proc
  preparation : Option Preparation
  settle : Option Settlement
  qualityRecovery : Option (ℚ × String)
  pendingReload : Option Pin
  stallSince : Option ℚ
  stallBound : Option ℚ
  stallRung : ℕ
  horizon : Option PlanHorizon
  activeDir : Option Dir

def Attrs.business (d : Attrs) : Business :=
  ⟨d.process, d.preparation, d.settle, d.qualityRecovery, d.pendingReload, d.stallSince,
    d.stallBound, d.stallRung, d.horizon, d.activeDir⟩

/-- An assertion about an idle channel that bookkeeping does not disturb. -/
structure Calm (J : World → Prop) : Prop where
  idle : ∀ {w : World}, J w → Idle w
  setD : ∀ {w : World} {d : Attrs}, d.business = w.d.business → J w → J (w.setD d)
  move : ∀ {w : World} {m : WorkerMove}, m ≠ .exits → J w → J (w.move m)
  /-- The state row is written again, under the same proof. -/
  row : ∀ {w : World} {row : StateRow},
    row.currentProofEventId = w.row.bind (·.currentProofEventId) → J w →
    J { w with row := some row }
  terminated : ∀ {w : World} (p : Proc), J w → J { w with terminated := p :: w.terminated }

section Polls

variable {setup : Setup} {q : Promises} {J : World → Prop} {w : World} {β : Type}
  {f : Bool → DaemonM β}

variable (hw : J w)
include hw

lemma Calm.assist : ComesTo q J w assist := by
  simp [hw]

lemma Calm.readState {f : Option StateRow → DaemonM β}
    (hf : ComesTo q J w (f w.row)) :
    ComesTo q J w (readState >>= f) := by
  simp only [wp_bind, wp_readState, bindPost_ok, bindPost_error]
  exact ⟨hf, fun _ _ => hw⟩

variable (hJ : Calm J)
include hJ

lemma Calm.writeState (state : EgressState) (pid : Option Proc) :
    (writeState state (w.row.bind (·.currentProofEventId)) pid).wp (machine q)
      (fun _ => J) w := by
  simp only [wp_writeState]
  exact ⟨hJ.row rfl hw, fun _ _ => hw⟩

lemma Calm.pollSourceOutput (p : Proc) (n : ℕ) :
    ComesTo q J w (pollSourceOutput p n) := by
  induction n generalizing w with
  | zero => exact hw
  | succ n ih =>
    have hobserve : ComesTo q J w (pollSourceOutput.observe p) := by
      rw [pollSourceOutput.observe, ComesTo, wp_bind, wp_call]
      intro answer _ _
      cases answer with
      | error e => exact hw
      | ok u =>
        exact Calm.readState hw (ComesTo.seq (hJ.writeState hw _ _) fun _ w' hw' =>
          Calm.assist hw')
    rw [Daemon.pollSourceOutput]
    exact ComesTo.seq (wp_attempt.mpr hobserve) fun _ w' hw' => ih hw'

lemma Calm.confirmOnAir (d : Attrs) : ComesTo q J w (confirmOnAir d) := by
  simp only [Daemon.confirmOnAir, wp_if, wp_bind, wp_call, bindPost_ok, wp_pure, next, wp_modify]
  exact ⟨fun _ evidence _ _ => ⟨fun _ now _ _ => hJ.setD rfl hw, fun _ => hw⟩, fun _ => hw⟩

lemma Calm.forgetRestarts (current : EgressState) :
    ComesTo q J w (forgetRestarts current) := by
  rw [Daemon.forgetRestarts, ComesTo, wp_bind, wp_self, bindPost_ok]
  cases w.d.onAirConfirmedAt with
  | none => exact hw
  | some confirmedAt =>
    simp only [wp_bind, wp_monotonic, bindPost_ok, wp_if, wp_pure, resetRestartTracking, wp_modify]
    exact fun now _ => ⟨fun _ => hJ.setD rfl hw, fun _ => hw⟩

lemma Calm.workerAlive (p : Proc) : ComesTo q J w (workerAlive p) := by
  refine Calm.readState hw ?_
  simp only [wp_bind, wp_assist, bindPost_ok, bindPost_error, wp_self, appendHealth]
  refine ⟨⟨?_, fun _ _ => hw⟩, fun _ _ => hw⟩
  rw [← wp_bind]
  refine ComesTo.seq (hJ.writeState hw _ _) fun _ w' hw' => ?_
  refine ComesTo.seq (Calm.assist hw') fun _ w'' hw'' => ?_
  exact ComesTo.seq (hJ.confirmOnAir hw'' _) fun _ v hv => hJ.forgetRestarts hv _

lemma Calm.processPoll (hq : q.workerStays = true) {p : Proc} (hp : w.d.process = some p)
    {Q : Except Fault β → World → Prop} {f : Option ℤ → DaemonM β}
    (hf : ∀ w', J w' → w'.d = w.d → (f none).wp (machine q) Q w') :
    (processPoll p >>= f).wp (machine q) Q w := by
  obtain ⟨p', hp', hruns⟩ := (hJ.idle hw).running
  have hsame : p' = p := some.inj (hp'.symm.trans hp)
  subst hsame
  simp only [wp_bind, wp_processPoll, bindPost_ok]
  intro m _ hm code hcode
  have hstays : m ≠ .exits := by
    rintro rfl
    simp [Promises.allows, hq] at hm
  have halive : code = none := by
    rw [World.runs_move hstays, hruns] at hcode
    simpa using hcode
  subst halive
  exact hf _ (hJ.move hstays hw) (by simp)

lemma Calm.terminateBounded (hq : q.workerStays = true) (p : Proc) :
    ComesTo q J w (terminateBounded p) := by
  rw [ComesTo, wp_terminateBounded]
  intro m _ hm
  refine hJ.move ?_ (hJ.terminated p hw)
  rintro rfl
  simp [Promises.allows, hq] at hm

lemma Calm.pollProcess (hq : q.workerStays = true) :
    ComesTo q J w (pollProcess setup) := by
  obtain ⟨p, hp, _⟩ := (hJ.idle hw).running
  rw [Daemon.pollProcess, ComesTo, wp_bind, wp_self, bindPost_ok, hp]
  refine hJ.processPoll hw hq hp fun w' hw' _ => ?_
  simp only [wp_bind, wp_rounds, bindPost_ok]
  intro n
  rw [← wp_bind]
  exact ComesTo.seq (hJ.pollSourceOutput hw' p n) fun _ w'' hw'' => hJ.workerAlive hw'' p

omit hJ

lemma Calm.hasPendingTerminalCommand (hf : ∀ queued, ComesTo q J w (f queued)) :
    ComesTo q J w (hasPendingTerminalCommand >>= f) := by
  rw [Daemon.hasPendingTerminalCommand, ComesTo, wp_bind, wp_bind, wp_call]
  intro commands _ _
  cases commands with
  | error e => exact hw
  | ok commands => exact hf _

omit hw

lemma Calm.serviceBackoffRelaunch (hJ : Calm J) (hw : J w) :
    ComesTo q J w (serviceBackoffRelaunch setup) := by
  obtain ⟨p, hp, _⟩ := (hJ.idle hw).running
  rw [Daemon.serviceBackoffRelaunch, ComesTo, wp_bind, wp_self, bindPost_ok]
  cases w.d.backoff with
  | none => exact hw
  | some pin =>
    refine Calm.hasPendingTerminalCommand hw fun queued => ?_
    simp only [hp, isSome_some, if_true, wp_if, wp_pure, wp_modify]
    exact ⟨fun _ => hw, fun _ => hJ.setD (by simp [Attrs.business, hp]) hw⟩

lemma Calm.pollReloadSettlement (hJ : Calm J) (hw : J w) :
    ComesTo q J w (pollReloadSettlement setup) := by
  have hsettle := (hJ.idle hw).settle
  simp only [Daemon.pollReloadSettlement, wp_bind, wp_self, bindPost_ok, hsettle, wp_if, wp_call,
    next, wp_modify, wp_pure]
  refine ⟨fun _ status _ _ => ⟨fun _ => ?_, fun _ => hw⟩, fun _ => hw⟩
  exact hJ.setD (by simp [Attrs.business, hsettle]) hw

lemma Calm.qualityGuardDeferred (hw : J w)
    (hf : ∀ deferred, ComesTo q J w (f deferred)) :
    ComesTo q J w (qualityGuardDeferred >>= f) := by
  have hdeferred : Daemon.qualityGuardDeferred.wp (machine q) (fun _ w' => w' = w ∧ J w') w := by
    simp only [Daemon.qualityGuardDeferred, Daemon.hasPendingTerminalCommand, wp_bind, wp_self,
      bindPost_ok, wp_if, wp_pure, wp_call, next]
    refine ⟨fun _ => ⟨trivial, hw⟩, fun _ commands _ _ => ?_⟩
    cases commands with
    | error e | ok commands => exact ⟨rfl, hw⟩
  refine wp_seq hdeferred (fun deferred w' hw' => ?_) fun _ _ hw' => hw'.2
  obtain ⟨rfl, _⟩ := hw'
  exact hf deferred

lemma Calm.pollGuard (hJ : Calm J) (hw : J w) (hstays : q.workerStays = true)
    {verdict : DaemonM (Except Fault Verdict)}
    (hverdict : verdict.wp (machine q) (fun r w' => J w' ∧ ∀ t, r ≠ .ok (.ok (.exhausted t))) w)
    (detail : String) : ComesTo q J w (pollGuard setup verdict detail) := by
  obtain ⟨p, hp, _⟩ := (hJ.idle hw).running
  rw [Daemon.pollGuard, ComesTo, wp_bind, wp_self, bindPost_ok, hp]
  refine Calm.qualityGuardDeferred hw fun deferred =>
    wp_if.mpr ⟨fun _ => hw, fun _ => Calm.readState hw ?_⟩
  refine wp_if.mpr ⟨fun _ => hw, fun _ => ?_⟩
  refine wp_seq hverdict (fun answer w' hw' => ?_) fun _ _ hw' => hw'.1
  obtain ⟨hw', hcontent⟩ := hw'
  cases answer with
  | error e => exact hw'
  | ok verdict =>
    cases verdict with
    | quiet => exact hw'
    | exhausted t => exact absurd rfl (hcontent t)
    | restart =>
      exact Calm.qualityGuardDeferred hw' fun deferred =>
        wp_if.mpr ⟨fun _ => hw', fun _ => hJ.terminateBounded hw' hstays p⟩

/-- Only the stall watchdog looks at more than the books of an idle channel. -/
lemma Calm.poll (hJ : Calm J) (hw : J w) (hstays : q.workerStays = true)
    (hcontent : q.guardsContent = true) {e : Event} (he : e.isPoll = true)
    (hstall : e ≠ .pollReloadStallWatchdog) : ComesTo q J w (e.code setup) := by
  cases e with
  | pollHlsRelay => exact Calm.assist hw
  | pollProcess => exact hJ.pollProcess hw hstays
  | serviceBackoffRelaunch => exact hJ.serviceBackoffRelaunch hw
  | pollReloadSettlement => exact hJ.pollReloadSettlement hw
  | pollOutputAvGuard | pollFreezeEscalation =>
    refine hJ.pollGuard hw hstays ?_ _
    simp only [wp_call, next]
    intro answer _ hanswer
    refine ⟨hw, ?_⟩
    rintro t ⟨⟩
    simp [Promises.allows, hcontent] at hanswer
  | pollQualityRecovery =>
    simp [Event.code, Daemon.pollQualityRecovery, (hJ.idle hw).qualityRecovery, hw]
  | pollReloadStallWatchdog => exact absurd rfl hstall
  | pollPreparation => simp [Event.code, Daemon.pollPreparation, (hJ.idle hw).preparation, hw]
  | _ => simp [Event.isPoll] at he

end Polls

end Daemon

end CivicCast.Egress
