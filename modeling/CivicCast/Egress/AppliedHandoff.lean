import CivicCast.Egress.IdleChannel

/-! # An applied hand-off

A worker reports `applied`, and the daemon's next poll writes it down: the proof event and
the state row in the store, the horizon and the active directory in memory
(`_commit_reload_settlement`). The pending settlement is popped before the first of these
writes, and it is the only thing that remembers what was applied. So a write that raises
loses the hand-off, although `process_once` promises that every poll is tried again; and a
commit whose writes all return is never undone by a later poll.
-/

namespace CivicCast.Egress

namespace Daemon

open Lib Lib.Prog Playout World Option

/-- What the daemon has on record about the plan on air: the proof event of the state row,
the horizon and the active directory. -/
structure AirRecord where
  proofEventId : Option ℕ
  horizon : Option PlanHorizon
  activeDir : Option Dir
deriving DecidableEq

def World.airRecord (w : World) : AirRecord :=
  ⟨w.row.bind (·.currentProofEventId), w.d.horizon, w.d.activeDir⟩

/-- The record of an applied reload, under its proof event. -/
def Settlement.airRecord (pending : Settlement) (event : ℕ) : AirRecord where
  proofEventId := some event
  horizon := some ⟨some event, pending.sourcePlan.segments.map (·.durationSeconds),
    pending.switchAtEndOfCurrent⟩
  activeDir := pending.planDir

/-- Nothing else is under way that would change what is on air. -/
structure Unasked (d : Attrs) : Prop where
  preparation : d.preparation = none
  pendingReload : d.pendingReload = none
  qualityRecovery : d.qualityRecovery = none

/-- At rest, with `rec` on record: the worker runs, and nothing waits to be settled. -/
structure AtRest (rec : AirRecord) (w : World) : Prop where
  unasked : Unasked w.d
  settle : w.d.settle = none
  running : ∃ p, w.d.process = some p ∧ w.runs p = true
  onRecord : w.airRecord = rec

/-! ## Polls at rest -/

section AtRest

variable {setup : Setup} {q : Promises} {rec : AirRecord} {w : World}

lemma calm_atRest (rec : AirRecord) : Calm (AtRest rec) where
  idle h := ⟨h.settle, h.unasked.preparation, h.unasked.qualityRecovery, h.running⟩
  setD {w d} hd h := by
    obtain ⟨p, hp, hruns⟩ := h.running
    simp only [Attrs.business, Business.mk.injEq] at hd
    obtain ⟨hprocess, hpreparation, hsettle, hquality, hpending, -, -, -, hhorizon, hdir⟩ := hd
    refine ⟨⟨hpreparation.trans h.unasked.preparation, hpending.trans h.unasked.pendingReload,
      hquality.trans h.unasked.qualityRecovery⟩, hsettle.trans h.settle,
      ⟨p, hprocess.trans hp, hruns⟩, ?_⟩
    rw [← h.onRecord]
    simp [airRecord, hhorizon, hdir]
  move {w m} hm h := by
    obtain ⟨p, hp, hruns⟩ := h.running
    refine ⟨by simpa using h.unasked, by simpa using h.settle, ⟨p, by simpa using hp, ?_⟩, ?_⟩
    · rw [runs_move hm]
      exact hruns
    · rw [← h.onRecord]
      simp [airRecord]
  row {w row} hrow h := by
    refine ⟨h.unasked, h.settle, h.running, ?_⟩
    rw [← h.onRecord]
    simp [airRecord, hrow]
  terminated _ h := ⟨h.unasked, h.settle, h.running, h.onRecord⟩

lemma AtRest.pollReloadStallWatchdog (h : AtRest rec w) :
    (pollReloadStallWatchdog setup).wp (machine q) (fun _ w' => AtRest rec w') w := by
  obtain ⟨p, hp, hruns⟩ := h.running
  simp only [Daemon.pollReloadStallWatchdog, wp_bind, wp_self, bindPost_ok,
    h.unasked.pendingReload, isNone_none, if_true, wp_modify]
  exact ⟨⟨h.unasked.preparation, rfl, h.unasked.qualityRecovery⟩, h.settle, ⟨p, hp, hruns⟩,
    h.onRecord⟩

end AtRest

/-- Whatever is on record when the channel comes to rest stays on record, in every run of
polls. -/
lemma Run.atRest {setup : Setup} {q : Promises} (hstays : q.workerStays = true)
    (hcontent : q.guardsContent = true) {rec : AirRecord} {w w' : World} {es : List Event}
    (h : Run setup (machine q) (fun _ e => e.isPoll = true) w es w') (hw : AtRest rec w) :
    AtRest rec w' := by
  refine h.keeps ?_ hw
  intro v e v' he hv hstep
  obtain ⟨r, hexec⟩ := hstep
  by_cases hstall : e = .pollReloadStallWatchdog
  · subst hstall
    exact hexec.post hv.pollReloadStallWatchdog
  · exact hexec.post ((calm_atRest rec).poll hv hstays hcontent he hstall)

/-! ## The commit -/

/-- The applied reload is on record in `w'`, and nothing else has happened since `w`. -/
structure Settled (pending : Settlement) (w w' : World) : Prop where
  onRecord : ∃ event, w'.airRecord = pending.airRecord event
  unasked : Unasked w.d → Unasked w'.d
  settle : w'.d.settle = none
  process : w'.d.process = w.d.process
  running : w'.runs pending.process = true

section Commit

variable {setup : Setup} {q : Promises} {w : World}

lemma proveTransition_leaves (hstore : q.storeWorks = true) {previousState : Option EgressState} :
    (proveTransition previousState).wp (machine q)
      (fun r w' => r = .ok () ∧ ∃ n, w' = { w with fresh := n }) w := by
  simp only [proveTransition, wp_if, wp_bind, wp_appendProofEvent, bindPost_ok, wp_pure, hstore,
    Bool.true_eq_false, false_implies, and_true]
  exact ⟨fun _ => ⟨trivial, _, rfl⟩, fun _ => ⟨trivial, _, rfl⟩⟩

lemma commit_records (hstore : q.storeWorks = true) {pending : Settlement}
    (hsettle : w.d.settle = none) (hruns : w.runs pending.process = true) :
    (commitReloadSettlement pending).wp (machine q) (fun _ w' => Settled pending w w') w := by
  rw [commitReloadSettlement, wp_bind]
  refine wp_mono ?_ (proveTransition_leaves hstore)
  rintro r w' ⟨rfl, n, rfl⟩
  simp only [wp_bind, wp_appendProofEvent, bindPost_ok, wp_writeState, recordDispatchedPlan,
    wp_modify, appendHealth, wp_assist, wp_self, wp_releasePreparedPlanDir, wp_if, wp_pure,
    setD_d, releaseOpt_d, hstore, Bool.true_eq_false, false_implies, and_true]
  refine ⟨fun _ => ⟨⟨n, ?_⟩, ?_, ?_, ?_, ?_⟩, fun hnone => ⟨⟨n, ?_⟩, ?_, ?_, ?_, ?_⟩⟩
  · simp [airRecord, Settlement.airRecord]
  · exact fun h => ⟨h.preparation, h.pendingReload, h.qualityRecovery⟩
  · exact hsettle
  · rfl
  · simpa [runs] using hruns
  · have hnone : pending.planDir = none := by simpa using hnone
    simp [airRecord, Settlement.airRecord, hnone]
  · intro h
    exact ⟨by simpa using h.preparation, by simpa using h.pendingReload,
      by simpa using h.qualityRecovery⟩
  · simpa using hsettle
  · simp
  · simpa [runs] using hruns

/-- Starts and reloads read no status. -/
lemma IsInner.keepsApplied {α : Type} {p : DaemonM α} (hp : IsInner p) {a : Option Settlement}
    (hw : w.applied = a) : p.wp (machine q) (fun _ w' => w'.applied = a) w := by
  refine keeps_iff.mp (Uses.keeps hp (fun _ _ _ _ => trivial) ?_) w hw
  intro v o x ho hv _
  rw [← hv]
  exact (next_registers ho).1

lemma inner_settleAborted (pending : Settlement) : IsInner (settle setup pending .aborted) := by
  have hretry : IsInner (retryAbortedBoundaryReload setup pending) := by
    unfold retryAbortedBoundaryReload
    split
    · exact uses_pure
    · refine uses_bind tame_self.inner fun d => uses_ite uses_pure ?_
      exact uses_ask trivial fun _ => uses_ask trivial fun _ =>
        uses_bind (local_requestReload setup).inner fun _ => uses_pure
  refine uses_bind tame_beforeSwitch.inner fun early => uses_ite (inner_call trivial) ?_
  refine uses_bind hretry fun retried => uses_ite uses_pure ?_
  exact uses_ask trivial fun _ => tidy_fallBackToRestartReload.inner

lemma inner_dropAndFallBack {reason : DropReason} {planEndAt : Option Instant} :
    IsInner (call (.dropSettle reason) >>= fun _ =>
      fallBackToRestartReload false none planEndAt) :=
  uses_ask trivial fun _ => tidy_fallBackToRestartReload.inner

/-- Whatever else a status makes the daemon do, only an applied one is marked as applied;
and then the commit runs. -/
lemma settle_records (hstore : q.storeWorks = true) {pending : Settlement}
    (hbefore : w.applied ≠ some pending) {result : ReloadResult} :
    (settle setup pending result).wp (machine q)
      (fun _ w' => w'.applied = some pending → Settled pending w w') w := by
  have hother : ∀ {p : DaemonM Unit}, IsInner p →
      p.wp (machine q) (fun _ w' => w'.applied = some pending → Settled pending w w') w := by
    intro p hp
    refine wp_mono ?_ (hp.keepsApplied rfl)
    intro _ w' hw' happlied
    exact absurd (hw' ▸ happlied) hbefore
  cases result with
  | aborted => exact hother (inner_settleAborted pending)
  | unrecognized => exact hother inner_dropAndFallBack
  | applied =>
    simp only [settle, wp_bind, wp_processPoll, bindPost_ok]
    intro m _ _ code hcode
    refine wp_if.mpr ⟨fun _ => ?_, fun halive => ?_⟩
    · refine wp_mono ?_ (inner_dropAndFallBack.keepsApplied rfl)
      intro _ w' hw' happlied
      rw [hw', move_applied] at happlied
      exact absurd happlied hbefore
    · -- the worker runs, so the commit is on record
      have hruns : (w.move m).runs pending.process = true := by
        rw [← hcode]
        simpa using halive
      simp only [wp_mark, wp_modify, wp_bind, bindPost_ok]
      intro _
      refine wp_mono ?_ (commit_records hstore rfl hruns)
      intro _ w' hw' _
      refine ⟨hw'.onRecord, fun h => hw'.unasked ?_, hw'.settle, ?_, hw'.running⟩
      · simpa [marked] using ⟨h.preparation, h.pendingReload, h.qualityRecovery⟩
      · rw [hw'.process]
        simp [marked]

lemma pollReloadSettlement_records (hstore : q.storeWorks = true) {pending : Settlement}
    (hpending : w.d.settle = some pending) (hbefore : w.applied ≠ some pending) :
    (pollReloadSettlement setup).wp (machine q)
      (fun _ w' => w'.applied = some pending → Settled pending w w') w := by
  simp only [pollReloadSettlement, wp_bind, wp_self, bindPost_ok, hpending, wp_call, next]
  intro m _ _ status _ _
  have hmoved : (w.move m).applied ≠ some pending := by simpa using hbefore
  split
  · refine wp_mono ?_ (settle_records hstore hmoved)
    intro _ w' hw' happlied
    obtain ⟨honRecord, hunasked, hsettle, hprocess, hrunning⟩ := hw' happlied
    exact ⟨honRecord, by simpa using hunasked, hsettle, by simpa using hprocess, hrunning⟩
  · rw [wp_bind, wp_monotonic]
    intro now _
    refine wp_if.mpr ⟨fun _ => ?_, fun _ happlied => absurd happlied hmoved⟩
    refine wp_mono ?_ (inner_dropAndFallBack.keepsApplied rfl)
    intro _ w' hw' happlied
    exact absurd (hw' ▸ happlied) hmoved

end Commit

/-! ## Applied hand-offs in a run -/

/-- When a poll reads `applied` for the pending reload, with its worker alive and a store
that works, the applied plan is on record at once; and it stays on record in every run of
polls, whatever the store does then, unless something else was asked for. -/
theorem applied_handoff_is_recorded (setup : Setup) {pending : Settlement} {w w₁ : World}
    (hpending : w.d.settle = some pending) (hbefore : w.applied ≠ some pending)
    (hpoll : Step setup (machine { storeWorks := true }) w .pollReloadSettlement w₁)
    (happlied : w₁.applied = some pending) :
    ∃ event, w₁.airRecord = pending.airRecord event ∧
      (Unasked w.d → w.d.process = some pending.process → ∀ es w₂,
        Run setup (machine { workerStays := true, guardsContent := true })
          (fun _ e => e.isPoll = true) w₁ es w₂ →
        w₂.airRecord = pending.airRecord event) := by
  obtain ⟨r, hexec⟩ := hpoll
  have hsettled : Settled pending w w₁ :=
    hexec.post (pollReloadSettlement_records rfl hpending hbefore) happlied
  obtain ⟨event, hevent⟩ := hsettled.onRecord
  refine ⟨event, hevent, fun hunasked hprocess es w₂ hrun => ?_⟩
  have hrest : AtRest (pending.airRecord event) w₁ :=
    ⟨hsettled.unasked hunasked, hsettled.settle,
      ⟨_, hsettled.process.trans hprocess, hsettled.running⟩, hevent⟩
  exact (hrun.atRest rfl rfl hrest).onRecord

namespace Gov

/-- On air, with a reload the worker has taken. -/
def reloading : World :=
  play preparing boot [(.command operatorStart, scheduled), (.command operatorReload, scheduled)]

/-- The worker applies the reload just before the poll. -/
def applies : Env := { scheduled with move := .applies }

/-- The same, but the store does not take the proof event. -/
def appliesUnproven : Env := { applies with appendProof := .error .other }

/-- The poll that reads `applied` and raises. -/
def unproven : World := play preparing reloading [(.pollReloadSettlement, appliesUnproven)]

end Gov

open Gov in
/-- A write that raises loses the hand-off: no run of polls, with whatever store, brings the
applied plan on record. -/
theorem applied_handoff_is_lost :
    ¬ ∀ (setup : Setup) (config : Option Config) (row : Option StateRow) (before : List Event)
      (pending : Settlement) (w w₁ : World),
      Run setup (machine {}) (fun _ _ => True) (.boot config row) before w →
      w.d.settle = some pending → w.applied ≠ some pending → Unasked w.d →
      w.d.process = some pending.process →
      Step setup (machine {}) w .pollReloadSettlement w₁ → w₁.applied = some pending →
      ∃ es w₂ event, Run setup (machine { workerStays := true, guardsContent := true })
        (fun _ e => e.isPoll = true) w₁ es w₂ ∧ w₂.airRecord = pending.airRecord event := by
  intro h
  have hreach : Run preparing (machine {}) (fun _ _ => True) boot _ reloading :=
    run_of_play preparing _ (fun _ _ _ => trivial) (by decide +kernel)
  have hpoll : Step preparing (machine {}) reloading .pollReloadSettlement unproven :=
    step_of_play preparing (by decide +kernel)
  obtain ⟨pending, hpending⟩ : ∃ pending, reloading.d.settle = some pending :=
    isSome_iff_exists.mp (by decide +kernel)
  have happlied : unproven.applied = reloading.d.settle := by decide +kernel
  have hidle : reloading.applied ≠ reloading.d.settle := by decide +kernel
  have hprocess : reloading.d.process = reloading.d.settle.map (·.process) := by decide +kernel
  have hunasked : Unasked reloading.d :=
    ⟨by decide +kernel, by decide +kernel, by decide +kernel⟩
  obtain ⟨es, w₂, event, hrun, hrecord⟩ := h preparing _ _ _ pending _ _ hreach hpending
    (hpending ▸ hidle) hunasked (by simpa [hpending] using hprocess) hpoll (hpending ▸ happlied)
  have hrest : AtRest unproven.airRecord unproven := by
    refine ⟨⟨by decide +kernel, by decide +kernel, by decide +kernel⟩, by decide +kernel, ?_, rfl⟩
    obtain ⟨p, hp⟩ : ∃ p, unproven.d.process = some p :=
      isSome_iff_exists.mp (by decide +kernel)
    have hruns : unproven.d.process.all unproven.runs = true := by decide +kernel
    exact ⟨p, hp, by simpa [hp] using hruns⟩
  have hsame : w₂.airRecord = unproven.airRecord := (hrun.atRest rfl rfl hrest).onRecord
  have hdir : unproven.d.activeDir = pending.planDir :=
    congrArg AirRecord.activeDir (hsame.symm.trans hrecord)
  have hother : reloading.d.settle.map (·.planDir) ≠ some unproven.d.activeDir := by
    decide +kernel
  simp [hpending, hdir] at hother

open Gov in
/-- With a store that works the poll commits. -/
theorem applied_handoff_is_recorded_gov :
    ∃ pending, reloading.d.settle = some pending ∧ ∃ event,
      (play preparing reloading [(.pollReloadSettlement, applies)]
        { storeWorks := true }).airRecord = pending.airRecord event := by
  obtain ⟨pending, hpending⟩ : ∃ pending, reloading.d.settle = some pending :=
    isSome_iff_exists.mp (by decide +kernel)
  have hidle : reloading.applied ≠ reloading.d.settle := by decide +kernel
  have happlied : (play preparing reloading [(.pollReloadSettlement, applies)]
      { storeWorks := true }).applied = reloading.d.settle := by decide +kernel
  obtain ⟨event, hevent, _⟩ := applied_handoff_is_recorded preparing hpending (hpending ▸ hidle)
    (step_of_play preparing (by decide +kernel)) (hpending ▸ happlied)
  exact ⟨pending, hpending, event, hevent⟩

end Daemon

end CivicCast.Egress
