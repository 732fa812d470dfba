import CivicCast.Supervisor.Interlock

/-! # No writer in a held state

A *writer* is a control plane spawned in normal mode. The supervisor can only
stop the one control plane it tracks, so the invariant has two halves: every
live writer is the tracked one (`Tracked`), and in a blocked state or in
maintenance there is none (`NoWriter`).

Assertions come in two strengths, each with a condition `P` on the state and
the interlock memory: `Up P` allows the tracked writer, `Down P` allows none.
A start of the control plane leads from `Down P` to `Up P`, a stop back.
-/

namespace CivicCast.Supervisor

open Lib Lib.Prog

/-! ## Assertions -/

/-- A control plane spawned in normal mode. -/
def Process.IsWriter (p : Process) : Prop := p.name = .controlPlane ∧ p.mode = .normal

def NoWriter (w : World) : Prop := ∀ p ∈ w.live, ¬ p.IsWriter

/-- Every live writer is the control plane the supervisor tracks, in the mode
it tracks. -/
def Tracked (w : World) : Prop :=
  ∀ p ∈ w.live, p.IsWriter →
    w.sup.handles .controlPlane = some p.handle ∧ w.sup.cpMode = some .normal

/-- A condition on the state and the interlock memory. -/
abbrev Posture : Type := SupervisorState → Option InterlockStatus → Prop

def Up (P : Posture) (w : World) : Prop := Tracked w ∧ P w.sup.state w.sup.prevInterlock

def Down (P : Posture) (w : World) : Prop := NoWriter w ∧ P w.sup.state w.sup.prevInterlock

variable {w : World} {o : Op} {t : Thread} {p : SupM α} {name : ChildName} {e : SupervisorEvent}

lemma NoWriter.tracked (h : NoWriter w) : Tracked w :=
  fun p hp hwriter => absurd hwriter (h p hp)

lemma Down.up {P : Posture} (h : Down P w) : Up P w := ⟨h.1.tracked, h.2⟩

lemma Tracked.noWriter_kill (h : Tracked w) {cp : Handle}
    (hcp : w.sup.handles .controlPlane = some cp) : NoWriter (w.kill cp) := by
  intro p hp hwriter
  rcases List.mem_filter.mp hp with ⟨hlive, hne⟩
  have htracked := (h p hlive hwriter).1
  rw [hcp] at htracked
  exact of_decide_eq_true hne (Option.some.inj htracked).symm

lemma Tracked.noWriter_of_none (h : Tracked w)
    (hnone : w.sup.handles .controlPlane = none) : NoWriter w := by
  intro p hp hwriter
  have htracked := (h p hp hwriter).1
  rw [hnone] at htracked
  cases htracked

lemma Tracked.noWriter_of_mode (h : Tracked w) (hmode : w.sup.cpMode ≠ some .normal) : NoWriter w :=
  fun p hp hwriter => hmode (h p hp hwriter).2

/-! ## Operations that leave the control plane alone -/

/-- Operations that neither spawn nor retrack a control plane and stay within
reconciliation. -/
def Quiet (o : Op) : Prop :=
  Reconciling o ∧ match o with
    | .spawn n _ => n ≠ .controlPlane
    | .write (.handle n _) => n ≠ .controlPlane
    | .write (.cpMode _) => False
    | _ => True

lemma Quiet.of_passive (h : Passive o) : Quiet o := by
  refine ⟨Reconciling.of_starting (.of_stopping (.of_passive h)), ?_⟩
  split <;> trivial

lemma Quiet.of_noting (h : Noting o) : Quiet o := by
  refine ⟨Reconciling.of_tending (Tending.of_noting h), ?_⟩
  unfold Noting at h
  split at h
  · trivial
  · trivial
  · trivial
  · trivial
  · exact (Quiet.of_passive h).2

lemma Quiet.of_startingChild (hname : name ≠ .controlPlane)
    (h : StartingChild name o) : Quiet o := by
  refine ⟨Reconciling.of_starting h.starting, ?_⟩
  split
  · exact fun hn => hname (h.symm.trans hn)
  · exact fun hn => hname (h.symm.trans hn)
  · exact hname h
  · trivial

lemma mem_kill {h : Handle} {p : Process} (hp : p ∈ (w.kill h).live) : p ∈ w.live :=
  (List.mem_filter.mp hp).1

lemma Quiet.next (x : Ans o) (ho : Quiet o) :
    (∀ p ∈ ((machine t).next w o x).live, p.IsWriter → p ∈ w.live) ∧
      ((machine t).next w o x).sup.handles .controlPlane = w.sup.handles .controlPlane ∧
      ((machine t).next w o x).sup.cpMode = w.sup.cpMode := by
  rcases ho with ⟨hrec, hquiet⟩
  cases o with
  | write wr =>
    cases wr with
    | handle n h => exact ⟨fun p hp _ => hp, Function.update_of_ne hquiet.symm _ _, rfl⟩
    | cpMode m => exact hquiet.elim
    | _ => exact ⟨fun p hp _ => hp, rfl, rfl⟩
  | spawn n spec =>
    cases x with
    | error e => exact ⟨fun p hp _ => hp, rfl, rfl⟩
    | ok h =>
      refine ⟨fun p hp hwriter => ?_, rfl, rfl⟩
      rcases List.mem_cons.mp hp with rfl | hp
      · exact absurd hwriter.1 hquiet
      · exact hp
  | isAlive h =>
    cases x with
    | true => exact ⟨fun p hp _ => hp, rfl, rfl⟩
    | false => exact ⟨fun p hp _ => mem_kill hp, rfl, rfl⟩
  | terminate h => exact ⟨fun p hp _ => mem_kill hp, rfl, rfl⟩
  | _ => exact ⟨fun p hp _ => hp, rfl, rfl⟩

variable {α : Type} {P : Posture} (setup : Setup)

lemma Quiet.up (x : Ans o) (ho : Quiet o) (hw : Up P w) : Up P ((machine t).next w o x) := by
  rcases ho.next x with ⟨hlive, hhandle, hmode⟩
  rcases reconciling_next (.inl ho.1) with ⟨hstate, hprev, -⟩
  refine ⟨fun p hp hwriter => ?_, ?_⟩
  · rw [hhandle, hmode]
    exact hw.1 p (hlive p hp hwriter) hwriter
  · rw [hstate, hprev]
    exact hw.2

lemma Quiet.down (x : Ans o) (ho : Quiet o) (hw : Down P w) : Down P ((machine t).next w o x) := by
  rcases ho.next x with ⟨hlive, -, -⟩
  rcases reconciling_next (.inl ho.1) with ⟨hstate, hprev, -⟩
  refine ⟨fun p hp hwriter => hw.1 p (hlive p hp hwriter) hwriter, ?_⟩
  rw [hstate, hprev]
  exact hw.2

/-- However it ends, `p` keeps `J`. -/
abbrev SupM.Stays (p : SupM α) (J : World → Prop) : Prop :=
  p.Keeps (machine .reconciler) J fun _ => True

/-- However it ends, `p` leads from `J` to `K`. -/
abbrev SupM.Moves (p : SupM α) (J K : World → Prop) : Prop :=
  p.Leads (machine .reconciler) J K fun _ => True

lemma stays_up (h : p.Uses Quiet fun _ => True) : p.Stays (Up P) :=
  h.keeps (fun _ _ _ _ => trivial) fun _ _ x ho hw _ => ho.up x hw

lemma stays_down (h : p.Uses Quiet fun _ => True) : p.Stays (Down P) :=
  h.keeps (fun _ _ _ _ => trivial) fun _ _ x ho hw _ => ho.down x hw

lemma uses_quiet (h : p.Uses Passive Benign) : p.Uses Quiet fun _ => True :=
  h.mono (fun _ => Quiet.of_passive) fun _ _ => trivial

lemma call_up (ho : Quiet o) : (call o).Stays (Up P) := stays_up (uses_call ho)

lemma call_down (ho : Quiet o) : (call o).Stays (Down P) := stays_down (uses_call ho)

/-! ## Starting children -/

lemma uses_quiet_startChild (hname : name ≠ .controlPlane) :
    (startChild setup name false).Uses Quiet fun _ => True :=
  uses_startChild.mono (fun _ => Quiet.of_startingChild hname)
    fun _ _ => trivial

lemma uses_quiet_assignChild {pid : ℕ} {acceptForeign : Bool} :
    (assignChild pid acceptForeign).Uses Quiet fun _ => True := by
  have h : (assignChild pid acceptForeign).Uses (StartingChild .ollama) Benign := uses_assignChild
  exact h.mono (fun _ => Quiet.of_startingChild (by decide)) fun _ _ => trivial

/-- The decide-and-spawn section of the control plane: without a writer
before, the new one is tracked after. -/
lemma decideAndSpawn_moves (spec : ChildSpec) :
    (decideAndSpawn .controlPlane false spec).Moves (Down P) (Up P) := by
  refine Keeps.bindLeads (call_down ⟨trivial, trivial⟩) (fun _ => Down.up) fun _ =>
    .andFinally ?_ (call_up ⟨trivial, trivial⟩)
  refine Keeps.bindLeads (stays_down (uses_quiet uses_abortRequested)) (fun _ => Down.up)
    fun _ => .ite (keeps_pure.leads fun _ => Down.up) ?_
  intro w hw
  refine ⟨trivial, fun (spawned : Except Fault Handle) _ => ?_⟩
  cases spawned with
  | error e => exact ⟨hw.up, fun _ _ => trivial⟩
  | ok h =>
    -- the four assignments after the spawn, up to the tracked mode
    refine ⟨trivial, fun _ _ => ⟨trivial, fun _ _ => ⟨trivial, fun _ _ =>
      ⟨trivial, fun _ _ => ?_⟩⟩⟩⟩
    refine Keeps.bind (stays_up uses_quiet_assignChild) (fun _ => keeps_pure) _ ?_
    refine ⟨fun p hp hwriter => ?_, hw.2⟩
    rcases List.mem_cons.mp hp with rfl | hp
    -- the new process is the tracked one, and before it there was no writer
    · exact ⟨rfl, rfl⟩
    · exact absurd hwriter (hw.1 p hp)

lemma guardWithholds_down : (guardWithholds .controlPlane false).Stays (Down P) :=
  .bind (call_down ⟨trivial, trivial⟩) fun _ => .ite keeps_pure <|
    .bind (call_down ⟨trivial, trivial⟩) fun _ =>
      .bind (call_down ⟨trivial, trivial⟩) fun _ => keeps_pure

lemma finishStart_up (handle : Handle) (result : ReadinessOutcome) :
    (finishStart .controlPlane handle result).Stays (Up P) := by
  have hwrite : ∀ s, (write (.childState .controlPlane s)).Stays (Up P) :=
    fun s => call_up ⟨trivial, trivial⟩
  cases result with
  | aborted => exact keeps_pure
  | ready | notReady | timeout => exact .bind (hwrite _) fun _ => keeps_pure

lemma launch_moves {spec : ChildSpec} :
    (launch .controlPlane false spec).Moves (Down P) (Up P) := by
  have hup : ∀ w, Down P w → Up P w := fun _ => Down.up
  refine Keeps.bindLeads guardWithholds_down hup fun _ =>
    .ite (keeps_pure.leads hup) (.bindKeeps (decideAndSpawn_moves spec) fun r => ?_)
  cases r with
  | none => exact keeps_pure
  | some handle =>
    exact .bind (stays_up (uses_quiet (uses_pollSpawned _ _ spec handle))) fun result =>
      finishStart_up handle result

/-- A start of the control plane needs that no writer is left, and leaves at
most the tracked one. -/
lemma startChild_moves : (startChild setup .controlPlane false).Moves (Down P) (Up P) := by
  have hup : ∀ w, Down P w → Up P w := fun _ => Down.up
  refine Keeps.bindLeads (stays_down (uses_quiet uses_sweepUnlessSwept)) hup fun _ =>
    Keeps.bindLeads (stays_down (uses_quiet uses_self)) hup fun _ =>
      .ite ?_ (keeps_pure.leads hup)
  exact launch_moves

/-! ## The maintenance control plane -/

lemma spawnMaintenance_down {spec : ChildSpec} (hspec : spec.mode = .maintenance) :
    (spawnMaintenance spec).Stays (Down P) := by
  refine .bind (call_down ⟨trivial, trivial⟩) fun _ =>
    Leads.andFinally ?_ (call_down ⟨trivial, trivial⟩)
  refine Keeps.bind (stays_down (uses_quiet uses_abortRequested)) fun _ =>
    .ite keeps_pure ?_
  intro w hw
  refine ⟨trivial, fun (spawned : Except Fault Handle) _ => ?_⟩
  cases spawned with
  | error e => exact ⟨hw, fun _ _ => trivial⟩
  | ok h =>
    refine ⟨trivial, fun _ _ => ⟨trivial, fun _ _ => ⟨trivial, fun _ _ => ?_⟩⟩⟩
    refine Keeps.bind (stays_down uses_quiet_assignChild)
      (fun _ => keeps_pure) _ ⟨fun p hp hwriter => ?_, hw.2⟩
    rcases List.mem_cons.mp hp with rfl | hp
    · cases hspec.symm.trans hwriter.2
    · exact hw.1 p hp hwriter

lemma uses_quiet_pollMaintenance : pollControlPlaneMaintenanceReady.Uses Quiet fun _ => True :=
  (uses_pollControlPlaneMaintenanceReady (fun _ => Quiet.of_passive)
    fun _ => ⟨trivial, trivial⟩).mono (fun _ => id) fun _ _ => trivial

lemma startControlPlaneMaintenance_down : startControlPlaneMaintenance.Stays (Down P) := by
  refine .bind (stays_down (uses_quiet uses_self)) fun _ => .ite ?_ keeps_pure
  change SupM.Stays (spawnMaintenance _ >>= _) (Down P)
  exact .bind (spawnMaintenance_down rfl) fun _ =>
    .ite (stays_down uses_quiet_pollMaintenance) keeps_pure

lemma launchMaintenance_down : launchMaintenance.Stays (Down P) :=
  .bind startControlPlaneMaintenance_down fun _ => keeps_pure

/-! ## Stopping the control plane -/

lemma dropControlPlane_moves : dropControlPlane.Moves (Up P) (Down P) := by
  intro w hw
  unfold dropControlPlane
  rw [wp_self]
  cases hcp : w.sup.handles .controlPlane with
  | none => exact ⟨⟨hw.1.noWriter_of_none hcp, hw.2⟩, nofun⟩
  | some cp =>
    refine ⟨trivial, fun _ _ => ⟨trivial, fun _ _ => ?_⟩⟩
    exact ⟨⟨hw.1.noWriter_kill hcp, hw.2⟩, nofun⟩

lemma writeMode_down (m : Option CpMode) : (write (.cpMode m)).Stays (Down P) :=
  fun _ hw => ⟨trivial, fun _ _ => ⟨hw, nofun⟩⟩

lemma writeHandle_down {n : ChildName} (h : Option Handle) : (write (.handle n h)).Stays (Down P) :=
  fun _ hw => ⟨trivial, fun _ _ => ⟨hw, nofun⟩⟩

lemma stopControlPlane_moves : stopControlPlane.Moves (Up P) (Down P) :=
  .bindKeeps dropControlPlane_moves fun _ =>
    .bind (call_down ⟨trivial, trivial⟩) fun _ => writeMode_down none

/-- Whether or not the tracked control plane was still alive, it is not any
more. -/
lemma terminateIfAlive_moves (hw : Up P w) :
    (terminateIfAlive (w.sup.handles .controlPlane)).wp (machine .reconciler)
      (fun _ w' => Down P w') w := by
  cases hcp : w.sup.handles .controlPlane with
  | none => exact ⟨hw.1.noWriter_of_none hcp, hw.2⟩
  | some cp =>
    refine ⟨trivial, fun (alive : Bool) _ => ?_⟩
    cases alive with
    | false => exact ⟨hw.1.noWriter_kill hcp, hw.2⟩
    | true => exact ⟨trivial, fun _ _ => ⟨hw.1.noWriter_kill hcp, hw.2⟩⟩

lemma reconcileMaintenance_moves : reconcileMaintenance.Moves (Up P) (Down P) := by
  intro w hw
  unfold reconcileMaintenance
  rw [wp_self]
  cases hcp : w.sup.handles .controlPlane with
  | none => exact launchMaintenance_down w ⟨hw.1.noWriter_of_none hcp, hw.2⟩
  | some cp =>
    rw [wp_self]
    refine wp_ite (fun _ => ?_) fun hmode => ?_
    · -- a tracked writer is replaced
      exact Leads.bindKeeps stopControlPlane_moves (fun _ => launchMaintenance_down) w hw
    · -- the tracked control plane is no writer, so there is none
      have hdown : Down P w := ⟨hw.1.noWriter_of_mode hmode, hw.2⟩
      have hrepoll : repollMaintenance.Stays (Down P) :=
        .bind (stays_down (uses_quiet uses_self)) fun _ => .ite keeps_pure <|
          .bind (stays_down uses_quiet_pollMaintenance) fun _ => keeps_pure
      refine ⟨trivial, fun (alive : Bool) _ => ?_⟩
      refine Keeps.ite hrepoll launchMaintenance_down _ ?_
      exact (Quiet.down (o := .isAlive cp) alive ⟨trivial, trivial⟩ hdown)

/-! ## Reconciling -/

/-- Outside the held states; a held interlock is remembered only by a stopping
machine. -/
def Calm : Posture := fun s prev =>
  s.blocked = false ∧ s ≠ .maintenance ∧ (prev = some .held → s = .stopping)

lemma calm_transition {s : SupervisorState} {prev : Option InterlockStatus} (he : e.serving = true)
    (h : Calm s prev) : Calm (supervisorTransition s e) prev := by
  rcases h with ⟨hblocked, hmaint, hprev⟩
  refine ⟨?_, ?_, fun hheld => ?_⟩
  · revert he hblocked hmaint
    cases s <;> cases e <;> decide
  · revert he hblocked hmaint
    cases s <;> cases e <;> decide
  · rw [hprev hheld]
    exact transition_stopping e

lemma dispatch_calm (he : e.serving = true) : (dispatch e).Stays (Up Calm) :=
  fun _ hw => wp_dispatch.mpr ⟨⟨hw.1, calm_transition he hw.2⟩, nofun⟩

lemma dropStale_moves : (dropStale .controlPlane).Moves (Up P) (Down P) := by
  intro w hw
  unfold dropStale
  rw [wp_self]
  refine wp_seq (terminateIfAlive_moves hw) (fun r w' hw' => ?_)
    fun e w' hw' => ⟨hw', fun _ _ => trivial⟩
  exact Keeps.ite (writeHandle_down _) keeps_pure w' hw'

lemma markForRestart_up : (markForRestart [.controlPlane]).Stays (Up P) := by
  intro w hw
  unfold markForRestart
  rw [wp_self]
  refine wp_seq (terminateIfAlive_moves hw) (fun r w' hw' => ?_) fun e w' hw' =>
    ⟨hw'.up, fun _ _ => trivial⟩
  refine Keeps.leads ?_ (fun _ => Down.up) w' hw'
  exact Keeps.bind (writeHandle_down _) fun _ =>
    .bind (call_down ⟨trivial, trivial⟩) fun _ => keeps_pure

lemma markDownstreamForRestart_up (name : ChildName) :
    (markDownstreamForRestart name).Stays (Up P) := by
  cases name with
  | postgres => exact markForRestart_up
  | controlPlane | ollama => exact keeps_pure

lemma settleBackoff_calm {cfg : SupervisorConfig} {name : ChildName} {now : ℚ}
    (status : ChildStartStatus) : (settleBackoff cfg name now status).Stays (Up P) := by
  refine uses_settleBackoff.keeps (fun _ _ _ _ => trivial) ?_
  intro w o x ho hw _
  rcases ho.cases with ⟨n, b, rfl⟩ | ho
  · exact hw
  · exact (Quiet.of_passive ho).up x hw

lemma attemptRestart_calm (name : ChildName) (now : ℚ) :
    (attemptRestart setup name now).Stays (Up Calm) := by
  refine .bind (stays_up (uses_quiet uses_abortRequested)) fun _ => .ite keeps_pure ?_
  have hsettle : ∀ status, (settleBackoff setup.config name now status).Stays (Up Calm) :=
    fun status => settleBackoff_calm status
  by_cases hname : name = .controlPlane
  · subst hname
    -- the stale control plane is dropped first, so the start finds no writer
    exact Leads.bind dropStale_moves (fun _ => Down.up) fun _ =>
      Leads.bindKeeps (startChild_moves setup) fun outcome => hsettle outcome.status
  · have hdrop : (dropStale name).Stays (Up Calm) := by
      refine .bind (stays_up (uses_quiet uses_self)) fun s => .bind ?_ fun _ =>
        .ite (call_up ⟨trivial, hname⟩) keeps_pure
      cases s.handles name with
      | none => exact keeps_pure
      | some h =>
        exact .bind (call_up ⟨trivial, trivial⟩) fun _ => .ite
          (.bind (call_up ⟨trivial, trivial⟩) fun _ => keeps_pure) keeps_pure
    exact .bind hdrop fun _ =>
      .bind (stays_up (uses_quiet_startChild setup hname)) fun outcome =>
        hsettle outcome.status

lemma calm_recovering : Recovering (machine .reconciler) (Up Calm) fun _ => True where
  noting h := stays_up (h.mono (fun _ => Quiet.of_noting) fun _ _ => trivial)
  locked _ h := by
    refine .bind (call_up ⟨trivial, trivial⟩) fun _ =>
      Leads.andFinally ?_ (call_up ⟨trivial, trivial⟩)
    exact stays_up (h.mono (fun _ => Quiet.of_noting) fun _ _ => trivial)
  dispatch _ he := dispatch_calm he
  mark := markDownstreamForRestart_up

lemma recoverIfServing_calm (now : ℚ) : (recoverIfServing setup now).Stays (Up Calm) :=
  calm_recovering.recoverIfServing setup now calm_recovering (fun _ => id)
    (calm_recovering.recoverChildren setup now (fun name => attemptRestart_calm setup name now) _ _)

end CivicCast.Supervisor
