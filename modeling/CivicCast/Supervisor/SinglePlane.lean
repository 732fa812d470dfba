import CivicCast.Supervisor.WriterRun

/-! # One control plane at a time

The control plane is spawned from two places, `decideAndSpawn` and
`spawnMaintenance`, and both overwrite the tracked handle without looking at it.
So each of their callers has to drop the old process first: `Alone` (any live
control plane is the tracked one) is what holds between calls, `Vacant` (there is
none) is what a spawn needs. All callers but `start` see to that themselves;
`start` is a bring-up and takes the machine to be down.

That there is one at most is for every moment, also in the middle of a call, so the
programs are run on a machine that demands it before each operation (`plane`).
-/

namespace CivicCast.Supervisor

open Lib Lib.Prog

/-- The control planes that may be alive, in either mode. -/
def controlPlanes (w : World) : List Process := w.live.filter fun p => p.name = .controlPlane

def AtMostOne (w : World) : Prop := (controlPlanes w).length ≤ 1

instance (w : World) : Decidable (AtMostOne w) := inferInstanceAs (Decidable (_ ≤ _))

/-- The supervisor's machine, with one control plane at most demanded before every operation. -/
abbrev plane : Machine supIface World := (machine .reconciler).watch AtMostOne

/-! ## Assertions -/

def Vacant (w : World) : Prop := controlPlanes w = []

/-- A live control plane is the tracked one. -/
def Alone (w : World) : Prop :=
  Vacant w ∨ ∃ p, controlPlanes w = [p] ∧ w.sup.handles .controlPlane = some p.handle

variable {w : World} {o : Op}

lemma Vacant.alone (h : Vacant w) : Alone w := .inl h

lemma Alone.atMostOne (h : Alone w) : AtMostOne w := by
  rcases h with h | ⟨p, hp, _⟩
  · have h : controlPlanes w = [] := h
    simp [AtMostOne, h]
  · simp [AtMostOne, hp]

lemma controlPlanes_kill (w : World) (h : Handle) :
    controlPlanes (w.kill h) = (controlPlanes w).filter fun p => p.handle ≠ h := by
  simp only [controlPlanes, World.kill, List.filter_filter]
  congr 1
  funext p
  exact Bool.and_comm _ _

lemma Alone.vacant_kill (h : Alone w) {cp : Handle}
    (hcp : w.sup.handles .controlPlane = some cp) : Vacant (w.kill cp) := by
  unfold Vacant
  rw [controlPlanes_kill]
  rcases h with h | ⟨p, hp, htracked⟩
  · have h : controlPlanes w = [] := h
    simp [h]
  · rw [htracked] at hcp
    injection hcp with hcp
    simp [hp, hcp]

lemma Alone.vacant_of_none (h : Alone w)
    (hnone : w.sup.handles .controlPlane = none) : Vacant w := by
  rcases h with h | ⟨p, _, htracked⟩
  · exact h
  · rw [htracked] at hnone
    cases hnone

/-! ## Operations -/

/-- Operations that spawn no control plane. -/
def Spawnless : Op → Prop
  | .spawn n _ => n ≠ .controlPlane
  | _ => True

/-- Operations that neither spawn nor retrack a control plane. -/
def Aloof : Op → Prop
  | .spawn n _ => n ≠ .controlPlane
  | .write (.handle n _) => n ≠ .controlPlane
  | _ => True

lemma Aloof.spawnless (h : Aloof o) : Spawnless o := by
  cases o with
  | spawn n spec => exact h
  | _ => trivial

lemma Spawnless.sublist (x : Ans o) (ho : Spawnless o) :
    (controlPlanes (plane.next w o x)).Sublist (controlPlanes w) := by
  have hkill : ∀ h, (controlPlanes (w.kill h)).Sublist (controlPlanes w) := by
    intro h
    rw [controlPlanes_kill]
    exact List.filter_sublist
  cases o with
  | spawn n spec =>
    cases x with
    | error e => exact List.Sublist.refl _
    | ok h =>
      have hn : n ≠ .controlPlane := ho
      simp [controlPlanes, plane, Machine.watch, machine, effect, hn]
  | isAlive h =>
    cases x with
    | true => exact List.Sublist.refl _
    | false => exact hkill h
  | terminate h => exact hkill h
  | _ => exact List.Sublist.refl _

lemma Spawnless.vacant (x : Ans o) (ho : Spawnless o) (hw : Vacant w) :
    Vacant (plane.next w o x) := by
  have hw : controlPlanes w = [] := hw
  have hsub := ho.sublist (w := w) x
  rw [hw] at hsub
  exact List.sublist_nil.mp hsub

lemma Aloof.handle (x : Ans o) (ho : Aloof o) :
    (plane.next w o x).sup.handles .controlPlane = w.sup.handles .controlPlane := by
  cases o with
  | write wr =>
    cases wr with
    | handle n h =>
      have hn : n ≠ .controlPlane := ho
      simp [plane, Machine.watch, machine, effect, Write.apply, Function.update, hn.symm]
    | _ => rfl
  | spawn n spec | isAlive h => cases x <;> rfl
  | _ => rfl

lemma Aloof.alone (x : Ans o) (ho : Aloof o) (hw : Alone w) : Alone (plane.next w o x) := by
  have hsub := ho.spawnless.sublist (w := w) x
  rcases hw with hw | ⟨p, hp, htracked⟩
  · exact .inl (ho.spawnless.vacant x hw)
  · rw [hp] at hsub
    by_cases hnil : controlPlanes (plane.next w o x) = []
    · exact .inl hnil
    · right
      have hone : controlPlanes (plane.next w o x) = [p] := by
        apply hsub.eq_of_length_le
        have hpos := List.length_pos_iff.mpr hnil
        rw [List.length_singleton]
        omega
      refine ⟨p, hone, ?_⟩
      rw [ho.handle x]
      exact htracked

lemma Aloof.of_passive (h : Passive o) : Aloof o := by
  cases o with
  | spawn n spec => cases h
  | write wr =>
    cases wr with
    | handle n h' => cases h
    | _ => trivial
  | _ => trivial

lemma Aloof.of_noting (h : Noting o) : Aloof o := by
  unfold Noting at h
  split at h
  · trivial
  · trivial
  · trivial
  · trivial
  · exact Aloof.of_passive h

lemma Aloof.of_startingChild {name : ChildName} (hname : name ≠ .controlPlane)
    (h : StartingChild name o) : Aloof o := by
  cases o with
  | spawn n spec =>
    have hn : n = name := h
    rw [Aloof, hn]
    exact hname
  | write wr =>
    cases wr with
    | handle n h' =>
      have hn : n = name := h
      rw [Aloof, hn]
      exact hname
    | _ => trivial
  | _ => trivial

lemma Aloof.of_settling (h : Settling o) : Aloof o := by
  rcases h.cases with ⟨n, b, rfl⟩ | hpassive
  · trivial
  · exact Aloof.of_passive hpassive

/-! ## Programs -/

section Programs

variable {α : Type} {p : SupM α} {ψ : PyError → Prop} {cfg : SupervisorConfig} {setup : Setup}

/-- However it ends, `p` keeps `J`, and one control plane at most is alive on the way. -/
abbrev SupM.Guards (p : SupM α) (J : World → Prop) : Prop := p.Keeps plane J fun _ => True

/-- However it ends, `p` leads from `J` to `K`, with one control plane at most on the way. -/
abbrev SupM.Brings (p : SupM α) (J K : World → Prop) : Prop := p.Leads plane J K fun _ => True

lemma guards_alone (h : p.Uses Aloof ψ) : p.Guards Alone :=
  (h.mono (fun _ => id) fun _ _ => trivial).keeps (fun _ _ _ hw => ⟨trivial, hw.atMostOne⟩)
    fun _ _ x ho hw _ => ho.alone x hw

lemma guards_vacant (h : p.Uses Spawnless ψ) : p.Guards Vacant :=
  (h.mono (fun _ => id) fun _ _ => trivial).keeps
    (fun _ _ _ hw => ⟨trivial, hw.alone.atMostOne⟩) fun _ _ x ho hw _ => ho.vacant x hw

lemma call_alone (ho : Aloof o) : (call o).Guards Alone :=
  guards_alone (uses_call ho : (call o).Uses Aloof Benign)

lemma call_vacant (ho : Spawnless o) : (call o).Guards Vacant :=
  guards_vacant (uses_call ho : (call o).Uses Spawnless Benign)

lemma uses_aloof (h : p.Uses Passive Benign) : p.Uses Aloof Benign :=
  h.mono (fun _ => Aloof.of_passive) fun _ => id

lemma uses_spawnless (h : p.Uses Aloof ψ) : p.Uses Spawnless ψ :=
  h.mono (fun _ => Aloof.spawnless) fun _ => id

lemma uses_aloof_startChild {name : ChildName} (hname : name ≠ .controlPlane) :
    (startChild setup name false).Uses Aloof Benign :=
  uses_startChild.mono (fun _ => Aloof.of_startingChild hname) fun _ => id

lemma uses_aloof_assignChild {pid : ℕ} {acceptForeign : Bool} :
    (assignChild pid acceptForeign).Uses Aloof Benign := by
  have h : (assignChild pid acceptForeign).Uses (StartingChild .ollama) Benign := uses_assignChild
  exact h.mono (fun _ => Aloof.of_startingChild (by decide)) fun _ => id

lemma uses_aloof_dispatch {event : SupervisorEvent} : (dispatch event).Uses Aloof Benign :=
  uses_ask trivial fun _ => uses_call trivial

lemma uses_aloof_pollMaintenance : pollControlPlaneMaintenanceReady.Uses Aloof Benign :=
  uses_pollControlPlaneMaintenanceReady (fun _ => Aloof.of_passive) fun _ => trivial

lemma uses_aloof_settleBackoff {name : ChildName} {now : ℚ}
    {status : ChildStartStatus} : (settleBackoff cfg name now status).Uses Aloof fun _ => True :=
  uses_settleBackoff.mono (fun _ => Aloof.of_settling) fun _ => id

lemma wp_plane_self {f : Sup → SupM α} {Q : Except PyError α → World → Prop}
    (hw : AtMostOne w) (h : (f w.sup).wp plane Q w) : (self >>= f).wp plane Q w := by
  constructor
  · exact ⟨trivial, hw⟩
  · rintro s rfl
    exact h

/-! ### The two spawns -/

/-- The only control plane is the one just spawned, tracked or not. -/
def Fresh (h : Handle) (w : World) : Prop :=
  ∃ mode, controlPlanes w = [⟨h, .controlPlane, mode⟩]

lemma Fresh.atMostOne {h : Handle} (hw : Fresh h w) : AtMostOne w := by
  rcases hw with ⟨mode, hone⟩
  simp [AtMostOne, hone]

/-- A spawn needs that no control plane is left; its failure leaves none. -/
lemma spawn_alone {spec : ChildSpec} {f : Except Fault Handle → SupM α}
    (herror : ∀ e, (f (.error e)).Guards Alone) (hok : ∀ h, (f (.ok h)).Brings (Fresh h) Alone) :
    SupM.Brings (call (.spawn .controlPlane spec) >>= f) Vacant Alone := by
  intro w hw
  constructor
  · exact ⟨trivial, hw.alone.atMostOne⟩
  · intro spawned _
    cases spawned with
    | error e => exact herror e _ hw.alone
    | ok h =>
      have hw : controlPlanes w = [] := hw
      apply hok
      refine ⟨spec.mode, ?_⟩
      simp only [controlPlanes] at hw
      simp [controlPlanes, plane, Machine.watch, machine, effect, hw]

/-- The handle is tracked before anything can raise. -/
lemma track_fresh (h : Handle) :
    (write (.handle .controlPlane (some h))).Brings (Fresh h) Alone := by
  intro w hw
  constructor
  · exact ⟨trivial, hw.atMostOne⟩
  · intro _ _
    constructor
    · rcases hw with ⟨mode, hone⟩
      exact .inr ⟨_, hone, rfl⟩
    · intro _ _
      trivial

lemma uses_aloof_trackMode {name : ChildName} {maintenance : Bool} :
    (trackMode name maintenance).Uses Aloof Benign :=
  uses_ite (uses_call trivial) uses_pure

lemma unlessAborted_alone (called : α) (hp : p.Brings Vacant Alone) :
    SupM.Brings (withLifecycleLock do if ← abortRequested then return called else p)
      Vacant Alone := by
  have habort := guards_vacant (uses_spawnless (uses_aloof uses_abortRequested))
  refine Keeps.bindLeads (call_vacant trivial) (fun _ => Vacant.alone) fun _ =>
    .andFinally ?_ (call_alone trivial)
  exact Keeps.bindLeads habort (fun _ => Vacant.alone) fun _ =>
    .ite (keeps_pure.leads fun _ => Vacant.alone) hp

lemma decideAndSpawn_alone (spec : ChildSpec) :
    (decideAndSpawn .controlPlane false spec).Brings Vacant Alone := by
  apply unlessAborted_alone
  apply spawn_alone
  · intro e
    exact keeps_raise trivial
  · intro h w hw
    -- the latch of a blocked start is cleared before the handle is tracked
    refine ⟨⟨trivial, hw.atMostOne⟩, fun _ _ => ?_⟩
    have htracked : SupM.Brings (write (.handle .controlPlane (some h)) >>= fun _ =>
        write (.childState .controlPlane .starting) >>= fun _ =>
        trackMode .controlPlane false >>= fun _ =>
        assignOnSpawn .controlPlane h >>= fun _ => pure (some h)) (Fresh h) Alone := by
      refine .bindKeeps (track_fresh h) fun _ => .bind (call_alone trivial) fun _ => ?_
      refine .bind (guards_alone uses_aloof_trackMode) fun _ => ?_
      exact .bind (guards_alone uses_aloof_assignChild) fun _ => keeps_pure
    exact htracked _ hw

lemma spawnMaintenance_alone {spec : ChildSpec} : (spawnMaintenance spec).Brings Vacant Alone := by
  apply unlessAborted_alone
  apply spawn_alone
  · intro e
    exact keeps_raise trivial
  · intro h
    change SupM.Brings (write (.handle .controlPlane (some h)) >>= _) (Fresh h) Alone
    refine .bindKeeps (track_fresh h) fun _ => .bind (call_alone trivial) fun _ => ?_
    refine .bind (call_alone trivial) fun _ => ?_
    exact .bind (guards_alone uses_aloof_assignChild) fun _ => keeps_pure

/-! ### Starting the control plane -/

lemma uses_aloof_guardWithholds (name : ChildName) (maintenance : Bool) :
    (guardWithholds name maintenance).Uses Aloof Benign :=
  uses_ite (uses_ask trivial fun _ => uses_ite uses_pure <|
    uses_ask trivial fun _ => uses_ask trivial fun _ =>
      uses_pure) uses_pure

lemma uses_aloof_finishStart (handle : Handle) (result : ReadinessOutcome) :
    (finishStart .controlPlane handle result).Uses Aloof Benign := by
  cases result with
  | aborted => exact uses_pure
  | ready | notReady | timeout => exact uses_ask trivial fun _ => uses_pure

lemma launch_alone (spec : ChildSpec) : (launch .controlPlane false spec).Brings Vacant Alone := by
  have hguard := guards_vacant (uses_spawnless (uses_aloof_guardWithholds .controlPlane false))
  refine Keeps.bindLeads hguard (fun _ => Vacant.alone) fun _ =>
    .ite (keeps_pure.leads fun _ => Vacant.alone) ?_
  refine Leads.bindKeeps (decideAndSpawn_alone spec) fun spawned => ?_
  cases spawned with
  | none => exact keeps_pure
  | some handle =>
    have hpoll := guards_alone (uses_aloof (uses_pollSpawned .controlPlane false spec handle))
    exact .bind hpoll fun result => guards_alone (uses_aloof_finishStart handle result)

lemma startChild_alone : (startChild setup .controlPlane false).Brings Vacant Alone := by
  have hsweep := guards_vacant (uses_spawnless (uses_aloof uses_sweepUnlessSwept))
  have hself := guards_vacant (uses_spawnless (uses_aloof uses_self))
  refine Keeps.bindLeads hsweep (fun _ => Vacant.alone) fun _ => ?_
  refine Keeps.bindLeads hself (fun _ => Vacant.alone) fun _ =>
    .ite ?_ (keeps_pure.leads fun _ => Vacant.alone)
  exact launch_alone _

lemma startControlPlaneMaintenance_alone : startControlPlaneMaintenance.Brings Vacant Alone := by
  have hself := guards_vacant (uses_spawnless (uses_aloof uses_self))
  refine Keeps.bindLeads hself (fun _ => Vacant.alone) fun _ =>
    .ite ?_ (keeps_pure.leads fun _ => Vacant.alone)
  change SupM.Brings (spawnMaintenance _ >>= _) Vacant Alone
  refine .bindKeeps spawnMaintenance_alone fun spawned => ?_
  exact .ite (guards_alone uses_aloof_pollMaintenance) keeps_pure

lemma launchMaintenance_alone : launchMaintenance.Brings Vacant Alone :=
  .bindKeeps startControlPlaneMaintenance_alone fun _ => keeps_pure

/-! ### Dropping the control plane -/

lemma dropControlPlane_vacant : dropControlPlane.Brings Alone Vacant := by
  intro w hw
  apply wp_plane_self hw.atMostOne
  cases hcp : w.sup.handles .controlPlane with
  | none => exact ⟨hw.vacant_of_none hcp, fun _ _ => trivial⟩
  | some cp =>
    have hkilled : Vacant (plane.next w (.terminate cp) ()) := hw.vacant_kill hcp
    refine ⟨⟨trivial, hw.atMostOne⟩, fun _ _ => ?_⟩
    exact call_vacant (o := .write (.handle .controlPlane none)) trivial _ hkilled

lemma stopControlPlane_vacant : stopControlPlane.Brings Alone Vacant :=
  .bindKeeps dropControlPlane_vacant fun _ => .bind (call_vacant trivial) fun _ =>
    call_vacant trivial

lemma terminateIfAlive_vacant (hw : Alone w) :
    (terminateIfAlive (w.sup.handles .controlPlane)).wp plane (fun _ w' => Vacant w') w := by
  cases hcp : w.sup.handles .controlPlane with
  | none => exact hw.vacant_of_none hcp
  | some cp =>
    refine ⟨⟨trivial, hw.atMostOne⟩, fun (alive : Bool) _ => ?_⟩
    cases alive with
    | false => exact hw.vacant_kill hcp
    | true => exact ⟨⟨trivial, hw.atMostOne⟩, fun _ _ => hw.vacant_kill hcp⟩

lemma uses_aloof_terminateIfAlive (h : Option Handle) : (terminateIfAlive h).Uses Aloof Benign := by
  cases h with
  | none => exact uses_pure
  | some h =>
    exact uses_ask trivial fun _ => uses_ite (uses_ask trivial fun _ => uses_pure) uses_pure

/-! ### The tick -/

lemma self_alone : self.Guards Alone := guards_alone (uses_aloof uses_self)

lemma abortRequested_alone : abortRequested.Guards Alone :=
  guards_alone (uses_aloof uses_abortRequested)

lemma dispatch_alone (event : SupervisorEvent) : (dispatch event).Guards Alone :=
  guards_alone uses_aloof_dispatch

lemma stopControlPlane_alone : stopControlPlane.Guards Alone := by
  intro w hw
  refine wp_mono ?_ (stopControlPlane_vacant w hw)
  intro r w' h
  exact ⟨h.1.alone, h.2⟩

lemma onInterlockFreed_alone : onInterlockFreed.Guards Alone :=
  .bind (call_alone trivial) fun _ => .bind (dispatch_alone _) fun _ =>
    .ite (.bind stopControlPlane_alone fun _ => keeps_pure) keeps_pure

lemma pollInterlock_alone : pollInterlock.Guards Alone := by
  refine .bind (call_alone trivial) fun _ => .bind self_alone fun _ =>
    .bind (call_alone trivial) fun _ => ?_
  refine .ite (.bind (dispatch_alone _) fun _ => keeps_pure) ?_
  exact .ite (.bind onInterlockFreed_alone fun _ => keeps_pure) keeps_pure

lemma guardBlockIfDualRuntime_alone (now : ℚ) : (guardBlockIfDualRuntime cfg now).Guards Alone := by
  refine .bind self_alone fun _ => .ite ?_ keeps_pure
  refine .bind (call_alone trivial) fun _ => .bind (call_alone trivial) fun _ =>
    .ite keeps_pure ?_
  exact .bind (dispatch_alone _) fun _ => .bind stopControlPlane_alone fun _ =>
    keeps_pure

lemma guardReconcileWhileBlocked_alone (now : ℚ) :
    (guardReconcileWhileBlocked cfg now).Guards Alone := by
  refine .bind self_alone fun _ => .ite ?_ keeps_pure
  refine .bind (call_alone trivial) fun _ => .bind (call_alone trivial) fun _ =>
    .ite ?_ ?_
  · exact .bind (dispatch_alone _) fun _ => .bind (call_alone trivial) fun _ =>
      keeps_pure
  · exact .bind (dispatch_alone _) fun _ => keeps_pure

lemma resumeToServing_alone : (resumeToServing setup).Guards Alone := by
  refine Leads.bind dropControlPlane_vacant (fun _ => Vacant.alone) fun _ =>
    Leads.bind (call_vacant trivial) (fun _ => Vacant.alone) fun _ => ?_
  refine .bindKeeps startChild_alone fun _ => .bind self_alone fun _ => ?_
  exact .ite (dispatch_alone _) keeps_pure

/-- A live maintenance control plane is polled again, never spawned twice. -/
lemma reconcileMaintenance_alone : reconcileMaintenance.Guards Alone := by
  intro w hw
  apply wp_plane_self hw.atMostOne
  cases hcp : w.sup.handles .controlPlane with
  | none => exact launchMaintenance_alone w (hw.vacant_of_none hcp)
  | some cp =>
    apply wp_plane_self hw.atMostOne
    refine wp_ite (fun _ => ?_) fun _ => ?_
    · -- a tracked writer is stopped first
      have hreplace : SupM.Guards (stopControlPlane >>= fun _ => launchMaintenance) Alone :=
        Leads.bind stopControlPlane_vacant (fun _ => Vacant.alone) fun _ =>
          launchMaintenance_alone
      exact hreplace w hw
    · refine ⟨⟨trivial, hw.atMostOne⟩, fun (alive : Bool) _ => ?_⟩
      cases alive with
      | true =>
        have hrepoll : repollMaintenance.Guards Alone :=
          .bind self_alone fun _ => .ite keeps_pure <|
            .bind (guards_alone uses_aloof_pollMaintenance) fun _ => keeps_pure
        exact hrepoll _ hw
      | false => exact launchMaintenance_alone _ (hw.vacant_kill hcp)

lemma markForRestart_alone {names : List ChildName} : (markForRestart names).Guards Alone := by
  induction names with
  | nil => exact keeps_pure
  | cons n rest ih =>
    have hrest : SupM.Guards (write (.childState n .failed) >>= fun _ =>
        markForRestart rest) Alone :=
      .bind (call_alone trivial) fun _ => ih
    by_cases hn : n = .controlPlane
    · -- the orphan is gone before its handle is dropped
      subst hn
      intro w hw
      apply wp_plane_self hw.atMostOne
      refine wp_seq (terminateIfAlive_vacant hw) (fun _ w' hw' => ?_)
        fun _ w' hw' => ⟨hw'.alone, fun _ _ => trivial⟩
      have hdrop : SupM.Brings (write (.handle .controlPlane none) >>= fun _ =>
          write (.childState .controlPlane .failed) >>= fun _ => markForRestart rest)
          Vacant Alone :=
        .bind (call_vacant trivial) (fun _ => Vacant.alone) fun _ =>
          fun w hw => hrest w hw.alone
      exact hdrop w' hw'
    · refine .bind self_alone fun _ => ?_
      refine .bind (guards_alone (uses_aloof_terminateIfAlive _)) fun _ => ?_
      exact .bind (call_alone hn) fun _ => hrest

lemma dropStale_vacant : (dropStale .controlPlane).Brings Alone Vacant := by
  intro w hw
  apply wp_plane_self hw.atMostOne
  refine wp_seq (terminateIfAlive_vacant hw) (fun terminated w' hw' => ?_)
    fun _ w' hw' => ⟨hw', fun _ _ => trivial⟩
  exact wp_ite (fun _ => call_vacant (o := .write (.handle .controlPlane none)) trivial w' hw')
    fun _ => ⟨hw', fun _ _ => trivial⟩

lemma attemptRestart_alone (name : ChildName) (now : ℚ) :
    (attemptRestart setup name now).Guards Alone := by
  have hsettle : ∀ outcome : ChildStartOutcome,
      (settleBackoff setup.config name now outcome.status).Guards Alone :=
    fun outcome => guards_alone uses_aloof_settleBackoff
  refine .bind abortRequested_alone fun _ => .ite keeps_pure ?_
  by_cases hn : name = .controlPlane
  · subst hn
    refine Leads.bind dropStale_vacant (fun _ => Vacant.alone) fun _ => ?_
    exact .bindKeeps startChild_alone hsettle
  · -- any other child is dropped and started out of the control plane's way
    have hdrop : (dropStale name).Guards Alone := by
      refine .bind self_alone fun _ => ?_
      refine .bind (guards_alone (uses_aloof_terminateIfAlive _)) fun _ => ?_
      exact .ite (call_alone hn) keeps_pure
    refine .bind hdrop fun _ => ?_
    exact .bind (guards_alone (uses_aloof_startChild hn)) hsettle

lemma alone_recovering : Recovering plane Alone fun _ => True where
  noting h := guards_alone (h.mono (fun _ => Aloof.of_noting) fun _ => id)
  locked _ h := by
    refine Keeps.bind (call_alone trivial) fun _ => Leads.andFinally ?_ (call_alone trivial)
    exact guards_alone (h.mono (fun _ => Aloof.of_noting) fun _ => id)
  dispatch e _ := dispatch_alone e
  mark _ := markForRestart_alone

lemma tick_alone (now : ℚ) : (tick setup now).Guards Alone := by
  have hrecover := alone_recovering.recoverIfServing setup now alone_recovering (fun _ => id)
    (alone_recovering.recoverChildren setup now (fun name => attemptRestart_alone name now)
      _ _)
  have hserve : (serve setup now).Guards Alone :=
    .bind self_alone fun _ => .ite
      (.bind (guardBlockIfDualRuntime_alone now) fun _ =>
        .ite keeps_pure hrecover) hrecover
  refine .bind abortRequested_alone fun _ => .ite keeps_pure ?_
  refine .bind pollInterlock_alone fun event => .bind self_alone fun _ =>
    .ite reconcileMaintenance_alone ?_
  refine .ite resumeToServing_alone ?_
  refine .bind self_alone fun _ => .ite ?_ hserve
  exact .bind (guardReconcileWhileBlocked_alone now) fun _ =>
    .ite hserve keeps_pure

/-! ### The other calls -/

lemma restartControlPlane_alone : (restartControlPlane setup).Guards Alone :=
  Leads.bind dropControlPlane_vacant (fun _ => Vacant.alone) fun _ =>
    Leads.bind (call_vacant trivial) (fun _ => Vacant.alone) fun _ => startChild_alone

lemma uses_aloof_drain (h : Option Handle) : (drain cfg h).Uses Aloof Benign := by
  have hloop : ∀ h deadline fuel, (drainLoop h deadline fuel).Uses Aloof Benign := by
    intro h deadline fuel
    induction fuel with
    | zero => exact uses_aloof uses_diverge
    | succ fuel ih =>
      refine uses_ask trivial fun _ => uses_ite ?_ uses_pure
      refine uses_ask trivial fun _ => uses_ite uses_pure ?_
      exact uses_ask trivial fun _ => ih
  cases h with
  | none => exact uses_pure
  | some h =>
    exact uses_ask trivial fun _ => uses_ask trivial fun _ =>
      uses_ask trivial fun _ => hloop _ _ _

lemma uses_aloof_closeJob : closeJob.Uses Aloof Benign := by
  refine uses_ask trivial fun s => ?_
  cases s.jobHandle with
  | none => exact uses_call trivial
  | some job =>
    exact uses_ask trivial fun _ => uses_ask trivial fun _ =>
      uses_ask trivial fun _ => uses_call trivial

lemma gracefulStop_alone : (gracefulStop cfg).Guards Alone := by
  have hlock : ∀ {β : Type} {body : SupM β}, body.Uses Aloof Benign →
      (withLifecycleLock body).Uses Aloof Benign := fun h =>
    uses_ask trivial fun _ => uses_andFinally h (uses_call trivial)
  have hpublish : publishStop.Uses Aloof Benign :=
    hlock <| uses_ask trivial fun _ => uses_bind uses_aloof_dispatch fun _ =>
      uses_ask trivial fun _ => uses_pure
  apply guards_alone
  exact uses_bind hpublish fun _ => uses_bind (uses_aloof_drain _) fun _ =>
    hlock uses_aloof_closeJob

lemma pollInterlock_vacant : pollInterlock.Guards Vacant := by
  have hdispatch : ∀ event, (dispatch event).Uses Spawnless Benign :=
    fun event => uses_spawnless uses_aloof_dispatch
  have hstop : stopControlPlane.Uses Spawnless Benign := by
    refine uses_bind (uses_ask trivial fun s => ?_) fun _ =>
      uses_ask trivial fun _ => uses_call trivial
    cases s.handles .controlPlane with
    | none => exact uses_pure
    | some cp => exact uses_ask trivial fun _ => uses_call trivial
  have hfreed : onInterlockFreed.Uses Spawnless Benign :=
    uses_ask trivial fun _ => uses_bind (hdispatch _) fun _ =>
      uses_ite (uses_bind hstop fun _ => uses_pure) uses_pure
  have hpoll : pollInterlock.Uses Spawnless Benign := by
    refine uses_ask trivial fun _ => uses_ask trivial fun _ =>
      uses_ask trivial fun _ => ?_
    exact uses_ite (uses_bind (hdispatch _) fun _ => uses_pure) <|
      uses_ite (uses_bind hfreed fun _ => uses_pure) uses_pure
  exact guards_vacant hpoll

lemma start_alone : (start setup).Brings Vacant Alone := by
  have hpure : (pure () : SupM Unit).Brings Vacant Alone := keeps_pure.leads fun _ => Vacant.alone
  have habort := guards_vacant (uses_spawnless (uses_aloof uses_abortRequested))
  have hchild : ∀ {name : ChildName}, name ≠ .controlPlane →
      (startChild setup name false).Guards Vacant :=
    fun hname => guards_vacant (uses_spawnless (uses_aloof_startChild hname))
  have hwriter : (startWriter setup).Brings Vacant Alone := by
    refine Keeps.bindLeads habort (fun _ => Vacant.alone) fun _ => Leads.ite hpure ?_
    refine Keeps.bindLeads pollInterlock_vacant (fun _ => Vacant.alone) fun _ =>
      .ite launchMaintenance_alone ?_
    exact .bindKeeps startChild_alone fun _ =>
      .ite (dispatch_alone _) keeps_pure
  have hinfra : (startInfra setup).Brings Vacant Alone := by
    refine Keeps.bindLeads habort (fun _ => Vacant.alone) fun _ => Leads.ite hpure ?_
    exact Keeps.bindLeads (hchild (by decide)) (fun _ => Vacant.alone) fun _ =>
      .ite hwriter hpure
  have hsweep := guards_vacant (uses_spawnless (uses_aloof uses_sweepOnce))
  refine Keeps.bindLeads hsweep (fun _ => Vacant.alone) fun _ => Leads.ite ?_ hinfra
  refine Keeps.bindLeads habort (fun _ => Vacant.alone) fun _ => Leads.ite hpure ?_
  exact Keeps.bindLeads (hchild (by decide)) (fun _ => Vacant.alone) fun _ => hinfra

/-- The same after a stop was published; nothing takes that back. -/
def Stopped (w : World) : Prop := Alone w ∧ w.sup.stopIntent = true

lemma Stopped.next (x : Ans o) (ho : Aloof o) (hw : Stopped w) : Stopped (plane.next w o x) := by
  constructor
  · exact ho.alone x hw.1
  · cases o with
    | write wr =>
      cases wr with
      | stopIntent => rfl
      | _ => exact hw.2
    | spawn n spec | isAlive h => cases x <;> exact hw.2
    | _ => exact hw.2

/-- A bring-up after a stop does not get past its first stop check. -/
lemma start_stopped : (start setup).Brings Stopped Alone := by
  have hkeeps : ∀ {β : Type} {p : SupM β}, p.Uses Aloof Benign → p.Guards Stopped := fun h =>
    (h.mono (fun _ => id) fun _ _ => trivial).keeps (fun _ _ _ hw => ⟨trivial, hw.1.atMostOne⟩)
      fun _ _ x ho hw _ => Stopped.next x ho hw
  have habort : ∀ (f : Bool → SupM Unit), f true = pure () →
      SupM.Brings (abortRequested >>= f) Stopped Alone := by
    intro f hf w hw
    refine ⟨⟨trivial, hw.1.atMostOne⟩, fun (intent : Bool) hintent => ?_⟩
    have hintent : intent = true := hintent.trans hw.2
    subst hintent
    change (f true).wp plane _ w
    rw [hf]
    exact ⟨hw.1, fun _ _ => trivial⟩
  refine Keeps.bindLeads (hkeeps (uses_aloof uses_sweepOnce)) (fun _ hw => hw.1) fun _ =>
    .ite (habort _ rfl) (habort _ rfl)

end Programs

/-! ## Whole runs -/

/-- A call on the supervisor. -/
inductive Request where
  | start
  | tick (now : ℚ)
  | restartControlPlane
  | gracefulStop

def Request.prog (setup : Setup) : Request → SupM Unit
  | .start => Supervisor.start setup
  | .tick now => Supervisor.tick setup now
  | .restartControlPlane => do
    let _outcome ← Supervisor.restartControlPlane setup
    return ()
  | .gracefulStop => Supervisor.gracefulStop setup.config

/-- The worlds between two calls, when every call satisfied `ok` where it was
made. Any process may exit in between, and a call may end in an exception. -/
inductive Serial (setup : Setup) (ok : Request → World → Prop) : World → Prop where
  | fresh : Serial setup ok World.fresh
  | exit {w : World} (hw : Serial setup ok w) (h : Handle) : Serial setup ok (w.kill h)
  | call {w w' : World} {r : Except PyError Unit} (hw : Serial setup ok w) (q : Request)
      (hq : ok q w) (h : Exec (machine .reconciler) (q.prog setup) w r w') : Serial setup ok w'

/-- The bring-up is called while no control plane is alive, or after a stop. -/
def BroughtUpOnce : Request → World → Prop
  | .start, w => controlPlanes w = [] ∨ w.sup.stopIntent = true
  | _, _ => True

/-- Under that condition every call keeps the invariant, and one control plane at most. -/
lemma Request.alone (setup : Setup) (q : Request) (hw : Alone w)
    (hq : BroughtUpOnce q w) : (q.prog setup).wp plane (fun _ w' => Alone w') w := by
  have hpost : ∀ {p : SupM Unit} {J : World → Prop}, J w → p.Brings J Alone →
      p.wp plane (fun _ w' => Alone w') w :=
    fun hJ hp => wp_mono (fun _ _ h => h.1) (hp w hJ)
  cases q with
  | start =>
    rcases hq with hvacant | hstop
    · have hvacant : Vacant w := hvacant
      exact hpost hvacant start_alone
    · have hstopped : Stopped w := ⟨hw, hstop⟩
      exact hpost hstopped start_stopped
  | tick now => exact hpost hw (tick_alone now)
  | restartControlPlane =>
    exact hpost hw (Keeps.bind restartControlPlane_alone fun _ => keeps_pure)
  | gracefulStop => exact hpost hw gracefulStop_alone

lemma Serial.alone {setup : Setup} (h : Serial setup BroughtUpOnce w) : Alone w := by
  induction h with
  | fresh => exact .inl rfl
  | exit _ h ih => exact Aloof.alone (o := .terminate h) () trivial ih
  | call _ q hq hexec ih => exact hexec.post (wp_of_watch (q.alone setup ih hq))

/-- At no moment of a run are two control planes alive. -/
theorem one_control_plane {setup : Setup} {w' : World} (hrun : Serial setup BroughtUpOnce w)
    (q : Request) (hq : BroughtUpOnce q w)
    (hw' : Visits (machine .reconciler) (q.prog setup) w w') : AtMostOne w' :=
  hw'.holds (fun _ _ h => h.atMostOne) (q.alone setup hrun.alone hq)

/-! ### Two concrete runs -/

lemma serial_served {ok : Request → World → Prop} (hok : ok .start World.fresh) :
    Serial {} ok served := by
  rcases exec_of_returns (show World.fresh.completes {} (start {}) = true by decide +kernel)
    with ⟨_, hstart⟩
  exact .call .fresh .start hok hstart

/-- A second bring-up spawns a second control plane beside the first. -/
theorem second_start_spawns_beside :
    ¬ ∀ (setup : Setup) (w w' : World) (q : Request), Serial setup (fun _ _ => True) w →
      Visits (machine .reconciler) (q.prog setup) w w' → AtMostOne w' := by
  intro h
  rcases exec_of_returns (show served.completes {} (start {}) = true by decide +kernel)
    with ⟨_, hstart⟩
  have hone := h {} served (served.after {} (start {})) .start (serial_served trivial)
    hstart.visits
  revert hone
  decide +kernel

/-- An admin restart replaces it. -/
theorem one_control_plane_restarted :
    AtMostOne (served.after {} (Request.restartControlPlane.prog {})) := by
  rcases exec_of_returns
    (show served.completes {} (Request.restartControlPlane.prog {}) = true by decide +kernel)
    with ⟨_, hrestart⟩
  exact one_control_plane (serial_served (.inl rfl)) .restartControlPlane trivial
    hrestart.visits

end CivicCast.Supervisor
