import CivicCast.Supervisor.Writer

/-! # No writer in a held state, over a whole run

The calls of a run are atomic under the reconciliation lock. The admin
router's state check is not under that lock, so it is a step of its own: a
restart that passed it waits for the lock while ticks go on.

`WriterInv` is kept by every tick, by a bring-up of a machine without a
control plane and by a restart outside the held states. A restart that gets
the lock in a held state breaks it.
-/

namespace CivicCast.Supervisor

open Lib Lib.Prog Option

variable {α : Type} {P : Posture}

/-! ## The invariant -/

/-- Every live writer is tracked; a blocked or frozen machine has none; and a
held interlock is remembered only in maintenance or while stopping. -/
structure WriterInv (w : World) : Prop where
  tracked : Tracked w
  held : w.sup.state.blocked = true ∨ w.sup.state = .maintenance → NoWriter w
  memory : w.sup.prevInterlock = some .held →
    w.sup.state = .maintenance ∨ w.sup.state = .stopping

/-- Not frozen, perhaps blocked. -/
def Unfrozen : Posture := fun s prev => s ≠ .maintenance ∧ (prev = some .held → s = .stopping)

variable {w : World} {s : SupervisorState} {prev : Option InterlockStatus} {setup : Setup}

lemma Up.writerInv (h : Up Calm w) : WriterInv w where
  tracked := h.1
  held hheld := by
    rcases h with ⟨-, hblocked, hmaint, -⟩
    rcases hheld with hb | hm
    · cases hblocked.symm.trans hb
    · exact absurd hm hmaint
  memory hprev := .inr (h.2.2.2 hprev)

lemma Down.writerInv (h : Down Unfrozen w) : WriterInv w where
  tracked := h.1.tracked
  held _ := h.1
  memory hprev := .inr (h.2.2 hprev)

lemma unfrozen_guardBlock {action : GuardAction} (h : Unfrozen s prev) :
    Unfrozen (supervisorTransition s (guardBlockEvent action)) prev := by
  rcases h with ⟨hmaint, hprev⟩
  refine ⟨?_, fun hheld => ?_⟩
  · revert hmaint
    cases s <;> cases action <;> decide
  · rw [hprev hheld]
    exact transition_stopping _

/-- The continuous guard: a block ends without a writer. -/
lemma guardBlockIfDualRuntime_wp {cfg : SupervisorConfig} (now : ℚ) (hw : Up Calm w) :
    (guardBlockIfDualRuntime cfg now).wp (machine .reconciler)
      (fun r w' => (r = .ok false ∧ Up Calm w') ∨ (r ≠ .ok false ∧ Down Unfrozen w')) w := by
  unfold guardBlockIfDualRuntime
  rw [wp_self]
  refine wp_ite (fun _ => ?_) fun _ => .inl ⟨rfl, hw⟩
  refine ⟨trivial, fun _ _ => ⟨trivial, fun (action : GuardAction) _ => ?_⟩⟩
  refine wp_ite (fun _ => .inl ⟨rfl, hw⟩) fun _ => ?_
  refine wp_seq (R := fun r w' => r = .ok () ∧ Up Unfrozen w') (wp_dispatch.mpr ?_) ?_ ?_
  · exact ⟨rfl, hw.1, unfrozen_guardBlock ⟨hw.2.2.1, hw.2.2.2⟩⟩
  · rintro _ w' ⟨-, hw'⟩
    refine wp_seq (stopControlPlane_moves w' hw') ?_ ?_
    · rintro _ w'' ⟨hdown, -⟩
      exact .inr ⟨nofun, hdown⟩
    · rintro e w'' ⟨hdown, -⟩
      exact .inr ⟨nofun, hdown⟩
  · rintro e w' ⟨he, -⟩
    cases he

/-- Blocked, with no held interlock remembered. -/
def Blocked : Posture := fun s prev => s.blocked = true ∧ prev ≠ some .held

lemma Blocked.unfrozen (h : Blocked s prev) : Unfrozen s prev := by
  refine ⟨?_, fun hheld => absurd hheld h.2⟩
  rintro rfl
  cases h.1

lemma Blocked.calm_guardClear
    (h : Blocked s prev) : Calm (supervisorTransition s .guardClear) prev := by
  rcases h with ⟨hblocked, hprev⟩
  refine ⟨?_, ?_, fun hheld => absurd hheld hprev⟩
  · revert hblocked
    cases s <;> decide
  · revert hblocked
    cases s <;> decide

/-- The guard while blocked: it clears to `starting` or stays blocked, and no
writer is started either way. -/
lemma guardReconcileWhileBlocked_wp {cfg : SupervisorConfig} (now : ℚ) (hw : Down Blocked w) :
    (guardReconcileWhileBlocked cfg now).wp (machine .reconciler)
      (fun r w' => (r = .ok true ∧ Up Calm w') ∨ (r = .ok false ∧ Down Unfrozen w')) w := by
  have hdown : Down Unfrozen w := ⟨hw.1, hw.2.unfrozen⟩
  unfold guardReconcileWhileBlocked
  rw [wp_self]
  refine wp_ite (fun _ => ?_) fun _ => .inr ⟨rfl, hdown⟩
  refine ⟨trivial, fun _ _ => ⟨trivial, fun (action : GuardAction) _ => ?_⟩⟩
  refine wp_ite (fun _ => ?_) fun _ => ?_
  · refine wp_seq (R := fun r w' => r = .ok () ∧ Up Calm w') (wp_dispatch.mpr ?_) ?_ ?_
    · exact ⟨rfl, hw.1.tracked, hw.2.calm_guardClear⟩
    · rintro _ w' ⟨-, hw'⟩
      exact ⟨trivial, fun _ _ => .inl ⟨rfl, hw'⟩⟩
    · rintro e w' ⟨he, -⟩
      cases he
  · refine wp_seq (R := fun r w' => r = .ok () ∧ Down Unfrozen w') (wp_dispatch.mpr ?_) ?_ ?_
    · exact ⟨rfl, hdown.1, unfrozen_guardBlock hdown.2⟩
    · rintro _ w' ⟨-, hw'⟩
      exact .inr ⟨rfl, hw'⟩
    · rintro e w' ⟨he, -⟩
      cases he

/-! ## The calls -/

/-- After a poll that began in `w₀`: only a fresh freeze may still have its
writer, and what was calm stays calm unless the interlock is held. -/
structure Polled (w₀ : World) (event : Option SupervisorEvent) (w : World) : Prop where
  tracked : Tracked w
  blocked : w.sup.state.blocked = true → NoWriter w
  memory : w.sup.prevInterlock = some .held →
    w.sup.state = .maintenance ∨ w.sup.state = .stopping
  resumed : event = some .interlockFreedClear → w.sup.state.blocked = false
  noWriter : NoWriter w₀ → NoWriter w
  calm : Calm w₀.sup.state w₀.sup.prevInterlock → event ≠ some .interlockHeld →
    Calm w.sup.state w.sup.prevInterlock

/-- What the release edge dispatches leaves maintenance; only a clear verdict
is not a block. -/
lemma freed_transition (action : GuardAction) (hs : s = .maintenance ∨ s = .stopping) :
    supervisorTransition s (interlockFreedEvent action) ≠ .maintenance ∧
      (interlockFreedEvent action = .interlockFreedClear →
        (supervisorTransition s (interlockFreedEvent action)).blocked = false) := by
  rcases hs with rfl | rfl <;> cases action <;> decide

lemma calm_stopping {prev : Option InterlockStatus} : Calm .stopping prev :=
  ⟨rfl, by decide, fun _ => rfl⟩

lemma onInterlockFreed_polled {w₀ : World} (hw₀ : WriterInv w₀)
    (hprev₀ : w₀.sup.prevInterlock = some .held) (hlive : w.live = w₀.live) (htracked : Tracked w)
    (hprev : w.sup.prevInterlock = some .free) (hstate : w.sup.state = w₀.sup.state) :
    onInterlockFreed.wp (machine .reconciler) (fun r w' => match r with
      | .ok event => Polled w₀ (some event) w'
      | .error _ => WriterInv w') w := by
  refine ⟨trivial, fun (action : GuardAction) _ => ?_⟩
  change (dispatch (interlockFreedEvent action) >>= _).wp _ _ w
  have hmemory := hw₀.memory hprev₀
  rcases freed_transition action hmemory with ⟨hmaint, hclear⟩
  -- a calm machine that remembers a held interlock is stopping, and stays so
  have hcalm : Calm w₀.sup.state w₀.sup.prevInterlock →
      supervisorTransition w₀.sup.state (interlockFreedEvent action) = .stopping := by
    rintro ⟨-, -, hstopping⟩
    rw [hstopping hprev₀]
    exact transition_stopping _
  refine wp_seq (R := fun r w' => r = .ok () ∧ Tracked w' ∧ w'.live = w₀.live ∧
    w'.sup.prevInterlock = some .free ∧
    w'.sup.state = supervisorTransition w₀.sup.state (interlockFreedEvent action))
    (wp_dispatch.mpr ⟨rfl, htracked, hlive, hprev, by rw [hstate]⟩) ?_
    (fun e w' hw' => nomatch hw'.1)
  rintro _ w' ⟨-, htracked', hlive', hprev', hstate'⟩
  have hunheld : w'.sup.prevInterlock ≠ some .held := by
    rw [hprev']
    decide
  have hunfrozen : Unfrozen w'.sup.state w'.sup.prevInterlock :=
    ⟨hstate' ▸ hmaint, fun hheld => absurd hheld hunheld⟩
  refine wp_ite (fun hevent => ?_) fun hevent => ?_
  · -- a block: the control plane is stopped
    let P : Posture := fun s prev => s = w'.sup.state ∧ prev = w'.sup.prevInterlock
    refine wp_seq (stopControlPlane_moves (P := P) w' ⟨htracked', rfl, rfl⟩) ?_ ?_
    · rintro _ w'' ⟨⟨hdown, hs, hp⟩, -⟩
      refine ⟨hdown.tracked, fun _ => hdown, fun hheld => absurd (hp ▸ hheld) hunheld,
        fun h => absurd (some.inj h) hevent, fun _ => hdown, fun hcalm₀ _ => ?_⟩
      rw [hs, hstate', hcalm hcalm₀]
      exact calm_stopping
    · rintro e w'' ⟨⟨hdown, hs, hp⟩, -⟩
      have hdown' : Down Unfrozen w'' := ⟨hdown, by rw [hs, hp]; exact hunfrozen⟩
      exact hdown'.writerInv
  · -- a clear verdict
    have hunblocked : w'.sup.state.blocked = false := hstate' ▸ hclear (not_not.mp hevent)
    refine ⟨htracked', fun hb => ?_, fun hheld => absurd hheld hunheld, fun _ => hunblocked,
      fun hno p hp => hno p (hlive' ▸ hp), fun hcalm₀ _ => ?_⟩
    · cases hunblocked.symm.trans hb
    · rw [hstate', hcalm hcalm₀]
      exact calm_stopping

lemma pollInterlock_polled (hw : WriterInv w) :
    pollInterlock.wp (machine .reconciler) (fun r w' => match r with
      | .ok event => Polled w event w'
      | .error _ => WriterInv w') w := by
  refine ⟨trivial, fun (status : InterlockStatus) _ => ?_⟩
  change Prog.wp (machine .reconciler) (self >>= _) _ _
  rw [wp_self]
  refine ⟨trivial, fun _ _ => ?_⟩
  refine wp_ite (fun hedge => ?_) fun hnotHeld => wp_ite (fun hedge => ?_) fun _ => ?_
  · -- the edge into maintenance: the writer is still there
    have hfrozen : supervisorTransition w.sup.state .interlockHeld = .maintenance ∨
        supervisorTransition w.sup.state .interlockHeld = .stopping := by
      rcases transition_interlockHeld w.sup.state with h | h
      · exact .inl h
      · rw [h]
        exact .inr rfl
    refine wp_seq (R := fun r w' => r = .ok () ∧ Polled w (some .interlockHeld) w')
      (wp_dispatch.mpr ⟨rfl, hw.tracked, fun hb => ?_, fun _ => hfrozen, nofun,
        fun hno => hno, fun _ h => absurd rfl h⟩)
      (fun _ w' hw' => hw'.2) (fun e w' hw' => nomatch hw'.1)
    change (supervisorTransition w.sup.state .interlockHeld).blocked = true at hb
    rcases hfrozen with h | h <;> rw [h] at hb <;> cases hb
  · -- the release edge
    rcases hedge with ⟨hprev, hfree⟩
    subst hfree
    exact wp_seq (onInterlockFreed_polled hw hprev rfl hw.tracked rfl rfl)
      (fun event w' hw' => hw') fun e w' hw' => hw'
  · -- no edge
    have hstays : status = .held → w.sup.prevInterlock = some .held :=
      fun hstatus => not_not.mp fun hprev => hnotHeld ⟨hstatus, hprev⟩
    refine ⟨hw.tracked, fun hb => hw.held (.inl hb), fun hheld => ?_, nofun, fun hno => hno,
      fun hcalm _ => ⟨hcalm.1, hcalm.2.1, fun hheld => ?_⟩⟩
    · exact hw.memory (hstays (some.inj hheld))
    · exact hcalm.2.2 (hstays (some.inj hheld))

lemma serve_writerInv {setup : Setup} (now : ℚ) : (serve setup now).Moves (Up Calm) WriterInv := by
  have hinv : ∀ w, Up Calm w → WriterInv w := fun _ => Up.writerInv
  have hself : self.Stays (Up Calm) := stays_up (uses_quiet uses_self)
  have hrecover := (recoverIfServing_calm setup now).leads hinv
  refine Keeps.bindLeads hself hinv fun _ => Leads.ite ?_ hrecover
  intro w hw
  refine wp_seq (guardBlockIfDualRuntime_wp now hw) ?_ ?_
  · rintro r w' (⟨-, hw'⟩ | ⟨hr, hw'⟩)
    · exact Leads.ite (keeps_pure.leads hinv) hrecover w' hw'
    · refine wp_ite (fun _ => ⟨hw'.writerInv, nofun⟩) fun hfalse => ?_
      exact absurd (congrArg Except.ok (Bool.eq_false_iff.mpr hfalse)) hr
  · rintro e w' (⟨hr, -⟩ | ⟨-, hw'⟩)
    · cases hr
    · exact ⟨hw'.writerInv, fun _ _ => trivial⟩

lemma reconcileServing_writerInv (setup : Setup) (now : ℚ) {event : Option SupervisorEvent}
    {w₀ : World} (hw : Polled w₀ event w) (hmaint : w.sup.state ≠ .maintenance) :
    (reconcileServing setup now event).wp (machine .reconciler) (fun _ w' => WriterInv w') w := by
  have hcalm : w.sup.state.blocked = false → Up Calm w := fun hb =>
    ⟨hw.tracked, hb, hmaint, fun hheld => (hw.memory hheld).resolve_left hmaint⟩
  have hwp : ∀ {α : Type} {p : SupM α} {J : World → Prop}, p.Moves J WriterInv → ∀ w', J w' →
      p.wp (machine .reconciler) (fun _ w'' => WriterInv w'') w' :=
    fun hp w' hw' => wp_mono (fun _ _ h => h.1) (hp w' hw')
  refine wp_ite (fun hevent => ?_) fun _ => ?_
  · -- the release of the freeze: restart the control plane in normal mode
    have hresume : (resumeToServing setup).Moves (Up Calm) WriterInv :=
      .bind dropControlPlane_moves (fun _ h => h.up.writerInv) fun _ =>
        Keeps.bindLeads (call_down ⟨trivial, trivial⟩) (fun _ h => h.up.writerInv) fun _ =>
          .bind (startChild_moves setup) (fun _ => Up.writerInv) fun _ =>
            Keeps.leads (Keeps.bind (stays_up (uses_quiet uses_self)) fun _ =>
              .ite (dispatch_calm rfl) keeps_pure) fun _ => Up.writerInv
    exact hwp hresume w (hcalm (hw.resumed hevent))
  · rw [wp_self]
    refine wp_ite (fun hblocked => ?_) fun hblocked => ?_
    -- blocked: there is no writer, and the held memory is excluded
    · have hdown : Down Blocked w := by
        refine ⟨hw.blocked hblocked, hblocked, fun hheld => ?_⟩
        rcases hw.memory hheld with h | h
        · exact hmaint h
        · rw [h] at hblocked
          cases hblocked
      refine wp_seq (guardReconcileWhileBlocked_wp now hdown) ?_ ?_
      · rintro r w' (⟨-, hw'⟩ | ⟨hr, hw'⟩)
        · exact hwp (.ite (serve_writerInv now) (keeps_pure.leads fun _ => Up.writerInv)) w' hw'
        · cases hr
          exact hw'.writerInv
      · rintro e w' (⟨hr, -⟩ | ⟨hr, -⟩) <;> cases hr
    · exact hwp (serve_writerInv now) w (hcalm (Bool.eq_false_iff.mpr hblocked))

lemma Quiet.writerInv {o : Op} (x : Ans o) (ho : Quiet o) (hw : WriterInv w) :
    WriterInv ((machine .reconciler).next w o x) := by
  let P : Posture := fun s prev => s = w.sup.state ∧ prev = w.sup.prevInterlock
  obtain ⟨htracked, hstate, hprev⟩ : Up P ((machine .reconciler).next w o x) :=
    ho.up x ⟨hw.tracked, rfl, rfl⟩
  refine ⟨htracked, fun hheld => ?_, fun hheld => ?_⟩
  · rw [hstate] at hheld
    have hdown : Down P w := ⟨hw.held hheld, rfl, rfl⟩
    exact (ho.down x hdown).1
  · rw [hstate]
    exact hw.memory (hprev ▸ hheld)

lemma stays_writerInv {p : SupM α} (h : p.Uses Passive Benign) : p.Stays WriterInv :=
  (uses_quiet h).keeps (fun _ _ _ _ => trivial) fun _ _ x ho hw _ => ho.writerInv x hw

lemma reconcileMaintenance_writerInv (htracked : Tracked w) (hmaint : w.sup.state = .maintenance) :
    reconcileMaintenance.wp (machine .reconciler) (fun _ w' => WriterInv w') w := by
  let P : Posture := fun s _ => s = .maintenance
  refine wp_mono ?_ (reconcileMaintenance_moves (P := P) w ⟨htracked, hmaint⟩)
  rintro _ w' ⟨⟨hdown, hstate⟩, -⟩
  exact ⟨hdown.tracked, fun _ => hdown, fun _ => .inl hstate⟩

lemma tick_writerInv {setup : Setup} (now : ℚ) : (tick setup now).Stays WriterInv := by
  refine .bind (stays_writerInv uses_abortRequested) fun _ => .ite keeps_pure ?_
  refine keeps_iff.mpr fun w hw => ?_
  refine wp_seq (pollInterlock_polled hw) (fun event w' hw' => ?_) fun e w' hw' => hw'
  unfold reconcile
  rw [wp_self]
  exact wp_ite (fun hmaint => reconcileMaintenance_writerInv hw'.tracked hmaint)
    fun hmaint => reconcileServing_writerInv setup now hw' hmaint

lemma start_writerInv (setup : Setup) : (start setup).Moves (Down Calm) WriterInv := by
  have hinv : ∀ w, Down Calm w → WriterInv w := fun _ h => h.up.writerInv
  have habort : abortRequested.Stays (Down Calm) := stays_down (uses_quiet uses_abortRequested)
  have hwriter : (startWriter setup).Moves (Down Calm) WriterInv := by
    refine Keeps.bindLeads habort hinv fun _ => Leads.ite (keeps_pure.leads hinv) ?_
    intro w hw
    refine wp_seq (pollInterlock_polled (hinv w hw)) (fun event w' hw' => ?_)
      fun e w' hw' => ⟨hw', fun _ _ => trivial⟩
    have hno : NoWriter w' := hw'.noWriter hw.1
    refine wp_ite (fun hevent => ?_) fun hevent => ?_
    · let P : Posture := fun s prev => prev = some .held → s = .maintenance ∨ s = .stopping
      have hmaintenance : SupM.Moves (startControlPlaneMaintenance >>= fun _ => pure ())
          (Down P) WriterInv :=
        Keeps.leads (Keeps.bind startControlPlaneMaintenance_down fun _ => keeps_pure)
          fun w'' h => ⟨h.1.tracked, fun _ => h.1, h.2⟩
      exact hmaintenance w' ⟨hno, hw'.memory⟩
    · have hstart : SupM.Moves (startChild setup .controlPlane false >>= fun outcome =>
          if outcome.status = .startedReady then dispatch .childrenReady else pure ())
          (Down Calm) WriterInv :=
        .bind (startChild_moves setup) (fun _ => Up.writerInv) fun _ =>
          (Keeps.ite (dispatch_calm rfl) keeps_pure).leads fun _ => Up.writerInv
      exact hstart w' ⟨hno, hw'.calm hw.2 hevent⟩
  have hinfra : (startInfra setup).Moves (Down Calm) WriterInv :=
    Keeps.bindLeads habort hinv fun _ => Leads.ite (keeps_pure.leads hinv) <|
      Keeps.bindLeads (stays_down (uses_quiet_startChild setup (by decide))) hinv fun _ =>
        .ite hwriter (keeps_pure.leads hinv)
  refine Keeps.bindLeads (stays_down (uses_quiet uses_sweepOnce)) hinv fun _ => Leads.ite ?_ hinfra
  exact Keeps.bindLeads habort hinv fun _ => Leads.ite (keeps_pure.leads hinv) <|
    Keeps.bindLeads (stays_down (uses_quiet_startChild setup (by decide))) hinv fun _ => hinfra

lemma restartControlPlane_up (setup : Setup) : (restartControlPlane setup).Stays (Up P) :=
  Leads.bind dropControlPlane_moves (fun _ => Down.up) fun _ =>
    Keeps.bindLeads (call_down ⟨trivial, trivial⟩) (fun _ => Down.up) fun _ =>
      startChild_moves setup

/-! ## Runs with admin restarts -/

/-- The supervisor, and how many admin restarts have passed their state check
and wait for the reconciliation lock. -/
structure Station where
  world : World
  admitted : ℕ

/-- The calls of a run. -/
inductive Call where
  | start
  | tick (now : ℚ)
  | check
  | restart

/-- One step at the granularity of the reconciliation lock. A call that raises
is a step too. -/
inductive Station.Step (setup : Setup) : Call → Station → Station → Prop where
  | start {w w' : World} {n : ℕ} {r : Except PyError Unit}
      (h : Exec (machine .reconciler) (start setup) w r w') : Step setup .start ⟨w, n⟩ ⟨w', n⟩
  | tick {w w' : World} {n : ℕ} {r : Except PyError Unit} {now : ℚ}
      (h : Exec (machine .reconciler) (tick setup now) w r w') :
      Step setup (.tick now) ⟨w, n⟩ ⟨w', n⟩
  | check {w : World} {n : ℕ} (h : lifecycleHeld w.sup.state = false) :
      Step setup .check ⟨w, n⟩ ⟨w, n + 1⟩
  | restart {w w' : World} {n : ℕ} {r : Except PyError AdminOutcome}
      (h : Exec (machine .reconciler) (restartAdmitted setup) w r w') :
      Step setup .restart ⟨w, n + 1⟩ ⟨w', n⟩

/-- The stations reached by calls that all satisfy `ok` where they get the
lock. -/
inductive Station.Run (setup : Setup) (ok : Call → World → Prop) : Station → Prop where
  | fresh : Run setup ok ⟨World.fresh, 0⟩
  | step {c : Call} {s s' : Station} (hs : Run setup ok s) (hok : ok c s.world)
      (h : Station.Step setup c s s') : Run setup ok s'

/-- A restart gets the lock outside the held states, and a bring-up too, with
no control plane tracked. -/
def Careful : Call → World → Prop
  | .start, w => w.sup.handles .controlPlane = none ∧ w.sup.state.blocked = false ∧
      w.sup.state ≠ .maintenance
  | .restart, w => w.sup.state.blocked = false ∧ w.sup.state ≠ .maintenance
  | _, _ => True

lemma WriterInv.calm (h : WriterInv w) (hblocked : w.sup.state.blocked = false)
    (hmaint : w.sup.state ≠ .maintenance) : Up Calm w :=
  ⟨h.tracked, hblocked, hmaint, fun hheld => (h.memory hheld).resolve_left hmaint⟩

lemma restartAdmitted_writerInv (setup : Setup) :
    (restartAdmitted setup).Moves (Up Calm) WriterInv :=
  .bind (restartControlPlane_up setup) (fun _ => Up.writerInv) fun _ =>
    keeps_pure.leads fun _ => Up.writerInv

lemma Station.Step.writerInv {c : Call} {s s' : Station} (h : Station.Step setup c s s')
    (hok : Careful c s.world) (hs : WriterInv s.world) : WriterInv s'.world := by
  cases h with
  | start hexec =>
    rcases hok with ⟨hnone, hblocked, hmaint⟩
    have hdown : Down Calm _ := ⟨hs.tracked.noWriter_of_none hnone, (hs.calm hblocked hmaint).2⟩
    exact (hexec.post (start_writerInv setup _ hdown)).1
  | tick hexec => exact (hexec.post (tick_writerInv _ _ hs)).1
  | check _ => exact hs
  | restart hexec =>
    exact (hexec.post (restartAdmitted_writerInv setup _ (hs.calm hok.1 hok.2))).1

lemma Station.Run.writerInv {s : Station} (h : Station.Run setup Careful s) :
    WriterInv s.world := by
  induction h with
  | fresh => exact ⟨nofun, nofun, nofun⟩
  | step _ hok hstep ih => exact hstep.writerInv hok ih

/-- In a careful run, a tick that ends in a blocked state or in maintenance
leaves no writer alive. -/
theorem no_writer_after_held_tick {now : ℚ} {s : Station}
    (hrun : Station.Run setup Careful s)
    (htick : Exec (machine .reconciler) (tick setup now) s.world (.ok ()) w)
    (hheld : w.sup.state.blocked = true ∨ w.sup.state = .maintenance) : NoWriter w :=
  (htick.post (tick_writerInv now _ hrun.writerInv)).1.held hheld

/-! ### Two concrete runs -/

instance (p : Process) : Decidable p.IsWriter := inferInstanceAs (Decidable (_ ∧ _))

instance (w : World) : Decidable (NoWriter w) :=
  inferInstanceAs (Decidable (∀ p ∈ w.live, ¬ p.IsWriter))

/-- The world after a call whose seams all answer as in `env`. -/
abbrev World.after (w : World) (env : Environment) (p : SupM α) : World :=
  p.finish (machine .reconciler) (env.answer .reconciler) w

abbrev World.completes (w : World) (env : Environment) (p : SupM α) : Bool :=
  p.returns (machine .reconciler) (env.answer .reconciler) w

/-- After a bring-up to `ready`. -/
def served : World := World.fresh.after {} (start {})

/-- Then the guard found the other runtime active. -/
def guarded : World := served.after { guard := .neverStart } (tick {} 0)

/-- The restart that was admitted before that tick gets the lock after it. -/
def reached : World := guarded.after {} (restartAdmitted {})

lemma run_served {ok : Call → World → Prop} (hok : ok .start World.fresh) :
    Station.Run {} ok ⟨served, 0⟩ := by
  obtain ⟨a, ha⟩ := exec_of_returns
    (show World.fresh.completes {} (start {}) = true by decide +kernel)
  exact .step .fresh hok (.start ha)

/-- The state check passes, a tick blocks and stops the writer, the restart
then starts a new one, and the next tick ends blocked with it alive. -/
theorem writer_alive_after_held_tick :
    ¬ ∀ (setup : Setup) (now : ℚ) (s : Station) (w : World),
      Station.Run setup (fun _ _ => True) s →
      Exec (machine .reconciler) (tick setup now) s.world (.ok ()) w →
      w.sup.state.blocked = true ∨ w.sup.state = .maintenance → NoWriter w := by
  intro h
  obtain ⟨_, hguard⟩ := exec_of_returns
    (show served.completes { guard := .neverStart } (tick {} 0) = true by decide +kernel)
  obtain ⟨_, hrestart⟩ := exec_of_returns
    (show guarded.completes {} (restartAdmitted {}) = true by decide +kernel)
  obtain ⟨_, htick⟩ := exec_of_returns
    (show reached.completes {} (tick {} 0) = true by decide +kernel)
  have hchecked : Station.Run {} (fun _ _ => True) ⟨served, 1⟩ :=
    .step (run_served trivial) trivial (.check (by decide +kernel))
  have hreached : Station.Run {} (fun _ _ => True) ⟨reached, 0⟩ :=
    .step (.step hchecked trivial (.tick hguard)) trivial
      (.restart hrestart)
  have hno := h {} 0 ⟨reached, 0⟩ (reached.after {} (tick {} 0)) hreached htick
    (.inl (by decide +kernel))
  revert hno
  decide +kernel

/-- The same restart, with the lock before the tick: the tick blocks and no
writer is left. -/
theorem no_writer_after_held_tick_restarted :
    NoWriter ((served.after {} (restartAdmitted {})).after { guard := .neverStart }
      (tick {} 0)) := by
  obtain ⟨_, hrestart⟩ := exec_of_returns
    (show served.completes {} (restartAdmitted {}) = true by decide +kernel)
  obtain ⟨_, htick⟩ := exec_of_returns
    (show (served.after {} (restartAdmitted {})).completes { guard := .neverStart }
      (tick {} 0) = true by decide +kernel)
  have hchecked : Station.Run {} Careful ⟨served, 1⟩ :=
    .step (c := .check) (run_served ⟨rfl, rfl, by decide⟩) trivial (.check (by decide +kernel))
  have hrun : Station.Run {} Careful ⟨served.after {} (restartAdmitted {}), 0⟩ :=
    .step (c := .restart) hchecked ⟨by decide +kernel, by decide +kernel⟩
      (.restart hrestart)
  exact no_writer_after_held_tick hrun htick (.inl (by decide +kernel))

end CivicCast.Supervisor
