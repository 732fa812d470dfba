import CivicCast.Supervisor.Footprint

/-! # The maintenance freeze over a whole run

A run is one bring-up followed by any number of ticks. `poll_interlock` is the
only place that enters or leaves maintenance, and its only memory is the last
raw reading, so whether the machine is frozen is a function of the readings so
far (`frozen`, `FreezeInv`): the reading right after the last `held` one
decides, and an `unreadable` one there loses the release.
-/

namespace CivicCast.Supervisor

open Lib Lib.Prog

/-! ## Runs -/

/-- `start()`, then any finite sequence of `tick(now)`, under any answers. -/
inductive ServiceRun (setup : Setup) : World → Prop where
  | start {r : Except PyError Unit} {w : World}
      (h : Exec (machine .reconciler) (start setup) World.fresh r w) : ServiceRun setup w
  | tick {now : ℚ} {r : Except PyError Unit} {w w' : World} (hw : ServiceRun setup w)
      (h : Exec (machine .reconciler) (tick setup now) w r w') : ServiceRun setup w'

variable {w : World} {rs : List InterlockStatus}

/-- An assertion of the fresh world that reconciliation and the interlock poll
keep holds along every run. -/
lemma ServiceRun.invariant {setup : Setup} {J : World → Prop} (hfresh : J World.fresh)
    (hJ : Lasting (machine .reconciler) J fun _ => True)
    (hpoll : pollInterlock.Keeps (machine .reconciler) J fun _ => True)
    (hsettle : ∀ w o x, Settling o → J w → J ((machine .reconciler).next w o x))
    (h : ServiceRun setup w) : J w := by
  have hbackoff : ∀ cfg name now status,
      (settleBackoff cfg name now status).Keeps (machine .reconciler) J fun _ => True :=
    fun cfg name now status => uses_settleBackoff.keeps
      (fun _ _ _ _ => trivial) fun w o x ho hw _ => hsettle w o x ho hw
  -- on the run: the bring-up once, then one tick at a time
  induction h with
  | start hstart => exact (hstart.post (hJ.start setup hpoll _ hfresh)).1
  | tick _ htick ih =>
    exact (htick.post (hJ.tick setup _ hJ (fun _ => id)
      (hJ.recoverChildren setup _ hbackoff _ _) hpoll _ ih)).1

/-- The interlock readings so far, newest first. -/
def World.readings (w : World) : List InterlockStatus :=
  w.trace.filterMap fun
    | .reading s => some s
    | _ => none

/-! ## The freeze as a function of the readings -/

/-- Frozen after these readings (newest first). -/
def frozen : List InterlockStatus → Bool
  | [] => false
  | r :: rs => r = .held || (if rs.head? = some .held then r ≠ .free else frozen rs)

/-- The release was lost: the last `held` reading was followed by an
`unreadable` one. -/
def ReleaseLost (rs : List InterlockStatus) : Prop :=
  ∃ later earlier, rs = later ++ InterlockStatus.unreadable :: .held :: earlier ∧ .held ∉ later

lemma releaseLost_cons (r : InterlockStatus) (rs : List InterlockStatus) :
    ReleaseLost (r :: rs) ↔
      r ≠ .held ∧ (r = .unreadable ∧ rs.head? = some .held ∨ ReleaseLost rs) := by
  constructor
  · rintro ⟨later, earlier, heq, hnot⟩
    cases later with
    | nil =>
      rcases List.cons.inj heq with ⟨rfl, rfl⟩
      exact ⟨by decide, .inl ⟨rfl, rfl⟩⟩
    | cons l later =>
      rcases List.cons.inj heq with ⟨rfl, rfl⟩
      rw [List.mem_cons, not_or] at hnot
      exact ⟨fun h => hnot.1 h.symm, .inr ⟨later, earlier, rfl, hnot.2⟩⟩
  · rintro ⟨hr, ⟨rfl, hhead⟩ | ⟨later, earlier, rfl, hnot⟩⟩
    · rcases List.head?_eq_some_iff.mp hhead with ⟨earlier, rfl⟩
      exact ⟨[], earlier, rfl, List.not_mem_nil⟩
    · refine ⟨r :: later, earlier, rfl, ?_⟩
      rw [List.mem_cons, not_or]
      exact ⟨fun h => hr h.symm, hnot⟩

lemma frozen_free_cons (rs : List InterlockStatus) :
    frozen (.free :: rs) = true ↔ ReleaseLost rs := by
  induction rs with
  | nil => simp [frozen, ReleaseLost]
  | cons r rs ih =>
    rw [releaseLost_cons, ← ih]
    -- one more reading before the free one: only its own predecessor matters
    cases r <;> by_cases hhead : rs.head? = some .held <;> simp [frozen, hhead]

/-! ## The invariant -/

lemma wp_self {α : Type} (t : Thread) (f : Sup → SupM α) (Q : Except PyError α → World → Prop)
    (w : World) : (self >>= f).wp (machine t) Q w ↔ (f w.sup).wp (machine t) Q w := by
  constructor
  · intro h
    exact h.2 w.sup rfl
  · intro h
    refine ⟨trivial, ?_⟩
    rintro s rfl
    exact h

lemma wp_dispatch {t : Thread} {e : SupervisorEvent} {Q : Except PyError Unit → World → Prop}
    {w : World} : (dispatch e).wp (machine t) Q w ↔
      Q (.ok ()) { w with sup := { w.sup with state := supervisorTransition w.sup.state e } } := by
  unfold dispatch
  rw [wp_self]
  constructor
  · intro h
    exact h.2 () trivial
  · intro h
    exact ⟨trivial, fun _ _ => h⟩

lemma reconciling_next {t : Thread} {o : Op} {x : Ans o}
    (h : Reconciling o ∨ Settling o) : ((machine t).next w o x).sup.state = w.sup.state ∧
      ((machine t).next w o x).sup.prevInterlock = w.sup.prevInterlock ∧
      ((machine t).next w o x).readings = w.readings := by
  cases o with
  | write wr => cases wr <;> first | exact ⟨rfl, rfl, rfl⟩ | exact h.elim nofun nofun
  | mark m => cases m <;> exact ⟨rfl, rfl, rfl⟩
  | spawn s | isAlive h => cases x <;> exact ⟨rfl, rfl, rfl⟩
  | interlockReader => exact h.elim nofun nofun
  | _ => exact ⟨rfl, rfl, rfl⟩

/-- What holds between the calls of a run: the memory is the last reading, no
stop was dispatched, and the machine is in maintenance exactly when frozen. -/
structure FreezeInv (w : World) : Prop where
  prev : w.sup.prevInterlock = w.readings.head?
  running : w.sup.state ≠ .stopping
  freeze : w.sup.state = .maintenance ↔ frozen w.readings = true

lemma transition_ordinary {e : SupervisorEvent} (h : e.ordinary = true) (s : SupervisorState) :
    (supervisorTransition s e = .maintenance ↔ s = .maintenance) ∧
      (supervisorTransition s e = .stopping ↔ s = .stopping) := by
  revert h
  cases e <;> cases s <;> decide

lemma FreezeInv.next (hw : FreezeInv w) {o : Op} (x : Ans o)
    (ho : Reconciling o ∨ Settling o) : FreezeInv ((machine .reconciler).next w o x) := by
  rcases reconciling_next ho with ⟨hstate, hprev, hreadings⟩
  refine ⟨?_, ?_, ?_⟩
  · rw [hprev, hreadings, hw.prev]
  · rw [hstate]
    exact hw.running
  · rw [hstate, hreadings]
    exact hw.freeze

lemma freezeInv_lasting : Lasting (machine .reconciler) FreezeInv fun _ => True := by
  refine .ofReconciling (fun _ _ => trivial) (fun _ _ x ho _ hw => hw.next x (.inl ho)) ?_
  intro e he
  refine keeps_iff.mpr fun w hw => wp_dispatch.mpr ?_
  rcases transition_ordinary he w.sup.state with ⟨hm, hs⟩
  exact ⟨hw.prev, fun h => hw.running (hs.mp h), hm.trans hw.freeze⟩

lemma freed_leaves_maintenance (action : GuardAction) :
    supervisorTransition .maintenance (interlockFreedEvent action) ≠ .maintenance ∧
      supervisorTransition .maintenance (interlockFreedEvent action) ≠ .stopping := by
  cases action <;> decide

/-- The release edge: whatever the guard answers, maintenance is left. -/
lemma onInterlockFreed_wp (hprev : w.sup.prevInterlock = some .free)
    (hstate : w.sup.state = .maintenance) (hreadings : w.readings = .free :: .held :: rs) :
    onInterlockFreed.wp (machine .reconciler) (fun _ w' => FreezeInv w') w := by
  refine ⟨trivial, fun action _ => ?_⟩
  change (dispatch (interlockFreedEvent action) >>= _).wp _ _ w
  rcases freed_leaves_maintenance action with ⟨hm, hs⟩
  refine wp_seq (R := fun _ w' => FreezeInv w') (wp_dispatch.mpr ?_) ?_ ?_
  · constructor
    · change w.sup.prevInterlock = w.readings.head?
      rw [hprev, hreadings]
      rfl
    · rw [hstate]
      exact hs
    · change supervisorTransition w.sup.state _ = _ ↔ frozen w.readings = true
      rw [hstate, hreadings]
      simp [hm, frozen]
  · intro _ w' hw'
    refine keeps_iff.mp (.ite ?_ keeps_pure) w' hw'
    exact .bind (freezeInv_lasting.stopping uses_stopControlPlane) fun _ => keeps_pure
  · intro e w' hw'
    exact hw'

/-- The whole poll keeps the invariant, whatever it reads. -/
lemma pollInterlock_freezeInv :
    pollInterlock.Keeps (machine .reconciler) FreezeInv fun _ => True := by
  refine keeps_iff.mpr fun w hw => ?_
  refine ⟨trivial, fun (status : InterlockStatus) _ => ⟨trivial, ?_⟩⟩
  rintro s rfl
  refine ⟨trivial, fun _ _ => ?_⟩
  -- the world after the reading and the memory's update
  let w₁ : World :=
    { w with
      sup := { w.sup with prevInterlock := some status }
      trace := .reading status :: w.trace }
  change (interlockEdge w.sup.prevInterlock status).wp _ _ w₁
  have hreadings : w₁.readings = status :: w.readings := rfl
  rw [hw.prev, interlockEdge]
  refine wp_ite ?_ fun hnotHeld => wp_ite ?_ fun hnotFreed => ?_
  · -- the edge into maintenance
    rintro ⟨rfl, -⟩
    refine wp_seq (R := fun _ w' => FreezeInv w') (wp_dispatch.mpr ?_)
      (fun _ w' hw' => hw') fun e w' hw' => hw'
    have hheld : supervisorTransition w.sup.state .interlockHeld = .maintenance :=
      (transition_interlockHeld _).resolve_right hw.running
    have hrunning : supervisorTransition w.sup.state .interlockHeld ≠ .stopping := by
      rw [hheld]
      decide
    exact ⟨rfl, hrunning, iff_of_true hheld rfl⟩
  · -- the release edge
    rintro ⟨hhead, rfl⟩
    rcases List.head?_eq_some_iff.mp hhead with ⟨rs, hrs⟩
    have hmaint : w.sup.state = .maintenance := hw.freeze.mpr (by rw [hrs]; rfl)
    refine wp_seq
      (onInterlockFreed_wp rfl hmaint (hreadings.trans (congrArg _ hrs))) (fun _ w' hw' => hw')
      fun e w' hw' => hw'
  · -- no edge: the state and the freeze are both unchanged
    refine ⟨rfl, hw.running, hw.freeze.trans ?_⟩
    rw [hreadings]
    by_cases hhead : w.readings.head? = some .held
    · rcases List.head?_eq_some_iff.mp hhead with ⟨rs, hrs⟩
      have hfree : status ≠ .free := fun h => hnotFreed ⟨hhead, h⟩
      rw [hrs]
      simp [frozen, hfree]
    · have hheld : status ≠ .held := fun h => hnotHeld ⟨h, hhead⟩
      simp [frozen, hhead, hheld]

/-! ## The freeze does not outlive the interlock, unless its release is lost -/

/-- After a tick that read the interlock as free, the machine is out of
maintenance exactly when the last `held` reading before it, if any, was not
followed by an `unreadable` one. -/
theorem not_maintenance_after_free_iff {setup : Setup} {now : ℚ} {w w' : World}
    (hrun : ServiceRun setup w)
    (htick : Exec (machine .reconciler) (tick setup now) w (.ok ()) w')
    (hfree : w'.readings = .free :: w.readings) :
    w'.sup.state ≠ .maintenance ↔ ¬ ReleaseLost w.readings := by
  have hinv : FreezeInv w' :=
    ServiceRun.invariant ⟨rfl, by decide, by decide⟩ freezeInv_lasting pollInterlock_freezeInv
      (fun _ _ x ho hw => hw.next x (.inr ho)) (hrun.tick htick)
  rw [ne_eq, hinv.freeze, hfree, frozen_free_cons]

/-! ### A concrete run -/

/-- Bring-up and one tick per reading (newest first), in an environment where
everything else goes well. -/
def afterReadings : List InterlockStatus → World
  | [] => (start {}).finish (machine .reconciler) (Environment.answer {} .reconciler) World.fresh
  | r :: rs => (tick {} 0).finish (machine .reconciler)
      (Environment.answer { reading := r } .reconciler) (afterReadings rs)

/-- Every call of that run returns. -/
def readingsReturn : List InterlockStatus → Bool
  | [] => (start {}).returns (machine .reconciler) (Environment.answer {} .reconciler) World.fresh
  | r :: rs => readingsReturn rs && (tick {} 0).returns (machine .reconciler)
      (Environment.answer { reading := r } .reconciler) (afterReadings rs)

lemma tick_afterReadings {r : InterlockStatus} (h : readingsReturn (r :: rs) = true) :
    Exec (machine .reconciler) (tick {} 0) (afterReadings rs) (.ok ())
      (afterReadings (r :: rs)) := by
  rcases exec_of_returns ((Bool.and_eq_true_iff.mp h).2) with ⟨a, ha⟩
  exact ha

lemma serviceRun_afterReadings (rs : List InterlockStatus) (h : readingsReturn rs = true) :
    ServiceRun {} (afterReadings rs) := by
  induction rs with
  | nil =>
    rcases exec_of_returns h with ⟨a, ha⟩
    exact .start ha
  | cons r rs ih => exact .tick (ih (Bool.and_eq_true_iff.mp h).1) (tick_afterReadings h)

/-- Held, unreadable, free: the release is never seen and the freeze stays. -/
theorem maintenance_outlives_interlock :
    ¬ ∀ (setup : Setup) (now : ℚ) (w w' : World), ServiceRun setup w →
      Exec (machine .reconciler) (tick setup now) w (.ok ()) w' →
      w'.readings = .free :: w.readings → w'.sup.state ≠ .maintenance := by
  intro h
  refine h {} 0 (afterReadings [.unreadable, .held]) (afterReadings [.free, .unreadable, .held])
    (serviceRun_afterReadings _ (by decide +kernel)) (tick_afterReadings (by decide +kernel))
    (by decide +kernel) (by decide +kernel)

/-- Held, free: the release is seen. -/
theorem not_maintenance_after_held_free :
    (afterReadings [.free, .held]).sup.state ≠ .maintenance :=
  (not_maintenance_after_free_iff (serviceRun_afterReadings [.held] (by decide +kernel))
    (tick_afterReadings (by decide +kernel)) (by decide +kernel)).mpr
    (by rw [← frozen_free_cons]; decide)

end CivicCast.Supervisor
