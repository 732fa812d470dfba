import CivicCast.Lib.Interleave
import CivicCast.Supervisor.Footprint

/-! # A graceful stop against a reconciliation pass

`graceful_stop` and one `start` or `tick` run on two threads, interleaved call
by call. The stop publishes its intent and closes the Job Object under the
lifecycle lock; every decide-and-spawn section re-reads the intent under the
same lock, so that no child is spawned or assigned after the publication.

The postmaster hand-over is the exception. It follows the last stop check of
the readiness poll without the lock, so a publication that lands there is not
seen. `Phase.handOver` is that window, and the results below are for the runs
in which the stop is not published inside it.
-/

namespace CivicCast.Supervisor

open Lib Lib.Prog

/-! ## What a shutdown promises -/

/-- The events of bringing a child up: its spawn and its assignment. -/
def Event.starts : Event → Bool
  | .spawned _ | .assignEnter _ | .assignExit _ => true
  | _ => false

def Event.stops : Event → Bool
  | .stopPublished | .jobClosed => true
  | _ => false

/-- A child other than postgres was spawned and not yet assigned (the trace is
newest first). -/
def unassigned : List Event → Bool
  | [] => false
  | .spawned n :: past => n ≠ .postgres || unassigned past
  | .assignExit _ :: _ => false
  | _ :: past => unassigned past

/-- No spawn and no assignment after the stop, and no stop between a spawn and
its assignment. -/
structure Orderly (trace : List Event) : Prop where
  late : trace.Pairwise fun later earlier => later.starts = true → earlier.stops = false
  whole : ∀ later earlier, trace = later ++ .stopPublished :: earlier → unassigned earlier = false

lemma Orderly.cons {e : Event} {trace : List Event} (h : Orderly trace)
    (hlate : e.starts = true → ∀ e' ∈ trace, e'.stops = false)
    (hwhole : e = .stopPublished → unassigned trace = false) : Orderly (e :: trace) := by
  constructor
  · rw [List.pairwise_cons]
    exact ⟨fun e' he' hstarts => hlate hstarts e' he', h.late⟩
  · intro later earlier heq
    cases later with
    | nil =>
      rcases List.cons.inj heq with ⟨he, hpast⟩
      exact hpast ▸ hwhole he
    | cons e' later =>
      exact h.whole later earlier (List.cons.inj heq).2

/-! ## The monitors -/

/-- Where a thread stands with respect to the stop. -/
inductive Phase where
  /-- Neither holds the lifecycle lock nor hands over. -/
  | idle
  /-- The reconciler found postgres ready; its stop check is next. -/
  | polled
  /-- The check passed: the postmaster is being handed over, without the lock. -/
  | handOver
  /-- Holds the lifecycle lock. -/
  | locked
  /-- Holds it and has read the stop intent as unset. -/
  | cleared
  /-- And has spawned a child that is still to be assigned. -/
  | spawned
  /-- The stopper has published and still holds the lock. -/
  | publishing
  | published
  /-- The stopper holds the lock again, to close the job. -/
  | closing
deriving DecidableEq

namespace Phase

def holdsLock : Phase → Bool
  | .locked | .cleared | .spawned | .publishing | .closing => true
  | _ => false

/-- Whoever is here relies on the stop intent being unset. -/
def relies : Phase → Bool
  | .handOver | .cleared | .spawned => true
  | _ => false

def hasPublished : Phase → Bool
  | .publishing | .published | .closing => true
  | _ => false

def leave : Phase → Phase
  | .handOver => .idle
  | φ => φ

def readIntent : Phase → Bool → Phase
  | .locked, false => .cleared
  | .polled, false => .handOver
  | .polled, true => .idle
  | φ, _ => φ

def probed (φ : Phase) (ok : Option Bool) : Phase :=
  if φ.holdsLock then φ else if ok = some true then .polled else .idle

end Phase

def reconcilerMonitor : Monitor supIface Phase where
  allows φ
    | .lock => φ.holdsLock = false
    | .unlock => φ = .locked ∨ φ = .cleared
    | .spawn _ _ => φ = .cleared
    | .mark (.assignEnter _) | .mark (.assignExit _) => φ = .spawned ∨ φ = .handOver
    | .mark .closed | .write .stopIntent => False
    | _ => True
  next φ
    | .lock, _ => .locked
    | .unlock, _ => .idle
    | .stopIntent, b => φ.readIntent b
    | .postgresProbe, ok => φ.probed ok
    | .shouldAbort, true | .postmasterPidReader, none | .openExisting _, .error _ => φ.leave
    | .spawn n _, .ok _ => if n = .postgres then φ else .spawned
    | .mark (.assignExit _), _ => if φ = .spawned then .cleared else φ.leave
    | _, _ => φ

def stopperMonitor : Monitor supIface Phase where
  allows φ
    | .lock => φ = .idle ∨ φ = .published
    | .unlock => φ = .publishing ∨ φ = .closing
    | .write .stopIntent => φ = .locked
    | .mark .closed => φ = .closing
    | .mark _ | .spawn _ _ => False
    | _ => True
  next φ
    | .lock, _ => if φ = .published then .closing else .locked
    | .unlock, _ => .published
    | .write .stopIntent, _ => .publishing
    | _, _ => φ

def watch : Thread → Monitor supIface Phase
  | .reconciler => reconcilerMonitor
  | .stopper => stopperMonitor

/-! ## The reconciler against its monitor -/

section Reconciler

variable {α : Type}

/-- The monitor as the machine of the proofs. -/
abbrev recon : Machine supIface Phase := reconcilerMonitor.toMachine

def Unlocked (φ : Phase) : Prop := φ.holdsLock = false

/-- In a locked section with nothing left to assign. -/
def Settled (φ : Phase) : Prop := φ = .locked ∨ φ = .cleared

variable {φ : Phase} {o : Op} {p : SupM α} {spec : ChildSpec} (name : ChildName)

lemma Unlocked.leave (h : Unlocked φ) : Unlocked φ.leave := by
  cases φ <;> exact h

lemma Unlocked.probed (h : Unlocked φ) (ok : Option Bool) :
    φ.probed ok = if ok = some true then .polled else .idle := by
  have hfalse : φ.holdsLock = false := h
  rw [Phase.probed, hfalse, if_neg (by decide)]

lemma Tending.allowed (ho : Tending o) : reconcilerMonitor.allows φ o := by
  cases o with
  | write w => cases w <;> trivial
  | _ => trivial

lemma Tending.unlocked (x : Ans o) (ho : Tending o) (h : Unlocked φ) :
    Unlocked (reconcilerMonitor.next φ o x) := by
  cases o with
  | write w => exact h
  | stopIntent => cases φ <;> cases x <;> exact h
  | postgresProbe =>
    change Unlocked (φ.probed x)
    rw [h.probed]
    by_cases hx : x = some true
    · rw [if_pos hx]
      rfl
    · rw [if_neg hx]
      rfl
  | shouldAbort => cases x <;> first | exact h | exact h.leave
  | postmasterPidReader | openExisting pid => cases x <;> first | exact h | exact h.leave
  | _ => first | exact h | exact ho.elim

/-- Under the lock, only a read of the stop intent moves the monitor. -/
lemma Tending.settled (x : Ans o) (ho : Tending o) (h : Settled φ) :
    Settled (reconcilerMonitor.next φ o x) := by
  cases o with
  | stopIntent => rcases h with rfl | rfl <;> cases x <;> first | exact .inl rfl | exact .inr rfl
  | postgresProbe =>
    rcases h with rfl | rfl
    · exact .inl rfl
    · exact .inr rfl
  | shouldAbort => rcases h with rfl | rfl <;> cases x <;> first | exact .inl rfl | exact .inr rfl
  | postmasterPidReader | openExisting pid =>
    rcases h with rfl | rfl <;> cases x <;> first | exact .inl rfl | exact .inr rfl
  | _ => first | exact h | exact ho.elim

lemma Containing.next (x : Ans o) (ho : Containing o) : reconcilerMonitor.next φ o x = φ := by
  cases o with
  | write w => cases w <;> rfl
  | _ => first | rfl | exact ho.elim

/-- However it ends, `p` keeps the assertion `J` on the phase. -/
abbrev SupM.Holds (p : SupM α) (J : Phase → Prop) : Prop := p.Keeps recon J fun _ => True

lemma holds_unlocked (h : p.Uses Tending Benign) : p.Holds Unlocked :=
  (h.mono (fun _ => id) fun _ _ => trivial).keeps (fun _ _ ho _ => ho.allowed)
    fun _ _ x ho hφ _ => ho.unlocked x hφ

lemma holds_settled (h : p.Uses Tending Benign) : p.Holds Settled :=
  (h.mono (fun _ => id) fun _ _ => trivial).keeps (fun _ _ ho _ => ho.allowed)
    fun _ _ x ho hφ _ => ho.settled x hφ

lemma uses_tending (h : p.Uses Passive Benign) : p.Uses Tending Benign :=
  h.mono (fun _ ho => Tending.of_stopping (Stopping.of_passive ho)) fun _ => id

lemma call_unlocked (h : Tending o) : (call o).Holds Unlocked :=
  holds_unlocked (uses_call h)

lemma holds_withLifecycleLock {body : SupM α} (hbody : body.Leads recon (· = .locked) Settled
    fun _ => True) : (withLifecycleLock body).Holds Unlocked := by
  intro φ hφ
  refine ⟨hφ, fun _ _ => wp_andFinally (wp_mono ?_ (hbody .locked rfl))⟩
  intro r ψ hψ
  exact ⟨hψ.1, fun _ _ => ⟨rfl, fun _ _ => trivial⟩⟩

/-- Under the lock, a passed stop check means that the intent was unset. -/
lemma abortRequested_locked : abortRequested.wp recon
    (fun r φ => r = .ok true ∧ Settled φ ∨ r = .ok false ∧ φ = .cleared) .locked := by
  refine ⟨trivial, fun (intent : Bool) _ => ?_⟩
  cases intent with
  | true => exact .inl ⟨rfl, .inl rfl⟩
  | false =>
    refine ⟨trivial, fun (abort : Bool) _ => ?_⟩
    cases abort with
    | true => exact .inl ⟨rfl, .inr rfl⟩
    | false => exact .inr ⟨rfl, rfl⟩

/-- After a ready postgres, a passed stop check opens the hand-over. -/
lemma abortRequested_polled : abortRequested.wp recon
    (fun r φ => r = .ok true ∧ Unlocked φ ∨ r = .ok false ∧ φ = .handOver) .polled := by
  refine ⟨trivial, fun (intent : Bool) _ => ?_⟩
  cases intent with
  | true => exact .inl ⟨rfl, rfl⟩
  | false =>
    refine ⟨trivial, fun (abort : Bool) _ => ?_⟩
    cases abort with
    | true => exact .inl ⟨rfl, rfl⟩
    | false => exact .inr ⟨rfl, rfl⟩

/-- An assignment is allowed where a child was just spawned and in the
hand-over, and it ends both. -/
lemma assignChild_wp (pid : ℕ) (acceptForeign : Bool)
    (hφ : φ = .spawned ∨ φ = .handOver) : (assignChild pid acceptForeign).wp recon
      (fun _ ψ => ψ = if φ = .spawned then .cleared else .idle) φ := by
  have hbody : (assignChildBody pid acceptForeign).Keeps recon (· = φ) fun _ => True :=
    ((uses_assignChildBody pid acceptForeign).mono (fun _ => id) fun _ _ => trivial).keeps
      (fun _ _ ho _ => Tending.allowed (.of_stopping (.of_passive (.of_containing ho))))
      fun _ _ x ho h _ => (ho.next x).trans h
  refine ⟨hφ, fun _ _ => wp_andFinally (wp_mono ?_ (hbody φ rfl))⟩
  -- the exit is marked however the body ends
  rintro r ψ ⟨rfl, -⟩
  refine ⟨hφ, fun _ _ => ?_⟩
  rcases hφ with rfl | rfl <;> rfl

lemma assignOnSpawn_wp (handle : Handle) :
    (assignOnSpawn name handle).wp recon (fun _ ψ => ψ = .cleared)
      (if name = .postgres then .cleared else .spawned) := by
  by_cases hname : name = .postgres
  · rw [assignOnSpawn, if_pos hname, if_pos hname]
    rfl
  · rw [assignOnSpawn, if_neg hname, if_neg hname]
    exact assignChild_wp _ _ (.inl rfl)

lemma trackMode_wp {maintenance : Bool} {φ : Phase} :
    (trackMode name maintenance).wp recon (fun r ψ => r = .ok () ∧ ψ = φ) φ := by
  unfold trackMode
  split
  · exact ⟨trivial, fun _ _ => ⟨rfl, rfl⟩⟩
  · exact ⟨rfl, rfl⟩

/-- A decide-and-spawn section whose `rest` assigns what it spawned. -/
lemma decide_unlocked {name : ChildName} {withheld : α}
    {rest : Handle → SupM α} (hrest : ∀ handle, (rest handle).wp recon (fun _ ψ => ψ = .cleared)
      (if name = .postgres then .cleared else .spawned)) :
    (withLifecycleLock do
      if ← abortRequested then return withheld
      else
        let spawned : Except Fault Handle ← call (.spawn name spec)
        let handle ← orRaise spawned
        rest handle).Holds Unlocked := by
  refine holds_withLifecycleLock ?_
  rintro _ rfl
  refine wp_seq abortRequested_locked ?_ ?_
  · rintro abort φ (⟨habort, hφ⟩ | ⟨habort, rfl⟩)
    · -- a stop was seen: nothing is spawned
      cases habort
      exact ⟨hφ, nofun⟩
    · cases habort
      -- the intent was unset, and the lock keeps it so
      refine ⟨rfl, fun (spawned : Except Fault Handle) _ => ?_⟩
      cases spawned with
      | error fault => exact ⟨.inr rfl, fun _ _ => trivial⟩
      | ok handle => exact wp_mono (fun _ ψ hψ => ⟨.inr hψ, fun _ _ => trivial⟩) (hrest handle)
  · rintro e φ (⟨he, -⟩ | ⟨he, -⟩) <;> cases he

lemma decideAndSpawn_unlocked {maintenance : Bool} (spec : ChildSpec) :
    (decideAndSpawn name maintenance spec).Holds Unlocked := by
  refine decide_unlocked fun handle => ?_
  -- the attribute assignments leave the monitor where the spawn put it
  refine ⟨trivial, fun _ _ => ⟨trivial, fun _ _ => ⟨trivial, fun _ _ => ?_⟩⟩⟩
  change wp recon (trackMode name maintenance >>= _) _
    (if name = .postgres then .cleared else .spawned)
  refine wp_seq (trackMode_wp name) ?_ (fun _ _ h => nomatch h.1)
  rintro _ _ ⟨-, rfl⟩
  exact wp_seq (assignOnSpawn_wp name handle) (fun _ _ hψ => hψ) fun _ _ hψ => hψ

lemma spawnMaintenance_unlocked {spec : ChildSpec} : (spawnMaintenance spec).Holds Unlocked := by
  refine decide_unlocked fun handle => ?_
  refine ⟨trivial, fun _ _ => ⟨trivial, fun _ _ => ⟨trivial, fun _ _ => ?_⟩⟩⟩
  change wp recon (assignChild handle.pid false >>= _) _ .spawned
  exact wp_seq (assignChild_wp handle.pid false (.inl rfl)) (fun _ _ hψ => hψ) fun _ _ hψ => hψ

/-- The postgres poll: unlocked throughout, and in the hand-over when it
returns ready. -/
lemma pollLoop_postgres {stallSeconds : Option ℚ} {deadline : ℚ} (fuel : ℕ) :
    ∀ m φ, Unlocked φ → (pollLoop checkPostgresReady none stallSeconds deadline fuel m).wp recon
      (fun r ψ => Unlocked ψ ∧ (r = .ok .ready → ψ = .handOver)) φ := by
  induction fuel with
  | zero =>
    intro m φ hφ
    exact ⟨trivial, nofun⟩
  | succ fuel ih =>
    intro m φ hφ
    have habort := holds_unlocked (uses_tending uses_abortRequested)
    refine wp_seq (habort φ hφ) (fun abort ψ hψ => ?_) fun e ψ hψ => ⟨hψ.1, nofun⟩
    refine wp_ite (fun _ => ⟨hψ.1, nofun⟩) fun _ => ⟨trivial, fun (ok : Option Bool) _ => ?_⟩
    change wp recon (abortRequested >>= _) _ (ψ.probed ok)
    rw [hψ.1.probed]
    by_cases hok : ok = some true
    · -- ready: the stop check decides
      rw [if_pos hok]
      refine wp_seq abortRequested_polled ?_ ?_
      · rintro abort χ (⟨ha, hχ⟩ | ⟨ha, rfl⟩)
        · cases ha
          exact ⟨hχ, nofun⟩
        · cases ha
          subst hok
          exact ⟨rfl, fun _ => rfl⟩
      · rintro e χ (⟨he, -⟩ | ⟨he, -⟩) <;> cases he
    · -- not ready: another round, unless the budget is spent
      have hresult : probeOutcome ok = .notReady := if_neg hok
      rw [if_neg hok]
      refine wp_seq (habort .idle rfl) (fun abort χ hχ => ?_) fun e χ hχ => ⟨hχ.1, nofun⟩
      refine wp_ite (fun _ => ⟨hχ.1, nofun⟩) fun _ => ?_
      rw [hresult, if_neg (by decide)]
      refine ⟨trivial, fun (now : ℚ) _ => ?_⟩
      refine wp_ite (fun _ => ⟨hχ.1, nofun⟩) fun _ => ⟨trivial, fun _ _ => ?_⟩
      exact ih m χ hχ.1

lemma pollSpawned_postgres {maintenance : Bool}
    (hspec : spec.readinessStallSeconds = none) (handle : Handle) (hφ : Unlocked φ) :
    (pollSpawned .postgres maintenance spec handle).wp recon
      (fun r ψ => Unlocked ψ ∧ (r = .ok .ready → ψ = .handOver)) φ := by
  unfold pollSpawned
  rw [hspec]
  refine ⟨trivial, fun _ _ => ⟨trivial, fun _ _ => ⟨trivial, fun fuel _ => ?_⟩⟩⟩
  exact pollLoop_postgres fuel _ φ hφ

/-- The hand-over: an assignment without the lock, allowed only here. -/
lemma handOverPostmaster_wp (launcher : Handle) : (handOverPostmaster launcher).wp recon
    (fun _ ψ => Unlocked ψ) .handOver := by
  have hunlocked : ∀ {β : Type} {p : SupM β}, p.Uses Tending Benign → ∀ φ, Unlocked φ →
      p.wp recon (fun _ ψ => Unlocked ψ) φ :=
    fun h => keeps_iff.mp (holds_unlocked h)
  have hfail : (failPostgres launcher).Uses Tending Benign := uses_ask trivial fun _ => uses_pure
  refine ⟨trivial, fun (pid : Option ℕ) _ => ?_⟩
  cases pid with
  | none => exact hunlocked hfail .idle rfl
  | some pid =>
    refine ⟨trivial, fun (opened : Except Fault Unit) _ => ?_⟩
    cases opened with
    | error fault => exact hunlocked hfail .idle rfl
    | ok _ =>
      change wp recon ((assignChild pid true).attempt >>= _) _ .handOver
      rw [wp_bind, wp_attempt]
      refine wp_mono ?_ (assignChild_wp pid true (.inr rfl))
      rintro r ψ rfl
      cases r with
      | error e =>
        -- the rollback of a postmaster that could not be contained
        refine hunlocked ?_ .idle rfl
        exact uses_ask trivial fun _ =>
          uses_ask trivial fun _ => hfail
      | ok _ =>
        refine hunlocked ?_ .idle rfl
        exact uses_ask trivial fun _ => uses_ask trivial fun _ =>
          uses_pure

lemma finishStart_unlocked (handle : Handle) {result : ReadinessOutcome}
    (hφ : Unlocked φ) (hready : name = .postgres → result = .ready → φ = .handOver) :
    (finishStart name handle result).wp recon (fun _ ψ => Unlocked ψ) φ := by
  cases result with
  | aborted => exact hφ
  | notReady | timeout => exact ⟨trivial, fun _ _ => hφ⟩
  | ready =>
    by_cases hname : name = .postgres
    · rw [hready hname rfl]
      simp only [finishStart, if_pos hname]
      exact handOverPostmaster_wp handle
    · simp only [finishStart, if_neg hname]
      exact ⟨trivial, fun _ _ => hφ⟩

/-- The postgres spec has no stall window; the others are polled as they are. -/
lemma launch_unlocked {maintenance : Bool}
    (hspec : name = .postgres → spec.readinessStallSeconds = none) :
    (launch name maintenance spec).Holds Unlocked := by
  have hguard : (guardWithholds name maintenance).Holds Unlocked := by
    refine holds_unlocked (uses_ite ?_ uses_pure)
    exact uses_ask trivial fun _ => uses_ite uses_pure <|
      uses_ask trivial fun _ => uses_ask trivial fun _ => uses_pure
  refine .bind hguard fun _ => .ite keeps_pure <|
    .bind (decideAndSpawn_unlocked name spec) fun spawned => ?_
  cases spawned with
  | none => exact keeps_pure
  | some handle =>
    refine keeps_iff.mpr fun φ hφ => ?_
    by_cases hname : name = .postgres
    · subst hname
      refine wp_seq (pollSpawned_postgres (hspec rfl) handle hφ) ?_ ?_
      · exact fun result ψ hψ =>
          finishStart_unlocked _ _ hψ.1 fun _ hresult => hψ.2 (congrArg _ hresult)
      · exact fun _ _ hψ => hψ.1
    · refine wp_seq (holds_unlocked (uses_tending (uses_pollSpawned _ _ _ _)) φ hφ) ?_ ?_
      · exact fun result ψ hψ =>
          finishStart_unlocked _ _ hψ.1 fun h => absurd h hname
      · exact fun _ _ hψ => hψ.1

lemma startChild_unlocked (setup : Setup) (name : ChildName) :
    (startChild setup name false).Holds Unlocked := by
  refine .bind (holds_unlocked (uses_tending uses_sweepUnlessSwept)) fun _ =>
    .bind (call_unlocked trivial) fun _ => .ite ?_ keeps_pure
  cases name with
  | postgres => exact launch_unlocked .postgres fun _ => rfl
  | controlPlane => exact launch_unlocked .controlPlane nofun
  | ollama =>
    refine .bind ?_ fun spec => ?_
    · refine holds_unlocked (uses_ite (uses_ite ?_ (uses_raise nofun)) (uses_raise nofun))
      refine uses_ask trivial fun decision => ?_
      cases decision with
      | some spec => exact uses_pure
      | none =>
        exact uses_ask trivial fun _ => uses_ask trivial fun _ =>
          uses_pure
    · cases spec with
      | none => exact keeps_pure
      | some spec => exact launch_unlocked .ollama nofun

lemma startControlPlaneMaintenance_unlocked : startControlPlaneMaintenance.Holds Unlocked := by
  refine .bind (call_unlocked trivial) fun _ => .ite ?_ keeps_pure
  change SupM.Holds (spawnMaintenance _ >>= _) Unlocked
  refine .bind spawnMaintenance_unlocked fun _ => .ite ?_ keeps_pure
  exact holds_unlocked (uses_pollControlPlaneMaintenanceReady
    (fun _ ho => .of_stopping (.of_passive ho)) fun _ => trivial)

lemma unlocked_lasting : Lasting recon Unlocked fun _ => True where
  benign _ _ := trivial
  allowed _ _ ho _ := ho.allowed
  tend _ _ x ho _ h := ho.unlocked x h
  dispatch _ _ := fun _ h => ⟨trivial, fun _ _ => ⟨trivial, fun _ _ => ⟨h, nofun⟩⟩⟩
  startChild := startChild_unlocked
  startMaintenance := startControlPlaneMaintenance_unlocked
  locked _ hbody := by
    refine holds_withLifecycleLock ?_
    rintro _ rfl
    exact holds_settled hbody .locked (.inl rfl)

lemma pollInterlock_unlocked : pollInterlock.Holds Unlocked := by
  have hdispatch : ∀ e, (dispatch e).Holds Unlocked :=
    fun _ _ h => ⟨trivial, fun _ _ => ⟨trivial, fun _ _ => ⟨h, nofun⟩⟩⟩
  have hcall : ∀ o, (∀ φ, reconcilerMonitor.allows φ o) →
      (∀ φ x, reconcilerMonitor.next φ o x = φ) → (call o).Holds Unlocked := by
    intro o hallows hnext φ h
    refine ⟨hallows φ, fun x _ => ⟨?_, nofun⟩⟩
    change Unlocked (reconcilerMonitor.next φ o x)
    rw [hnext]
    exact h
  refine .bind (hcall .interlockReader (fun _ => trivial) fun _ _ => rfl) fun status =>
    .bind (call_unlocked trivial) fun s =>
      .bind (hcall (.write (.prevInterlock status)) (fun _ => trivial) fun _ _ => rfl)
        fun _ => ?_
  refine .ite (.bind (hdispatch _) fun _ => keeps_pure) (.ite ?_ keeps_pure)
  refine .bind ?_ fun _ => keeps_pure
  exact .bind (call_unlocked trivial) fun _ => .bind (hdispatch _) fun _ =>
    .ite (.bind (unlocked_lasting.stopping uses_stopControlPlane) fun _ => keeps_pure)
      keeps_pure

lemma settleBackoff_unlocked (cfg : SupervisorConfig) (name : ChildName) (now : ℚ)
    (status : ChildStartStatus) : (settleBackoff cfg name now status).Holds Unlocked := by
  refine uses_settleBackoff.keeps (fun φ o ho _ => ?_) fun φ o x ho h _ => ?_
  · rcases ho.cases with ⟨n, b, rfl⟩ | ho
    · trivial
    · exact Tending.allowed (.of_stopping (.of_passive ho))
  · rcases ho.cases with ⟨n, b, rfl⟩ | ho
    · exact h
    · exact Tending.unlocked x (.of_stopping (.of_passive ho)) h

/-- A reconciliation pass. -/
inductive Pass (setup : Setup) : SupM Unit → Prop where
  | start : Pass setup (start setup)
  | tick (now : ℚ) : Pass setup (tick setup now)

/-- Every pass obeys the reconciler's monitor, whatever the seams answer. -/
lemma Pass.admits {setup : Setup} {pass : SupM Unit} (h : Pass setup pass) :
    reconcilerMonitor.Admits pass .idle := by
  cases h with
  | start =>
    exact wp_mono (fun _ _ _ => trivial)
      (unlocked_lasting.start setup pollInterlock_unlocked .idle rfl)
  | tick now =>
    have hloop := unlocked_lasting.recoverChildren setup now settleBackoff_unlocked
      (recoveryNames setup) false
    exact wp_mono (fun _ _ _ => trivial)
      (unlocked_lasting.tick setup now unlocked_lasting (fun _ => id) hloop
        pollInterlock_unlocked .idle rfl)

end Reconciler

/-! ## The stopper against its monitor -/

/-- The drain touches neither the lock nor the job. -/
def Draining : Op → Prop
  | .sendCtrlBreak _ | .clock | .rounds | .isAlive _ | .sleep _ | .diverge => True
  | _ => False

lemma uses_drainLoop (h : Handle) {deadline : ℚ} {fuel : ℕ} :
    (drainLoop h deadline fuel).Uses Draining fun _ => True := by
  induction fuel with
  | zero => exact uses_ask trivial nofun
  | succ fuel ih =>
    refine uses_ask trivial fun _ => uses_ite ?_ uses_pure
    refine uses_ask trivial fun _ => uses_ite uses_pure ?_
    exact uses_ask trivial fun _ => ih

lemma drain_published (cfg : SupervisorConfig) (h : Option Handle) :
    (drain cfg h).Keeps stopperMonitor.toMachine (· = .published) fun _ => True := by
  cases h with
  | none => exact keeps_pure
  | some h =>
    have huses : (drain cfg (some h)).Uses Draining fun _ => True :=
      uses_ask trivial fun _ => uses_ask trivial fun _ =>
        uses_ask trivial fun _ => uses_drainLoop _
    refine huses.keeps (fun φ o ho _ => ?_) fun φ o x ho hφ _ => ?_
    · cases o <;> trivial
    · cases o <;> first | exact hφ | exact ho.elim

/-- The graceful stop publishes and closes under the lock, in that order. -/
lemma gracefulStop_admits {cfg : SupervisorConfig} :
    stopperMonitor.Admits (gracefulStop cfg) .idle := by
  have hpublish : publishStop.wp stopperMonitor.toMachine (fun _ φ => φ = .published) .idle := by
    refine ⟨.inl rfl, fun _ _ => wp_andFinally ?_⟩
    refine ⟨rfl, fun _ _ => ⟨trivial, fun _ _ => ⟨trivial, fun _ _ => ⟨trivial, fun _ _ => ?_⟩⟩⟩⟩
    exact ⟨.inl rfl, fun _ _ => rfl⟩
  have hclose : (withLifecycleLock closeJob).wp stopperMonitor.toMachine (fun _ _ => True)
      .published := by
    refine ⟨.inr rfl, fun _ _ => wp_andFinally ⟨trivial, fun (s : Sup) _ => ?_⟩⟩
    have hunlock : (call .unlock).wp stopperMonitor.toMachine (fun _ _ => True) .closing :=
      ⟨.inr rfl, fun _ _ => trivial⟩
    dsimp only [Prog.bind]
    cases s.jobHandle with
    | none => exact ⟨rfl, fun _ _ => hunlock⟩
    | some job =>
      exact ⟨trivial, fun _ _ => ⟨trivial, fun _ _ => ⟨trivial, fun _ _ => ⟨rfl, fun _ _ =>
        hunlock⟩⟩⟩⟩
  refine wp_seq hpublish (fun h φ hφ => ?_) fun _ _ _ => trivial
  -- the drain runs between the two locked sections
  refine wp_seq (drain_published cfg h φ hφ) (fun _ ψ hψ => ?_) fun _ _ _ => trivial
  rw [hψ.1]
  exact hclose

/-! ## Both threads together -/

/-- What holds between any two calls: a phase under the lock is its owner's;
whoever relies on the unset intent is right to; and the trace is orderly. -/
structure StopInv (φ σ : Phase) (w : World) : Prop where
  reconcilerOwns : φ.holdsLock = true → w.lock = some .reconciler
  stopperOwns : σ.holdsLock = true → w.lock = some .stopper
  relies : φ.relies = true → w.sup.stopIntent = false
  published : σ.hasPublished = true → w.sup.stopIntent = true
  stopped : ∀ e ∈ w.trace, e.stops = true → w.sup.stopIntent = true
  pending : unassigned w.trace = true → φ = .spawned
  orderly : Orderly w.trace

section StopInv

variable {φ σ φ' : Phase} {w w' : World}

/-- A call that touches neither the lock, the intent nor the two traces of
interest. -/
lemma StopInv.quiet (h : StopInv φ σ w) (hlock : w'.lock = w.lock)
    (hintent : w'.sup.stopIntent = w.sup.stopIntent)
    (htrace : w'.trace = w.trace ∨ ∃ s, w'.trace = .reading s :: w.trace)
    (hholds : φ'.holdsLock = true → φ.holdsLock = true)
    (hrelies : φ'.relies = true → φ.relies = true ∨ w.sup.stopIntent = false)
    (hspawned : φ = .spawned → φ' = .spawned) : StopInv φ' σ w' := by
  have hstopped : ∀ e ∈ w'.trace, e.stops = true → w.sup.stopIntent = true := by
    intro e he hstops
    -- a reading stops nothing
    rcases htrace with htrace | ⟨s, htrace⟩
    · exact h.stopped e (htrace ▸ he) hstops
    · rw [htrace] at he
      rcases List.mem_cons.mp he with rfl | he
      · cases hstops
      · exact h.stopped e he hstops
  refine ⟨fun hφ => ?_, fun hσ => ?_, fun hφ => ?_, fun hσ => ?_, ?_, fun hpending => ?_, ?_⟩
  · rw [hlock]
    exact h.reconcilerOwns (hholds hφ)
  · rw [hlock]
    exact h.stopperOwns hσ
  · rw [hintent]
    rcases hrelies hφ with hφ | hw
    · exact h.relies hφ
    · exact hw
  · rw [hintent]
    exact h.published hσ
  · rw [hintent]
    exact hstopped
  · refine hspawned (h.pending ?_)
    rcases htrace with htrace | ⟨s, htrace⟩ <;> rw [htrace] at hpending <;> exact hpending
  · rcases htrace with htrace | ⟨s, htrace⟩
    · rw [htrace]
      exact h.orderly
    · rw [htrace]
      exact h.orderly.cons nofun nofun

lemma StopInv.no_stops (h : StopInv φ σ w) (hrelies : φ.relies = true) :
    ∀ e ∈ w.trace, e.stops = false := by
  intro e he
  have hunset := h.relies hrelies
  by_contra hstops
  have hset := h.stopped e he (Bool.eq_true_of_not_eq_false hstops)
  rw [hunset] at hset
  cases hset

/-- A spawn or an entry or exit of an assignment by a reconciler that may
rely on the unset intent. -/
lemma StopInv.starts (h : StopInv φ σ w) (hrelies : φ.relies = true) {e : Event}
    (hstarts : e.starts = true) (hlock : w'.lock = w.lock)
    (hintent : w'.sup.stopIntent = w.sup.stopIntent) (htrace : w'.trace = e :: w.trace)
    (hholds : φ'.holdsLock = true → φ.holdsLock = true)
    (hpending : unassigned (e :: w.trace) = true → φ' = .spawned) : StopInv φ' σ w' := by
  have hnone := h.no_stops hrelies
  have hstop : e.stops = false := by cases e <;> first | rfl | cases hstarts
  refine ⟨fun hφ => ?_, fun hσ => ?_, fun _ => ?_, fun hσ => ?_, fun e' he' hstops => ?_, ?_, ?_⟩
  · rw [hlock]
    exact h.reconcilerOwns (hholds hφ)
  · rw [hlock]
    exact h.stopperOwns hσ
  · rw [hintent]
    exact h.relies hrelies
  · rw [hintent]
    exact h.published hσ
  · rw [htrace] at he'
    rcases List.mem_cons.mp he' with rfl | he'
    · cases hstop.symm.trans hstops
    · cases (hnone e' he').symm.trans hstops
  · rw [htrace]
    exact hpending
  · rw [htrace]
    refine h.orderly.cons (fun _ => hnone) ?_
    rintro rfl
    cases hstarts

lemma Phase.probed_cases (φ : Phase) (ok : Option Bool) : φ.probed ok = φ ∨
    φ.holdsLock = false ∧ (φ.probed ok = .polled ∨ φ.probed ok = .idle) := by
  unfold probed
  by_cases hφ : φ.holdsLock = true
  · rw [if_pos hφ]
    exact .inl rfl
  · rw [if_neg hφ]
    refine .inr ⟨Bool.eq_false_iff.mpr hφ, ?_⟩
    by_cases hok : ok = some true
    · rw [if_pos hok]
      exact .inl rfl
    · rw [if_neg hok]
      exact .inr rfl

lemma StopInv.reconciler_step (h : StopInv φ σ w) {o : Op} {x : Ans o}
    (hallows : reconcilerMonitor.allows φ o) (hlegal : legal .reconciler w o x) :
    StopInv (reconcilerMonitor.next φ o x) σ ((machine .reconciler).next w o x) := by
  have hleave : StopInv φ.leave σ w := by
    refine h.quiet rfl rfl (.inl rfl) ?_ ?_ ?_
    · cases φ <;> exact id
    · cases φ <;> first | exact .inl | exact nofun
    · rintro rfl
      rfl
  cases o with
  | lock =>
    -- the lock was free, so the stopper does not hold it
    have hfree : w.lock = none := hlegal
    have hφ : φ.holdsLock = false := hallows
    refine ⟨fun _ => rfl, fun hσ => ?_, nofun, h.published, h.stopped, fun hp => ?_, h.orderly⟩
    · cases hfree.symm.trans (h.stopperOwns hσ)
    · rw [h.pending hp] at hφ
      cases hφ
  | unlock =>
    -- nothing is unassigned when the reconciler unlocks: its monitor has left `spawned`
    have howns : w.lock = some .reconciler := hlegal
    refine ⟨nofun, fun hσ => ?_, nofun, h.published, h.stopped, fun hp => ?_, h.orderly⟩
    · cases howns.symm.trans (h.stopperOwns hσ)
    · rcases hallows with hφ | hφ <;> cases hφ.symm.trans (h.pending hp)
  | stopIntent =>
    have hread : x = w.sup.stopIntent := hlegal
    refine h.quiet rfl rfl (.inl rfl) ?_ ?_ ?_
    · cases φ <;> cases x <;> exact id
    · cases x with
      | true => cases φ <;> exact .inl
      -- an intent read as unset is unset now, which is what the new phase relies on
      | false => exact fun _ => .inr hread.symm
    · rintro rfl
      rfl
  | postgresProbe =>
    change StopInv (φ.probed x) σ w
    rcases φ.probed_cases x with hp | ⟨hφ, hp⟩
    · rw [hp]
      exact h
    · refine h.quiet rfl rfl (.inl rfl) ?_ ?_ ?_
      · rcases hp with hp | hp <;> rw [hp] <;> exact nofun
      · rcases hp with hp | hp <;> rw [hp] <;> exact nofun
      · rintro rfl
        cases hφ
  | shouldAbort =>
    cases x with
    | true => exact hleave
    | false => exact h
  | postmasterPidReader =>
    cases x with
    | none => exact hleave
    | some pid => exact h
  | openExisting pid =>
    cases x with
    | error fault => exact hleave
    | ok _ => exact h
  | spawn n spec =>
    cases x with
    | error fault => exact h
    | ok handle =>
      have hφ : φ = .cleared := hallows
      subst hφ
      refine h.starts rfl rfl rfl rfl rfl ?_ ?_
      · intro _
        rfl
      · intro hp
        by_cases hn : n = .postgres
        -- postgres is assigned by the hand-over, so its spawn leaves nothing pending
        · have hold : unassigned w.trace = true := by simpa [unassigned, hn] using hp
          cases h.pending hold
        · exact if_neg hn
  | mark m =>
    cases m with
    | closed => exact hallows.elim
    | assignEnter pid =>
      have hrelies : φ.relies = true := by
        rcases hallows with rfl | rfl <;> rfl
      exact h.starts hrelies rfl rfl rfl rfl id h.pending
    | assignExit pid =>
      have hrelies : φ.relies = true := by
        rcases hallows with rfl | rfl <;> rfl
      refine h.starts hrelies rfl rfl rfl rfl ?_ nofun
      rcases hallows with rfl | rfl
      · exact fun _ => rfl
      · exact nofun
  | write wr =>
    cases wr <;> first | exact hallows.elim | exact h.quiet rfl rfl (.inl rfl) id .inl id
  | isAlive handle => cases x <;> exact h.quiet rfl rfl (.inl rfl) id .inl id
  | interlockReader => exact h.quiet rfl rfl (.inr ⟨x, rfl⟩) id .inl id
  | _ => exact h.quiet rfl rfl (.inl rfl) id .inl id

/-- One call of the stopper; it does not publish during a hand-over. -/
lemma StopInv.stopper_step (h : StopInv φ σ w) {o : Op} {x : Ans o}
    (hallows : stopperMonitor.allows σ o) (hlegal : legal .stopper w o x)
    (hok : o = .write .stopIntent → φ ≠ .handOver) :
    StopInv φ (stopperMonitor.next σ o x) ((machine .stopper).next w o x) := by
  have hquiet : ∀ {w'}, w'.lock = w.lock → w'.sup.stopIntent = w.sup.stopIntent →
      w'.trace = w.trace ∨ (∃ s, w'.trace = .reading s :: w.trace) → StopInv φ σ w' :=
    fun hlock hintent htrace => h.quiet hlock hintent htrace id .inl id
  cases o with
  | lock =>
    have hfree : w.lock = none := hlegal
    -- taken the second time, after the drain, the intent has been published
    refine ⟨fun hφ => ?_, fun _ => rfl, h.relies, ?_, h.stopped, h.pending, h.orderly⟩
    · cases hfree.symm.trans (h.reconcilerOwns hφ)
    · rcases hallows with rfl | rfl
      · exact nofun
      · exact fun _ => h.published rfl
  | unlock =>
    have howns : w.lock = some .stopper := hlegal
    refine ⟨fun hφ => ?_, nofun, h.relies, fun _ => ?_, h.stopped, h.pending, h.orderly⟩
    · cases howns.symm.trans (h.reconcilerOwns hφ)
    · refine h.published ?_
      rcases hallows with rfl | rfl <;> rfl
  | write wr =>
    cases wr with
    | stopIntent =>
      have hσ : σ = .locked := hallows
      have howns : w.lock = some .stopper := h.stopperOwns (by rw [hσ]; rfl)
      have hφ : φ.holdsLock = false := by
        by_contra hholds
        cases howns.symm.trans (h.reconcilerOwns (Bool.eq_true_of_not_eq_false hholds))
      -- the reconciler holds no lock and hands nothing over, so it relies on nothing
      have hrelies : φ.relies = false := by
        have hne := hok rfl
        cases φ <;> first | rfl | exact absurd rfl hne | cases hφ
      have hassigned : unassigned w.trace = false := by
        by_contra hp
        rw [h.pending (Bool.eq_true_of_not_eq_false hp)] at hφ
        cases hφ
      refine ⟨fun hholds => ?_, fun _ => howns, fun hr => ?_, fun _ => rfl, fun _ _ _ => rfl,
        fun hp => ?_, ?_⟩
      · cases hφ.symm.trans hholds
      · cases hrelies.symm.trans hr
      · exact h.pending hp
      · exact h.orderly.cons nofun fun _ => hassigned
    | _ => exact hquiet rfl rfl (.inl rfl)
  | mark m =>
    cases m with
    | closed =>
      have hσ : σ = .closing := hallows
      have hset : w.sup.stopIntent = true := h.published (by rw [hσ]; rfl)
      refine ⟨h.reconcilerOwns, h.stopperOwns, h.relies, h.published, fun _ _ _ => hset,
        h.pending, ?_⟩
      exact h.orderly.cons nofun nofun
    | assignEnter pid | assignExit pid => exact hallows.elim
  | spawn n spec => exact hallows.elim
  | isAlive handle => cases x <;> exact hquiet rfl rfl (.inl rfl)
  | interlockReader => exact hquiet rfl rfl (.inr ⟨x, rfl⟩)
  | _ => exact hquiet rfl rfl (.inl rfl)

end StopInv

/-! ## The shutdown results -/

/-- The two threads before their first call, in any world; the trace records
what happens from here on. -/
def shutdownStart (setup : Setup) (pass : SupM Unit) (w : World) :
    Config Thread supIface PyError Phase World where
  code
    | .reconciler => pass
    | .stopper => gracefulStop setup.config
  ghost _ := .idle
  world := { w with trace := [] }

/-- The stop is not published during a postmaster hand-over. -/
def outsideHandOver (g : Thread → Phase) : Op → Bool
  | .write .stopIntent => g .reconciler ≠ .handOver
  | _ => true

/-- In every interleaving of a pass with a graceful stop that is not published
during a hand-over, nothing is spawned or assigned after the stop, and no stop
comes between a spawn and its assignment. -/
theorem shutdown_orderly {setup : Setup} {pass : SupM Unit} {w : World}
    {c : Config Thread supIface PyError Phase World} (hpass : Pass setup pass)
    (hrun : Config.Reach machine watch (fun g o => outsideHandOver g o = true)
      (shutdownStart setup pass w) c) : Orderly c.world.trace := by
  have hadmits : ∀ t, (watch t).Admits ((shutdownStart setup pass w).code t)
      ((shutdownStart setup pass w).ghost t) := by
    intro t
    cases t with
    | reconciler => exact hpass.admits
    | stopper => exact gracefulStop_admits
  have hinit : StopInv .idle .idle { w with trace := [] } := by
    refine ⟨nofun, nofun, nofun, nofun, nofun, nofun, List.Pairwise.nil, ?_⟩
    intro later earlier h
    cases later <;> cases h
  have hinv := hrun.invariant (J := fun g w => StopInv (g .reconciler) (g .stopper) w) hadmits hinit
    (by
      intro g w t o x h hok hallows hlegal
      cases t with
      | reconciler =>
        have hstep := h.reconciler_step hallows hlegal
        simpa [watch] using hstep
      | stopper =>
        have hpublish : o = .write .stopIntent → g .reconciler ≠ .handOver := by
          rintro rfl
          exact of_decide_eq_true hok
        have hstep := h.stopper_step hallows hlegal hpublish
        simpa [watch] using hstep)
  exact hinv.orderly

/-! ### Two concrete runs -/

/-- The threads take turns as in `schedule`, everything else going well. -/
def shutdownBy (ok : (Thread → Phase) → Op → Bool) (schedule : List Thread) :
    Option (Config Thread supIface PyError Phase World) :=
  Config.drive machine watch (fun t => Environment.answer {} t) (fun g o => ok g o = true) schedule
    (shutdownStart {} (start {}) World.fresh)

/-- The reconciler makes `before` calls, then the stop runs to its end, then
the reconciler does. -/
def stopAfter (before : ℕ) : List Thread :=
  List.replicate before Thread.reconciler ++ List.replicate 20 Thread.stopper ++
    List.replicate 40 Thread.reconciler

/-- The trace of a run by schedule. -/
def traceOf (c : Option (Config Thread supIface PyError Phase World)) : List Event :=
  (c.map fun c => c.world.trace).getD []

lemma reach_shutdownBy (ok : (Thread → Phase) → Op → Bool) (schedule : List Thread)
    (h : (shutdownBy ok schedule).isSome = true) :
    ∃ c, Config.Reach machine watch (fun g o => ok g o = true)
      (shutdownStart {} (start {}) World.fresh) c ∧
      c.world.trace = traceOf (shutdownBy ok schedule) := by
  rcases Option.isSome_iff_exists.mp h with ⟨c, hc⟩
  refine ⟨c, Config.reach_of_drive .refl hc, ?_⟩
  rw [traceOf, hc]
  rfl

/-- Bring-up finds postgres ready and passes its stop check; the whole stop
runs; the postmaster is then assigned to a job that was closed. -/
theorem assigned_after_job_closed :
    ¬ ∀ (setup : Setup) (pass : SupM Unit) (w : World)
      (c : Config Thread supIface PyError Phase World), Pass setup pass →
      Config.Reach machine watch (fun _ _ => True) (shutdownStart setup pass w) c →
      Orderly c.world.trace := by
  intro h
  obtain ⟨c, hc, htrace⟩ := reach_shutdownBy (fun _ _ => true) (stopAfter 24)
    (by decide +kernel)
  have hlate := (h {} (start {}) World.fresh c .start (by simpa using hc)).late
  rw [htrace] at hlate
  revert hlate
  decide +kernel

/-- The same stop one check earlier: the poll sees it, and nothing follows. -/
theorem shutdown_orderly_before_check :
    Orderly (traceOf (shutdownBy outsideHandOver (stopAfter 20))) := by
  obtain ⟨c, hc, htrace⟩ := reach_shutdownBy outsideHandOver (stopAfter 20)
    (by decide +kernel)
  rw [← htrace]
  exact shutdown_orderly .start hc

end CivicCast.Supervisor
