import CivicCast.Supervisor.Interlock

/-! # The restart backoff over an outage of any length

`_attempt_restart` counts consecutive failures without a bound and computes
`2.0**attempt` before it cuts the delay off, so from the 1024th failure on the
computation itself raises, and nothing between it and the run loop catches
that. Below that every delay is defined and stays within the jittered maximum.
-/

namespace CivicCast.Supervisor

open Lib Lib.Prog Function

/-! ## One delay -/

variable {n : ℕ} {w : World} {now : ℚ} {name : ChildName} {t : Thread} {cfg : SupervisorConfig}
  {names : List ChildName}

lemma pow2_ok {k : ℕ} (h : k < 1024) : pow2 k = .ok (2 ^ k) := if_neg (Nat.not_le.mpr h)
lemma pow2_overflow {k : ℕ} (h : 1024 ≤ k) : pow2 k = .error .overflow := if_pos h

lemma backoffBaseSeconds_ok (h : n < 1024) (initial max : ℚ) :
    backoffBaseSeconds n initial max = .ok (min (initial * 2 ^ n) max) := by
  simp [backoffBaseSeconds, pow2_ok h]

lemma backoffBaseSeconds_overflow (h : 1024 ≤ n) (initial max : ℚ) :
    backoffBaseSeconds n initial max = .error .overflow := by
  simp [backoffBaseSeconds, pow2_overflow h]

/-- The bounds of a restart delay. -/
def DelayInBounds (cfg : SupervisorConfig) (delay : ℚ) : Prop :=
  0 ≤ delay ∧ delay ≤ cfg.backoffMaxSeconds * (1 + cfg.backoffJitterFraction)

lemma jittered_inBounds {cfg : SupervisorConfig} {base r : ℚ} (hbase : 0 ≤ base)
    (hmax : base ≤ cfg.backoffMaxSeconds) (hr : 0 ≤ r ∧ r < 1) :
    DelayInBounds cfg (max (base * (1 + (r * 2 - 1) * cfg.backoffJitterFraction)) 0) := by
  have hj := cfg.jitter_nonneg
  have hfactor : 1 + (r * 2 - 1) * cfg.backoffJitterFraction ≤ 1 + cfg.backoffJitterFraction := by
    nlinarith
  have hfactor0 : 0 ≤ 1 + cfg.backoffJitterFraction := by linarith
  refine ⟨le_max_right _ _, max_le ?_ ?_⟩
  · calc base * (1 + (r * 2 - 1) * cfg.backoffJitterFraction)
        ≤ base * (1 + cfg.backoffJitterFraction) := mul_le_mul_of_nonneg_left hfactor hbase
      _ ≤ cfg.backoffMaxSeconds * (1 + cfg.backoffJitterFraction) :=
          mul_le_mul_of_nonneg_right hmax hfactor0
  · exact mul_nonneg (hbase.trans hmax) hfactor0

lemma backoffWithJitter_wp (h : n < 1024) (cfg : SupervisorConfig) (t : Thread)
    {w : World} : (backoffWithJitter n cfg).wp (machine t)
      (fun r w' => (∃ delay, r = .ok delay ∧ DelayInBounds cfg delay) ∧ w' = w) w := by
  have hpos : 0 < cfg.backoffInitialSeconds := cfg.initial_pos
  have hmaxpos : 0 < cfg.backoffMaxSeconds := hpos.trans_le cfg.initial_le_max
  have hbase : 0 ≤ min (cfg.backoffInitialSeconds * 2 ^ n) cfg.backoffMaxSeconds :=
    le_min (by positivity) hmaxpos.le
  unfold backoffWithJitter
  rw [backoffBaseSeconds_ok h]
  refine wp_ite (fun hj => ?_) fun _ => ⟨trivial, fun r hr => ?_⟩
  · refine ⟨⟨_, rfl, hbase, ?_⟩, rfl⟩
    have hone : 1 ≤ 1 + cfg.backoffJitterFraction := by linarith [cfg.jitter_nonneg]
    exact (min_le_right _ _).trans (le_mul_of_one_le_right hmaxpos.le hone)
  · exact ⟨⟨_, rfl, jittered_inBounds hbase (min_le_right _ _) hr⟩, rfl⟩

lemma backoffWithJitter_overflow (h : 1024 ≤ n) (cfg : SupervisorConfig) :
    backoffWithJitter n cfg = Prog.raise .overflow := by
  unfold backoffWithJitter
  rw [backoffBaseSeconds_overflow h]
  rfl

/-! ## The bookkeeping of one failed restart -/

/-- What a failed restart must leave behind: no exception, one more failure
counted, and a delay within bounds. -/
def DelaySettled (cfg : SupervisorConfig) (name : ChildName) (now : ℚ) (w : World)
    (r : Except PyError Bool) (w' : World) : Prop :=
  r = .ok false ∧ (w'.sup.backoff name).attempt = (w.sup.backoff name).attempt + 1 ∧
    DelayInBounds cfg ((w'.sup.backoff name).nextRetryEpoch - now)

lemma settleBackoff_delaySettled (h : (w.sup.backoff name).attempt + 1 < 1024) :
    (settleBackoff cfg name now .notReady).wp (machine t)
      (fun r w' => DelaySettled cfg name now w r w' ∧
        ∀ n, n ≠ name → w'.sup.backoff n = w.sup.backoff n) w := by
  refine ⟨trivial, ?_⟩
  rintro s rfl
  refine ⟨trivial, fun _ _ => ?_⟩
  change (backoffWithJitter _ cfg >>= _).wp _ _ _
  -- the count is already assigned in this world
  refine wp_seq (backoffWithJitter_wp h cfg t) ?_ ?_
  · rintro _ w' ⟨⟨delay, hd, hbounds⟩, rfl⟩
    cases hd
    refine ⟨trivial, fun _ _ => ⟨⟨rfl, ?_, ?_⟩, fun n hn => ?_⟩⟩
    · simp [machine, effect, Write.apply]
    · simpa [machine, effect, Write.apply] using hbounds
    · simp [machine, effect, Write.apply, hn]
  · rintro e w' ⟨⟨delay, hd, -⟩, -⟩
    cases hd

lemma settleBackoff_overflow {Q : Except PyError Bool → World → Prop}
    (hn : 1024 ≤ (w.sup.backoff name).attempt + 1)
    (h : (settleBackoff cfg name now .notReady).wp (machine t) Q w) :
    ∃ w', Q (.error .overflow) w' := by
  have h' := (h.2 w.sup rfl).2 () trivial
  rw [backoffWithJitter_overflow hn] at h'
  exact ⟨_, h'⟩

/-! ## A whole tick -/

/-- None of these children has reached its last admissible failure. -/
def BelowLimit (names : List ChildName) (w : World) : Prop :=
  ∀ n ∈ names, (w.sup.backoff n).attempt + 1 < 1024

lemma backoff_next {o : Op} {x : Ans o} (h : ∀ n b, o ≠ .write (.backoff n b)) :
    ((machine t).next w o x).sup.backoff = w.sup.backoff := by
  cases o with
  | write wr => cases wr <;> first | rfl | exact absurd rfl (h _ _)
  | spawn s | isAlive h => cases x <;> rfl
  | _ => rfl

lemma belowLimit_call {o : Op} (h : ∀ n b, o ≠ .write (.backoff n b)) :
    (call o).Keeps (machine t) (BelowLimit names) Benign := by
  intro w hw
  refine ⟨trivial, fun x _ => ⟨fun n hn => ?_, nofun⟩⟩
  rw [backoff_next h]
  exact hw n hn

lemma belowLimit_lasting (names : List ChildName) :
    Lasting (machine .reconciler) (BelowLimit names) Benign := by
  refine .ofReconciling (fun _ h => h) (fun w o x ho _ hw n hn => ?_) fun e _ => ?_
  · rw [backoff_next fun n b h => by subst h; exact ho]
    exact hw n hn
  · exact .bind (belowLimit_call nofun) fun _ => belowLimit_call nofun

lemma pollInterlock_belowLimit {names : List ChildName} :
    pollInterlock.Keeps (machine .reconciler) (BelowLimit names) Benign := by
  have hdispatch : ∀ e, (dispatch e).Keeps (machine .reconciler) (BelowLimit names) Benign :=
    fun e => .bind (belowLimit_call nofun) fun _ => belowLimit_call nofun
  have hstop := (belowLimit_lasting names).stopping uses_stopControlPlane
  refine .bind (belowLimit_call nofun) fun _ => .bind (belowLimit_call nofun) fun _ =>
    .bind (belowLimit_call nofun) fun _ => ?_
  refine .ite (.bind (hdispatch _) fun _ => keeps_pure) (.ite ?_ keeps_pure)
  refine .bind ?_ fun _ => keeps_pure
  exact .bind (belowLimit_call nofun) fun _ => .bind (hdispatch _) fun _ =>
    .ite (.bind hstop fun _ => keeps_pure) keeps_pure

lemma settleBackoff_belowLimit (hname : name ∉ names) {status : ChildStartStatus} :
    (settleBackoff cfg name now status).Leads (machine .reconciler)
      (BelowLimit (name :: names)) (BelowLimit names) Benign := by
  have hrest : ∀ w, BelowLimit (name :: names) w → BelowLimit names w :=
    fun w hw n hn => hw n (List.mem_cons_of_mem _ hn)
  have hne : ∀ n ∈ names, n ≠ name := fun n hn h => hname (h ▸ hn)
  cases status with
  | notReady =>
    intro w hw
    -- the one status that counts a failure
    refine wp_mono ?_ (settleBackoff_delaySettled (hw name List.mem_cons_self))
    rintro r w' ⟨⟨rfl, -, -⟩, hothers⟩
    refine ⟨fun n hn => ?_, nofun⟩
    rw [hothers n (hne n hn)]
    exact hw n (List.mem_cons_of_mem _ hn)
  | startedReady =>
    intro w hw
    refine ⟨trivial, fun _ _ => ⟨fun n hn => ?_, nofun⟩⟩
    change (update w.sup.backoff name _ n).attempt + 1 < 1024
    rw [update_of_ne (hne n hn)]
    exact hw n (List.mem_cons_of_mem _ hn)
  | guardBlocked | notEligible | skipped | aborted => exact keeps_pure.leads hrest

lemma retryChild_belowLimit (setup : Setup) (now : ℚ) (hname : name ∉ names) :
    (retryChild setup name now).Leads (machine .reconciler)
      (BelowLimit (name :: names)) (BelowLimit names) Benign := by
  have hJ := belowLimit_lasting (name :: names)
  have hrest : ∀ w, BelowLimit (name :: names) w → BelowLimit names w :=
    fun w hw n hn => hw n (List.mem_cons_of_mem _ hn)
  refine Keeps.bindLeads (hJ.passive uses_needsRestart) hrest fun _ =>
    Leads.ite ?_ (keeps_pure.leads hrest)
  refine Keeps.bindLeads hJ.read hrest fun _ => Leads.ite ?_ (keeps_pure.leads hrest)
  exact Keeps.bindLeads (hJ.passive uses_abortRequested) hrest fun _ =>
    Leads.ite (keeps_pure.leads hrest) <|
      Keeps.bindLeads (hJ.stopping uses_dropStale) hrest fun _ =>
        Keeps.bindLeads (hJ.startChild setup _) hrest fun _ =>
          settleBackoff_belowLimit hname

/-- The recovery loop settles each child at most once. -/
lemma recoverChildren_belowLimit (setup : Setup) (now : ℚ) :
    ∀ (names : List ChildName), names.Nodup → ∀ fresh,
      (recoverChildren setup now names fresh).Leads (machine .reconciler)
        (BelowLimit names) (BelowLimit []) Benign := by
  intro names
  induction names with
  | nil => intro _ fresh; exact keeps_pure.leads fun _ => id
  | cons name names ih =>
    intro hnodup fresh
    rcases List.nodup_cons.mp hnodup with ⟨hname, hnodup⟩
    have hJ := belowLimit_lasting (name :: names)
    have hend : ∀ w, BelowLimit (name :: names) w → BelowLimit [] w := fun _ _ => nofun
    refine Keeps.bindLeads (hJ.passive uses_abortRequested) hend fun _ =>
      .ite (keeps_pure.leads hend) ?_
    -- the child is dropped from the list once it has been settled, so that the count it
    -- gained is not held against the rest of the loop
    refine Keeps.bindLeads (hJ.recovering.noteDeath now name) hend fun _ => ?_
    intro w hw
    refine wp_seq (retryChild_belowLimit setup now hname w hw) ?_ ?_
    · intro r w' hw'
      exact ih hnodup _ w' hw'.1
    · intro e w' hw'
      exact ⟨nofun, fun e' he' => Except.error.inj he' ▸ hw'.2 e rfl⟩

lemma tick_no_overflow (setup : Setup) (now : ℚ) (hw : ∀ n, (w.sup.backoff n).attempt + 1 < 1024) :
    (tick setup now).wp (machine .reconciler) (fun r _ => r ≠ .error .overflow) w := by
  have hnodup : (recoveryNames setup).Nodup := by
    unfold recoveryNames
    split <;> decide
  have htick := (belowLimit_lasting (recoveryNames setup)).tick setup now (belowLimit_lasting [])
    (fun _ _ => nofun) (recoverChildren_belowLimit setup now _ hnodup false)
    pollInterlock_belowLimit w fun n _ => hw n
  refine wp_mono ?_ htick
  intro r w' hr h
  exact hr.2 _ h rfl

/-- The delay of the next restart is defined and within bounds exactly below
the 1024th consecutive failure; and as long as no child has got that far, no
overflow leaves a tick. -/
theorem restart_delay_defined_iff (setup : Setup) (name : ChildName) (now : ℚ) (w : World) :
    ((settleBackoff setup.config name now .notReady).wp (machine .reconciler)
        (DelaySettled setup.config name now w) w ↔
      (w.sup.backoff name).attempt + 1 < 1024) ∧
    ((∀ n, (w.sup.backoff n).attempt + 1 < 1024) →
      (tick setup now).wp (machine .reconciler) (fun r _ => r ≠ .error .overflow) w) := by
  refine ⟨⟨fun h => ?_, fun h => ?_⟩, tick_no_overflow setup now⟩
  · by_contra hn
    rcases settleBackoff_overflow (Nat.not_lt.mp hn) h with ⟨w', hw'⟩
    cases hw'.1
  · exact wp_mono (fun _ _ hr => hr.1) (settleBackoff_delaySettled h)

/-! ## An outage that lasts

A run from the fresh supervisor in which every start of the control plane finds
it dead: each tick counts one failure, and the 1024th raises. -/

/-- An environment where postgres is well and every control plane dies at once. -/
def dying (w : World) : (o : Op) → Option {x : Ans o // legal .reconciler w o x}
  | .isAlive (.child _ _) => some ⟨false, trivial⟩
  | .isAlive (.opened _) => some ⟨true, rfl⟩
  | .spawn _ _ => some ⟨.ok (.child w.nextProc 7), rfl⟩
  | o => Environment.answer {} .reconciler w o

lemma exec_dying {α : Type} {p : SupM α} {w' : World} {r : Except PyError α}
    (h : p.play (machine .reconciler) dying w = some (r, w')) :
    Exec (machine .reconciler) p w r w' :=
  exec_of_play h

/-- The world of a supervisor whose control plane never becomes ready. -/
def outage (b : Backoff) (h : Handle) (live : List Process) (nextProc : ℕ)
    (trace : List Event) : World where
  sup :=
    { Sup.fresh with
      childStates := fun
        | .postgres => .ready
        | .controlPlane => .failed
        | .ollama => .stopped
      handles := fun
        | .postgres => some (.opened 4000)
        | .controlPlane => some h
        | .ollama => none
      backoff := fun
        | .controlPlane => b
        | _ => {}
      prevInterlock := some .free
      swept := true
      cpMode := some .normal
      jobHandle := some 1
      assignedPids := [4000, 7] }
  lock := none
  live := live
  nextProc := nextProc
  trace := trace

def thirdFailure : World := outage ⟨3, 60⟩ (.child 3 7) [] 4 []

/-- After three restarts that failed, the delay of the fourth is within bounds, and no overflow
leaves a tick. -/
theorem restart_delay_defined_outage :
    (settleBackoff SupervisorConfig.defaults .controlPlane 60 .notReady).wp (machine .reconciler)
        (DelaySettled SupervisorConfig.defaults .controlPlane 60 thirdFailure) thirdFailure ∧
      (tick {} 60).wp (machine .reconciler) (fun r _ => r ≠ .error .overflow) thirdFailure := by
  obtain ⟨hdelay, htick⟩ := restart_delay_defined_iff {} .controlPlane 60 thirdFailure
  refine ⟨hdelay.mpr (by decide), htick ?_⟩
  intro n
  cases n with
  | postgres | controlPlane | ollama => decide

variable (b : Backoff) (proc : ℕ) (live : List Process) (nextProc : ℕ)
    (trace : List Event)

lemma eq_outage {b : Backoff} {h : Handle} {nextProc : ℕ}
    (hsup : w.sup = (outage b h [] nextProc []).sup) (hlock : w.lock = none)
    (hproc : w.nextProc = nextProc) : w = outage b h w.live nextProc w.trace := by
  rcases w with ⟨sup, lock, live, np, trace⟩
  cases hlock
  cases hproc
  cases hsup
  rfl

/-- A start of the control plane that finds it dead at the first probe. -/
lemma exec_startChild_outage : ∃ live' trace',
    Exec (machine .reconciler) (startChild {} .controlPlane false)
      (outage b (.child proc 7) live nextProc trace) (.ok ⟨.controlPlane, .notReady, some 7⟩)
      (outage b (.child nextProc 7) live' (nextProc + 1) trace') := by
  have hexec : ∃ w', Exec (machine .reconciler) (startChild {} .controlPlane false)
      (outage b (.child proc 7) live nextProc trace) (.ok ⟨.controlPlane, .notReady, some 7⟩) w' ∧
        w' = outage b (.child nextProc 7) w'.live (nextProc + 1) w'.trace := by
    refine ⟨_, exec_dying rfl, eq_outage ?_ rfl rfl⟩
    apply Sup.ext <;> first | rfl | (funext n; cases n <;> rfl)
  rcases hexec with ⟨w', hexec, hw'⟩
  exact ⟨w'.live, w'.trace, hw' ▸ hexec⟩

lemma exec_backoffWithJitter (hn : n < 1024) (cfg : SupervisorConfig) (w : World) :
    ∃ delay, Exec (machine .reconciler) (backoffWithJitter n cfg) w (.ok delay) w := by
  unfold backoffWithJitter
  rw [backoffBaseSeconds_ok hn]
  let base : ℚ := min (cfg.backoffInitialSeconds * 2 ^ n) cfg.backoffMaxSeconds
  by_cases hj : cfg.backoffJitterFraction ≤ 0
  · refine ⟨base, .bind (.ret base _) ?_⟩
    rw [if_pos hj]
    exact .ret _ _
  · refine ⟨max (base * (1 + (0 * 2 - 1) * cfg.backoffJitterFraction)) 0, .bind (.ret base _) ?_⟩
    rw [if_neg hj]
    exact .call (0 : ℚ) ⟨le_rfl, one_pos⟩ (.ret _ _)

lemma exec_settleBackoff_outage {now : ℚ} (hb : b.attempt + 1 < 1024) : ∃ t,
    Exec (machine .reconciler) (settleBackoff {} .controlPlane now .notReady)
      (outage b (.child proc 7) live nextProc trace) (.ok false)
      (outage ⟨b.attempt + 1, t⟩ (.child proc 7) live nextProc trace) := by
  obtain ⟨delay, hdelay⟩ := exec_backoffWithJitter hb {} ((machine .reconciler).next
    (outage b (.child proc 7) live nextProc trace)
    (.write (.backoff .controlPlane { b with attempt := b.attempt + 1 })) ())
  refine ⟨now + delay, ?_⟩
  have hworld : (machine .reconciler).next ((machine .reconciler).next
      (outage b (.child proc 7) live nextProc trace)
      (.write (.backoff .controlPlane { b with attempt := b.attempt + 1 })) ())
      (.write (.backoff .controlPlane ⟨b.attempt + 1, now + delay⟩)) () =
      outage ⟨b.attempt + 1, now + delay⟩ (.child proc 7) live nextProc trace := by
    refine eq_outage ?_ rfl rfl
    apply Sup.ext <;> first | rfl | (funext n; cases n <;> rfl)
  rw [← hworld]
  refine .bind (exec_dying rfl) (.bind (exec_dying rfl) ?_)
  exact .bind hdelay (.call () trivial (.ret _ _))

lemma exec_settleBackoff_outage_overflow {now : ℚ} (hb : 1024 ≤ b.attempt + 1) : ∃ w',
    Exec (machine .reconciler) (settleBackoff {} .controlPlane now .notReady)
      (outage b (.child proc 7) live nextProc trace) (.error .overflow) w' := by
  have hraise : ∀ w, Exec (machine .reconciler) (backoffWithJitter (b.attempt + 1 : ℕ) {}) w
      (.error .overflow) w := by
    intro w
    rw [backoffWithJitter_overflow hb]
    exact .raise _ _
  exact ⟨_, .bind (exec_dying rfl) (.bind (exec_dying rfl) (.bindError (hraise _)))⟩

lemma exec_retryChild_outage (hdue : b.nextRetryEpoch ≤ now) :
    ∃ live' trace', ∀ r w', Exec (machine .reconciler)
      (settleBackoff {} .controlPlane now .notReady)
      (outage b (.child nextProc 7) live' (nextProc + 1) trace') r w' →
    Exec (machine .reconciler) (retryChild {} .controlPlane now)
      (outage b (.child proc 7) live nextProc trace) r w' := by
  obtain ⟨live', trace', hstart⟩ := exec_startChild_outage b proc
    ((live.filter fun p => p.handle ≠ .child proc 7).filter fun p => p.handle ≠ .child proc 7)
    nextProc trace
  refine ⟨live', trace', fun r w' hsettle => ?_⟩
  refine .bind (exec_dying rfl) (.bind (exec_dying rfl) ?_)
  -- the child needs a restart, and its backoff has run out
  change Exec _ (if b.nextRetryEpoch ≤ now then _ else _) _ _ _
  rw [if_pos hdue]
  refine .bind (exec_dying rfl) (.bind (exec_dying rfl) ?_)
  exact .bind hstart hsettle

/-- The recovery pass of an outage: postgres is well, the control plane is
retried once. -/
lemma exec_tick_outage (hdue : b.nextRetryEpoch ≤ now) :
    ∃ live' trace',
      (∀ w', Exec (machine .reconciler) (settleBackoff {} .controlPlane now .notReady)
          (outage b (.child nextProc 7) live' (nextProc + 1) trace') (.error .overflow) w' →
        Exec (machine .reconciler) (tick {} now)
          (outage b (.child proc 7) live nextProc trace) (.error .overflow) w') ∧
      ∀ b', Exec (machine .reconciler) (settleBackoff {} .controlPlane now .notReady)
          (outage b (.child nextProc 7) live' (nextProc + 1) trace') (.ok false)
          (outage b' (.child nextProc 7) live' (nextProc + 1) trace') →
        Exec (machine .reconciler) (tick {} now)
          (outage b (.child proc 7) live nextProc trace) (.ok ())
          (outage b' (.child nextProc 7) live' (nextProc + 1) trace') := by
  obtain ⟨live', trace', hretry⟩ := exec_retryChild_outage b proc
    (live.filter fun p => p.handle ≠ .child proc 7) nextProc (.reading .free :: trace) hdue
  have htick : ∀ r w', Exec (machine .reconciler) (recoverDeadChildren {} now)
      (outage b (.child proc 7) live nextProc (.reading .free :: trace)) r w' →
      Exec (machine .reconciler) (tick {} now)
        (outage b (.child proc 7) live nextProc trace) r w' := by
    intro r w' h
    refine .bind (exec_dying rfl) (.bind (exec_dying rfl) ?_)
    refine .bind (exec_dying rfl) (.bind (exec_dying rfl) ?_)
    refine .bind (exec_dying rfl) (.bind (exec_dying rfl) ?_)
    exact h
  have hloop : ∀ r w', Exec (machine .reconciler) (retryChild {} .controlPlane now >>= fun fresh =>
        recoverChildren {} now [] (false || fresh))
        (outage b (.child proc 7) (live.filter fun p => p.handle ≠ .child proc 7) nextProc
          (.reading .free :: trace)) r w' →
      Exec (machine .reconciler) (recoverChildren {} now startupOrder false)
        (outage b (.child proc 7) live nextProc (.reading .free :: trace)) r w' := by
    intro r w' h
    refine .bind (exec_dying rfl) (.bind (exec_dying rfl) ?_)
    refine .bind (exec_dying rfl) (.bind (exec_dying rfl) ?_)
    refine .bind (exec_dying rfl) ?_
    -- postgres is alive and needs no restart; the control plane's death is not new
    exact h
  refine ⟨live', trace', fun w' hsettle => htick _ _ ?_, fun b' hsettle => htick _ _ ?_⟩
  · refine .bind (exec_dying rfl) (.bind (exec_dying rfl) ?_)
    exact .bindError (hloop _ _ (.bindError (hretry _ _ hsettle)))
  · refine .bind (exec_dying rfl) (.bind (exec_dying rfl) ?_)
    refine .bind (hloop _ _ (.bind (hretry _ _ hsettle) (.ret _ _))) ?_
    exact exec_dying rfl

/-- `n` consecutive failures of the control plane. -/
def InOutage (n : ℕ) (w : World) : Prop :=
  ∃ b proc live nextProc trace, w = outage b (.child proc 7) live nextProc trace ∧ b.attempt = n

lemma InOutage.tick (hw : InOutage n w) (hn : n + 1 < 1024) :
    ∃ now w', Exec (machine .reconciler) (tick {} now) w (.ok ()) w' ∧ InOutage (n + 1) w' := by
  rcases hw with ⟨b, proc, live, nextProc, trace, rfl, rfl⟩
  obtain ⟨live', trace', -, hok⟩ :=
    exec_tick_outage b proc live nextProc trace (le_refl b.nextRetryEpoch)
  obtain ⟨t, hsettle⟩ := exec_settleBackoff_outage b nextProc live' (nextProc + 1) trace' hn
  exact ⟨_, _, hok _ hsettle, _, _, _, _, _, rfl, rfl⟩

lemma InOutage.overflow (hw : InOutage n w) (hn : 1024 ≤ n + 1) :
    ∃ now w', Exec (machine .reconciler) (Supervisor.tick {} now) w (.error .overflow) w' := by
  rcases hw with ⟨b, proc, live, nextProc, trace, rfl, rfl⟩
  obtain ⟨live', trace', herr, -⟩ :=
    exec_tick_outage b proc live nextProc trace (le_refl b.nextRetryEpoch)
  obtain ⟨w', hsettle⟩ :=
    exec_settleBackoff_outage_overflow b nextProc live' (nextProc + 1) trace' hn
  exact ⟨_, _, herr _ hsettle⟩

lemma inOutage_start : ∃ w, ServiceRun {} w ∧ InOutage 0 w := by
  have hexec : ∃ w', Exec (machine .reconciler) (start {}) World.fresh (.ok ()) w' ∧
        w' = outage {} (.child 1 7) w'.live 2 w'.trace := by
    refine ⟨_, exec_dying rfl, eq_outage ?_ rfl rfl⟩
    apply Sup.ext <;> first | rfl | (funext n; cases n <;> rfl)
  rcases hexec with ⟨w', hexec, hw'⟩
  exact ⟨w', .start hexec, _, _, _, _, _, hw', rfl⟩

lemma inOutage_reachable (hn : n < 1024) : ∃ w, ServiceRun {} w ∧ InOutage n w := by
  induction n with
  | zero => exact inOutage_start
  | succ n ih =>
    rcases ih (Nat.lt_of_succ_lt hn) with ⟨w, hrun, hw⟩
    rcases hw.tick hn with ⟨now, w', htick, hw'⟩
    exact ⟨w', .tick hrun htick, hw'⟩

/-- The 1024th failure in a row raises out of the tick. -/
theorem overflow_leaves_tick : ∃ w now w', ServiceRun {} w ∧
    (w.sup.backoff .controlPlane).attempt = 1023 ∧
    Exec (machine .reconciler) (tick {} now) w (.error .overflow) w' := by
  rcases inOutage_reachable (show 1023 < 1024 by decide) with ⟨w, hrun, hw⟩
  rcases hw.overflow (by decide) with ⟨now, w', htick⟩
  rcases hw with ⟨b, proc, live, nextProc, trace, rfl, hb⟩
  exact ⟨_, now, w', hrun, hb, htick⟩

end CivicCast.Supervisor
