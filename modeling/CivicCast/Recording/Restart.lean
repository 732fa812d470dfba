import CivicCast.Recording.Service

/-! # Recordings across restarts

The states of the jobs are in the database, the captures in the process. A crash ends every
capture; the restart fails the active jobs whose window is over, and leaves alone those
whose window is still open, so that a job which was being recorded inside its window is
shown as recording with no capture until its window is over.

`recording_is_captured` is over every history of calls, crashes at any point of a call,
restarts and changes of schedules: a job that is shown as recording has a capture, or was
left alone by the last restart and no tick has yet found its window over.

What the calls owe the captures is `Careful`: a capture is only taken or dropped for a job
that is not shown as recording, and a job is only written as recording when its capture was
started.
-/

namespace CivicCast.Recording

open Lib Lib.Prog Option

/-! ## Shown and captured -/

/-- The job is shown as recording. -/
def Shown (jobs : Jobs) (k : JobId) : Prop := ∃ row, jobs.get k = some row ∧ row.state = .recording

/-- What is shown as recording is captured, or left over. -/
def Covered (left : JobId → Prop) (w : World) : Prop :=
  ∀ k, Shown w.jobs k → w.active k = some true ∨ left k

def Careful (w : World) : Op → Prop
  | .takeCapture k => ¬ Shown w.jobs k
  | .stopArming k => ¬ Shown w.jobs k
  | .startCapture k => ¬ Shown w.jobs k
  | .setJobState k .recording _ => w.active k = some true
  | .createJob job => job.state = .scheduled
  | _ => True

section Step

variable {c : Station} {w : World} {o : Op} {reply : Except Failure o.Res} {k : JobId}

lemma not_shown_of_get {jobs : Jobs} {row : RecordingJob} (hget : jobs.get k = some row)
    (hstate : row.state ≠ .recording) : ¬ Shown jobs k := by
  rintro ⟨row', hget', hstate'⟩
  rw [hget] at hget'
  cases hget'
  exact hstate hstate'

lemma shown_of_next (hcreate : ∀ job, o = .createJob job → job.state = .scheduled)
    (hshown : Shown (w.next c o reply).jobs k) :
    Shown w.jobs k ∨ ∃ u, o = .setJobState k .recording u := by
  obtain ⟨row', hget, hstate⟩ := hshown
  rcases World.row_cases hget with ⟨row, hold, -, horigin⟩ | ⟨-, hnew⟩
  · rcases horigin with hsame | ⟨u, ho, -⟩ | ⟨row₀, -, harming⟩
    · exact .inl ⟨row, hold, hsame.symm.trans hstate⟩
    · exact .inr ⟨u, hstate ▸ ho⟩
    · rw [hstate] at harming
      cases harming
  · have hscheduled : row'.state = .scheduled := by
      rcases hnew with hcreated | hscheduled
      · exact hcreate row' hcreated
      · exact hscheduled
    rw [hstate] at hscheduled
    cases hscheduled

/-- Captures are dropped by careful calls for jobs that are not shown as recording. -/
lemma active_next (hcareful : Careful w o) (hshown : Shown w.jobs k)
    (hactive : w.active k = some true) : (w.next c o reply).active k = some true := by
  rcases World.active_cases c w o reply k with hsame | rfl | rfl | rfl | ⟨rfl, hnone⟩
  · exact hsame.trans hactive
  · exact absurd hshown hcareful
  · exact absurd hshown hcareful
  · exact absurd hshown hcareful
  · rw [hactive] at hnone
    cases hnone

lemma Covered.next {left : JobId → Prop} (h : Covered left w) (hcareful : Careful w o) :
    Covered left (w.next c o reply) := by
  intro k hshown
  have hcreate : ∀ job, o = .createJob job → job.state = .scheduled := by
    rintro job rfl
    exact hcareful
  rcases shown_of_next hcreate hshown with hshown | ⟨u, rfl⟩
  · rcases h k hshown with hactive | hleft
    · exact .inl (active_next hcareful hshown hactive)
    · exact .inr hleft
  · -- the write that shows it as recording, after the start of its capture
    have hactive : w.active k = some true := hcareful
    left
    show (w.wrote (w.jobs.setJobState k .recording u)).active k = some true
    cases w.jobs.setJobState k .recording u <;> exact hactive

end Step

/-! ## Careful programs -/

section Programs

variable {c : Station} {α : Type} {w : World} {k : JobId} {state : JobState} {u : Jobs.Update}
  {phase : Phase}

/-- The machine on which careless calls are not allowed. -/
abbrev World.guarded (c : Station) : Machine recordingIface World := (World.machine c).guard Careful

/-- All calls are careful, from any world on. -/
abbrev AllCareful (c : Station) (p : RecordingM α) : Prop := p.Safe (World.guarded c)

lemma allCareful_ask (o : Op) (ho : ∀ w, Careful w o) : AllCareful c (ask o) := by
  intro w
  refine ⟨⟨trivial, ho w⟩, ?_⟩
  rintro (failure | a) _
  · trivial
  · trivial

lemma allCareful_setJobState (hstate : state ≠ .recording) :
    AllCareful c (ask (.setJobState k state u)) := by
  refine allCareful_ask _ fun w => ?_
  cases state <;> trivial

/-- The failures that the third loop of a tick counts. -/
def Counted : Failure → Prop
  | .pipelineFailure _ => True
  | _ => False

lemma wp_requireJob_get :
    (requireJob k).wp (World.guarded c)
      (fun r w' => w' = w ∧ (∀ job, r = .ok job → w.jobs.get k = some job) ∧
        ∀ e, r = .error e → ¬ Counted e) w := by
  refine ⟨⟨trivial, trivial⟩, ?_⟩
  rintro (failure | _ | job) hreply
  · exact hreply.elim
  · refine ⟨rfl, fun _ h => (nomatch h), ?_⟩
    intro e he
    cases he
    exact id
  · refine ⟨rfl, ?_, fun _ h => (nomatch h)⟩
    intro job' hjob'
    cases hjob'
    exact hreply.symm

lemma wp_setJobState (hstate : state ≠ .recording) :
    (ask (.setJobState k state u)).wp (World.guarded c)
      (fun r w' => (∀ row, r = .ok row → ¬ Shown w'.jobs k) ∧
        ∀ e, r = .error e → ¬ Counted e) w := by
  refine ⟨⟨trivial, ?_⟩, ?_⟩
  · cases state <;> trivial
  · rintro (failure | row) hreply
    · refine ⟨fun _ h => (nomatch h), ?_⟩
      intro e he
      cases he
      obtain ⟨error, -, rfl⟩ := hreply
      exact id
    · refine ⟨?_, fun _ h => (nomatch h)⟩
      intro row' _
      obtain ⟨jobs, hset, -⟩ := hreply
      obtain ⟨row₀, hget, -, -⟩ := Jobs.setJobState_ok hset
      have hnext : (w.wrote (w.jobs.setJobState k state u)).jobs.get k =
          some (u.apply state row₀) := by
        rw [hset]
        exact (Jobs.get_setJobState hget hset).1
      exact not_shown_of_get hnext hstate

lemma allCareful_requireJob : AllCareful c (requireJob k) :=
  fun _ => wp_mono (fun _ _ _ => trivial) wp_requireJob_get

lemma allCareful_writeFailure : AllCareful c (writeFailure k phase) :=
  (allCareful_ask .clock fun _ => trivial).bind fun _ =>
    (allCareful_setJobState (by decide)).bind fun _ => safe_pure

lemma allCareful_failJob : AllCareful c (failJob k phase) :=
  allCareful_writeFailure.bind fun _ => safe_raise

lemma allCareful_complete {result : CaptureResult} {assetId : String} :
    AllCareful c (complete k result assetId) :=
  (allCareful_ask .clock fun _ => trivial).bind fun _ => allCareful_setJobState (by decide)

lemma wp_deliver_careful (hk : ¬ Shown w.jobs k) :
    (deliver k).wp (World.guarded c) (fun _ _ => True) w := by
  have hrest : ∀ endedAt : Option ℤ, AllCareful c (do
      let bytes ← ask (.mergeCapture k)
      return ⟨bytes, endedAt⟩ : RecordingM CaptureResult) := fun _ =>
    (allCareful_ask (.mergeCapture k) fun _ => trivial).bind fun _ => safe_pure
  have htake : (ask (.takeCapture k)).wp (World.guarded c) (fun _ _ => True) w := by
    refine ⟨⟨trivial, hk⟩, ?_⟩
    rintro (failure | endedAt) _
    · trivial
    · trivial
  have hstop : (stopCapture k).wp (World.guarded c) (fun _ _ => True) w :=
    wp_seq htake (fun endedAt w' _ => hrest endedAt w') fun _ _ _ => trivial
  refine wp_seq hstop (fun result w' _ => ?_) fun _ _ _ => trivial
  exact ((allCareful_ask (.finalizeToAsset k) fun _ => trivial).bind fun _ => safe_pure) w'

lemma allCareful_armJob : AllCareful c (armJob k) := by
  refine allCareful_requireJob.bind fun job => .ite safe_raise ?_
  have hguard : AllCareful c (transitionToArming k) :=
    (allCareful_ask (.probeArming k) fun _ => trivial).bind fun row =>
      allCareful_ask (.commitArming row) fun _ => trivial
  refine hguard.attempt.bind ?_
  rintro (failure | _)
  · have hskip : AllCareful c (skipOverlapping k job) :=
      (allCareful_ask (.findOverlapping job) fun _ => trivial).bind fun _ =>
        (allCareful_ask .clock fun _ => trivial).bind fun _ => allCareful_setJobState (by decide)
    cases failure with
    | store error =>
      cases error with
      | jobOverlap => exact hskip
      | _ => exact safe_raise
    | _ => exact safe_raise
  · refine (allCareful_ask (.armCapture k) fun _ => trivial).attempt.bind ?_
    rintro (failure | _)
    · exact allCareful_failJob
    · exact allCareful_requireJob

lemma allCareful_startJob : AllCareful c (startJob k) := by
  intro w
  refine wp_seq wp_requireJob_get ?_ fun _ _ _ => trivial
  rintro job w₁ ⟨rfl, hjob, -⟩
  refine wp_ite (fun _ => trivial) fun hstate => ?_
  have harming : job.state = .arming := not_not.mp hstate
  refine ⟨⟨trivial, trivial⟩, ?_⟩
  rintro (failure | (now : ℤ)) _
  · trivial
  · refine wp_ite (fun _ => allCareful_failJob _) fun _ => ?_
    -- the job is arming, and is written as recording after its capture was started
    refine ⟨⟨trivial, not_shown_of_get (hjob job rfl) (by simp [harming])⟩, ?_⟩
    rintro (failure | _) _
    · exact allCareful_failJob _
    · refine ⟨⟨trivial, if_pos rfl⟩, ?_⟩
      rintro (failure | row) _
      · trivial
      · trivial

lemma allCareful_finalizeJob : AllCareful c (finalizeJob k) := by
  refine allCareful_requireJob.bind fun job => .ite safe_raise ?_
  intro w
  refine wp_seq (wp_setJobState (by decide)) ?_ fun _ _ _ => trivial
  rintro row w₁ ⟨hnot, -⟩
  refine wp_attempt_seq ?_
  refine wp_mono ?_ (wp_deliver_careful (hnot row rfl))
  rintro (failure | ⟨result, assetId⟩) w₂ _
  · exact allCareful_failJob w₂
  · exact allCareful_complete w₂

lemma allCareful_stopFailed {bytes : Option ℕ} {reason : Option FailureReason} :
    AllCareful c (do
      let now : ℤ ← ask .clock
      ask (.setJobState k .failed
        { endedAt := some now, bytesWritten := bytes, failureReason := reason })) :=
  (allCareful_ask .clock fun _ => trivial).bind fun _ => allCareful_setJobState (by decide)

lemma wp_stopFinalizing_careful (hk : ¬ Shown w.jobs k) :
    (stopFinalizing k).wp (World.guarded c) (fun _ _ => True) w := by
  refine wp_attempt_seq ?_
  refine wp_mono ?_ (wp_deliver_careful hk)
  rintro (failure | ⟨result, assetId⟩) w₁ _
  · exact (allCareful_writeFailure.bind fun _ => allCareful_requireJob) w₁
  · exact wp_ite (fun _ => allCareful_stopFailed w₁) fun _ => allCareful_complete w₁

lemma allCareful_stopJob : AllCareful c (stopJob k) := by
  intro w
  refine wp_seq wp_requireJob_get ?_ fun _ _ _ => trivial
  rintro job w₁ ⟨rfl, hjob, -⟩
  have hget := hjob job rfl
  refine wp_ite (fun hactive => ?_) fun _ => trivial
  refine wp_ite (fun harming => ?_) fun _ => ?_
  · -- only the capture of a job that arms is stopped this way
    refine wp_attempt_seq ?_
    refine ⟨⟨trivial, not_shown_of_get hget (by simp [harming])⟩, ?_⟩
    rintro (failure | _) _
    · exact allCareful_failJob _
    · exact allCareful_stopFailed _
  · refine wp_ite (fun _ => ?_) fun hrecording => ?_
    · refine wp_seq (wp_setJobState (by decide)) ?_ fun _ _ _ => trivial
      rintro row w₂ ⟨hnot, -⟩
      exact wp_stopFinalizing_careful (hnot row rfl)
    · exact wp_stopFinalizing_careful (not_shown_of_get hget hrecording)

lemma allCareful_cancelJobs (prearmed : Bool) (list : List RecordingJob) :
    ∀ n, AllCareful c (cancelJobs prearmed list n) := by
  induction list with
  | nil => exact fun _ => safe_pure
  | cons job rest ih =>
    intro n
    refine (allCareful_ask .clock fun _ => trivial).bind fun now => ?_
    intro w
    refine wp_attempt_seq ?_
    refine wp_mono ?_ (wp_setJobState (by decide))
    rintro (failure | row) w₁ ⟨hnot, -⟩
    · cases failure with
      | store error =>
        cases error with
        | jobState => exact ih n w₁
        | _ => trivial
      | _ => trivial
    · refine wp_ite (fun _ => ?_) fun _ => ih _ w₁
      refine wp_attempt_seq ?_
      refine ⟨⟨trivial, hnot row rfl⟩, ?_⟩
      rintro (failure | _) _
      · exact ih _ _
      · exact ih _ _

lemma compositional_allCareful (c : Station) : Compositional fun p => AllCareful c p where
  pure := fun _ => safe_pure
  raise := fun _ => safe_raise
  bind := .bind
  attempt := .attempt
  plain o ho := by
    refine allCareful_ask o fun w => ?_
    cases o <;> trivial
  create job hjob := allCareful_ask (.createJob job) fun _ => hjob
  arm _ := allCareful_armJob
  start _ := allCareful_startJob
  finalize _ := allCareful_finalizeJob
  stop _ := allCareful_stopJob
  cancel := allCareful_cancelJobs

lemma Covered.visits {left : JobId → Prop} {w' : World} {p : RecordingM α} (h : Covered left w)
    (hp : AllCareful c p) (hv : Visits (World.machine c) p w w') : Covered left w' :=
  hv.invariant (hp w) (fun _ _ _ h hcareful _ => h.next hcareful) h

end Programs

/-! ## The end of a tick

The third loop of a tick goes through the jobs that are shown as recording. Those whose
window is over are no longer shown as recording when the tick is. -/

/-- `tick` up to the third loop, with the time that the loops go by. -/
def tickStart (armLead : ℤ) : RecordingM (ℤ × TickCounters) := do
  let passed : ℤ ← ask .clock
  let expanded : ℕ ← ask (.expand passed)
  let now : ℤ ← ask .clock
  let pending : List RecordingJob ← ask (.listJobs .scheduled)
  let n ← armDue (now + armLead) pending { expanded := expanded }
  let ready : List RecordingJob ← ask (.listJobs .arming)
  let n ← startDue now ready n
  return (now, n)

/-- `tick` from the third loop on. -/
def tickEnd (now : ℤ) (n : TickCounters) : RecordingM TickCounters := do
  let due : List RecordingJob ← ask (.listJobs .recording)
  let n ← finalizeDue now due n
  let recording : List RecordingJob ← ask (.listJobs .recording)
  let dropouts ← pollActiveRecordings recording 0
  return { n with dropoutsDetected := dropouts }

section TickEnd

variable {c : Station} {w : World} {k : JobId}

/-- The calls that show no job as recording. -/
def Quiet : Op → Prop
  | .setJobState _ .recording _ => False
  | .createJob _ => False
  | _ => True

lemma uses_quiet {o : Op} (ho : Quiet o) : (ask o).Uses Quiet fun _ => True := by
  refine ⟨ho, ?_⟩
  rintro (failure | a)
  · exact uses_raise trivial
  · exact uses_pure

lemma keeps_not_shown {α : Type} (S : JobId → Prop) {p : RecordingM α}
    (hp : p.Uses Quiet fun _ => True) :
    p.Keeps (World.machine c) (fun w => ∀ k, S k → ¬ Shown w.jobs k) fun _ => True := by
  refine hp.keeps (fun _ _ _ _ => trivial) ?_
  intro w o reply hquiet hnot _ k hk hshown
  have hcreate : ∀ job, o = .createJob job → job.state = .scheduled := by
    rintro job rfl
    exact hquiet.elim
  rcases shown_of_next hcreate hshown with hold | ⟨u, rfl⟩
  · exact hnot k hk hold
  · exact hquiet

lemma wp_not_shown {α : Type} {p : RecordingM α} (hp : p.Uses Quiet fun _ => True)
    (hk : ¬ Shown w.jobs k) : p.wp (World.machine c) (fun _ w' => ¬ Shown w'.jobs k) w := by
  have hkeeps := keeps_not_shown (c := c) (fun k' => k' = k) hp w (by rintro _ rfl; exact hk)
  exact wp_mono (fun _ _ h => h.1 k rfl) hkeeps

lemma uses_quiet_deliver : (deliver k).Uses Quiet fun _ => True := by
  have hstop : (stopCapture k).Uses Quiet fun _ => True :=
    uses_bind (uses_quiet trivial) fun _ =>
      uses_bind (uses_quiet trivial) fun _ => uses_pure
  exact uses_bind hstop fun _ =>
    uses_bind (uses_quiet trivial) fun _ => uses_pure

lemma uses_quiet_finalizing : (do
    match ← (deliver k).attempt with
    | .error _ => failJob k .finalize
    | .ok (result, assetId) => complete k result assetId : RecordingM RecordingJob).Uses Quiet
      fun _ => True := by
  have hclock : (ask .clock).Uses Quiet fun _ => True := uses_quiet trivial
  refine uses_bind (uses_attempt uses_quiet_deliver) ?_
  rintro (failure | ⟨result, assetId⟩)
  · have hwrite : (writeFailure k .finalize).Uses Quiet fun _ => True := by
      refine uses_bind hclock fun now => uses_bind (uses_quiet ?_) fun _ => uses_pure
      trivial
    exact uses_bind hwrite fun _ => uses_raise trivial
  · refine uses_bind hclock fun now => uses_quiet ?_
    trivial

lemma uses_quiet_finalizeJob : (finalizeJob k).Uses Quiet fun _ => True := by
  have hrequire : (requireJob k).Uses Quiet fun _ => True := by
    refine uses_bind (uses_quiet trivial) ?_
    rintro (_ | job)
    · exact uses_raise trivial
    · exact uses_pure
  refine uses_bind hrequire fun job => uses_ite (uses_raise trivial) ?_
  exact uses_bind (uses_quiet trivial) fun _ =>
    uses_quiet_finalizing

/-- A finalization that returns or is counted leaves its job in another state. -/
lemma wp_finalizeJob_counted :
    (finalizeJob k).wp (World.machine c)
      (fun r w' => (∀ e, r = .error e → Counted e) → ¬ Shown w'.jobs k) w := by
  refine wp_seq (wp_of_guard wp_requireJob_get) ?_ ?_
  · rintro job w₁ -
    refine wp_ite (fun _ hcounted => (hcounted _ rfl).elim) fun _ => ?_
    refine wp_seq (wp_of_guard (wp_setJobState (by decide))) ?_ ?_
    · rintro row w₂ ⟨hnot, -⟩
      have hrest := wp_not_shown (c := c) (uses_quiet_finalizing (k := k)) (hnot row rfl)
      refine wp_mono ?_ hrest
      intro r w' h _
      exact h
    · rintro e w₂ ⟨-, herror⟩ hcounted
      exact (herror e rfl (hcounted e rfl)).elim
  · rintro e w₁ ⟨-, -, herror⟩ hcounted
    exact (herror e rfl (hcounted e rfl)).elim

lemma uses_quiet_finalizeDue (now : ℤ) (list : List RecordingJob) :
    ∀ n, (finalizeDue now list n).Uses Quiet fun _ => True := by
  induction list with
  | nil => exact fun _ => uses_pure
  | cons job rest ih =>
    intro n
    refine uses_ite (ih n) (uses_bind (uses_attempt uses_quiet_finalizeJob) ?_)
    rintro (failure | finalized)
    · cases failure with
      | pipelineFailure phase => exact ih _
      | _ => exact uses_raise trivial
    · exact uses_ite (ih _) (uses_ite (ih _) (ih _))

lemma uses_quiet_poll (list : List RecordingJob) :
    ∀ n, (pollActiveRecordings list n).Uses Quiet fun _ => True := by
  induction list with
  | nil => exact fun _ => uses_pure
  | cons job rest ih =>
    intro n
    have hcheck : (ask (.checkDropout job.jobId)).Uses Quiet fun _ => True := uses_quiet trivial
    have hrecord : (ask (.recordDropout job.jobId)).Uses Quiet fun _ => True := uses_quiet trivial
    refine uses_bind (uses_attempt hcheck) ?_
    rintro (failure | result)
    · exact ih n
    · exact uses_ite (uses_bind hrecord fun _ => ih _) (ih n)

/-- The third loop, when it gets through. -/
lemma wp_finalizeDue_over (now : ℤ) (list : List RecordingJob) :
    ∀ n w, (finalizeDue now list n).wp (World.machine c)
      (fun r w' => ∀ m, r = .ok m →
        ∀ j ∈ list, j.plannedEnd ≤ now → ¬ Shown w'.jobs j.jobId) w := by
  induction list with
  | nil => exact fun n w m _ j hj => absurd hj (List.not_mem_nil)
  | cons job rest ih =>
    intro n w
    refine wp_ite (fun hlater => ?_) fun _ => ?_
    · refine wp_mono ?_ (ih n w)
      intro r w' h m hm j hj hover
      rcases List.mem_cons.mp hj with rfl | hj
      · omega
      · exact h m hm j hj hover
    · -- what this turn reached is kept by the turns of the other jobs
      have hrest : ∀ n w₁, ¬ Shown w₁.jobs job.jobId →
          (finalizeDue now rest n).wp (World.machine c) (fun r w' => ∀ m, r = .ok m →
            ∀ j ∈ job :: rest, j.plannedEnd ≤ now → ¬ Shown w'.jobs j.jobId) w₁ := by
        intro n w₁ hnot
        have hkept := wp_not_shown (c := c) (uses_quiet_finalizeDue now rest n) hnot
        refine wp_mono ?_ (wp_and hkept (ih n w₁))
        rintro r w' ⟨hnot', h⟩ m hm j hj hover
        rcases List.mem_cons.mp hj with rfl | hj
        · exact hnot'
        · exact h m hm j hj hover
      refine wp_attempt_seq ?_
      refine wp_mono ?_ wp_finalizeJob_counted
      rintro (failure | finalized) w₁ hcounted
      · cases failure with
        | pipelineFailure phase =>
          refine hrest _ w₁ (hcounted fun e he => ?_)
          cases he
          trivial
        | _ => exact nofun
      · have hnot := hcounted nofun
        exact wp_ite (fun _ => hrest _ w₁ hnot) fun _ =>
          wp_ite (fun _ => hrest _ w₁ hnot) fun _ => hrest _ w₁ hnot

lemma wp_listJobs (state : JobState) :
    (ask (.listJobs state)).wp (World.machine c)
      (fun r w' => w' = w ∧ ∀ list : List RecordingJob, r = .ok list →
        list = w.jobs.listJobs c.stationId (some state) c.limit) w := by
  refine ⟨trivial, ?_⟩
  rintro (failure | list) hreply
  · exact ⟨rfl, nofun⟩
  · refine ⟨rfl, ?_⟩
    intro list' hlist'
    cases hlist'
    exact hreply

lemma wp_tickEnd {now : ℤ} {n : TickCounters} :
    (tickEnd now n).wp (World.machine c)
      (fun r w' => ∀ m, r = .ok m → ∀ j ∈ w.jobs.listJobs c.stationId (some .recording) c.limit,
        j.plannedEnd ≤ now → ¬ Shown w'.jobs j.jobId) w := by
  refine wp_seq (wp_listJobs .recording) ?_ nofun
  rintro due w₁ ⟨rfl, hdue⟩
  rw [← hdue due rfl]
  refine wp_seq (wp_finalizeDue_over now due n w₁) ?_ nofun
  intro n' w₂ hover
  refine wp_seq (wp_listJobs .recording) ?_ nofun
  rintro recording w₃ ⟨rfl, -⟩
  -- the poll of the captures shows no job as recording
  have hpoll := keeps_not_shown (c := c)
    (fun k => ∃ j ∈ due, j.plannedEnd ≤ now ∧ j.jobId = k) (uses_quiet_poll recording 0) w₃ (by
      rintro _ ⟨j, hj, hend, rfl⟩
      exact hover n' rfl j hj hend)
  refine wp_seq hpoll ?_ nofun
  rintro dropouts w₄ ⟨hnot, -⟩ m hm j hj hend
  exact hnot j.jobId ⟨j, hj, hend, rfl⟩

end TickEnd

/-! ## Histories -/

/-- A process, with the jobs that its start left alone while no tick has found their window
over. -/
structure Running where
  world : World
  left : JobId → Prop
  /-- A tick was completed since the start. -/
  ticked : Bool

/-- A start on the tables of `w`: no capture, and the reconciliation. -/
def Running.started (w : World) (now : ℤ) : Running where
  world := { w with jobs := w.jobs.reconcile now, active := fun _ => none, now := now }
  left := fun k => ∃ row, w.jobs.get k = some row ∧ row.state = .recording ∧ now < row.plannedEnd
  ticked := false

/-- A tick at `now` that lists the jobs in `w` finds the window of the job over. -/
def FoundOver (c : Station) (now : ℤ) (w : World) (k : JobId) : Prop :=
  ∃ j ∈ w.jobs.listJobs c.stationId (some .recording) c.limit, j.jobId = k ∧ j.plannedEnd ≤ now

inductive Step (c : Station) : Running → Running → Prop where
  /-- A request that ends, in whatever way. -/
  | call (request : ServiceCall) {r : Running} {outcome : Except Failure Unit} {w : World}
      (h : Exec (World.machine c) request.code r.world outcome w) : Step c r { r with world := w }
  /-- A tick that completes. -/
  | tick {armLead now : ℤ} {n m : TickCounters} {r : Running} {w₁ w₂ : World}
      (hstart : Exec (World.machine c) (tickStart armLead) r.world (.ok (now, n)) w₁)
      (hend : Exec (World.machine c) (tickEnd now n) w₁ (.ok m) w₂) :
      Step c r ⟨w₂, fun k => r.left k ∧ ¬ FoundOver c now w₁ k, true⟩
  /-- A crash at any point of a request, and the start after it. -/
  | crash (request : ServiceCall) {r : Running} {w : World} {now : ℤ}
      (h : Visits (World.machine c) request.code r.world w) (hnow : w.now ≤ now) :
      Step c r (.started w now)
  | changeSchedules (schedules : List RecordingSchedule) (r : Running) :
      Step c r { r with world := { r.world with schedules := schedules } }

/-- The process comes to `r`, from a start on any tables. -/
def Running.Reached (c : Station) (r : Running) : Prop :=
  ∃ w now, Relation.ReflTransGen (Step c) (.started w now) r

section Histories

variable {c : Station} {w : World} {r r' : Running} {now armLead : ℤ}

lemma tick_eq : tick armLead = tickStart armLead >>= fun x => tickEnd x.1 x.2 := by
  symm
  refine (Prog.bind_assoc).trans (congrArg (ask .clock >>= ·) (funext fun passed => ?_))
  refine (Prog.bind_assoc).trans (congrArg (ask (.expand passed) >>= ·) (funext fun _ => ?_))
  refine (Prog.bind_assoc).trans (congrArg (ask .clock >>= ·) (funext fun now => ?_))
  refine (Prog.bind_assoc).trans
    (congrArg (ask (.listJobs .scheduled) >>= ·) (funext fun pending => ?_))
  refine (Prog.bind_assoc).trans (congrArg (armDue _ pending _ >>= ·) (funext fun n => ?_))
  refine (Prog.bind_assoc).trans (congrArg (ask (.listJobs .arming) >>= ·) (funext fun ready => ?_))
  exact Prog.bind_assoc

lemma step_of_tick {m : TickCounters}
    (h : Exec (World.machine c) (tick armLead) r.world (.ok m) w) :
    ∃ left, Step c r ⟨w, left, true⟩ := by
  rw [tick_eq] at h
  obtain ⟨⟨now, n⟩, w₁, hstart, hend⟩ := Exec.of_bind h
  exact ⟨_, .tick hstart hend⟩

lemma covered_started (w : World) (now : ℤ) :
    Covered (Running.started w now).left (Running.started w now).world := by
  rintro k ⟨row', hget', hstate'⟩
  right
  have hget' : (w.jobs.reconcile now).get k = some row' := hget'
  unfold Jobs.reconcile at hget'
  rw [Table.get_map, map_eq_some_iff] at hget'
  obtain ⟨row, hget, hrow'⟩ := hget'
  split at hrow'
  · rw [← hrow'] at hstate'
    cases hstate'
  · rename_i hleft
    subst hrow'
    refine ⟨row, hget, hstate', ?_⟩
    have hactive : row.state.isActive = true := by rw [hstate']; rfl
    simpa [hactive] using hleft

lemma Step.covered (h : Step c r r') (hr : Covered r.left r.world) : Covered r'.left r'.world := by
  cases h with
  | call request hrun => exact hr.visits ((compositional_allCareful c).code request) hrun.visits
  | crash request _ _ => exact covered_started _ _
  | changeSchedules schedules => exact hr
  | tick hstart hend =>
    have hvisits := tick_eq ▸ Visits.bind hstart hend.visits
    have hcovered := hr.visits ((compositional_allCareful c).tick _) hvisits
    have hover := hend.post wp_tickEnd _ rfl
    intro k hshown
    rcases hcovered k hshown with hactive | hleft
    · exact .inl hactive
    · refine .inr ⟨hleft, ?_⟩
      rintro ⟨j, hj, rfl, hend⟩
      exact hover j hj hend hshown

/-- After every history, a job that is shown as recording has a started capture, or was left
alone by the last start inside its window, and no tick has found its window over since. -/
theorem recording_is_captured (h : r.Reached c) : Covered r.left r.world := by
  obtain ⟨w, now, hrun⟩ := h
  induction hrun with
  | refl => exact covered_started w now
  | tail _ hstep ih => exact hstep.covered ih

end Histories

/-! ## A power cut -/

namespace PowerCut

def station : Station := ⟨"main", 0, .utc, 500, true⟩

def council : JobId := .adhoc "council"

/-- The council is planned for the next hour. -/
def world : World where
  schedules := []
  jobs := ⟨[.planned council "main" none 0 3600000000 ⟨.sdi, "sdi-1", ""⟩], by decide⟩
  active := fun _ => none
  assets := []
  now := 0

def booted : Running := .started world 0

def afterTick (w : World) : World := (tick 0).finish (World.machine station) (World.reply station) w

/-- The power is back after half an hour. -/
def restored : Running := .started (afterTick booted.world) 1800000000

lemma step_tick {r : Running}
    (h : (tick 0).returns (World.machine station) (World.reply station) r.world = true) :
    ∃ left, Step station r ⟨afterTick r.world, left, true⟩ := by
  obtain ⟨m, hrun⟩ := exec_of_returns h
  exact step_of_tick hrun

/-- The first tick records the council, then the power is cut. -/
lemma reached_restored : restored.Reached station := by
  obtain ⟨left, htick⟩ := step_tick (r := booted) (by decide +kernel)
  have hcut : Step station ⟨afterTick booted.world, left, true⟩ restored :=
    .crash (.tick 0) (.here _ _) (by decide +kernel)
  exact ⟨world, 0, (Relation.ReflTransGen.single htick).tail hcut⟩

lemma shown_council : Shown (afterTick restored.world).jobs council := by
  have hstate : ((afterTick restored.world).jobs.get council).map (·.state) = some .recording := by
    decide +kernel
  obtain ⟨row, hget, hrow⟩ := map_eq_some_iff.mp hstate
  exact ⟨row, hget, hrow⟩

end PowerCut

open PowerCut in
/-- The council was being recorded; after the tick that follows the restart it is still shown
as recording, and nothing records it. -/
theorem interrupted_council_shown :
    (afterTick booted.world).active council = some true ∧
      ∃ r : Running, r.Reached station ∧ r.ticked = true ∧ Shown r.world.jobs council ∧
        r.world.active council = none := by
  constructor
  · decide +kernel
  · obtain ⟨left, htick⟩ := step_tick (r := restored) (by decide +kernel)
    obtain ⟨w, now, hrun⟩ := reached_restored
    have hnone : (afterTick restored.world).active council = none := by decide +kernel
    exact ⟨_, ⟨w, now, hrun.tail htick⟩, rfl, shown_council, hnone⟩

open PowerCut in
/-- The restart has left the council alone. -/
theorem interrupted_council_left :
    ∃ left, Step station restored ⟨afterTick restored.world, left, true⟩ ∧ left council := by
  obtain ⟨left, htick⟩ := step_tick (r := restored) (by decide +kernel)
  obtain ⟨w, now, hrun⟩ := reached_restored
  refine ⟨left, htick, ?_⟩
  rcases recording_is_captured ⟨w, now, hrun.tail htick⟩ council shown_council with hactive | hleft
  · have hnone : (afterTick restored.world).active council = none := by decide +kernel
    rw [hnone] at hactive
    cases hactive
  · exact hleft

end CivicCast.Recording
