import CivicCast.Lib.Sweep
import CivicCast.Recording.Service

/-! # What one tick handles

A tick arms what is due within the lead, starts what is armed and due, and finalizes what is
over. Its third loop counts a pipeline failure and goes on; the first two leave the tick
with it. `handled_iff` says for which tables and which failures no due job is left: a job
that cannot be armed, or cannot be started, must be the only one due when its turn comes,
and no listing may be cut off before a due job.

A `Course` is what decides apart from the tables: which captures cannot be armed, which
cannot be started, and what the clock reads when the loops begin and at the turn of each
job. What finalizing and polling run into is left open. On a given course the first two
loops are functions of the table (`armStep`, `startStep`), each swept over the jobs due.
-/

namespace CivicCast.Recording

open Lib Lib.Prog List Table Jobs Option

/-! ## Due jobs -/

/-- What decides the course of a tick. -/
structure Course where
  armFails : JobId → Bool
  startFails : JobId → Bool
  /-- The clock when the loops begin. -/
  loops : ℤ
  /-- The clock at the turn of a job. -/
  turn : JobId → ℤ

section Due

variable (c : Station) (armLead now : ℤ)

structure DueToArm (j : RecordingJob) : Prop where
  station : j.stationId = c.stationId
  state : j.state = .scheduled
  start : j.plannedStart ≤ now + armLead

structure DueToStart (j : RecordingJob) : Prop where
  station : j.stationId = c.stationId
  state : j.state = .arming
  start : j.plannedStart ≤ now

structure DueToEnd (j : RecordingJob) : Prop where
  station : j.stationId = c.stationId
  state : j.state = .recording
  ended : j.plannedEnd ≤ now

def Due (j : RecordingJob) : Prop :=
  DueToArm c armLead now j ∨ DueToStart c now j ∨ DueToEnd c now j

def Handled (jobs : Jobs) : Prop := ∀ j ∈ jobs.rows, ¬ Due c armLead now j

/-- Nothing is due but this job. -/
def Alone (jobs : Jobs) (j : RecordingJob) : Prop :=
  ∀ k ∈ jobs.rows, k.jobId ≠ j.jobId → ¬ Due c armLead now k

/-- The table as the loops of a tick find it. -/
def atLoops (w : World) : Jobs := (w.expansion c w.now).jobs

def dueToArm (jobs : Jobs) : List RecordingJob :=
  (jobs.listJobs c.stationId (some .scheduled) c.limit).filter fun j =>
    decide (j.plannedStart ≤ now + armLead)

def dueToStart (jobs : Jobs) : List RecordingJob :=
  (jobs.listJobs c.stationId (some .arming) c.limit).filter fun j => decide (j.plannedStart ≤ now)

def dueToEnd (jobs : Jobs) : List RecordingJob :=
  (jobs.listJobs c.stationId (some .recording) c.limit).filter fun j => decide (j.plannedEnd ≤ now)

end Due

/-! ## The first two loops as functions -/

/-- The table after a write, or as it was where the write is refused. -/
def written (jobs : Jobs) (jobId : JobId) (state : JobState) (u : Jobs.Update) : Jobs :=
  match jobs.setJobState jobId state u with
  | .ok jobs' => jobs'
  | .error _ => jobs

def failed (jobs : Jobs) (jobId : JobId) (phase : Phase) (now : ℤ) : Jobs :=
  written jobs jobId .failed { endedAt := some now, failureReason := some (.pipeline phase) }

def skipped (jobs : Jobs) (j : RecordingJob) (now : ℤ) : Jobs :=
  written jobs j.jobId .skipped
    { endedAt := some now
      failureReason := some (.overlap ((jobs.findOverlapping j).head?.map (·.jobId))) }

section Steps

variable (c : Station) (course : Course)

/-- What `arm_job` makes of a job, and whether the tick goes on. -/
def armStep (jobs : Jobs) (j : RecordingJob) : Jobs × Bool :=
  match jobs.transitionToArming c.indexed j.jobId with
  | .error _ => (skipped jobs j (course.turn j.jobId), true)
  | .ok armed =>
    if course.armFails j.jobId then (failed armed j.jobId .arm (course.turn j.jobId), false)
    else (armed, true)

/-- What `start_job` makes of a job, and whether the tick goes on. -/
def startStep (jobs : Jobs) (j : RecordingJob) : Jobs × Bool :=
  if j.plannedEnd ≤ course.turn j.jobId ∨ course.startFails j.jobId = true then
    (failed jobs j.jobId .start (course.turn j.jobId), false)
  else (written jobs j.jobId .recording { startedAt := some (course.turn j.jobId) }, true)

end Steps

/-! ## The machine of a tick -/

namespace World

/-- The answers on a course. -/
def Ticks (c : Station) (course : Course) (w : World) :
    (o : Op) → Except Failure o.Res → Prop
  | .clock, .ok now => now = w.now
  | .clock, .error _ => False
  | .armCapture jobId, reply => reply.isOk = !course.armFails jobId
  | .startCapture jobId, reply => reply.isOk = !course.startFails jobId
  | .takeCapture _, _ => True
  | .mergeCapture _, _ => True
  | .finalizeToAsset _, _ => True
  | .checkDropout _, _ => True
  | o, reply => w.Replies c o reply

/-- Time passes after the schedules were expanded, and when a job's turn comes. -/
def passTime (course : Course) (w : World) : Op → World
  | .expand _ => { w with now := course.loops }
  | .getJob jobId => { w with now := course.turn jobId }
  | _ => w

def ticking (c : Station) (course : Course) : Machine recordingIface World where
  pre := fun _ _ => True
  legal := fun w o reply => w.Ticks c course o reply
  next := fun w o reply => (w.next c o reply).passTime course o

end World

/-! ## Sure runs -/

section Sure

variable {c : Station} {course : Course} {α β : Type} {w w₁ w₂ : World} {p : RecordingM α} {o : Op}
  {jobs : Jobs} {f : α → RecordingM β} {Q : Except Failure β → World → Prop} {r : Except Failure α}

/-- Every run of `p` from `w` ends in `w'` with `r`. -/
def Sure (c : Station) (course : Course) (p : RecordingM α) (r : Except Failure α)
    (w w' : World) : Prop :=
  ∀ Q, Q r w' → p.wp (World.ticking c course) Q w

lemma sure_pure (a : α) : Sure c course (pure a) (.ok a) w w := fun _ h => h

lemma sure_raise {e : Failure} : Sure c course (.raise e : RecordingM α) (.error e) w w :=
  fun _ h => h

lemma Sure.wp_bind {a : α} (hp : Sure c course p (.ok a) w w₁)
    (hf : (f a).wp (World.ticking c course) Q w₁) : (p >>= f).wp (World.ticking c course) Q w :=
  Prog.wp_bind.mpr (hp _ hf)

lemma Sure.bind {a : α} {r : Except Failure β} (hp : Sure c course p (.ok a) w w₁)
    (hf : Sure c course (f a) r w₁ w₂) : Sure c course (p >>= f) r w w₂ :=
  fun Q hQ => hp.wp_bind (hf Q hQ)

lemma Sure.attempt (hp : Sure c course p r w w₁) : Sure c course p.attempt (.ok r) w w₁ :=
  fun Q hQ => wp_attempt.mpr (hp _ hQ)

lemma sure_ask {x : Except Failure o.Res} (hx : ∀ reply, w.Ticks c course o reply → reply = x) :
    Sure c course (ask o) x w ((w.next c o x).passTime course o) := by
  intro Q hQ
  refine ⟨trivial, ?_⟩
  intro reply hreply
  have heq := hx reply hreply
  subst heq
  exact wp_ofExcept.mpr hQ

lemma sure_answer {a : o.Res} (hok : ∀ b, w.Ticks c course o (.ok b) → b = a)
    (herror : ∀ e, ¬w.Ticks c course o (.error e)) :
    Sure c course (ask o) (.ok a) w ((w.next c o (.ok a)).passTime course o) := by
  refine sure_ask ?_
  intro reply hreply
  cases reply with
  | ok b => rw [hok b hreply]
  | error e => exact (herror e hreply).elim

lemma sure_clock : Sure c course (ask .clock) (.ok w.now) w w :=
  sure_answer (fun _ h => h) fun _ h => h

lemma sure_getJob {jobId : JobId} :
    Sure c course (ask (.getJob jobId)) (.ok (w.jobs.get jobId)) w
      { w with now := course.turn jobId } :=
  sure_answer (fun _ h => h) fun _ h => h

lemma sure_listJobs {state : JobState} :
    Sure c course (ask (.listJobs state))
      (.ok (w.jobs.listJobs c.stationId (some state) c.limit)) w w :=
  sure_answer (fun _ h => h) fun _ h => h

lemma sure_expand :
    Sure c course (ask (.expand w.now)) (.ok (w.expansion c w.now).created.length) w
      { w with jobs := atLoops c w, now := course.loops } :=
  sure_answer (fun _ h => h) fun _ h => h

lemma sure_findOverlapping {row : RecordingJob} :
    Sure c course (ask (.findOverlapping row)) (.ok (w.jobs.findOverlapping row)) w w :=
  sure_answer (fun _ h => h) fun _ h => h

variable {jobId : JobId} {row : RecordingJob} {state : JobState} {u : Jobs.Update}

lemma written_of_get (hget : jobs.get jobId = some row)
    (hallowed : state ∈ row.state.allowed ∨ state = row.state) :
    written jobs jobId state u = jobs.modify jobId (u.apply state) fun _ => rfl := by
  unfold written
  rw [setJobState_of_get hget hallowed]

lemma get_written (hget : jobs.get jobId = some row)
    (hallowed : state ∈ row.state.allowed ∨ state = row.state) :
    (written jobs jobId state u).get jobId = some (u.apply state row) := by
  rw [written_of_get hget hallowed]
  have hself := get_modify_self (t := jobs) (k := jobId) (f := u.apply state) fun _ => rfl
  rw [hself, hget]
  rfl

lemma get_written_of_ne {k : JobId} (hget : jobs.get jobId = some row)
    (hallowed : state ∈ row.state.allowed ∨ state = row.state) (hne : k ≠ jobId) :
    (written jobs jobId state u).get k = jobs.get k := by
  rw [written_of_get hget hallowed]
  exact get_modify_of_ne _ hne

lemma sure_setJobState (hget : w.jobs.get jobId = some row)
    (hallowed : state ∈ row.state.allowed ∨ state = row.state) :
    Sure c course (ask (.setJobState jobId state u)) (.ok (u.apply state row)) w
      { w with jobs := written w.jobs jobId state u } := by
  have hset : w.jobs.setJobState jobId state u = .ok (written w.jobs jobId state u) := by
    rw [written_of_get hget hallowed]
    exact setJobState_of_get hget hallowed
  have hnext : w.next c (.setJobState jobId state u) (.ok (u.apply state row)) =
      { w with jobs := written w.jobs jobId state u } := by
    show w.wrote (w.jobs.setJobState jobId state u) = _
    rw [hset]
    rfl
  rw [← hnext]
  refine sure_ask ?_
  intro reply hreply
  cases reply with
  | ok row' =>
    obtain ⟨jobs, hjobs, hrow'⟩ := hreply
    rw [hset] at hjobs
    cases hjobs
    rw [get_written hget hallowed] at hrow'
    exact congrArg _ (some.inj hrow').symm
  | error failure =>
    obtain ⟨error, herror, _⟩ := hreply
    rw [hset] at herror
    cases herror

lemma sure_requireJob (hget : w.jobs.get jobId = some row) :
    Sure c course (requireJob jobId) (.ok row) w { w with now := course.turn jobId } := by
  refine .bind sure_getJob ?_
  rw [hget]
  exact sure_pure row

lemma sure_failJob {phase : Phase} (hget : w.jobs.get jobId = some row)
    (hallowed : JobState.failed ∈ row.state.allowed ∨ .failed = row.state) :
    Sure c course (failJob jobId phase) (.error (.pipelineFailure phase)) w
      { w with jobs := failed w.jobs jobId phase w.now } := by
  refine .bind (a := ()) ?_ sure_raise
  exact .bind sure_clock (.bind (sure_setJobState hget hallowed) (sure_pure ()))

/-- The calls of the capture pipeline and of the finalizer. -/
def Op.isPipeline : Op → Bool
  | .armCapture _ => true
  | .startCapture _ => true
  | .takeCapture _ => true
  | .mergeCapture _ => true
  | .checkDropout _ => true
  | .finalizeToAsset _ => true
  | _ => false

variable (c course) in
lemma next_pipeline (ho : o.isPipeline = true) (reply : Except Failure o.Res) :
    ((w.next c o reply).passTime course o).jobs = w.jobs ∧
      ((w.next c o reply).passTime course o).now = w.now := by
  have hwrite : o.isWrite = false := by
    cases o <;> first | rfl | cases ho
  have hstill : ∀ w' : World, w'.passTime course o = w' := by
    intro w'
    cases o <;> first | rfl | cases ho
  rw [hstill]
  refine ⟨World.next_jobs hwrite reply, ?_⟩
  cases o with
  | armCapture jobId =>
    cases reply with
    | ok _ =>
      show (if (w.active jobId).isSome then w else w.setCapture jobId false).now = w.now
      split <;> rfl
    | error failure => rfl
  | startCapture jobId =>
    rcases reply with failure | _
    · cases failure with
      | fault fault => cases fault <;> rfl
      | _ => rfl
    · rfl
  | takeCapture jobId => cases reply <;> rfl
  | mergeCapture jobId | checkDropout jobId => rfl
  | finalizeToAsset jobId => cases reply <;> rfl
  | _ => exact absurd ho (by simp [Op.isPipeline])

lemma wp_pipeline {Q : Except Failure o.Res → World → Prop} (ho : o.isPipeline = true)
    (h : ∀ reply w', w.Ticks c course o reply → w'.jobs = w.jobs → w'.now = w.now → Q reply w') :
    (ask o).wp (World.ticking c course) Q w := by
  refine ⟨trivial, ?_⟩
  intro reply hreply
  have hnext := next_pipeline c course (w := w) ho reply
  exact wp_ofExcept.mpr (h reply _ hreply hnext.1 hnext.2)

lemma wp_attempt_pipeline {f : Except Failure o.Res → RecordingM β} (ho : o.isPipeline = true)
    (h : ∀ reply w', w.Ticks c course o reply → w'.jobs = w.jobs → w'.now = w.now →
      (f reply).wp (World.ticking c course) Q w') :
    ((ask o).attempt >>= f).wp (World.ticking c course) Q w := by
  rw [wp_bind, wp_attempt]
  exact wp_pipeline ho h

/-- `p` ends with the table of a step, and raises where the step leaves the loop. -/
def Settles (c : Station) (course : Course) (p : RecordingM α) (step : Jobs × Bool) (w : World) :
    Prop :=
  p.wp (World.ticking c course) (fun r w' => w'.jobs = step.1 ∧ r.isOk = step.2) w

lemma Sure.settles (hp : Sure c course p r w w₁) : Settles c course p (w₁.jobs, r.isOk) w :=
  hp _ ⟨rfl, rfl⟩

end Sure

/-! ## One job -/

section OneJob

variable {c : Station} {course : Course} {w : World} {j : RecordingJob}

variable {jobId : JobId} {error : StoreError} {armed : Jobs} {row : RecordingJob} {jobs : Jobs}

lemma sure_skipOverlapping (hget : w.jobs.get j.jobId = some j) (hstate : j.state = .scheduled) :
    ∃ row, Sure c course (skipOverlapping j.jobId j) (.ok row) w
      { w with jobs := skipped w.jobs j w.now } := by
  refine ⟨_, .bind sure_findOverlapping (.bind sure_clock (sure_setJobState hget ?_))⟩
  rw [hstate]
  exact .inl (by decide)

lemma sure_probeArming (h : w.jobs.probeArming jobId = .ok row) :
    Sure c course (ask (.probeArming jobId)) (.ok row) w w := by
  refine sure_ask ?_
  intro reply hreply
  cases reply with
  | ok row' =>
    have hreply : w.jobs.probeArming jobId = .ok row' := hreply
    rw [h] at hreply
    cases hreply
    rfl
  | error failure =>
    obtain ⟨error, herror, _⟩ := hreply
    rw [h] at herror
    cases herror

lemma sure_probeArming_error (h : w.jobs.probeArming jobId = .error error) :
    Sure c course (ask (.probeArming jobId)) (.error (.store error)) w w := by
  refine sure_ask ?_
  intro reply hreply
  cases reply with
  | ok row =>
    have hreply : w.jobs.probeArming jobId = .ok row := hreply
    rw [h] at hreply
    cases hreply
  | error failure =>
    obtain ⟨error', herror, rfl⟩ := hreply
    rw [h] at herror
    cases herror
    rfl

lemma sure_commitArming (h : w.jobs.commitArming c.indexed row = .ok armed) :
    Sure c course (ask (.commitArming row)) (.ok ()) w { w with jobs := armed } := by
  have hnext : w.next c (.commitArming row) (.ok ()) = { w with jobs := armed } := by
    show w.wrote (w.jobs.commitArming c.indexed row) = _
    rw [h]
    rfl
  rw [← hnext]
  refine sure_ask ?_
  intro reply hreply
  cases reply with
  | ok _ => rfl
  | error failure =>
    obtain ⟨error, herror, _⟩ := hreply
    rw [h] at herror
    cases herror

lemma sure_commitArming_error (h : w.jobs.commitArming c.indexed row = .error error) :
    Sure c course (ask (.commitArming row)) (.error (.store error)) w w := by
  have hnext : w.next c (.commitArming row) (.error (.store error)) = w := by
    show w.wrote (w.jobs.commitArming c.indexed row) = _
    rw [h]
    rfl
  have hsure : Sure c course (ask (.commitArming row)) (.error (.store error)) w
      (w.next c (.commitArming row) (.error (.store error))) := by
    refine sure_ask ?_
    intro reply hreply
    cases reply with
    | ok _ =>
      obtain ⟨jobs, hjobs⟩ := hreply
      rw [h] at hjobs
      cases hjobs
    | error failure =>
      obtain ⟨error', herror, rfl⟩ := hreply
      rw [h] at herror
      cases herror
      rfl
  rwa [hnext] at hsure

lemma Sure.bindError {α β : Type} {w₁ : World} {p : RecordingM α} {f : α → RecordingM β}
    {e : Failure} (hp : Sure c course p (.error e) w w₁) :
    Sure c course (p >>= f) (.error e) w w₁ :=
  fun Q hQ => Prog.wp_bind.mpr (hp _ hQ)

lemma sure_transitionToArming (hok : w.jobs.transitionToArming c.indexed jobId = .ok armed) :
    Sure c course (transitionToArming jobId) (.ok ()) w { w with jobs := armed } := by
  unfold Jobs.transitionToArming at hok
  cases hprobe : w.jobs.probeArming jobId with
  | error error =>
    rw [hprobe] at hok
    cases hok
  | ok row =>
    rw [hprobe] at hok
    exact .bind (sure_probeArming hprobe) (sure_commitArming hok)

lemma sure_transitionToArming_error
    (herror : w.jobs.transitionToArming c.indexed jobId = .error error) :
    Sure c course (transitionToArming jobId) (.error (.store error)) w w := by
  unfold Jobs.transitionToArming at herror
  cases hprobe : w.jobs.probeArming jobId with
  | error error' =>
    rw [hprobe] at herror
    cases herror
    exact .bindError (sure_probeArming_error hprobe)
  | ok row =>
    rw [hprobe] at herror
    exact .bind (sure_probeArming hprobe) (sure_commitArming_error herror)

lemma get_armed {indexed : Bool} (hget : jobs.get j.jobId = some j)
    (hok : jobs.transitionToArming indexed j.jobId = .ok armed) :
    armed.get j.jobId = some (Jobs.armed j) ∧ ∀ k, k ≠ j.jobId → armed.get k = jobs.get k := by
  obtain ⟨row, -, -, rfl⟩ := transitionToArming_ok hok
  constructor
  · have hself := get_modify_self (t := jobs) (k := j.jobId) (f := Jobs.armed) fun _ => rfl
    rw [hself, hget]
    rfl
  · intro k hne
    exact get_modify_of_ne _ hne

lemma armStep_of_error (h : jobs.transitionToArming c.indexed j.jobId = .error error) :
    armStep c course jobs j = (skipped jobs j (course.turn j.jobId), true) := by
  unfold armStep
  rw [h]

lemma armStep_of_ok (h : jobs.transitionToArming c.indexed j.jobId = .ok armed) :
    armStep c course jobs j =
      if course.armFails j.jobId then (failed armed j.jobId .arm (course.turn j.jobId), false)
      else (armed, true) := by
  unfold armStep
  rw [h]

lemma ok_or_error {α : Type} {reply : Except Failure α} {fails : Bool} (h : reply.isOk = !fails) :
    (∃ a, reply = .ok a ∧ fails = false) ∨ ∃ failure, reply = .error failure ∧ fails = true := by
  cases fails with
  | false =>
    cases reply with
    | ok a => exact .inl ⟨a, rfl, rfl⟩
    | error failure => cases h
  | true =>
    cases reply with
    | ok a => cases h
    | error failure => exact .inr ⟨failure, rfl, rfl⟩

lemma settles_armJob (hget : w.jobs.get j.jobId = some j) (hstate : j.state = .scheduled) :
    Settles c course (armJob j.jobId) (armStep c course w.jobs j) w := by
  refine Sure.wp_bind (sure_requireJob hget) ?_
  rw [if_neg (by simp [hstate])]
  let w₁ : World := { w with now := course.turn j.jobId }
  cases htransition : w.jobs.transitionToArming c.indexed j.jobId with
  | error error =>
    have hoverlap := transitionToArming_error hget hstate htransition
    subst hoverlap
    rw [armStep_of_error htransition]
    refine Sure.wp_bind (sure_transitionToArming_error (w := w₁) htransition).attempt ?_
    have hskip : ∃ row, Sure c course (skipOverlapping j.jobId j) (.ok row) w₁ _ :=
      sure_skipOverlapping hget hstate
    obtain ⟨row, hrow⟩ := hskip
    exact hrow.settles
  | ok armed =>
    have harmed := (get_armed hget htransition).1
    rw [armStep_of_ok htransition]
    refine Sure.wp_bind (sure_transitionToArming (w := w₁) htransition).attempt ?_
    refine wp_attempt_pipeline rfl ?_
    rintro reply w₂ hreply hjobs hnow
    have hjobs : w₂.jobs = armed := hjobs
    have hnow : w₂.now = course.turn j.jobId := hnow
    have harmed : w₂.jobs.get j.jobId = some (Jobs.armed j) := hjobs ▸ harmed
    rcases ok_or_error hreply with ⟨_, rfl, hfails⟩ | ⟨failure, rfl, hfails⟩
    · rw [if_neg (by simp [hfails]), ← hjobs]
      exact (sure_requireJob harmed).settles
    · rw [if_pos hfails, ← hjobs, ← hnow]
      exact (sure_failJob harmed (.inl (mem_cons_of_mem _ (by decide)))).settles

lemma settles_startJob (hget : w.jobs.get j.jobId = some j) (hstate : j.state = .arming) :
    Settles c course (startJob j.jobId) (startStep course w.jobs j) w := by
  refine Sure.wp_bind (sure_requireJob hget) ?_
  rw [if_neg (by simp [hstate])]
  let w₁ : World := { w with now := course.turn j.jobId }
  have hget₁ : w₁.jobs.get j.jobId = some j := hget
  have hallowed : ∀ state, state = .failed ∨ state = .recording →
      state ∈ j.state.allowed ∨ state = j.state := by
    rw [hstate]
    rintro state (rfl | rfl)
    · exact .inl (by decide)
    · exact .inl (by decide)
  refine Sure.wp_bind (sure_clock) ?_
  unfold startStep
  by_cases hover : j.plannedEnd ≤ course.turn j.jobId
  · rw [if_pos hover, if_pos (.inl hover)]
    exact (sure_failJob hget₁ (hallowed _ (.inl rfl))).settles
  · rw [if_neg hover]
    refine wp_attempt_pipeline rfl ?_
    rintro reply w₂ hreply hjobs hnow
    have hjobs : w₂.jobs = w.jobs := hjobs
    have hnow : w₂.now = course.turn j.jobId := hnow
    have hget₂ : w₂.jobs.get j.jobId = some j := hjobs ▸ hget
    rcases ok_or_error hreply with ⟨_, rfl, hfails⟩ | ⟨failure, rfl, hfails⟩
    · rw [if_neg (by simp [hover, hfails]), ← hjobs]
      exact (sure_setJobState hget₂ (hallowed _ (.inr rfl))).settles
    · rw [if_pos (.inr hfails), ← hjobs, ← hnow]
      exact (sure_failJob hget₂ (hallowed _ (.inl rfl))).settles

end OneJob

/-! ## Tables before and after -/

/-- The rows of `ids` were moved into `states`, and no other row changed. -/
structure Rewrites (states : List JobState) (ids : List JobId) (jobs jobs' : Jobs) : Prop where
  frame : ∀ k, k ∉ ids → jobs'.get k = jobs.get k
  moved : ∀ k ∈ ids, ∃ row, jobs'.get k = some row ∧ row.state ∈ states

/-- Rows of one state, as the table has them, each of them once. -/
structure Listed (state : JobState) (jobs : Jobs) (list : List RecordingJob) : Prop where
  nodup : (list.map (·.jobId)).Nodup
  current : ∀ j ∈ list, jobs.get j.jobId = some j
  inState : ∀ j ∈ list, j.state = state

section Tables

variable {states : List JobState} {state : JobState} {ids : List JobId} {k : JobId}
  {jobs jobs' jobs'' : Jobs} {j : RecordingJob} {list : List RecordingJob}
  {f : Jobs → RecordingJob → Jobs × Bool}

lemma Rewrites.refl : Rewrites states [] jobs jobs where
  frame := fun _ _ => rfl
  moved := nofun

lemma Rewrites.cons (hhead : Rewrites states [k] jobs jobs')
    (htail : Rewrites states ids jobs' jobs'') (hnew : k ∉ ids) :
    Rewrites states (k :: ids) jobs jobs'' := by
  constructor
  · intro k' hk'
    rw [mem_cons, not_or] at hk'
    rw [htail.frame k' hk'.2, hhead.frame k' (by simpa using hk'.1)]
  · intro k' hk'
    rcases mem_cons.mp hk' with rfl | hmem
    · rw [htail.frame k' hnew]
      exact hhead.moved k' mem_cons_self
    · exact htail.moved k' hmem

lemma Listed.head (h : Listed state jobs (j :: list)) :
    jobs.get j.jobId = some j ∧ j.state = state ∧ j.jobId ∉ list.map (·.jobId) := by
  have hnodup := h.nodup
  rw [map_cons, nodup_cons] at hnodup
  exact ⟨h.current j mem_cons_self, h.inState j mem_cons_self, hnodup.1⟩

lemma Listed.tail (h : Listed state jobs (j :: list))
    (hstep : Rewrites states [j.jobId] jobs jobs') : Listed state jobs' list := by
  have hnew := h.head.2.2
  constructor
  · exact (nodup_cons.mp h.nodup).2
  · intro k hk
    have hne : k.jobId ∉ [j.jobId] := by
      rw [mem_singleton]
      intro heq
      exact hnew (mem_map.mpr ⟨k, hk, heq⟩)
    rw [hstep.frame _ hne]
    exact h.current k (mem_cons_of_mem _ hk)
  · intro k hk
    exact h.inState k (mem_cons_of_mem _ hk)

lemma Listed.sublist {list' : List RecordingJob} (h : Listed state jobs list)
    (hsub : list'.Sublist list) : Listed state jobs list' where
  nodup := h.nodup.sublist (hsub.map _)
  current := fun j hj => h.current j (hsub.subset hj)
  inState := fun j hj => h.inState j (hsub.subset hj)

lemma listed_listJobs {jobs : Jobs} {stationId : String} {state : JobState} {limit : ℕ} :
    Listed state jobs (jobs.listJobs stationId (some state) limit) := by
  have hmem : ∀ j ∈ jobs.listJobs stationId (some state) limit,
      j ∈ jobs.rows ∧ j.state = state := by
    intro j hj
    have hj := mem_mergeSort.mp (mem_of_mem_take hj)
    have hj := mem_filter.mp hj
    refine ⟨hj.1, ?_⟩
    have hstate := hj.2
    simp only [isNone_some, Bool.false_or, Bool.and_eq_true, decide_eq_true_eq,
      some.injEq] at hstate
    exact hstate.2.symm
  constructor
  · have hsorted := ((mergeSort_perm (jobs.rows.filter fun j =>
      j.stationId = stationId && ((some state).isNone || some state = some j.state))
      fun j k => k.plannedStart ≤ j.plannedStart).map (·.jobId)).nodup_iff.mpr
        (jobs.nodup.sublist (filter_sublist.map _))
    exact hsorted.sublist ((take_sublist _ _).map _)
  · intro j hj
    exact get_eq_some_iff.mpr ⟨(hmem j hj).1, rfl⟩
  · intro j hj
    exact (hmem j hj).2

lemma Listed.mem_of_id (h : Listed state jobs list) (hget : jobs.get j.jobId = some j)
    (hid : j.jobId ∈ list.map (·.jobId)) : j ∈ list := by
  obtain ⟨k, hk, heq⟩ := mem_map.mp hid
  have hgetk := h.current k hk
  rw [heq, hget] at hgetk
  cases hgetk
  exact hk

lemma Rewrites.keeps_unlisted (h : Rewrites states (list.map (·.jobId)) jobs jobs')
    (hlisted : Listed state jobs list) (hget : jobs.get j.jobId = some j) (hnot : j ∉ list) :
    jobs'.get j.jobId = some j := by
  rw [h.frame j.jobId fun hid => hnot (hlisted.mem_of_id hget hid)]
  exact hget

lemma Rewrites.back (h : Rewrites states (list.map (·.jobId)) jobs jobs')
    (hget : jobs'.get k = some j) (hstate : j.state ∉ states) : jobs.get k = some j ∧ j ∉ list := by
  have hkey : j.jobId = k := key_of_get hget
  have hnot : k ∉ list.map (·.jobId) := by
    intro hid
    obtain ⟨row, hrow, hmem⟩ := h.moved k hid
    rw [hget] at hrow
    cases hrow
    exact hstate hmem
  refine ⟨(h.frame k hnot).symm.trans hget, ?_⟩
  intro hmem
  exact hnot (mem_map.mpr ⟨j, hmem, hkey⟩)

variable (hf : ∀ jobs j, jobs.get j.jobId = some j → j.state = state →
  Rewrites states [j.jobId] jobs (f jobs j).1)
include hf

/-- What each step of a sweep does to its row, the sweep does to all of them. -/
lemma rewrites_after (h : Listed state jobs list) :
    Rewrites states (list.map (·.jobId)) jobs (Sweep.after f jobs list) := by
  induction list generalizing jobs with
  | nil => exact Rewrites.refl
  | cons j list ih =>
    obtain ⟨hget, hstate, hnew⟩ := h.head
    have hstep := hf jobs j hget hstate
    exact Rewrites.cons hstep (ih (h.tail hstep)) hnew

lemma listed_after {pre post : List RecordingJob} (h : Listed state jobs (pre ++ j :: post)) :
    Listed state (Sweep.after f jobs pre) (j :: post) := by
  induction pre generalizing jobs with
  | nil => exact h
  | cons k pre ih =>
    obtain ⟨hget, hstate, -⟩ := h.head
    exact ih (h.tail (hf jobs k hget hstate))

end Tables

/-! ## The loops -/

section Loops

variable {c : Station} {course : Course} {w : World} {jobs : Jobs} {j row : RecordingJob}
  {jobId : JobId} {state : JobState} {u : Jobs.Update} {list : List RecordingJob} {now : ℤ}

lemma rewrites_written (hget : jobs.get jobId = some row)
    (hallowed : state ∈ row.state.allowed ∨ state = row.state) :
    Rewrites [state] [jobId] jobs (written jobs jobId state u) := by
  constructor
  · intro k hk
    exact get_written_of_ne hget hallowed (by simpa using hk)
  · intro k hk
    have hk : k = jobId := by simpa using hk
    subst hk
    exact ⟨_, get_written hget hallowed, mem_cons_self⟩

lemma Rewrites.mono {states states' : List JobState} {ids : List JobId} {jobs' : Jobs}
    (h : Rewrites states ids jobs jobs') (hsub : states ⊆ states') :
    Rewrites states' ids jobs jobs' := by
  constructor
  · exact h.frame
  · intro k hk
    obtain ⟨row, hrow, hstate⟩ := h.moved k hk
    exact ⟨row, hrow, hsub hstate⟩

/-- A capture that cannot be armed, after the guard has let it through. -/
lemma rewrites_armFailed {indexed : Bool} {armed : Jobs}
    (hget : jobs.get j.jobId = some j) (h : jobs.transitionToArming indexed j.jobId = .ok armed) :
    Rewrites [.failed] [j.jobId] jobs (failed armed j.jobId .arm now) := by
  obtain ⟨harmed, hothers⟩ := get_armed hget h
  have hwritten : Rewrites [.failed] [j.jobId] armed (failed armed j.jobId .arm now) :=
    rewrites_written harmed (.inl (mem_cons_of_mem _ (by decide)))
  constructor
  · intro k hk
    rw [hwritten.frame k hk]
    exact hothers k (by simpa using hk)
  · exact hwritten.moved

variable (c course) in
lemma rewrites_armStep (jobs : Jobs) (j : RecordingJob) (hget : jobs.get j.jobId = some j)
    (hstate : j.state = .scheduled) :
    Rewrites [.arming, .skipped, .failed] [j.jobId] jobs (armStep c course jobs j).1 := by
  cases h : jobs.transitionToArming c.indexed j.jobId with
  | error error =>
    rw [armStep_of_error h]
    have hskipped : Rewrites [.skipped] [j.jobId] jobs (skipped jobs j (course.turn j.jobId)) :=
      rewrites_written hget (by rw [hstate]; exact .inl (by decide))
    exact hskipped.mono (by simp)
  | ok armed =>
    rw [armStep_of_ok h]
    by_cases hfails : course.armFails j.jobId = true
    · rw [if_pos hfails]
      exact (rewrites_armFailed hget h).mono (by simp)
    · rw [if_neg hfails]
      obtain ⟨harmed, hothers⟩ := get_armed hget h
      constructor
      · intro k hk
        exact hothers k (by simpa using hk)
      · intro k hk
        have hk : k = j.jobId := by simpa using hk
        subst hk
        exact ⟨_, harmed, mem_cons_self⟩

variable (course) in
lemma rewrites_startStep (jobs : Jobs) (j : RecordingJob) (hget : jobs.get j.jobId = some j)
    (hstate : j.state = .arming) :
    Rewrites [.recording, .failed] [j.jobId] jobs (startStep course jobs j).1 := by
  unfold startStep
  split
  · have hfailed : Rewrites [.failed] [j.jobId] jobs
        (failed jobs j.jobId .start (course.turn j.jobId)) :=
      rewrites_written hget (by rw [hstate]; exact .inl (by decide))
    exact hfailed.mono (by simp)
  · exact (rewrites_written hget (by rw [hstate]; exact .inl (by decide))).mono (by simp)

lemma armStep_stops (hget : jobs.get j.jobId = some j)
    (hstops : (armStep c course jobs j).2 = false) :
    Rewrites [.failed] [j.jobId] jobs (armStep c course jobs j).1 := by
  cases h : jobs.transitionToArming c.indexed j.jobId with
  | error error =>
    rw [armStep_of_error h] at hstops
    cases hstops
  | ok armed =>
    rw [armStep_of_ok h] at hstops ⊢
    by_cases hfails : course.armFails j.jobId = true
    · rw [if_pos hfails]
      exact rewrites_armFailed hget h
    · rw [if_neg hfails] at hstops
      cases hstops

lemma startStep_stops (hget : jobs.get j.jobId = some j) (hstate : j.state = .arming)
    (hstops : (startStep course jobs j).2 = false) :
    Rewrites [.failed] [j.jobId] jobs (startStep course jobs j).1 := by
  unfold startStep at hstops ⊢
  split at hstops
  · rename_i hfails
    rw [if_pos hfails]
    exact rewrites_written hget (by rw [hstate]; exact .inl (by decide))
  · cases hstops

lemma settles_cons {α β : Type} {p : RecordingM α} {g : α → RecordingM β}
    {f : Jobs → RecordingJob → Jobs × Bool} (hp : Settles c course p (f w.jobs j) w)
    (hg : ∀ a w', w'.jobs = (f w.jobs j).1 → Settles c course (g a) (Sweep.run f w'.jobs list) w') :
    Settles c course (p >>= g) (Sweep.run f w.jobs (j :: list)) w := by
  refine wp_seq hp ?_ ?_
  · rintro a w' ⟨hjobs, hok⟩
    have hok : (f w.jobs j).2 = true := hok.symm
    rw [Sweep.run, if_pos hok, ← hjobs]
    exact hg a w' hjobs
  · rintro e w' ⟨hjobs, hok⟩
    have hok : (f w.jobs j).2 = false := hok.symm
    rw [Sweep.run, if_neg (by simp [hok])]
    exact ⟨hjobs, rfl⟩

lemma settles_armDue {cutoff : ℤ} (h : Listed .scheduled w.jobs list) (n : TickCounters) :
    Settles c course (armDue cutoff list n)
      (Sweep.run (armStep c course) w.jobs
        (list.filter fun j => decide (j.plannedStart ≤ cutoff))) w := by
  induction list generalizing w n with
  | nil => exact ⟨rfl, rfl⟩
  | cons j list ih =>
    obtain ⟨hget, hstate, -⟩ := h.head
    unfold armDue
    by_cases hlater : cutoff < j.plannedStart
    · rw [if_pos hlater, filter_cons_of_neg (by simpa using hlater)]
      exact ih (h.sublist (sublist_cons_self j list)) n
    · rw [if_neg hlater, filter_cons_of_pos (by simpa using hlater)]
      refine settles_cons (settles_armJob hget hstate) ?_
      intro armed w' hjobs
      have htail := h.tail (hjobs ▸ rewrites_armStep c course _ j hget hstate)
      repeat' split
      all_goals exact ih htail _

lemma settles_startDue (h : Listed .arming w.jobs list) (n : TickCounters) :
    Settles c course (startDue now list n)
      (Sweep.run (startStep course) w.jobs
        (list.filter fun j => decide (j.plannedStart ≤ now))) w := by
  induction list generalizing w n with
  | nil => exact ⟨rfl, rfl⟩
  | cons j list ih =>
    obtain ⟨hget, hstate, -⟩ := h.head
    unfold startDue
    by_cases hlater : now < j.plannedStart
    · rw [if_pos hlater, filter_cons_of_neg (by simpa using hlater)]
      exact ih (h.sublist (sublist_cons_self j list)) n
    · rw [if_neg hlater, filter_cons_of_pos (by simpa using hlater)]
      refine settles_cons (settles_startJob hget hstate) ?_
      intro started w' hjobs
      have htail := h.tail (hjobs ▸ rewrites_startStep course _ j hget hstate)
      repeat' split
      all_goals exact ih htail _

lemma wp_deliver :
    (deliver jobId).wp (World.ticking c course) (fun _ w' => w'.jobs = w.jobs) w := by
  have hcall : ∀ {o : Op} {w₁ : World}, o.isPipeline = true → w₁.jobs = w.jobs →
      (ask o).wp (World.ticking c course) (fun _ w' => w'.jobs = w.jobs) w₁ := by
    intro o w₁ ho hw₁
    refine wp_pipeline ho ?_
    intro reply w' _ hjobs _
    exact hjobs.trans hw₁
  have hstop : (stopCapture jobId).wp (World.ticking c course)
      (fun _ w' => w'.jobs = w.jobs) w := by
    refine wp_seq (hcall rfl rfl) ?_ fun _ _ h => h
    intro endedAt w₁ hw₁
    exact wp_seq (hcall rfl hw₁) (fun _ _ h => h) fun _ _ h => h
  refine wp_seq hstop ?_ fun _ _ h => h
  intro result w₁ hw₁
  exact wp_seq (hcall rfl hw₁) (fun _ _ h => h) fun _ _ h => h

/-- `finalize_job` ends the recording of a job, whatever the pipeline answers. -/
lemma wp_finalizeJob (hget : w.jobs.get j.jobId = some j) (hstate : j.state = .recording) :
    (finalizeJob j.jobId).wp (World.ticking c course)
      (fun r w' => Rewrites [.done, .failed] [j.jobId] w.jobs w'.jobs ∧
        ∀ e, r = .error e → ∃ phase, e = .pipelineFailure phase) w := by
  refine Sure.wp_bind (sure_requireJob hget) ?_
  rw [if_neg (by simp [hstate])]
  have hallowed : JobState.finalizing ∈ j.state.allowed ∨ .finalizing = j.state := by
    rw [hstate]
    exact .inl (by decide)
  let w₁ : World := { w with now := course.turn j.jobId }
  refine Sure.wp_bind (sure_setJobState (w := w₁) hget hallowed) ?_
  have hfirst := rewrites_written (u := {}) hget hallowed
  have hrow := get_written (u := {}) hget hallowed
  have hends : ∀ state, state ∈ [JobState.done, .failed] →
      state ∈ (({} : Jobs.Update).apply .finalizing j).state.allowed := fun _ h => h
  -- the last write is one of the two that `finalizing` allows
  have hlast : ∀ {w₂ : World} {state : JobState} {u : Jobs.Update},
      w₂.jobs = written w.jobs j.jobId .finalizing {} → state ∈ [JobState.done, .failed] →
      Rewrites [.done, .failed] [j.jobId] w.jobs (written w₂.jobs j.jobId state u) := by
    intro w₂ state u hjobs hstate
    have hrow₂ : w₂.jobs.get j.jobId = some (({} : Jobs.Update).apply .finalizing j) := hjobs ▸ hrow
    have hstep : Rewrites [state] [j.jobId] w₂.jobs (written w₂.jobs j.jobId state u) :=
      rewrites_written hrow₂ (.inl (hends state hstate))
    constructor
    · intro k hk
      rw [hstep.frame k hk, hjobs, hfirst.frame k hk]
    · intro k hk
      obtain ⟨row, hget, hmem⟩ := hstep.moved k hk
      rw [mem_singleton] at hmem
      exact ⟨row, hget, hmem ▸ hstate⟩
  refine wp_attempt_seq (wp_mono ?_ wp_deliver)
  intro r w₂ hjobs
  have hrow₂ : w₂.jobs.get j.jobId = some (({} : Jobs.Update).apply .finalizing j) := hjobs ▸ hrow
  cases r with
  | error failure =>
    refine sure_failJob hrow₂ (.inl (hends _ (by simp))) _ ⟨hlast hjobs (by simp), ?_⟩
    intro e he
    exact ⟨.finalize, (Except.error.inj he).symm⟩
  | ok delivered =>
    obtain ⟨result, assetId⟩ := delivered
    refine Sure.wp_bind sure_clock ?_
    refine sure_setJobState hrow₂ (.inl (hends _ (by simp))) _ ⟨hlast hjobs (by simp), ?_⟩
    intro e he
    cases he

lemma wp_finalizeDue (h : Listed .recording w.jobs list) (n : TickCounters) :
    (finalizeDue now list n).wp (World.ticking c course)
      (fun r w' => Rewrites [.done, .failed]
        ((list.filter fun j => decide (j.plannedEnd ≤ now)).map (·.jobId)) w.jobs w'.jobs ∧
        r.isOk = true) w := by
  induction list generalizing w n with
  | nil => exact ⟨Rewrites.refl, rfl⟩
  | cons j list ih =>
    obtain ⟨hget, hstate, hnew⟩ := h.head
    unfold finalizeDue
    by_cases hlater : now < j.plannedEnd
    · rw [if_pos hlater, filter_cons_of_neg (by simpa using hlater)]
      exact ih (h.sublist (sublist_cons_self j list)) n
    · rw [if_neg hlater, filter_cons_of_pos (by simpa using hlater)]
      refine wp_attempt_seq ?_
      refine wp_mono ?_ (wp_finalizeJob hget hstate)
      rintro r w' ⟨hstep, hraised⟩
      have hnew' : j.jobId ∉ (list.filter fun j => decide (j.plannedEnd ≤ now)).map (·.jobId) :=
        fun hmem => hnew (List.Sublist.subset (filter_sublist.map _) hmem)
      have hrest : ∀ n, (finalizeDue now list n).wp (World.ticking c course)
          (fun r w'' => Rewrites [.done, .failed]
            (j.jobId :: (list.filter fun j => decide (j.plannedEnd ≤ now)).map (·.jobId))
            w.jobs w''.jobs ∧ r.isOk = true) w' := by
        intro n
        refine wp_mono ?_ (ih (h.tail hstep) n)
        rintro r w'' ⟨htail, hok⟩
        exact ⟨Rewrites.cons hstep htail hnew', hok⟩
      cases r with
      | error failure =>
        -- the pipeline failed, which the loop catches
        obtain ⟨phase, rfl⟩ := hraised failure rfl
        exact hrest _
      | ok finalized =>
        dsimp only [bindPost]
        repeat' split
        all_goals exact hrest _

end Loops

/-! ## Whole ticks -/

section Handled

variable {c : Station} {armLead now : ℤ} {jobs jobs' : Jobs} {j : RecordingJob}

lemma handled_iff_get :
    Handled c armLead now jobs ↔ ∀ k row, jobs.get k = some row → ¬ Due c armLead now row := by
  constructor
  · intro h k row hget
    exact h row (mem_of_get hget)
  · intro h row hrow
    exact h row.jobId row (get_eq_some_iff.mpr ⟨hrow, rfl⟩)

lemma not_due_of_state (h : j.state ≠ .scheduled ∧ j.state ≠ .arming ∧ j.state ≠ .recording) :
    ¬ Due c armLead now j := by
  rintro (hdue | hdue | hdue)
  · exact h.1 hdue.state
  · exact h.2.1 hdue.state
  · exact h.2.2 hdue.state

/-- Where a job fails and the tick is left, the others stay as they were. -/
lemma handled_iff_alone (h : Rewrites [.failed] [j.jobId] jobs jobs') :
    Handled c armLead now jobs' ↔ Alone c armLead now jobs j := by
  rw [handled_iff_get]
  constructor
  · intro hhandled k hk hne
    refine hhandled k.jobId k ?_
    rw [h.frame k.jobId (by simpa using hne)]
    exact get_eq_some_iff.mpr ⟨hk, rfl⟩
  · intro halone k row hget
    by_cases hk : k = j.jobId
    · obtain ⟨row', hget', hstate⟩ := h.moved k (by simpa using hk)
      rw [hget'] at hget
      cases hget
      rw [mem_singleton] at hstate
      exact not_due_of_state (by simp [hstate])
    · rw [h.frame k (by simpa using hk)] at hget
      have hkey : row.jobId = k := key_of_get hget
      exact halone row (mem_of_get hget) (hkey ▸ hk)

lemma due_recordDropout {n : ℕ} :
    Due c armLead now { j with dropoutCount := n } ↔ Due c armLead now j := by
  constructor
  all_goals
    rintro (⟨hstation, hstate, htime⟩ | ⟨hstation, hstate, htime⟩ | ⟨hstation, hstate, htime⟩)
    · exact .inl ⟨hstation, hstate, htime⟩
    · exact .inr (.inl ⟨hstation, hstate, htime⟩)
    · exact .inr (.inr ⟨hstation, hstate, htime⟩)

lemma handled_recordDropout (jobId : JobId) :
    Handled c armLead now (jobs.recordDropout jobId) ↔ Handled c armLead now jobs := by
  have hrow : ∀ j : RecordingJob, Due c armLead now
      (if j.jobId = jobId then { j with dropoutCount := j.dropoutCount + 1 } else j) ↔
      Due c armLead now j := by
    intro j
    split
    · exact due_recordDropout
    · rfl
  constructor
  · intro h j hj hdue
    exact h _ (mem_map.mpr ⟨j, hj, rfl⟩) ((hrow j).mpr hdue)
  · intro h j hj
    obtain ⟨row, hmem, rfl⟩ := mem_map.mp hj
    exact fun hdue => h row hmem ((hrow row).mp hdue)

variable {course : Course} {w : World}

lemma wp_poll {list : List RecordingJob} {recorded : ℕ} :
    (pollActiveRecordings list recorded).wp (World.ticking c course)
      (fun _ w' => Handled c armLead now w'.jobs ↔ Handled c armLead now w.jobs) w := by
  let calls : Op → Prop := fun o => ∃ jobId, o = .checkDropout jobId ∨ o = .recordDropout jobId
  have huse : ∀ o, calls o → (ask o).Uses calls fun _ => True := by
    intro o ho
    refine ⟨ho, ?_⟩
    rintro (failure | a)
    · exact uses_raise trivial
    · exact uses_pure
  have huses : ∀ n, (pollActiveRecordings list n).Uses calls fun _ => True := by
    induction list with
    | nil => exact fun n => uses_pure
    | cons j list ih =>
      intro n
      refine uses_bind (uses_attempt (huse _ ⟨j.jobId, .inl rfl⟩)) ?_
      rintro (failure | result)
      · exact ih n
      · exact uses_ite (uses_bind (huse _ ⟨j.jobId, .inr rfl⟩) fun _ => ih _) (ih n)
  have hkeeps : (pollActiveRecordings list recorded).Keeps (World.ticking c course)
      (fun w' => Handled c armLead now w'.jobs ↔ Handled c armLead now w.jobs) fun _ => True := by
    refine (huses recorded).keeps (fun _ _ _ _ => trivial) ?_
    rintro w' o reply ⟨jobId, rfl | rfl⟩ hw' -
    · exact hw'
    · cases reply with
      | error failure => exact hw'
      | ok _ => exact (handled_recordDropout jobId).trans hw'
  exact wp_mono (fun _ _ h => h.1) (hkeeps w .rfl)

end Handled

section Tick

variable (c : Station) (armLead : ℤ) (course : Course)

/-- The table after a first loop that went through. -/
def afterArming (jobs : Jobs) : Jobs :=
  Sweep.after (armStep c course) jobs (dueToArm c armLead course.loops jobs)

/-- The table after a second loop that went through. -/
def afterStarting (jobs : Jobs) : Jobs :=
  Sweep.after (startStep course) jobs (dueToStart c course.loops jobs)

/-- No listing leaves a due job out. -/
structure Complete (jobs : Jobs) : Prop where
  arms : ∀ j ∈ jobs.rows, DueToArm c armLead course.loops j →
    j ∈ dueToArm c armLead course.loops jobs
  starts : ∀ j ∈ (afterArming c armLead course jobs).rows, DueToStart c course.loops j →
    j ∈ dueToStart c course.loops (afterArming c armLead course jobs)
  ends : ∀ j ∈ (afterStarting c course (afterArming c armLead course jobs)).rows,
    DueToEnd c course.loops j →
    j ∈ dueToEnd c course.loops (afterStarting c course (afterArming c armLead course jobs))

/-- A job that leaves one of the first two loops is the only one due at its turn, and where
none does, every due job is listed. -/
structure Clear (jobs : Jobs) : Prop where
  armsLast : ∀ pre j post,
    Sweep.Leaves (armStep c course) jobs (dueToArm c armLead course.loops jobs) pre j post →
    Alone c armLead course.loops (Sweep.after (armStep c course) jobs pre) j
  startsLast : Sweep.Passes (armStep c course) jobs (dueToArm c armLead course.loops jobs) →
    ∀ pre j post,
    Sweep.Leaves (startStep course) (afterArming c armLead course jobs)
      (dueToStart c course.loops (afterArming c armLead course jobs)) pre j post →
    Alone c armLead course.loops
      (Sweep.after (startStep course) (afterArming c armLead course jobs) pre) j
  complete : Sweep.Passes (armStep c course) jobs (dueToArm c armLead course.loops jobs) →
    Sweep.Passes (startStep course) (afterArming c armLead course jobs)
      (dueToStart c course.loops (afterArming c armLead course jobs)) →
    Complete c armLead course jobs

variable {c armLead course} {jobs : Jobs} {pre post : List RecordingJob} {j : RecordingJob}

section Lists

variable (c armLead course jobs)

lemma listed_dueToArm : Listed .scheduled jobs (dueToArm c armLead course.loops jobs) :=
  listed_listJobs.sublist filter_sublist

lemma listed_dueToStart : Listed .arming jobs (dueToStart c course.loops jobs) :=
  listed_listJobs.sublist filter_sublist

lemma listed_dueToEnd : Listed .recording jobs (dueToEnd c course.loops jobs) :=
  listed_listJobs.sublist filter_sublist

lemma rewrites_afterArming :
    Rewrites [.arming, .skipped, .failed]
      ((dueToArm c armLead course.loops jobs).map (·.jobId)) jobs
      (afterArming c armLead course jobs) :=
  rewrites_after (rewrites_armStep c course) (listed_dueToArm c armLead course jobs)

lemma rewrites_afterStarting :
    Rewrites [.recording, .failed] ((dueToStart c course.loops jobs).map (·.jobId)) jobs
      (afterStarting c course jobs) :=
  rewrites_after (rewrites_startStep course) (listed_dueToStart c course jobs)

end Lists

/-- The first loop is left at a job that is then alone, or not. -/
lemma clear_iff_of_arm_leaves
    (h : Sweep.Leaves (armStep c course) jobs (dueToArm c armLead course.loops jobs) pre j post) :
    Clear c armLead course jobs ↔
      Alone c armLead course.loops (Sweep.after (armStep c course) jobs pre) j := by
  constructor
  · intro hclear
    exact hclear.armsLast pre j post h
  · intro halone
    constructor
    · intro pre' j' post' h'
      obtain ⟨rfl, rfl⟩ := h.unique h'
      exact halone
    · intro hpasses
      exact absurd hpasses h.not_passes
    · intro hpasses
      exact absurd hpasses h.not_passes

variable (harms : Sweep.Passes (armStep c course) jobs (dueToArm c armLead course.loops jobs))
include harms

lemma clear_iff_of_start_leaves
    (h : Sweep.Leaves (startStep course) (afterArming c armLead course jobs)
      (dueToStart c course.loops (afterArming c armLead course jobs)) pre j post) :
    Clear c armLead course jobs ↔ Alone c armLead course.loops
      (Sweep.after (startStep course) (afterArming c armLead course jobs) pre) j := by
  constructor
  · intro hclear
    exact hclear.startsLast harms pre j post h
  · intro halone
    constructor
    · intro pre' j' post' h'
      exact absurd harms h'.not_passes
    · intro _ pre' j' post' h'
      obtain ⟨rfl, rfl⟩ := h.unique h'
      exact halone
    · intro _ hpasses
      exact absurd hpasses h.not_passes

lemma clear_iff_complete
    (hstarts : Sweep.Passes (startStep course) (afterArming c armLead course jobs)
      (dueToStart c course.loops (afterArming c armLead course jobs))) :
    Clear c armLead course jobs ↔ Complete c armLead course jobs := by
  constructor
  · intro hclear
    exact hclear.complete harms hstarts
  · intro hcomplete
    constructor
    · intro pre j post h
      exact absurd harms h.not_passes
    · intro _ pre j post h
      exact absurd hstarts h.not_passes
    · intro _ _
      exact hcomplete

omit harms

lemma handled_iff_complete {jobs' : Jobs}
    (hends : Rewrites [.done, .failed]
      ((dueToEnd c course.loops
        (afterStarting c course (afterArming c armLead course jobs))).map (·.jobId))
      (afterStarting c course (afterArming c armLead course jobs)) jobs') :
    Handled c armLead course.loops jobs' ↔ Complete c armLead course jobs := by
  have harms := rewrites_afterArming c armLead course jobs
  have hstarts := rewrites_afterStarting c course (afterArming c armLead course jobs)
  have hlisted₀ := listed_dueToArm c armLead course jobs
  have hlisted₁ := listed_dueToStart c course (afterArming c armLead course jobs)
  have hlisted₂ := listed_dueToEnd c course
    (afterStarting c course (afterArming c armLead course jobs))
  have hrow : ∀ {jobs : Jobs} {j : RecordingJob}, j ∈ jobs.rows → jobs.get j.jobId = some j :=
    fun hj => get_eq_some_iff.mpr ⟨hj, rfl⟩
  -- a listed row is in the state of its list
  have hother : ∀ {state : JobState} {jobs : Jobs} {list : List RecordingJob} {j : RecordingJob},
      Listed state jobs list → j.state ≠ state → j ∉ list :=
    fun hlisted hne hmem => hne (hlisted.inState _ hmem)
  constructor
  · intro hhandled
    rw [handled_iff_get] at hhandled
    constructor
    · intro j hj hdue
      by_contra hnot
      have h₁ := harms.keeps_unlisted hlisted₀ (hrow hj) hnot
      have h₂ := hstarts.keeps_unlisted hlisted₁ h₁ (hother hlisted₁ (by simp [hdue.state]))
      have h₃ := hends.keeps_unlisted hlisted₂ h₂ (hother hlisted₂ (by simp [hdue.state]))
      exact hhandled j.jobId j h₃ (.inl hdue)
    · intro j hj hdue
      by_contra hnot
      have h₂ := hstarts.keeps_unlisted hlisted₁ (hrow hj) hnot
      have h₃ := hends.keeps_unlisted hlisted₂ h₂ (hother hlisted₂ (by simp [hdue.state]))
      exact hhandled j.jobId j h₃ (.inr (.inl hdue))
    · intro j hj hdue
      by_contra hnot
      have h₃ := hends.keeps_unlisted hlisted₂ (hrow hj) hnot
      exact hhandled j.jobId j h₃ (.inr (.inr hdue))
  · intro hcomplete
    rw [handled_iff_get]
    -- a due row was not moved by the last loop it could have been moved by
    rintro k row hget (hdue | hdue | hdue)
    · have h₂ := (hends.back hget (by simp [hdue.state])).1
      have h₁ := (hstarts.back h₂ (by simp [hdue.state])).1
      obtain ⟨h₀, hnot⟩ := harms.back h₁ (by simp [hdue.state])
      exact hnot (hcomplete.arms row (mem_of_get h₀) hdue)
    · have h₂ := (hends.back hget (by simp [hdue.state])).1
      obtain ⟨h₁, hnot⟩ := hstarts.back h₂ (by simp [hdue.state])
      exact hnot (hcomplete.starts row (mem_of_get h₁) hdue)
    · obtain ⟨h₂, hnot⟩ := hends.back hget (by simp [hdue.state])
      exact hnot (hcomplete.ends row (mem_of_get h₂) hdue)

/-- A tick leaves nothing due if and only if the table is clear. -/
lemma wp_tick (w : World) :
    (tick armLead).wp (World.ticking c course)
      (fun _ w' => Handled c armLead course.loops w'.jobs ↔
        Clear c armLead course (atLoops c w)) w := by
  refine Sure.wp_bind sure_clock (Sure.wp_bind sure_expand (Sure.wp_bind sure_clock ?_))
  refine Sure.wp_bind sure_listJobs ?_
  let w₁ : World := { w with jobs := atLoops c w, now := course.loops }
  refine wp_seq (settles_armDue listed_listJobs _) ?_ ?_
  · -- the first loop went through
    rintro n w₂ ⟨hjobs₂, hok⟩
    have harms := Sweep.passes_of_run hok.symm
    have hjobs₂ : w₂.jobs = afterArming c armLead course (atLoops c w) :=
      hjobs₂.trans (congrArg Prod.fst (Sweep.run_of_passes harms))
    refine Sure.wp_bind sure_listJobs ?_
    refine wp_seq (settles_startDue listed_listJobs _) ?_ ?_
    · -- so did the second
      rintro n w₃ ⟨hjobs₃, hok⟩
      have hstarts := Sweep.passes_of_run hok.symm
      have hjobs₃ : w₃.jobs = afterStarting c course (afterArming c armLead course (atLoops c w)) :=
        hjobs₂ ▸ hjobs₃.trans (congrArg Prod.fst (Sweep.run_of_passes hstarts))
      refine Sure.wp_bind sure_listJobs ?_
      refine wp_seq (wp_finalizeDue listed_listJobs _) ?_ ?_
      · rintro n w₄ ⟨hends, -⟩
        rw [hjobs₃] at hends
        refine Sure.wp_bind sure_listJobs ?_
        have hiff : Handled c armLead course.loops w₄.jobs ↔ Clear c armLead course (atLoops c w) :=
          (handled_iff_complete hends).trans
            (clear_iff_complete harms (hjobs₂ ▸ hstarts)).symm
        exact wp_seq wp_poll (fun _ _ h => h.trans hiff) fun _ _ h => h.trans hiff
      · rintro e w₄ ⟨-, hok⟩
        cases hok
    · rintro e w₃ ⟨hjobs₃, hok⟩
      obtain ⟨pre, j, post, hleaves⟩ := Sweep.leaves_of_run hok.symm
      rw [hleaves.run_eq] at hjobs₃
      rw [hjobs₂] at hleaves hjobs₃
      have hleaves : Sweep.Leaves (startStep course) (afterArming c armLead course (atLoops c w))
          (dueToStart c course.loops (afterArming c armLead course (atLoops c w))) pre j post :=
        hleaves
      have hturn := listed_after (rewrites_startStep course)
        (hleaves.split ▸ listed_dueToStart c course (afterArming c armLead course (atLoops c w)))
      obtain ⟨hget, hstate, -⟩ := hturn.head
      rw [clear_iff_of_start_leaves harms hleaves, hjobs₃]
      exact handled_iff_alone (startStep_stops hget hstate hleaves.stops)
  · rintro e w₂ ⟨hjobs, hok⟩
    obtain ⟨pre, j, post, hleaves⟩ := Sweep.leaves_of_run hok.symm
    rw [hleaves.run_eq] at hjobs
    have hleaves : Sweep.Leaves (armStep c course) (atLoops c w)
        (dueToArm c armLead course.loops (atLoops c w)) pre j post := hleaves
    have hturn := listed_after (rewrites_armStep c course)
      (hleaves.split ▸ listed_dueToArm c armLead course (atLoops c w))
    obtain ⟨hget, -, -⟩ := hturn.head
    have hjobs : w₂.jobs =
        (armStep c course (Sweep.after (armStep c course) (atLoops c w) pre) j).1 := hjobs
    rw [clear_iff_of_arm_leaves hleaves, hjobs]
    exact handled_iff_alone (armStep_stops hget hleaves.stops)

/-- In one tick every job that is due is armed, started, ended, skipped or failed, if and only
if a job whose arm or start fails is the only one due at its turn, and no due job is cut off
a listing. -/
theorem handled_iff {w w' : World} {r : Except Failure TickCounters}
    (hrun : Exec (World.ticking c course) (tick armLead) w r w') :
    Handled c armLead course.loops w'.jobs ↔ Clear c armLead course (atLoops c w) :=
  hrun.post (wp_tick w)

end Tick

/-! ## Two meetings -/

/-- An answer to every call that a tick makes; a pipeline that fails gives `armFailed`. -/
def World.answer (c : Station) (course : Course) (w : World) :
    (o : Op) → Option {x : Except Failure o.Res // w.Ticks c course o x}
  | .clock => some ⟨.ok w.now, rfl⟩
  | .expand now => w.reply c (.expand now)
  | .getJob jobId => w.reply c (.getJob jobId)
  | .listJobs state => w.reply c (.listJobs state)
  | .findOverlapping row => w.reply c (.findOverlapping row)
  | .probeArming jobId => w.reply c (.probeArming jobId)
  | .commitArming row => w.reply c (.commitArming row)
  | .setJobState jobId state u => w.reply c (.setJobState jobId state u)
  | .armCapture jobId =>
    match h : course.armFails jobId with
    | true => some ⟨.error (.fault .armFailed), show false = !course.armFails jobId by rw [h]; rfl⟩
    | false => some ⟨.ok (), show true = !course.armFails jobId by rw [h]; rfl⟩
  | .startCapture jobId =>
    match h : course.startFails jobId with
    | true =>
      some ⟨.error (.fault .launchFailed), show false = !course.startFails jobId by rw [h]; rfl⟩
    | false => some ⟨.ok (), show true = !course.startFails jobId by rw [h]; rfl⟩
  | .takeCapture _ => some ⟨.ok none, trivial⟩
  | .mergeCapture _ => some ⟨.ok (1 : ℕ), trivial⟩
  | .finalizeToAsset _ => some ⟨.ok "asset", trivial⟩
  | .checkDropout _ => some ⟨.ok ⟨false, false⟩, trivial⟩
  | _ => none

namespace TwoMeetings

def station : Station := ⟨"main", 0, .utc, 500, true⟩

def armLead : ℤ := 30000000

/-- A meeting of an hour on a camera, from now on. -/
def meeting (name uri : String) : RecordingJob :=
  .planned (.adhoc name) "main" none 0 3600000000 ⟨.rtsp, "", uri⟩

/-- The capture of the council cannot be armed. -/
def course : Course where
  armFails := fun jobId => jobId = .adhoc "council"
  startFails := fun _ => false
  loops := 0
  turn := fun _ => 0

def world (jobs : Jobs) : World := ⟨[], jobs, fun _ => none, [], 0⟩

/-- The council is still to be armed, and planning to be started. -/
def both : Jobs where
  rows := [meeting "council" "rtsp://one", Jobs.armed (meeting "planning" "rtsp://two")]
  nodup := by decide

/-- Both are planned on one camera: the council is to be started, and planning to be armed. -/
def oneCamera : Jobs where
  rows := [Jobs.armed (meeting "council" "rtsp://one"), meeting "planning" "rtsp://one"]
  nodup := by decide

/-- The capture of the council cannot be started. -/
def unstarted : Course :=
  { course with
    armFails := fun _ => false
    startFails := fun jobId => jobId = .adhoc "council" }

def after (course : Course) (jobs : Jobs) : World :=
  (tick armLead).finish (World.ticking station course) (World.answer station course) (world jobs)

end TwoMeetings

open TwoMeetings in
/-- The start of planning has come, and planning is left arming. -/
theorem armed_meeting_left_behind :
    ∃ r, Exec (World.ticking station course) (tick armLead) (world both) r (after course both) ∧
      ∃ j ∈ (after course both).jobs.rows, DueToStart station course.loops j := by
  obtain ⟨r, hrun⟩ := exec_of_plays (p := tick armLead) (M := World.ticking station course)
    (σ := World.answer station course) (w := world both) (by decide +kernel)
  have hleft : (after course both).jobs.get (.adhoc "planning") =
      some (Jobs.armed (meeting "planning" "rtsp://two")) := by decide +kernel
  refine ⟨r, hrun, Jobs.armed (meeting "planning" "rtsp://two"), mem_of_get hleft, ?_⟩
  constructor
  · rfl
  · rfl
  · decide

open TwoMeetings in
/-- Where planning is skipped before the start of the council fails, nothing is left due. -/
theorem one_camera_clear :
    (after unstarted oneCamera).jobs.rows.map (·.state) = [.failed, .skipped] ∧
      Clear station armLead unstarted (atLoops station (world oneCamera)) := by
  refine ⟨by decide +kernel, ?_⟩
  obtain ⟨r, hrun⟩ := exec_of_plays (p := tick armLead) (M := World.ticking station unstarted)
    (σ := World.answer station unstarted) (w := world oneCamera) (by decide +kernel)
  refine (handled_iff hrun).mp ?_
  have hstates : ∀ j ∈ (after unstarted oneCamera).jobs.rows,
      j.state = .failed ∨ j.state = .skipped := by decide +kernel
  intro j hj
  rcases hstates j hj with hstate | hstate
  · exact not_due_of_state (by simp [hstate])
  · exact not_due_of_state (by simp [hstate])

end CivicCast.Recording
