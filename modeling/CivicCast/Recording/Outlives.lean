import CivicCast.Recording.Captures
import CivicCast.Recording.Delivered
import CivicCast.Recording.Overlap

/-! # No capture outlives its job

`arm_job`, `start_job`, `stop_job`, `finalize_job`, the dropout poll and the cancellation of a
disabled schedule, any number of them at one job in any interleaving, with anything done to
other jobs meanwhile (`JobCall`). A stop can come between the transition to `arming` and the
pipeline's arm: it finds nothing to stop, and a start that has read the job before then launches
a capture for a job that is failed (`capture_outlives_stop`).

`no_capture_outlives` is about the runs that stay clear of that (`Floor.Clear`). A `Floor` is the
world with the process of the job's capture and the places of the calls. Each program keeps to
its places (`JobCall.settles`), and each of its calls is one of the moves that `Accounted` is kept
by (`Floor.moves`).
-/

namespace CivicCast.Recording

open Lib Lib.Prog Option Function

/-! ## Places -/

/-- It neither writes the state of the job `id`, nor arms, starts or stops its capture. -/
def Op.Aside (id : JobId) : Op → Prop
  | setJobState k _ _ => k ≠ id
  | commitArming row => row.jobId ≠ id
  | armCapture k => k ≠ id
  | startCapture k => k ≠ id
  | takeCapture k => k ≠ id
  | stopArming k => k ≠ id
  | _ => True

namespace Place

variable (id : JobId)

def writes (state : JobState) : Place → Bool
  | out => state ∈ [JobState.recording, .finalizing, .failed, .skipped]
  | starting => state = .failed
  | disarmed => state ∈ [JobState.failed, .done]
  | prearmed => state = .skipped
  | _ => false

/-- What a call does with the job `id` in its place. -/
def Allows (place : Place) : Op → Prop
  | .setJobState k state _ => k = id → place.writes state = true
  | .commitArming row => row.jobId = id → place = .out
  | .armCapture k => k = id → place = .arming
  | .startCapture k => k = id → place = .starting
  | .takeCapture k => k = id → place = .out
  | .stopArming k => k = id → place = .out ∨ place = .cancelled
  | _ => True

def wrote (accepted : Bool) : Place → Place
  | starting => .out
  | disarmed => .out
  | prearmed => if accepted then .cancelled else .prearmed
  | place => place

def found (state : JobState) : Place → Place
  | reading => if state = .arming then .starting else .out
  | place => place

def listed (state : JobState) : Place → Place
  | out => if state = .arming then .prearmed else .out
  | place => place

def stopped : Place → Place
  | cancelled => .prearmed
  | _ => .disarmed

def next (place : Place) : (o : Op) → Except Failure o.Res → Place
  | .getJob k, .ok (some row) => if k = id then place.found row.state else place
  | .listJobsOf _ state, _ => place.listed state
  | .setJobState k _ _, reply => if k = id then place.wrote reply.isOk else place
  | .commitArming row, .ok _ => if row.jobId = id then .arming else place
  | .armCapture k, .ok _ => if k = id then .out else place
  | .armCapture k, .error _ => if k = id then .disarmed else place
  | .startCapture k, _ => if k = id then .out else place
  | .takeCapture k, _ => if k = id then .disarmed else place
  | .stopArming k, _ => if k = id then place.stopped else place
  | _, _ => place

/-- The clock always answers, and a probe with the row it was made for. -/
def Relies : (o : Op) → Except Failure o.Res → Prop
  | .clock, .error _ => False
  | .probeArming k, .ok (row : RecordingJob) => row.jobId = k
  | _, _ => True

def contract : Machine recordingIface Place where
  pre := fun place o => place.Allows id o
  legal := fun _ o reply => Relies o reply
  next := fun place o reply => place.next id o reply

/-! ## Programs in their places -/

section Programs

variable {id k : JobId} {place place' : Place} {α β : Type} {p : RecordingM α}
  {f : α → RecordingM β} {u : Jobs.Update} {phase : Phase} {list : List RecordingJob}

/-- However the program ends, it has come from one place to another. -/
abbrev Goes (id : JobId) (p : RecordingM α) (place place' : Place) : Prop :=
  p.wp (contract id) (fun _ p => p = place') place

lemma goes_ask {o : Op} (hallows : place.Allows id o)
    (hnext : ∀ reply, place.next id o reply = place') : Goes id (ask o) place place' :=
  ⟨hallows, fun reply _ => wp_ofExcept.mpr (hnext reply)⟩

lemma goes_bind (hp : Goes id p place place')
    (hf : ∀ a, Goes id (f a) place' place') : Goes id (p >>= f) place place' := by
  refine wp_seq hp ?_ fun _ _ hplace => hplace
  rintro a _ rfl
  exact hf a

/-- The first part raises nothing, or what it raises is caught. -/
lemma goes_attempt {f : Except Failure α → RecordingM β} {m : Place} (hp : Goes id p place m)
    (hf : ∀ r, Goes id (f r) m place') : Goes id (p.attempt >>= f) place place' := by
  refine wp_attempt_seq (wp_mono ?_ hp)
  rintro r _ rfl
  exact hf r

lemma goes_clock {f : ℤ → RecordingM α} (hf : ∀ now, Goes id (f now) place place') :
    Goes id (ask .clock >>= f) place place' := by
  refine ⟨trivial, ?_⟩
  rintro (failure | now) hrelies
  · exact hrelies.elim
  · exact hf now

/-- However the program ends, it leaves no capture for itself to stop. -/
abbrev Settles (id : JobId) (p : RecordingM α) (place : Place) : Prop :=
  p.wp (contract id) (fun _ place => place ≠ .cancelled) place

lemma Goes.settles (hp : Goes id p place place') (hne : place' ≠ .cancelled) :
    Settles id p place := by
  refine wp_mono ?_ hp
  rintro _ _ rfl
  exact hne

lemma settles_bind {m : Place} (hp : Goes id p place m)
    (hm : m ≠ .cancelled) (hf : ∀ a, Settles id (f a) m) : Settles id (p >>= f) place := by
  refine wp_seq hp ?_ ?_
  · rintro a _ rfl
    exact hf a
  · rintro e _ rfl
    exact hm

lemma settles_discard (hp : Settles id p place) : Settles id (discard p) place :=
  wp_attempt_seq hp

variable (hwrites : place.writes .failed = true)
include hwrites

lemma wrote_failed {accepted : Bool} : place.wrote accepted = .out := by
  cases place <;> first | rfl | cases hwrites

lemma goes_setFailed : Goes id (ask (.setJobState id .failed u)) place .out := by
  refine goes_ask (fun _ => hwrites) ?_
  intro reply
  exact (if_pos rfl).trans (wrote_failed hwrites)

omit hwrites

lemma goes_requireJob (hplace : place ≠ .reading) : Goes id (requireJob k) place place := by
  refine goes_bind (goes_ask trivial ?_) ?_
  · rintro (failure | _ | row)
    · rfl
    · rfl
    · show (if k = id then place.found row.state else place) = place
      have hfound : place.found row.state = place := by
        cases place <;> first | rfl | exact absurd rfl hplace
      rw [hfound, ite_self]
  · rintro (_ | row)
    · rfl
    · rfl

include hwrites

lemma goes_writeFailure : Goes id (writeFailure id phase) place .out :=
  goes_clock fun _ => goes_bind (goes_setFailed hwrites) fun _ => rfl

lemma goes_failJob : Goes id (failJob id phase) place .out :=
  goes_bind (goes_writeFailure hwrites) fun _ => rfl

omit hwrites

lemma goes_skipOverlapping (job : RecordingJob) : Goes id (skipOverlapping id job) .out .out := by
  refine goes_bind (goes_ask trivial fun _ => rfl) fun overlaps => goes_clock fun now => ?_
  exact goes_ask (fun _ => rfl) fun _ => if_pos rfl

lemma wp_transitionToArming :
    (transitionToArming id).wp (contract id)
      (fun r place => match r with
        | .ok _ => place = .arming
        | .error _ => place = .out) .out := by
  refine ⟨trivial, ?_⟩
  rintro (failure | row) hrow
  · rfl
  · have hrow : row.jobId = id := hrow
    refine ⟨fun _ => rfl, ?_⟩
    rintro (failure | _) _
    · rfl
    · exact if_pos hrow

lemma goes_armJob : Goes id (armJob id) .out .out := by
  refine goes_bind (goes_requireJob (by decide)) fun job => wp_ite (fun _ => rfl) fun _ => ?_
  refine wp_attempt_seq (wp_mono ?_ wp_transitionToArming)
  rintro (failure | _) place hplace
  · obtain rfl : place = .out := hplace
    cases failure with
    | store error =>
      cases error with
      | jobOverlap => exact goes_skipOverlapping job
      | _ => rfl
    | _ => rfl
  · obtain rfl : place = .arming := hplace
    refine wp_attempt_seq ⟨fun _ => rfl, ?_⟩
    rintro (failure | _) _
    · show Goes id (failJob id .arm) (if id = id then .disarmed else .arming) .out
      rw [if_pos rfl]
      exact goes_failJob rfl
    · show Goes id (requireJob id) (if id = id then .out else .arming) .out
      rw [if_pos rfl]
      exact goes_requireJob (by decide)

/-- A start is out once it has read the job in another state. -/
lemma wp_requireJob_reading :
    (requireJob id).wp (contract id)
      (fun r place => match r with
        | .ok job => place = if job.state = .arming then .starting else .out
        | .error _ => place ≠ .cancelled) .reading := by
  refine ⟨trivial, ?_⟩
  rintro (failure | _ | row) _
  · exact nofun
  · exact nofun
  · show (if id = id then found row.state .reading else .reading) = _
    rw [if_pos rfl]
    rfl

lemma settles_startJob : Settles id (startJob id) .reading := by
  refine wp_seq wp_requireJob_reading ?_ fun _ _ hplace => hplace
  intro job place hplace
  refine wp_ite (fun hstate => ?_) fun hstate => ?_
  · rw [show place = .out from hplace.trans (if_neg hstate)]
    exact nofun
  · obtain rfl : place = .starting := hplace.trans (if_pos (not_not.mp hstate))
    refine Goes.settles ?_ (by decide : Place.out ≠ .cancelled)
    refine goes_clock fun now => wp_ite (fun _ => goes_failJob rfl) fun _ => ?_
    refine goes_attempt (goes_ask (fun _ => rfl) fun _ => if_pos rfl) ?_
    rintro (failure | _)
    · exact goes_failJob rfl
    · exact goes_ask (fun _ => rfl) fun _ => if_pos rfl

lemma goes_deliver : Goes id (deliver id) .out .disarmed := by
  refine goes_bind (goes_bind (goes_ask (fun _ => rfl) fun _ => if_pos rfl) fun endedAt => ?_) ?_
  · exact goes_bind (goes_ask trivial fun _ => rfl) fun _ => rfl
  · intro result
    exact goes_bind (goes_ask trivial fun _ => rfl) fun _ => rfl

lemma goes_complete {result : CaptureResult} {assetId : String} :
    Goes id (complete id result assetId) .disarmed .out :=
  goes_clock fun _ => goes_ask (fun _ => rfl) fun _ => if_pos rfl

lemma goes_finalizeJob : Goes id (finalizeJob id) .out .out := by
  refine goes_bind (goes_requireJob (by decide)) fun job => wp_ite (fun _ => rfl) fun _ => ?_
  refine goes_bind (goes_ask (fun _ => rfl) fun _ => if_pos rfl) fun row => ?_
  refine goes_attempt goes_deliver ?_
  rintro (failure | ⟨result, assetId⟩)
  · exact goes_failJob rfl
  · exact goes_complete

lemma goes_stopFinalizing : Goes id (stopFinalizing id) .out .out := by
  refine goes_attempt goes_deliver ?_
  rintro (failure | ⟨result, assetId⟩)
  · exact goes_bind (goes_writeFailure rfl) fun _ => goes_requireJob (by decide)
  · refine wp_ite (fun _ => ?_) fun _ => goes_complete
    exact goes_clock fun now => goes_setFailed rfl

lemma goes_stopPrearmed : Goes id (stopPrearmed id) .out .out := by
  refine goes_attempt (goes_ask (fun _ => .inl rfl) fun _ => if_pos rfl) ?_
  rintro (failure | _)
  · exact goes_failJob rfl
  · exact goes_clock fun now => goes_setFailed rfl

lemma goes_stopJob : Goes id (stopJob id) .out .out := by
  refine goes_bind (goes_requireJob (by decide)) fun job => ?_
  refine wp_ite (fun _ => wp_ite (fun _ => goes_stopPrearmed) fun _ => ?_) fun _ => rfl
  refine wp_ite (fun _ => ?_) fun _ => goes_stopFinalizing
  exact goes_bind (goes_ask (fun _ => rfl) fun _ => if_pos rfl) fun _ => goes_stopFinalizing

lemma goes_cancelPending : ∀ n, Goes id (cancelJobs false list n) .out .out := by
  induction list with
  | nil => exact fun _ => rfl
  | cons job rest ih =>
    intro n
    refine goes_clock fun now => goes_attempt (m := .out) (goes_ask (fun _ => rfl) ?_) ?_
    · exact fun _ => ite_self _
    · rintro (failure | row)
      · cases failure with
        | store error =>
          cases error with
          | jobState => exact ih n
          | _ => rfl
        | _ => rfl
      · exact ih _

lemma wp_skip :
    (ask (.setJobState k .skipped u)).wp (contract id)
      (fun r place => match r with
        | .ok _ => place = if k = id then .cancelled else .prearmed
        | .error _ => place = .prearmed) .prearmed := by
  refine ⟨fun _ => rfl, ?_⟩
  rintro (failure | row) _
  · exact ite_self _
  · rfl

lemma goes_stopArming :
    Goes id (ask (.stopArming k)) (if k = id then .cancelled else .prearmed) .prearmed := by
  by_cases hk : k = id
  · rw [if_pos hk]
    exact goes_ask (fun _ => .inr rfl) fun _ => if_pos hk
  · rw [if_neg hk]
    exact goes_ask (fun hid => absurd hid hk) fun _ => if_neg hk

lemma goes_cancelPrearmed : ∀ n, Goes id (cancelJobs true list n) .prearmed .prearmed := by
  induction list with
  | nil => exact fun _ => rfl
  | cons job rest ih =>
    intro n
    refine goes_clock fun now => wp_attempt_seq ?_
    refine wp_mono ?_ wp_skip
    rintro (failure | row) place hplace
    · obtain rfl : place = .prearmed := hplace
      cases failure with
      | store error =>
        cases error with
        | jobState => exact ih n
        | _ => rfl
      | _ => rfl
    · obtain rfl : place = if job.jobId = id then .cancelled else .prearmed := hplace
      exact goes_attempt goes_stopArming fun _ => ih _

lemma settles_cancelScheduledJobs {scheduleId : String} :
    Settles id (cancelScheduledJobsForSchedule scheduleId) .out := by
  refine settles_bind (goes_ask trivial fun _ => rfl) (by decide) ?_
  rintro (_ | schedule)
  · exact nofun
  · refine settles_bind (goes_ask trivial fun _ => rfl) (by decide) fun pending => ?_
    refine settles_bind (goes_cancelPending 0) (by decide) fun cancelled => ?_
    refine settles_bind (goes_ask trivial fun _ => rfl) (by decide) fun list => ?_
    exact (goes_cancelPrearmed cancelled).settles (by decide)

lemma next_aside {o : Op} (ho : o.Aside id) (reply : Except Failure o.Res)
    (hplace : place = .out ∨ place = .prearmed) :
    place.next id o reply = .out ∨ place.next id o reply = .prearmed := by
  have hsame : place.next id o reply = place →
      place.next id o reply = .out ∨ place.next id o reply = .prearmed := by
    intro hnext
    rw [hnext]
    exact hplace
  cases o with
  | getJob k =>
    -- from outside of the job, no state that is read moves the call
    rcases reply with failure | _ | row
    · exact hplace
    · exact hplace
    · have hfound : place.found row.state = place := by
        rcases hplace with rfl | rfl <;> rfl
      refine hsame ?_
      show (if k = id then place.found row.state else place) = place
      rw [hfound, ite_self]
  | listJobsOf scheduleId state =>
    show place.listed state = .out ∨ place.listed state = .prearmed
    rcases hplace with rfl | rfl
    · cases state <;> simp [listed]
    · exact .inr rfl
  | setJobState k state u => exact hsame (if_neg ho)
  | commitArming row =>
    cases reply with
    | ok _ => exact hsame (if_neg ho)
    | error failure => exact hplace
  | armCapture k =>
    cases reply with
    | ok _ | error failure => exact hsame (if_neg ho)
  | startCapture k | takeCapture k | stopArming k => exact hsame (if_neg ho)
  | _ => exact hplace

lemma settles_aside (hp : p.Uses (Op.Aside id) fun _ => True) : Settles id p .out := by
  have hkeeps : p.Keeps (contract id) (fun place => place = .out ∨ place = .prearmed)
      fun _ => True := by
    refine hp.keeps (fun place o ho _ => ?_) fun place o reply ho hplace _ => ?_
    · cases o <;> first | trivial | exact fun hk => absurd hk ho
    · exact next_aside ho reply hplace
  refine wp_mono ?_ (keeps_iff.mp hkeeps .out (.inl rfl))
  rintro _ _ (rfl | rfl) hplace
  · cases hplace
  · cases hplace

lemma uses_poll : ∀ n, (pollActiveRecordings list n).Uses (Op.Aside id) fun _ => True := by
  have hask : ∀ o : Op, o.Aside id → (ask o).Uses (Op.Aside id) fun _ => True := by
    intro o ho
    refine ⟨ho, ?_⟩
    rintro (failure | a)
    · exact uses_raise trivial
    · exact uses_pure
  induction list with
  | nil => exact fun n => uses_pure
  | cons job rest ih =>
    intro n
    refine uses_bind (uses_attempt (hask (.checkDropout job.jobId) trivial)) ?_
    rintro (failure | result)
    · exact ih n
    · refine uses_ite ?_ (ih n)
      exact uses_bind (hask (.recordDropout job.jobId) trivial) fun _ => ih _

end Programs

end Place

/-! ## Calls -/

/-- The calls at one job, and what is done aside from it. -/
inductive JobCall (id : JobId) where
  | arm
  | start
  | stop
  | finalize
  /-- The schedule is disabled. -/
  | cancel (scheduleId : String)
  /-- The poll of a tick, with the jobs that it has listed. -/
  | poll (listed : List RecordingJob)
  | aside (p : RecordingM Unit) (hp : p.Uses (Op.Aside id) fun _ => True)

namespace JobCall

variable {id : JobId}

def code : JobCall id → RecordingM Unit
  | arm => discard (armJob id)
  | start => discard (startJob id)
  | stop => discard (stopJob id)
  | finalize => discard (finalizeJob id)
  | cancel scheduleId => discard (cancelScheduledJobsForSchedule scheduleId)
  | poll listed => discard (pollActiveRecordings listed 0)
  | aside p _ => p

def place : JobCall id → Place
  | start => .reading
  | _ => .out

lemma settles : (request : JobCall id) → Place.Settles id request.code request.place
  | arm => Place.settles_discard (Place.goes_armJob.settles (by decide))
  | start => Place.settles_discard Place.settles_startJob
  | stop => Place.settles_discard (Place.goes_stopJob.settles (by decide))
  | finalize => Place.settles_discard (Place.goes_finalizeJob.settles (by decide))
  | cancel scheduleId => Place.settles_discard Place.settles_cancelScheduledJobs
  | poll listed => Place.settles_discard (Place.settles_aside (Place.uses_poll 0))
  | aside _ hp => Place.settles_aside hp

end JobCall

/-! ## The floor -/

/-- The world, the process of the job's capture, and how far the calls have come. -/
structure Floor (T : Type) where
  world : World
  running : Bool
  places : T → Place

namespace Floor

variable {T : Type} (id : JobId) (f : Floor T)

def hold : Hold where
  state := ((f.world.jobs.get id).map (·.state)).getD .scheduled
  capture := f.world.active id
  running := f.running

/-- What the pipeline answers by the process: a start returns for a process that runs, or a new
one; only one that was started has exited, and is relaunched. -/
def Answers : (o : Op) → Except Failure o.Res → Prop
  | .startCapture k, .ok _ => k = id → f.world.active k = some true → f.running = true
  | .startCapture k, .error (.fault fault) =>
    k = id → (fault = .exited ↔ f.world.active k = some true)
  | .checkDropout k, .ok (r : DropoutCheckResult) =>
    k = id → r.dropoutDetected = true → f.world.active k = some true
  | _, _ => True

/-- The process after a call. A termination that fails leaves it as it is. -/
def runs : (o : Op) → Except Failure o.Res → Bool
  | .startCapture k, .ok _ => if k = id then true else f.running
  | .startCapture k, .error (.fault .exited) => if k = id then false else f.running
  | .takeCapture k, .ok _ => if k = id then false else f.running
  | .stopArming k, .ok _ => if k = id then false else f.running
  | .checkDropout k, .ok (r : DropoutCheckResult) =>
    if k = id ∧ r.dropoutDetected = true then r.reconnected else f.running
  | _, _ => f.running

/-- The run stays clear of what leaves a capture behind: a transition to `arming` of a job that
is no longer scheduled, a capture that is armed behind a stop, an end that is written over a
capture that is or can be started, and a process that cannot be terminated. -/
def Clear (f : Floor T) (t : T) : (o : Op) → Except Failure o.Res → Prop
  | .commitArming row, .ok _ => row.jobId = id → (f.hold id).state = .scheduled
  | .armCapture k, .ok _ => k = id → Armable f.places (f.hold id)
  | .setJobState k state _, .ok _ => k = id → state.isOver = true →
      f.places t = .out ∨ f.places t = .starting → (f.hold id).state.isOver = false →
        Unlaunched f.places t (f.hold id)
  | .takeCapture k, .error failure => k = id → failure ≠ .fault .terminateFailed
  | .stopArming k, .error _ => k ≠ id
  | _, _ => True

variable [DecidableEq T] (c : Station) (cond : Floor T → T → (o : Op) → Except Failure o.Res → Prop)

/-- The calls of one thread, in runs of which every step meets a condition. -/
def machine (t : T) : Machine recordingIface (Floor T) where
  pre := fun _ _ => True
  legal := fun f o reply => f.world.Replies c o reply ∧ f.Answers id o reply ∧ cond f t o reply
  next := fun f o reply =>
    { world := f.world.next c o reply
      running := f.runs id o reply
      places := update f.places t ((f.places t).next id o reply) }

end Floor

/-! ## Calls are moves -/

section Moves

variable {T : Type} {id k : JobId} {f : Floor T} {t : T} {row : RecordingJob} {c : Station}

lemma Floor.state_hold (hrow : f.world.jobs.get id = some row) : (f.hold id).state = row.state := by
  show ((f.world.jobs.get id).map (·.state)).getD .scheduled = row.state
  rw [hrow]
  rfl

lemma JobState.open_of_allowed {s state : JobState} (hs : s = .recording ∨ s = .finalizing)
    (hallowed : s ∈ state.allowed ∨ s = state) : state.isOver = false := by
  rcases hs with rfl | rfl <;> cases state <;> first | rfl | simp [JobState.allowed] at hallowed

lemma World.state_next {w : World} {o : Op} {reply : Except Failure o.Res}
    (hrow : w.jobs.get id = some row) (hset : ∀ state u, o ≠ .setJobState id state u)
    (hcommit : ∀ row₀, o = .commitArming row₀ → row₀.jobId ≠ id) :
    ((w.next c o reply).jobs.get id).map (·.state) = (w.jobs.get id).map (·.state) := by
  cases o with
  | commitArming row₀ =>
    have hjobs : (w.next c (.commitArming row₀) reply).jobs.get id = w.jobs.get id := by
      show (w.wrote (w.jobs.commitArming c.indexed row₀)).jobs.get id = w.jobs.get id
      cases hok : w.jobs.commitArming c.indexed row₀ with
      | error error => rfl
      | ok jobs =>
        rw [Jobs.commitArming_ok hok]
        exact Table.get_modify_of_ne (f := Jobs.armed) (fun _ => rfl) (hcommit row₀ rfl).symm
    rw [hjobs]
  | _ =>
    -- only a write of a state and a commit change a state
    have hstays : ∃ row', (w.next c _ reply).jobs.get id = some row' ∧ SameJob row' row :=
      World.next_stays hrow
    obtain ⟨row', hrow', -⟩ := hstays
    rw [hrow', hrow]
    rcases World.row_cases hrow' with ⟨row₁, hrow₁, -, hstate⟩ | ⟨hnone, -⟩
    · rw [hrow] at hrow₁
      cases hrow₁
      rcases hstate with hsame | ⟨u, ho, -⟩ | ⟨row₀, ho, -⟩
      · exact congrArg some hsame
      · exact absurd ho (hset _ u)
      · cases ho
    · rw [hrow] at hnone
      cases hnone

/-- The captures as a call leaves them that does not arm, start or stop that of the job. -/
lemma World.active_next {w : World} {o : Op} {reply : Except Failure o.Res} (ho : o.Aside id) :
    (w.next c o reply).active id = w.active id := by
  rcases World.active_cases c w o reply id with hsame | rfl | rfl | rfl | ⟨rfl, -⟩
  · exact hsame
  all_goals exact absurd rfl ho

lemma Floor.runs_aside {o : Op} {reply : Except Failure o.Res} (ho : o.Aside id)
    (hdropout : ∀ k, o ≠ .checkDropout k) : f.runs id o reply = f.running := by
  cases o with
  | startCapture k =>
    rcases reply with failure | _
    · cases failure with
      | fault fault => cases fault <;> first | rfl | exact if_neg ho
      | _ => rfl
    · exact if_neg ho
  | takeCapture k | stopArming k => cases reply <;> first | rfl | exact if_neg ho
  | checkDropout k => exact absurd rfl (hdropout k)
  | _ => rfl

variable [DecidableEq T] {o : Op} {reply : Except Failure o.Res}

/-- What a step of a call comes to: its place, and the hold it leaves. -/
abbrev Floor.Moves (f : Floor T) (id : JobId) (c : Station) (t : T) (o : Op)
    (reply : Except Failure o.Res) : Prop :=
  Move f.places t (f.hold id) ((f.places t).next id o reply)
    (((Floor.machine id c (Floor.Clear id) t).next f o reply).hold id)

namespace Floor

variable (hrow : f.world.jobs.get id = some row)
include hrow

lemma hold_aside (ho : o.Aside id) (hdropout : ∀ k, o ≠ .checkDropout k) :
    ((machine id c (Clear id) t).next f o reply).hold id = f.hold id := by
  have hstate : ((f.world.next c o reply).jobs.get id).map (·.state) =
      (f.world.jobs.get id).map (·.state) := by
    refine World.state_next hrow ?_ ?_
    · rintro state u rfl
      exact ho rfl
    · rintro row₀ rfl
      exact ho
  have hactive : (f.world.next c o reply).active id = f.world.active id := World.active_next ho
  have hruns : f.runs id o reply = f.running := runs_aside ho hdropout
  show Hold.mk (((f.world.next c o reply).jobs.get id).map _ |>.getD _) _ (f.runs id o reply) = _
  rw [hstate, hruns]
  exact congrArg (fun capture => Hold.mk _ capture _) hactive

lemma moves_aside (ho : o.Aside id) (hdropout : ∀ k, o ≠ .checkDropout k)
    (hnext : (f.places t).next id o reply = f.places t) : f.Moves id c t o reply := by
  unfold Moves
  rw [hold_aside hrow ho hdropout, hnext]
  exact .still

lemma moves_getJob {reply : Except Failure (Op.getJob k).Res}
    (hreplies : f.world.Replies c (.getJob k) reply) : f.Moves id c t (.getJob k) reply := by
  unfold Moves
  rw [hold_aside (o := .getJob k) hrow trivial (by intro k h; cases h)]
  rcases reply with failure | _ | found
  · exact .still
  · exact .still
  · show Move _ _ _ (if k = id then (f.places t).found found.state else f.places t) _
    by_cases hk : k = id
    · subst hk
      have hfound : some found = f.world.jobs.get k := hreplies
      rw [hrow] at hfound
      cases hfound
      rw [if_pos rfl]
      cases hplace : f.places t with
      | reading =>
        by_cases hstate : row.state = .arming
        · rw [show Place.reading.found row.state = .starting from if_pos hstate]
          exact .read hplace ((state_hold hrow).trans hstate)
        · rw [show Place.reading.found row.state = .out from if_neg hstate]
          exact .leave (.inl hplace)
      | _ => exact .of_still hplace.symm
    · rw [if_neg hk]
      exact .still

variable {state : JobState} {u : Jobs.Update}

lemma moves_listJobsOf {scheduleId : String}
    {reply : Except Failure (Op.listJobsOf scheduleId state).Res} :
    f.Moves id c t (.listJobsOf scheduleId state) reply := by
  unfold Moves
  rw [hold_aside (o := .listJobsOf scheduleId state) hrow trivial (by intro k h; cases h)]
  show Move _ _ _ ((f.places t).listed state) _
  cases hplace : f.places t with
  | out =>
    by_cases hstate : state = .arming
    · rw [show Place.out.listed state = .prearmed from if_pos hstate]
      exact .list hplace
    · rw [show Place.out.listed state = .out from if_neg hstate]
      exact .of_still hplace.symm
  | _ => exact .of_still hplace.symm

omit hrow

lemma moves_refused {failure : Failure}
    {error : StoreError} (hset : f.world.jobs.setJobState id state u = .error error) :
    f.Moves id c t (.setJobState id state u) (.error failure) := by
  have hhold : ((machine id c (Clear id) t).next f (.setJobState id state u)
      (.error failure)).hold id = f.hold id := by
    show hold id (Floor.mk (f.world.wrote (f.world.jobs.setJobState id state u)) _ _) = _
    rw [hset]
    rfl
  unfold Moves
  rw [hhold]
  show Move _ _ _ (if id = id then (f.places t).wrote false else _) _
  rw [if_pos rfl]
  cases hplace : f.places t with
  | starting => exact .leave (.inr (.inl hplace))
  | disarmed => exact .leave (.inr (.inr hplace))
  | _ => exact .of_still hplace.symm

lemma moves_written {written : RecordingJob} {jobs : Jobs}
    (hrow : f.world.jobs.get id = some row) (hwrites : (f.places t).writes state = true)
    (hset : f.world.jobs.setJobState id state u = .ok jobs)
    (hclear : Clear id f t (.setJobState id state u) (.ok written)) :
    f.Moves id c t (.setJobState id state u) (.ok written) := by
  obtain ⟨hget, hallowed⟩ := Jobs.get_setJobState hrow hset
  have hhold : ((machine id c (Clear id) t).next f (.setJobState id state u)
      (.ok written)).hold id = { f.hold id with state := state } := by
    show hold id (Floor.mk (f.world.wrote (f.world.jobs.setJobState id state u)) _ _) = _
    rw [hset]
    show Hold.mk ((jobs.get id).map _ |>.getD _) _ _ = _
    rw [hget]
    rfl
  unfold Moves
  rw [hhold]
  show Move _ _ _ (if id = id then (f.places t).wrote true else _) _
  rw [if_pos rfl]
  have hstate := state_hold hrow
  cases hplace : f.places t with
  | out =>
    rw [hplace] at hwrites
    -- the job goes on, or is over by this write
    by_cases hgoes : state = .recording ∨ state = .finalizing
    · refine .advance hplace hgoes ?_
      rw [hstate]
      exact JobState.open_of_allowed hgoes hallowed
    · have hover : state.isOver = true := by
        cases state <;> first | rfl | simp_all [Place.writes]
      exact .quit (.inl hplace) hover (hclear rfl hover (.inl hplace))
  | starting =>
    rw [hplace] at hwrites
    have hover : state.isOver = true := by
      cases state <;> first | rfl | simp_all [Place.writes]
    exact .quit (.inr hplace) hover (hclear rfl hover (.inr hplace))
  | disarmed =>
    rw [hplace] at hwrites
    refine .close hplace ?_
    cases state <;> first | rfl | simp_all [Place.writes]
  | prearmed =>
    rw [hplace] at hwrites
    obtain rfl : state = .skipped := by simpa [Place.writes] using hwrites
    exact .skip hplace
  | _ =>
    rw [hplace] at hwrites
    cases hwrites

lemma moves_setJobState {reply : Except Failure (Op.setJobState k state u).Res}
    (hrow : f.world.jobs.get id = some row)
    (hallows : (f.places t).Allows id (.setJobState k state u))
    (hreplies : f.world.Replies c (.setJobState k state u) reply)
    (hclear : Clear id f t (.setJobState k state u) reply) :
    f.Moves id c t (.setJobState k state u) reply := by
  by_cases hk : k = id
  · subst hk
    rcases reply with failure | written
    · obtain ⟨error, hset, -⟩ := hreplies
      exact moves_refused hset
    · obtain ⟨jobs, hset, -⟩ := hreplies
      exact moves_written hrow (hallows rfl) hset hclear
  · exact moves_aside hrow hk (by intro k h; cases h) (if_neg hk)

lemma moves_commitArming {row₀ : RecordingJob} {reply : Except Failure (Op.commitArming row₀).Res}
    (hrow : f.world.jobs.get id = some row) (hallows : (f.places t).Allows id (.commitArming row₀))
    (hreplies : f.world.Replies c (.commitArming row₀) reply)
    (hclear : Clear id f t (.commitArming row₀) reply) :
    f.Moves id c t (.commitArming row₀) reply := by
  by_cases hk : row₀.jobId = id
  · subst hk
    -- a guard that refuses leaves the row alone
    rcases reply with failure | _
    · obtain ⟨error, hcommit, -⟩ := hreplies
      refine Move.still.of_eq rfl ?_
      show hold _ (Floor.mk (f.world.wrote (f.world.jobs.commitArming c.indexed row₀)) _ _) = _
      rw [hcommit]
      rfl
    · obtain ⟨jobs, hcommit⟩ := hreplies
      have hget : jobs.get row₀.jobId = some (Jobs.armed row) := by
        have hself := Table.get_modify_self (t := f.world.jobs) (k := row₀.jobId) (f := Jobs.armed)
          fun _ => rfl
        rw [hrow] at hself
        rw [Jobs.commitArming_ok hcommit]
        exact hself
      refine (Move.commit (hallows rfl) (hclear rfl)).of_eq (if_pos rfl) ?_
      show hold _ (Floor.mk (f.world.wrote (f.world.jobs.commitArming c.indexed row₀)) _ _) = _
      rw [hcommit]
      show Hold.mk ((jobs.get row₀.jobId).map _ |>.getD _) _ _ = _
      rw [hget]
      rfl
  · refine moves_aside hrow hk (by intro k h; cases h) ?_
    cases reply with
    | ok _ => exact if_neg hk
    | error failure => rfl

lemma hold_pipeline (ho : o.isWrite = false) {capture : Option Bool} {running : Bool}
    (hactive : (f.world.next c o reply).active id = capture) (hruns : f.runs id o reply = running) :
    ((machine id c (Clear id) t).next f o reply).hold id =
      ⟨(f.hold id).state, capture, running⟩ := by
  show Hold.mk (((f.world.next c o reply).jobs.get id).map _ |>.getD _)
    ((f.world.next c o reply).active id) (f.runs id o reply) = _
  rw [World.next_jobs ho, hactive, hruns]
  rfl

include hrow

lemma moves_armCapture {reply : Except Failure (Op.armCapture k).Res}
    (hallows : (f.places t).Allows id (.armCapture k))
    (hreplies : f.world.Replies c (.armCapture k) reply)
    (hclear : Clear id f t (.armCapture k) reply) : f.Moves id c t (.armCapture k) reply := by
  by_cases hk : k = id
  swap
  · refine moves_aside hrow hk (by intro k h; cases h) ?_
    cases reply with
    | ok _ | error failure => exact if_neg hk
  subst hk
  have hplace := hallows rfl
  rcases reply with failure | _
  · exact (Move.armRaised hplace hreplies.1).of_eq (if_pos rfl) (hold_pipeline rfl rfl rfl)
  · refine (Move.arm hplace (hclear rfl)).of_eq (if_pos rfl) (hold_pipeline rfl ?_ rfl)
    show (if (f.world.active k).isSome then f.world else f.world.setCapture k false).active k =
      some ((f.world.active k).getD false)
    cases hcapture : f.world.active k with
    | none => exact if_pos rfl
    | some started => exact hcapture

/-- A start: the process that was there goes on or has exited, or one is launched. -/
lemma moves_startCapture {reply : Except Failure (Op.startCapture k).Res}
    (hallows : (f.places t).Allows id (.startCapture k))
    (hreplies : f.world.Replies c (.startCapture k) reply)
    (hanswers : f.Answers id (.startCapture k) reply) : f.Moves id c t (.startCapture k) reply := by
  by_cases hk : k = id
  swap
  · exact moves_aside hrow hk (by intro k h; cases h) (if_neg hk)
  subst hk
  have hplace := hallows rfl
  have hleave := Move.leave (h := f.hold k) (t := t) (.inr (.inl hplace))
  rcases reply with failure | _
  · cases failure with
    | fault fault =>
      have hexited := hanswers rfl
      rcases hreplies with ⟨hnone, rfl⟩ | ⟨hsome, hfault⟩
      · exact hleave.of_eq (if_pos rfl) (hold_pipeline rfl rfl rfl)
      · simp only [List.mem_cons, List.not_mem_nil, or_false] at hfault
        rcases hfault with rfl | rfl | rfl
        · exact (Move.exited hplace (hexited.mp rfl)).of_eq (if_pos rfl)
            (hold_pipeline rfl rfl (if_pos rfl))
        · exact hleave.of_eq (if_pos rfl) (hold_pipeline rfl rfl rfl)
        · -- nothing was launched before
          have hcapture : f.world.active k = some false := by
            obtain ⟨started, hstarted⟩ := isSome_iff_exists.mp hsome
            cases started with
            | false => exact hstarted
            | true => exact nomatch hexited.mpr hstarted
          exact (Move.launchFailed hplace hcapture).of_eq (if_pos rfl)
            (hold_pipeline rfl (if_pos rfl) rfl)
    | _ => exact hreplies.elim
  · have hcapture : (f.hold k).capture.isSome = true := hreplies
    exact (Move.launch hplace hcapture).of_eq (if_pos rfl)
      (hold_pipeline rfl (if_pos rfl) (if_pos rfl))

/-- A stop takes the capture out, or finds none that was started. -/
lemma moves_takeCapture {reply : Except Failure (Op.takeCapture k).Res}
    (hallows : (f.places t).Allows id (.takeCapture k))
    (hreplies : f.world.Replies c (.takeCapture k) reply)
    (hclear : Clear id f t (.takeCapture k) reply) : f.Moves id c t (.takeCapture k) reply := by
  by_cases hk : k = id
  swap
  · exact moves_aside hrow hk (by intro k h; cases h) (if_neg hk)
  subst hk
  have hplace := hallows rfl
  rcases reply with failure | endedAt
  · -- a take that fails has found no capture
    have hcapture : f.world.active k ≠ some true := by
      intro hcapture
      cases failure with
      | fault fault =>
        rcases hreplies with ⟨hactive, -⟩ | ⟨hactive, -⟩ | ⟨-, rfl⟩
        · rw [hcapture] at hactive
          cases hactive
        · rw [hcapture] at hactive
          cases hactive
        · exact hclear rfl rfl
      | _ => exact hreplies
    exact (Move.miss hplace hcapture).of_eq (if_pos rfl) (hold_pipeline rfl (if_pos rfl) rfl)
  · exact (Move.take hplace).of_eq (if_pos rfl) (hold_pipeline rfl (if_pos rfl) (if_pos rfl))

lemma moves_stopArming {reply : Except Failure (Op.stopArming k).Res}
    (hallows : (f.places t).Allows id (.stopArming k))
    (hclear : Clear id f t (.stopArming k) reply) : f.Moves id c t (.stopArming k) reply := by
  by_cases hk : k = id
  swap
  · exact moves_aside hrow hk (by intro k h; cases h) (if_neg hk)
  subst hk
  rcases reply with failure | _
  · exact absurd rfl hclear
  have hhold : ((machine k c (Clear k) t).next f (.stopArming k) (.ok ())).hold k =
      ⟨(f.hold k).state, none, false⟩ := hold_pipeline rfl (if_pos rfl) (if_pos rfl)
  have hnext : (f.places t).next k (.stopArming k) (.ok ()) = (f.places t).stopped := if_pos rfl
  rcases hallows rfl with hplace | hplace
  · exact (Move.take hplace).of_eq (hnext.trans (congrArg Place.stopped hplace)) hhold
  · exact (Move.stop hplace).of_eq (hnext.trans (congrArg Place.stopped hplace)) hhold

omit hrow

lemma moves_checkDropout {reply : Except Failure (Op.checkDropout k).Res}
    (hanswers : f.Answers id (.checkDropout k) reply) : f.Moves id c t (.checkDropout k) reply := by
  rcases reply with failure | result
  · exact Move.still.of_eq rfl (hold_pipeline rfl rfl rfl)
  · by_cases hdetected : k = id ∧ result.dropoutDetected = true
    · have hcapture := hanswers hdetected.1 hdetected.2
      rw [hdetected.1] at hcapture
      exact (Move.dropout result.reconnected hcapture).of_eq rfl
        (hold_pipeline rfl rfl (if_pos hdetected))
    · exact Move.still.of_eq rfl (hold_pipeline rfl rfl (if_neg hdetected))

lemma moves (hrow : f.world.jobs.get id = some row) (hallows : (f.places t).Allows id o)
    (hlegal : (machine id c (Clear id) t).legal f o reply) : f.Moves id c t o reply := by
  obtain ⟨hreplies, hanswers, hclear⟩ := hlegal
  cases o with
  | getJob k => exact moves_getJob hrow hreplies
  | listJobsOf scheduleId state => exact moves_listJobsOf hrow
  | setJobState k state u => exact moves_setJobState hrow hallows hreplies hclear
  | commitArming row₀ => exact moves_commitArming hrow hallows hreplies hclear
  | armCapture k => exact moves_armCapture hrow hallows hreplies hclear
  | startCapture k => exact moves_startCapture hrow hallows hreplies hanswers
  | takeCapture k => exact moves_takeCapture hrow hallows hreplies hclear
  | stopArming k => exact moves_stopArming hrow hallows hclear
  | checkDropout k => exact moves_checkDropout hanswers
  | _ => exact moves_aside hrow trivial (by intro k h; cases h) rfl

end Floor

/-- The job is there, the places are those of the calls, and what makes it end without a
capture is kept. -/
structure Floor.Guarded (id : JobId) (places : T → Place) (f : Floor T) : Prop where
  stored : ∃ row, f.world.jobs.get id = some row
  placed : f.places = places
  kept : Accounted places (f.hold id)

omit [DecidableEq T] in
lemma Place.relies_of_replies (hreplies : f.world.Replies c o reply) : Place.Relies o reply := by
  cases o with
  | clock =>
    cases reply with
    | ok now => trivial
    | error failure => exact hreplies
  | probeArming k =>
    cases reply with
    | ok row =>
      have hprobe : f.world.jobs.probeArming k = .ok row := hreplies
      exact Table.key_of_get (probeArming_ok hprobe)
    | error failure => trivial
  | _ => trivial

lemma Floor.Guarded.step {places : T → Place} (h : Floor.Guarded id places f)
    (hallows : (places t).Allows id o)
    (hlegal : (Floor.machine id c (Floor.Clear id) t).legal f o reply) :
    Place.Relies o reply ∧
      Floor.Guarded id (update places t ((places t).next id o reply))
        ((Floor.machine id c (Floor.Clear id) t).next f o reply) := by
  obtain ⟨⟨row, hrow⟩, rfl, hkept⟩ := h
  refine ⟨Place.relies_of_replies hlegal.1, ?_⟩
  obtain ⟨row', hrow', -⟩ := World.next_stays hrow
  exact ⟨⟨row', hrow'⟩, rfl, hkept.move (Floor.moves hrow hallows hlegal)⟩

end Moves

/-! ## Interleavings -/

section Runs

variable {T : Type} [DecidableEq T] {id : JobId}

abbrev Shift (T : Type) := Config T recordingIface Failure Place (Floor T)

def Shift.initial (calls : T → JobCall id) (w : World) : Shift T where
  code := fun t => (calls t).code
  ghost := fun t => (calls t).place
  world := { world := w, running := false, places := fun t => (calls t).place }

/-- The interleavings of calls at a job, all steps of which meet a condition. -/
def Shift.Reached (c : Station) (cond : Floor T → T → (o : Op) → Except Failure o.Res → Prop)
    (calls : T → JobCall id) (w : World) : Shift T → Prop :=
  Config.Reach (Floor.machine id c cond) (fun _ => (Place.contract id).toMonitor) (fun _ _ => True)
    (Shift.initial calls w)

/-- The job is scheduled, and nothing was captured for it. -/
structure Waiting (id : JobId) (w : World) : Prop where
  scheduled : ∃ row, w.jobs.get id = some row ∧ row.state = .scheduled
  uncaptured : w.active id = none

/-- The job is done, failed or skipped. -/
def Over (id : JobId) (w : World) : Prop :=
  ∃ row, w.jobs.get id = some row ∧ row.state.isOver = true

omit [DecidableEq T] in
lemma guarded_initial (calls : T → JobCall id) {w : World} (hw : Waiting id w) :
    (Shift.initial calls w).world.Guarded id fun t => (calls t).place := by
  obtain ⟨row, hrow, hstate⟩ := hw.scheduled
  -- every call is at its beginning
  have hplace : ∀ t p, p ≠ .out → p ≠ .reading → (calls t).place ≠ p := by
    intro t p hout hreading hp
    cases hcall : calls t <;> rw [hcall] at hp <;> first
      | exact hout hp.symm
      | exact hreading hp.symm
  refine ⟨⟨row, hrow⟩, rfl, ?_⟩
  have hnone : ((Shift.initial calls w).world.hold id).capture = none := hw.uncaptured
  constructor
  · exact fun _ => ⟨hnone, fun t => hplace t _ (by decide) (by decide)⟩
  · exact fun t _ ht => absurd ht (hplace t _ (by decide) (by decide))
  · exact fun t ht => absurd ht (hplace t _ (by decide) (by decide))
  · exact fun _ => rfl
  · exact fun t ht => absurd ht (hplace t _ (by decide) (by decide))
  · intro hcapture
    rw [hnone] at hcapture
    cases hcapture
  · intro hcapture
    rw [hnone] at hcapture
    cases hcapture
  · exact fun hcapture => absurd hnone hcapture

/-- Whatever calls are made at a job, in whatever interleaving: if they stay clear of each other
(`Floor.Clear`), no process of its capture runs any more once they have all ended and the job is
over. -/
theorem no_capture_outlives (c : Station) (calls : T → JobCall id) (w : World) (hw : Waiting id w)
    (r : Shift T) (hrun : Shift.Reached c (Floor.Clear id) calls w r)
    (hended : ∀ t, ended (r.code t) = true) (hover : Over id r.world.world) :
    r.world.running = false := by
  obtain ⟨hcode, hguarded⟩ := Config.Reach.contract hrun (fun t => (calls t).settles)
    (guarded_initial calls hw) fun places f t o reply h _ hallows hlegal => h.step hallows hlegal
  -- a call that has ended has nothing to stop
  have hnobody : ∀ t, r.ghost t ≠ .cancelled := by
    intro t
    obtain ⟨_, hpost⟩ := post_of_ended (hcode t) (hended t)
    exact hpost
  obtain ⟨row, hrow, hstate⟩ := hover
  refine hguarded.kept.not_running ?_ hnobody
  rw [Floor.state_hold hrow]
  exact hstate

end Runs

/-! ## A stop while the job arms -/

section Decidable

variable {T : Type} (id : JobId) (f : Floor T)

instance Floor.decidableAnswers :
    (o : Op) → (reply : Except Failure o.Res) → Decidable (f.Answers id o reply)
  | .startCapture k, .ok _ =>
    inferInstanceAs (Decidable (k = id → f.world.active k = some true → f.running = true))
  | .startCapture k, .error (.fault fault) =>
    inferInstanceAs (Decidable (k = id → (fault = .exited ↔ f.world.active k = some true)))
  | .startCapture _, .error (.store _) | .startCapture _, .error .scheduleNotFound
  | .startCapture _, .error (.pipelineFailure _) => .isTrue trivial
  | .checkDropout k, .ok (r : DropoutCheckResult) =>
    inferInstanceAs (Decidable (k = id → r.dropoutDetected = true → f.world.active k = some true))
  | .checkDropout _, .error _ => .isTrue trivial
  | .clock, _ | .deadlinePassed, _ | .expand _, _ | .getSchedule _, _ | .getJob _, _
  | .listJobs _, _ | .listJobsOf _ _, _ | .createJob _, _ | .setJobState _ _ _, _
  | .probeArming _, _ | .commitArming _, _ | .findOverlapping _, _ | .recordDropout _, _
  | .armCapture _, _ | .takeCapture _, _ | .mergeCapture _, _ | .stopArming _, _
  | .finalizeToAsset _, _ => .isTrue trivial

instance Floor.decidableClear [Fintype T] [DecidableEq T] (t : T) :
    (o : Op) → (reply : Except Failure o.Res) → Decidable (Floor.Clear id f t o reply)
  | .commitArming row, .ok _ =>
    inferInstanceAs (Decidable (row.jobId = id → (f.hold id).state = .scheduled))
  | .armCapture k, .ok _ => inferInstanceAs (Decidable (k = id → Armable f.places (f.hold id)))
  | .setJobState k state _, .ok _ =>
    inferInstanceAs (Decidable (k = id → state.isOver = true →
      f.places t = .out ∨ f.places t = .starting → (f.hold id).state.isOver = false →
        Unlaunched f.places t (f.hold id)))
  | .takeCapture k, .error failure =>
    inferInstanceAs (Decidable (k = id → failure ≠ .fault .terminateFailed))
  | .stopArming k, .error _ => inferInstanceAs (Decidable (k ≠ id))
  | .commitArming _, .error _ | .armCapture _, .error _ | .setJobState _ _ _, .error _
  | .takeCapture _, .ok _ | .stopArming _, .ok _ => .isTrue trivial
  | .clock, _ | .deadlinePassed, _ | .expand _, _ | .getSchedule _, _ | .getJob _, _
  | .listJobs _, _ | .listJobsOf _ _, _ | .createJob _, _ | .probeArming _, _
  | .findOverlapping _, _ | .recordDropout _, _ | .startCapture _, _ | .mergeCapture _, _
  | .checkDropout _, _ | .finalizeToAsset _, _ => .isTrue trivial

end Decidable

namespace StopWhileArming

def station : Station := ⟨"main", 0, .utc, 500, true⟩

def council : JobId := .adhoc "council"

/-- The council is about to be recorded. -/
def world : World where
  schedules := []
  jobs :=
    { rows := [RecordingJob.planned council "main" none 0 3600000000 ⟨.sdi, "sdi-1", ""⟩]
      nodup := by decide }
  active := fun _ => none
  assets := []
  now := 0

/-- The tick arms the job, one operator starts it, another stops it. -/
def calls : Fin 3 → JobCall council
  | 0 => .arm
  | 1 => .start
  | 2 => .stop

variable (cond : Floor (Fin 3) → Fin 3 → (o : Op) → Except Failure o.Res → Prop)
  [∀ f t o reply, Decidable (cond f t o reply)]

def answers (t : Fin 3) (f : Floor (Fin 3)) (o : Op) :
    Option {x : Except Failure o.Res // (Floor.machine council station cond t).legal f o x} :=
  match f.world.reply station o with
  | some x =>
    if h : f.Answers council o x.1 ∧ cond f t o x.1 then some ⟨x.1, x.2, h⟩ else none
  | none => none

def run (schedule : List (Fin 3)) : Option (Shift (Fin 3)) :=
  Config.drive (Floor.machine council station cond) (fun _ => (Place.contract council).toMonitor)
    (answers cond) (fun _ _ => True) schedule (Shift.initial calls world)

lemma reached_run {schedule : List (Fin 3)} {r : Shift (Fin 3)} (h : run cond schedule = some r) :
    Shift.Reached station cond calls world r :=
  Config.reach_of_drive .refl h

local instance threeCalls : NeZero 3 := inferInstance

/-- The stop comes between the transition to `arming` and the pipeline's arm. -/
def early : List (Fin 3) := [0, 0, 0, 2, 2, 1, 1, 2, 2, 0, 0, 1, 1]

/-- The stop comes when the pipeline has armed, and before it starts. -/
def late : List (Fin 3) := [0, 0, 0, 0, 0, 1, 1, 2, 2, 2, 2, 1, 1, 1]

end StopWhileArming

open StopWhileArming in
/-- The council is failed, all calls have ended, and its capture runs. -/
theorem capture_outlives_stop :
    ∃ r : Shift (Fin 3), Shift.Reached station (fun _ _ _ _ => True) calls world r ∧
      (∀ t, ended (r.code t) = true) ∧ Over council r.world.world ∧ r.world.running = true := by
  have hsome : (run (fun _ _ _ _ => True) early).isSome = true := by decide +kernel
  obtain ⟨r, hr⟩ := isSome_iff_exists.mp hsome
  have hfacts : (run (fun _ _ _ _ => True) early).all (fun r : Shift (Fin 3) =>
      decide (∀ t, ended (r.code t) = true) && r.world.running &&
        (r.world.world.jobs.get council).any fun row => row.state.isOver) = true := by
    decide +kernel
  rw [hr] at hfacts
  simp only [all_some, Bool.and_eq_true, decide_eq_true_eq, any_eq_true] at hfacts
  obtain ⟨⟨hended, hrunning⟩, row, hrow, hstate⟩ := hfacts
  exact ⟨r, reached_run _ hr, hended, ⟨row, hrow, hstate⟩, hrunning⟩

open StopWhileArming in
/-- The start finds the capture gone, and nothing runs. -/
theorem stopped_before_start :
    ∃ r : Shift (Fin 3), run (Floor.Clear council) late = some r ∧ Over council r.world.world ∧
      r.world.running = false := by
  have hsome : (run (Floor.Clear council) late).isSome = true := by decide +kernel
  obtain ⟨r, hr⟩ := isSome_iff_exists.mp hsome
  have hfacts : (run (Floor.Clear council) late).all (fun r : Shift (Fin 3) =>
      decide (∀ t, ended (r.code t) = true) &&
        (r.world.world.jobs.get council).any fun row => row.state.isOver) = true := by
    decide +kernel
  rw [hr] at hfacts
  simp only [all_some, Bool.and_eq_true, decide_eq_true_eq, any_eq_true] at hfacts
  obtain ⟨hended, row, hrow, hstate⟩ := hfacts
  have hover : Over council r.world.world := ⟨row, hrow, hstate⟩
  have hwaiting : Waiting council world := ⟨⟨_, rfl, rfl⟩, rfl⟩
  exact ⟨r, hr, hover,
    no_capture_outlives station calls world hwaiting r (reached_run _ hr) hended hover⟩

end CivicCast.Recording
