import CivicCast.Recording.Store

/-! # Recurrence of recordings

`_materialize_starts` and the passes that turn schedules into jobs. A day is its number
since 1970-01-01, which was a Thursday; a wall clock is a count of microseconds, in which
every day has the same length. What a time zone does is a parameter: `Zone.wall` is
`astimezone(tz)` without the zone, and `Zone.instant` the way back for each fold.
-/

namespace CivicCast.Recording

/-! ## Calendar -/

def second : ℤ := 1000000

def dayLength : ℤ := 86400 * second

/-- `date()` of a wall clock. -/
def dateOf (wall : ℤ) : ℤ := wall / dayLength

/-- `weekday()`: Monday is 0. -/
def weekday (day : ℤ) : ℤ := (day + 3) % 7

structure WallTime where
  hour : Fin 24
  minute : Fin 60
deriving DecidableEq

def WallTime.offset (time : WallTime) : ℤ := (time.hour.val * 3600 + time.minute.val * 60) * second

/-- `datetime.combine`. -/
def wallClock (day : ℤ) (time : WallTime) : ℤ := day * dayLength + time.offset

lemma WallTime.offset_nonneg (time : WallTime) : 0 ≤ time.offset := by
  unfold offset second
  omega

lemma WallTime.offset_lt (time : WallTime) : time.offset < dayLength := by
  unfold offset dayLength second
  omega

lemma dateOf_wallClock (day : ℤ) (time : WallTime) : dateOf (wallClock day time) = day := by
  have hnonneg := time.offset_nonneg
  have hlt := time.offset_lt
  unfold dateOf wallClock dayLength second at *
  omega

structure Zone where
  wall : ℤ → ℤ
  instant : (wall : ℤ) → (fold : Bool) → ℤ

namespace Zone

def utc : Zone where
  wall := id
  instant := fun wall _ => wall

/-- A zone that is always the same time ahead of UTC. -/
def ahead (offset : ℤ) : Zone where
  wall := fun t => t + offset
  instant := fun wall _ => wall - offset

/-- `resolve_wall_clock`, as an instant: none in a gap, the earlier one of two. -/
def resolveWallClock (zone : Zone) (wall : ℤ) : Option ℤ :=
  (([false, true].map (zone.instant wall)).filter fun t => zone.wall t = wall).min?

def date (zone : Zone) (t : ℤ) : ℤ := dateOf (zone.wall t)

end Zone

/-! ## Schedules -/

inductive RecurrenceZone where
  | utc
  | station
deriving DecidableEq

inductive RecurrenceSpec where
  | oneShot (start : ℤ)
  | weekly (weekdays : List ℤ) (time : WallTime) (zone : RecurrenceZone)
deriving DecidableEq

structure RecordingSchedule where
  scheduleId : String
  stationId : String
  source : RecordingSource
  recurrence : RecurrenceSpec
  /-- In microseconds. -/
  duration : ℤ
  enabled : Bool
deriving DecidableEq

/-- `recurrence_tz`. -/
def RecurrenceZone.zone (tz : Zone) : RecurrenceZone → Zone
  | utc => .utc
  | station => tz

/-- The days of the walk, from `first` to `last`. -/
def daysThrough (first last : ℤ) : List ℤ :=
  (List.range (last + 1 - first).toNat).map fun n : ℕ => first + (n : ℤ)

def materializeStarts (recurrence : RecurrenceSpec) (now deadline : ℤ) (tz : Zone) : List ℤ :=
  match recurrence with
  | .oneShot start => if now ≤ start ∧ start ≤ deadline then [start] else []
  | .weekly weekdays time zone =>
    let zone := zone.zone tz
    let days := (daysThrough (zone.date now) (zone.date deadline)).filter fun day =>
      weekday day ∈ weekdays
    (days.filterMap fun day => zone.resolveWallClock (wallClock day time)).filter fun t =>
      now ≤ t ∧ t ≤ deadline

/-! ## Materialization -/

def recordingOccurrenceDay (job : RecordingJob) : ℤ :=
  match job.jobId with
  | .jobday _ day => day
  | _ => Zone.utc.date job.plannedStart

def RecurrenceSpec.isStationWeekly : RecurrenceSpec → Bool
  | weekly _ _ .station => true
  | _ => false

def RecurrenceSpec.isWeekly : RecurrenceSpec → Bool
  | weekly _ _ _ => true
  | oneShot _ => false

namespace RecordingSchedule

variable (schedule : RecordingSchedule) (tz : Zone)

/-- The zone in which the days of the schedule's occurrences are told. -/
def dayZone : Zone := if schedule.recurrence.isStationWeekly then tz else .utc

/-- The day up to which `job` keeps its schedule from materializing. -/
def protects (job : RecordingJob) : ℤ :=
  max (recordingOccurrenceDay job) ((schedule.dayZone tz).date job.plannedStart)

def protectedThrough (existing : List RecordingJob) : Option ℤ :=
  ((existing.filter fun job => job.scheduleId = some schedule.scheduleId).map
    (schedule.protects tz)).max?

def jobIdAt (start : ℤ) : JobId :=
  if schedule.recurrence.isStationWeekly then .jobday schedule.scheduleId (tz.date start)
  else .job schedule.scheduleId (start / second)

def jobAt (start : ℤ) : RecordingJob :=
  .planned (schedule.jobIdAt tz start) schedule.stationId (some schedule.scheduleId) start
    (start + schedule.duration) schedule.source

end RecordingSchedule

/-- What a pass carries on: the table, the pairs of schedule and start that are taken, and
the jobs it created. -/
structure Expansion where
  jobs : Jobs
  taken : List (String × ℤ)
  created : List RecordingJob

namespace Expansion

/-- One start of a schedule. A conflict of ids means that the job is there already. -/
def expandStart (schedule : RecordingSchedule) (tz : Zone) (protectedThrough : Option ℤ)
    (x : Expansion) (start : ℤ) : Expansion :=
  if (schedule.scheduleId, start) ∈ x.taken then x
  else if schedule.recurrence.isWeekly ∧
      ∃ day ∈ protectedThrough, (schedule.dayZone tz).date start ≤ day then x
  else
    let taken := (schedule.scheduleId, start) :: x.taken
    match x.jobs.createJob (schedule.jobAt tz start) with
    | .ok jobs => ⟨jobs, taken, x.created ++ [schedule.jobAt tz start]⟩
    | .error _ => { x with taken := taken }

def expandSchedule (existing : List RecordingJob) (now deadline : ℤ) (tz : Zone) (x : Expansion)
    (schedule : RecordingSchedule) : Expansion :=
  (materializeStarts schedule.recurrence now deadline tz).foldl
    (expandStart schedule tz (schedule.protectedThrough tz existing)) x

end Expansion

/-- `expand_jobs_for_horizon`, with `limit` the cap on the jobs that it reads. -/
def expandJobsForHorizon (schedules : List RecordingSchedule) (jobs : Jobs) (stationId : String)
    (now horizon : ℤ) (tz : Zone) (limit : ℕ) : Expansion :=
  let existing := jobs.listJobs stationId none limit
  let taken := existing.filterMap fun job =>
    job.scheduleId.map fun scheduleId => (scheduleId, job.plannedStart)
  (schedules.filter fun s => s.stationId = stationId && s.enabled).foldl
    (Expansion.expandSchedule existing now (now + horizon) tz) ⟨jobs, taken, []⟩

/-- The job that `record_now` creates. -/
def recordNowJob (schedule : RecordingSchedule) (suffix : String) (now : ℤ) : RecordingJob :=
  .planned (.now suffix schedule.scheduleId (now / second)) schedule.stationId
    (some schedule.scheduleId) now (now + schedule.duration) schedule.source

/-! ## What a pass adds -/

section Grown

variable {tz : Zone} {now : ℤ} {ν : RecordingJob → Prop} {jobs jobs' : Jobs} {job : RecordingJob}

def Grown (ν : RecordingJob → Prop) (jobs jobs' : Jobs) : Prop :=
  (∀ j ∈ jobs.rows, j ∈ jobs'.rows) ∧ ∀ j ∈ jobs'.rows, j ∈ jobs.rows ∨ ν j

lemma Grown.refl (jobs : Jobs) : Grown ν jobs jobs :=
  ⟨fun _ hj => hj, fun _ hj => .inl hj⟩

lemma Grown.trans {jobs'' : Jobs}
    (h : Grown ν jobs jobs') (h' : Grown ν jobs' jobs'') : Grown ν jobs jobs'' := by
  refine ⟨fun j hj => h'.1 j (h.1 j hj), ?_⟩
  intro j hj
  rcases h'.2 j hj with hold | hnew
  · exact h.2 j hold
  · exact .inr hnew

lemma createJob_ok (h : jobs.createJob job = .ok jobs') :
    jobs.get job.jobId = none ∧ jobs'.rows = jobs.rows ++ [job] := by
  unfold Jobs.createJob at h
  split at h
  · rename_i hnone
    cases h
    exact ⟨hnone, rfl⟩
  · cases h

lemma grown_createJob (h : jobs.createJob job = .ok jobs') (hjob : ν job) : Grown ν jobs jobs' := by
  obtain ⟨_, hrows⟩ := createJob_ok h
  unfold Grown
  rw [hrows]
  constructor
  · intro j hj
    exact List.mem_append_left _ hj
  · intro j hj
    rcases List.mem_append.mp hj with hold | hnew
    · exact .inl hold
    · rw [List.mem_singleton.mp hnew]
      exact .inr hjob

lemma grown_expandStart {schedule : RecordingSchedule}
    {through : Option ℤ} {x : Expansion} {start : ℤ} (hnew : ν (schedule.jobAt tz start)) :
    Grown ν x.jobs (Expansion.expandStart schedule tz through x start).jobs := by
  unfold Expansion.expandStart
  split
  · exact .refl _
  · split
    · exact .refl _
    · split
      · rename_i jobs' hcreated
        exact grown_createJob hcreated hnew
      · exact .refl _

lemma grown_expandJobsForHorizon
    {schedules : List RecordingSchedule} {stationId : String} {horizon : ℤ}
    {limit : ℕ}
    (hnew : ∀ schedule ∈ schedules, ∀ start ∈ materializeStarts schedule.recurrence now
      (now + horizon) tz, ν (schedule.jobAt tz start)) :
    Grown ν jobs (expandJobsForHorizon schedules jobs stationId now horizon tz limit).jobs := by
  refine List.foldlRecOn _ _ (motive := fun x : Expansion => Grown ν jobs x.jobs) (.refl _) ?_
  intro x hx schedule hschedule
  refine hx.trans ?_
  refine List.foldlRecOn _ _ (motive := fun y : Expansion => Grown ν x.jobs y.jobs) (.refl _) ?_
  intro y hy start hstart
  exact hy.trans (grown_expandStart (hnew schedule (List.mem_filter.mp hschedule).1 start hstart))

end Grown

end CivicCast.Recording
