import CivicCast.Recording.Recurrence

/-! # Weekly recordings are made once

The ticks of a station materialize the occurrences of a weekly schedule ahead of time.
What has to hold after any number of ticks, one horizon apart at most, is that each
occurrence between the first and the last of them has one job that was materialized for it.

At most one is the primary key. At least one rests on the days: a pass leaves out every
occurrence on a day up to `protected_through`, the latest day of any job of the schedule.
The jobs of earlier passes are on earlier days (`Zone.DatesForward`), but a job that an
operator starts is on the day it is started, and its UTC date can be later still. So the
invariant asks of each `record_now` that no occurrence is left on the days it protects
(`Harmless`).
-/

namespace CivicCast.Recording

open List Option

open Lib (Table)

/-! ## Occurrences -/

/-- The local date never goes back. -/
def Zone.DatesForward (zone : Zone) : Prop := ∀ s t, s ≤ t → zone.date s ≤ zone.date t

lemma Zone.utc_datesForward : Zone.utc.DatesForward := by
  intro s t hst
  show s / dayLength ≤ t / dayLength
  unfold dayLength second
  omega

lemma Zone.resolveWallClock_wall {zone : Zone} {wall t : ℤ}
    (h : zone.resolveWallClock wall = some t) : zone.wall t = wall := by
  have hmem := min?_mem h
  simpa using (mem_filter.mp hmem).2

lemma Zone.utc_resolveWallClock (wall : ℤ) : Zone.utc.resolveWallClock wall = some wall := by
  simp [resolveWallClock, utc]

lemma mem_daysThrough {first last day : ℤ} :
    day ∈ daysThrough first last ↔ first ≤ day ∧ day ≤ last := by
  unfold daysThrough
  rw [List.mem_map]
  constructor
  · rintro ⟨n, hn, rfl⟩
    have hn := mem_range.mp hn
    omega
  · rintro ⟨hfirst, hlast⟩
    refine ⟨(day - first).toNat, mem_range.mpr ?_, ?_⟩ <;> omega

/-- A weekly schedule. -/
structure Weekly where
  schedule : RecordingSchedule
  weekdays : List ℤ
  time : WallTime
  zone : RecurrenceZone
  weekly : schedule.recurrence = .weekly weekdays time zone
  enabled : schedule.enabled = true

namespace Weekly

variable (s : Weekly) (tz : Zone)

/-- The zone of its wall clock. -/
def clock : Zone := s.zone.zone tz

/-- The schedule is due at `t`. -/
def Occurs (t : ℤ) : Prop :=
  ∃ day, weekday day ∈ s.weekdays ∧
    (s.clock tz).resolveWallClock (wallClock day s.time) = some t

variable {s tz} {t t' : ℤ}

lemma dayZone_eq : s.schedule.dayZone tz = s.clock tz := by
  unfold RecordingSchedule.dayZone clock
  rw [s.weekly]
  cases s.zone <;> rfl

lemma date_eq {day : ℤ} (h : (s.clock tz).resolveWallClock (wallClock day s.time) = some t) :
    (s.clock tz).date t = day := by
  unfold Zone.date
  rw [Zone.resolveWallClock_wall h, dateOf_wallClock]

lemma Occurs.eq_of_date (h : s.Occurs tz t) (h' : s.Occurs tz t')
    (hdate : (s.clock tz).date t = (s.clock tz).date t') : t = t' := by
  obtain ⟨day, _, hday⟩ := h
  obtain ⟨day', _, hday'⟩ := h'
  have hsame : day = day' := by rw [← date_eq hday, ← date_eq hday', hdate]
  rw [hsame, hday'] at hday
  exact (some.inj hday).symm

lemma Occurs.date_lt (hzone : (s.clock tz).DatesForward) (h : s.Occurs tz t)
    (h' : s.Occurs tz t') (hlt : t < t') : (s.clock tz).date t < (s.clock tz).date t' := by
  have hle := hzone t t' hlt.le
  have hne : (s.clock tz).date t ≠ (s.clock tz).date t' := by
    intro hdate
    have := h.eq_of_date h' hdate
    omega
  omega

lemma mem_materializeStarts {now deadline : ℤ} (hzone : (s.clock tz).DatesForward) :
    t ∈ materializeStarts s.schedule.recurrence now deadline tz ↔
      s.Occurs tz t ∧ now ≤ t ∧ t ≤ deadline := by
  rw [s.weekly]
  simp only [materializeStarts, mem_filter, mem_filterMap, mem_daysThrough, decide_eq_true_eq]
  constructor
  · rintro ⟨⟨day, ⟨_, hweekday⟩, hday⟩, hwindow⟩
    exact ⟨⟨day, hweekday, hday⟩, hwindow⟩
  · rintro ⟨⟨day, hweekday, hday⟩, hnow, hdeadline⟩
    have hdate : (s.zone.zone tz).date t = day := date_eq hday
    have hfirst := hzone now t hnow
    have hlast := hzone t deadline hdeadline
    refine ⟨⟨day, ⟨⟨?_, ?_⟩, hweekday⟩, hday⟩, hnow, hdeadline⟩
    · exact hdate ▸ hfirst
    · exact hdate ▸ hlast

lemma Occurs.utc_second (h : s.Occurs tz t) (hzone : s.zone = .utc) : t / second * second = t := by
  obtain ⟨day, _, hday⟩ := h
  have ht : wallClock day s.time = t := by
    have hclock : s.clock tz = .utc := by
      unfold clock
      rw [hzone]
      rfl
    rw [hclock, Zone.utc_resolveWallClock] at hday
    exact some.inj hday
  unfold wallClock WallTime.offset dayLength second at ht
  unfold second
  omega

/-- The id of the job for an occurrence tells which occurrence. -/
lemma Occurs.eq_of_jobIdAt (h : s.Occurs tz t) (h' : s.Occurs tz t')
    (hid : s.schedule.jobIdAt tz t = s.schedule.jobIdAt tz t') : t = t' := by
  unfold RecordingSchedule.jobIdAt RecurrenceSpec.isStationWeekly at hid
  rw [s.weekly] at hid
  cases hzone : s.zone with
  | utc =>
    simp only [hzone, Bool.false_eq_true, if_false, JobId.job.injEq, true_and] at hid
    have ht := h.utc_second hzone
    have ht' := h'.utc_second hzone
    rw [← ht, ← ht', hid]
  | station =>
    simp only [hzone, if_true, JobId.jobday.injEq, true_and] at hid
    refine h.eq_of_date h' ?_
    unfold clock
    rw [hzone]
    exact hid

/-- What the job for an occurrence protects is the day of the occurrence. -/
lemma protects_jobAt (t : ℤ) :
    s.schedule.protects tz (s.schedule.jobAt tz t) = (s.clock tz).date t := by
  unfold RecordingSchedule.protects
  rw [dayZone_eq]
  have hday : recordingOccurrenceDay (s.schedule.jobAt tz t) = (s.clock tz).date t := by
    unfold recordingOccurrenceDay RecordingSchedule.jobAt RecordingJob.planned
      RecordingSchedule.jobIdAt RecurrenceSpec.isStationWeekly clock
    rw [s.weekly]
    cases s.zone <;> rfl
  rw [hday]
  exact max_self _

lemma le_protects (j : RecordingJob) :
    (s.clock tz).date j.plannedStart ≤ s.schedule.protects tz j := by
  unfold RecordingSchedule.protects
  rw [dayZone_eq]
  exact le_max_right _ _

end Weekly

/-! ## One pass -/

section Pass

variable {tz : Zone} {existing : List RecordingJob} {now deadline : ℤ}

variable (s : Weekly) (t : ℤ)

/-- The job for the occurrence is there. -/
def Made (tz : Zone) (x : Expansion) : Prop := s.schedule.jobAt tz t ∈ x.jobs.rows

/-- Nothing is in the way of the job for the occurrence. -/
def Open (tz : Zone) (x : Expansion) : Prop :=
  (s.schedule.scheduleId, t) ∉ x.taken ∧ x.jobs.get (s.schedule.jobIdAt tz t) = none

variable {s t} {schedule : RecordingSchedule} {through : Option ℤ} {x : Expansion} {start : ℤ}
  {jobs : Jobs} {limit : ℕ}

lemma jobIdAt_ne_of_scheduleId_ne {schedule' : RecordingSchedule} {start' : ℤ}
    (h : schedule.scheduleId ≠ schedule'.scheduleId) :
    schedule.jobIdAt tz start ≠ schedule'.jobIdAt tz start' := by
  unfold RecordingSchedule.jobIdAt
  split <;> split <;> simp [h]

lemma open_expandStart (hx : Open s t tz x)
    (hkey : (schedule.scheduleId, start) ≠ (s.schedule.scheduleId, t))
    (hid : schedule.jobIdAt tz start ≠ s.schedule.jobIdAt tz t) :
    Open s t tz (Expansion.expandStart schedule tz through x start) := by
  have htaken : (s.schedule.scheduleId, t) ∉ (schedule.scheduleId, start) :: x.taken := by
    rintro hmem
    rcases mem_cons.mp hmem with hhead | htail
    · exact hkey hhead.symm
    · exact hx.1 htail
  unfold Expansion.expandStart
  split
  · exact hx
  · split
    · exact hx
    · split
      · rename_i jobs' hcreated
        refine ⟨htaken, ?_⟩
        obtain ⟨_, hrows⟩ := createJob_ok hcreated
        rw [Table.get_eq_none_iff]
        intro j hj
        rw [hrows] at hj
        rcases mem_append.mp hj with hold | hnew
        · exact Table.get_eq_none_iff.mp hx.2 j hold
        · rw [mem_singleton.mp hnew]
          exact hid
      · exact ⟨htaken, hx.2⟩

lemma made_expandStart (hx : Open s t tz x) (hday : ∀ day ∈ through, day < (s.clock tz).date t) :
    Made s t tz (Expansion.expandStart s.schedule tz through x t) := by
  unfold Expansion.expandStart
  rw [if_neg hx.1, if_neg]
  · have hcreate : x.jobs.createJob (s.schedule.jobAt tz t) =
        .ok (x.jobs.insert (s.schedule.jobAt tz t) hx.2) := dif_pos hx.2
    rw [hcreate]
    exact mem_append_right _ (mem_singleton.mpr rfl)
  · rintro ⟨_, day, hmem, hle⟩
    rw [Weekly.dayZone_eq] at hle
    have := hday day hmem
    omega

/-- The schedule in its table: nobody edits it, and its id is its own. -/
def Kept (s : Weekly) (schedules : List RecordingSchedule) : Prop :=
  s.schedule ∈ schedules ∧
    ∀ schedule ∈ schedules, schedule.scheduleId = s.schedule.scheduleId → schedule = s.schedule

lemma made_foldl (hx : Made s t tz x) {starts : List ℤ} :
    Made s t tz (starts.foldl (Expansion.expandStart schedule tz through) x) := by
  refine foldlRecOn _ _ hx ?_
  intro y hy start _
  exact (grown_expandStart (ν := fun _ => True) trivial).1 _ hy

lemma settled_expandSchedule (hzone : (s.clock tz).DatesForward) (ht : s.Occurs tz t)
    (hown : schedule.scheduleId = s.schedule.scheduleId → schedule = s.schedule)
    (hday : ∀ day ∈ s.schedule.protectedThrough tz existing, day < (s.clock tz).date t)
    (hx : Made s t tz x ∨ Open s t tz x) :
    (Made s t tz (Expansion.expandSchedule existing now deadline tz x schedule) ∨
      Open s t tz (Expansion.expandSchedule existing now deadline tz x schedule)) ∧
    (schedule = s.schedule → now ≤ t → t ≤ deadline →
      Made s t tz (Expansion.expandSchedule existing now deadline tz x schedule)) := by
  by_cases hsame : schedule = s.schedule
  · subst hsame
    -- its own starts: open until its turn comes, and made from there on
    have hgo : ∀ starts y, (∀ start ∈ starts, s.Occurs tz start) →
        (Made s t tz y ∨ Open s t tz y) →
        (Made s t tz (foldl (Expansion.expandStart s.schedule tz
          (s.schedule.protectedThrough tz existing)) y starts) ∨
          (t ∉ starts ∧ Open s t tz (foldl (Expansion.expandStart s.schedule tz
            (s.schedule.protectedThrough tz existing)) y starts))) := by
      intro starts
      induction starts with
      | nil =>
        intro y _ hy
        exact hy.imp_right fun hopen => ⟨not_mem_nil, hopen⟩
      | cons start starts ih =>
        intro y hstarts hy
        rcases hy with hmade | hopen
        · exact .inl (made_foldl hmade)
        · by_cases hstart : start = t
          · subst hstart
            exact .inl (made_foldl (made_expandStart hopen hday))
          · have hocc := hstarts start (mem_cons_self ..)
            have hopen' : Open s t tz (Expansion.expandStart s.schedule tz
                (s.schedule.protectedThrough tz existing) y start) :=
              open_expandStart hopen (fun hkey => hstart (Prod.mk.inj hkey).2)
                (fun hid => hstart (hocc.eq_of_jobIdAt ht hid))
            refine (ih _ (fun start' h' => hstarts start' (mem_cons_of_mem _ h'))
              (.inr hopen')).imp_right ?_
            rintro ⟨hnot, hopen''⟩
            refine ⟨?_, hopen''⟩
            intro hmem
            rcases mem_cons.mp hmem with hhead | htail
            · exact hstart hhead.symm
            · exact hnot htail
    have hends := hgo (materializeStarts s.schedule.recurrence now deadline tz) x
      (fun start hstart => ((Weekly.mem_materializeStarts hzone).mp hstart).1) hx
    refine ⟨hends.imp_right And.right, ?_⟩
    intro _ hnow hdeadline
    rcases hends with hmade | ⟨hnot, _⟩
    · exact hmade
    · exact (hnot ((Weekly.mem_materializeStarts hzone).mpr ⟨ht, hnow, hdeadline⟩)).elim
  · -- another schedule's jobs have other ids
    have hother : schedule.scheduleId ≠ s.schedule.scheduleId := fun h => hsame (hown h)
    refine ⟨?_, fun h => (hsame h).elim⟩
    rcases hx with hmade | hopen
    · exact .inl (made_foldl hmade)
    · refine .inr (foldlRecOn _ _ hopen ?_)
      intro y hy start _
      exact open_expandStart hy (fun hkey => hother (Prod.mk.inj hkey).1)
        (jobIdAt_ne_of_scheduleId_ne hother)

lemma mem_of_mem_listJobs {stationId : String} {state : Option JobState}
    {j : RecordingJob} (h : j ∈ jobs.listJobs stationId state limit) : j ∈ jobs.rows := by
  have hsorted := mem_of_mem_take h
  rw [mem_mergeSort] at hsorted
  exact (mem_filter.mp hsorted).1

lemma of_mem_protectedThrough {day : ℤ} (h : day ∈ schedule.protectedThrough tz existing) :
    ∃ j ∈ existing, j.scheduleId = some schedule.scheduleId ∧ schedule.protects tz j = day := by
  have hmem := max?_mem h
  obtain ⟨j, hj, hday⟩ := mem_map.mp hmem
  obtain ⟨hj, hschedule⟩ := mem_filter.mp hj
  exact ⟨j, hj, by simpa using hschedule, hday⟩

/-- A pass makes every occurrence of its window that nothing is in the way of. -/
lemma made_expandJobsForHorizon {schedules : List RecordingSchedule}
    {horizon : ℤ} (hzone : (s.clock tz).DatesForward) (ht : s.Occurs tz t)
    (hkept : Kept s schedules) (hnow : now ≤ t) (hdeadline : t ≤ now + horizon)
    (hprotects : ∀ j ∈ jobs.rows, j.scheduleId = some s.schedule.scheduleId →
      s.schedule.protects tz j < (s.clock tz).date t)
    (hfree : jobs.get (s.schedule.jobIdAt tz t) = none) :
    s.schedule.jobAt tz t ∈ (expandJobsForHorizon schedules jobs s.schedule.stationId now horizon
      tz limit).jobs.rows := by
  have hexisting : ∀ j ∈ jobs.listJobs s.schedule.stationId none limit, j ∈ jobs.rows :=
    fun j hj => mem_of_mem_listJobs hj
  have hday : ∀ day ∈ s.schedule.protectedThrough tz
      (jobs.listJobs s.schedule.stationId none limit), day < (s.clock tz).date t := by
    intro day hmem
    obtain ⟨j, hj, hschedule, rfl⟩ := of_mem_protectedThrough hmem
    exact hprotects j (hexisting j hj) hschedule
  have hopen : Open s t tz ⟨jobs, (jobs.listJobs s.schedule.stationId none limit).filterMap
      fun job => job.scheduleId.map fun scheduleId => (scheduleId, job.plannedStart), []⟩ := by
    refine ⟨?_, hfree⟩
    intro hmem
    obtain ⟨j, hj, hkey⟩ := mem_filterMap.mp hmem
    obtain ⟨scheduleId, hschedule, heq⟩ := map_eq_some_iff.mp hkey
    obtain ⟨rfl, rfl⟩ := Prod.mk.inj heq
    have hlt := hprotects j (hexisting j hj) hschedule
    have hle : (s.clock tz).date j.plannedStart ≤ s.schedule.protects tz j := Weekly.le_protects j
    omega
  have hmem : s.schedule ∈ schedules.filter fun schedule =>
      schedule.stationId = s.schedule.stationId && schedule.enabled := by
    rw [mem_filter]
    exact ⟨hkept.1, by simp [s.enabled]⟩
  -- the schedules before it leave the way open, it makes the job, those after it keep it
  have hpass : ∀ (rest : List RecordingSchedule) (x : Expansion),
      (∀ schedule ∈ rest, schedule.scheduleId = s.schedule.scheduleId → schedule = s.schedule) →
      (Made s t tz x ∨ Open s t tz x) →
      (s.schedule ∈ rest ∨ Made s t tz x) →
      Made s t tz (rest.foldl (Expansion.expandSchedule
        (jobs.listJobs s.schedule.stationId none limit) now (now + horizon) tz) x) := by
    intro rest
    induction rest with
    | nil =>
      intro x _ _ hx
      exact hx.resolve_left not_mem_nil
    | cons schedule rest ih =>
      intro x hown hx hcomes
      obtain ⟨hsettled, hmade⟩ :=
        settled_expandSchedule hzone ht (hown schedule (mem_cons_self ..)) hday hx
      refine ih _ (fun schedule' h' => hown schedule' (mem_cons_of_mem _ h')) hsettled ?_
      rcases hcomes with hmem | hx
      · rcases mem_cons.mp hmem with hhead | htail
        · exact .inr (hmade hhead.symm hnow hdeadline)
        · exact .inl htail
      · exact .inr (made_foldl hx)
  exact hpass _ _ (fun schedule h => hkept.2 schedule (mem_filter.mp h).1) (.inr hopen) (.inl hmem)

end Pass

/-! ## Runs -/

structure Diary where
  schedules : List RecordingSchedule
  jobs : Jobs
  /-- No later than any time to come. -/
  clock : ℤ
  firstTick : Option ℤ
  lastTick : Option ℤ

section Runs

variable (s : Weekly) (tz : Zone) (horizon : ℤ) (limit : ℕ)

/-- One thing that happens at the station. A tick is its pass; what becomes of the jobs is
an outcome. `allowed` restricts the calls of `record_now` on the schedule. -/
inductive Diary.Step (allowed : Diary → ℤ → Prop) : Diary → Diary → Prop where
  | tick (d : Diary) (now : ℤ) (hclock : d.clock ≤ now)
      (hnext : ∀ last ∈ d.lastTick, now ≤ last + horizon) :
      Step allowed d
        { d with
          jobs := (expandJobsForHorizon d.schedules d.jobs s.schedule.stationId now horizon tz
            limit).jobs
          clock := now
          firstTick := d.firstTick.or (some now)
          lastTick := some now }
  | recordNow (d : Diary) (now : ℤ) (schedule : RecordingSchedule) (suffix : String) (jobs : Jobs)
      (hclock : d.clock ≤ now) (hmem : schedule ∈ d.schedules)
      (hallowed : schedule = s.schedule → allowed d now)
      (hcreate : d.jobs.createJob (recordNowJob schedule suffix now) = .ok jobs) :
      Step allowed d { d with jobs := jobs, clock := now }
  | recordNowFromSource (d : Diary) (job : RecordingJob) (name : String) (jobs : Jobs)
      (hschedule : job.scheduleId = none) (hid : job.jobId = .adhoc name)
      (hcreate : d.jobs.createJob job = .ok jobs) : Step allowed d { d with jobs := jobs }
  | outcome (d : Diary) (f : RecordingJob → RecordingJob) (hid : ∀ j, (f j).jobId = j.jobId)
      (hschedule : ∀ j, (f j).scheduleId = j.scheduleId)
      (hstart : ∀ j, (f j).plannedStart = j.plannedStart) :
      Step allowed d { d with jobs := d.jobs.map f hid }
  | edit (d : Diary) (schedules : List RecordingSchedule) (hkept : Kept s schedules) :
      Step allowed d { d with schedules := schedules }

abbrev Diary.Run (allowed : Diary → ℤ → Prop) : Diary → Diary → Prop :=
  Relation.ReflTransGen (Diary.Step s tz horizon limit allowed)

/-- The schedule is there, and nothing was recorded of it yet. -/
structure Diary.Begins (d : Diary) : Prop where
  kept : Kept s d.schedules
  jobs : ∀ j ∈ d.jobs.rows, j.scheduleId ≠ some s.schedule.scheduleId
  ids : ∀ j ∈ d.jobs.rows, ∀ t, j.jobId ≠ s.schedule.jobIdAt tz t
  firstTick : d.firstTick = none
  lastTick : d.lastTick = none

/-- No pass has come to `t` yet. -/
def Diary.Ahead (d : Diary) (t : ℤ) : Prop :=
  match d.lastTick with
  | some last => last + horizon < t
  | none => d.clock ≤ t

/-- A `record_now` at `now` protects no day on which an occurrence is still to come. -/
def Diary.Harmless (d : Diary) (now : ℤ) : Prop :=
  ∀ t, s.Occurs tz t → Diary.Ahead horizon { d with clock := now } t →
    max (Zone.utc.date now) ((s.clock tz).date now) < (s.clock tz).date t

/-- Created by a pass. -/
def RecordingJob.isMaterialized (j : RecordingJob) : Bool :=
  match j.jobId with
  | .job _ _ => true
  | .jobday _ _ => true
  | _ => false

/-- The jobs that were materialized for `t`. -/
def Weekly.jobsFor (jobs : Jobs) (t : ℤ) : List RecordingJob :=
  jobs.rows.filter fun j =>
    j.scheduleId = some s.schedule.scheduleId && j.isMaterialized && decide (j.plannedStart = t)

structure Diary.Sound (d : Diary) : Prop where
  kept : Kept s d.schedules
  own : ∀ j ∈ d.jobs.rows, j.scheduleId = some s.schedule.scheduleId →
    (j.jobId = s.schedule.jobIdAt tz j.plannedStart ∧ s.Occurs tz j.plannedStart) ∨
      ∃ suffix second, j.jobId = .now suffix s.schedule.scheduleId second
  ids : ∀ j ∈ d.jobs.rows, ∀ t, j.jobId = s.schedule.jobIdAt tz t →
    j.scheduleId = some s.schedule.scheduleId
  ahead : ∀ j ∈ d.jobs.rows, j.scheduleId = some s.schedule.scheduleId → ∀ t, s.Occurs tz t →
    d.Ahead horizon t → s.schedule.protects tz j < (s.clock tz).date t
  covered : ∀ first ∈ d.firstTick, ∀ last ∈ d.lastTick, ∀ t, s.Occurs tz t → first ≤ t →
    t ≤ last + horizon → ∃ j ∈ d.jobs.rows, j.scheduleId = some s.schedule.scheduleId ∧
      j.jobId = s.schedule.jobIdAt tz t ∧ j.plannedStart = t
  ticked : d.firstTick = none ↔ d.lastTick = none
  clock : ∀ last ∈ d.lastTick, last ≤ d.clock

variable {s tz horizon limit} {d d' : Diary} {t : ℤ}

lemma Diary.Begins.sound (h : d.Begins s tz) : d.Sound s tz horizon where
  kept := h.kept
  own := fun j hj hschedule => (h.jobs j hj hschedule).elim
  ids := fun j hj t hid => (h.ids j hj t hid).elim
  ahead := fun j hj hschedule => (h.jobs j hj hschedule).elim
  covered := by
    intro first hfirst
    rw [h.firstTick] at hfirst
    cases hfirst
  ticked := by simp [h.firstTick, h.lastTick]
  clock := by
    intro last hlast
    rw [h.lastTick] at hlast
    cases hlast

lemma jobIdAt_ne_now {suffix scheduleId : String} {n : ℤ} :
    JobId.now suffix scheduleId n ≠ s.schedule.jobIdAt tz t := by
  unfold RecordingSchedule.jobIdAt
  split <;> simp

lemma jobIdAt_ne_adhoc {name : String} : JobId.adhoc name ≠ s.schedule.jobIdAt tz t := by
  unfold RecordingSchedule.jobIdAt
  split <;> simp

variable (h : d.Sound s tz horizon)
include h

lemma Diary.Sound.free (ht : s.Occurs tz t)
    (hahead : d.Ahead horizon t) : d.jobs.get (s.schedule.jobIdAt tz t) = none := by
  rw [Table.get_eq_none_iff]
  intro j hj hid
  have hschedule := h.ids j hj t hid
  have hlt := h.ahead j hj hschedule t ht hahead
  rcases h.own j hj hschedule with ⟨hown, hoccurs⟩ | ⟨suffix, second, hnow⟩
  · have hstart : j.plannedStart = t := hoccurs.eq_of_jobIdAt ht (hown.symm.trans hid)
    have hle : (s.clock tz).date j.plannedStart ≤ s.schedule.protects tz j := Weekly.le_protects j
    rw [hstart] at hle
    omega
  · exact jobIdAt_ne_now (hnow.symm.trans hid)

lemma Diary.Sound.makes (hzone : (s.clock tz).DatesForward) {now : ℤ} (ht : s.Occurs tz t)
    (hahead : d.Ahead horizon t) (hnow : now ≤ t) (hdeadline : t ≤ now + horizon) :
    s.schedule.jobAt tz t ∈ (expandJobsForHorizon d.schedules d.jobs s.schedule.stationId now
      horizon tz limit).jobs.rows :=
  made_expandJobsForHorizon hzone ht h.kept hnow hdeadline
    (fun j hj hschedule => h.ahead j hj hschedule t ht hahead) (h.free ht hahead)

lemma Diary.Sound.tick (hzone : (s.clock tz).DatesForward) (hhorizon : 0 ≤ horizon) {now : ℤ}
    (hclock : d.clock ≤ now) (hnext : ∀ last ∈ d.lastTick, now ≤ last + horizon) :
    Diary.Sound s tz horizon
      { d with
        jobs := (expandJobsForHorizon d.schedules d.jobs s.schedule.stationId now horizon tz
          limit).jobs
        clock := now
        firstTick := d.firstTick.or (some now)
        lastTick := some now } := by
  have hgrown : Grown
      (fun j => ∃ schedule ∈ d.schedules, ∃ start ∈ materializeStarts schedule.recurrence now
        (now + horizon) tz, j = schedule.jobAt tz start)
      d.jobs (expandJobsForHorizon d.schedules d.jobs s.schedule.stationId now horizon tz
        limit).jobs := by
    refine grown_expandJobsForHorizon ?_
    intro schedule hschedule start hstart
    exact ⟨schedule, hschedule, start, hstart, rfl⟩
  -- a new job of the schedule is one of its occurrences, in the window
  have hnew : ∀ j, (∃ schedule ∈ d.schedules, ∃ start ∈ materializeStarts schedule.recurrence now
      (now + horizon) tz, j = schedule.jobAt tz start) →
      j.scheduleId = some s.schedule.scheduleId →
      s.Occurs tz j.plannedStart ∧ j.plannedStart ≤ now + horizon ∧
        j = s.schedule.jobAt tz j.plannedStart := by
    rintro j ⟨schedule, hmem, start, hstart, rfl⟩ hschedule
    have hsame := h.kept.2 schedule hmem (some.inj hschedule)
    subst hsame
    obtain ⟨hoccurs, _, hle⟩ := (Weekly.mem_materializeStarts hzone).mp hstart
    exact ⟨hoccurs, hle, rfl⟩
  have hahead : ∀ t, now + horizon < t → d.Ahead horizon t := by
    intro t ht
    unfold Diary.Ahead
    split
    · rename_i last hlast
      have := h.clock last hlast
      omega
    · omega
  constructor
  · exact h.kept
  · intro j hj hschedule
    rcases hgrown.2 j hj with hold | hmade
    · exact h.own j hold hschedule
    · obtain ⟨hoccurs, _, heq⟩ := hnew j hmade hschedule
      exact .inl ⟨congrArg RecordingJob.jobId heq, hoccurs⟩
  · intro j hj t hid
    rcases hgrown.2 j hj with hold | ⟨schedule, hmem, start, _, rfl⟩
    · exact h.ids j hold t hid
    · by_contra hne
      exact jobIdAt_ne_of_scheduleId_ne (fun heq => hne (congrArg some heq)) hid
  · intro j hj hschedule t ht hlt
    have hlt : now + horizon < t := hlt
    rcases hgrown.2 j hj with hold | hmade
    · exact h.ahead j hold hschedule t ht (hahead t hlt)
    · obtain ⟨hoccurs, hle, heq⟩ := hnew j hmade hschedule
      rw [heq, Weekly.protects_jobAt]
      exact hoccurs.date_lt hzone ht (by omega)
  · intro first hfirst last hlast t ht hle hdeadline
    have hlast : now = last := some.inj hlast
    subst hlast
    have hmakes : d.Ahead horizon t → now ≤ t → ∃ j ∈ (expandJobsForHorizon d.schedules d.jobs
        s.schedule.stationId now horizon tz limit).jobs.rows,
        j.scheduleId = some s.schedule.scheduleId ∧ j.jobId = s.schedule.jobIdAt tz t ∧
          j.plannedStart = t := by
      intro hopen hnow
      exact ⟨_, h.makes hzone ht hopen hnow hdeadline, rfl, rfl, rfl⟩
    cases hbefore : d.lastTick with
    | none =>
      have hfirst' : now = first := by
        rw [h.ticked.mpr hbefore] at hfirst
        exact some.inj hfirst
      refine hmakes ?_ (by omega)
      unfold Diary.Ahead
      rw [hbefore]
      omega
    | some last =>
      cases hfirst' : d.firstTick with
      | none =>
        rw [h.ticked.mp hfirst'] at hbefore
        cases hbefore
      | some first' =>
        have hsame : first' = first := by
          rw [hfirst'] at hfirst
          exact some.inj hfirst
        subst hsame
        by_cases hold : t ≤ last + horizon
        · obtain ⟨j, hj, hmade⟩ := h.covered first' hfirst' last hbefore t ht hle hold
          exact ⟨j, hgrown.1 j hj, hmade⟩
        · have hopen : d.Ahead horizon t := by
            unfold Diary.Ahead
            rw [hbefore]
            omega
          have := hnext last hbefore
          exact hmakes hopen (by omega)
  · simp
  · intro last hlast
    exact (some.inj hlast).symm.le

/-- A new job that is none of the schedule's, or started by an operator at a harmless
time. -/
lemma Diary.Sound.create {job : RecordingJob} {jobs : Jobs} {clock : ℤ}
    (hclock : d.clock ≤ clock) (hcreate : d.jobs.createJob job = .ok jobs)
    (hid : ∀ t, job.jobId ≠ s.schedule.jobIdAt tz t)
    (hown : job.scheduleId = some s.schedule.scheduleId →
      (∃ suffix second, job.jobId = .now suffix s.schedule.scheduleId second) ∧
        ∀ t, s.Occurs tz t → Diary.Ahead horizon { d with clock := clock } t →
          s.schedule.protects tz job < (s.clock tz).date t) :
    Diary.Sound s tz horizon { d with jobs := jobs, clock := clock } := by
  have hgrown : Grown (fun j => j = job) d.jobs jobs := grown_createJob hcreate rfl
  have hahead : ∀ t, Diary.Ahead horizon { d with clock := clock } t → d.Ahead horizon t := by
    intro t ht
    unfold Diary.Ahead at ht ⊢
    split
    · rename_i last hlast
      rw [hlast] at ht
      exact ht
    · rename_i hlast
      rw [hlast] at ht
      exact hclock.trans ht
  constructor
  · exact h.kept
  · intro j hj hschedule
    rcases hgrown.2 j hj with hold | rfl
    · exact h.own j hold hschedule
    · exact .inr (hown hschedule).1
  · intro j hj t heq
    rcases hgrown.2 j hj with hold | rfl
    · exact h.ids j hold t heq
    · exact (hid t heq).elim
  · -- the new job protects a day that is past for all that is ahead
    intro j hj hschedule t ht hopen
    rcases hgrown.2 j hj with hold | rfl
    · exact h.ahead j hold hschedule t ht (hahead t hopen)
    · exact (hown hschedule).2 t ht hopen
  · intro first hfirst last hlast t ht hle hdeadline
    obtain ⟨j, hj, hmade⟩ := h.covered first hfirst last hlast t ht hle hdeadline
    exact ⟨j, hgrown.1 j hj, hmade⟩
  · exact h.ticked
  · intro last hlast
    exact (h.clock last hlast).trans hclock

lemma Diary.Sound.outcome {f : RecordingJob → RecordingJob}
    (hid : ∀ j, (f j).jobId = j.jobId) (hschedule : ∀ j, (f j).scheduleId = j.scheduleId)
    (hstart : ∀ j, (f j).plannedStart = j.plannedStart) :
    Diary.Sound s tz horizon { d with jobs := d.jobs.map f hid } := by
  have hmem : ∀ j ∈ (d.jobs.map f hid).rows, ∃ j' ∈ d.jobs.rows, f j' = j :=
    fun j hj => mem_map.mp hj
  have hprotects : ∀ j, s.schedule.protects tz (f j) = s.schedule.protects tz j := by
    intro j
    unfold RecordingSchedule.protects recordingOccurrenceDay
    rw [hid, hstart]
  constructor
  · exact h.kept
  · -- what is asked of a job is about its id, schedule and start
    intro j hj hsame
    obtain ⟨j', hj', rfl⟩ := hmem j hj
    rw [hschedule] at hsame
    rw [hid, hstart]
    exact h.own j' hj' hsame
  · intro j hj t heq
    obtain ⟨j', hj', rfl⟩ := hmem j hj
    rw [hid] at heq
    rw [hschedule]
    exact h.ids j' hj' t heq
  · intro j hj hsame t ht hopen
    obtain ⟨j', hj', rfl⟩ := hmem j hj
    rw [hschedule] at hsame
    rw [hprotects]
    exact h.ahead j' hj' hsame t ht hopen
  · intro first hfirst last hlast t ht hle hdeadline
    obtain ⟨j, hj, hmade⟩ := h.covered first hfirst last hlast t ht hle hdeadline
    refine ⟨f j, mem_map.mpr ⟨j, hj, rfl⟩, ?_⟩
    rw [hschedule, hid, hstart]
    exact hmade
  · exact h.ticked
  · exact h.clock

lemma Diary.Sound.step (hzone : (s.clock tz).DatesForward) (hhorizon : 0 ≤ horizon)
    (hstep : Diary.Step s tz horizon limit (Diary.Harmless s tz horizon) d d') :
    d'.Sound s tz horizon := by
  cases hstep with
  | tick now hclock hnext => exact h.tick hzone hhorizon hclock hnext
  | recordNow now schedule suffix jobs hclock hmem hallowed hcreate =>
    refine h.create hclock hcreate (fun t => jobIdAt_ne_now) ?_
    intro hschedule
    have hsame := h.kept.2 schedule hmem (some.inj hschedule)
    subst hsame
    refine ⟨⟨suffix, _, rfl⟩, ?_⟩
    intro t ht hopen
    unfold RecordingSchedule.protects
    rw [Weekly.dayZone_eq]
    exact hallowed rfl t ht hopen
  | recordNowFromSource job name jobs hschedule hid hcreate =>
    refine h.create le_rfl hcreate (fun t => ?_) ?_
    · rw [hid]
      exact jobIdAt_ne_adhoc
    · rw [hschedule]
      exact nofun
  | outcome f hid hschedule hstart => exact h.outcome hid hschedule hstart
  | edit schedules hkept =>
    exact ⟨hkept, h.own, h.ids, h.ahead, h.covered, h.ticked, h.clock⟩

omit h

lemma Diary.Run.sound (hzone : (s.clock tz).DatesForward) (hhorizon : 0 ≤ horizon)
    (hrun : Diary.Run s tz horizon limit (Diary.Harmless s tz horizon) d d')
    (h : d.Sound s tz horizon) : d'.Sound s tz horizon := by
  induction hrun with
  | refl => exact h
  | tail _ hstep ih => exact ih.step hzone hhorizon hstep

lemma Diary.Sound.jobsFor_eq (h : d.Sound s tz horizon) {j : RecordingJob}
    (hj : j ∈ d.jobs.rows) (hschedule : j.scheduleId = some s.schedule.scheduleId)
    (hid : j.jobId = s.schedule.jobIdAt tz t) (hstart : j.plannedStart = t) :
    s.jobsFor d.jobs t = [j] := by
  have hkey : s.jobsFor d.jobs t = d.jobs.rows.filter fun k => k.jobId = j.jobId := by
    refine filter_congr ?_
    intro k hk
    rw [Bool.eq_iff_iff]
    simp only [Bool.and_eq_true, decide_eq_true_eq]
    constructor
    · rintro ⟨⟨hsame, hmaterialized⟩, hat⟩
      rcases h.own k hk hsame with ⟨hown, _⟩ | ⟨suffix, second, hnow⟩
      · rw [hown, hid, hat]
      · unfold RecordingJob.isMaterialized at hmaterialized
        rw [hnow] at hmaterialized
        cases hmaterialized
    · intro hsame
      have hkj : k = j := Table.eq_of_key_eq hk hj hsame
      subst hkj
      refine ⟨⟨hschedule, ?_⟩, hstart⟩
      unfold RecordingJob.isMaterialized
      rw [hid]
      unfold RecordingSchedule.jobIdAt
      by_cases hstation : s.schedule.recurrence.isStationWeekly = true
      · simp [hstation]
      · simp [hstation]
  rw [hkey]
  exact Table.filter_key_of_get (Table.get_eq_some_iff.mpr ⟨hj, rfl⟩)

end Runs

/-- Over any run in which every `record_now` on the schedule is harmless, each occurrence
between the first and the last tick has one job that was materialized for it. -/
theorem weekly_made_once (s : Weekly) (tz : Zone) (horizon : ℤ) (limit : ℕ) {d d' : Diary}
    (hzone : (s.clock tz).DatesForward) (hhorizon : 0 ≤ horizon) (hbegins : d.Begins s tz)
    (hrun : Diary.Run s tz horizon limit (Diary.Harmless s tz horizon) d d') {first last t : ℤ}
    (hfirst : d'.firstTick = some first) (hlast : d'.lastTick = some last)
    (ht : s.Occurs tz t) (hfrom : first ≤ t) (hto : t ≤ last) :
    (s.jobsFor d'.jobs t).length = 1 := by
  have hsound := Diary.Run.sound hzone hhorizon hrun hbegins.sound
  obtain ⟨j, hj, hschedule, hid, hstart⟩ :=
    hsound.covered first hfirst last hlast t ht hfrom (by omega)
  rw [hsound.jobsFor_eq hj hschedule hid hstart]
  rfl

/-! ## A meeting at eleven minutes past midnight -/

def minute : ℤ := 60 * second

/-- Eleven past midnight. -/
def elevenPast : WallTime := ⟨⟨0, by decide⟩, ⟨11, by decide⟩⟩

def meeting : Weekly where
  schedule :=
    { scheduleId := "meeting"
      stationId := "station"
      source := ⟨.sdi, "sdi-1", ""⟩
      recurrence := .weekly [0, 1, 2, 3, 4, 5, 6] elevenPast .utc
      duration := 60 * minute
      enabled := true }
  weekdays := [0, 1, 2, 3, 4, 5, 6]
  time := elevenPast
  zone := .utc
  weekly := rfl
  enabled := rfl

def newDiary : Diary where
  schedules := [meeting.schedule]
  jobs := .empty
  clock := 0
  firstTick := none
  lastTick := none

def pass (jobs : Jobs) (now : ℤ) : Jobs :=
  (expandJobsForHorizon [meeting.schedule] jobs "station" now (10 * minute) .utc 1000).jobs

lemma newDiary_begins : newDiary.Begins meeting .utc where
  kept := ⟨mem_singleton.mpr rfl, fun _ h _ => mem_singleton.mp h⟩
  jobs := fun _ hj => (not_mem_nil hj).elim
  ids := fun _ hj => (not_mem_nil hj).elim
  firstTick := rfl
  lastTick := rfl

lemma meeting_occurs : meeting.Occurs .utc (11 * minute) := ⟨0, by decide, by decide⟩

/-- The jobs after `record_now`, one second after the first pass. -/
def startedEarly : Jobs :=
  (pass .empty 0).insert (recordNowJob meeting.schedule "a" second) (by decide +kernel)

/-- The jobs after `record_now`, when the meeting is materialized already. -/
def startedLate : Jobs :=
  (pass (pass .empty 0) (10 * minute)).insert (recordNowJob meeting.schedule "a" (12 * minute))
    (by decide +kernel)

def diaryAt (jobs : Jobs) (clock : ℤ) (lastTick : ℤ) : Diary where
  schedules := [meeting.schedule]
  jobs := jobs
  clock := clock
  firstTick := some 0
  lastTick := some lastTick

lemma harmless_late : (diaryAt (pass (pass .empty 0) (10 * minute)) (10 * minute)
    (10 * minute)).Harmless meeting .utc (10 * minute) (12 * minute) := by
  rintro t ⟨day, _, hday⟩ hahead
  have hahead : 10 * minute + 10 * minute < t := hahead
  have hdate := Weekly.date_eq hday
  have ht : wallClock day ⟨0, 11⟩ = t := by
    have hresolved : Zone.utc.resolveWallClock (wallClock day ⟨0, 11⟩) = some t := hday
    rw [Zone.utc_resolveWallClock] at hresolved
    exact some.inj hresolved
  have hclock :
      max (Zone.utc.date (12 * minute)) ((meeting.clock .utc).date (12 * minute)) = 0 := by
    decide
  rw [hclock, hdate]
  unfold wallClock WallTime.offset minute dayLength second at *
  simp only [Fin.isValue] at ht
  omega

section Meeting

variable {allowed : Diary → ℤ → Prop} {jobs : Jobs} {clock : ℤ}

lemma meeting_first : Diary.Step meeting .utc (10 * minute) 1000 allowed newDiary
    (diaryAt (pass .empty 0) 0 0) :=
  .tick newDiary 0 le_rfl nofun

lemma meeting_tick {last now : ℤ} (hclock : clock ≤ now) (hnext : now ≤ last + 10 * minute) :
    Diary.Step meeting .utc (10 * minute) 1000 allowed (diaryAt jobs clock last)
      (diaryAt (pass jobs now) now now) := by
  refine .tick (diaryAt jobs clock last) now hclock ?_
  intro last' hlast'
  cases hlast'
  exact hnext

lemma meeting_started {jobs' : Jobs} {last now : ℤ} (hclock : clock ≤ now)
    (hallowed : allowed (diaryAt jobs clock last) now)
    (hcreate : jobs.createJob (recordNowJob meeting.schedule "a" now) = .ok jobs') :
    Diary.Step meeting .utc (10 * minute) 1000 allowed (diaryAt jobs clock last)
      (diaryAt jobs' now last) :=
  .recordNow (diaryAt jobs clock last) now meeting.schedule "a" jobs' hclock
    (mem_singleton.mpr rfl) (fun _ => hallowed) hcreate

end Meeting

/-- Started when it was materialized already, the meeting has its one job. -/
theorem meeting_made_once :
    (meeting.jobsFor (pass startedLate (20 * minute)) (11 * minute)).length = 1 := by
  have hrun : Diary.Run meeting .utc (10 * minute) 1000 (Diary.Harmless meeting .utc (10 * minute))
      newDiary (diaryAt (pass startedLate (20 * minute)) (20 * minute) (20 * minute)) := by
    have hfirst : Diary.Run meeting .utc (10 * minute) 1000
        (Diary.Harmless meeting .utc (10 * minute)) newDiary (diaryAt (pass .empty 0) 0 0) :=
      .single meeting_first
    have hcreate : (pass (pass .empty 0) (10 * minute)).createJob
        (recordNowJob meeting.schedule "a" (12 * minute)) = .ok startedLate := dif_pos _
    have hsecond := hfirst.tail (meeting_tick (by decide) (by decide : 10 * minute ≤ _))
    have hstarted := hsecond.tail (meeting_started (by decide) harmless_late hcreate)
    exact hstarted.tail (meeting_tick (by decide) (by decide))
  exact weekly_made_once meeting .utc (10 * minute) 1000 Zone.utc_datesForward (by decide)
    newDiary_begins hrun rfl rfl meeting_occurs (by decide) (by decide)

/-- Started one second after the first pass, the meeting gets no job of its own. -/
theorem started_meeting_is_missed : ∃ d,
    Diary.Run meeting .utc (10 * minute) 1000 (fun _ _ => True) newDiary d ∧
      d.firstTick = some 0 ∧ d.lastTick = some (20 * minute) ∧
      meeting.Occurs .utc (11 * minute) ∧ (meeting.jobsFor d.jobs (11 * minute)).length = 0 := by
  refine ⟨diaryAt (pass (pass startedEarly (10 * minute)) (20 * minute)) (20 * minute)
    (20 * minute), ?_, rfl, rfl, meeting_occurs, by decide +kernel⟩
  have hfirst : Diary.Run meeting .utc (10 * minute) 1000 (fun _ _ => True) newDiary
      (diaryAt (pass .empty 0) 0 0) := .single meeting_first
  have hcreate : (pass .empty 0).createJob (recordNowJob meeting.schedule "a" second) =
      .ok startedEarly := dif_pos _
  have hstarted := hfirst.tail (meeting_started (by decide) trivial hcreate)
  have hsecond := hstarted.tail (meeting_tick (by decide) (by decide : 10 * minute ≤ _))
  exact hsecond.tail (meeting_tick (by decide) (by decide))

end CivicCast.Recording
