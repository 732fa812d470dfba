import CivicCast.Lib.Interleave
import CivicCast.Recording.Service

/-! # Recordings conflict by source and window

Two jobs of a station conflict if they have one source and their windows overlap. The guard
of `arm_job` probes for exactly that, but two probes can pass before either commits, and
what decides then is the unique index, which has neither the kind nor the window in it and
takes the uri for the source. Every live input has the empty uri, so that the index lets
one of them at a time be active.

`conflict_by_source` is about any number of requests that make the calls of the service in
any interleaving: no two active jobs conflict, and a job is skipped for overlap only where
its guard has found an active job that conflicts with it. It asks of every commit that the
uri tells sources apart (`ToldApart`): sources are as their kind has them, and an active job
of the station with the uri of the row does conflict with it.
-/

namespace CivicCast.Recording

open Lib Lib.Prog Function Table Jobs Option

/-! ## Conflicts -/

/-- One source, and windows that overlap. -/
structure Conflicts (j k : RecordingJob) : Prop where
  station : j.stationId = k.stationId
  kind : j.source.kind = k.source.kind
  identifier : j.source.identifier = k.source.identifier
  starts : j.plannedStart < k.plannedEnd
  ends : k.plannedStart < j.plannedEnd

lemma conflicts_iff {j k : RecordingJob} : Conflicts j k ↔
    j.stationId = k.stationId ∧ j.source.kind = k.source.kind ∧
      j.source.identifier = k.source.identifier ∧ j.plannedStart < k.plannedEnd ∧
      k.plannedStart < j.plannedEnd :=
  ⟨fun ⟨a, b, c, d, e⟩ => ⟨a, b, c, d, e⟩, fun ⟨a, b, c, d, e⟩ => ⟨a, b, c, d, e⟩⟩

instance {j k : RecordingJob} : Decidable (Conflicts j k) :=
  decidable_of_iff' _ conflicts_iff

/-- No two active jobs conflict. -/
def Apart (jobs : Jobs) : Prop :=
  ∀ j ∈ jobs.rows, ∀ k ∈ jobs.rows, j.jobId ≠ k.jobId → j.state.isActive = true →
    k.state.isActive = true → ¬ Conflicts j k

/-- An active job conflicts with the job of this id. -/
def Conflicted (jobs : Jobs) (jobId : JobId) : Prop :=
  ∃ row, jobs.get jobId = some row ∧
    ∃ j ∈ jobs.rows, j.jobId ≠ jobId ∧ j.state.isActive = true ∧ Conflicts j row

variable {jobs : Jobs}

lemma conflicted_iff {jobId : JobId} : Conflicted jobs jobId ↔
    ∃ row ∈ (jobs.get jobId).toList,
      ∃ j ∈ jobs.rows, j.jobId ≠ jobId ∧ j.state.isActive = true ∧ Conflicts j row := by
  unfold Conflicted
  simp only [mem_toList]

instance {jobs : Jobs} {jobId : JobId} : Decidable (Conflicted jobs jobId) :=
  decidable_of_iff' _ conflicted_iff

/-- Network streams have a uri, and live inputs have none. -/
def RecordingSource.Plain (s : RecordingSource) : Prop :=
  if s.kind.isNetwork then s.uri ≠ "" else s.uri = ""

instance {s : RecordingSource} : Decidable s.Plain :=
  inferInstanceAs (Decidable (if s.kind.isNetwork then s.uri ≠ "" else s.uri = ""))

lemma uri_eq_of_plain {s s' : RecordingSource} (hs : s.Plain) (hs' : s'.Plain)
    (hkind : s.kind = s'.kind) (hidentifier : s.identifier = s'.identifier) : s.uri = s'.uri := by
  unfold RecordingSource.Plain at hs hs'
  rw [← hkind] at hs'
  by_cases hnetwork : s.kind.isNetwork = true
  · rw [if_pos hnetwork] at hs hs'
    unfold RecordingSource.identifier at hidentifier
    rwa [if_neg hs, if_neg hs'] at hidentifier
  · rw [if_neg hnetwork] at hs hs'
    rw [hs, hs']

section SameJob

variable {j j' k k' : RecordingJob}

lemma Conflicts.congr (h : Conflicts j k) (hj : SameJob j j') (hk : SameJob k k') :
    Conflicts j' k' where
  station := by rw [← hj.stationId, ← hk.stationId]; exact h.station
  kind := by rw [← hj.source, ← hk.source]; exact h.kind
  identifier := by rw [← hj.source, ← hk.source]; exact h.identifier
  starts := by rw [← hj.plannedStart, ← hk.plannedEnd]; exact h.starts
  ends := by rw [← hk.plannedStart, ← hj.plannedEnd]; exact h.ends

lemma Conflicts.symm (h : Conflicts j k) : Conflicts k j where
  station := h.station.symm
  kind := h.kind.symm
  identifier := h.identifier.symm
  starts := h.ends
  ends := h.starts

end SameJob

/-! ## What the writes do to active jobs -/

/-- Jobs stay, and none becomes active. -/
structure Calm (jobs jobs' : Jobs) : Prop where
  stays : ∀ {jobId row}, jobs.get jobId = some row →
    ∃ row', jobs'.get jobId = some row' ∧ SameJob row' row
  active : ∀ {jobId row'}, jobs'.get jobId = some row' → row'.state.isActive = true →
    ∃ row, jobs.get jobId = some row ∧ row.state.isActive = true ∧ SameJob row row'

section Calm

variable {jobs jobs' : Jobs}

lemma Calm.apart (h : Calm jobs jobs') (hapart : Apart jobs) : Apart jobs' := by
  intro j hj k hk hne hactive hactive' hconflicts
  obtain ⟨j₀, hj₀, hj₀active, hsame⟩ := h.active (get_eq_some_iff.mpr ⟨hj, rfl⟩) hactive
  obtain ⟨k₀, hk₀, hk₀active, hsame'⟩ := h.active (get_eq_some_iff.mpr ⟨hk, rfl⟩) hactive'
  refine hapart j₀ (mem_of_get hj₀) k₀ (mem_of_get hk₀) ?_ hj₀active hk₀active
    (hconflicts.congr hsame.symm hsame'.symm)
  rw [hsame.jobId, hsame'.jobId]
  exact hne

/-- Of the states that are written, only `arming` is active where it was not before. -/
lemma active_of_allowed {row : RecordingJob} {state : JobState}
    (hallowed : state ∈ row.state.allowed) (hstate : state ≠ .arming)
    (hactive : state.isActive = true) : row.state.isActive = true := by
  cases hrow : row.state <;> cases state <;>
    simp_all [JobState.isActive, JobState.allowed]

/-- A call that neither commits an arming nor writes one, and creates scheduled jobs. -/
lemma calm_next {c : Station} {w : World} {o : Op} {reply : Except Failure o.Res}
    (hcommit : ∀ row, o ≠ .commitArming row) (hwrite : ∀ k u, o ≠ .setJobState k .arming u)
    (hcreate : ∀ job, o = .createJob job → job.state = .scheduled) :
    Calm w.jobs (w.next c o reply).jobs := by
  constructor
  · exact World.next_stays
  · intro jobId row' hget hactive
    rcases World.row_cases hget with ⟨row, hold, hsame, horigin⟩ | ⟨-, hnew⟩
    · refine ⟨row, hold, ?_, hsame.symm⟩
      rcases horigin with hstate | ⟨u, ho, hallowed⟩ | ⟨row₀, ho, -⟩
      · rw [← hstate]
        exact hactive
      · refine active_of_allowed hallowed ?_ hactive
        intro harming
        rw [harming] at ho
        exact hwrite _ _ ho
      · exact absurd ho (hcommit row₀)
    · have hscheduled : row'.state = .scheduled := by
        rcases hnew with hcreated | hscheduled
        · exact hcreate row' hcreated
        · exact hscheduled
      rw [hscheduled] at hactive
      cases hactive

end Calm

/-! ## What the guard decides -/

/-- The uri tells the source of the row apart from those that are in use: sources are as
their kind has them, and an active job with the uri of the row conflicts with it. -/
structure ToldApart (jobs : Jobs) (row : RecordingJob) : Prop where
  plain : row.source.Plain
  others : ∀ j ∈ jobs.rows, j.jobId ≠ row.jobId → j.state.isActive = true →
    j.stationId = row.stationId → j.source.Plain
  alike : ∀ j ∈ jobs.rows, j.jobId ≠ row.jobId → j.state.isActive = true →
    j.stationId = row.stationId → j.source.uri = row.source.uri → Conflicts j row

lemma toldApart_iff {row : RecordingJob} : ToldApart jobs row ↔
    row.source.Plain ∧ ∀ j ∈ jobs.rows, j.jobId ≠ row.jobId → j.state.isActive = true →
      j.stationId = row.stationId →
        j.source.Plain ∧ (j.source.uri = row.source.uri → Conflicts j row) := by
  constructor
  · intro h
    exact ⟨h.plain, fun j hj hne hactive hstation =>
      ⟨h.others j hj hne hactive hstation, h.alike j hj hne hactive hstation⟩⟩
  · rintro ⟨hplain, h⟩
    exact ⟨hplain, fun j hj hne hactive hstation => (h j hj hne hactive hstation).1,
      fun j hj hne hactive hstation => (h j hj hne hactive hstation).2⟩

instance {jobs : Jobs} {row : RecordingJob} : Decidable (ToldApart jobs row) :=
  decidable_of_iff' _ toldApart_iff

section Guard

variable {jobs jobs' : Jobs} {jobId : JobId} {row cur : RecordingJob} {error : StoreError}
  {indexed : Bool}

lemma mem_siblings {j : RecordingJob} : j ∈ jobs.siblings row ↔
    j ∈ jobs.rows ∧ j.stationId = row.stationId ∧ j.state.isActive = true ∧
      j.plannedStart < row.plannedEnd ∧ row.plannedStart < j.plannedEnd ∧ j.jobId ≠ row.jobId := by
  unfold siblings
  simp only [List.mem_filter, Bool.and_eq_true, decide_eq_true_eq, and_assoc]

lemma probeArming_ok (h : jobs.probeArming jobId = .ok row) : jobs.get jobId = some row := by
  unfold probeArming at h
  split at h
  · cases h
  · rename_i found hget
    split at h
    · cases h
    · split at h
      · cases h
      · cases h
        exact hget

/-- The probe refuses a job that an active one conflicts with, and no other. -/
lemma probeArming_overlap (h : jobs.probeArming jobId = .error .jobOverlap) :
    Conflicted jobs jobId := by
  unfold probeArming at h
  split at h
  · cases h
  · rename_i row hget
    have hkey : row.jobId = jobId := key_of_get hget
    split at h
    · cases h
    · split at h
      · rename_i hany
        obtain ⟨j, hj, hsource⟩ := List.any_eq_true.mp hany
        obtain ⟨hmem, hstation, hactive, hstarts, hends, hne⟩ := mem_siblings.mp hj
        simp only [Bool.and_eq_true, decide_eq_true_eq] at hsource
        exact ⟨row, hget, j, hmem, hkey ▸ hne, hactive, hstation, hsource.1, hsource.2, hstarts,
          hends⟩
      · cases h

lemma indexTaken_iff : jobs.indexTaken row = true ↔
    ∃ j ∈ jobs.rows, j.jobId ≠ row.jobId ∧ j.state.isActive = true ∧
      j.stationId = row.stationId ∧ j.source.uri = row.source.uri := by
  unfold indexTaken RecordingSource.indexKey
  simp only [List.any_eq_true, Bool.and_eq_true, decide_eq_true_eq, and_assoc]

/-- Where the uri tells sources apart, the index refuses conflicts only. -/
lemma commitArming_overlap (hcur : jobs.get row.jobId = some cur) (hsame : SameJob cur row)
    (htold : ToldApart jobs row) (h : jobs.commitArming true row = .error error) :
    Conflicted jobs row.jobId := by
  unfold commitArming at h
  split at h
  · rename_i htaken
    obtain ⟨j, hj, hne, hactive, hstation, huri⟩ := indexTaken_iff.mp (by simpa using htaken)
    have hconflicts := htold.alike j hj hne hactive hstation huri
    exact ⟨cur, hcur, j, hj, hne, hactive, hconflicts.congr (.refl j) hsame.symm⟩
  · cases h

/-- Where the uri tells sources apart, the index refuses every conflict. -/
lemma commitArming_apart (hapart : Apart jobs) (hcur : jobs.get row.jobId = some cur)
    (hsame : SameJob cur row) (htold : ToldApart jobs row)
    (h : jobs.commitArming true row = .ok jobs') : Apart jobs' := by
  unfold commitArming at h
  split at h
  · cases h
  · rename_i hfree
    cases h
    have hfree : ¬ jobs.indexTaken row = true := by simpa using hfree
    -- the new active row conflicts with none of the others
    have hnew : ∀ k ∈ jobs.rows, k.jobId ≠ row.jobId → k.state.isActive = true →
        ¬ Conflicts row k := by
      intro k hk hne hactive hconflicts
      have hstation := hconflicts.station.symm
      have huri := uri_eq_of_plain (htold.others k hk hne hactive hstation) htold.plain
        hconflicts.kind.symm hconflicts.identifier.symm
      exact hfree (indexTaken_iff.mpr ⟨k, hk, hne, hactive, hstation, huri⟩)
    have hrows : ∀ j ∈ (jobs.modify row.jobId Jobs.armed fun _ => rfl).rows,
        (j.jobId = row.jobId ∧ SameJob j row) ∨ (j.jobId ≠ row.jobId ∧ j ∈ jobs.rows) := by
      intro j hj
      obtain ⟨k, hk, rfl⟩ := List.mem_map.mp hj
      by_cases hkey : k.jobId = row.jobId
      · have hkcur : k = cur := eq_of_key_eq hk (mem_of_get hcur)
          (hkey.trans (key_of_get hcur).symm)
        subst hkcur
        rw [if_pos hkey]
        exact .inl ⟨hkey, hsame.jobId, hsame.stationId, hsame.source, hsame.plannedStart,
          hsame.plannedEnd⟩
      · rw [if_neg hkey]
        exact .inr ⟨hkey, hk⟩
    intro j hj k hk hne hactive hactive' hconflicts
    rcases hrows j hj with ⟨hjid, hjrow⟩ | ⟨hjid, hjold⟩
    · rcases hrows k hk with ⟨hkid, -⟩ | ⟨hkid, hkold⟩
      · exact hne (hjid.trans hkid.symm)
      · exact hnew k hkold hkid hactive' (hconflicts.congr hjrow (.refl k))
    · rcases hrows k hk with ⟨hkid, hkrow⟩ | ⟨hkid, hkold⟩
      · exact hnew j hjold hjid hactive (hconflicts.symm.congr hkrow (.refl j))
      · exact hapart j hjold k hkold hne hactive hactive' hconflicts

lemma commitArming_error (h : jobs.commitArming indexed row = .error error) :
    error = .jobOverlap := by
  unfold commitArming at h
  split at h
  · cases h
    rfl
  · cases h

lemma commitArming_stays (h : jobs.commitArming indexed row = .ok jobs')
    (hget : jobs.get jobId = some cur) :
    ∃ cur', jobs'.get jobId = some cur' ∧ SameJob cur' cur := by
  rw [commitArming_ok h]
  exact World.stays_modify (f := Jobs.armed) (fun _ => rfl)
    (fun _ => ⟨rfl, rfl, rfl, rfl, rfl⟩) hget

end Guard

/-! ## What a request knows -/

/-- The row that the last probe of a request gave, and the job that its guard refused. -/
structure Mine where
  probed : Option (JobId × RecordingJob) := none
  refused : Option JobId := none

/-- A guard that refuses for overlap. -/
def refuses : (o : Op) → Except Failure o.Res → Bool
  | .probeArming _, .error (.store .jobOverlap) => true
  | .commitArming _, .error (.store .jobOverlap) => true
  | _, _ => false

namespace Mine

/-- What a request calls: it commits what it has probed, skips for overlap what its guard
has refused, arms by the guard only, and creates scheduled jobs. -/
def Allows (m : Mine) : Op → Prop
  | .commitArming row => ∃ jobId, m.probed = some (jobId, row)
  | .setJobState jobId state u =>
    state ≠ .arming ∧
      ((∃ conflicting, u.failureReason = some (.overlap conflicting)) → m.refused = some jobId)
  | .createJob job => job.state = .scheduled
  | _ => True

def next (m : Mine) : (o : Op) → Except Failure o.Res → Mine
  | .probeArming jobId, .ok row => ⟨some (jobId, row), m.refused⟩
  | .probeArming jobId, .error (.store .jobOverlap) => ⟨none, some jobId⟩
  | .commitArming _, .error (.store .jobOverlap) => ⟨none, m.probed.map Prod.fst⟩
  | _, _ => m

def monitor : Monitor recordingIface Mine where
  allows := Allows
  next := next

end Mine

section Admitted

variable {α : Type} (jobId : JobId)

/-- A program that makes the calls of a request, whatever it knows. -/
abbrev Admitted (p : RecordingM α) : Prop := p.Safe Mine.monitor.toMachine

lemma admitted_ask (o : Op) (ho : ∀ m : Mine, m.Allows o) : Admitted (ask o) := by
  intro m
  refine ⟨ho m, ?_⟩
  rintro (failure | a) _
  · trivial
  · trivial

lemma admitted_setJobState {state : JobState} {u : Jobs.Update} (hstate : state ≠ .arming)
    (hreason : ∀ conflicting, u.failureReason ≠ some (.overlap conflicting)) :
    Admitted (ask (.setJobState jobId state u)) := by
  refine admitted_ask _ fun m => ⟨hstate, ?_⟩
  rintro ⟨conflicting, h⟩
  exact absurd h (hreason conflicting)

lemma admitted_requireJob : Admitted (requireJob jobId) := by
  refine (admitted_ask (.getJob jobId) fun _ => trivial).bind ?_
  rintro (_ | job)
  · exact safe_raise
  · exact safe_pure

lemma admitted_writeFailure {phase : Phase} : Admitted (writeFailure jobId phase) := by
  refine (admitted_ask .clock fun _ => trivial).bind fun now => ?_
  exact (admitted_setJobState jobId (by decide) (by simp)).bind fun _ => safe_pure

lemma admitted_failJob {phase : Phase} : Admitted (failJob jobId phase) :=
  (admitted_writeFailure jobId).bind fun _ => safe_raise

lemma admitted_recordJobFailure (phase : Phase) : Admitted (recordJobFailure jobId phase) :=
  (admitted_writeFailure jobId).bind fun _ => admitted_requireJob jobId

lemma admitted_deliver : Admitted (deliver jobId) := by
  have hstop : Admitted (stopCapture jobId) :=
    (admitted_ask (.takeCapture jobId) fun _ => trivial).bind fun _ =>
      (admitted_ask (.mergeCapture jobId) fun _ => trivial).bind fun _ => safe_pure
  exact hstop.bind fun _ =>
    (admitted_ask (.finalizeToAsset jobId) fun _ => trivial).bind fun _ => safe_pure

lemma admitted_complete {result : CaptureResult} {assetId : String} :
    Admitted (complete jobId result assetId) :=
  (admitted_ask .clock fun _ => trivial).bind fun _ =>
    admitted_setJobState jobId (by decide) (by simp)

/-- The guard commits what it has probed, and raises an overlap where it was refused. -/
lemma wp_transitionToArming (m : Mine) :
    (transitionToArming jobId).wp Mine.monitor.toMachine
      (fun r m' => r = .error (.store .jobOverlap) → m'.refused = some jobId) m := by
  refine ⟨trivial, ?_⟩
  rintro (failure | row) _
  · intro hr
    cases hr
    rfl
  · refine ⟨⟨jobId, rfl⟩, ?_⟩
    rintro (failure | _) _
    · intro hr
      cases hr
      rfl
    · intro hr
      cases hr

lemma admits_skipOverlapping {jobId : JobId} {job : RecordingJob} {m : Mine}
    (hm : m.refused = some jobId) : Mine.monitor.Admits (skipOverlapping jobId job) m := by
  refine ⟨trivial, ?_⟩
  rintro (failure | overlaps) _
  · trivial
  · refine ⟨trivial, ?_⟩
    rintro (failure | now) _
    · trivial
    · refine ⟨⟨by decide, fun _ => hm⟩, ?_⟩
      rintro (failure | row) _
      · trivial
      · trivial

lemma admitted_armJob : Admitted (armJob jobId) := by
  refine (admitted_requireJob jobId).bind fun job => ?_
  refine .ite safe_raise ?_
  intro m
  refine wp_attempt_seq ?_
  refine wp_mono ?_ (wp_transitionToArming jobId m)
  intro r m' hr
  have hraise : ∀ e : Failure, Mine.monitor.Admits (.raise e : RecordingM RecordingJob) m' :=
    fun _ => trivial
  rcases r with failure | _
  · cases failure with
    | store error =>
      cases error with
      | jobOverlap => exact admits_skipOverlapping (hr rfl)
      | _ => exact hraise _
    | _ => exact hraise _
  · refine (Safe.bind (admitted_ask (.armCapture jobId) fun _ => trivial).attempt ?_) m'
    rintro (failure | _)
    · exact admitted_failJob jobId
    · exact admitted_requireJob jobId

lemma admitted_startJob : Admitted (startJob jobId) := by
  refine (admitted_requireJob jobId).bind fun job => ?_
  refine .ite safe_raise ?_
  refine (admitted_ask .clock fun _ => trivial).bind fun (now : ℤ) => ?_
  refine .ite (admitted_failJob jobId) ?_
  refine (admitted_ask (.startCapture jobId) fun _ => trivial).attempt.bind ?_
  rintro (failure | _)
  · exact admitted_failJob jobId
  · exact admitted_setJobState jobId (by decide) (by simp)

lemma admitted_finalizeJob : Admitted (finalizeJob jobId) := by
  refine (admitted_requireJob jobId).bind fun job => ?_
  refine .ite safe_raise ?_
  refine (admitted_setJobState jobId (by decide) (by simp)).bind fun _ => ?_
  refine (admitted_deliver jobId).attempt.bind ?_
  rintro (failure | ⟨result, assetId⟩)
  · exact admitted_failJob jobId
  · exact admitted_complete jobId

lemma admitted_stopJob : Admitted (stopJob jobId) := by
  refine (admitted_requireJob jobId).bind fun job => ?_
  refine .ite (.ite ?_ ?_) safe_raise
  · refine (admitted_ask (.stopArming jobId) fun _ => trivial).attempt.bind ?_
    rintro (failure | _)
    · exact admitted_failJob jobId
    · exact (admitted_ask .clock fun _ => trivial).bind fun now =>
        admitted_setJobState jobId (by decide) (by simp)
  · have hrest : Admitted (stopFinalizing jobId) := by
      refine (admitted_deliver jobId).attempt.bind ?_
      rintro (failure | ⟨result, assetId⟩)
      · exact admitted_recordJobFailure jobId .stop
      · refine .ite ?_ (admitted_complete jobId)
        exact (admitted_ask .clock fun _ => trivial).bind fun now =>
          admitted_setJobState jobId (by decide) (by simp)
    exact .ite ((admitted_setJobState jobId (by decide) (by simp)).bind fun _ => hrest) hrest

lemma admitted_cancelJobs (prearmed : Bool) (list : List RecordingJob) :
    ∀ cancelled, Admitted (cancelJobs prearmed list cancelled) := by
  induction list with
  | nil => exact fun _ => safe_pure
  | cons job rest ih =>
    intro cancelled
    refine (admitted_ask .clock fun _ => trivial).bind fun now => ?_
    refine (admitted_setJobState job.jobId (by decide) (by simp)).attempt.bind ?_
    rintro (failure | _)
    · cases failure with
      | store error =>
        cases error with
        | jobState => exact ih cancelled
        | _ => exact safe_raise
      | _ => exact safe_raise
    · refine .ite ?_ (ih _)
      exact (admitted_ask (.stopArming job.jobId) fun _ => trivial).attempt.bind fun _ => ih _

lemma compositional_admitted : Compositional fun p => Admitted p where
  pure := fun _ => safe_pure
  raise := fun _ => safe_raise
  bind := .bind
  attempt := .attempt
  plain o ho := by
    refine admitted_ask o fun m => ?_
    cases o <;> trivial
  create job hjob := admitted_ask (.createJob job) fun _ => hjob
  arm := admitted_armJob
  start := admitted_startJob
  finalize := admitted_finalizeJob
  stop := admitted_stopJob
  cancel := admitted_cancelJobs

end Admitted

/-! ## Interleavings -/

/-- The world, with the table that each request was last refused on. -/
structure Desk (T : Type) where
  world : World
  refusals : T → Option Jobs

section Desk

variable {T : Type} [DecidableEq T] (c : Station)

/-- The station as request `t` sees it, in runs in which every call meets a condition. -/
def Desk.machine (cond : World → Op → Prop) (t : T) : Machine recordingIface (Desk T) where
  pre := fun _ _ => True
  legal := fun d o reply => d.world.Replies c o reply ∧ cond d.world o
  next := fun d o reply =>
    { world := d.world.next c o reply
      refusals :=
        if refuses o reply then update d.refusals t (some d.world.jobs)
        else d.refusals }

/-- The uri tells sources apart at every commit. -/
def MeetsToldApart (w : World) : Op → Prop
  | .commitArming row => ToldApart w.jobs row
  | _ => True

abbrev Requests (T : Type) := Config T recordingIface Failure Mine (Desk T)

def Requests.initial (calls : T → List ServiceCall) (w : World) : Requests T where
  code := fun t => requests (calls t)
  ghost := fun _ => {}
  world := ⟨w, fun _ => none⟩

/-- The interleavings of requests whose calls all meet a condition. -/
def Requests.Reached (cond : World → Op → Prop) (calls : T → List ServiceCall) (w : World) :
    Requests T → Prop :=
  Config.Reach (Desk.machine c cond) (fun _ => Mine.monitor) (fun _ _ => True)
    (Requests.initial calls w)

/-- The job that a program is about to skip for overlap. -/
def skipping : RecordingM Unit → Option JobId
  | .call (.setJobState jobId .skipped u) _ =>
    match u.failureReason with
    | some (.overlap _) => some jobId
    | _ => none
  | _ => none

/-- No two active jobs conflict, and what is skipped for overlap was in conflict with an
active job where its guard refused it. -/
structure Requests.Sound (r : Requests T) : Prop where
  apart : Apart r.world.world.jobs
  skips : ∀ t jobId, skipping (r.code t) = some jobId →
    ∃ jobs, r.world.refusals t = some jobs ∧ Conflicted jobs jobId

/-- What the requests know is so. -/
structure Desk.Inv (g : T → Mine) (d : Desk T) : Prop where
  apart : Apart d.world.jobs
  probed : ∀ t jobId row, (g t).probed = some (jobId, row) →
    row.jobId = jobId ∧ ∃ cur, d.world.jobs.get jobId = some cur ∧ SameJob cur row
  refused : ∀ t jobId, (g t).refused = some jobId →
    ∃ jobs, d.refusals t = some jobs ∧ Conflicted jobs jobId

variable {c} {g : T → Mine} {d : Desk T} {t : T} {jobId : JobId} {row : RecordingJob}

omit [DecidableEq T] in
/-- A call that tells the requests nothing new, and arms nothing. -/
lemma Desk.Inv.calm (h : d.Inv g) {w' : World} (hcalm : Calm d.world.jobs w'.jobs) :
    Desk.Inv g ⟨w', d.refusals⟩ where
  apart := hcalm.apart h.apart
  probed := by
    intro t jobId row hprobed
    obtain ⟨hid, cur, hcur, hsame⟩ := h.probed t jobId row hprobed
    obtain ⟨cur', hcur', hsame'⟩ := hcalm.stays hcur
    exact ⟨hid, cur', hcur', hsame'.trans hsame⟩
  refused := h.refused

lemma Desk.Inv.refuse (h : d.Inv g) (hconflicted : Conflicted d.world.jobs jobId) :
    Desk.Inv (update g t ⟨none, some jobId⟩)
      ⟨d.world, update d.refusals t (some d.world.jobs)⟩ where
  apart := h.apart
  probed := by
    intro t' jobId' row hprobed
    by_cases ht : t' = t
    · subst ht
      rw [update_self] at hprobed
      cases hprobed
    · rw [update_of_ne ht] at hprobed
      exact h.probed t' jobId' row hprobed
  refused := by
    intro t' jobId' hrefused
    by_cases ht : t' = t
    · subst ht
      rw [update_self] at hrefused
      cases hrefused
      exact ⟨d.world.jobs, update_self _ _ _, hconflicted⟩
    · rw [update_of_ne ht] at hrefused
      obtain ⟨jobs, hjobs, hconflicted'⟩ := h.refused t' jobId' hrefused
      exact ⟨jobs, (update_of_ne ht _ _).trans hjobs, hconflicted'⟩

lemma Desk.Inv.probe (h : d.Inv g) (hprobe : d.world.jobs.probeArming jobId = .ok row) :
    Desk.Inv (update g t ⟨some (jobId, row), (g t).refused⟩) d where
  apart := h.apart
  probed := by
    intro t' jobId' row' hprobed
    by_cases ht : t' = t
    · subst ht
      rw [update_self] at hprobed
      cases hprobed
      have hget := probeArming_ok hprobe
      exact ⟨key_of_get hget, row, hget, .refl row⟩
    · rw [update_of_ne ht] at hprobed
      exact h.probed t' jobId' row' hprobed
  refused := by
    intro t' jobId' hrefused
    by_cases ht : t' = t
    · subst ht
      rw [update_self] at hrefused
      exact h.refused t' jobId' hrefused
    · rw [update_of_ne ht] at hrefused
      exact h.refused t' jobId' hrefused

omit [DecidableEq T] in
lemma Desk.Inv.commit (h : d.Inv g) {jobs : Jobs} (hprobed : (g t).probed = some (jobId, row))
    (htold : ToldApart d.world.jobs row) (hcommit : d.world.jobs.commitArming true row = .ok jobs) :
    Desk.Inv g ⟨{ d.world with jobs := jobs }, d.refusals⟩ := by
  obtain ⟨rfl, cur, hcur, hsame⟩ := h.probed t jobId row hprobed
  constructor
  · exact commitArming_apart h.apart hcur hsame htold hcommit
  · intro t' jobId' row' hprobed'
    obtain ⟨hid, cur', hcur', hsame'⟩ := h.probed t' jobId' row' hprobed'
    obtain ⟨cur'', hcur'', hsame''⟩ := commitArming_stays hcommit hcur'
    exact ⟨hid, cur'', hcur'', hsame''.trans hsame'⟩
  · exact h.refused

lemma Desk.Inv.step (hindexed : c.indexed = true) (h : d.Inv g) {o : Op}
    {reply : Except Failure o.Res} (hallows : (g t).Allows o)
    (hlegal : (Desk.machine c MeetsToldApart t).legal d o reply) :
    Desk.Inv (update g t ((g t).next o reply))
      ((Desk.machine c MeetsToldApart t).next d o reply) := by
  obtain ⟨hreplies, hmeets⟩ := hlegal
  -- most calls tell the request nothing about the guard
  have hplain : (g t).next o reply = g t → refuses o reply = false →
      Calm d.world.jobs (d.world.next c o reply).jobs →
      Desk.Inv (update g t ((g t).next o reply))
        ((Desk.machine c MeetsToldApart t).next d o reply) := by
    intro hnext hpasses hcalm
    have hd : (Desk.machine c MeetsToldApart t).next d o reply =
        ⟨d.world.next c o reply, d.refusals⟩ := by
      show Desk.mk _ _ = _
      rw [if_neg (by simp [hpasses])]
    rw [hnext, update_eq_self, hd]
    exact h.calm hcalm
  cases o with
  | probeArming jobId =>
    cases reply with
    | ok row => exact h.probe hreplies
    | error failure =>
      obtain ⟨error, herror, rfl⟩ := hreplies
      cases error with
      | jobOverlap => exact h.refuse (probeArming_overlap herror)
      | _ => exact hplain rfl rfl (calm_next (fun _ h => nomatch h) (fun _ _ h => nomatch h)
          fun _ h => nomatch h)
  | commitArming row =>
    obtain ⟨jobId, hprobed⟩ := hallows
    have hmeets : ToldApart d.world.jobs row := hmeets
    cases reply with
    | ok a =>
      obtain ⟨jobs, hjobs⟩ := hreplies
      have hcommit := h.commit hprobed hmeets (hindexed ▸ hjobs)
      have hd : (Desk.machine c MeetsToldApart t).next d (.commitArming row) (.ok a) =
          ⟨{ d.world with jobs := jobs }, d.refusals⟩ := by
        show Desk.mk (d.world.wrote (d.world.jobs.commitArming c.indexed row)) d.refusals = _
        rw [hjobs]
        rfl
      show Desk.Inv (update g t (g t)) _
      rw [update_eq_self, hd]
      exact hcommit
    | error failure =>
      obtain ⟨error, herror, rfl⟩ := hreplies
      have hoverlap := commitArming_error herror
      subst hoverlap
      obtain ⟨rfl, cur, hcur, hsame⟩ := h.probed t jobId row hprobed
      have hrefuse := h.refuse (t := t) (commitArming_overlap hcur hsame hmeets (hindexed ▸ herror))
      have hd : (Desk.machine c MeetsToldApart t).next d (.commitArming row)
          (.error (.store .jobOverlap)) =
          ⟨d.world, update d.refusals t (some d.world.jobs)⟩ := by
        show Desk.mk (d.world.wrote (d.world.jobs.commitArming c.indexed row)) _ = _
        rw [herror]
        rfl
      have hm : (g t).next (.commitArming row) (.error (.store .jobOverlap)) =
          ⟨none, some row.jobId⟩ := by
        show Mine.mk none ((g t).probed.map Prod.fst) = _
        rw [hprobed]
        rfl
      rw [hm, hd]
      exact hrefuse
  | setJobState jobId state u =>
    refine hplain rfl rfl (calm_next (fun _ h => nomatch h) ?_ fun _ h => nomatch h)
    intro k u' heq
    cases heq
    exact hallows.1 rfl
  | createJob job =>
    refine hplain rfl rfl (calm_next (fun _ h => nomatch h) (fun _ _ h => nomatch h) ?_)
    intro job' heq
    cases heq
    exact hallows
  | _ => exact hplain rfl rfl (calm_next (fun _ h => nomatch h) (fun _ _ h => nomatch h)
      fun _ h => nomatch h)

lemma refused_of_skipping {p : RecordingM Unit} {m : Mine}
    (hadmits : Mine.monitor.Admits p m) (h : skipping p = some jobId) : m.refused = some jobId := by
  unfold skipping at h
  split at h
  · split at h
    · rename_i conflicting hreason
      cases h
      exact hadmits.1.2 ⟨conflicting, hreason⟩
    · cases h
  · cases h

/-- On a database with the index, no two active jobs conflict, and what is skipped for
overlap was in conflict: in every interleaving of requests in which the uri tells sources
apart at every commit. -/
theorem conflict_by_source (hindexed : c.indexed = true) (calls : T → List ServiceCall) (w : World)
    (hw : Apart w.jobs) (r : Requests T) (hrun : Requests.Reached c MeetsToldApart calls w r) :
    r.Sound := by
  have hadmits := hrun.admits fun t => compositional_admitted.requests (calls t) _
  have hinit : Desk.Inv (fun _ : T => ({} : Mine)) ⟨w, fun _ => none⟩ := by
    constructor
    · exact hw
    · intro t jobId row h
      cases h
    · intro t jobId h
      cases h
  have hinv : Desk.Inv r.ghost r.world :=
    hrun.invariant (fun t => compositional_admitted.requests (calls t) _) hinit
      fun g d t o reply hd _ hallows hlegal => hd.step hindexed hallows hlegal
  constructor
  · exact hinv.apart
  · intro t jobId hskipping
    exact hinv.refused t jobId (refused_of_skipping (hadmits t) hskipping)

end Desk

/-! ## Two recordings at a time -/

namespace TwoSources

def station : Station := ⟨"main", 0, .utc, 500, true⟩

def hour (name : String) (source : RecordingSource) : RecordingJob :=
  .planned (.adhoc name) "main" none 0 3600000000 source

/-- The council is being armed while planning is still scheduled. -/
def world (council planning : RecordingSource) : World where
  schedules := []
  jobs :=
    { rows := [Jobs.armed (hour "council" council), hour "planning" planning]
      nodup := by simp [hour, Jobs.armed, RecordingJob.planned] }
  active := fun _ => none
  assets := []
  now := 0

variable (cond : World → Op → Prop) [∀ w o, Decidable (cond w o)]

def answers (_ : Unit) (d : Desk Unit) (o : Op) :
    Option {x : Except Failure o.Res // (Desk.machine station cond ()).legal d o x} :=
  if h : cond d.world o then (d.world.reply station o).map fun x => ⟨x.1, x.2, h⟩ else none

/-- One request that arms planning, after a number of its calls. -/
def arming (w : World) (n : ℕ) : Option (Requests Unit) :=
  Config.drive (Desk.machine station cond) (fun _ => Mine.monitor) (answers cond)
    (fun _ _ => True) (List.replicate n ())
    (Requests.initial (fun _ => [.arm (.adhoc "planning")]) w)

lemma reached_arming {w : World} {n : ℕ} {r : Requests Unit} (h : arming cond w n = some r) :
    Requests.Reached station cond (fun _ => [.arm (.adhoc "planning")]) w r :=
  Config.reach_of_drive .refl h

instance (w : World) (o : Op) : Decidable (MeetsToldApart w o) :=
  match o with
  | .commitArming row => inferInstanceAs (Decidable (ToldApart w.jobs row))
  | .clock | .deadlinePassed | .expand _ | .getSchedule _ | .getJob _ | .listJobs _
  | .listJobsOf _ _ | .createJob _ | .setJobState _ _ _ | .probeArming _ | .findOverlapping _
  | .recordDropout _ | .armCapture _ | .startCapture _ | .takeCapture _ | .mergeCapture _
  | .stopArming _ | .checkDropout _ | .finalizeToAsset _ => .isTrue trivial

/-- The council and planning on two inputs. -/
def inputs : World := world ⟨.sdi, "sdi-1", ""⟩ ⟨.sdi, "sdi-2", ""⟩

/-- The council and planning on two cameras. -/
def cameras : World := world ⟨.rtsp, "", "rtsp://one"⟩ ⟨.rtsp, "", "rtsp://two"⟩

end TwoSources

open TwoSources in
/-- Of two inputs at one time the second is skipped, and nothing conflicts with it. -/
theorem second_input_skipped :
    ∃ r : Requests Unit,
      Requests.Reached station (fun _ _ => True) (fun _ => [.arm (.adhoc "planning")]) inputs r ∧
        ¬ r.Sound := by
  have hsome : (arming (fun _ _ => True) inputs 5).isSome = true := by decide +kernel
  obtain ⟨r, hr⟩ := isSome_iff_exists.mp hsome
  refine ⟨r, reached_arming _ hr, ?_⟩
  have hskipping : (arming (fun _ _ => True) inputs 5).map (fun r => skipping (r.code ())) =
      some (some (.adhoc "planning")) := by decide +kernel
  have hfree : (arming (fun _ _ => True) inputs 5).all (fun r =>
      (r.world.refusals ()).all fun jobs => !decide (Conflicted jobs (.adhoc "planning"))) =
      true := by decide +kernel
  rw [hr] at hskipping hfree
  intro hsound
  obtain ⟨jobs, hjobs, hconflicted⟩ := hsound.skips () _ (some.inj hskipping)
  simp [hjobs, hconflicted] at hfree

open TwoSources in
/-- Of two cameras at one time both are armed. -/
theorem second_camera_armed :
    ∃ r : Requests Unit, arming MeetsToldApart cameras 4 = some r ∧ r.Sound ∧
      (r.world.world.jobs.rows.map (·.state)) = [.arming, .arming] := by
  have hsome : (arming MeetsToldApart cameras 4).isSome = true := by decide +kernel
  obtain ⟨r, hr⟩ := isSome_iff_exists.mp hsome
  have hstates : (arming MeetsToldApart cameras 4).map
      (fun r => r.world.world.jobs.rows.map (·.state)) = some [.arming, .arming] := by
    decide +kernel
  have hapart : Apart cameras.jobs := by
    unfold Apart
    decide +kernel
  rw [hr] at hstates
  exact ⟨r, hr, conflict_by_source rfl _ cameras hapart r (reached_arming _ hr),
    some.inj hstates⟩

end CivicCast.Recording
