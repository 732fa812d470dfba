import CivicCast.Live.Finalization

/-!
# The package of a completed job

The worker skips packaging where there is a manifest and the trim it has recorded is the one that
is asked for. It records the trim of a package when the whole attempt is over, so what is on disk
may be of another call: one that stopped half way, or one with another trim whose upload failed.

`package_as_asked` is about every run in which, wherever packaging is skipped, the last packager
call that wrote to the package succeeded and had the trim that is asked for. The worker scans, dies
and is started again at any call, and operators change trims, end broadcasts and ask for retries
in between. `trim_edited_back` is a run in which that is not so.
-/

namespace CivicCast.Live.Finalization

open Lib Lib.Prog Option List Function World

/-! ## The calls of one package -/

namespace Shelf

variable {s : Shelf} {c : PackCall} {earlier : List PackCall}

/-- The last call that wrote anything is the writer of all that it wrote. -/
def Sound (s : Shelf) : Prop :=
  ∀ later c earlier, s.calls = later ++ c :: earlier → (∀ c' ∈ later, c'.written = []) →
    ∀ part ∈ c.written, s.writer part = some earlier.length

lemma bare_sound : bare.Sound := by
  intro later c earlier h
  simp [bare] at h

lemma Sound.start (h : s.Sound) (trim : Trim) : (s.start trim).Sound := by
  intro later c earlier hcalls hnothing part hpart
  cases later with
  | nil =>
    -- the call that begins has written nothing
    obtain ⟨rfl, -⟩ := cons.inj hcalls
    cases hpart
  | cons first later =>
    obtain ⟨-, hcalls⟩ := cons.inj hcalls
    exact h later c earlier hcalls (forall_mem_cons.mp hnothing).2 part hpart

lemma write_cons (h : s.calls = c :: earlier) (part : Part) (done : Bool) :
    s.write part done =
      ⟨⟨c.trim, part :: c.written, done && part = .timeline⟩ :: earlier,
        update s.writer part (some earlier.length)⟩ := by
  unfold write
  rw [h]

lemma Sound.write (h : s.Sound) (part : Part) (done : Bool) : (s.write part done).Sound := by
  cases hcalls : s.calls with
  | nil =>
    have heq : s.write part done = s := by
      unfold Shelf.write
      rw [hcalls]
    rw [heq]
    exact h
  | cons c earlier =>
    rw [write_cons hcalls]
    intro later c' earlier' heq hnothing other hother
    cases later with
    | nil =>
      obtain ⟨rfl, rfl⟩ := cons.inj heq
      rcases eq_or_ne other part with rfl | hne
      · exact update_self ..
      · have hwritten : other ∈ c.written := (mem_cons.mp hother).resolve_left hne
        refine (update_of_ne hne _ _).trans ?_
        exact h [] c earlier hcalls nofun other hwritten
    | cons first later =>
      -- the call at work has written this part
      obtain ⟨rfl, -⟩ := cons.inj heq
      cases (forall_mem_cons.mp hnothing).1

lemma Sound.holds_last (h : s.Sound) (hlast : s.last = some c)
    (hsucceeded : c.succeeded = true) : s.Holds c.trim := by
  obtain ⟨-, later, earlier, hcalls, hnothing⟩ := find?_eq_some_iff_append.mp hlast
  refine ⟨later, c, earlier, hcalls, hsucceeded, rfl, h later c earlier hcalls ?_⟩
  intro c' hc'
  simpa using hnothing c' hc'

lemma Sound.holds_write (h : s.Sound)
    (hcalls : s.calls = c :: earlier) : (s.write .timeline true).Holds c.trim := by
  have hsound : (s.write .timeline true).Sound := h.write .timeline true
  rw [write_cons hcalls] at hsound ⊢
  exact ⟨[], _, earlier, rfl, rfl, rfl, hsound [] _ earlier rfl nofun⟩

end Shelf

/-! ## What the worker does, call by call -/

/-- What the worker knows of its own doing: the job of its attempt, the directory and the trim of
the packager call at work, and those of a package it has made or found. -/
structure Ledger (K P : Type) where
  running : Option K
  packing : Option (P × Trim)
  ready : Option (P × Trim)

namespace Ledger

variable {K P : Type}

def blank : Ledger K P := ⟨none, none, none⟩

def told (g : Ledger K P) : (o : FinOp K P) → o.Res → Ledger K P
  | .startAttempt id _, _ => ⟨some id, none, none⟩
  | .isPackaged dir _ _ requested, true => { g with ready := some (dir, requested) }
  | .mkdir dir _ trim, _ => { g with packing := some (dir, trim), ready := none }
  | .write _ _ part, done =>
    { g with ready := if done && part = .timeline then g.packing else none }
  | .neverAppeared _, _ | .complete _ _ _, _ | .recordFailure _ _ _ _, _ => blank
  | _, _ => g

def after (g : Ledger K P) (o : FinOp K P) : Answer o.Res → Ledger K P
  | .value x => g.told o x
  | _ => g

/-- The packager works on the package of the attempt, and what is recorded as complete is what the
worker has made or found. -/
def Allows (g : Ledger K P) : FinOp K P → Prop
  | .isPackaged _ id _ _ | .mkdir _ id _ => g.running = some id
  | .write dir id _ => g.running = some id ∧ ∃ trim, g.packing = some (dir, trim)
  | .complete id dir trim => g.running = some id ∧ g.ready = some (dir, trim)
  | o => o.isOperator = false

end Ledger

inductive Thread where
  | worker
  | operators
  deriving DecidableEq

def Ledger.monitor {K P : Type} : Thread → Monitor (finIface K P) (Ledger K P)
  | .worker => ⟨Allows, after⟩
  | .operators => ⟨fun _ o => o.isOperator = true, fun g _ _ => g⟩

section Worker

variable {K P : Type} {g : Ledger K P} {id : K} {dir : P} {trim : Trim} {o : FinOp K P}
  {part : Part} (cfg : Settings)

abbrev book : Machine (finIface K P) (Ledger K P) := (Ledger.monitor .worker).toMachine

lemma ask_wp {Q : Except FinError o.Res → Ledger K P → Prop} (hallows : g.Allows o)
    (hvalue : ∀ x, Q (.ok x) (g.told o x)) (herror : ∀ e, Q (.error e) g) :
    (ask o).wp book Q g := by
  refine ⟨hallows, fun x _ => ?_⟩
  cases x with
  | value x => exact hvalue x
  | raised => exact herror .raised
  | died => exact herror .died

lemma ask_safe (hallows : ∀ g : Ledger K P, g.Allows o) : (ask o).Safe book :=
  fun g => ask_wp (hallows g) (fun _ => trivial) fun _ => trivial

lemma ask_quiet (hallows : g.Allows o) (hquiet : ∀ x, g.told o x = g)
    {R : Ledger K P → Prop} (h : R g) : (ask o).wp book (Either (fun _ => R) fun _ => True) g := by
  refine ask_wp hallows (fun x => ?_) fun _ => trivial
  rw [hquiet x]
  exact h

lemma exceptAny_wp {α : Type} {p : FinM K P α} {handler : FinError → FinM K P α}
    {R : α → Ledger K P → Prop} (hp : p.wp book (Either R fun _ => True) g)
    (hhandler : ∀ e g', (handler e).wp book (Either R fun _ => True) g') :
    (exceptAny p handler).wp book (Either R fun _ => True) g := by
  unfold exceptAny
  rw [wp_bind, wp_attempt]
  refine wp_mono ?_ hp
  intro r g' hr
  cases r with
  | ok a => exact hr
  | error e =>
    cases e with
    | died => trivial
    | valueError => exact hhandler .valueError g'
    | raised => exact hhandler .raised g'
    | classified code => exact hhandler (.classified code) g'

/-! ## A packager call -/

/-- The packager is at work for this job, in this directory and with this trim. -/
def Packing (id : K) (dir : P) (trim : Trim) (g : Ledger K P) : Prop :=
  g.running = some id ∧ g.packing = some (dir, trim)

def Ready (id : K) (dir : P) (trim : Trim) (g : Ledger K P) : Prop :=
  g.running = some id ∧ g.ready = some (dir, trim)

variable (h : Packing id dir trim g)
include h

lemma write_wp :
    (ask (.write dir id part)).wp book (Either (fun done g' => Packing id dir trim g' ∧
      (done = true → part = .timeline → Ready id dir trim g')) fun _ => True) g := by
  refine ask_wp ⟨h.1, trim, h.2⟩ (fun done => ⟨h, ?_⟩) fun _ => trivial
  rintro hdone rfl
  obtain rfl : done = true := hdone
  exact ⟨h.1, h.2⟩

lemma writePart_wp :
    (writePart dir id part).wp book (Either (fun _ g' => Packing id dir trim g' ∧
      (part = .timeline → Ready id dir trim g')) fun _ => True) g := by
  refine either_bind (write_wp h) ?_
  rintro done g' ⟨hpacking, hready⟩
  cases done with
  | true => exact ⟨hpacking, hready rfl⟩
  | false => trivial

lemma generateSlate_wp :
    (generateSlate dir id).wp book (Either (fun _ => Packing id dir trim) fun _ => True) g := by
  refine either_bind (write_wp h) ?_
  rintro done g' ⟨hpacking, -⟩
  cases done with
  | true => exact hpacking
  | false => exact either_mono (writePart_wp hpacking) (fun _ _ hg => hg.1) fun _ _ => trivial

lemma encodeRenditions_wp {ladder : List ℕ} :
    (encodeRenditions dir id ladder).wp book
      (Either (fun _ => Packing id dir trim) fun _ => True) g := by
  induction ladder generalizing g with
  | nil => exact h
  | cons n rest ih =>
    refine either_bind (writePart_wp h) ?_
    rintro ⟨⟩ g' ⟨hpacking, -⟩
    exact ih hpacking

omit h

lemma packVodAsset_wp (h : g.running = some id) :
    (packVodAsset dir id trim).wp book (Either (fun _ => Ready id dir trim) fun _ => True) g := by
  refine either_bind (ask_quiet (R := (·.running = some id)) (o := .isFile dir id) rfl
    (fun _ => rfl) h) ?_
  intro there g₁ hg₁
  refine wp_ite (fun _ => ?_) fun _ => trivial
  refine wp_ite (fun _ => ?_) fun _ => trivial
  have hmkdir : (ask (.mkdir dir id trim)).wp book
      (Either (fun _ => Packing id dir trim) fun _ => True) g₁ :=
    ask_wp hg₁ (fun _ => ⟨hg₁, rfl⟩) fun _ => trivial
  refine either_bind hmkdir fun _ g₂ hg₂ => ?_
  refine either_bind (generateSlate_wp hg₂) fun _ g₃ hg₃ => ?_
  refine either_bind (ask_quiet (o := .selectLadder dir id) rfl (fun _ => rfl) hg₃) ?_
  intro ladder g₄ hg₄
  refine either_bind (encodeRenditions_wp hg₄) fun _ g₅ hg₅ => ?_
  refine either_bind (writePart_wp hg₅) fun _ g₆ hg₆ => ?_
  exact either_mono (writePart_wp hg₆.1) (fun _ _ hg => hg.2 rfl) fun _ _ => trivial

lemma packageOnce_wp {packaged : Trim} (h : g.running = some id) :
    (packageOnce dir id trim packaged).wp book
      (Either (fun package => Ready id package trim) fun _ => True) g := by
  have hskip : (ask (.isPackaged dir id packaged trim)).wp book
      (Either (fun skip g' => g'.running = some id ∧ (skip = true → Ready id dir trim g'))
        fun _ => True) g := by
    refine ask_wp h (fun skip => ?_) fun _ => trivial
    cases skip with
    | true => exact ⟨h, fun _ => ⟨h, rfl⟩⟩
    | false => exact ⟨h, fun hskip => by cases hskip⟩
  refine either_bind hskip ?_
  rintro skip g' ⟨hrunning, hready⟩
  cases skip with
  | true => exact hready rfl
  | false =>
    refine either_bind (packVodAsset_wp hrunning) ?_
    exact fun _ _ hg => hg

/-! ## A scan -/

/-- What is allowed from any ledger, however it ends. -/
lemma either_of_safe {α : Type} {p : FinM K P α} (h : p.Safe book) :
    p.wp book (Either (fun _ _ => True) fun _ => True) g := by
  refine wp_mono ?_ (h g)
  intro r _ _
  cases r with
  | ok a | error e => trivial

lemma recordFailure_safe (id : K) {failure : FinError} (now : ℚ) :
    (recordFailure (P := P) cfg id failure now).Safe book :=
  ask_safe fun _ => rfl

lemma complete_wp (h : Ready id dir trim g) :
    (ask (.complete id dir trim)).wp book (Either (fun _ _ => True) fun _ => True) g :=
  ask_wp h (fun _ => trivial) fun _ => trivial

lemma finalizeRecording_wp {duration : Option ℚ} (h : g.running = some id) :
    (finalizeRecording (P := P) id trim duration).wp book
      (Either (fun _ g' => g'.running = some id) fun _ => True) g := by
  refine either_bind (ask_quiet (R := (·.running = some id))
    (o := .finalizeRecording id trim duration) rfl (fun _ => rfl) h) ?_
  intro result g' hg'
  match result with
  | .ok _ => exact hg'
  | .error .valueError => trivial
  | .error .other => trivial

lemma attempted_wp {cfg : Settings} (h : g.running = some id) :
    (attempted (P := P) cfg id).wp book (Either (fun _ _ => True) fun _ => True) g := by
  refine either_bind (ask_quiet (R := (·.running = some id)) (o := .getStatus id) rfl
    (fun _ => rfl) h) ?_
  intro (status : Option (Job K P)) g₁ hg₁
  split
  · trivial
  · rename_i job uri _
    cases localRecordingPath uri with
    | none => trivial
    | some dir =>
      have hprobe := ask_quiet (R := (·.running = some id)) (o := .probe dir id) rfl
        (fun _ => rfl) hg₁
      refine either_bind (exceptAny_wp hprobe fun _ _ => trivial) fun duration g₂ hg₂ => ?_
      refine either_bind (finalizeRecording_wp hg₂) fun trim g₃ hg₃ => ?_
      refine either_bind (exceptAny_wp (packageOnce_wp hg₃) fun _ _ => trivial) ?_
      intro package g₄ hg₄
      refine wp_ite (fun _ => ?_) fun _ => complete_wp hg₄
      have hupload := ask_quiet (o := .uploadPackage package id) rfl (fun _ => rfl) hg₄
      refine either_bind (exceptAny_wp hupload fun _ _ => trivial) fun _ g₅ hg₅ => ?_
      exact complete_wp hg₅

lemma attemptJob_safe (id : K) (now : ℚ) : (attemptJob (P := P) cfg id now).Safe book := by
  intro g
  have hstart : (ask (.startAttempt id now)).wp book
      (Either (fun _ g' => g'.running = some id) fun _ => True) g :=
    ask_wp rfl (fun _ => rfl) fun _ => trivial
  refine wp_mono (fun _ _ _ => trivial) (either_bind (L := fun _ _ => True) hstart ?_)
  intro _ g₁ hg₁
  refine exceptAny_wp (attempted_wp hg₁) fun failure g₂ => ?_
  exact either_of_safe (recordFailure_safe cfg id now)

lemma recoverStaleRunning_safe (id : K) (job : Job K P) (now : ℚ) :
    (recoverStaleRunning cfg id job now).Safe book := by
  unfold recoverStaleRunning
  split
  · refine .ite safe_pure ?_
    exact (recordFailure_safe cfg id now).bind fun _ => safe_pure
  · exact safe_pure

lemma failNeverAppeared_safe (id : K) (job : Job K P) (now : ℚ) :
    (failNeverAppeared cfg id job now).Safe book := by
  refine .ite ?_ safe_pure
  refine .bind (ask_safe fun _ => rfl) fun endedAt => ?_
  cases endedAt with
  | none => exact safe_pure
  | some endedAt =>
    refine .ite safe_pure ?_
    exact .bind (ask_safe fun _ => rfl) fun _ => safe_pure

lemma jobSettled_safe (id : K) (job : Job K P) (now : ℚ) :
    (jobSettled cfg id job now).Safe book := by
  unfold jobSettled
  split
  · refine .bind (ask_safe fun _ => rfl) fun (current : Option ℕ) => ?_
    refine .ite ?_ safe_pure
    refine .bind (ask_safe fun _ => rfl) fun observedAt => ?_
    cases observedAt with
    | none | some observedAt => exact safe_pure
  · exact safe_pure

lemma visit_safe (id : K) (now : ℚ) : (visit (P := P) cfg id now).Safe book := by
  have hobserve : (ensureOrObserveJob (P := P) cfg id now).Safe book :=
    .bind (ask_safe fun _ => rfl) fun _ => ask_safe fun _ => rfl
  refine hobserve.bind fun job => ?_
  refine (recoverStaleRunning_safe cfg id job now).bind fun recovered => ?_
  cases recovered with
  | some job => exact safe_pure
  | none =>
    refine (failNeverAppeared_safe cfg id job now).bind fun expired => ?_
    cases expired with
    | some job => exact safe_pure
    | none =>
      refine .ite ?_ safe_pure
      refine (jobSettled_safe cfg id job now).bind fun settled => ?_
      exact .ite (attemptJob_safe cfg id now) safe_pure

lemma visitAll_safe (now : ℚ) (ids : List K) : (visitAll (P := P) cfg now ids).Safe book := by
  induction ids with
  | nil => exact safe_pure
  | cons id rest ih =>
    refine (visit_safe cfg id now).bind fun status => ?_
    exact ih.bind fun statuses => safe_pure

lemma runForever_safe (times : List ℚ) : (runForever (K := K) (P := P) cfg times).Safe book := by
  induction times with
  | nil => exact safe_pure
  | cons now rest ih =>
    have hscan : (runOnce (K := K) (P := P) cfg now).Safe book := by
      refine .bind (ask_safe fun _ => rfl) fun _ => ?_
      exact .bind (ask_safe fun _ => rfl) fun ids => visitAll_safe cfg now ids
    exact hscan.attempt.bind fun _ => ih

end Worker

/-! ## What is on disk -/

/-- What the worker knows is so, and every completed job has its package. -/
structure Agrees {K P : Type} (g : Ledger K P) (w : World K P) : Prop where
  running : ∀ id, g.running = some id → ∃ job, w.jobs id = some job ∧ job.state = .running
  packing : ∀ id dir trim, Packing id dir trim g →
    ∃ c earlier, (w.shelves dir id).calls = c :: earlier ∧ c.trim = trim
  ready : ∀ id dir trim, Ready id dir trim g → (w.shelves dir id).Holds trim
  sound : ∀ dir id, (w.shelves dir id).Sound
  published : w.Published

section Steps

variable {K P : Type} {g : Ledger K P} {w w' : World K P} {id : K} {dir : P} {g' : Ledger K P}
  {trim : Trim} {x : Job K P} {o : FinOp K P}

/-- Where only the tables change, no attempt is taken away and no job is newly completed. -/
lemma Agrees.tables (h : Agrees g w) (hshelves : w'.shelves = w.shelves)
    (hledger : g' = g ∨ (g'.packing = none ∧ g'.ready = none))
    (hrunning : ∀ id, g'.running = some id → ∃ job, w'.jobs id = some job ∧ job.state = .running)
    (hjobs : ∀ id job', w'.jobs id = some job' → job'.state = .completed →
      ∃ job, w.jobs id = some job ∧ job.state = .completed ∧
        job'.localPackageManifestPath = job.localPackageManifestPath ∧
        job'.packagedTrim = job.packagedTrim) : Agrees g' w' := by
  constructor
  · exact hrunning
  · intro id dir trim hpacking
    rw [hshelves]
    rcases hledger with rfl | ⟨hnone, -⟩
    · exact h.packing id dir trim hpacking
    · cases hnone.symm.trans hpacking.2
  · intro id dir trim hready
    rw [hshelves]
    rcases hledger with rfl | ⟨-, hnone⟩
    · exact h.ready id dir trim hready
    · cases hnone.symm.trans hready.2
  · rw [hshelves]
    exact h.sound
  · intro id job' hjob' hcompleted
    obtain ⟨job, hjob, hbefore, hpath, htrim⟩ := hjobs id job' hjob' hcompleted
    rw [hshelves, hpath, htrim]
    exact h.published id job hjob hbefore

lemma Agrees.same (h : Agrees g w) (hjobs : w'.jobs = w.jobs) (hshelves : w'.shelves = w.shelves) :
    Agrees g w' := by
  refine h.tables hshelves (.inl rfl) ?_ ?_
  · rw [hjobs]
    exact h.running
  · intro id job hjob hcompleted
    rw [hjobs] at hjob
    exact ⟨job, hjob, hcompleted, rfl, rfl⟩

lemma Job.observed_kept (job : Job K P) (uri : Option (RecordingUri P)) (size : Option ℕ)
    (now : ℚ) :
    (job.observed uri size now).state = job.state ∧
      (job.observed uri size now).localPackageManifestPath = job.localPackageManifestPath ∧
      (job.observed uri size now).packagedTrim = job.packagedTrim := by
  unfold Job.observed
  cases size with
  | none => exact ⟨rfl, rfl, rfl⟩
  | some size =>
    dsimp only
    split <;> exact ⟨rfl, rfl, rfl⟩

lemma Agrees.isPackaged (h : Agrees g w) {packaged requested : Trim} {skip : Bool}
    (hrunning : g.running = some id)
    (hsettled : w.Settled (.isPackaged dir id packaged requested) (.value skip)) :
    Agrees (g.told (.isPackaged dir id packaged requested) skip) w := by
  cases skip with
  | false => exact h
  | true =>
    obtain ⟨c, hlast, hsucceeded, htrim⟩ := hsettled rfl
    refine { h with ready := ?_ }
    rintro other otherDir otherTrim ⟨hother, hready⟩
    obtain rfl := some.inj (hrunning.symm.trans hother)
    obtain ⟨rfl, rfl⟩ := Prod.mk.inj (some.inj hready)
    rw [← htrim]
    exact (h.sound dir id).holds_last hlast hsucceeded

variable [DecidableEq K]

lemma World.finalize_jobs (w : World K P) (id : K) (trim : Trim) (duration : Option ℚ) :
    (w.finalize id trim duration).jobs = w.jobs ∧
      (w.finalize id trim duration).shelves = w.shelves := by
  unfold finalize
  split <;> exact ⟨rfl, rfl⟩

lemma World.putJob_self (w : World K P) (id : K) (job : Job K P) :
    (w.putJob id job).jobs id = some job :=
  update_self ..

lemma World.putJob_of_ne (w : World K P) {other : K} (h : other ≠ id) (job : Job K P) :
    (w.putJob id job).jobs other = w.jobs other :=
  update_of_ne h ..

lemma World.withJob_of_some {job : Job K P} (h : w.jobs id = some job) (f : Job K P → Job K P) :
    w.withJob id f = w.putJob id (f job) := by
  unfold withJob
  rw [h]

variable (h : Agrees g w)
include h

lemma Agrees.putJob {job' : Job K P}
    (hledger : g' = g ∨ (g'.packing = none ∧ g'.ready = none))
    (hself : g'.running = some id → job'.state = .running)
    (hothers : ∀ other, other ≠ id → g'.running = some other → g.running = some other)
    (hjob : job'.state = .completed → ∃ job, w.jobs id = some job ∧ job.state = .completed ∧
      job'.localPackageManifestPath = job.localPackageManifestPath ∧
      job'.packagedTrim = job.packagedTrim) : Agrees g' (w.putJob id job') := by
  refine h.tables rfl hledger ?_ ?_
  · intro other hrunning
    rcases eq_or_ne other id with rfl | hne
    · exact ⟨job', w.putJob_self other job', hself hrunning⟩
    · rw [w.putJob_of_ne hne]
      exact h.running other (hothers other hne hrunning)
  · intro other after hafter hcompleted
    rcases eq_or_ne other id with rfl | hne
    · rw [w.putJob_self] at hafter
      obtain rfl := some.inj hafter
      exact hjob hcompleted
    · rw [w.putJob_of_ne hne] at hafter
      exact ⟨after, hafter, hcompleted, rfl, rfl⟩

lemma Agrees.fail {f : Job K P → Job K P} (hfails : ∀ job, (f job).state = .failed)
    (hrow : (w.jobs id).map f = some x) : Agrees .blank (w.withJob id f) := by
  obtain ⟨job, hjob, -⟩ := map_eq_some_iff.mp hrow
  rw [withJob_of_some hjob]
  refine h.putJob (.inr ⟨rfl, rfl⟩) (fun hrunning => by cases hrunning) ?_ ?_
  · intro other _ hrunning
    cases hrunning
  · intro hcompleted
    cases (hfails job).symm.trans hcompleted

lemma Agrees.start {now : ℚ} (hrow : (w.jobs id).isSome = true) :
    Agrees ⟨some id, none, none⟩ (w.withJob id (·.started now)) := by
  obtain ⟨job, hjob⟩ := isSome_iff_exists.mp hrow
  rw [withJob_of_some hjob]
  refine h.putJob (.inr ⟨rfl, rfl⟩) (fun _ => rfl) ?_ ?_
  · intro other hne hrunning
    exact (hne (some.inj hrunning).symm).elim
  · intro hcompleted
    cases hcompleted

lemma Agrees.observe (uri : Option (RecordingUri P)) (size : Option ℕ) (now : ℚ) (maxAttempts : ℕ) :
    Agrees g (w.putJob id (w.observed id uri size now maxAttempts)) := by
  unfold observed
  cases hjob : w.jobs id with
  | none =>
    refine h.putJob (.inl rfl) ?_ (fun _ _ hrunning => hrunning)
      (fun hcompleted => by cases hcompleted)
    intro hrunning
    obtain ⟨job, hrow, -⟩ := h.running id hrunning
    cases hjob.symm.trans hrow
  | some job =>
    obtain ⟨hstate, hpath, htrim⟩ := job.observed_kept uri size now
    refine h.putJob (.inl rfl) ?_ (fun _ _ hrunning => hrunning) ?_
    · intro hrunning
      obtain ⟨row, hrow, hrun⟩ := h.running id hrunning
      obtain rfl := some.inj (hjob.symm.trans hrow)
      exact hstate.trans hrun
    · exact fun hcompleted => ⟨job, hjob, hstate.symm.trans hcompleted, hpath, htrim⟩

/-- The job of the attempt is completed with the package the worker has made or found. -/
lemma Agrees.complete
    (hready : Ready id dir trim g) (hrow : (w.jobs id).map (·.completed id dir trim) = some x) :
    Agrees .blank (w.withJob id (·.completed id dir trim)) := by
  obtain ⟨job, hjob, -⟩ := map_eq_some_iff.mp hrow
  rw [withJob_of_some hjob]
  have hholds : (w.shelves dir id).Holds trim := h.ready id dir trim hready
  constructor
  · intro other hrunning
    cases hrunning
  · intro other dir trim hpacking
    cases hpacking.1
  · intro other dir trim hready
    cases hready.1
  · exact h.sound
  · intro other after hafter hcompleted
    rcases eq_or_ne other id with rfl | hne
    · rw [w.putJob_self] at hafter
      obtain rfl := some.inj hafter
      exact ⟨dir, rfl, hholds⟩
    · rw [w.putJob_of_ne hne] at hafter
      exact h.published other after hafter hcompleted

variable [DecidableEq P]

lemma Agrees.requeue : Agrees g (w.after .requeueTrimDrift (.value ())) := by
  have hjobs : ∀ id job', (w.after .requeueTrimDrift (.value ())).jobs id = some job' →
      ∃ job, w.jobs id = some job ∧ job' = if w.drifted job then job.requeued else job := by
    intro id job' hjob'
    obtain ⟨job, hjob, rfl⟩ := map_eq_some_iff.mp hjob'
    exact ⟨job, hjob, rfl⟩
  refine h.tables rfl (.inl rfl) ?_ ?_
  · intro id hrunning
    obtain ⟨job, hjob, hstate⟩ := h.running id hrunning
    -- a running job has not drifted
    have hdrifted : w.drifted job = false := by simp [drifted, hstate]
    refine ⟨job, ?_, hstate⟩
    change (w.jobs id).map _ = _
    simp [hjob, hdrifted]
  · intro id job' hjob' hcompleted
    obtain ⟨job, hjob, rfl⟩ := hjobs id job' hjob'
    split at hcompleted
    · cases hcompleted
    · rename_i hdrifted
      rw [if_neg hdrifted]
      exact ⟨job, hjob, hcompleted, rfl, rfl⟩

lemma Agrees.retry (id : K) : Agrees g (w.after (.requestRetry id) (.value ())) := by
  change Agrees g (w.withJob id _)
  cases hjob : w.jobs id with
  | none =>
    unfold withJob
    rw [hjob]
    exact h
  | some job =>
    rw [withJob_of_some hjob]
    refine h.putJob (.inl rfl) ?_ (fun _ _ hrunning => hrunning) ?_
    · intro hrunning
      obtain ⟨row, hrow, hrun⟩ := h.running id hrunning
      obtain rfl := some.inj (hjob.symm.trans hrow)
      rw [if_pos (.inl hrun)]
      exact hrun
    · intro hcompleted
      refine ⟨job, hjob, ?_⟩
      split at hcompleted
      · -- a row at work or completed is left alone
        rename_i hbusy
        rw [if_pos hbusy]
        exact ⟨hcompleted, rfl, rfl⟩
      · cases hcompleted

omit h

lemma World.withShelf_self (w : World K P) (dir : P) (id : K) (f : Shelf → Shelf) :
    (w.withShelf dir id f).shelves dir id = f (w.shelves dir id) := by
  simp [withShelf]

lemma World.withShelf_of_ne (w : World K P) {other : P} {otherId : K}
    (h : ¬ (other = dir ∧ otherId = id)) (f : Shelf → Shelf) :
    (w.withShelf dir id f).shelves other otherId = w.shelves other otherId := by
  unfold withShelf
  rcases eq_or_ne other dir with rfl | hdir
  · have hid : otherId ≠ id := fun heq => h ⟨rfl, heq⟩
    simp [hid]
  · simp [hdir]

include h

/-- The packager works on the package of a job that is running, hence not completed. -/
lemma Agrees.shelf {f : Shelf → Shelf}
    (hrunning : g.running = some id) (hrunning' : g'.running = some id)
    (hsound : (f (w.shelves dir id)).Sound)
    (hpacking : ∀ other trim, g'.packing = some (other, trim) →
      other = dir ∧ ∃ c earlier, (f (w.shelves dir id)).calls = c :: earlier ∧ c.trim = trim)
    (hready : ∀ other trim, g'.ready = some (other, trim) →
      other = dir ∧ (f (w.shelves dir id)).Holds trim) :
    Agrees g' (w.withShelf dir id f) := by
  constructor
  · intro other hother
    obtain rfl := some.inj (hrunning'.symm.trans hother)
    exact h.running id hrunning
  · rintro otherId other trim ⟨hid, hother⟩
    obtain rfl := some.inj (hrunning'.symm.trans hid)
    obtain ⟨rfl, hcalls⟩ := hpacking other trim hother
    rw [w.withShelf_self]
    exact hcalls
  · rintro otherId other trim ⟨hid, hother⟩
    obtain rfl := some.inj (hrunning'.symm.trans hid)
    obtain ⟨rfl, hholds⟩ := hready other trim hother
    rw [w.withShelf_self]
    exact hholds
  · intro other otherId
    by_cases heq : other = dir ∧ otherId = id
    · obtain ⟨rfl, rfl⟩ := heq
      rw [w.withShelf_self]
      exact hsound
    · rw [w.withShelf_of_ne heq]
      exact h.sound other otherId
  · intro otherId job hjob hcompleted
    obtain ⟨other, hpath, hholds⟩ := h.published otherId job hjob hcompleted
    refine ⟨other, hpath, ?_⟩
    -- the row at work is not completed, so its shelf is another one
    rw [w.withShelf_of_ne]
    · exact hholds
    · rintro ⟨-, rfl⟩
      obtain ⟨row, hrow, hrun⟩ := h.running otherId hrunning
      obtain rfl := some.inj (hrow.symm.trans hjob)
      cases hrun.symm.trans hcompleted

lemma Agrees.mkdir (hrunning : g.running = some id) :
    Agrees { g with packing := some (dir, trim), ready := none }
      (w.withShelf dir id (·.start trim)) := by
  refine h.shelf hrunning hrunning ((h.sound dir id).start trim) ?_ ?_
  · intro other trim hother
    cases hother
    exact ⟨rfl, _, _, rfl, rfl⟩
  · intro other trim hother
    cases hother

lemma Agrees.write {part : Part} {done : Bool} (hpacking : Packing id dir trim g) :
    Agrees { g with ready := if done && part = .timeline then g.packing else none }
      (w.withShelf dir id (·.write part done)) := by
  obtain ⟨c, earlier, hcalls, htrim⟩ := h.packing id dir trim hpacking
  have hat : ∀ {other : P} {trim' : Trim}, g.packing = some (other, trim') →
      other = dir ∧ trim' = trim := by
    intro other trim' hother
    obtain ⟨rfl, rfl⟩ := Prod.mk.inj (some.inj (hpacking.2.symm.trans hother))
    exact ⟨rfl, rfl⟩
  refine h.shelf hpacking.1 hpacking.1 ((h.sound dir id).write part done) ?_ ?_
  · intro other trim' hother
    obtain ⟨rfl, rfl⟩ := hat hother
    rw [Shelf.write_cons hcalls]
    exact ⟨rfl, _, earlier, rfl, htrim⟩
  · intro other trim' hother
    -- ready means that the timeline is written
    by_cases hlast : (done && decide (part = .timeline)) = true
    · simp only [hlast, if_true] at hother
      obtain ⟨rfl, rfl⟩ := hat hother
      obtain ⟨rfl, hpart⟩ := Bool.and_eq_true_iff.mp hlast
      obtain rfl := of_decide_eq_true hpart
      rw [← htrim]
      exact ⟨rfl, (h.sound other id).holds_write hcalls⟩
    · simp [hlast] at hother

lemma Agrees.worker_step {x : Answer o.Res} (hallows : g.Allows o) (hlegal : w.Legal o x)
    (hsettled : w.Settled o x) : Agrees (g.after o x) (w.after o x) := by
  cases x with
  | raised | died => cases o <;> exact h
  | value x =>
    cases o with
    | requeueTrimDrift => exact h.requeue
    | observeJob id uri size now maxAttempts =>
      obtain rfl : x = w.observed id uri size now maxAttempts := hlegal
      exact h.observe uri size now maxAttempts
    | neverAppeared id | recordFailure id code now backoffSeconds =>
      exact h.fail (fun _ => rfl) hlegal
    | startAttempt id now => exact h.start hlegal
    | finalizeRecording id trim duration =>
      obtain ⟨hjobs, hshelves⟩ := w.finalize_jobs id trim duration
      exact h.same hjobs hshelves
    | isPackaged dir id packaged requested => exact h.isPackaged hallows hsettled
    | mkdir dir id trim => exact h.mkdir hallows
    | write dir id part =>
      obtain ⟨hrunning, trim, hpacking⟩ := hallows
      exact h.write ⟨hrunning, hpacking⟩
    | complete id dir trim => exact h.complete hallows hlegal
    | candidateSessionIds | recordingPath _ | endedAt _ | recordingSize _ _ | lastObservedAt _
    | getStatus _ | probe _ _ | isFile _ _ | selectLadder _ _ | uploadPackage _ _ => exact h
    | editTrim _ _ | requestRetry _ | endBroadcast _ _ => cases hallows

lemma Agrees.operator_step {x : Answer o.Res}
    (ho : o.isOperator = true) : Agrees g (w.after o x) := by
  cases x with
  | raised | died => cases o <;> exact h
  | value x =>
    cases o with
    | editTrim id trim => exact h.same rfl rfl
    | requestRetry id => exact h.retry id
    | endBroadcast id at_ => exact h.same rfl rfl
    | _ => cases ho

end Steps

/-! ## Every run -/

section Run

variable {K P : Type} [DecidableEq K] [DecidableEq P]

/-- The worker at these times, beside any code that makes the calls of operators. -/
def station (cfg : Settings) (times : List ℚ) (operators : FinM K P Unit) (w : World K P) :
    Config Thread (finIface K P) FinError (Ledger K P) (World K P) where
  code
    | .worker => runForever cfg times
    | .operators => operators
  ghost _ := .blank
  world := w

abbrev Run (M : Machine (finIface K P) (World K P))
    (c₀ c : Config Thread (finIface K P) FinError (Ledger K P) (World K P)) : Prop :=
  Config.Reach (fun _ => M) Ledger.monitor (fun _ _ => True) c₀ c

/-- No job yet, and nothing packaged. -/
def World.Fresh (w : World K P) : Prop :=
  (∀ id, w.jobs id = none) ∧ ∀ dir id, w.shelves dir id = .bare

omit [DecidableEq K] [DecidableEq P] in
lemma World.Fresh.agrees {w : World K P} (h : w.Fresh) : Agrees .blank w := by
  constructor
  · intro id hrunning
    cases hrunning
  · intro id dir trim hpacking
    cases hpacking.1
  · intro id dir trim hready
    cases hready.1
  · intro dir id
    rw [h.2 dir id]
    exact Shelf.bare_sound
  · intro id job hjob
    cases (h.1 id).symm.trans hjob

omit [DecidableEq K] [DecidableEq P] in
lemma operators_admitted {operators : FinM K P Unit} {g : Ledger K P}
    (h : operators.Uses (fun o : FinOp K P => o.isOperator = true) fun _ => True) :
    (Ledger.monitor .operators).Admits operators g := by
  induction operators with
  | ret a | raise e => trivial
  | call o k ih => exact ⟨h.1, fun x _ => ih x (h.2 x)⟩

/-- At every moment of every such run, the package of every completed job is what one packager
call made with the trim the job has recorded. -/
theorem package_as_asked {cfg : Settings} {times : List ℚ} {operators : FinM K P Unit}
    {w : World K P} {c : Config Thread (finIface K P) FinError (Ledger K P) (World K P)}
    (hoperators : operators.Uses (fun o : FinOp K P => o.isOperator = true) fun _ => True)
    (hfresh : w.Fresh) (h : Run World.settledMachine (station cfg times operators w) c) :
    c.world.Published := by
  have hagrees := h.invariant (J := fun g w => Agrees (g .worker) w) ?_ hfresh.agrees ?_
  · exact hagrees.published
  · intro t
    cases t with
    | worker => exact runForever_safe cfg times .blank
    | operators => exact operators_admitted hoperators
  · intro g w t o x hagrees _ hallows hlegal
    cases t with
    | worker =>
      rw [update_self]
      exact hagrees.worker_step hallows hlegal.1 hlegal.2
    | operators =>
      rw [update_of_ne (by decide)]
      exact hagrees.operator_step hallows

end Run

/-! ## A trim that is changed and changed back -/

namespace OneMeeting

/-- The worker's defaults, with a CDN. -/
def settings : Settings where
  settleSeconds := 30
  maxAttempts := 3
  backoffSeconds := 30
  runningLeaseSeconds := 900
  neverAppearedSeconds := 1800
  cdn := true

def untrimmed : Trim := ⟨none, none⟩

/-- The meeting begins five seconds into the recording. -/
def trimmed : Trim := ⟨some 5, none⟩

def world : World Unit Unit where
  jobs _ := none
  sessions _ := some ⟨.ending, some 0⟩
  assets _ := none
  shelves _ _ := .bare

lemma world_fresh : world.Fresh := ⟨fun _ => rfl, fun _ _ => rfl⟩

/-- The trim of the asset is changed to these, one after another. -/
def operators : List Trim → FinM Unit Unit Unit
  | [] => return ()
  | trim :: rest => do
    ask (.editTrim () trim)
    operators rest

lemma operators_uses (trims : List Trim) :
    (operators trims).Uses (fun o : FinOp Unit Unit => o.isOperator = true) fun _ => True := by
  induction trims with
  | nil => trivial
  | cons trim rest ih =>
    refine ⟨rfl, fun x => ?_⟩
    cases x with
    | value _ => exact ih
    | raised | died => trivial

lemma candidates_one {w : World Unit Unit} (h : w.Candidate ()) : w.Candidates [()] :=
  ⟨pairwise_singleton _ _, fun _ => ⟨fun _ => h, fun _ => mem_singleton_self ()⟩⟩

/-- A settled recording of an hour, and an encoder that does not fail. The upload fails before
this many attempts. -/
def reply (uploads : ℕ) (w : World Unit Unit) :
    (o : FinOp Unit Unit) → Option {x : Answer o.Res // w.Legal o x}
  | .candidateSessionIds =>
    if h : w.Candidate () then some ⟨.value [()], candidates_one h⟩ else none
  | .recordingPath _ => some ⟨.value (some (), some 10), trivial⟩
  | .observeJob _ _ _ _ _ => some ⟨.value _, rfl⟩
  | .recordingSize _ _ => some ⟨.value (some 10), trivial⟩
  | .lastObservedAt id =>
    match h : (w.jobs id).map Job.lastObservedAt with
    | none => none
    | some x => some ⟨.value x, h⟩
  | .startAttempt _ _ => if h : (w.jobs ()).isSome = true then some ⟨.value (), h⟩ else none
  | .getStatus _ => some ⟨.value _, rfl⟩
  | .probe _ _ => some ⟨.value (some 3600), trivial⟩
  | .finalizeRecording _ _ _ => some ⟨.value _, rfl⟩
  | .isPackaged _ _ _ _ => some ⟨.value _, rfl⟩
  | .isFile _ _ => some ⟨.value true, trivial⟩
  | .mkdir _ _ _ => some ⟨.value (), trivial⟩
  | .selectLadder _ _ => some ⟨.value [720], trivial⟩
  | .write _ _ _ => some ⟨.value true, trivial⟩
  | .uploadPackage _ _ =>
    if (w.jobs ()).any fun job => job.attempts < uploads then some ⟨.raised, trivial⟩
    else some ⟨.value (), trivial⟩
  | .complete id dir trim =>
    match h : (w.jobs id).map fun job : Job Unit Unit => job.completed id dir trim with
    | none => none
    | some x => some ⟨.value x, h⟩
  | .recordFailure id code now backoffSeconds =>
    match h : (w.jobs id).map fun job : Job Unit Unit => job.failed code now backoffSeconds with
    | none => none
    | some x => some ⟨.value x, h⟩
  | .requeueTrimDrift => some ⟨.value (), trivial⟩
  | .editTrim _ _ => some ⟨.value (), trivial⟩
  | _ => none

instance (w : World Unit Unit) (o : FinOp Unit Unit) (x : Answer o.Res) :
    Decidable (w.Settled o x) :=
  match o, x with
  | .isPackaged dir id _ requested, .value skip =>
    inferInstanceAs (Decidable ((show Bool from skip) = true →
      ∃ c ∈ (w.shelves dir id).last, c.succeeded = true ∧ c.trim = requested))
  | .isPackaged _ _ _ _, .raised | .isPackaged _ _ _ _, .died => .isTrue trivial
  | .requeueTrimDrift, _ | .candidateSessionIds, _ | .recordingPath _, _ | .observeJob .., _
  | .endedAt _, _ | .neverAppeared _, _ | .recordingSize _ _, _ | .lastObservedAt _, _
  | .startAttempt _ _, _ | .getStatus _, _ | .probe _ _, _ | .finalizeRecording _ _ _, _
  | .isFile _ _, _ | .mkdir _ _ _, _ | .selectLadder _ _, _ | .write _ _ _, _
  | .uploadPackage _ _, _ | .complete _ _ _, _ | .recordFailure .., _ | .editTrim _ _, _
  | .requestRetry _, _ | .endBroadcast _ _, _ => .isTrue trivial

/-- The times of the scans: the recording is settled at the second. -/
def times : List ℚ := [0, 40, 140, 300]

abbrev Meeting : Type :=
  Config Thread (finIface Unit Unit) FinError (Ledger Unit Unit) (World Unit Unit)

/-- The first scan finds the recording and the second packages it. Between the scans that follow
the operators go on. -/
def drive (M : Machine (finIface Unit Unit) (World Unit Unit))
    (σ : (w : World Unit Unit) → (o : FinOp Unit Unit) → Option {x // M.legal w o x})
    (trims : List Trim) (schedule : List Thread) : Option Meeting :=
  Config.drive (fun _ => M) Ledger.monitor (fun _ => σ) (fun _ _ => True) schedule
    (station settings times (operators trims) world)

/-- What the job says of its package, the calls with their trims, and the last to write the
slate. -/
structure Shown where
  job : Option (JobState × Trim)
  calls : List (Trim × Bool)
  slate : Option ℕ
  deriving DecidableEq

def shown (c : Meeting) : Shown where
  job := (c.world.jobs ()).map fun job => (job.state, job.packagedTrim)
  calls := (c.world.shelves () ()).calls.map fun c => (c.trim, decide (.slate ∈ c.written))
  slate := (c.world.shelves () ()).writer .slate

/-- Two attempts are not uploaded, and the trim is changed before the second and changed back
before the third. -/
def editedBack : Option Meeting :=
  drive World.machine (reply 2) [trimmed, untrimmed]
    (List.replicate 26 Thread.worker ++ Thread.operators :: List.replicate 20 Thread.worker ++
      Thread.operators :: List.replicate 13 Thread.worker)

/-- One attempt is not uploaded, and the next finds its package. -/
def uploadedLater : Option Meeting :=
  drive World.settledMachine
    (fun w o => (reply 1 w o).bind fun x =>
      if h : w.Settled o x.1 then some ⟨x.1, x.2, h⟩ else none)
    [] (List.replicate 39 .worker)

lemma editedBack_shown :
    editedBack.map shown =
      some ⟨some (.completed, untrimmed), [(trimmed, true), (untrimmed, true)], some 1⟩ := by
  decide +kernel

lemma uploadedLater_shown :
    uploadedLater.map shown =
      some ⟨some (.completed, untrimmed), [(untrimmed, true)], some 0⟩ := by
  decide +kernel

/-- The second of two calls wrote the slate, so the output of the first is not whole. -/
lemma not_holds_first {s : Shelf}
    (hcalls : s.calls.map (fun c => (c.trim, decide (.slate ∈ c.written))) =
      [(trimmed, true), (untrimmed, true)])
    (hslate : s.writer .slate = some 1) : ¬ s.Holds untrimmed := by
  rintro ⟨later, c, earlier, heq, -, htrim, hparts⟩
  rw [heq] at hcalls
  match later with
  | [] =>
    obtain ⟨hfirst, -⟩ := cons.inj hcalls
    have hother : c.trim = trimmed := (Prod.mk.inj hfirst).1
    cases hother.symm.trans htrim
  | [_] =>
    obtain ⟨hsecond, hnone⟩ := cons.inj (cons.inj hcalls).2
    have hwritten : .slate ∈ c.written := of_decide_eq_true (Prod.mk.inj hsecond).2
    obtain rfl : earlier = [] := map_eq_nil_iff.mp hnone
    cases hslate.symm.trans (hparts .slate hwritten)
  | _ :: _ :: rest =>
    have hlength := congrArg length hcalls
    simp at hlength

end OneMeeting

open OneMeeting in
/-- The upload of the first attempt fails, and the second uploads the package it finds. -/
theorem package_found_as_asked :
    ∃ c : Meeting, Run World.settledMachine (station settings times (operators []) world) c ∧
      (c.world.jobs ()).map (·.state) = some .completed ∧ c.world.Published := by
  obtain ⟨c, hc, hshown⟩ := map_eq_some_iff.mp uploadedLater_shown
  have hrun : Run settledMachine (station settings times (operators []) world) c :=
    Config.reach_of_drive .refl hc
  refine ⟨c, hrun, ?_, package_as_asked (operators_uses []) world_fresh hrun⟩
  obtain ⟨job, hjob, hfields⟩ := map_eq_some_iff.mp (congrArg Shown.job hshown)
  rw [hjob]
  exact congrArg some (Prod.mk.inj hfields).1

open OneMeeting in
/-- The trim is changed, packaged and not uploaded, and changed back: the job is completed without
a trim, with the trimmed package. -/
theorem trim_edited_back :
    ∃ c : Meeting,
      Run World.machine (station settings times (operators [trimmed, untrimmed]) world) c ∧
        ¬ c.world.Published := by
  obtain ⟨c, hc, hshown⟩ := map_eq_some_iff.mp editedBack_shown
  refine ⟨c, Config.reach_of_drive .refl hc, fun hpublished => ?_⟩
  obtain ⟨job, hjob, hfields⟩ := map_eq_some_iff.mp (congrArg Shown.job hshown)
  obtain ⟨hstate, htrim⟩ := Prod.mk.inj hfields
  obtain ⟨⟨⟩, -, hholds⟩ := hpublished () job hjob hstate
  rw [htrim] at hholds
  exact not_holds_first (congrArg Shown.calls hshown) (congrArg Shown.slate hshown) hholds

end CivicCast.Live.Finalization
