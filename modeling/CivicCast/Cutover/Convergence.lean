import CivicCast.Cutover.Recovery

/-! # Convergence of a cutover

Once every seam succeeds, does some call return a complete journal and release the
interlock?

What is on disk decides. `Recoverable` says when: the journal must not carry the error of
a failed release, which no success clears; an interlock that is held must be the one that
the journal is bound to; and a journal that is bound must still find its interlock held,
or be complete, in which case the next call takes a new one. From such a world two calls
are enough, and from any other one no call ever completes.
-/

namespace CivicCast.Cutover

open Lib Lib.Prog List
open Upgrade (MaintenanceRecord)

namespace World

/-! ## Seams that succeed -/

/-- What a call answers once the seams succeed and every check passes. A refusal of the
interlock is no failure of the seam. -/
def Succeeds (w : World) : (o : Op) → Reply o.Res → Prop
  | .takeInterlock _, .failed fault landed =>
    w.Held ∧ landed = false ∧ ∃ what, fault = .runtimeError what
  | .releaseInterlock, .failed fault landed =>
    w.interlock = none ∧ landed = false ∧ ∃ what, fault = .runtimeError what
  | _, .failed _ _ => False
  | .readInterlock, .ok read => read = w.read
  | .verify _, .ok (confirmed, _) => confirmed = true
  | .isFile _, .ok found => found = true
  | _, .ok _ => True

def succeeding : Machine cutoverIface World :=
  { machine with legal := fun w o reply => w.Replies o reply ∧ w.Succeeds o reply }

end World

/-- The call is in owned mode; a rollback names an executable. -/
def Args.Suits (direction : Direction) (args : Args) : Prop :=
  args.Owned ∧
    (direction = .rollback → ∃ path, args.exePath = some path ∧ path.isEmpty = false)

def World.Released (w : World) : Prop :=
  ∃ record, w.interlock = some record ∧ record.held = false

/-- However calls go on whose seams succeed, one of them completes and releases the
interlock. -/
def World.Converges (direction : Direction) (w : World) : Prop :=
  ∀ (args : ℕ → Args) (world : ℕ → World) (result : ℕ → Except Fault CutoverJournal),
    world 0 = w → (∀ n, (args n).Suits direction) →
    (∀ n, Exec World.succeeding (direction.call (args n)) (world n) (result n)
      (world (n + 1))) →
    ∃ n j, result n = .ok j ∧ j.ok = true ∧ (world (n + 1)).Released

def CutoverJournal.Binds (j : CutoverJournal) (record : MaintenanceRecord) : Prop :=
  j.interlockOwnerRunId = some record.ownerRunId ∧ j.interlockGeneration = some record.generation

structure World.Recoverable (direction : Direction) (w : World) : Prop where
  /-- No release failed after a transaction that was complete. -/
  unreleased : ∀ j, w.journal = some j → j.direction = direction →
    ∀ what, CutoverError.releaseFailed what ∉ j.errors
  /-- An interlock that is held is the one that the journal is bound to. -/
  bound : ∀ record, w.interlock = some record → record.held = true →
    ∃ j, w.journal = some j ∧ j.direction = direction ∧ j.Binds record
  /-- A bound journal whose interlock is free is complete. -/
  free : ∀ j, w.journal = some j → j.direction = direction →
    j.interlockOwnerRunId.isSome = true → ¬ w.Held → j.ok = true

/-! ## A call whose seams succeed -/

section Runs

variable {α β : Type} {K : α → World → Prop} {L : β → World → Prop} {w : World}
  {j : CutoverJournal} {record : MaintenanceRecord} {p : CutoverM α} {failure : Option String}
  {result : ActionResult} {path : String}

/-- The program returns, with a value and a world in `K`. -/
abbrev Runs (K : α → World → Prop) (p : CutoverM α) (w : World) : Prop :=
  p.wp World.succeeding (Either K fun _ => False) w

lemma runs_seq {f : α → CutoverM β} (hp : Runs K p w)
    (hf : ∀ a w', K a w' → Runs L (f a) w') : Runs L (p >>= f) w :=
  either_bind hp hf

lemma Runs.mono {K' : α → World → Prop} (hp : Runs K p w)
    (hK : ∀ a w', K a w' → K' a w') : Runs K' p w :=
  either_mono hp hK fun _ h => h

lemma Runs.attempt (hp : Runs K p w) : Runs (fun r w' => ∃ a, r = .ok a ∧ K a w') p.attempt w := by
  rw [Runs, wp_attempt]
  refine wp_mono ?_ hp
  intro r w' hr
  cases r with
  | ok a => exact ⟨a, rfl, hr⟩
  | error fault => exact hr.elim

/-- Neither the taking nor the release of the interlock. -/
def Plain : Op → Prop
  | .takeInterlock _ => False
  | .releaseInterlock => False
  | _ => True

lemma runs_ask {o : Op} {K : o.Res → World → Prop} (ho : Plain o)
    (h : ∀ a, w.Shows o a → w.Succeeds o (.ok a) → K a (w.after o)) : Runs K (ask o) w := by
  refine ⟨trivial, ?_⟩
  intro reply hreply
  cases reply with
  | ok a => exact h a hreply.1.2 hreply.2
  | failed fault landed =>
    have hfails := hreply.2
    cases o with
    | takeInterlock | releaseInterlock => exact ho.elim
    | _ => exact hfails.elim

lemma runs_saved : Runs (fun j' w' => j' = j ∧ w' = { w with journal := some j }) (saved j) w := by
  refine runs_seq (K := fun _ w' => w' = { w with journal := some j }) ?_ ?_
  · exact runs_ask (o := .saveJournal j) trivial fun _ _ _ => rfl
  · intro _ w' hw'
    exact ⟨rfl, hw'⟩

lemma runs_clearStaleErrors {stale : CutoverError → Bool} :
    Runs (fun j' w' => j' = j.clears stale ∧ w'.interlock = w.interlock)
      (clearStaleErrors j stale) w := by
  unfold clearStaleErrors
  dsimp only
  split
  · refine runs_saved.mono ?_
    rintro j' w' ⟨rfl, rfl⟩
    exact ⟨rfl, rfl⟩
  · rename_i hlength
    have hself : j.errors.filter (fun e => !stale e) = j.errors :=
      filter_eq_self.mpr (length_filter_eq_length_iff.mp (not_not.mp hlength))
    refine ⟨?_, rfl⟩
    unfold CutoverJournal.clears
    rw [hself]

/-- The interlock is held, and the journal is bound to it. -/
structure Under (record : MaintenanceRecord) (j : CutoverJournal) (w : World) : Prop where
  interlock : w.interlock = some record
  held : record.held = true
  binds : j.Binds record

lemma Under.frame {j' : CutoverJournal} {w' : World} (h : Under record j w)
    (hj : j'.interlockOwnerRunId = j.interlockOwnerRunId ∧
      j'.interlockGeneration = j.interlockGeneration)
    (hw : w'.interlock = w.interlock) : Under record j' w' where
  interlock := hw.trans h.interlock
  held := h.held
  binds := ⟨hj.1.trans h.binds.1, hj.2.trans h.binds.2⟩

lemma runs_bracketOk {before : String} (h : Under record j w) :
    Runs (fun r w' => r = (j.clears (CutoverError.isBracket before), true) ∧
      Under record r.1 w') (bracketOk before j) w := by
  have hverify : Runs (fun verdict w' => verdict = none ∧ w' = w) (verifyInterlockBracket j) w := by
    unfold verifyInterlockBracket
    rw [h.binds.1, h.binds.2]
    refine runs_seq (K := fun read w' => read = w.read ∧ w' = w) ?_ ?_
    · exact runs_ask trivial fun _ _ hread => ⟨hread, rfl⟩
    · rintro read w' ⟨rfl, rfl⟩
      have hread : w'.read = ⟨.held, some record⟩ := by
        simp [World.read, h.interlock, h.held]
      rw [hread]
      simp only [ne_eq, not_true_eq_false, if_false]
      exact ⟨rfl, rfl⟩
  refine runs_seq hverify ?_
  rintro verdict w' ⟨rfl, rfl⟩
  refine runs_seq runs_clearStaleErrors ?_
  rintro j' w'' ⟨rfl, hw''⟩
  exact ⟨rfl, h.frame ⟨rfl, rfl⟩ hw''⟩

variable {lasting : CutoverError → Prop} {checks rest : List Step} {spec : PhaseSpec}

lemma mem_numbers_cons {n : ℕ} (h : n ∈ Step.numbers (.phase spec :: rest))
    (hn : n ≠ spec.number) : n ∈ Step.numbers rest := by
  have h : n ∈ spec.number :: Step.numbers rest := h
  exact (mem_cons.mp h).resolve_left hn

/-- The journal after the step, and its bracket. -/
abbrev Passed (lasting : CutoverError → Prop) (checks rest : List Step)
    (record : MaintenanceRecord) (r : CutoverJournal × Bool) (w : World) : Prop :=
  r.2 = true ∧ Clean lasting checks rest r.1 ∧ Under record r.1 w

lemma runs_recordDone {detail : String}
    (hclean : Clean lasting checks (.phase spec :: rest) j) (h : Under record j w) :
    Runs (Passed lasting checks rest record) (recordDone spec j detail failure) w := by
  refine runs_seq runs_saved ?_
  rintro j' w' ⟨rfl, rfl⟩
  refine ⟨rfl, ?_, h.frame ⟨rfl, rfl⟩ rfl⟩
  exact hclean.completes rfl fun n hn hne => mem_numbers_cons hn hne

lemma noteExePath_clean (h : Clean lasting checks rest j) :
    Clean lasting checks rest (noteExePath spec result j) := by
  unfold noteExePath
  split
  · split
    · exact h
    · exact h.of_phases rfl fun _ he => he
  · exact h

lemma noteExePath_under (h : Under record j w) : Under record (noteExePath spec result j) w := by
  unfold noteExePath
  split
  · split
    · exact h
    · exact h.frame ⟨rfl, rfl⟩ rfl
  · exact h

variable (hclean : Clean lasting checks (.phase spec :: rest) j)
include hclean

lemma runs_runAction (h : Under record j w) :
    Runs (Passed lasting checks rest record) (runAction spec j failure) w := by
  have hact : Runs (fun _ w' => w' = w) (ask (.act spec.number)) w :=
    runs_ask trivial fun _ _ _ => rfl
  have hverify : Runs (fun answer w' => answer.1 = true ∧ w' = w) (ask (.verify spec.number)) w :=
    runs_ask trivial fun _ _ hpasses => ⟨hpasses, rfl⟩
  refine runs_seq hact.attempt ?_
  rintro _ w' ⟨result, rfl, rfl⟩
  have hnoted : Clean lasting checks (.phase spec :: rest) (noteExePath spec result j) :=
    noteExePath_clean hclean
  have hdone : Runs (Passed lasting checks rest record)
      (recordDone spec (noteExePath spec result j) result.detail failure) w' :=
    runs_recordDone hnoted (noteExePath_under h)
  refine wp_ite (fun _ => ?_) (fun _ => hdone)
  refine runs_seq hverify.attempt ?_
  rintro _ w'' ⟨⟨confirmed, detail⟩, rfl, hconfirmed, rfl⟩
  exact wp_ite (fun _ => hdone) (fun hne => (hne hconfirmed).elim)

lemma Clean.skip {existing : CutoverPhaseRecord} (hmem : existing ∈ j.phases)
    (hphase : existing.phase = spec.number) (hdone : existing.status = .done) :
    Clean lasting checks rest j where
  single := hclean.single
  unfinished := by
    intro p hp hstatus
    refine mem_numbers_cons (hclean.unfinished p hp hstatus) ?_
    intro hp'
    have hsame := hclean.single p hp existing hmem (hp'.trans hphase.symm)
    exact hstatus (hsame.trans hdone)
  begun := fun hnil => (ne_nil_of_mem hmem hnil).elim
  errors := hclean.errors

lemma runs_runPhase
    (h : Under record j w) : Runs (Passed lasting checks rest record) (runPhase spec j) w := by
  have hverify : Runs (fun answer w' => answer.1 = true ∧ w' = w) (ask (.verify spec.number)) w :=
    runs_ask trivial fun _ _ hpasses => ⟨hpasses, rfl⟩
  unfold runPhase
  split
  · exact runs_runAction hclean h
  · rename_i existing hfind
    split
    · rename_i hdone
      have hphase : existing.phase = spec.number := by
        simpa using find?_some hfind
      have hskip := hclean.skip (mem_of_find?_eq_some hfind) hphase hdone
      refine runs_seq hverify ?_
      rintro ⟨holds, detail⟩ w' ⟨hholds, rfl⟩
      refine wp_ite (fun _ => ?_) (fun hne => (hne hholds).elim)
      refine runs_seq runs_saved ?_
      rintro j' w'' ⟨rfl, rfl⟩
      exact ⟨rfl, hskip.confirms spec.number, h.frame ⟨rfl, rfl⟩ rfl⟩
    · exact runs_runAction hclean h

omit hclean

lemma Clean.checked (hclean : Clean lasting (.phase spec :: checks) rest j) :
    Clean lasting checks rest (j.clears (CutoverError.isBracket spec.before)) where
  __ := hclean
  errors := by
    intro e he
    obtain ⟨he, hkeeps⟩ := mem_filter.mp he
    refine (hclean.errors e he).imp_right ?_
    intro hcleared
    cases e with
    | bracket before failure =>
      obtain ⟨spec', hspec', rfl⟩ := hcleared
      rcases mem_cons.mp hspec' with hhead | htail
      · cases hhead
        simp [CutoverError.isBracket] at hkeeps
      · exact ⟨spec', htail, rfl⟩
    | preflight failure =>
      have hmem : Step.preflight ∈ .phase spec :: checks := hcleared
      exact (mem_cons.mp hmem).resolve_left nofun
    | _ => exact hcleared

lemma Clean.resolved (hclean : Clean lasting (.preflight :: checks) (.preflight :: rest) j) :
    Clean lasting checks rest (j.clears CutoverError.isPreflight) where
  single := hclean.single
  unfinished := hclean.unfinished
  begun := by
    intro hnil
    obtain ⟨spec, hspec⟩ := hclean.begun hnil
    exact ⟨spec, (mem_cons.mp hspec).resolve_left nofun⟩
  errors := by
    intro e he
    obtain ⟨he, hkeeps⟩ := mem_filter.mp he
    refine (hclean.errors e he).imp_right ?_
    intro hcleared
    cases e with
    | bracket before failure =>
      obtain ⟨spec', hspec', rfl⟩ := hcleared
      exact ⟨spec', (mem_cons.mp hspec').resolve_left nofun, rfl⟩
    | preflight failure => simp [CutoverError.isPreflight] at hkeeps
    | _ => exact hcleared

lemma firstGiven_of_given {a : Option String} (hpath : path.isEmpty = false) :
    ∃ candidate, firstGiven a (some path) = some candidate ∧ candidate.isEmpty = false := by
  unfold firstGiven
  split
  · split
    · exact ⟨path, rfl, hpath⟩
    · rename_i candidate hne
      exact ⟨candidate, rfl, by simpa using hne⟩
  · exact ⟨path, rfl, hpath⟩

lemma runs_preflight {args : Args} (hexe : args.exePath = some path) (hpath : path.isEmpty = false)
    (hclean : Clean lasting (.preflight :: checks) (.preflight :: rest) j) (h : Under record j w) :
    Runs (Passed lasting checks rest record) (preflight args j) w := by
  obtain ⟨candidate, hgiven, hcandidate⟩ := firstGiven_of_given hpath
  have hfile : Runs (fun found w' => found = true ∧ w' = w) (ask (.isFile candidate)) w :=
    runs_ask trivial fun _ _ hfound => ⟨hfound, rfl⟩
  unfold preflight
  rw [hexe, hgiven]
  dsimp only
  rw [if_neg (by simp [hcandidate])]
  refine runs_seq hfile ?_
  rintro found w' ⟨hfound, rfl⟩
  refine wp_ite (fun _ => ?_) (fun hne => (hne hfound).elim)
  refine runs_seq runs_clearStaleErrors ?_
  rintro j' w'' ⟨rfl, hw''⟩
  have hunder : Under record (j.clears CutoverError.isPreflight) w'' := h.frame ⟨rfl, rfl⟩ hw''
  refine wp_ite (fun _ => ?_) (fun _ => ⟨rfl, hclean.resolved, hunder⟩)
  refine runs_seq runs_saved ?_
  rintro j' w₃ ⟨rfl, rfl⟩
  exact ⟨rfl, hclean.resolved.of_phases rfl fun _ he => he, hunder.frame ⟨rfl, rfl⟩ rfl⟩

lemma runs_runSteps {args : Args}
    (hexe : .preflight ∈ rest → ∃ path, args.exePath = some path ∧ path.isEmpty = false)
    (hclean : Clean lasting rest rest j) (h : Under record j w) :
    Runs (Passed lasting [] [] record) (runSteps args rest j) w := by
  induction rest generalizing j w with
  | nil => exact ⟨rfl, hclean, h⟩
  | cons step rest ih =>
    have hexe' := fun hmem => hexe (mem_cons_of_mem step hmem)
    cases step with
    | preflight =>
      obtain ⟨path, hargs, hpath⟩ := hexe (mem_cons_self ..)
      refine runs_seq (runs_preflight hargs hpath hclean h) ?_
      rintro ⟨j', resolved⟩ w' ⟨hresolved, hclean', h'⟩
      exact wp_ite (fun _ => ih hexe' hclean' h') (fun hne => (hne hresolved).elim)
    | phase spec =>
      -- the bracket is checked first, and then the phase runs
      refine runs_seq (runs_bracketOk h) ?_
      rintro ⟨j', bound⟩ w' ⟨hbound, h'⟩
      cases hbound
      refine wp_ite (fun _ => ?_) (fun hne => (hne rfl).elim)
      refine runs_seq (runs_runPhase hclean.checked h') ?_
      rintro ⟨j', done⟩ w'' ⟨hdone, hclean', h''⟩
      refine wp_ite (fun _ => ih hexe' hclean' h'') (fun hne => (hne ?_).elim)
      rw [show done = true from hdone]
      rfl

lemma Clean.ok (hclean : Clean (fun _ => False) [] [] j) : j.ok = true := by
  have herrors : j.errors = [] := by
    rw [eq_nil_iff_forall_not_mem]
    intro e he
    rcases hclean.errors e he with hlasting | hcleared
    · exact hlasting
    · -- an error of a phase needs a phase that is not done
      cases e with
      | bracket before failure =>
        obtain ⟨spec, hspec, _⟩ := hcleared
        cases hspec
      | phaseFailed n fault =>
        obtain ⟨p, hp, _, hstatus⟩ := hcleared
        cases hclean.unfinished p hp hstatus
      | preflight failure => cases hcleared
      | _ => exact hcleared
  have hphases : j.phases ≠ [] := by
    intro hnil
    obtain ⟨spec, hspec⟩ := hclean.begun hnil
    cases hspec
  have hdone : ∀ p ∈ j.phases, p.status = .done := by
    intro p hp
    by_contra hstatus
    cases hclean.unfinished p hp hstatus
  simpa [CutoverJournal.ok, herrors, hphases] using hdone

variable {args : Args} {direction : Direction}

lemma runs_finish (hargs : args.Owned) (hok : j.ok = true) (h : Under record j w) :
    Runs (fun j' w' => j'.ok = true ∧ w'.Released) (finish args j) w := by
  have hrelease : Runs (fun r w' => r = .ok () ∧ w'.Released)
      (ask .releaseInterlock).attempt w := by
    rw [Runs, wp_attempt]
    refine ⟨trivial, ?_⟩
    intro reply hreply
    cases reply with
    | ok a =>
      refine ⟨rfl, { record with held := false }, ?_, rfl⟩
      show w.interlock.map _ = _
      rw [h.interlock]
      rfl
    | failed fault landed =>
      have hnone : w.interlock = none := hreply.2.1
      rw [h.interlock] at hnone
      cases hnone
  unfold finish
  rw [if_pos (by simp [hok, hargs.1])]
  refine runs_seq hrelease ?_
  rintro _ w' ⟨rfl, hreleased⟩
  exact ⟨hok, hreleased⟩

lemma runs_bound (hargs : args.Suits direction)
    (hclean : Clean (fun _ => False) direction.steps direction.steps j) (h : Under record j w) :
    Runs (fun j' w' => j'.ok = true ∧ w'.Released)
      (do
        let (j, completed) ← runSteps args direction.steps j
        if completed then finish args j else return j) w := by
  have hexe : .preflight ∈ direction.steps →
      ∃ path, args.exePath = some path ∧ path.isEmpty = false := by
    intro hmem
    cases direction with
    | cutover => simp [Direction.steps, cutoverSteps] at hmem
    | rollback => exact hargs.2 rfl
  refine runs_seq (runs_runSteps hexe hclean h) ?_
  rintro ⟨j', completed⟩ w' ⟨hcompleted, hclean', h'⟩
  refine wp_ite (fun _ => ?_) (fun hne => (hne hcompleted).elim)
  exact runs_finish hargs.1 hclean'.ok h'

/-- The errors that outlive the checks of a call: those of its setup, and of a release. -/
def CutoverError.Outlives : CutoverError → Prop
  | .setup _ => True
  | .releaseFailed _ => True
  | _ => False

lemma Clean.bound {steps : List Step} (hclean : Clean CutoverError.Outlives steps steps j)
    (hrelease : ∀ what, CutoverError.releaseFailed what ∉ j.errors) :
    Clean (fun _ => False) steps steps (j.clears CutoverError.isSetup) where
  __ := hclean
  errors := by
    intro e he
    obtain ⟨he, hkeeps⟩ := mem_filter.mp he
    refine .inr ((hclean.errors e he).resolve_left ?_)
    intro houtlives
    cases e with
    | setup failure => simp [CutoverError.isSetup] at hkeeps
    | releaseFailed what => exact hrelease what he
    | _ => exact houtlives

lemma runs_bind_held (hargs : args.Owned) (hok : j.ok = false) (h : Under record j w) :
    Runs (fun r w' => r = (j.clears CutoverError.isSetup, none) ∧ Under record r.1 w')
      (bindInterlockBracket args j) w := by
  unfold bindInterlockBracket
  rw [hargs.1, hargs.2]
  rw [if_pos (by simp [h.binds.1, hok])]
  refine runs_seq runs_clearStaleErrors ?_
  rintro j' w' ⟨rfl, hw'⟩
  exact ⟨rfl, h.frame ⟨rfl, rfl⟩ hw'⟩

lemma runs_bind_free (hargs : args.Owned) (hfree : ¬ w.Held)
    (htakes : j.interlockOwnerRunId.isSome = true → j.ok = true) :
    Runs (fun r w' => r.2 = none ∧
        (∃ owner generation, r.1 = { j with
          interlockOwnerRunId := owner, interlockGeneration := generation }.clears
            CutoverError.isSetup) ∧
        ∃ record, Under record r.1 w')
      (bindInterlockBracket args j) w := by
  have htake : Runs (fun r w' => r = .ok (w.takes j.runId) ∧
      w' = { w with interlock := some (w.takes j.runId) })
      (ask (.takeInterlock j.runId)).attempt w := by
    rw [Runs, wp_attempt]
    refine ⟨trivial, ?_⟩
    intro reply hreply
    cases reply with
    | ok a =>
      have ha : a = w.takes j.runId := hreply.1.2
      exact ⟨congrArg _ ha, rfl⟩
    | failed fault landed => exact (hfree hreply.2.1).elim
  unfold bindInterlockBracket
  rw [hargs.1, hargs.2]
  rw [if_neg]
  · -- the interlock is taken, and recorded with setup errors cleared
    refine runs_seq htake ?_
    rintro _ w' ⟨rfl, rfl⟩
    refine runs_seq runs_saved ?_
    rintro j' w'' ⟨rfl, rfl⟩
    refine runs_seq runs_clearStaleErrors ?_
    rintro j'' w₃ ⟨rfl, hw₃⟩
    refine ⟨rfl, ⟨_, _, rfl⟩, w.takes j.runId, ?_⟩
    exact ⟨hw₃, rfl, rfl, rfl⟩
  · -- a journal that had the interlock is complete here
    intro hbound
    simp only [Bool.and_eq_true, Bool.not_eq_true'] at hbound
    rw [htakes hbound.1] at hbound
    cases hbound.2

/-- A complete journal takes a new interlock, and is refused while one is held. So is a
journal that was never bound. -/
lemma runs_bind_refused (hargs : args.Owned) (hheld : w.Held)
    (htakes : j.interlockOwnerRunId.isSome = true → j.ok = true) :
    Runs (fun r w' => r.1 = j ∧ r.2.isSome = true ∧ w' = w) (bindInterlockBracket args j) w := by
  have htake : Runs (fun r w' => (∃ what, r = .error (.runtimeError what)) ∧ w' = w)
      (ask (.takeInterlock j.runId)).attempt w := by
    rw [Runs, wp_attempt]
    refine ⟨trivial, ?_⟩
    intro reply hreply
    cases reply with
    | ok a => exact (hreply.1.1 hheld).elim
    | failed fault landed =>
      obtain ⟨_, hlanded, what, hwhat⟩ := hreply.2
      refine ⟨⟨what, congrArg _ hwhat⟩, ?_⟩
      rw [hlanded]
      rfl
  unfold bindInterlockBracket
  rw [hargs.1, hargs.2]
  rw [if_neg]
  · -- the take is refused, and the refusal is the answer
    refine runs_seq htake ?_
    rintro _ w' ⟨⟨what, rfl⟩, rfl⟩
    exact ⟨rfl, rfl, rfl⟩
  · intro hbound
    simp only [Bool.and_eq_true, Bool.not_eq_true'] at hbound
    rw [htakes hbound.1] at hbound
    cases hbound.2

lemma runs_newRunId : Runs (fun _ w' => w' = w) (newRunId args) w := by
  have huuid : Runs (fun _ w' => w' = w) (ask .uuid) w := runs_ask trivial fun _ _ _ => rfl
  unfold newRunId
  split
  · exact wp_ite (fun _ => huuid) (fun _ => rfl)
  · exact huuid

lemma runs_load_found (hfound : w.journal = some j) (hdirection : j.direction = direction) :
    Runs (fun a w' => a = .use j ∧ w' = w) (loadOrStartJournal direction args) w := by
  have hload : Runs (fun loaded w' => loaded = .found j ∧ w' = w) (ask .loadJournal) w := by
    refine runs_ask trivial ?_
    intro loaded hloaded _
    refine ⟨?_, rfl⟩
    have hloaded : loaded = w.loaded := hloaded
    rw [hloaded, World.loaded, hfound]
  refine runs_seq hload ?_
  rintro _ w' ⟨rfl, rfl⟩
  refine wp_ite (fun hne => (hne hdirection).elim) (fun _ => ⟨rfl, rfl⟩)

lemma runs_load_fresh (hbegins : w.Begins direction) :
    Runs (fun a w' => (∃ runId path, a = .use (.start runId direction path)) ∧ w' = w)
      (loadOrStartJournal direction args) w := by
  have hload : Runs (fun loaded w' => loaded = w.loaded ∧ w' = w) (ask .loadJournal) w :=
    runs_ask trivial fun _ hloaded _ => ⟨hloaded, rfl⟩
  refine runs_seq hload ?_
  rintro _ w' ⟨rfl, rfl⟩
  unfold World.loaded
  cases hj : w'.journal with
  | none =>
    refine runs_seq runs_newRunId ?_
    rintro runId w'' rfl
    exact ⟨⟨runId, none, rfl⟩, rfl⟩
  | some j =>
    obtain ⟨hdirection, hok⟩ := hbegins j hj
    refine wp_ite (fun _ => ?_) (fun hsame => (hsame hdirection).elim)
    refine runs_seq runs_newRunId ?_
    rintro runId w'' rfl
    refine wp_ite (fun hrefused => ?_) (fun _ => ⟨⟨runId, _, rfl⟩, rfl⟩)
    simp [hok] at hrefused

end Runs

/-! ## What is on disk -/

/-- A complete journal of the other direction, or one of this direction that is clean. -/
def OnDisk (direction : Direction) (found : Option CutoverJournal) : Prop :=
  ∀ j, found = some j → (j.direction ≠ direction ∧ j.ok = true) ∨
    (j.direction = direction ∧ Clean CutoverError.Outlives direction.steps direction.steps j)

lemma kept_direction {steps : List Step} {direction : Direction} :
    Kept steps fun j => j.direction = direction where
  binds h _ _ := h
  finds h _ := h
  confirms h _ := h
  completes h _ := h
  fails h _ _ := h
  clears h _ := h
  setup h := h
  bracket h _ := h
  preflight h _ := h
  release h := h

lemma Kept.and {steps : List Step} {J J' : CutoverJournal → Prop} (h : Kept steps J)
    (h' : Kept steps J') : Kept steps fun j => J j ∧ J' j where
  binds hj _ _ := ⟨h.binds hj.1 _ _, h'.binds hj.2 _ _⟩
  finds hj _ := ⟨h.finds hj.1 _, h'.finds hj.2 _⟩
  confirms hj _ := ⟨h.confirms hj.1 _, h'.confirms hj.2 _⟩
  completes hj hdone := ⟨h.completes hj.1 hdone, h'.completes hj.2 hdone⟩
  fails hj hfailed hmem := ⟨h.fails hj.1 hfailed hmem, h'.fails hj.2 hfailed hmem⟩
  clears hj hstale := ⟨h.clears hj.1 hstale, h'.clears hj.2 hstale⟩
  setup hj := ⟨h.setup hj.1, h'.setup hj.2⟩
  bracket hj hspec := ⟨h.bracket hj.1 hspec, h'.bracket hj.2 hspec⟩
  preflight hj hmem := ⟨h.preflight hj.1 hmem, h'.preflight hj.2 hmem⟩
  release hj := ⟨h.release hj.1, h'.release hj.2⟩

lemma kept_releaseFailed {steps : List Step} (what : String) :
    Kept steps fun j => CutoverError.releaseFailed what ∈ j.errors where
  binds h _ _ := h
  finds h _ := h
  confirms h _ := h
  completes h _ := mem_filter.mpr ⟨h, rfl⟩
  fails h _ _ := mem_append_left _ h
  clears h hstale := by
    refine mem_filter.mpr ⟨h, ?_⟩
    cases hstale with
    | setup | bracket before | preflight => rfl
  setup h := mem_append_left _ h
  bracket h _ := mem_append_left _ h
  preflight h _ := mem_append_left _ h
  release h := mem_append_left _ h

lemma clean_start {runId : String} {direction : Direction} {path : Option String} :
    Clean CutoverError.Outlives direction.steps direction.steps (.start runId direction path) where
  single := nofun
  unfinished := nofun
  begun _ := by
    cases direction with
    | cutover | rollback => exact ⟨_, mem_cons_self ..⟩
  errors := nofun

lemma reached_onDisk {direction : Direction} {w₀ w : World} (hw₀ : w₀.Begins direction)
    (h : Reached direction w₀ w) : OnDisk direction w.journal := by
  have hkept : Kept direction.steps fun j => j.direction = direction ∧
      Clean CutoverError.Outlives direction.steps direction.steps j :=
    kept_direction.and (Clean.kept _ _ (fun _ => trivial) fun _ => trivial)
  refine h.onDisk hkept ?_ ?_ ?_ rfl ?_
  · intro j hj j' hj'
    cases hj'
    exact .inr hj
  · intro j hj hdirection
    rcases hj j rfl with ⟨hother, _⟩ | hclean
    · exact (hother hdirection).elim
    · exact hclean
  · intro _ runId path
    exact ⟨rfl, clean_start⟩
  · intro j hj
    exact .inl (hw₀ j hj)

/-! ## Recovery -/

section Recovery

variable {direction : Direction} {args : Args} {w : World} {j : CutoverJournal}
  {record : MaintenanceRecord}

lemma runs_transact_held (hargs : args.Suits direction)
    (hclean : Clean CutoverError.Outlives direction.steps direction.steps j)
    (hrelease : ∀ what, CutoverError.releaseFailed what ∉ j.errors) (hok : j.ok = false)
    (h : Under record j w) :
    Runs (fun j' w' => j'.ok = true ∧ w'.Released) (transact direction args j) w := by
  refine runs_seq (runs_bind_held hargs.1 hok h) ?_
  rintro ⟨j', failure⟩ w' ⟨hj', h'⟩
  cases hj'
  exact runs_bound hargs (hclean.bound hrelease) h'

lemma runs_transact_free (hargs : args.Suits direction)
    (hclean : Clean CutoverError.Outlives direction.steps direction.steps j)
    (hrelease : ∀ what, CutoverError.releaseFailed what ∉ j.errors) (hfree : ¬ w.Held)
    (htakes : j.interlockOwnerRunId.isSome = true → j.ok = true) :
    Runs (fun j' w' => j'.ok = true ∧ w'.Released) (transact direction args j) w := by
  refine runs_seq (runs_bind_free hargs.1 hfree htakes) ?_
  rintro ⟨j', failure⟩ w' ⟨hfailure, ⟨owner, generation, hj'⟩, record, h'⟩
  cases hfailure
  cases hj'
  have hbound : Clean CutoverError.Outlives direction.steps direction.steps
      { j with interlockOwnerRunId := owner, interlockGeneration := generation } :=
    hclean.of_phases rfl fun _ he => he
  exact runs_bound hargs (hbound.bound hrelease) h'

lemma OnDisk.begins (hdisk : OnDisk direction w.journal)
    (hnone : ¬ ∃ j, w.journal = some j ∧ j.direction = direction) : w.Begins direction := by
  intro j hj
  rcases hdisk j hj with hother | hclean
  · exact hother
  · exact (hnone ⟨j, hj, hclean.1⟩).elim

lemma OnDisk.clean (hdisk : OnDisk direction w.journal) (hj : w.journal = some j)
    (hdirection : j.direction = direction) :
    Clean CutoverError.Outlives direction.steps direction.steps j :=
  ((hdisk j hj).resolve_left fun hother => hother.1 hdirection).2

/-- A call completes, unless the journal is complete already and its interlock still
held. -/
lemma World.Recoverable.runs_completes (hw : w.Recoverable direction)
    (hdisk : OnDisk direction w.journal) (hargs : args.Suits direction)
    (hopen : ∀ j, w.journal = some j → j.direction = direction → w.Held → j.ok = false) :
    Runs (fun j' w' => j'.ok = true ∧ w'.Released) (runTransaction direction args) w := by
  by_cases hheld : w.Held
  · obtain ⟨record, hinterlock, hrecord⟩ := hheld
    obtain ⟨j, hj, hdirection, hbinds⟩ := hw.bound record hinterlock hrecord
    refine runs_seq (runs_load_found hj hdirection) ?_
    rintro _ w' ⟨rfl, rfl⟩
    exact runs_transact_held hargs (hdisk.clean hj hdirection) (hw.unreleased j hj hdirection)
      (hopen j hj hdirection ⟨record, hinterlock, hrecord⟩) ⟨hinterlock, hrecord, hbinds⟩
  · by_cases hfound : ∃ j, w.journal = some j ∧ j.direction = direction
    · obtain ⟨j, hj, hdirection⟩ := hfound
      refine runs_seq (runs_load_found hj hdirection) ?_
      rintro _ w' ⟨rfl, rfl⟩
      exact runs_transact_free hargs (hdisk.clean hj hdirection)
        (hw.unreleased j hj hdirection) hheld fun hbound => hw.free j hj hdirection hbound hheld
    · refine runs_seq (runs_load_fresh (hdisk.begins hfound)) ?_
      rintro _ w' ⟨⟨runId, path, rfl⟩, rfl⟩
      exact runs_transact_free hargs clean_start nofun hheld nofun

/-- A call that is refused, or finds its bracket broken, writes the error down. -/
structure Halted (j : CutoverJournal) (w : World) (j' : CutoverJournal) (w' : World) : Prop where
  incomplete : j'.ok = false
  journal : w'.journal = some j'
  interlock : w'.interlock = w.interlock
  direction : j'.direction = j.direction
  owner : j'.interlockOwnerRunId = j.interlockOwnerRunId
  generation : j'.interlockGeneration = j.interlockGeneration

lemma Halted.binds {j' : CutoverJournal} {w' : World}
    (h : Halted j w j' w') : j'.Binds record ↔ j.Binds record := by
  unfold CutoverJournal.Binds
  rw [h.owner, h.generation]

lemma runs_transact_refused (hargs : args.Owned) (hheld : w.Held)
    (htakes : j.interlockOwnerRunId.isSome = true → j.ok = true) :
    Runs (fun j' w' => Halted j w j' w' ∧ ∃ failure, j' = j.addError (.setup failure))
      (transact direction args j) w := by
  refine runs_seq (runs_bind_refused hargs hheld htakes) ?_
  rintro ⟨j', failure⟩ w' ⟨hj', hfailure, rfl⟩
  cases hj'
  cases failure with
  | none => cases hfailure
  | some failure =>
    refine runs_saved.mono ?_
    rintro j' w'' ⟨rfl, rfl⟩
    exact ⟨⟨CutoverJournal.ok_addError, rfl, rfl, rfl, rfl, rfl⟩, failure, rfl⟩

/-- A complete journal whose interlock is still held: the refusal makes it incomplete, and
the next call carries on. -/
lemma World.Recoverable.runs_reopens (hw : w.Recoverable direction)
    (hdisk : OnDisk direction w.journal) (hargs : args.Suits direction) (hj : w.journal = some j)
    (hdirection : j.direction = direction) (hok : j.ok = true) (hheld : w.Held) :
    Runs (fun _ w' => w'.Recoverable direction ∧ OnDisk direction w'.journal ∧
      ∀ j, w'.journal = some j → j.ok = false) (runTransaction direction args) w := by
  refine runs_seq (runs_load_found hj hdirection) ?_
  rintro _ w' ⟨rfl, rfl⟩
  refine (runs_transact_refused hargs.1 hheld fun _ => hok).mono ?_
  rintro j' w'' ⟨hhalted, failure, rfl⟩
  have hheld' : w''.Held := by
    obtain ⟨record, hinterlock, hrecord⟩ := hheld
    exact ⟨record, hhalted.interlock.trans hinterlock, hrecord⟩
  refine ⟨⟨?_, ?_, ?_⟩, ?_, ?_⟩
  · -- the error that is recorded is about the interlock, not a release
    intro j'' hj'' _ what hwhat
    rw [hhalted.journal] at hj''
    cases hj''
    have hold : .releaseFailed what ∈ j.errors := by
      simpa [CutoverJournal.addError] using hwhat
    exact hw.unreleased j hj hdirection what hold
  · intro record hinterlock hrecord
    obtain ⟨j'', hj'', _, hbinds⟩ := hw.bound record (hhalted.interlock ▸ hinterlock) hrecord
    rw [hj] at hj''
    cases hj''
    exact ⟨_, hhalted.journal, hdirection, hhalted.binds.mpr hbinds⟩
  · intro _ _ _ _ hfree
    exact (hfree hheld').elim
  · intro j'' hj''
    rw [hhalted.journal] at hj''
    cases hj''
    exact .inr ⟨hdirection, (hdisk.clean hj hdirection).addError (.inl trivial)⟩
  · intro j'' hj''
    rw [hhalted.journal] at hj''
    cases hj''
    exact hhalted.incomplete

lemma World.Recoverable.converges (hw : w.Recoverable direction)
    (hdisk : OnDisk direction w.journal) : w.Converges direction := by
  intro args world result hstart hargs hrun
  subst hstart
  simp only [Direction.call_eq] at hrun
  have hends : ∀ {K : CutoverJournal → World → Prop} (n), Runs K
      (runTransaction direction (args n)) (world n) →
      ∃ j, result n = .ok j ∧ K j (world (n + 1)) := by
    intro K n hK
    have hpost := (hrun n).post hK
    cases hresult : result n with
    | ok j =>
      rw [hresult] at hpost
      exact ⟨j, rfl, hpost⟩
    | error fault =>
      rw [hresult] at hpost
      exact hpost.elim
  by_cases hdone : ∃ j, (world 0).journal = some j ∧ j.direction = direction ∧
      (world 0).Held ∧ j.ok = true
  · -- complete but held: one run reopens it, the next completes it
    obtain ⟨j, hj, hdirection, hheld, hok⟩ := hdone
    obtain ⟨_, _, hw', hdisk', hopen⟩ :=
      hends 0 (hw.runs_reopens hdisk (hargs 0) hj hdirection hok hheld)
    obtain ⟨j', hj', hdone⟩ :=
      hends 1 (hw'.runs_completes hdisk' (hargs 1) fun j hj _ _ => hopen j hj)
    exact ⟨1, j', hj', hdone⟩
  · have hopen : ∀ j, (world 0).journal = some j → j.direction = direction →
        (world 0).Held → j.ok = false := by
      intro j hj hdirection hheld
      by_contra hok
      exact hdone ⟨j, hj, hdirection, hheld, by simpa using hok⟩
    obtain ⟨j, hj, hdone⟩ := hends 0 (hw.runs_completes hdisk (hargs 0) hopen)
    exact ⟨0, j, hj, hdone⟩

end Recovery

/-! ## Worlds that no call recovers -/

section Stuck

variable {direction : Direction} {args : Args} {w w' : World} {j : CutoverJournal}
  {r : Except Fault CutoverJournal}

inductive Stuck (direction : Direction) (w : World) : Prop where
  | unreleased (j : CutoverJournal) (what : String) (hj : w.journal = some j)
      (hdirection : j.direction = direction) (hwhat : .releaseFailed what ∈ j.errors)
  | unbound (record : MaintenanceRecord) (hinterlock : w.interlock = some record)
      (hheld : record.held = true)
      (hnone : ∀ j, w.journal = some j → j.direction = direction → ¬ j.Binds record)
  | lost (j : CutoverJournal) (hj : w.journal = some j) (hdirection : j.direction = direction)
      (hbound : j.interlockOwnerRunId.isSome = true) (hfree : ¬ w.Held) (hok : j.ok = false)

lemma stuck_of_not_recoverable (h : ¬ w.Recoverable direction) : Stuck direction w := by
  by_contra hstuck
  refine h ⟨?_, ?_, ?_⟩
  · intro j hj hdirection what hwhat
    exact hstuck (.unreleased j what hj hdirection hwhat)
  · intro record hinterlock hheld
    by_contra hnone
    refine hstuck (.unbound record hinterlock hheld ?_)
    intro j hj hdirection hbinds
    exact hnone ⟨j, hj, hdirection, hbinds⟩
  · intro j hj hdirection hbound hfree
    by_contra hok
    exact hstuck (.lost j hj hdirection hbound hfree (by simpa using hok))

/-- The interlock is not the one that the journal is bound to. -/
def Astray (j : CutoverJournal) (w : World) : Prop :=
  ∀ record, w.interlock = some record → record.held = true → ¬ j.Binds record

lemma runs_verify_astray (h : Astray j w) :
    Runs (fun verdict w' => verdict.isSome = true ∧ w' = w) (verifyInterlockBracket j) w := by
  unfold verifyInterlockBracket
  split
  · rename_i owner generation howner hgeneration
    refine runs_seq (K := fun read w' => read = w.read ∧ w' = w) ?_ ?_
    · exact runs_ask trivial fun _ _ hread => ⟨hread, rfl⟩
    · rintro read w' ⟨rfl, rfl⟩
      cases hinterlock : w'.interlock with
      | none =>
        have hread : w'.read = ⟨.free, none⟩ := by simp [World.read, hinterlock]
        rw [hread]
        exact ⟨rfl, rfl⟩
      | some record =>
        cases hheld : record.held with
        | false =>
          have hread : w'.read = ⟨.free, some record⟩ := by
            simp [World.read, hinterlock, hheld]
          rw [hread]
          exact ⟨rfl, rfl⟩
        | true =>
          have hread : w'.read = ⟨.held, some record⟩ := by
            simp [World.read, hinterlock, hheld]
          rw [hread]
          refine wp_ite (fun _ => ⟨rfl, rfl⟩) fun hsame => ?_
          refine wp_ite (fun _ => ⟨rfl, rfl⟩) fun hsame' => ?_
          -- owner and generation agree: not astray after all
          refine (h record hinterlock hheld ?_).elim
          unfold CutoverJournal.Binds
          rw [howner, hgeneration, not_not.mp hsame, not_not.mp hsame']
          exact ⟨rfl, rfl⟩
  · exact ⟨rfl, rfl⟩

/-- A journal that is bound and incomplete goes on with the bracket it has, and fails at the
first check. -/
lemma runs_transact_astray (hargs : args.Owned) (hbound : j.interlockOwnerRunId.isSome = true)
    (hok : j.ok = false) (h : Astray j w) : Runs (Halted j w) (transact direction args j) w := by
  have hbind : Runs (fun r w' => r = (j.clears CutoverError.isSetup, none) ∧
      w'.interlock = w.interlock) (bindInterlockBracket args j) w := by
    unfold bindInterlockBracket
    rw [hargs.1, hargs.2]
    rw [if_pos (by simp [hbound, hok])]
    refine runs_seq runs_clearStaleErrors ?_
    rintro j' w' ⟨rfl, hw'⟩
    exact ⟨rfl, hw'⟩
  -- the first check of the bracket fails
  have hbracket : ∀ {before w'}, w'.interlock = w.interlock →
      Runs (fun r w'' => r.2 = false ∧ Halted j w r.1 w'')
        (bracketOk before (j.clears CutoverError.isSetup)) w' := by
    intro before w' hw'
    have hastray : Astray (j.clears CutoverError.isSetup) w' := by
      intro record hinterlock
      exact h record (hw' ▸ hinterlock)
    refine runs_seq (runs_verify_astray hastray) ?_
    rintro verdict w'' ⟨hverdict, rfl⟩
    cases verdict with
    | none => cases hverdict
    | some failure =>
      refine runs_seq runs_saved ?_
      rintro j' w₃ ⟨rfl, rfl⟩
      exact ⟨rfl, CutoverJournal.ok_addError, rfl, hw', rfl, rfl, rfl⟩
  have hsteps : ∃ spec rest, direction.steps = .phase spec :: rest := by
    cases direction with
    | cutover | rollback => exact ⟨_, _, rfl⟩
  obtain ⟨spec, rest, hsteps⟩ := hsteps
  refine runs_seq hbind ?_
  rintro ⟨j', failure⟩ w' ⟨hj', hw'⟩
  cases hj'
  refine runs_seq (K := fun r w'' => r.2 = false ∧ Halted j w r.1 w'') ?_ ?_
  · rw [hsteps]
    refine runs_seq (hbracket hw') ?_
    rintro ⟨j', bound⟩ w'' ⟨hfails, hhalted⟩
    cases hfails
    exact wp_ite (by simp) fun _ => ⟨rfl, hhalted⟩
  · rintro ⟨j', completed⟩ w'' ⟨hfails, hhalted⟩
    cases hfails
    exact wp_ite (by simp) fun _ => hhalted

/-- Where the interlock is astray, a call halts: refused, or at the first check. -/
lemma runs_transact_halted (hargs : args.Owned) (h : Astray j w)
    (hheld : (j.interlockOwnerRunId.isSome = true → j.ok = true) → w.Held) :
    Runs (Halted j w) (transact direction args j) w := by
  by_cases htakes : j.interlockOwnerRunId.isSome = true → j.ok = true
  · exact (runs_transact_refused hargs (hheld htakes) htakes).mono fun _ _ hhalted => hhalted.1
  · simp only [Classical.not_imp, Bool.not_eq_true] at htakes
    exact runs_transact_astray hargs htakes.1 htakes.2 h

lemma Exec.of_succeeding (hrun : Exec World.succeeding (runTransaction direction args) w r w') :
    Exec World.machine (runTransaction direction args) w r w' :=
  .mono hrun fun _ _ _ hx => hx.1

lemma runs_ends {K : CutoverJournal → World → Prop}
    (hrun : Exec World.succeeding (runTransaction direction args) w r w')
    (hK : Runs K (runTransaction direction args) w) : ∃ j, r = .ok j ∧ K j w' := by
  have hpost := hrun.post hK
  cases r with
  | ok j => exact ⟨j, rfl, hpost⟩
  | error fault => exact hpost.elim

/-- A journal of this direction that carries the error of a failed release. -/
def Unreleased (direction : Direction) (what : String) (j : CutoverJournal) : Prop :=
  j.direction = direction ∧ CutoverError.releaseFailed what ∈ j.errors

lemma stuck_unreleased {what : String} (hj : w.journal = some j)
    (hdirection : j.direction = direction) (hwhat : .releaseFailed what ∈ j.errors)
    (hrun : Exec World.succeeding (runTransaction direction args) w r w') :
    (∀ j, r = .ok j → j.ok = false) ∧ Stuck direction w' := by
  have hkept : Kept direction.steps (Unreleased direction what) :=
    kept_direction.and (kept_releaseFailed what)
  -- a run keeps the error, or the journal of the other direction
  have hkeeping : Keeping (fun found => ∃ j, found = some j ∧ Unreleased direction what j)
      (fun j => Unreleased direction what j ∨ j.ok = false) (runTransaction direction args) := by
    refine keeping_runTransaction hkept ?_ ?_ ?_ rfl
    · intro j hj
      exact ⟨j, rfl, hj⟩
    · rintro j ⟨_, hj, hkept⟩ _
      cases hj
      exact hkept
    · rintro (⟨_, hj, _⟩ | ⟨j, ⟨_, hj, hsame, _⟩, hother⟩)
      · cases hj
      · cases hj
        exact (hother hsame).elim
  have hpost := (Exec.of_succeeding hrun).post (wp_of_watch (hkeeping w ⟨j, hj, hdirection, hwhat⟩))
  cases r with
  | ok j' =>
    obtain ⟨hj', j'', hj'', hdirection'', hwhat''⟩ := hpost
    refine ⟨?_, .unreleased j'' what hj'' hdirection'' hwhat''⟩
    intro j₁ hj₁
    cases hj₁
    rcases hj' with ⟨_, hwhat'⟩ | hok
    · simp [CutoverJournal.ok, ne_nil_of_mem hwhat']
    · exact hok
  | error fault =>
    obtain ⟨j'', hj'', hdirection'', hwhat''⟩ := hpost
    exact ⟨by simp, .unreleased j'' what hj'' hdirection'' hwhat''⟩

lemma stuck_call (hdisk : OnDisk direction w.journal) (hargs : args.Owned) (hw : Stuck direction w)
    (hrun : Exec World.succeeding (runTransaction direction args) w r w') :
    (∀ j, r = .ok j → j.ok = false) ∧ Stuck direction w' := by
  cases hw with
  | unreleased j what hj hdirection hwhat =>
    exact stuck_unreleased hj hdirection hwhat hrun
  | unbound record hinterlock hheld hnone =>
    have hheld' : w.Held := ⟨record, hinterlock, hheld⟩
    -- the journal of the call, whether it is found or new, is not bound to the record
    have hhalts : Runs (fun j' w' => ∃ j, Halted j w j' w' ∧ j.direction = direction ∧
        ¬ j.Binds record) (runTransaction direction args) w := by
      have htransact : ∀ j, j.direction = direction → ¬ j.Binds record →
          Runs (fun j' w' => ∃ j, Halted j w j' w' ∧ j.direction = direction ∧
            ¬ j.Binds record) (transact direction args j) w := by
        intro j hdirection hbinds
        have hastray : Astray j w := by
          intro record' hinterlock' _
          rw [hinterlock] at hinterlock'
          cases hinterlock'
          exact hbinds
        refine (runs_transact_halted hargs hastray fun _ => hheld').mono ?_
        exact fun j' w' hhalted => ⟨j, hhalted, hdirection, hbinds⟩
      by_cases hfound : ∃ j, w.journal = some j ∧ j.direction = direction
      · obtain ⟨j, hj, hdirection⟩ := hfound
        refine runs_seq (runs_load_found hj hdirection) ?_
        rintro _ w' ⟨rfl, rfl⟩
        exact htransact j hdirection (hnone j hj hdirection)
      · refine runs_seq (runs_load_fresh (hdisk.begins hfound)) ?_
        rintro _ w' ⟨⟨runId, path, rfl⟩, rfl⟩
        exact htransact _ rfl fun hbinds => nomatch hbinds.1
    obtain ⟨j', rfl, j, hhalted, hdirection, hbinds⟩ := runs_ends hrun hhalts
    refine ⟨fun _ h => Except.ok.inj h ▸ hhalted.incomplete, ?_⟩
    refine .unbound record (hhalted.interlock.trans hinterlock) hheld ?_
    intro j'' hj'' _
    rw [hhalted.journal] at hj''
    cases hj''
    rw [hhalted.binds]
    exact hbinds
  | lost j hj hdirection hbound hfree hok =>
    have hastray : Astray j w := fun record hinterlock hheld =>
      (hfree ⟨record, hinterlock, hheld⟩).elim
    have hhalts : Runs (Halted j w) (runTransaction direction args) w := by
      refine runs_seq (runs_load_found hj hdirection) ?_
      rintro _ w' ⟨rfl, rfl⟩
      exact runs_transact_astray hargs hbound hok hastray
    obtain ⟨j', rfl, hhalted⟩ := runs_ends hrun hhalts
    refine ⟨fun _ h => Except.ok.inj h ▸ hhalted.incomplete, ?_⟩
    refine .lost j' hhalted.journal (hhalted.direction.trans hdirection) ?_ ?_ hhalted.incomplete
    · rw [hhalted.owner]
      exact hbound
    · rintro ⟨record, hinterlock, hheld⟩
      exact hfree ⟨record, hhalted.interlock ▸ hinterlock, hheld⟩

lemma succeeding_answers (w : World) (o : Op) : ∃ reply, World.succeeding.legal w o reply := by
  cases o with
  | loadJournal => exact ⟨.ok w.loaded, ⟨trivial, rfl⟩, trivial⟩
  | preserveCorruptJournal | saveJournal j => exact ⟨.ok (), ⟨trivial, trivial⟩, trivial⟩
  | uuid => exact ⟨.ok "", ⟨trivial, trivial⟩, trivial⟩
  | takeInterlock owner =>
    by_cases hheld : w.Held
    · exact ⟨.failed (.runtimeError "") false, nofun, hheld, rfl, "", rfl⟩
    · exact ⟨.ok (w.takes owner), ⟨hheld, rfl⟩, trivial⟩
  | readInterlock => exact ⟨.ok w.read, ⟨trivial, .inl rfl⟩, rfl⟩
  | releaseInterlock =>
    by_cases hnone : w.interlock = none
    · exact ⟨.failed (.runtimeError "") false, nofun, hnone, rfl, "", rfl⟩
    · exact ⟨.ok (), ⟨hnone, trivial⟩, trivial⟩
  | act n => exact ⟨.ok ⟨"", none⟩, ⟨trivial, trivial⟩, trivial⟩
  | verify n => exact ⟨.ok (true, ""), ⟨trivial, trivial⟩, rfl⟩
  | isFile path => exact ⟨.ok true, ⟨trivial, trivial⟩, rfl⟩

lemma exists_calls (direction : Direction) {args : Args} (w : World) :
    ∃ (world : ℕ → World) (result : ℕ → Except Fault CutoverJournal), world 0 = w ∧
      ∀ n, Exec World.succeeding (runTransaction direction args) (world n) (result n)
        (world (n + 1)) := by
  choose result next hrun using
    Lib.Exec.exists_of_answered succeeding_answers (runTransaction direction args)
  refine ⟨fun n => next^[n] w, fun n => result (next^[n] w), rfl, ?_⟩
  intro n
  dsimp only
  rw [Function.iterate_succ_apply']
  exact hrun _

lemma Stuck.not_converges {w₀ : World} (hw₀ : w₀.Begins direction)
    (hreached : Reached direction w₀ w) (hw : Stuck direction w) : ¬ w.Converges direction := by
  intro hconverges
  have hargs : (⟨none, false, none, none, some "civiccast.exe"⟩ : Args).Suits direction :=
    ⟨⟨rfl, rfl⟩, fun _ => ⟨_, rfl, by decide⟩⟩
  obtain ⟨world, result, hstart, hrun⟩ := exists_calls direction w
  -- every world of the sequence is one that calls lead to, and stuck
  have hworlds : ∀ n, Reached direction w₀ (world n) ∧ Stuck direction (world n) := by
    intro n
    induction n with
    | zero =>
      rw [hstart]
      exact ⟨hreached, hw⟩
    | succ n ih =>
      have hvisits := (Exec.of_succeeding (hrun n)).visits
      rw [← Direction.call_eq] at hvisits
      refine ⟨.call ih.1 _ hargs.1 hvisits, ?_⟩
      exact (stuck_call (reached_onDisk hw₀ ih.1) hargs.1 ih.2 (hrun n)).2
  obtain ⟨n, j, hj, hok, _⟩ := hconverges _ world result hstart (fun _ => hargs) fun n => by
    rw [Direction.call_eq]
    exact hrun n
  have hends := stuck_call (reached_onDisk hw₀ (hworlds n).1) hargs.1 (hworlds n).2 (hrun n)
  have hfails := hends.1 j hj
  rw [hok] at hfails
  cases hfails

end Stuck

/-- After any history, calls that succeed converge if and only if the world is
recoverable. -/
theorem converges_iff_recoverable {direction : Direction} {w₀ w : World}
    (hw₀ : w₀.Begins direction) (h : Reached direction w₀ w) :
    w.Converges direction ↔ w.Recoverable direction := by
  constructor
  · intro hconverges
    by_contra hnot
    exact (stuck_of_not_recoverable hnot).not_converges hw₀ h hconverges
  · intro hw
    exact hw.converges (reached_onDisk hw₀ h)

/-- A call in owned mode that names no run. -/
def plainArgs : Args := ⟨none, false, none, none, none⟩

def freshWorld : World := ⟨none, none⟩

/-- The first call was killed when it had taken the interlock, before it bound the
journal. -/
def takenWorld : World := ⟨none, some ⟨true, 1, "run"⟩⟩

/-- The first call was killed when it had bound the journal. -/
def boundWorld : World where
  journal := some { CutoverJournal.start "run" .cutover none with
    interlockOwnerRunId := some "run", interlockGeneration := some 1 }
  interlock := some ⟨true, 1, "run"⟩

lemma begins_fresh {direction : Direction} : freshWorld.Begins direction := nofun

lemma visits_taken : Visits World.machine (runCutover plainArgs) freshWorld takenWorld := by
  refine .call (.ok .absent) ⟨trivial, rfl⟩ ?_
  refine .call (.ok "run") ⟨trivial, trivial⟩ ?_
  have hfree : ¬ freshWorld.Held := nofun
  exact .call (.ok ⟨true, 1, "run"⟩) ⟨hfree, rfl⟩ (.here _ _)

lemma visits_bound : Visits World.machine (runCutover plainArgs) freshWorld boundWorld := by
  refine .call (.ok .absent) ⟨trivial, rfl⟩ ?_
  refine .call (.ok "run") ⟨trivial, trivial⟩ ?_
  have hfree : ¬ freshWorld.Held := nofun
  refine .call (.ok ⟨true, 1, "run"⟩) ⟨hfree, rfl⟩ ?_
  exact .call (.ok ()) ⟨trivial, trivial⟩ (.here _ _)

/-- A call that was killed after it bound the journal is recovered from. -/
theorem bound_world_converges : boundWorld.Converges .cutover := by
  have hreached : Reached .cutover freshWorld boundWorld :=
    .call .start plainArgs ⟨rfl, rfl⟩ visits_bound
  refine (converges_iff_recoverable begins_fresh hreached).mpr ⟨?_, ?_, ?_⟩
  · intro j hj _ what hwhat
    cases hj
    cases hwhat
  · intro record hrecord _
    cases hrecord
    exact ⟨_, rfl, rfl, rfl, rfl⟩
  · intro _ _ _ _ hfree
    exact (hfree ⟨_, rfl, rfl⟩).elim

/-- A call that was killed between the two writes leaves an interlock that no call
releases. -/
theorem taken_world_never_converges :
    Reached .cutover freshWorld takenWorld ∧ ¬ takenWorld.Converges .cutover := by
  have hreached : Reached .cutover freshWorld takenWorld :=
    .call .start plainArgs ⟨rfl, rfl⟩ visits_taken
  have hstuck : Stuck .cutover takenWorld := .unbound ⟨true, 1, "run"⟩ rfl rfl nofun
  exact ⟨hreached, hstuck.not_converges begins_fresh hreached⟩

end CivicCast.Cutover
