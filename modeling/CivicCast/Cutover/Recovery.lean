import CivicCast.Cutover.Transaction

/-! # Recovery of a cutover

A transaction that fails leaves the interlock held, and the next call goes on inside it,
with the journal that it finds on disk. `World.machine` gives the seams every answer they
can have, failures included; a failed call may have taken effect. `Reached` is any
history: calls that return, raise or are killed, with other runs changing the interlock
between them.

`Kept` is what the edits of a transaction keep in the journal, in memory and on disk, so
that it holds in every world of a history (`Reached.onDisk`). The main instance is
`Clean`: whatever failed, the errors on record are such that a later success clears them,
apart from the error of a failed release.
-/

namespace CivicCast.Cutover

open Lib Lib.Prog List
open Upgrade (MaintenanceRecord)

/-! ## The machine -/

structure World where
  /-- The journal on disk. -/
  journal : Option CutoverJournal
  interlock : Option MaintenanceRecord
deriving DecidableEq

namespace World

def Held (w : World) : Prop :=
  ∃ record, w.interlock = some record ∧ record.held = true

/-- The record that `take_interlock` writes over a free one. -/
def takes (w : World) (ownerRunId : String) : MaintenanceRecord where
  held := true
  generation := match w.interlock with
    | some record => record.generation + 1
    | none => 1
  ownerRunId := ownerRunId

def after (w : World) : Op → World
  | .saveJournal journal => { w with journal := some journal }
  | .takeInterlock ownerRunId => { w with interlock := some (w.takes ownerRunId) }
  | .releaseInterlock =>
    { w with interlock := w.interlock.map fun record => { record with held := false } }
  | _ => w

def CanAct (w : World) : Op → Prop
  | .takeInterlock _ => ¬ w.Held
  | .releaseInterlock => w.interlock ≠ none
  | _ => True

def loaded (w : World) : Loaded :=
  match w.journal with
  | some journal => .found journal
  | none => .absent

def read (w : World) : InterlockRead where
  status := match w.interlock with
    | some record => if record.held then .held else .free
    | none => .free
  record := w.interlock

/-- What a call that succeeds can answer. -/
def Shows (w : World) : (o : Op) → o.Res → Prop
  | .loadJournal, loaded => loaded = w.loaded
  | .takeInterlock ownerRunId, record => record = w.takes ownerRunId
  | .readInterlock, read => read = w.read ∨ read = ⟨.unreadable, none⟩
  | _, _ => True

def Replies (w : World) (o : Op) : Reply o.Res → Prop
  | .ok a => w.CanAct o ∧ w.Shows o a
  | .failed _ landed => landed = true → w.CanAct o

def next (w : World) (o : Op) : Reply o.Res → World
  | .ok _ => w.after o
  | .failed _ landed => if landed then w.after o else w

def machine : Machine cutoverIface World where
  pre := fun _ _ => True
  legal := fun w o reply => w.Replies o reply
  next := fun w o reply => w.next o reply

end World

/-! ## Histories -/

/-- The worlds that calls in owned mode lead to, each of them as far as it got. Between
two calls other runs do with the interlock what they like. -/
inductive Reached (direction : Direction) (w₀ : World) : World → Prop where
  | start : Reached direction w₀ w₀
  | call {w w' : World} (h : Reached direction w₀ w) (args : Args) (howned : args.Owned)
      (hrun : Visits World.machine (direction.call args) w w') :
      Reached direction w₀ w'
  | elsewhere {w : World} (h : Reached direction w₀ w) (interlock : Option MaintenanceRecord) :
      Reached direction w₀ { w with interlock := interlock }

/-- No transaction of this direction has begun, and none of the other is under way. -/
def World.Begins (direction : Direction) (w : World) : Prop :=
  ∀ j, w.journal = some j → j.direction ≠ direction ∧ j.ok = true

/-! ## What the edits of a transaction keep -/

def Step.numbers : List Step → List ℕ :=
  List.filterMap fun
    | .phase spec => some spec.number
    | .preflight => none

def CutoverJournal.fails (j : CutoverJournal) (record : CutoverPhaseRecord) (fault : Fault) :
    CutoverJournal :=
  (j.upsertPhase record).addError (.phaseFailed record.phase fault)

def CutoverJournal.completes (j : CutoverJournal) (record : CutoverPhaseRecord) :
    CutoverJournal :=
  let j := j.upsertPhase record
  { j with errors := j.errors.filter fun e => !e.isPhaseFailed record.phase }

def CutoverJournal.clears (j : CutoverJournal) (stale : CutoverError → Bool) : CutoverJournal :=
  { j with errors := j.errors.filter fun e => !stale e }

/-- The success points of a transaction other than the end of a phase. -/
inductive Clearing : (CutoverError → Bool) → Prop where
  | setup : Clearing CutoverError.isSetup
  | bracket (before : String) : Clearing (CutoverError.isBracket before)
  | preflight : Clearing CutoverError.isPreflight

/-- `J` is kept by every edit that a transaction over `steps` makes. -/
structure Kept (steps : List Step) (J : CutoverJournal → Prop) : Prop where
  binds : ∀ {j}, J j → ∀ owner generation,
    J { j with interlockOwnerRunId := owner, interlockGeneration := generation }
  finds : ∀ {j}, J j → ∀ path, J { j with removedRunEntryExePath := path }
  confirms : ∀ {j}, J j → ∀ n, J (j.confirmPhase n)
  completes : ∀ {j record}, J j → record.status = .done → J (j.completes record)
  fails : ∀ {j record fault}, J j → record.status = .failed →
    record.phase ∈ Step.numbers steps → J (j.fails record fault)
  clears : ∀ {j stale}, J j → Clearing stale → J (j.clears stale)
  setup : ∀ {j failure}, J j → J (j.addError (.setup failure))
  bracket : ∀ {j spec failure}, J j → .phase spec ∈ steps →
    J (j.addError (.bracket spec.before failure))
  preflight : ∀ {j failure}, J j → .preflight ∈ steps → J (j.addError (.preflight failure))
  release : ∀ {j what}, J j → J (j.addError (.releaseFailed what))

section Keeping

variable {P : Option CutoverJournal → Prop} {α β : Type} {φ : α → Prop} {ψ : β → Prop}

/-- The journal on disk satisfies `P` all along, and every value satisfies `φ`. -/
def Keeping (P : Option CutoverJournal → Prop) (φ : α → Prop) (p : CutoverM α) : Prop :=
  ∀ w : World, P w.journal →
    p.wp (World.machine.watch fun w => P w.journal)
      (Either (fun a w' => φ a ∧ P w'.journal) (fun w' => P w'.journal)) w

variable {spec : PhaseSpec} {args : Args} {p : CutoverM α} {o : Op} {failure : Option String}

lemma keeping_pure {a : α} (h : φ a) : Keeping P φ (pure a) := fun _ hw => ⟨h, hw⟩

lemma keeping_raise {fault : Fault} : Keeping P φ (.raise fault) := fun _ hw => hw

lemma Keeping.bind {f : α → CutoverM β} (hp : Keeping P φ p)
    (hf : ∀ a, φ a → Keeping P ψ (f a)) : Keeping P ψ (p >>= f) := by
  intro w hw
  exact either_bind (hp w hw) fun a w' ha => hf a ha.1 w' ha.2

lemma Keeping.mono {φ' : α → Prop} (hp : Keeping P φ p)
    (hφ : ∀ a, φ a → φ' a) : Keeping P φ' p := by
  intro w hw
  exact either_mono (hp w hw) (fun a _ ha => ⟨hφ a ha.1, ha.2⟩) fun _ h => h

lemma keeping_ite {c : Prop} [Decidable c] {q : CutoverM α} (hp : Keeping P φ p)
    (hq : Keeping P φ q) : Keeping P φ (if c then p else q) := by
  split
  · exact hp
  · exact hq

lemma Keeping.attempt (hp : Keeping P φ p) :
    Keeping P (fun r => ∀ a, r = .ok a → φ a) p.attempt := by
  intro w hw
  rw [wp_attempt]
  refine wp_mono ?_ (hp w hw)
  intro r w' hr
  cases r with
  | ok a => exact ⟨fun b hb => Except.ok.inj hb ▸ hr.1, hr.2⟩
  | error fault => exact ⟨fun b hb => (nomatch hb), hr⟩

lemma after_journal_of {w : World} (hw : P w.journal)
    (ho : ∀ j, o = .saveJournal j → P (some j)) : P (w.after o).journal := by
  cases o with
  | saveJournal j => exact ho j rfl
  | _ => exact hw

lemma keeping_ask {φ : o.Res → Prop} (ho : ∀ j, o = .saveJournal j → P (some j))
    (hφ : ∀ (w : World) (a), P w.journal → w.Shows o a → φ a) : Keeping P φ (ask o) := by
  intro w hw
  refine ⟨⟨trivial, hw⟩, ?_⟩
  intro reply hreply
  cases reply with
  | ok a => exact ⟨hφ w a hw hreply.2, after_journal_of hw ho⟩
  | failed fault landed =>
    cases landed with
    | false => exact hw
    | true => exact after_journal_of hw ho

lemma keeping_other (ho : ∀ j, o ≠ .saveJournal j) : Keeping P (fun _ : o.Res => True) (ask o) :=
  keeping_ask (fun j hj => (ho j hj).elim) fun _ _ _ _ => trivial

variable {J : CutoverJournal → Prop} {j : CutoverJournal}

lemma keeping_saved (hP : ∀ j, J j → P (some j)) (hj : J j) : Keeping P J (saved j) := by
  refine .bind (keeping_ask ?_ fun _ _ _ _ => trivial) ?_
  · intro j' hj'
    cases hj'
    exact hP j hj
  · intro _ _
    exact keeping_pure hj

variable {steps : List Step} (hJ : Kept steps J) (hP : ∀ j, J j → P (some j))

include hJ hP

lemma keeping_clearStaleErrors {stale : CutoverError → Bool} (hstale : Clearing stale)
    (hj : J j) : Keeping P J (clearStaleErrors j stale) := by
  unfold clearStaleErrors
  dsimp only
  split
  · exact keeping_saved hP (hJ.clears hj hstale)
  · exact keeping_pure hj

lemma keeping_recordDone {detail : String}
    (hj : J j) : Keeping P (fun r => J r.1) (recordDone spec j detail failure) := by
  refine .bind (keeping_saved hP (hJ.completes hj rfl)) ?_
  intro j' hj'
  exact keeping_pure hj'

lemma keeping_recordFailed {fault : Fault} (hspec : spec.number ∈ Step.numbers steps) (hj : J j) :
    Keeping P (fun r => J r.1) (recordFailed spec j fault failure) := by
  refine .bind (keeping_saved hP (hJ.fails hj rfl hspec)) ?_
  intro j' hj'
  exact keeping_pure hj'

omit hP in
lemma kept_noteExePath {result : ActionResult} (hj : J j) : J (noteExePath spec result j) := by
  unfold noteExePath
  split
  · split
    · exact hj
    · exact hJ.finds hj _
  · exact hj

lemma keeping_runAction (hspec : spec.number ∈ Step.numbers steps) (hj : J j) :
    Keeping P (fun r => J r.1) (runAction spec j failure) := by
  refine .bind (keeping_other (o := .act spec.number) nofun).attempt ?_
  intro acted _
  cases acted with
  | error fault => exact keeping_recordFailed hJ hP hspec hj
  | ok result =>
    have hj' : J (noteExePath spec result j) := kept_noteExePath hJ hj
    refine keeping_ite ?_ (keeping_recordDone hJ hP hj')
    refine .bind (keeping_other (o := .verify spec.number) nofun).attempt ?_
    intro checked _
    cases checked with
    | error fault => exact keeping_recordFailed hJ hP hspec hj'
    | ok answer =>
      obtain ⟨confirmed, detail⟩ := answer
      exact keeping_ite (keeping_recordDone hJ hP hj') (keeping_recordFailed hJ hP hspec hj')

lemma keeping_runPhase (hspec : spec.number ∈ Step.numbers steps)
    (hj : J j) : Keeping P (fun r => J r.1) (runPhase spec j) := by
  unfold runPhase
  split
  · exact keeping_runAction hJ hP hspec hj
  · split
    · refine .bind (keeping_other nofun) ?_
      rintro ⟨holds, detail⟩ _
      refine keeping_ite ?_ (keeping_runAction hJ hP hspec hj)
      refine .bind (keeping_saved hP (hJ.confirms hj spec.number)) ?_
      intro j' hj'
      exact keeping_pure hj'
    · exact keeping_runAction hJ hP hspec hj

omit hJ hP in
lemma keeping_verifyInterlockBracket : Keeping P (fun _ => True) (verifyInterlockBracket j) := by
  unfold verifyInterlockBracket
  split
  · refine .bind (keeping_other nofun) ?_
    intro current _
    split
    · exact keeping_pure trivial
    · exact keeping_pure trivial
    · exact keeping_pure trivial
    · split
      · exact keeping_pure trivial
      · split <;> exact keeping_pure trivial
  · exact keeping_pure trivial

lemma keeping_bracketOk (hspec : .phase spec ∈ steps) (hj : J j) :
    Keeping P (fun r => J r.1) (bracketOk spec.before j) := by
  refine .bind keeping_verifyInterlockBracket ?_
  intro verdict _
  cases verdict with
  | some failure =>
    refine .bind (keeping_saved hP (hJ.bracket hj hspec)) ?_
    intro j' hj'
    exact keeping_pure hj'
  | none =>
    refine .bind (keeping_clearStaleErrors hJ hP (.bracket spec.before) hj) ?_
    intro j' hj'
    exact keeping_pure hj'

lemma keeping_preflight (hsteps : .preflight ∈ steps) (hj : J j) :
    Keeping P (fun r => J r.1) (preflight args j) := by
  have hfail : ∀ failure, Keeping P (fun r : CutoverJournal × Bool => J r.1)
      (do
        let j ← saved (j.addError (.preflight failure))
        return (j, false)) := by
    intro failure
    refine .bind (keeping_saved hP (hJ.preflight hj hsteps)) ?_
    intro j' hj'
    exact keeping_pure hj'
  unfold preflight
  split
  · exact hfail _
  · split
    · exact hfail _
    · refine .bind (keeping_other nofun) ?_
      intro found _
      split
      · refine .bind (keeping_clearStaleErrors hJ hP .preflight hj) ?_
        intro j' hj'
        split
        · refine .bind (keeping_saved hP (hJ.finds hj' _)) ?_
          intro j'' hj''
          exact keeping_pure hj''
        · exact keeping_pure hj'
      · exact hfail _

lemma keeping_runSteps {rest : List Step} (hrest : ∀ s ∈ rest, s ∈ steps) :
    ∀ {j}, J j → Keeping P (fun r => J r.1) (runSteps args rest j) := by
  induction rest with
  | nil =>
    intro j hj
    exact keeping_pure hj
  | cons step rest ih =>
    intro j hj
    have hstep := hrest step (mem_cons_self ..)
    have hgo := @ih fun s hs => hrest s (mem_cons_of_mem _ hs)
    cases step with
    | preflight =>
      refine .bind (keeping_preflight hJ hP hstep hj) ?_
      rintro ⟨j', resolved⟩ hj'
      exact keeping_ite (hgo hj') (keeping_pure hj')
    | phase spec =>
      refine .bind (keeping_bracketOk hJ hP hstep hj) ?_
      rintro ⟨j', bound⟩ hj'
      have hspec : spec.number ∈ Step.numbers steps := mem_filterMap.mpr ⟨.phase spec, hstep, rfl⟩
      refine keeping_ite ?_ (keeping_pure hj')
      refine .bind (keeping_runPhase hJ hP hspec hj') ?_
      rintro ⟨j'', done⟩ hj''
      exact keeping_ite (hgo hj'') (keeping_pure hj'')

lemma keeping_bindInterlockBracket (hj : J j) :
    Keeping P (fun r => J r.1) (bindInterlockBracket args j) := by
  have hclear : ∀ {j}, J j → Keeping P (fun r : CutoverJournal × Option SetupFailure => J r.1)
      (do
        let j ← clearStaleErrors j CutoverError.isSetup
        return (j, none)) := by
    intro j hj
    refine .bind (keeping_clearStaleErrors hJ hP .setup hj) ?_
    intro j' hj'
    exact keeping_pure hj'
  unfold bindInterlockBracket
  split
  · -- both options are given: they bind the journal, or are compared with it
    split
    · refine .bind (keeping_saved hP (hJ.binds hj _ _)) ?_
      intro j' hj'
      exact hclear hj'
    · split
      · exact keeping_pure hj
      · exact hclear hj
  · split
    · exact hclear hj
    · -- no option is given: the interlock is taken, and binds the journal
      refine .bind (keeping_other (o := .takeInterlock _) nofun).attempt ?_
      intro taken _
      split
      · exact keeping_pure hj
      · exact keeping_raise
      · refine .bind (keeping_saved hP (hJ.binds hj _ _)) ?_
        intro j' hj'
        exact hclear hj'
  · exact keeping_pure hj

lemma keeping_finish (hj : J j) : Keeping P J (finish args j) := by
  unfold finish
  split
  · refine .bind (keeping_other (o := .releaseInterlock) nofun).attempt ?_
    intro released _
    split
    · exact keeping_pure hj
    · exact keeping_saved hP (hJ.release hj)
    · exact keeping_raise
  · exact keeping_pure hj

omit hJ hP in
lemma keeping_newRunId {args : Args} : Keeping P (fun _ => True) (newRunId args) := by
  unfold newRunId
  split
  · exact keeping_ite (keeping_other nofun) (keeping_pure trivial)
  · exact keeping_other nofun

/-- What `P` says of the journal that was found. -/
def Loaded.Fits (P : Option CutoverJournal → Prop) : Loaded → Prop
  | absent => P none
  | found j => P (some j)
  | corrupt => False

/-- A journal to go on with satisfies `J`; a refusal is not complete. -/
def Acquired.Fits (J : CutoverJournal → Prop) : Acquired → Prop
  | use j => J j
  | refuse j => j.ok = false

variable {direction : Direction}
  (hload : ∀ j, P (some j) → j.direction = direction → J j)
  (hfresh : (P none ∨ ∃ j, P (some j) ∧ j.direction ≠ direction) →
    ∀ runId path, J (.start runId direction path))

omit hJ hP in
lemma keeping_loadJournal : Keeping P (Loaded.Fits P) (ask .loadJournal) := by
  refine keeping_ask nofun ?_
  intro w loaded hw hloaded
  have hloaded : loaded = w.loaded := hloaded
  unfold World.loaded at hloaded
  cases hj : w.journal with
  | none | some j =>
    rw [hj] at hloaded hw
    rw [hloaded]
    exact hw

include hload hfresh

omit hJ hP in
lemma keeping_loadOrStartJournal (args : Args) :
    Keeping P (Acquired.Fits J) (loadOrStartJournal direction args) := by
  refine .bind keeping_loadJournal ?_
  intro loaded hloaded
  cases loaded with
  | corrupt => exact hloaded.elim
  | absent =>
    refine .bind keeping_newRunId ?_
    intro runId _
    exact keeping_pure (hfresh (.inl hloaded) runId none)
  | found j =>
    dsimp only
    split
    · rename_i hdirection
      refine .bind keeping_newRunId ?_
      intro runId _
      refine keeping_ite (keeping_pure ?_) (keeping_pure ?_)
      · exact CutoverJournal.ok_addError
      · exact hfresh (.inr ⟨j, hloaded, hdirection⟩) runId _
    · rename_i hdirection
      exact keeping_pure (hload j hloaded (not_not.mp hdirection))

/-- What the edits keep holds on disk all along, and of the journal that is returned. -/
lemma keeping_runTransaction (hsteps : steps = direction.steps) :
    Keeping P (fun j => J j ∨ j.ok = false) (runTransaction direction args) := by
  subst hsteps
  refine .bind (keeping_loadOrStartJournal hload hfresh args) ?_
  intro acquired hacquired
  cases acquired with
  | refuse j => exact keeping_pure (.inr hacquired)
  | use j =>
    refine .bind (keeping_bindInterlockBracket hJ hP hacquired) ?_
    rintro ⟨j', failure⟩ hj'
    cases failure with
    | some failure =>
      exact (keeping_saved hP (hJ.setup hj')).mono fun _ h => .inl h
    | none =>
      refine .bind (keeping_runSteps hJ hP (fun _ hs => hs) hj') ?_
      rintro ⟨j'', completed⟩ hj''
      refine keeping_ite ?_ (keeping_pure (.inl hj''))
      exact (keeping_finish hJ hP hj'').mono fun _ h => .inl h

lemma Reached.onDisk {w₀ w : World} (hsteps : steps = direction.steps)
    (h : Reached direction w₀ w) (hw₀ : P w₀.journal) : P w.journal := by
  induction h with
  | start => exact hw₀
  | call h args howned hrun ih =>
    rw [Direction.call_eq] at hrun
    refine hrun.holds ?_ (keeping_runTransaction hJ hP hload hfresh hsteps _ ih)
    intro r w' hr
    cases r with
    | ok j => exact hr.2
    | error fault => exact hr
  | elsewhere h interlock ih => exact ih

end Keeping

/-! ## Errors that are cleared -/

/-- A success among `checks`, or the end of a phase that is not done, clears the error. -/
def ClearedBy (checks : List Step) (j : CutoverJournal) : CutoverError → Prop
  | .bracket before _ => ∃ spec, .phase spec ∈ checks ∧ spec.before = before
  | .phaseFailed n _ => ∃ p ∈ j.phases, p.phase = n ∧ p.status ≠ .done
  | .preflight _ => .preflight ∈ checks
  | _ => False

/-- Of a journal before the steps `rest`, with the bracket checks of `checks` to come: only
`lasting` errors outlive them. -/
structure Clean (lasting : CutoverError → Prop) (checks rest : List Step) (j : CutoverJournal) :
    Prop where
  single : ∀ p ∈ j.phases, ∀ q ∈ j.phases, p.phase = q.phase → p.status = q.status
  unfinished : ∀ p ∈ j.phases, p.status ≠ .done → p.phase ∈ Step.numbers rest
  begun : j.phases = [] → ∃ spec, .phase spec ∈ rest
  errors : ∀ e ∈ j.errors, lasting e ∨ ClearedBy checks j e

variable {j : CutoverJournal} {p : CutoverPhaseRecord}

lemma CutoverJournal.mem_upsertPhase {record : CutoverPhaseRecord} :
    p ∈ (j.upsertPhase record).phases ↔ (p ∈ j.phases ∧ p.phase ≠ record.phase) ∨ p = record := by
  simp [upsertPhase, mem_mergeSort]

lemma CutoverJournal.mem_confirmPhase {n : ℕ} (h : p ∈ (j.confirmPhase n).phases) :
    ∃ q ∈ j.phases, p.phase = q.phase ∧ p.status = q.status := by
  obtain ⟨q, hq, hqp⟩ := mem_map.mp h
  refine ⟨q, hq, ?_⟩
  rw [← hqp]
  split <;> exact ⟨rfl, rfl⟩

lemma CutoverJournal.confirmPhase_mem {n : ℕ} {q : CutoverPhaseRecord} (h : q ∈ j.phases) :
    ∃ p ∈ (j.confirmPhase n).phases, p.phase = q.phase ∧ p.status = q.status := by
  refine ⟨_, mem_map.mpr ⟨q, h, rfl⟩, ?_⟩
  split <;> exact ⟨rfl, rfl⟩

namespace Clean

variable {lasting : CutoverError → Prop} {checks rest : List Step} {j : CutoverJournal}
  {record : CutoverPhaseRecord} {e : CutoverError} {rest' : List Step}

lemma of_phases {j' : CutoverJournal} (h : Clean lasting checks rest j)
    (hphases : j'.phases = j.phases) (herrors : ∀ e ∈ j'.errors, e ∈ j.errors) :
    Clean lasting checks rest j' := by
  constructor
  · rw [hphases]; exact h.single
  · rw [hphases]; exact h.unfinished
  · rw [hphases]; exact h.begun
  · intro e he
    refine (h.errors e (herrors e he)).imp_right ?_
    intro hcleared
    cases e with
    | phaseFailed n fault =>
      show ∃ p ∈ j'.phases, p.phase = n ∧ p.status ≠ .done
      rw [hphases]
      exact hcleared
    | _ => exact hcleared

lemma addError (h : Clean lasting checks rest j)
    (he : lasting e ∨ ClearedBy checks j e) : Clean lasting checks rest (j.addError e) := by
  constructor
  · exact h.single
  · exact h.unfinished
  · exact h.begun
  · intro e' he'
    rcases mem_append.mp he' with hold | hnew
    · exact h.errors e' hold
    · rw [mem_singleton.mp hnew]
      exact he

/-- A record that keeps its number keeps the errors of the other phases. -/
lemma cleared_upsert (hcleared : ClearedBy checks j e)
    (he : e.isPhaseFailed record.phase = true → record.status ≠ .done) :
    ClearedBy checks (j.upsertPhase record) e := by
  cases e with
  | phaseFailed n fault =>
    obtain ⟨p, hp, hpn, hstatus⟩ := hcleared
    by_cases hn : n = record.phase
    · refine ⟨record, CutoverJournal.mem_upsertPhase.mpr (.inr rfl), hn.symm, he ?_⟩
      simp [CutoverError.isPhaseFailed, hn]
    · refine ⟨p, CutoverJournal.mem_upsertPhase.mpr (.inl ⟨hp, ?_⟩), hpn, hstatus⟩
      rw [hpn]
      exact hn
  | _ => exact hcleared

variable (h : Clean lasting checks rest j)
include h

lemma upsert (hrest : ∀ n ∈ Step.numbers rest, n ≠ record.phase → n ∈ Step.numbers rest')
    (hrecord : record.status ≠ .done → record.phase ∈ Step.numbers rest') :
    (∀ p ∈ (j.upsertPhase record).phases, ∀ q ∈ (j.upsertPhase record).phases,
      p.phase = q.phase → p.status = q.status) ∧
    (∀ p ∈ (j.upsertPhase record).phases, p.status ≠ .done → p.phase ∈ Step.numbers rest') ∧
    (j.upsertPhase record).phases ≠ [] := by
  refine ⟨?_, ?_, ?_⟩
  · intro p hp q hq hpq
    rcases CutoverJournal.mem_upsertPhase.mp hp with ⟨hp, hpn⟩ | rfl
    · rcases CutoverJournal.mem_upsertPhase.mp hq with ⟨hq, _⟩ | rfl
      · exact h.single p hp q hq hpq
      · exact (hpn hpq).elim
    · rcases CutoverJournal.mem_upsertPhase.mp hq with ⟨_, hqn⟩ | rfl
      · exact (hqn hpq.symm).elim
      · rfl
  · intro p hp hstatus
    rcases CutoverJournal.mem_upsertPhase.mp hp with ⟨hp, hpn⟩ | rfl
    · exact hrest _ (h.unfinished p hp hstatus) hpn
    · exact hrecord hstatus
  · exact ne_nil_of_mem (CutoverJournal.mem_upsertPhase.mpr (.inr rfl))

lemma completes (hdone : record.status = .done)
    (hrest : ∀ n ∈ Step.numbers rest, n ≠ record.phase → n ∈ Step.numbers rest') :
    Clean lasting checks rest' (j.completes record) := by
  obtain ⟨hsingle, hunfinished, hphases⟩ := h.upsert hrest fun hne => (hne hdone).elim
  constructor
  · exact hsingle
  · exact hunfinished
  · exact fun hnil => (hphases hnil).elim
  · intro e he
    obtain ⟨he, hkeeps⟩ := mem_filter.mp he
    refine (h.errors e he).imp_right ?_
    intro hcleared
    refine cleared_upsert hcleared ?_
    intro hfailed
    simp [hfailed] at hkeeps

lemma fails {fault : Fault}
    (hfailed : record.status = .failed) (hrecord : record.phase ∈ Step.numbers rest) :
    Clean lasting checks rest (j.fails record fault) := by
  obtain ⟨hsingle, hunfinished, hphases⟩ := h.upsert (fun _ hn _ => hn) fun _ => hrecord
  have hopen : record.status ≠ .done := by simp [hfailed]
  refine addError ⟨hsingle, hunfinished, fun hnil => (hphases hnil).elim, ?_⟩ (.inr ?_)
  · intro e he
    exact (h.errors e he).imp_right fun hcleared => cleared_upsert hcleared fun _ => hopen
  · exact ⟨record, CutoverJournal.mem_upsertPhase.mpr (.inr rfl), rfl, hopen⟩

lemma confirms (n : ℕ) : Clean lasting checks rest (j.confirmPhase n) := by
  constructor
  · intro p hp q hq hpq
    obtain ⟨p', hp', hpn, hps⟩ := CutoverJournal.mem_confirmPhase hp
    obtain ⟨q', hq', hqn, hqs⟩ := CutoverJournal.mem_confirmPhase hq
    rw [hps, hqs]
    exact h.single p' hp' q' hq' (by rw [← hpn, ← hqn, hpq])
  · intro p hp hstatus
    obtain ⟨p', hp', hpn, hps⟩ := CutoverJournal.mem_confirmPhase hp
    rw [hpn]
    exact h.unfinished p' hp' (hps ▸ hstatus)
  · intro hnil
    exact h.begun (map_eq_nil_iff.mp hnil)
  · intro e he
    refine (h.errors e he).imp_right ?_
    intro hcleared
    cases e with
    | phaseFailed m fault =>
      obtain ⟨p, hp, hpm, hstatus⟩ := hcleared
      obtain ⟨p', hp', hpn, hps⟩ := CutoverJournal.confirmPhase_mem hp
      exact ⟨p', hp', hpn.trans hpm, fun hdone => hstatus (hps ▸ hdone)⟩
    | _ => exact hcleared

omit h

lemma kept (lasting : CutoverError → Prop) (steps : List Step)
    (hsetup : ∀ failure, lasting (.setup failure))
    (hrelease : ∀ what, lasting (.releaseFailed what)) :
    Kept steps (Clean lasting steps steps) where
  binds h _ _ := h.of_phases rfl fun _ he => he
  finds h _ := h.of_phases rfl fun _ he => he
  confirms h n := h.confirms n
  completes h hdone := h.completes hdone fun _ hn _ => hn
  fails h hfailed hrecord := h.fails hfailed hrecord
  clears h _ := h.of_phases rfl fun _ he => (mem_filter.mp he).1
  setup h := h.addError (.inl (hsetup _))
  bracket h hspec := h.addError (.inr ⟨_, hspec, rfl⟩)
  preflight h hsteps := h.addError (.inr hsteps)
  release h := h.addError (.inl (hrelease _))

end Clean

end CivicCast.Cutover
