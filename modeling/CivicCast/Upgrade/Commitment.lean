import CivicCast.Upgrade.Ledger

/-! # A committed upgrade

`run_upgrade` that returns COMPLETE has made every step of the upgrade or found it
recorded. What it does not find recorded is an undoing: the rollback restores the
database and flips the junction back first, and writes its own phase last. Cut short in
between, it leaves a journal that still says how far the way forward had come, and the
next run goes on from there.

`committed_when_undone_on_record` is about the histories in which no run stops between
an undoing and its record; in `undone_upgrade_commits` one does.
-/

namespace CivicCast.Upgrade

open Lib Lib.Prog UpgradePhase

/-! ## What COMPLETE promises -/

/-- The journal names a tree that was laid for its version. -/
def UpgradeJournal.NamesTree (trees : List (String × String)) (j : UpgradeJournal) : Prop :=
  ∃ target, j.newJunctionTarget = some target ∧ (j.plan.newVersion, target) ∈ trees

namespace Ledger

/-- The journal is under way, and what it says was done has been undone. -/
def Undone (l : Ledger) : Prop :=
  ∃ j, l.world.journal = some j ∧ j.phase.isTerminal = false ∧
    (UpgradePhase.treeLaid.rank ≤ j.phase.rank ∧ l.world.junction ≠ j.newJunctionTarget ∨
      UpgradePhase.migrated.rank ≤ j.phase.rank ∧ l.lastMutation ≠ some .migration)

/-- The junction names a tree of the new version, and the database was migrated last. -/
structure Committed (l : Ledger) (j : UpgradeJournal) : Prop where
  junction : ∃ target, l.world.junction = some target ∧ (j.plan.newVersion, target) ∈ l.trees
  database : l.lastMutation = some .migration

/-- A journal under way that has its tree laid names it. -/
def TreesNamed (l : Ledger) : Prop :=
  ∀ j, l.world.journal = some j → j.phase.isTerminal = false →
    UpgradePhase.treeLaid.rank ≤ j.phase.rank → j.NamesTree l.trees

lemma Closed.not_undone {l : Ledger} (h : l.Closed) : ¬ l.Undone := by
  rintro ⟨j, hj, hopen, _⟩
  have hterminal := h j hj
  rw [hopen] at hterminal
  cases hterminal

lemma TreesNamed.congr {l l' : Ledger} (h : l.TreesNamed)
    (hjournal : l'.world.journal = l.world.journal) (htrees : l.trees ⊆ l'.trees) :
    l'.TreesNamed := by
  intro j hj hopen hrank
  rw [hjournal] at hj
  rcases h j hj hopen hrank with ⟨target, htarget, hlaid⟩
  exact ⟨target, htarget, htrees hlaid⟩

lemma treesNamed_write {owner : String} {l : Ledger} {j : UpgradeJournal}
    (h : j.phase.isTerminal = false → UpgradePhase.treeLaid.rank ≤ j.phase.rank →
      j.NamesTree l.trees) : (l.after owner (.writeJournal j)).TreesNamed := by
  intro j' hj'
  cases hj'
  exact h

end Ledger

/-! ## The way forward -/

/-- What the journal in memory says was done is in effect. -/
structure Advancing (j : UpgradeJournal) (l : Ledger) : Prop where
  named : l.TreesNamed
  underway : j.phase.isTerminal = false
  tree : UpgradePhase.treeLaid.rank ≤ j.phase.rank →
    j.NamesTree l.trees ∧ l.world.junction = j.newJunctionTarget
  database : UpgradePhase.migrated.rank ≤ j.phase.rank → l.lastMutation = some .migration

/-- A rollback takes over; nothing is asked of what it undoes. -/
structure Retreating (j : UpgradeJournal) (l : Ledger) : Prop where
  named : l.TreesNamed
  underway : j.phase.isTerminal = false

/-- A run that returns leaves no journal under way, and COMPLETE is what it says. -/
def Settled (r : Except Fault UpgradeOutcome) (l : Ledger) : Prop :=
  l.TreesNamed ∧ ∀ outcome, r = .ok outcome →
    l.Closed ∧ (outcome.phase = .complete → l.Committed outcome.journal)

section Forward

variable {owner : String} {promised : (o : Op) → Reply o.Res → Prop} {j : UpgradeJournal}
  {l l' : Ledger}

/-- The machine with named trees before every call. -/
abbrev naming (owner : String) (promised : (o : Op) → Reply o.Res → Prop) :
    Machine upgradeIface Ledger :=
  guarded owner promised fun l _ => l.TreesNamed

lemma Advancing.retreating (h : Advancing j l) : Retreating j l := ⟨h.named, h.underway⟩

lemma Retreating.congr (h : Retreating j l) (hjournal : l'.world.journal = l.world.journal)
    (htrees : l.trees ⊆ l'.trees) : Retreating j l' :=
  ⟨h.named.congr hjournal htrees, h.underway⟩

variable (h : Advancing j l)
include h

lemma Advancing.congr (hjournal : l'.world.journal = l.world.journal)
    (hjunction : l'.world.junction = l.world.junction)
    (hdatabase : l'.lastMutation = l.lastMutation) (htrees : l'.trees = l.trees) :
    Advancing j l' := by
  have hnamed : l'.TreesNamed := h.named.congr hjournal (by rw [htrees]; exact List.Subset.refl _)
  refine ⟨hnamed, h.underway, ?_, ?_⟩
  · rw [htrees, hjunction]
    exact h.tree
  · rw [hdatabase]
    exact h.database

lemma Advancing.persist_either {phase : UpgradePhase}
    {update : UpgradeJournal → UpgradeJournal} {next : UpgradeJournal}
    (hnext : update { j with phase := phase } = next) (hphase : next.phase = phase)
    (hrank : phase.rank = j.phase.rank + 1) (hopen : phase.isTerminal = false)
    (htree : treeLaid.rank ≤ phase.rank →
      next.NamesTree l.trees ∧ l.world.junction = next.newJunctionTarget)
    (hdatabase : migrated.rank ≤ phase.rank → l.lastMutation = some .migration) :
    (persist j phase update).wp (naming owner promised)
      (Either (fun j' l' => Advancing j' l' ∧ j'.phase = phase) (Retreating j)) l := by
  have hwritten : (l.after owner (.writeJournal next)).TreesNamed := by
    apply Ledger.treesNamed_write
    intro _ hlaid
    rw [hphase] at hlaid
    exact (htree hlaid).1
  refine Upgrade.persist_either h.named h.underway (.inr hrank) hnext ?_
    (fun _ _ => h.retreating) fun _ _ => ⟨hwritten, h.underway⟩
  refine ⟨⟨hwritten, ?_, ?_, ?_⟩, hphase⟩
  · rw [hphase]
    exact hopen
  · rw [hphase]
    exact htree
  · rw [hphase]
    exact hdatabase

lemma Advancing.ask_quiet {o : Op} (ho : Ledger.Quiet o) :
    (ask o).wp (naming owner promised) (Either (fun _ l' => l' = l) (Retreating j)) l :=
  either_mono (Upgrade.ask_quiet ho h.named h.retreating) (fun _ _ h => h.2) fun _ h => h

lemma flip_advances (hphase : j.phase = .backupVerified) :
    (flipSteps j).wp (naming owner promised)
      (Either (fun j' l' => Advancing j' l' ∧ j'.phase = .treeLaid) (Retreating j)) l := by
  have hearly : ¬ treeLaid.rank ≤ j.phase.rank := by
    rw [hphase]
    decide
  have hrewritten : (l.after owner (.writeJournal j)).TreesNamed :=
    Ledger.treesNamed_write fun _ hlaid => absurd hlaid hearly
  -- The journal with the previous target.
  have hwrite : (ask (.writeJournal j)).wp (naming owner promised)
      (Either (fun _ l' => Retreating j l') (Retreating j)) l :=
    ask_either h.named (fun _ _ _ _ => ⟨hrewritten, h.underway⟩) (fun _ _ => h.retreating)
      fun _ _ => ⟨hrewritten, h.underway⟩
  refine either_bind hwrite ?_
  intro _ l₁ h₁
  have hlay : (ask (.layTree j.plan.newVersion)).wp (naming owner promised)
      (Either (fun target l' => Retreating j l' ∧ (j.plan.newVersion, target) ∈ l'.trees)
        (Retreating j)) l₁ := by
    refine ask_either h₁.named ?_ (fun _ _ => h₁) fun _ _ => h₁.congr rfl (List.Subset.refl _)
    intro target _ _ _
    exact ⟨h₁.congr rfl (List.subset_cons_self _ _), List.mem_cons_self⟩
  refine either_bind hlay ?_
  rintro newTarget l₂ ⟨h₂, hlaid₂⟩
  have hflip : (ask (.flipJunction newTarget)).wp (naming owner promised)
      (Either (fun _ l' => Retreating j l' ∧ (j.plan.newVersion, newTarget) ∈ l'.trees ∧
        l'.world.junction = some newTarget) (Retreating j)) l₂ :=
    ask_either h₂.named
      (fun _ _ _ _ => ⟨h₂.congr rfl (List.Subset.refl _), hlaid₂, rfl⟩) (fun _ _ => h₂)
      fun _ _ => h₂.congr rfl (List.Subset.refl _)
  refine either_bind hflip ?_
  rintro _ l₃ ⟨h₃, hlaid₃, hjunction₃⟩
  have hat₃ : Advancing j l₃ := by
    refine ⟨h₃.named, h₃.underway, fun hlaid => absurd hlaid hearly, ?_⟩
    intro hmigrated
    rw [hphase] at hmigrated
    exact absurd hmigrated (by decide)
  refine hat₃.persist_either rfl rfl (by rw [hphase]; rfl) rfl ?_ ?_
  · intro _
    exact ⟨⟨newTarget, rfl, hlaid₃⟩, hjunction₃⟩
  · intro hmigrated
    exact absurd hmigrated (by decide)

lemma migrate_advances (hphase : j.phase = .treeLaid) (seams : Seams) :
    (migrateSteps seams j).wp (naming owner promised)
      (Either (fun j' l' => Advancing j' l' ∧ j'.phase = .migrated) (Retreating j)) l := by
  have hlaid : treeLaid.rank ≤ j.phase.rank := Nat.le_of_eq (congrArg rank hphase).symm
  have hmigrate : (ask .migrate).wp (naming owner promised)
      (Either (fun _ l' => Advancing j l' ∧ l'.lastMutation = some .migration)
        (Retreating j)) l := by
    have hmigrated : Advancing j (l.after owner .migrate) :=
      ⟨h.named.congr rfl (List.Subset.refl _), h.underway, h.tree, fun _ => rfl⟩
    exact ask_either h.named (fun _ _ _ _ => ⟨hmigrated, rfl⟩) (fun _ _ => h.retreating)
      fun _ _ => hmigrated.retreating
  refine either_bind hmigrate ?_
  rintro _ l₁ ⟨h₁, hdatabase⟩
  refine either_bind (h₁.ask_quiet trivial) ?_
  rintro postRevision l₂ rfl
  refine either_bind (verifyHead_wp (h₁.ask_quiet trivial) h₁.retreating) ?_
  rintro _ l₃ rfl
  exact h₁.persist_either rfl rfl (by rw [hphase]; rfl) rfl (fun _ => h₁.tree hlaid)
    fun _ => hdatabase

lemma commit_settles (hphase : j.phase = .healthGreen) :
    (commitSteps j).wp (naming owner promised)
      (Either (fun j' l' => Settled (.ok ⟨j'.phase, j'⟩) l') (Retreating j)) l := by
  have hlaid : treeLaid.rank ≤ j.phase.rank := by
    rw [hphase]
    decide
  have hmigrated : migrated.rank ≤ j.phase.rank := by
    rw [hphase]
    decide
  have hreleased : Advancing j (l.after owner .releaseInterlock) := h.congr rfl rfl rfl rfl
  have hrelease : (ask .releaseInterlock).wp (naming owner promised)
      (Either (fun _ l' => Advancing j l') (Retreating j)) l :=
    ask_either h.named (fun _ _ _ _ => hreleased) (fun _ _ => h.retreating)
      fun _ _ => hreleased.retreating
  refine either_bind hrelease ?_
  intro _ l₁ h₁
  have hnamed : ∀ next : UpgradeJournal, next.phase = .complete →
      (l₁.after owner (.writeJournal next)).TreesNamed := by
    intro next hnext
    apply Ledger.treesNamed_write
    intro hopen
    rw [hnext] at hopen
    cases hopen
  refine Upgrade.persist_either h₁.named h₁.underway (.inl rfl) rfl ?_
    (fun _ _ => h₁.retreating) fun _ _ => ⟨hnamed _ rfl, h₁.underway⟩
  refine ⟨hnamed _ rfl, ?_⟩
  intro outcome houtcome
  cases houtcome
  refine ⟨Ledger.closed_write rfl, fun _ => ?_⟩
  rcases h₁.tree hlaid with ⟨⟨target, htarget, htrees⟩, hjunction⟩
  exact ⟨⟨target, hjunction.trans htarget, htrees⟩, h₁.database hmigrated⟩

omit h

lemma Retreating.rollback_settles (h : Retreating j l) (reason : Reason)
    (attempting : UpgradePhase) :
    (rollback j reason attempting).wp (naming owner promised) Settled l := by
  have hterminal : ∀ j' : UpgradeJournal,
      j'.phase = .rolledBack ∨ j'.phase = .haltedRestoreFailed → j'.phase.isTerminal = true := by
    rintro j' (hphase | hphase) <;> rw [hphase] <;> rfl
  refine rollback_wp_of h.underway h (fun _ h' => ⟨h'.named, h'.named⟩) ?_ ?_ ?_ ?_ ?_ reason
  · intro _ backup _
    exact ⟨h.named, h.congr rfl (List.Subset.refl _)⟩
  · intro l' target _ h'
    exact ⟨h'.named, h'.congr rfl (List.Subset.refl _)⟩
  · intro l' h'
    exact ⟨h'.named, h'.congr rfl (List.Subset.refl _)⟩
  · -- the journal that is written last is terminal
    intro l' j' h' hphase _
    have hend := hterminal j' hphase
    have hnamed : (l'.after owner (.writeJournal j')).TreesNamed := by
      apply Ledger.treesNamed_write
      intro hopen
      rw [hend] at hopen
      cases hopen
    refine ⟨h'.named, ⟨hnamed, ?_⟩, fun _ _ fault => ⟨hnamed, by intro outcome he; cases he⟩⟩
    intro outcome houtcome
    cases houtcome
    refine ⟨Ledger.closed_write hend, ?_⟩
    intro hcomplete
    rcases hphase with hphase | hphase
    · rw [hphase] at hcomplete
      cases hcomplete
    · rw [hphase] at hcomplete
      cases hcomplete
  · intro l' fault h'
    exact ⟨h'.named, by intro outcome he; cases he⟩

/-- The steps that only look, and the write of the phase. -/
lemma advancing_course :
    Course (naming owner promised) Advancing Advancing (fun _ => Retreating) Settled where
  underway h := h.underway
  acquire {j l} h hphase := by
    have hacquired : Advancing j (l.after owner .acquireInterlock) := h.congr rfl rfl rfl rfl
    have hask : (ask .acquireInterlock).wp (naming owner promised)
        (Either (fun _ l' => Advancing j l') (Retreating j)) l :=
      ask_either h.named (fun _ _ _ _ => hacquired) (fun _ _ => h.retreating)
        fun _ _ => hacquired.retreating
    refine either_bind hask ?_
    intro _ l₁ h₁
    exact h₁.persist_either rfl rfl (by rw [hphase]; rfl) rfl
      (fun hlaid => absurd hlaid (by decide)) fun hmigrated => absurd hmigrated (by decide)
  drain h hphase := by
    refine either_bind (h.ask_quiet trivial) ?_
    rintro drained l₁ rfl
    split
    · exact h.retreating
    · exact h.persist_either rfl rfl (by rw [hphase]; rfl) rfl
        (fun hlaid => absurd hlaid (by decide)) fun hmigrated => absurd hmigrated (by decide)
  -- before the tree is laid nothing has to be promised
  backUp {j l} h hphase := by
    refine either_bind (h.ask_quiet trivial) ?_
    rintro backup l₁ rfl
    split
    · exact h.persist_either rfl rfl (by rw [hphase]; rfl) rfl
        (fun hlaid => absurd hlaid (by decide)) fun hmigrated => absurd hmigrated (by decide)
    · exact h.retreating
  look {j l} h _ := by
    refine either_mono (h.ask_quiet trivial) ?_ fun _ h => h
    rintro target l₁ rfl
    exact ⟨h.named, h.underway, h.tree, h.database⟩
  flip h hphase := flip_advances h hphase
  migrate seams h hphase := migrate_advances h hphase seams
  health {j l} h hphase := by
    have hlaid : treeLaid.rank ≤ j.phase.rank := by
      rw [hphase]
      decide
    have hmigrated : migrated.rank ≤ j.phase.rank := Nat.le_of_eq (congrArg rank hphase).symm
    refine either_bind (h.ask_quiet trivial) ?_
    rintro green l₁ rfl
    split
    · exact h.retreating
    · exact h.persist_either rfl rfl (by rw [hphase]; rfl) rfl (fun _ => h.tree hlaid)
        fun _ => h.database hmigrated
  commit h hphase := commit_settles h hphase
  raised _ h := ⟨h.named, by intro outcome he; cases he⟩
  back {a _ _} reason h := h.rollback_settles reason a

end Forward

/-! ## Histories -/

section Histories

variable {owner : String} {promised : (o : Op) → Reply o.Res → Prop} {l : Ledger}

lemma advancing_init {j : UpgradeJournal} (hinit : j.phase = .init) :
    Advancing j (l.after owner (.writeJournal j)) := by
  have hnot : ∀ phase : UpgradePhase, 0 < phase.rank → ¬ phase.rank ≤ j.phase.rank := by
    intro phase hpos
    rw [hinit]
    exact Nat.not_le_of_lt hpos
  refine ⟨Ledger.treesNamed_write ?_, by rw [hinit]; rfl, ?_, ?_⟩
  · exact fun _ hlaid => absurd hlaid (hnot .treeLaid (by decide))
  · exact fun hlaid => absurd hlaid (hnot .treeLaid (by decide))
  · exact fun hmigrated => absurd hmigrated (hnot .migrated (by decide))

lemma launch_advancing (hnamed : l.TreesNamed) (hsure : ¬ l.Undone) :
    Launch owner promised (fun l _ => l.TreesNamed) Advancing Settled l where
  load := hnamed
  raised := fun _ => ⟨hnamed, by intro outcome he; cases he⟩
  resumes j hj hopen := by
    refine ⟨hnamed, hopen, ?_, ?_⟩
    · intro hlaid
      refine ⟨hnamed j hj hopen hlaid, ?_⟩
      by_contra hmoved
      exact hsure ⟨j, hj, hopen, .inl ⟨hlaid, hmoved⟩⟩
    · intro hmigrated
      by_contra hrestored
      exact hsure ⟨j, hj, hopen, .inr ⟨hmigrated, hrestored⟩⟩
  stale j hj hterminal := by
    refine ⟨hnamed, ?_⟩
    intro outcome houtcome
    cases houtcome
    refine ⟨?_, fun hcomplete => by cases hcomplete⟩
    intro j' hj'
    rw [hj] at hj'
    cases hj'
    exact hterminal
  refuses j hphase _ := by
    have hterminal : j.phase.isTerminal = true := by
      rw [hphase]
      rfl
    have hwritten : (l.after owner (.writeJournal j)).TreesNamed := by
      apply Ledger.treesNamed_write
      intro hopen
      rw [hterminal] at hopen
      cases hopen
    refine ⟨hnamed, fun _ => ⟨hwritten, by intro outcome he; cases he⟩, hwritten, ?_⟩
    intro outcome houtcome
    cases houtcome
    refine ⟨Ledger.closed_write hterminal, ?_⟩
    intro hcomplete
    rw [hphase] at hcomplete
    cases hcomplete
  begins j _ hinit _ := ⟨hnamed, advancing_init hinit⟩
  notes revision h hinit := ⟨h.named, h.named, advancing_init hinit⟩
  fails _ h := ⟨h.named, by intro outcome he; cases he⟩

lemma run_settles (hnamed : l.TreesNamed) (hsure : ¬ l.Undone) {setup : Setup} :
    setup.run.wp (naming owner promised) Settled l :=
  advancing_course.run_wp (launch_advancing hnamed hsure) setup

lemma Ledger.Reached.named {w : World} (hw : w.journal = none)
    (h : Reached promised (fun l => ¬ l.Undone) (.blank w) l) : l.TreesNamed ∧ ¬ l.Undone := by
  induction h with
  | start =>
    have hnone : (Ledger.blank w).world.journal = none := hw
    have hclosed : (Ledger.blank w).Closed := by
      intro j hj
      rw [hnone] at hj
      cases hj
    refine ⟨?_, hclosed.not_undone⟩
    intro j hj
    rw [hnone] at hj
    cases hj
  | returned _ setup hrun ih =>
    have hsettled := hrun.post (wp_of_guard (run_settles ih.1 ih.2))
    exact ⟨hsettled.1, (hsettled.2 _ rfl).1.not_undone⟩
  | cutShort _ setup hrun hstop ih =>
    have hrun_settles : setup.run.wp (naming setup.context.ownerRunId promised) Settled _ :=
      run_settles ih.1 ih.2
    have hnamed := hrun.guarded (ψ := Ledger.TreesNamed) (fun _ _ h => h)
      (fun _ _ hsettled => hsettled.1) hrun_settles
    exact ⟨hnamed, hstop⟩

end Histories

/-- In every history in which no run stops between an undoing and its record, a run that
returns COMPLETE leaves the junction at the new version's tree, and a migration as the
last change to the database. -/
theorem committed_when_undone_on_record {w : World} (hw : w.journal = none) {l l' : Ledger}
    (h : Ledger.Reached (fun _ _ => True) (fun l => ¬ l.Undone) (.blank w) l) (setup : Setup)
    {outcome : UpgradeOutcome}
    (hrun : Exec (Ledger.machine setup.context.ownerRunId fun _ _ => True) setup.run l
      (.ok outcome) l') (hcomplete : outcome.phase = .complete) :
    l'.Committed outcome.journal := by
  rcases h.named hw with ⟨hnamed, hsure⟩
  have hsettled := hrun.post (wp_of_guard (run_settles hnamed hsure))
  exact (hsettled.2 outcome rfl).2 hcomplete

/-! ### Two upgrades to 2.0 -/

lemma smooth_run : ∃ outcome l',
    Exec (Ledger.machine "run-1" fun _ _ => True) toTwo.run (.blank atOne) (.ok outcome) l' ∧
      outcome.phase = .complete := by
  refine ⟨?outcome, ?after, ?run, ?complete⟩
  case run =>
    refine (toTwo_comes_migrated fun _ _ => trivial).exec ?_
    refine .call (.ok true) ⟨⟨trivial, trivial⟩, trivial⟩ ?_
    refine .call (.ok ()) ⟨⟨trivial, trivial⟩, trivial⟩ ?_
    refine .call (.ok ()) ⟨⟨⟨_, rfl, .inr rfl⟩, trivial⟩, trivial⟩ ?_
    refine .call (.ok ()) ⟨⟨trivial, trivial⟩, trivial⟩ ?_
    exact .ret _ _
  case complete => rfl

theorem smooth_run_committed : ∃ outcome l',
    Exec (Ledger.machine "run-1" fun _ _ => True) toTwo.run (.blank atOne) (.ok outcome) l' ∧
      outcome.phase = .complete ∧ l'.Committed outcome.journal := by
  rcases smooth_run with ⟨outcome, l', hrun, hcomplete⟩
  have hcommitted := committed_when_undone_on_record rfl .start toTwo hrun hcomplete
  exact ⟨outcome, l', hrun, hcomplete, hcommitted⟩

/-- The health gate is not green; the rollback restores, flips back and releases, and its
own journal write fails. -/
lemma unrecorded_rollback : ∃ fault l,
    Exec (Ledger.machine "run-1" fun _ _ => True) toTwo.run (.blank atOne) (.error fault) l ∧
      (∃ j, l.world.journal = some j ∧ j.phase = .migrated) ∧
      l.world.junction = some "versions/1.0" ∧ l.lastMutation = some .restore ∧
      ∃ record, l.world.interlock = some record ∧ record.held = false := by
  refine ⟨?fault, ?after, ?run, ?journal, ?junction, ?database, ?interlock⟩
  case run =>
    refine (toTwo_comes_migrated fun _ _ => trivial).exec ?_
    -- Not green: restore, flip back, release.
    refine .call (.ok false) ⟨⟨trivial, trivial⟩, trivial⟩ ?_
    refine .call (.ok ()) ⟨⟨trivial, trivial⟩, trivial⟩ ?_
    refine .call (.ok ()) ⟨⟨trivial, trivial⟩, trivial⟩ ?_
    refine .call (.ok ()) ⟨⟨⟨_, rfl, .inr rfl⟩, trivial⟩, trivial⟩ ?_
    refine .call (.failed (.operational (.raised "disk full")) false) ⟨by rintro ⟨⟩, trivial⟩ ?_
    exact .raise _ _
  case journal => exact ⟨_, rfl, rfl⟩
  case junction => rfl
  case database => rfl
  case interlock => exact ⟨_, rfl, rfl⟩

/-- The next run goes on from the journal it finds, and commits an upgrade that is undone:
the junction names the old tree, and the database is the backup. -/
theorem undone_upgrade_commits : ¬ ∀ (w : World) (l l' : Ledger) (setup : Setup)
    (outcome : UpgradeOutcome), w.journal = none →
    Ledger.Reached (fun _ _ => True) (fun _ => True) (.blank w) l →
    Exec (Ledger.machine setup.context.ownerRunId fun _ _ => True) setup.run l (.ok outcome) l' →
    outcome.phase = .complete → l'.Committed outcome.journal := by
  intro hall
  rcases unrecorded_rollback with
    ⟨fault, l, hfirst, ⟨j, hj, hphase⟩, _, hdatabase, record, hrecord, hreleased⟩
  have hreached : Ledger.Reached (fun _ _ => True) (fun _ => True) (.blank atOne) l :=
    .cutShort .start toTwo hfirst.visits trivial
  have hsecond : ∃ outcome l', Exec (Ledger.machine "run-1" fun _ _ => True) toTwo.run l
      (.ok outcome) l' ∧ outcome.phase = .complete ∧ l'.lastMutation = l.lastMutation := by
    rcases j with ⟨plan, context, phase, pre, post, backup, previous, new, rollback, error⟩
    subst hphase
    refine ⟨?outcome, ?after, ?run, ?complete, ?same⟩
    case run =>
      refine .call (.ok (some _)) ⟨⟨trivial, hj.symm⟩, trivial⟩ ?_
      refine .call (.ok true) ⟨⟨trivial, trivial⟩, trivial⟩ ?_
      refine .call (.ok ()) ⟨⟨trivial, trivial⟩, trivial⟩ ?_
      refine .call (.ok ()) ⟨⟨⟨record, hrecord, .inl hreleased⟩, trivial⟩, trivial⟩ ?_
      refine .call (.ok ()) ⟨⟨trivial, trivial⟩, trivial⟩ ?_
      exact .ret _ _
    case complete => rfl
    case same => rfl
  rcases hsecond with ⟨outcome, l', hrun, hcomplete, hsame⟩
  have hcommitted := hall atOne l l' toTwo outcome rfl hreached hrun hcomplete
  have hmigrated := hcommitted.database
  rw [hsame, hdatabase] at hmigrated
  cases hmigrated

end CivicCast.Upgrade
