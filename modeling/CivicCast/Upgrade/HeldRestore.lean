import CivicCast.Upgrade.Ledger

/-! # Restores under the interlock

A restore overwrites the database, so it must not meet rows that were written after the
writers came back. The rollback restores before it releases. But the way forward
releases as well, as the last thing it does, and its journal write comes after that: when
that write fails, the rollback restores with the writers running. A run that is cut
short after a release leaves a journal under way for which no interlock is held.

`restored_while_held` is about the histories in which a release is followed by the
terminal phase it belongs to; `restored_over_writers` is one in which the last write fails.
-/

namespace CivicCast.Upgrade

open Lib Lib.Prog UpgradePhase

/-! ## The interlock on the ledger -/

/-- A release does not fail after its effect, and the write of COMPLETE that follows it
does not fail. -/
def ReleaseRecorded : (o : Op) → Reply o.Res → Prop
  | .releaseInterlock, .failed _ landed => landed = false
  | .writeJournal journal, .failed _ _ => journal.phase ≠ .complete
  | _, _ => True

namespace Ledger

/-- The journal is under way and says that the interlock was acquired, and the upgrade
does not hold it. -/
def Loose (l : Ledger) : Prop :=
  ∃ j, l.world.journal = some j ∧ j.phase.isTerminal = false ∧
    UpgradePhase.interlockAcquired.rank ≤ j.phase.rank ∧ l.holds = false

/-- What the register says is on the machine. -/
def HoldsRecord (l : Ledger) : Prop :=
  l.holds = true → ∃ record, l.world.interlock = some record ∧ record.held = true

lemma HoldsRecord.after {l : Ledger} (h : l.HoldsRecord) (owner : String) (o : Op) :
    (l.after owner o).HoldsRecord := by
  cases o with
  | acquireInterlock => exact fun _ => ⟨_, rfl, rfl⟩
  | releaseInterlock =>
    intro hheld
    cases hheld
  | _ => exact h

lemma HoldsRecord.next {l : Ledger} (h : l.HoldsRecord) (owner : String) (o : Op)
    (reply : Reply o.Res) : (l.next owner o reply).HoldsRecord := by
  have hafter := h.after owner o
  cases reply with
  | ok a =>
    cases o with
    | layTree version => exact hafter
    | _ => exact hafter
  | failed fault landed =>
    cases landed with
    | false => exact h
    | true => exact hafter

lemma Closed.not_loose {l : Ledger} (h : l.Closed) : ¬ l.Loose := by
  rintro ⟨j, hj, hopen, _⟩
  have hterminal := h j hj
  rw [hopen] at hterminal
  cases hterminal

lemma Reached.holdsRecord {promised : (o : Op) → Reply o.Res → Prop} {mayStop : Ledger → Prop}
    {w : World} {l : Ledger} (h : Reached promised mayStop (.blank w) l) : l.HoldsRecord := by
  induction h with
  | start =>
    intro hheld
    cases hheld
  | returned _ setup hrun ih =>
    exact hrun.visits.keeps (fun l o x hl _ => hl.next _ o x) ih
  | cutShort _ setup hrun _ ih =>
    exact hrun.keeps (fun l o x hl _ => hl.next _ o x) ih

end Ledger

/-! ## The way forward -/

/-- Past the first step the upgrade holds the interlock. -/
structure Holding (j : UpgradeJournal) (l : Ledger) : Prop where
  underway : j.phase.isTerminal = false
  held : UpgradePhase.interlockAcquired.rank ≤ j.phase.rank → l.holds = true

/-- A rollback takes over: it holds the interlock if it is to restore. -/
structure Releasing (attempting : UpgradePhase) (j : UpgradeJournal) (l : Ledger) : Prop where
  underway : j.phase.isTerminal = false
  held : UpgradePhase.migrated.rank ≤ attempting.rank → l.holds = true

/-- A run that returns leaves no journal under way. -/
def Returned (r : Except Fault UpgradeOutcome) (l : Ledger) : Prop :=
  ∀ outcome, r = .ok outcome → l.Closed

section Forward

variable {owner : String} {j : UpgradeJournal} {l : Ledger} {a : UpgradePhase}

def RestoresHeld (l : Ledger) : Op → Prop
  | .restoreBackup _ => l.holds = true
  | _ => True

abbrev holding (owner : String) : Machine upgradeIface Ledger :=
  guarded owner ReleaseRecorded RestoresHeld

lemma returned_error (fault : Fault) : Returned (.error fault) l := by
  intro outcome he
  cases he

variable (h : Holding j l)
include h

lemma Holding.releasing
    (hheld : UpgradePhase.interlockAcquired.rank ≤ j.phase.rank) : Releasing a j l :=
  ⟨h.underway, fun _ => h.held hheld⟩

lemma Holding.persist_either {phase : UpgradePhase} {update : UpgradeJournal → UpgradeJournal}
    {next : UpgradeJournal} (hnext : update { j with phase := phase } = next)
    (hphase : next.phase = phase) (hrank : phase.rank = j.phase.rank + 1)
    (hopen : phase.isTerminal = false) (hheld : l.holds = true) :
    (persist j phase update).wp (holding owner)
      (Either (fun j' l' => Holding j' l' ∧ j'.phase = phase) (Releasing a j)) l := by
  have hreleasing : ∀ l' : Ledger, l'.holds = l.holds → Releasing a j l' := by
    intro l' hsame
    exact ⟨h.underway, fun _ => hsame.trans hheld⟩
  refine Upgrade.persist_either trivial h.underway (.inr hrank) hnext ?_
    (fun _ _ => hreleasing l rfl) fun _ _ => hreleasing _ rfl
  refine ⟨⟨?_, fun _ => hheld⟩, hphase⟩
  rw [hphase]
  exact hopen

lemma Holding.ask_quiet {o : Op} (ho : Ledger.Quiet o)
    (hheld : UpgradePhase.interlockAcquired.rank ≤ j.phase.rank) :
    (ask o).wp (holding owner) (Either (fun _ l' => l' = l) (Releasing a j)) l := by
  have hpre : RestoresHeld l o := by
    cases o with
    | restoreBackup backup => exact ho.elim
    | _ => exact trivial
  exact either_mono (Upgrade.ask_quiet ho hpre (h.releasing hheld)) (fun _ _ h => h.2) fun _ h => h

lemma flip_holds (hphase : j.phase = .backupVerified) :
    (flipSteps j).wp (holding owner)
      (Either (fun j' l' => Holding j' l' ∧ j'.phase = .treeLaid) (Releasing .treeLaid j)) l := by
  have hheld : l.holds = true := h.held (by rw [hphase]; decide)
  -- None of the three calls touches the interlock.
  have hcalls : ∀ (o : Op), (∀ l : Ledger, (l.after owner o).holds = l.holds) →
      (∀ (l : Ledger) (x : o.Res), (l.noteTree o x).holds = l.holds) → ∀ l₁ : Ledger,
      l₁.holds = true → RestoresHeld l₁ o → (ask o).wp (holding owner)
        (Either (fun _ l' => l'.holds = true) (Releasing .treeLaid j)) l₁ := by
    intro o hafter hnote l₁ hheld₁ hpre
    refine ask_either hpre ?_ (fun _ _ => ⟨h.underway, fun _ => hheld₁⟩) ?_
    · intro x _ _ _
      rw [hnote, hafter]
      exact hheld₁
    · intro _ _
      refine ⟨h.underway, fun _ => ?_⟩
      rw [hafter]
      exact hheld₁
  refine either_bind (hcalls (.writeJournal j) (fun _ => rfl) (fun _ _ => rfl) l hheld trivial) ?_
  intro _ l₁ hheld₁
  refine either_bind (hcalls (.layTree _) (fun _ => rfl) (fun _ _ => rfl) l₁ hheld₁ trivial) ?_
  intro newTarget l₂ hheld₂
  refine either_bind (hcalls (.flipJunction newTarget) (fun _ => rfl) (fun _ _ => rfl) l₂
    hheld₂ trivial) ?_
  intro _ l₃ hheld₃
  have h₃ : Holding j l₃ := ⟨h.underway, fun _ => hheld₃⟩
  exact h₃.persist_either rfl rfl (by rw [hphase]; rfl) rfl hheld₃

lemma migrate_holds (hphase : j.phase = .treeLaid) (seams : Seams) :
    (migrateSteps seams j).wp (holding owner)
      (Either (fun j' l' => Holding j' l' ∧ j'.phase = .migrated) (Releasing .migrated j)) l := by
  have hpast : interlockAcquired.rank ≤ j.phase.rank := by
    rw [hphase]
    decide
  have hmigrated : Holding j (l.after owner .migrate) := ⟨h.underway, h.held⟩
  have hmigrate : (ask .migrate).wp (holding owner)
      (Either (fun _ l' => Holding j l') (Releasing .migrated j)) l :=
    ask_either trivial (fun _ _ _ _ => hmigrated) (fun _ _ => h.releasing hpast)
      fun _ _ => hmigrated.releasing hpast
  refine either_bind hmigrate ?_
  intro _ l₁ h₁
  refine either_bind (h₁.ask_quiet trivial hpast) ?_
  rintro postRevision l₂ rfl
  refine either_bind (verifyHead_wp (h₁.ask_quiet trivial hpast) (h₁.releasing hpast)) ?_
  rintro _ l₃ rfl
  exact h₁.persist_either rfl rfl (by rw [hphase]; rfl) rfl (h₁.held hpast)

lemma commit_returns (hphase : j.phase = .healthGreen) :
    (commitSteps j).wp (holding owner)
      (Either (fun j' l' => Returned (.ok ⟨j'.phase, j'⟩) l') (Releasing .complete j)) l := by
  have hpast : interlockAcquired.rank ≤ j.phase.rank := by
    rw [hphase]
    decide
  have hrelease : (ask .releaseInterlock).wp (holding owner)
      (Either (fun _ _ => True) (Releasing .complete j)) l := by
    refine ask_either trivial (fun _ _ _ _ => trivial) (fun _ _ => h.releasing hpast) ?_
    intro fault hlands
    cases hlands
  refine either_bind hrelease ?_
  intro _ l₁ _
  refine Upgrade.persist_either trivial h.underway (.inl rfl) rfl ?_ ?_ ?_
  · intro outcome _
    exact Ledger.closed_write rfl
  · intro fault hfailed
    exact absurd rfl hfailed
  · intro fault hfailed
    exact absurd rfl hfailed

omit h

lemma Releasing.rollback_returns (h : Releasing a j l) (reason : Reason) :
    (rollback j reason a).wp (holding owner) Returned l := by
  refine rollback_wp_of (J := fun _ => True) h.underway trivial (fun _ _ => ⟨trivial, trivial⟩) ?_
    (fun _ _ _ _ => ⟨trivial, trivial⟩) (fun _ _ => ⟨trivial, trivial⟩) ?_
    (fun _ fault _ => returned_error fault) reason
  · intro hmutated backup _
    exact ⟨h.held hmutated, trivial⟩
  · intro l' j' _ hphase _
    have hterminal : j'.phase.isTerminal = true := by
      rcases hphase with hphase | hphase <;> rw [hphase] <;> rfl
    refine ⟨trivial, ?_, fun _ _ fault => returned_error fault⟩
    intro outcome _
    exact Ledger.closed_write hterminal

lemma holding_course : Course (holding owner) Holding Holding Releasing Returned where
  underway h := h.underway
  acquire {j l} h hphase := by
    have hearly : ∀ l' : Ledger, Releasing .interlockAcquired j l' := by
      intro l'
      exact ⟨h.underway, fun hmutated => absurd hmutated (by decide)⟩
    have hask : (ask .acquireInterlock).wp (holding owner)
        (Either (fun _ l' => l'.holds = true) (Releasing .interlockAcquired j)) l :=
      ask_either trivial (fun _ _ _ _ => rfl) (fun _ _ => hearly l) fun _ _ => hearly _
    refine either_bind hask ?_
    intro _ l₁ hheld
    have h₁ : Holding j l₁ := ⟨h.underway, fun _ => hheld⟩
    exact h₁.persist_either rfl rfl (by rw [hphase]; rfl) rfl hheld
  -- from here on the interlock is held
  drain {j l} h hphase := by
    have hpast : interlockAcquired.rank ≤ j.phase.rank := Nat.le_of_eq (congrArg rank hphase).symm
    refine either_bind (h.ask_quiet trivial hpast) ?_
    rintro drained l₁ rfl
    split
    · exact h.releasing hpast
    · exact h.persist_either rfl rfl (by rw [hphase]; rfl) rfl (h.held hpast)
  backUp {j l} h hphase := by
    have hpast : interlockAcquired.rank ≤ j.phase.rank := by
      rw [hphase]
      decide
    refine either_bind (h.ask_quiet trivial hpast) ?_
    rintro backup l₁ rfl
    split
    · exact h.persist_either rfl rfl (by rw [hphase]; rfl) rfl (h.held hpast)
    · exact h.releasing hpast
  look {j l} h hphase := by
    have hpast : interlockAcquired.rank ≤ j.phase.rank := by
      rw [hphase]
      decide
    refine either_mono (h.ask_quiet trivial hpast) ?_ fun _ h => h
    rintro target l₁ rfl
    exact ⟨h.underway, h.held⟩
  flip h hphase := flip_holds h hphase
  migrate seams h hphase := migrate_holds h hphase seams
  health {j l} h hphase := by
    have hpast : interlockAcquired.rank ≤ j.phase.rank := by
      rw [hphase]
      decide
    refine either_bind (h.ask_quiet trivial hpast) ?_
    rintro green l₁ rfl
    split
    · exact h.releasing hpast
    · exact h.persist_either rfl rfl (by rw [hphase]; rfl) rfl (h.held hpast)
  commit h hphase := commit_returns h hphase
  raised fault _ := returned_error fault
  back reason h := h.rollback_returns reason

end Forward

/-! ## Histories -/

section Histories

variable {owner : String} {l : Ledger}

lemma holding_init {j : UpgradeJournal} (hinit : j.phase = .init) (l : Ledger) : Holding j l := by
  refine ⟨by rw [hinit]; rfl, ?_⟩
  intro hpast
  rw [hinit] at hpast
  exact absurd hpast (by decide)

lemma launch_holding (hheld : ¬ l.Loose) :
    Launch owner ReleaseRecorded RestoresHeld Holding Returned l where
  load := trivial
  raised := returned_error
  resumes j hj hopen := by
    refine ⟨hopen, ?_⟩
    intro hpast
    by_contra hfree
    exact hheld ⟨j, hj, hopen, hpast, eq_false_of_ne_true hfree⟩
  stale j hj hterminal := by
    intro outcome _ j' hj'
    rw [hj] at hj'
    cases hj'
    exact hterminal
  refuses j hphase _ := by
    have hterminal : j.phase.isTerminal = true := by
      rw [hphase]
      rfl
    refine ⟨trivial, returned_error, ?_⟩
    intro outcome _
    exact Ledger.closed_write hterminal
  begins j _ hinit _ := ⟨trivial, holding_init hinit _⟩
  notes {j _} revision _ hinit :=
    ⟨trivial, trivial, holding_init (j := { j with preSchemaRevision := revision }) hinit _⟩
  fails fault _ := returned_error fault

/-- One run, on a ledger where the interlock is held as the journal says. -/
lemma run_holds (hheld : ¬ l.Loose) {setup : Setup} : setup.run.wp (holding owner) Returned l :=
  holding_course.run_wp (launch_holding hheld) setup

lemma Ledger.Reached.not_loose {w : World} (hw : w.journal = none)
    (h : Reached ReleaseRecorded (fun l => ¬ l.Loose) (.blank w) l) : ¬ l.Loose := by
  induction h with
  | start =>
    rintro ⟨j, hj, _⟩
    have hnone : (Ledger.blank w).world.journal = none := hw
    rw [hnone] at hj
    cases hj
  | returned _ setup hrun ih =>
    have hreturned := hrun.post (wp_of_guard (run_holds ih))
    exact (hreturned _ rfl).not_loose
  | cutShort _ setup _ hstop _ => exact hstop

end Histories

/-- In every history in which each release is followed by its terminal phase, a backup is
restored only while the upgrade holds the interlock. -/
theorem restored_while_held {w : World} (hw : w.journal = none) {l l' : Ledger}
    (h : Ledger.Reached ReleaseRecorded (fun l => ¬ l.Loose) (.blank w) l) (setup : Setup)
    {backup : BackupRef}
    (hmakes : Makes (Ledger.machine setup.context.ownerRunId ReleaseRecorded) setup.run l l'
      (.restoreBackup backup)) :
    l'.holds = true ∧ ∃ record, l'.world.interlock = some record ∧ record.held = true := by
  have hheld : l'.holds = true := hmakes.guarded (run_holds (h.not_loose hw))
  have hrecord : l'.HoldsRecord :=
    hmakes.visits.keeps (fun l o x hl _ => hl.next _ o x) h.holdsRecord
  exact ⟨hheld, hrecord hheld⟩

/-! ### Two restores -/

lemma failed_migration_restores : ∃ l' backup,
    Makes (Ledger.machine "run-1" ReleaseRecorded) toTwo.run (.blank atOne) l'
      (.restoreBackup backup) := by
  refine ⟨?after, ?backup, ?run⟩
  case run =>
    refine (toTwo_comes_laid fun o _ => by cases o <;> trivial).makes ?_
    refine .call (.failed (.operational (.raised "migrate")) true) ⟨fun _ => trivial, trivial⟩ ?_
    exact .here _ _ _

theorem failed_migration_restores_held : ∃ l' backup,
    Makes (Ledger.machine "run-1" ReleaseRecorded) toTwo.run (.blank atOne) l'
      (.restoreBackup backup) ∧ l'.holds = true := by
  rcases failed_migration_restores with ⟨l', backup, hmakes⟩
  have hheld := restored_while_held rfl .start toTwo hmakes
  exact ⟨l', backup, hmakes, hheld.1⟩

/-- The interlock is released and the write of COMPLETE fails: the rollback restores the
backup over whatever the writers have written since. -/
theorem restored_over_writers : ¬ ∀ (w : World) (l l' : Ledger) (setup : Setup)
    (backup : BackupRef), w.journal = none →
    Ledger.Reached (fun _ _ => True) (fun _ => True) (.blank w) l →
    Makes (Ledger.machine setup.context.ownerRunId fun _ _ => True) setup.run l l'
      (.restoreBackup backup) → l'.holds = true := by
  intro hall
  have hmakes : ∃ l' backup, Makes (Ledger.machine "run-1" fun _ _ => True) toTwo.run
      (.blank atOne) l' (.restoreBackup backup) ∧ l'.holds = false := by
    refine ⟨?after, ?backup, ?run, ?free⟩
    case run =>
      refine (toTwo_comes_migrated fun _ _ => trivial).makes ?_
      refine .call (.ok true) ⟨⟨trivial, trivial⟩, trivial⟩ ?_
      refine .call (.ok ()) ⟨⟨trivial, trivial⟩, trivial⟩ ?_
      -- The release, and the write that does not come to the disk.
      refine .call (.ok ()) ⟨⟨⟨_, rfl, .inr rfl⟩, trivial⟩, trivial⟩ ?_
      refine .call (.failed (.operational (.raised "disk full")) false) ⟨by rintro ⟨⟩, trivial⟩ ?_
      exact .here _ _ _
    case free => rfl
  rcases hmakes with ⟨l', backup, hmakes, hfree⟩
  have hheld := hall atOne (.blank atOne) l' toTwo backup rfl .start hmakes
  rw [hfree] at hheld
  cases hheld

end CivicCast.Upgrade
