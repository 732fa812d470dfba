import CivicCast.Upgrade.Ledger

/-! # The recovery point

Before anything is changed there is something to go back to. The guard is spread over the
run: the refusal of a plan that nobody acknowledged, the check of the backup, the order
of the phases; and a resumed run starts in the middle of it, from a journal it has read.
`advance` does not help here, since it lets every terminal phase follow every other one.

The invariant is about the journal on disk. A journal under way stands for the phases up
to its own, one after the other, and past the backup it has a recovery point. The journal
in memory has the same phase, plan and backup: a write that fails leaves the disk as it
was, because the replacement of the file is the last thing a write does.
-/

namespace CivicCast.Upgrade

open Lib Lib.Prog List UpgradePhase

/-! ## Phases in order -/

def forwardPhases : List UpgradePhase :=
  [.init, .interlockAcquired, .writersDrained, .backupVerified, .treeLaid, .migrated,
    .healthGreen]

/-- The phases that one upgrade persists: a stretch of the way forward, and at most one
terminal phase, COMPLETE only after all of it. Only a refusal comes without a first phase. -/
def OneUpgrade (phases : List UpgradePhase) : Prop :=
  ∃ (walked : List UpgradePhase) (ending : Option UpgradePhase),
    phases = walked ++ ending.toList ∧ walked <+: forwardPhases ∧
    ∀ phase, ending = some phase → phase.isTerminal = true ∧
      (phase = .complete → walked = forwardPhases) ∧
      (walked = [] → phase = .refusedNonRestorable)

/-- One upgrade after the other; the next one begins only after a COMPLETE. -/
def InOrder (phases : List UpgradePhase) : Prop :=
  ∃ upgrades : List (List UpgradePhase), phases = upgrades.flatten ∧
    (∀ upgrade ∈ upgrades, OneUpgrade upgrade) ∧
    ∀ upgrade ∈ upgrades.dropLast, upgrade.getLast? = some .complete

/-- The phases persisted so far, down to `phase`. -/
def Standing (persisted : List UpgradePhase) (phase : UpgradePhase) : Prop :=
  ∃ (earlier : List (List UpgradePhase)) (current : List UpgradePhase),
    persisted = earlier.flatten ++ current ∧
    (∀ upgrade ∈ earlier, OneUpgrade upgrade ∧ upgrade.getLast? = some .complete) ∧
    OneUpgrade current ∧ current.getLast? = some phase ∧
    (phase.isTerminal = false → current = forwardPhases.take (phase.rank + 1))

section Standing

variable {persisted : List UpgradePhase} {phase next : UpgradePhase}

variable (h : Standing persisted phase)
include h

lemma Standing.inOrder : InOrder persisted := by
  rcases h with ⟨earlier, current, hpersisted, hearlier, hcurrent, _, _⟩
  refine ⟨earlier ++ [current], ?_, ?_, ?_⟩
  · rw [hpersisted, flatten_append, flatten_singleton]
  · intro upgrade hmem
    rcases mem_append.mp hmem with hmem | hmem
    · exact (hearlier upgrade hmem).1
    · rw [mem_singleton.mp hmem]
      exact hcurrent
  · intro upgrade hmem
    rw [dropLast_concat] at hmem
    exact (hearlier upgrade hmem).2

lemma Standing.getLast : persisted.getLast? = some phase := by
  rcases h with ⟨earlier, current, hpersisted, _, _, hlast, _⟩
  rw [hpersisted, getLast?_append, hlast]
  rfl

lemma Standing.again : Ledger.notePhase phase persisted = persisted := by
  unfold Ledger.notePhase
  rw [if_pos h.getLast]

lemma Standing.note (hne : next ≠ phase) :
    Ledger.notePhase next persisted = persisted ++ [next] := by
  unfold Ledger.notePhase
  rw [if_neg]
  rw [h.getLast]
  intro hsame
  exact hne (Option.some.inj hsame).symm

omit h

lemma oneUpgrade_take (n : ℕ) : OneUpgrade (forwardPhases.take n) := by
  refine ⟨forwardPhases.take n, none, by simp, take_prefix n _, ?_⟩
  intro phase hnone
  cases hnone

lemma Standing.goesOn (h : Standing persisted phase) (hopen : phase.isTerminal = false)
    (hnext : next.isTerminal = false) (hrank : next.rank = phase.rank + 1) :
    Standing (Ledger.notePhase next persisted) next := by
  have hne : next ≠ phase := by
    intro hsame
    rw [hsame] at hrank
    omega
  have htake : forwardPhases.take (phase.rank + 1) ++ [next] =
      forwardPhases.take (next.rank + 1) := by
    revert hopen hnext hrank
    cases phase <;> cases next <;> simp [isTerminal, rank, forwardPhases]
  rw [h.note hne]
  rcases h with ⟨earlier, current, hpersisted, hearlier, _, _, hcurrent⟩
  refine ⟨earlier, forwardPhases.take (next.rank + 1), ?_, hearlier, oneUpgrade_take _, ?_,
    fun _ => rfl⟩
  · rw [hpersisted, hcurrent hopen, append_assoc, htake]
  · rw [← htake, getLast?_concat]

lemma Standing.ends (h : Standing persisted phase) (hopen : phase.isTerminal = false)
    (hnext : next.isTerminal = true) (hcomplete : next = .complete → phase = .healthGreen) :
    Standing (Ledger.notePhase next persisted) next := by
  have hne : next ≠ phase := by
    intro hsame
    rw [hsame, hopen] at hnext
    cases hnext
  rw [h.note hne]
  rcases h with ⟨earlier, current, hpersisted, hearlier, _, _, hcurrent⟩
  refine ⟨earlier, current ++ [next], ?_, hearlier, ?_, getLast?_concat .., ?_⟩
  · rw [hpersisted, append_assoc]
  · refine ⟨current, some next, rfl, ?_, ?_⟩
    · rw [hcurrent hopen]
      exact take_prefix _ _
    · intro phase' hphase'
      cases hphase'
      refine ⟨hnext, ?_, ?_⟩
      · intro hnext
        rw [hcurrent hopen, hcomplete hnext]
        rfl
      · intro hnil
        rw [hcurrent hopen] at hnil
        simp [forwardPhases] at hnil
  · intro hopen'
    rw [hnext] at hopen'
    cases hopen'

lemma oneUpgrade_first (hfirst : next = .init ∨ next = .refusedNonRestorable) :
    OneUpgrade [next] ∧
      (next.isTerminal = false → [next] = forwardPhases.take (next.rank + 1)) := by
  rcases hfirst with rfl | rfl
  · exact ⟨oneUpgrade_take 1, fun _ => rfl⟩
  · refine ⟨⟨[], some .refusedNonRestorable, rfl, nil_prefix, ?_⟩, fun hopen => by cases hopen⟩
    intro phase hphase
    cases hphase
    exact ⟨rfl, nofun, fun _ => rfl⟩

lemma standing_first (hfirst : next = .init ∨ next = .refusedNonRestorable) :
    Standing (Ledger.notePhase next []) next := by
  rcases oneUpgrade_first hfirst with ⟨hone, htake⟩
  refine ⟨[], [next], rfl, ?_, hone, rfl, htake⟩
  intro upgrade hmem
  cases hmem

lemma Standing.anew (h : Standing persisted .complete)
    (hfirst : next = .init ∨ next = .refusedNonRestorable) :
    Standing (Ledger.notePhase next persisted) next := by
  have hne : next ≠ .complete := by
    rcases hfirst with rfl | rfl <;> decide
  rcases oneUpgrade_first hfirst with ⟨hone, htake⟩
  rw [h.note hne]
  rcases h with ⟨earlier, current, hpersisted, hearlier, hcurrent, hlast, _⟩
  refine ⟨earlier ++ [current], [next], ?_, ?_, hone, rfl, htake⟩
  · rw [hpersisted, flatten_append, flatten_singleton]
  · intro upgrade hmem
    rcases mem_append.mp hmem with hmem | hmem
    · exact hearlier upgrade hmem
    · rw [mem_singleton.mp hmem]
      exact ⟨hcurrent, hlast⟩

end Standing

/-! ## The journal on disk -/

/-- The backup is verified and drilled, and the plan may be carried out. -/
def UpgradeJournal.HasRecoveryPoint (j : UpgradeJournal) : Prop :=
  (∃ backup, j.backup = some backup ∧ backup.verified = true ∧ backup.restoreDrillOk = true) ∧
    j.plan.Consented

/-- The calls that change the installation or the schema. -/
def Mutates : Op → Prop
  | .layTree _ => True
  | .flipJunction _ => True
  | .migrate => True
  | _ => False

/-- A journal write that fails leaves the disk as it was. -/
def WritesAtomic : (o : Op) → Reply o.Res → Prop
  | .writeJournal _, .failed _ landed => landed = false
  | _, _ => True

/-- What the journal on disk stands for. -/
structure Recorded (l : Ledger) : Prop where
  empty : l.world.journal = none → l.persisted = []
  standing : ∀ d, l.world.journal = some d → Standing l.persisted d.phase
  consent : ∀ d, l.world.journal = some d → d.phase.isTerminal = false → d.plan.Consented
  backup : ∀ d, l.world.journal = some d → d.phase.isTerminal = false →
    UpgradePhase.backupVerified.rank ≤ d.phase.rank →
    ∃ backup, d.backup = some backup ∧ backup.verified = true ∧ backup.restoreDrillOk = true

lemma Recorded.inOrder {l : Ledger} (h : Recorded l) : InOrder l.persisted := by
  cases hjournal : l.world.journal with
  | none =>
    rw [h.empty hjournal]
    exact ⟨[], rfl, by simp, by simp⟩
  | some d => exact (h.standing d hjournal).inOrder

/-- The journal in memory is the one on disk, but for the previous target. -/
structure Tracking (j : UpgradeJournal) (l : Ledger) : Prop where
  recorded : Recorded l
  underway : j.phase.isTerminal = false
  disk : ∃ d, l.world.journal = some d ∧ d.phase = j.phase ∧ d.plan = j.plan ∧
    d.backup = j.backup

/-- Every call is made from a recorded ledger, and a change with a recovery point. -/
def Guarded (l : Ledger) (o : Op) : Prop :=
  Recorded l ∧ (Mutates o → ∃ d, l.world.journal = some d ∧ d.HasRecoveryPoint)

abbrev guarding (owner : String) : Machine upgradeIface Ledger :=
  guarded owner WritesAtomic Guarded

section Tracking

variable {owner : String} {j : UpgradeJournal} {l l' : Ledger} {o : Op} {next : UpgradeJournal}

lemma Recorded.congr (h : Recorded l) (hjournal : l'.world.journal = l.world.journal)
    (hpersisted : l'.persisted = l.persisted) : Recorded l' where
  empty := by
    rw [hjournal, hpersisted]
    exact h.empty
  standing := by
    rw [hjournal, hpersisted]
    exact h.standing
  consent := by
    rw [hjournal]
    exact h.consent
  backup := by
    rw [hjournal]
    exact h.backup

variable (h : Tracking j l)
include h

lemma Tracking.congr (hjournal : l'.world.journal = l.world.journal)
    (hpersisted : l'.persisted = l.persisted) : Tracking j l' := by
  refine ⟨h.recorded.congr hjournal hpersisted, h.underway, ?_⟩
  rw [hjournal]
  exact h.disk

lemma Tracking.standing : Standing l.persisted j.phase := by
  rcases h.disk with ⟨d, hd, hphase, _, _⟩
  rw [← hphase]
  exact h.recorded.standing d hd

lemma Tracking.consent : j.plan.Consented := by
  rcases h.disk with ⟨d, hd, hphase, hplan, _⟩
  have hopen : d.phase.isTerminal = false := by
    rw [hphase]
    exact h.underway
  rw [← hplan]
  exact h.recorded.consent d hd hopen

/-- Past the backup there is a recovery point on disk, and in memory. -/
lemma Tracking.recoveryPoint (hrank : UpgradePhase.backupVerified.rank ≤ j.phase.rank) :
    j.HasRecoveryPoint ∧ ∃ d, l.world.journal = some d ∧ d.HasRecoveryPoint := by
  rcases h.disk with ⟨d, hd, hphase, hplan, hbackup⟩
  have hopen : d.phase.isTerminal = false := by
    rw [hphase]
    exact h.underway
  have hverified := h.recorded.backup d hd hopen (by rw [hphase]; exact hrank)
  have hconsent := h.recorded.consent d hd hopen
  refine ⟨⟨?_, h.consent⟩, d, hd, hverified, hconsent⟩
  rw [← hbackup]
  exact hverified

lemma Tracking.pre (ho : ¬ Mutates o) : Guarded l o :=
  ⟨h.recorded, fun hmutates => absurd hmutates ho⟩

lemma Tracking.pre_mutates (o : Op)
    (hrank : UpgradePhase.backupVerified.rank ≤ j.phase.rank) : Guarded l o :=
  ⟨h.recorded, fun _ => (h.recoveryPoint hrank).2⟩

omit h

lemma recorded_write (hstanding : Standing (Ledger.notePhase j.phase l.persisted) j.phase)
    (hconsent : j.phase.isTerminal = false → j.plan.Consented)
    (hbackup : j.phase.isTerminal = false →
      UpgradePhase.backupVerified.rank ≤ j.phase.rank →
      ∃ backup, j.backup = some backup ∧ backup.verified = true ∧
        backup.restoreDrillOk = true) :
    Recorded (l.after owner (.writeJournal j)) where
  empty := by
    intro hnone
    cases hnone
  standing := by
    intro d hd
    cases hd
    exact hstanding
  consent := by
    intro d hd
    cases hd
    exact hconsent
  backup := by
    intro d hd
    cases hd
    exact hbackup

include h

lemma Tracking.rewrite : Tracking j (l.after owner (.writeJournal j)) := by
  have hstanding : Standing (Ledger.notePhase j.phase l.persisted) j.phase := by
    rw [h.standing.again]
    exact h.standing
  refine ⟨recorded_write hstanding (fun _ => h.consent) ?_, h.underway, j, rfl, rfl, rfl, rfl⟩
  exact fun _ hrank => (h.recoveryPoint hrank).1.1

lemma Tracking.persist_either {phase : UpgradePhase}
    {update : UpgradeJournal → UpgradeJournal}
    (hnext : update { j with phase := phase } = next) (hphase : next.phase = phase)
    (hplan : next.plan = j.plan) (hrank : phase.rank = j.phase.rank + 1)
    (hopen : phase.isTerminal = false)
    (hbackup : backupVerified.rank ≤ phase.rank →
      ∃ backup, next.backup = some backup ∧ backup.verified = true ∧
        backup.restoreDrillOk = true) :
    (persist j phase update).wp (guarding owner)
      (Either (fun j' l' => Tracking j' l' ∧ j'.phase = phase) (Tracking j)) l := by
  have hstanding : Standing (Ledger.notePhase next.phase l.persisted) next.phase := by
    rw [hphase]
    exact h.standing.goesOn h.underway hopen hrank
  have hwritten : Recorded (l.after owner (.writeJournal next)) := by
    refine recorded_write hstanding ?_ ?_
    · intro _
      rw [hplan]
      exact h.consent
    · intro _ hpast
      rw [hphase] at hpast
      exact hbackup hpast
  refine Upgrade.persist_either (h.pre (fun hm => hm)) h.underway (.inr hrank) hnext ?_
    (fun _ _ => h) ?_
  · refine ⟨⟨hwritten, ?_, next, rfl, rfl, rfl, rfl⟩, hphase⟩
    rw [hphase]
    exact hopen
  · intro _ hlands
    cases hlands

lemma Tracking.ask_quiet (ho : Ledger.Quiet o) :
    (ask o).wp (guarding owner) (Either (fun _ l' => l' = l) (Tracking j)) l := by
  have hpre : Guarded l o := by
    apply h.pre
    cases o with
    | layTree | flipJunction | migrate => exact ho.elim
    | _ => exact fun hmutates => hmutates
  exact either_mono (Upgrade.ask_quiet ho hpre h) (fun _ _ h => h.2) fun _ h => h

/-- A call that leaves the journal alone, with or without a recovery point. -/
lemma Tracking.ask_either (hpre : Guarded l o)
    (hjournal : (l.after owner o).world.journal = l.world.journal)
    (hpersisted : (l.after owner o).persisted = l.persisted)
    (hnote : ∀ a, ((l.after owner o).noteTree o a).world.journal = l.world.journal ∧
      ((l.after owner o).noteTree o a).persisted = l.persisted) :
    (ask o).wp (guarding owner) (Either (fun _ l' => Tracking j l') (Tracking j)) l :=
  Upgrade.ask_either hpre (fun a _ _ _ => h.congr (hnote a).1 (hnote a).2) (fun _ _ => h)
    fun _ _ => h.congr hjournal hpersisted

/-! ## A run -/

def LeavesRecorded (_ : Except Fault UpgradeOutcome) (l : Ledger) : Prop := Recorded l

lemma flip_tracks (hphase : j.phase = .backupVerified) :
    (flipSteps j).wp (guarding owner)
      (Either (fun j' l' => Tracking j' l' ∧ j'.phase = .treeLaid) (Tracking j)) l := by
  have hrank : backupVerified.rank ≤ j.phase.rank := Nat.le_of_eq (congrArg rank hphase).symm
  have hrewrite : (ask (.writeJournal j)).wp (guarding owner)
      (Either (fun _ l' => Tracking j l') (Tracking j)) l :=
    Upgrade.ask_either (h.pre fun hm => hm) (fun _ _ _ _ => h.rewrite) (fun _ _ => h)
      fun _ _ => h.rewrite
  refine either_bind hrewrite ?_
  intro _ l₁ h₁
  refine either_bind (h₁.ask_either (h₁.pre_mutates (.layTree _) hrank) rfl rfl
    fun _ => ⟨rfl, rfl⟩) ?_
  intro newTarget l₂ h₂
  refine either_bind (h₂.ask_either (h₂.pre_mutates (.flipJunction newTarget) hrank) rfl rfl
    fun _ => ⟨rfl, rfl⟩) ?_
  intro _ l₃ h₃
  have hpoint := (h₃.recoveryPoint hrank).1
  exact h₃.persist_either rfl rfl rfl (by rw [hphase]; rfl) rfl fun _ => hpoint.1

lemma migrate_tracks (hphase : j.phase = .treeLaid) (seams : Seams) :
    (migrateSteps seams j).wp (guarding owner)
      (Either (fun j' l' => Tracking j' l' ∧ j'.phase = .migrated) (Tracking j)) l := by
  have hrank : backupVerified.rank ≤ j.phase.rank := by
    rw [hphase]
    decide
  refine either_bind (h.ask_either (h.pre_mutates .migrate hrank) rfl rfl fun _ => ⟨rfl, rfl⟩) ?_
  intro _ l₁ h₁
  refine either_bind (h₁.ask_quiet trivial) ?_
  rintro postRevision l₂ rfl
  refine either_bind (verifyHead_wp (h₁.ask_quiet trivial) h₁) ?_
  rintro _ l₃ rfl
  have hpoint := (h₁.recoveryPoint hrank).1
  exact h₁.persist_either rfl rfl rfl (by rw [hphase]; rfl) rfl fun _ => hpoint.1

lemma Tracking.write_terminal (hterminal : next.phase.isTerminal = true)
    (hcomplete : next.phase = .complete → j.phase = .healthGreen) :
    Recorded (l.after owner (.writeJournal next)) := by
  refine recorded_write (h.standing.ends h.underway hterminal hcomplete) ?_ ?_
  · intro hopen
    rw [hterminal] at hopen
    cases hopen
  · intro hopen
    rw [hterminal] at hopen
    cases hopen

lemma commit_tracks (hphase : j.phase = .healthGreen) :
    (commitSteps j).wp (guarding owner)
      (Either (fun j' l' => LeavesRecorded (.ok ⟨j'.phase, j'⟩) l') (Tracking j)) l := by
  refine either_bind (h.ask_either (h.pre fun hm => hm) rfl rfl fun _ => ⟨rfl, rfl⟩) ?_
  intro _ l₁ h₁
  refine Upgrade.persist_either (h₁.pre fun hm => hm) h₁.underway (.inl rfl) rfl ?_
    (fun _ _ => h₁) ?_
  · exact h₁.write_terminal rfl fun _ => hphase
  · intro _ hlands
    cases hlands

lemma Tracking.rollback_leaves (reason : Reason) (attempting : UpgradePhase) :
    (rollback j reason attempting).wp (guarding owner) LeavesRecorded l := by
  refine rollback_wp_of h.underway h ?_ ?_ ?_ ?_ ?_ ?_ reason
  · exact fun l' h' => ⟨h'.pre fun hm => hm, h'.pre fun hm => hm⟩
  · exact fun _ backup _ => ⟨h.pre fun hm => hm, h.congr rfl rfl⟩
  · intro l' target hlaid h'
    have hrank : backupVerified.rank ≤ j.phase.rank := Nat.le_trans (by decide) hlaid
    exact ⟨h'.pre_mutates _ hrank, h'.congr rfl rfl⟩
  · exact fun l' h' => ⟨h'.pre fun hm => hm, h'.congr rfl rfl⟩
  · intro l' j' h' hphase _
    have hwritten : Recorded (l'.after owner (.writeJournal j')) := by
      rcases hphase with hphase | hphase
      · exact h'.write_terminal (by rw [hphase]; rfl) (by rw [hphase]; nofun)
      · exact h'.write_terminal (by rw [hphase]; rfl) (by rw [hphase]; nofun)
    exact ⟨h'.pre fun hm => hm, hwritten, fun _ _ _ => hwritten⟩
  · exact fun l' fault h' => h'.recorded

omit h

lemma tracking_course :
    Course (guarding owner) Tracking Tracking (fun _ => Tracking) LeavesRecorded where
  underway h := h.underway
  acquire h hphase := by
    refine either_bind (h.ask_either (h.pre fun hm => hm) rfl rfl fun _ => ⟨rfl, rfl⟩) ?_
    intro _ l₁ h₁
    exact h₁.persist_either rfl rfl rfl (by rw [hphase]; rfl) rfl fun hpast =>
      absurd hpast (by decide)
  drain h hphase := by
    refine either_bind (h.ask_quiet trivial) ?_
    rintro drained l₁ rfl
    split
    · exact h
    · exact h.persist_either rfl rfl rfl (by rw [hphase]; rfl) rfl fun hpast =>
        absurd hpast (by decide)
  backUp {j l} h hphase := by
    refine either_bind (h.ask_quiet trivial) ?_
    rintro backup l₁ rfl
    split
    · -- only a verified backup becomes the recovery point
      rename_i hverified
      have hboth : backup.verified = true ∧ backup.restoreDrillOk = true := by
        simpa using hverified
      exact h.persist_either rfl rfl rfl (by rw [hphase]; rfl) rfl fun _ =>
        ⟨backup, rfl, hboth.1, hboth.2⟩
    · exact h
  look {j l} h _ := by
    refine either_mono (h.ask_quiet trivial) ?_ fun _ h => h
    rintro target l₁ rfl
    exact ⟨h.recorded, h.underway, h.disk⟩
  flip h hphase := flip_tracks h hphase
  migrate seams h hphase := migrate_tracks h hphase seams
  health {j l} h hphase := by
    have hrank : backupVerified.rank ≤ j.phase.rank := by
      rw [hphase]
      decide
    refine either_bind (h.ask_quiet trivial) ?_
    rintro green l₁ rfl
    split
    · exact h
    · exact h.persist_either rfl rfl rfl (by rw [hphase]; rfl) rfl fun _ =>
        (h.recoveryPoint hrank).1.1
  commit h hphase := commit_tracks h hphase
  raised _ h := h.recorded
  back {a _ _} reason h := h.rollback_leaves reason a

/-- The first journal of an upgrade, on a free state root. -/
lemma Recorded.begun (h : Recorded l) (hfirst : j.phase = .init ∨ j.phase = .refusedNonRestorable)
    (hconsent : j.phase.isTerminal = false → j.plan.Consented)
    (hfree : l.world.journal = none ∨ ∃ d, l.world.journal = some d ∧ d.phase = .complete) :
    Recorded (l.after owner (.writeJournal j)) := by
  have hstanding : Standing (Ledger.notePhase j.phase l.persisted) j.phase := by
    rcases hfree with hnone | ⟨d, hd, hcomplete⟩
    · rw [h.empty hnone]
      exact standing_first hfirst
    · have hlast := h.standing d hd
      rw [hcomplete] at hlast
      exact hlast.anew hfirst
  refine recorded_write hstanding hconsent ?_
  intro _ hpast
  rcases hfirst with hinit | hrefused
  · rw [hinit] at hpast
    exact absurd hpast (by decide)
  · rename_i hopen
    rw [hrefused] at hopen
    cases hopen

lemma launch_tracking (h : Recorded l) :
    Launch owner WritesAtomic Guarded Tracking LeavesRecorded l where
  load := ⟨h, fun hmutates => hmutates.elim⟩
  raised := fun _ => h
  resumes j hj hopen := ⟨h, hopen, j, hj, rfl, rfl, rfl⟩
  stale _ _ _ := h
  refuses j hphase hfree := by
    have hwritten : Recorded (l.after owner (.writeJournal j)) := by
      refine h.begun (.inr hphase) ?_ hfree
      intro hopen
      rw [hphase] at hopen
      cases hopen
    exact ⟨⟨h, fun hmutates => hmutates.elim⟩, fun _ => hwritten, hwritten⟩
  begins j hconsent hinit hfree := by
    have hwritten : Recorded (l.after owner (.writeJournal j)) :=
      h.begun (.inl hinit) (fun _ => hconsent) hfree
    refine ⟨⟨h, fun hmutates => hmutates.elim⟩, hwritten, ?_, j, rfl, rfl, rfl, rfl⟩
    rw [hinit]
    rfl
  notes {j _} revision h₁ _ := by
    have hnoted : Tracking { j with preSchemaRevision := revision } _ :=
      ⟨h₁.recorded, h₁.underway, h₁.disk⟩
    exact ⟨h₁.pre fun hm => hm, h₁.pre fun hm => hm, hnoted.rewrite⟩
  fails _ h₁ := h₁.recorded

lemma run_tracks (h : Recorded l) {setup : Setup} :
    setup.run.wp (guarding owner) LeavesRecorded l :=
  tracking_course.run_wp (launch_tracking h) setup

end Tracking

/-! ## Histories -/

lemma recorded_blank {w : World} (hw : w.journal = none) : Recorded (.blank w) where
  empty := fun _ => rfl
  standing := by
    intro d hd
    have hnone : (Ledger.blank w).world.journal = none := hw
    rw [hnone] at hd
    cases hd
  consent := by
    intro d hd
    have hnone : (Ledger.blank w).world.journal = none := hw
    rw [hnone] at hd
    cases hd
  backup := by
    intro d hd
    have hnone : (Ledger.blank w).world.journal = none := hw
    rw [hnone] at hd
    cases hd

lemma Ledger.Reached.recorded {mayStop : Ledger → Prop} {w : World} (hw : w.journal = none)
    {l : Ledger} (h : Reached WritesAtomic mayStop (.blank w) l) : Recorded l := by
  induction h with
  | start => exact recorded_blank hw
  | returned _ setup hrun ih => exact hrun.post (wp_of_guard (run_tracks ih))
  | cutShort _ setup hrun _ ih =>
    exact hrun.guarded (fun _ _ hguarded => hguarded.1) (fun _ _ hr => hr) (run_tracks ih)

/-- In every history of runs, whatever fails and wherever they are cut short: a tree is
laid, the junction flipped and the schema migrated only with a recovery point in the
journal on disk; and the phases come to the disk in their order. -/
theorem changed_with_recovery_point {w : World} (hw : w.journal = none) {l : Ledger}
    (h : Ledger.Reached WritesAtomic (fun _ => True) (.blank w) l) (setup : Setup) :
    (∀ l' o, Makes (Ledger.machine setup.context.ownerRunId WritesAtomic) setup.run l l' o →
      Mutates o → ∃ d, l'.world.journal = some d ∧ d.HasRecoveryPoint) ∧
    ∀ l', Visits (Ledger.machine setup.context.ownerRunId WritesAtomic) setup.run l l' →
      InOrder l'.persisted := by
  have hrecorded : Recorded l := h.recorded hw
  constructor
  · intro l' o hmakes hmutates
    have hguarded : Guarded l' o := hmakes.guarded (run_tracks hrecorded)
    exact hguarded.2 hmutates
  · intro l' hvisits
    have hrecorded' : Recorded l' :=
      hvisits.guarded (fun _ _ hguarded => hguarded.1) (fun _ _ hr => hr)
        (run_tracks hrecorded)
    exact hrecorded'.inOrder

lemma upgrade_migrates : ∃ l', Makes (Ledger.machine "run-1" WritesAtomic) toTwo.run
    (.blank atOne) l' .migrate := by
  refine ⟨?after, ?run⟩
  case run =>
    refine (toTwo_comes_laid fun o _ => by cases o <;> trivial).makes ?_
    exact .here _ _ _

theorem upgrade_migrates_with_recovery_point : ∃ l',
    Makes (Ledger.machine "run-1" WritesAtomic) toTwo.run (.blank atOne) l' .migrate ∧
      (∃ d, l'.world.journal = some d ∧ d.HasRecoveryPoint) ∧ InOrder l'.persisted := by
  rcases upgrade_migrates with ⟨l', hmakes⟩
  have hboth := changed_with_recovery_point (w := atOne) rfl .start toTwo
  exact ⟨l', hmakes, hboth.1 l' _ hmakes trivial, hboth.2 l' hmakes.visits⟩

end CivicCast.Upgrade
