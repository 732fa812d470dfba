import CivicCast.Upgrade.Orchestrator

/-! # A rolled-back upgrade

The machine an upgrade works on is the journal on disk, the junction that names the
live tree, the database and the interlock. Every call can fail, before its effect or
after, and the process can be killed between any two calls and inside one; the upgrade
is then run again, and resumes from the journal it finds.

A rollback that reports no sub-failure has put the junction back only if the flip was
recorded: between the flip and the journal write that follows it, the journal still
says that nothing moved. `rolled_back_when_recorded` is about the histories in which
no failure and no kill falls into that gap; in `unrecorded_flip_stays` one does.
-/

namespace CivicCast.Upgrade

open Lib Lib.Prog UpgradePhase Option

/-! ## The machine -/

/-- The interlock's record. -/
structure MaintenanceRecord where
  held : Bool
  generation : ℕ
  ownerRunId : String
deriving DecidableEq

structure World where
  /-- The journal on disk. -/
  journal : Option UpgradeJournal
  junction : Option String
  database : Database
  interlock : Option MaintenanceRecord
deriving DecidableEq

namespace World

variable (owner : String)

/-- The call can take effect: a held interlock is not taken, and only its owner's is
released. -/
def CanAct (w : World) : Op → Prop
  | .acquireInterlock => ∀ record, w.interlock = some record → record.held = false
  | .releaseInterlock => ∃ record, w.interlock = some record ∧
      (record.held = false ∨ record.ownerRunId = owner)
  | _ => True

def after (w : World) : Op → World
  | .writeJournal journal => { w with journal := some journal }
  | .acquireInterlock =>
    { w with interlock := some {
        held := true
        generation := w.interlock.elim 1 fun record => record.generation + 1
        ownerRunId := owner } }
  | .flipJunction target => { w with junction := some target }
  | .migrate => { w with database := .migrated }
  | .releaseInterlock =>
    { w with interlock := w.interlock.map fun record => { record with held := false } }
  | .restoreBackup backup => { w with database := backup.content }
  | _ => w

/-- What a call returns of the machine. -/
def Shows (w : World) : (o : Op) → o.Res → Prop
  | .loadJournal, journal => journal = w.journal
  | .readJunction, target => target = w.junction
  | .backup _, backup => backup.content = w.database
  | _, _ => True

def Replies (w : World) (o : Op) : Reply o.Res → Prop
  | .ok a => w.CanAct owner o ∧ w.Shows o a
  | .failed _ landed => landed = true → w.CanAct owner o

def next (w : World) (o : Op) : Reply o.Res → World
  | .ok _ => w.after owner o
  | .failed _ landed => if landed then w.after owner o else w

/-- The machine, with the replies that satisfy `promised` only. -/
def machine (promised : (o : Op) → Reply o.Res → Prop) : Machine upgradeIface World where
  pre := fun _ _ => True
  legal := fun w o reply => w.Replies owner o reply ∧ promised o reply
  next := fun w o reply => w.next owner o reply

end World

/-! ## Histories -/

/-- What an upgrade is run with. -/
structure Setup where
  plan : UpgradePlan
  context : UpgradeContext
  seams : Seams

def Setup.run (setup : Setup) : UpgradeM UpgradeOutcome :=
  runUpgrade setup.plan setup.context setup.seams

/-- The upgrade that began in `w₀`, maybe over the journal of an earlier one, has not committed;
after that a run is another upgrade. -/
def World.Uncommitted (w₀ w : World) : Prop :=
  w = w₀ ∨ ∀ journal, w.journal = some journal → journal.phase ≠ .complete

/-- The worlds that runs of one upgrade lead to: each run returns, raises, or is
killed in a world where `mayDie` holds. -/
inductive History (setup : Setup) (promised : (o : Op) → Reply o.Res → Prop)
    (mayDie : World → Prop) (w₀ : World) : World → Prop where
  | start : History setup promised mayDie w₀ w₀
  | ended {w w' : World} (h : History setup promised mayDie w₀ w) (hopen : w₀.Uncommitted w)
      (r : Except Fault UpgradeOutcome)
      (hrun : Exec (World.machine setup.context.ownerRunId promised) setup.run w r w') :
      History setup promised mayDie w₀ w'
  | killed {w w' : World} (h : History setup promised mayDie w₀ w) (hopen : w₀.Uncommitted w)
      (hrun : Visits (World.machine setup.context.ownerRunId promised) setup.run w w')
      (hdie : mayDie w') : History setup promised mayDie w₀ w'

/-- The run returned a rollback that recorded no sub-failure. -/
def UpgradeOutcome.RolledBackCleanly (outcome : UpgradeOutcome) : Prop :=
  outcome.phase = .rolledBack ∧ ∃ reason, outcome.journal.error = some (.rolledBack reason [])

/-- The machine is as it was before the upgrade. -/
structure World.Reverted (before : World) (owner : String) (w : World) : Prop where
  junction : w.junction = before.junction
  database : w.database = .preUpgrade
  interlock : ∀ record, w.interlock = some record → record.held = true →
    record.ownerRunId ≠ owner

/-- A machine on which the upgrade has not begun, and every earlier one is complete. -/
structure World.Untouched (w : World) : Prop where
  journal : ∀ journal, w.journal = some journal → journal.phase = .complete
  database : w.database = .preUpgrade

/-! ## Recorded flips -/

/-- A flip away from `before` does not fail after its effect, and the journal write
that records it does not fail. Without a tree before, no flip takes effect. -/
def FlipRecorded (before : Option String) : (o : Op) → Reply o.Res → Prop
  | .flipJunction _, .ok _ => before ≠ none
  | .flipJunction target, .failed _ landed => landed = true → some target = before
  | .writeJournal journal, .failed _ _ =>
    journal.phase = .treeLaid → journal.newJunctionTarget = before
  | _, _ => True

/-- The junction has moved and the journal does not say so. -/
def Exposed (before : Option String) (w : World) : Prop :=
  w.junction ≠ before ∧
    ∀ journal, w.journal = some journal → journal.phase.rank < UpgradePhase.treeLaid.rank

/-- What the journal on disk says of the machine. -/
structure UpgradeJournal.Sound (before : Option String) (database : Database)
    (journal : UpgradeJournal) : Prop where
  backup : UpgradePhase.backupVerified.rank ≤ journal.phase.rank →
    ∃ backup, journal.backup = some backup ∧ backup.content = .preUpgrade
  previous : UpgradePhase.treeLaid.rank ≤ journal.phase.rank →
    journal.previousJunctionTarget = before ∧ before ≠ none
  database : journal.phase.rank < UpgradePhase.treeLaid.rank → database = .preUpgrade

/-- Held at every moment: a journal under way says the truth, and without one the
database is untouched. -/
structure Kept (before : Option String) (w : World) : Prop where
  journal : ∀ journal, w.journal = some journal → journal.phase.isTerminal = false →
    journal.Sound before w.database
  fresh : w.journal = none → w.database = .preUpgrade

/-- Held between runs as well: the junction has not moved unrecorded. -/
def Safe (before : Option String) (w : World) : Prop := Kept before w ∧ ¬ Exposed before w

section Rules

variable {before : Option String} {owner : String} {w w' : World} {journal : UpgradeJournal}
  {R : World → Prop} {phase : UpgradePhase}

/-- The machine with recorded flips, and `Kept` before every call. -/
def watched (before : Option String) (owner : String) : Machine upgradeIface World :=
  (World.machine owner (FlipRecorded before)).watch (Kept before)

/-- One call: what it returns, and the world with and without its effect if it
fails. -/
lemma ask_split {o : Op} {K : o.Res → World → Prop} (hkept : Kept before w)
    (hok : ∀ a, w.CanAct owner o → w.Shows o a → FlipRecorded before o (.ok a) →
      K a (w.after owner o))
    (hstays : ∀ fault, FlipRecorded before o (.failed fault false) → R w)
    (hlands : ∀ fault, FlipRecorded before o (.failed fault true) → R (w.after owner o)) :
    (ask o).wp (watched before owner) (Either K R) w := by
  refine ⟨⟨trivial, hkept⟩, ?_⟩
  intro reply hreply
  rcases hreply with ⟨hreply, hpromised⟩
  cases reply with
  | ok a => exact hok a hreply.1 hreply.2 hpromised
  | failed fault landed =>
    cases landed with
    | false => exact hstays fault hpromised
    | true => exact hlands fault hpromised

lemma persist_split {update : UpgradeJournal → UpgradeJournal}
    {next : UpgradeJournal} {K : UpgradeJournal → World → Prop}
    (hkept : Kept before w) (hopen : journal.phase.isTerminal = false)
    (hphase : phase.isTerminal = true ∨ phase.rank = journal.phase.rank + 1)
    (hnext : update { journal with phase := phase } = next)
    (hok : K next { w with journal := some next })
    (hstays : (next.phase = .treeLaid → next.newJunctionTarget = before) → R w)
    (hlands : (next.phase = .treeLaid → next.newJunctionTarget = before) →
      R { w with journal := some next }) :
    (persist journal phase update).wp (watched before owner) (Either K R) w :=
  persist_wp hopen hphase hnext (ask_split hkept (fun _ _ _ _ => hok)
    (fun _ hpromised => hstays hpromised) fun _ hpromised => hlands hpromised)

/-! ## What keeps the worlds safe -/

lemma Kept.terminal (hterminal : journal.phase.isTerminal = true) :
    Kept before { w with journal := some journal } where
  journal := by
    intro journal' hjournal hopen
    cases hjournal
    rw [hterminal] at hopen
    cases hopen
  fresh := by
    intro h
    cases h

lemma UpgradePhase.ranks : UpgradePhase.backupVerified.rank = 3 ∧
    UpgradePhase.treeLaid.rank = 4 ∧ UpgradePhase.migrated.rank = 5 := ⟨rfl, rfl, rfl⟩

lemma rank_of_isTerminal (h : phase.isTerminal = true) :
    UpgradePhase.treeLaid.rank ≤ phase.rank := by
  cases phase <;> revert h <;> decide

lemma safe_of_terminal (hterminal : journal.phase.isTerminal = true) :
    Safe before { w with journal := some journal } := by
  refine ⟨Kept.terminal hterminal, ?_⟩
  rintro ⟨_, hrank⟩
  have hlow := hrank journal rfl
  have hhigh := rank_of_isTerminal hterminal
  omega

lemma Kept.congr (h : Kept before w) (hjournal : w'.journal = w.journal)
    (hdatabase : w'.database = w.database) : Kept before w' where
  journal := by
    intro journal hjournal' hopen
    rw [hjournal] at hjournal'
    rw [hdatabase]
    exact h.journal journal hjournal' hopen
  fresh := by
    intro hnone
    rw [hjournal] at hnone
    rw [hdatabase]
    exact h.fresh hnone

lemma Safe.congr (h : Safe before w) (hjournal : w'.journal = w.journal)
    (hdatabase : w'.database = w.database) (hjunction : w'.junction = w.junction) :
    Safe before w' := by
  refine ⟨h.1.congr hjournal hdatabase, ?_⟩
  rintro ⟨hmoved, hrank⟩
  rw [hjunction] at hmoved
  rw [hjournal] at hrank
  exact h.2 ⟨hmoved, hrank⟩

lemma Safe.flipped_back {target : Option String} (h : Kept before w) (htarget : target = before) :
    Safe before { w with junction := target } :=
  ⟨h.congr rfl rfl, fun hexposed => hexposed.1 htarget⟩

lemma Kept.restored (h : Kept before w) : Kept before { w with database := .preUpgrade } where
  journal := by
    intro journal hjournal hopen
    have hsound := h.journal journal hjournal hopen
    exact ⟨hsound.backup, hsound.previous, fun _ => rfl⟩
  fresh := fun _ => rfl

lemma Safe.restored (h : Safe before w) : Safe before { w with database := .preUpgrade } :=
  ⟨h.1.restored, h.2⟩

end Rules

/-! ## The way back -/

/-- What a run leaves: a safe world, and a machine that is as before if it returns a
clean rollback. -/
def Post (before : Option String) (owner : String) (r : Except Fault UpgradeOutcome)
    (w : World) : Prop :=
  Safe before w ∧ ∀ outcome, r = .ok outcome → outcome.RolledBackCleanly →
    w.junction = before ∧ w.database = .preUpgrade ∧
      ∀ record, w.interlock = some record → record.held = true → record.ownerRunId ≠ owner

section Retreat

variable {before : Option String} {owner : String} {w : World} {journal : UpgradeJournal}

/-- A rollback can put things back from here, with the database restored. -/
structure Unwinds (before : Option String) (journal : UpgradeJournal) (w : World) : Prop where
  safe : Safe before w
  underway : journal.phase.isTerminal = false
  junction : journal.phase.rank < UpgradePhase.treeLaid.rank → w.junction = before
  previous : UpgradePhase.treeLaid.rank ≤ journal.phase.rank →
    journal.previousJunctionTarget = before ∧ before ≠ none
  database : w.database = .preUpgrade

/-- After the flip back: the junction is as before, unless a sub-failure says otherwise. -/
lemma flipBack_wp (h : Unwinds before journal w) : (flipBack journal).wp (watched before owner)
    (Either (fun failures w' => Safe before w' ∧ w'.database = .preUpgrade ∧
      (failures = [] → w'.junction = before)) fun _ => False) w := by
  unfold flipBack
  by_cases hrank : treeLaid.rank ≤ journal.phase.rank
  · rcases h.previous hrank with ⟨hprevious, hsome⟩
    rcases ne_none_iff_exists'.mp hsome with ⟨target, htarget⟩
    rw [hprevious, htarget]
    dsimp only
    rw [if_pos hrank, ← htarget]
    have hflipped : w.after owner (.flipJunction target) = { w with junction := before } := by
      rw [htarget]
      rfl
    have hflip : (ask (.flipJunction target)).wp (watched before owner)
        (Either (fun _ w' => w' = { w with junction := before }) fun w' =>
          Safe before w' ∧ w'.database = .preUpgrade) w := by
      refine ask_split h.safe.1 (fun _ _ _ _ => hflipped) (fun _ _ => ⟨h.safe, h.database⟩) ?_
      intro _ _
      rw [hflipped]
      exact ⟨.flipped_back h.safe.1 rfl, h.database⟩
    refine contained_wp hflip ?_ ?_
    · rintro w' rfl
      exact ⟨.flipped_back h.safe.1 rfl, h.database, fun _ => rfl⟩
    · rintro fault w' ⟨hsafe, hdatabase⟩
      exact ⟨hsafe, hdatabase, by intro hnil; cases hnil⟩
  · -- the tree was not laid, so there is nothing to flip
    have hresult : Safe before w ∧ w.database = .preUpgrade ∧
        (([] : List SubFailure) = [] → w.junction = before) :=
      ⟨h.safe, h.database, fun _ => h.junction (Nat.lt_of_not_le hrank)⟩
    cases journal.previousJunctionTarget with
    | none => exact hresult
    | some target =>
      dsimp only
      rw [if_neg hrank]
      exact hresult

/-- After the release the interlock is not this run's, unless a sub-failure says
otherwise. -/
lemma releaseOwn_wp (hsafe : Safe before w) : (releaseOwn journal).wp (watched before owner)
    (Either (fun failures w' => w'.journal = w.journal ∧ w'.database = w.database ∧
      w'.junction = w.junction ∧ (failures = [] → ∀ record, w'.interlock = some record →
        record.held = true → record.ownerRunId ≠ owner)) fun _ => False) w := by
  unfold releaseOwn
  split
  · have hrelease : (ask .releaseInterlock).wp (watched before owner)
        (Either (fun _ w' => w' = w.after owner .releaseInterlock) fun w' =>
          w'.journal = w.journal ∧ w'.database = w.database ∧ w'.junction = w.junction) w :=
      ask_split hsafe.1 (fun _ _ _ _ => rfl) (fun _ _ => ⟨rfl, rfl, rfl⟩)
        fun _ _ => ⟨rfl, rfl, rfl⟩
    refine contained_wp hrelease ?_ ?_
    · rintro w' rfl
      refine ⟨rfl, rfl, rfl, ?_⟩
      intro _ record hrecord hheld
      rcases map_eq_some_iff.mp hrecord with ⟨held, _, rfl⟩
      cases hheld
    · rintro fault w' ⟨hjournal, hdatabase, hjunction⟩
      exact ⟨hjournal, hdatabase, hjunction, by intro hnil; cases hnil⟩
  · exact ⟨rfl, rfl, rfl, by intro hnil; cases hnil⟩

/-- A rollback without a sub-failure leaves the machine as before. -/
lemma unwind_wp (h : Unwinds before journal w) {reason : Reason} :
    (unwind journal reason).wp (watched before owner) (Post before owner) w := by
  refine wp_seq (flipBack_wp h) ?_ fun _ _ hfalse => hfalse.elim
  rintro flip w₁ ⟨hsafe₁, hdatabase₁, hjunction₁⟩
  refine wp_seq (releaseOwn_wp hsafe₁) ?_ fun _ _ hfalse => hfalse.elim
  rintro release w₂ ⟨hjournal₂, hdatabase₂, hjunction₂, hinterlock₂⟩
  have hsafe₂ : Safe before w₂ := hsafe₁.congr hjournal₂ hdatabase₂ hjunction₂
  have hpersist : (persist journal .rolledBack fun journal =>
      { journal with error := some (.rolledBack reason (flip ++ release)) }).wp
        (watched before owner) (Either (fun journal' w' =>
          journal'.error = some (.rolledBack reason (flip ++ release)) ∧ Safe before w' ∧
            w'.database = w₂.database ∧ w'.junction = w₂.junction ∧
            w'.interlock = w₂.interlock) (Safe before)) w₂ :=
    persist_split hsafe₂.1 h.underway (.inl rfl) rfl ⟨rfl, safe_of_terminal rfl, rfl, rfl, rfl⟩
      (fun _ => hsafe₂) fun _ => safe_of_terminal rfl
  refine wp_seq hpersist ?_ ?_
  · rintro journal' w₃ ⟨herror, hsafe₃, hdatabase₃, hjunction₃, hinterlock₃⟩
    refine ⟨hsafe₃, ?_⟩
    rintro outcome houtcome ⟨_, reason', hclean⟩
    cases houtcome
    -- no sub-failure: both parts did what they should
    have hnil : flip ++ release = [] := by
      rw [herror] at hclean
      simp at hclean
      exact List.append_eq_nil_iff.mpr hclean.2
    rcases List.append_eq_nil_iff.mp hnil with ⟨hflip, hrelease⟩
    refine ⟨?_, ?_, ?_⟩
    · rw [hjunction₃, hjunction₂]
      exact hjunction₁ hflip
    · rw [hdatabase₃, hdatabase₂]
      exact hdatabase₁
    · rw [hinterlock₃]
      exact hinterlock₂ hrelease
  · intro fault w₃ hsafe₃
    exact ⟨hsafe₃, by intro outcome h; cases h⟩

lemma halt_wp (hsafe : Safe before w) (hunderway : journal.phase.isTerminal = false)
    {restoreError : Fault} :
    (halt journal restoreError).wp (watched before owner) (Post before owner) w := by
  have hdocument : (contained (ask .writeRecoveryDocument) .document).wp (watched before owner)
      (Either (fun _ w' => w' = w) fun _ => False) w :=
    contained_wp (K := fun w' => w' = w) (R := fun w' => w' = w)
      (ask_split hsafe.1 (fun _ _ _ _ => rfl) (fun _ _ => rfl) fun _ _ => rfl) (fun _ h => h)
      fun _ _ h => h
  have hstop : (contained (ask .stopService) .stop).wp (watched before owner)
      (Either (fun _ w' => w' = w) fun _ => False) w :=
    contained_wp (K := fun w' => w' = w) (R := fun w' => w' = w)
      (ask_split hsafe.1 (fun _ _ _ _ => rfl) (fun _ _ => rfl) fun _ _ => rfl) (fun _ h => h)
      fun _ _ h => h
  refine wp_seq hdocument ?_ fun _ _ hfalse => hfalse.elim
  rintro document w₁ rfl
  refine wp_seq hstop ?_ fun _ _ hfalse => hfalse.elim
  rintro stop w₂ rfl
  have hpersist : (persist journal .haltedRestoreFailed fun journal =>
      { journal with error := some (.halted restoreError (document ++ stop)) }).wp
        (watched before owner) (Either (fun journal' w' =>
          journal'.phase = .haltedRestoreFailed ∧ Safe before w') (Safe before)) w₂ :=
    persist_split hsafe.1 hunderway (.inl rfl) rfl ⟨rfl, safe_of_terminal rfl⟩ (fun _ => hsafe)
      fun _ => safe_of_terminal rfl
  refine wp_seq hpersist ?_ ?_
  · rintro journal' w₃ ⟨hphase, hsafe₃⟩
    refine ⟨hsafe₃, ?_⟩
    rintro outcome houtcome ⟨hrolled, _⟩
    cases houtcome
    rw [hphase] at hrolled
    cases hrolled
  · intro fault w₃ hsafe₃
    exact ⟨hsafe₃, by intro outcome h; cases h⟩

/-- A rollback can put things back from here. -/
structure Retreat (before : Option String) (journal : UpgradeJournal) (attempting : UpgradePhase)
    (w : World) : Prop where
  safe : Safe before w
  underway : journal.phase.isTerminal = false
  junction : journal.phase.rank < UpgradePhase.treeLaid.rank → w.junction = before
  previous : UpgradePhase.treeLaid.rank ≤ journal.phase.rank →
    journal.previousJunctionTarget = before ∧ before ≠ none
  backup : UpgradePhase.migrated.rank ≤ attempting.rank →
    ∃ backup, journal.backup = some backup ∧ backup.content = .preUpgrade
  database : attempting.rank < UpgradePhase.migrated.rank → w.database = .preUpgrade

lemma rollback_wp {attempting : UpgradePhase} (h : Retreat before journal attempting w)
    (reason : Reason) :
    (rollback journal reason attempting).wp (watched before owner) (Post before owner) w := by
  unfold rollback
  by_cases hmutated : migrated.rank ≤ attempting.rank
  · rw [if_pos hmutated]
    rcases h.backup hmutated with ⟨backup, hbackup, hcontent⟩
    have hrestored : w.after owner (.restoreBackup backup) =
        { w with database := .preUpgrade } := by
      rw [← hcontent]
      rfl
    have hrestore : (restore journal).wp (watched before owner)
        (Either (fun _ w' => w' = { w with database := .preUpgrade }) (Safe before)) w := by
      unfold restore
      rw [hbackup]
      refine ask_split h.safe.1 (fun _ _ _ _ => hrestored) (fun _ _ => h.safe) ?_
      intro _ _
      rw [hrestored]
      exact h.safe.restored
    rw [wp_bind, wp_attempt]
    refine wp_mono ?_ hrestore
    intro r w' hr
    cases r with
    | error restoreError => exact halt_wp hr h.underway
    | ok done =>
      have hr : w' = { w with database := .preUpgrade } := hr
      subst hr
      exact unwind_wp ⟨h.safe.restored, h.underway, h.junction, h.previous, rfl⟩
  · -- the database was never migrated
    rw [if_neg hmutated]
    have hdatabase := h.database (Nat.lt_of_not_le hmutated)
    exact unwind_wp ⟨h.safe, h.underway, h.junction, h.previous, hdatabase⟩

end Retreat

/-! ## The way forward -/

/-- The journal in memory is the one on disk, and it is under way. -/
structure Going (before : Option String) (journal : UpgradeJournal) (w : World) : Prop where
  safe : Safe before w
  disk : w.journal = some journal
  underway : journal.phase.isTerminal = false

section Forward

variable {before : Option String} {owner : String} {w w' : World} {journal : UpgradeJournal}
  {seams : Seams}

variable {attempting : UpgradePhase} {journal' : UpgradeJournal} {phase : UpgradePhase}
  {database : Database}

variable (h : Going before journal w)
include h

lemma Going.sound : journal.Sound before w.database :=
  h.safe.1.journal journal h.disk h.underway

lemma Going.junction
    (hrank : journal.phase.rank < UpgradePhase.treeLaid.rank) : w.junction = before := by
  by_contra hmoved
  refine h.safe.2 ⟨hmoved, ?_⟩
  intro journal' hjournal'
  rw [h.disk] at hjournal'
  cases hjournal'
  exact hrank

/-- From a safe world with the same database and junction a rollback of the next phase
can put things back. -/
lemma Going.retreat (hnext : attempting.rank = journal.phase.rank + 1) (hsafe : Safe before w')
    (hjunction : w'.junction = w.junction)
    (hdatabase : attempting.rank < UpgradePhase.migrated.rank → w'.database = w.database) :
    Retreat before journal attempting w' where
  safe := hsafe
  underway := h.underway
  junction := by
    intro hrank
    rw [hjunction]
    exact h.junction hrank
  previous := h.sound.previous
  backup := by
    intro hmutated
    apply h.sound.backup
    have hranks := ranks
    omega
  database := by
    intro hearly
    rw [hdatabase hearly]
    apply h.sound.database
    have hranks := ranks
    omega

lemma Going.persisted (hrank : journal'.phase.rank = journal.phase.rank + 1)
    (hunderway : journal'.phase.isTerminal = false) (hsound : journal'.Sound before w.database) :
    Going before journal' { w with journal := some journal' } where
  safe := by
    refine ⟨⟨?_, fun hnone => by cases hnone⟩, ?_⟩
    · intro journal'' hjournal _
      cases hjournal
      exact hsound
    · rintro ⟨hmoved, hlow⟩
      have hlow := hlow journal' rfl
      apply hmoved
      apply h.junction
      omega
  disk := rfl
  underway := hunderway

/-- A step that ends by persisting the next boundary, from a world whose junction and
early database are those of the last one. -/
lemma Going.persist_split {update : UpgradeJournal → UpgradeJournal}
    (hupdate : update { journal with phase := phase } = journal') (hphase : journal'.phase = phase)
    (hrank : phase.rank = journal.phase.rank + 1) (hunderway : phase.isTerminal = false)
    (hsound : journal'.Sound before w.database) :
    (persist journal phase update).wp (watched before owner)
      (Either (fun journal' w' => Going before journal' w' ∧ journal'.phase = phase)
        (Retreat before journal phase)) w := by
  have hgoing : Going before journal' { w with journal := some journal' } := by
    apply h.persisted
    · rw [hphase]
      exact hrank
    · rw [hphase]
      exact hunderway
    · exact hsound
  apply Upgrade.persist_split h.safe.1 h.underway (.inr hrank) hupdate
  · exact ⟨hgoing, hphase⟩
  · intro _
    exact h.retreat hrank h.safe rfl fun _ => rfl
  · intro _
    exact h.retreat hrank hgoing.safe rfl fun _ => rfl

lemma Going.congr (hjournal : w'.journal = w.journal) (hdatabase : w'.database = w.database)
    (hjunction : w'.junction = w.junction) : Going before journal w' where
  safe := h.safe.congr hjournal hdatabase hjunction
  disk := by rw [hjournal, h.disk]
  underway := h.underway

/-- A call that changes nothing but the interlock, at the start of a step. -/
lemma Going.ask_split {o : Op}
    {K : o.Res → World → Prop} (hrank : attempting.rank = journal.phase.rank + 1)
    (hquiet : (w.after owner o).journal = w.journal ∧ (w.after owner o).database = w.database ∧
      (w.after owner o).junction = w.junction)
    (hok : ∀ a, w.Shows o a → K a (w.after owner o)) :
    (ask o).wp (watched before owner) (Either K (Retreat before journal attempting)) w := by
  rcases hquiet with ⟨hjournal, hdatabase, hjunction⟩
  refine Upgrade.ask_split h.safe.1 (fun a _ hshows _ => hok a hshows) ?_ ?_
  · intro _ _
    exact h.retreat hrank h.safe rfl fun _ => rfl
  · intro _ _
    exact h.retreat hrank (h.safe.congr hjournal hdatabase hjunction) hjunction fun _ => hdatabase

lemma Going.ask_quiet {o : Op}
    (hrank : attempting.rank = journal.phase.rank + 1) (hquiet : w.after owner o = w) :
    (ask o).wp (watched before owner)
      (Either (fun _ w' => w' = w) (Retreat before journal attempting)) w := by
  refine h.ask_split hrank ?_ fun _ _ => hquiet
  rw [hquiet]
  exact ⟨rfl, rfl, rfl⟩

/-! ### The steps -/

lemma commit_goes (hphase : journal.phase = .healthGreen) :
    (commitSteps journal).wp (watched before owner)
      (Either (fun journal' w' => Post before owner (.ok ⟨journal'.phase, journal'⟩) w')
        (Retreat before journal .complete)) w := by
  have hnext : complete.rank = journal.phase.rank + 1 := by
    rw [hphase]
    rfl
  refine either_bind (K := fun _ w' => Going before journal w') (h.ask_split hnext ?_ ?_) ?_
  · exact ⟨rfl, rfl, rfl⟩
  · intro _ _
    exact h.congr rfl rfl rfl
  · intro _ w₁ h₁
    refine persist_split h₁.safe.1 h₁.underway (.inl rfl) rfl ⟨safe_of_terminal rfl, ?_⟩ ?_ ?_
    · rintro outcome houtcome ⟨hrolled, _⟩
      cases houtcome
      cases hrolled
    · intro _
      exact h₁.retreat hnext h₁.safe rfl fun _ => rfl
    · intro _
      exact h₁.retreat hnext (safe_of_terminal rfl) rfl fun _ => rfl

omit h

/-- What a journal says stays true while only its later boundaries are filled in. -/
lemma UpgradeJournal.Sound.late
    (h : journal.Sound before database) (hrank : UpgradePhase.treeLaid.rank ≤ journal.phase.rank)
    (hlater : journal.phase.rank ≤ journal'.phase.rank) (hbackup : journal'.backup = journal.backup)
    (hprevious : journal'.previousJunctionTarget = journal.previousJunctionTarget) :
    journal'.Sound before database where
  backup := by
    intro _
    rw [hbackup]
    apply h.backup
    have hranks := ranks
    omega
  previous := by
    intro _
    rw [hprevious]
    exact h.previous hrank
  database := by
    intro hlow
    omega

lemma Going.migrated (h : Going before journal w)
    (hrank : UpgradePhase.treeLaid.rank ≤ journal.phase.rank) :
    Going before journal { w with database := .migrated } where
  safe := by
    refine ⟨⟨?_, ?_⟩, h.safe.2⟩
    · intro journal' hjournal' hopen
      have hsame : journal' = journal := some.inj (hjournal'.symm.trans h.disk)
      subst hsame
      exact ⟨h.sound.backup, h.sound.previous, fun hlow => absurd hrank (Nat.not_le_of_lt hlow)⟩
    · intro hnone
      have hnone : w.journal = none := hnone
      rw [h.disk] at hnone
      cases hnone
  disk := h.disk
  underway := h.underway

lemma migrate_goes (h : Going before journal w) (hphase : journal.phase = .treeLaid) :
    (migrateSteps seams journal).wp (watched before owner)
      (Either (fun journal' w' => Going before journal' w' ∧ journal'.phase = .migrated)
        (Retreat before journal .migrated)) w := by
  have hnext : migrated.rank = journal.phase.rank + 1 := by
    rw [hphase]
    rfl
  have hrank : treeLaid.rank ≤ journal.phase.rank := Nat.le_of_eq (congrArg rank hphase).symm
  have hmigrated := h.migrated hrank
  refine either_bind (K := fun _ w' => Going before journal w') ?_ ?_
  · refine ask_split h.safe.1 (fun _ _ _ _ => hmigrated) ?_ ?_
    · intro _ _
      exact h.retreat hnext h.safe rfl fun _ => rfl
    · intro _ _
      exact h.retreat hnext hmigrated.safe rfl fun hearly => absurd hearly (Nat.lt_irrefl _)
  · intro _ w₁ h₁
    refine either_bind (h₁.ask_quiet hnext rfl) ?_
    rintro postRevision w₂ rfl
    have hback := h₁.retreat hnext h₁.safe rfl fun _ => rfl
    refine either_bind (verifyHead_wp (h₁.ask_quiet hnext rfl) hback) ?_
    rintro _ w₃ rfl
    refine h₁.persist_split rfl rfl hnext rfl ?_
    exact h₁.sound.late hrank (by show _ ≤ migrated.rank; omega) rfl rfl

/-- The junction has been read; the journal on disk does not have it yet. -/
def Seen (before : Option String) (journal : UpgradeJournal) (w : World) : Prop :=
  ∃ disk, Going before disk w ∧ journal = { disk with previousJunctionTarget := before }

/-- The previous target is in the journal before the flip, and the flip is followed by
the write that records it. -/
lemma flip_goes (h : Seen before journal w) (hphase : journal.phase = .backupVerified) :
    (flipSteps journal).wp (watched before owner)
      (Either (fun journal' w' => Going before journal' w' ∧ journal'.phase = .treeLaid)
        (Retreat before journal .treeLaid)) w := by
  rcases h with ⟨journal, h, rfl⟩
  have hphase : journal.phase = .backupVerified := hphase
  have hlow : journal.phase.rank < treeLaid.rank := by
    rw [hphase]
    decide
  have hunlaid : ¬ treeLaid.rank ≤ journal.phase.rank := Nat.not_le_of_lt hlow
  have hjunction := h.junction hlow
  have hdatabase := h.sound.database hlow
  have hretreat : ∀ w', Safe before w' → w'.junction = before →
      w'.database = .preUpgrade → Retreat before
        { journal with previousJunctionTarget := before } .treeLaid w' := by
    intro w' hsafe hjunction' hdatabase'
    exact ⟨hsafe, h.underway, fun _ => hjunction', fun hhigh => absurd hhigh hunlaid,
      fun hmutated => absurd hmutated (by decide), fun _ => hdatabase'⟩
  have hrecorded : Going before { journal with previousJunctionTarget := before }
      { w with journal := some { journal with previousJunctionTarget := before } } := by
    refine ⟨⟨⟨?_, fun hnone => by cases hnone⟩, fun hexposed => hexposed.1 hjunction⟩, rfl,
      h.underway⟩
    intro journal' hjournal' _
    cases hjournal'
    exact ⟨h.sound.backup, fun hhigh => absurd hhigh hunlaid, h.sound.database⟩
  refine either_bind (K := fun _ w' => w' =
    { w with journal := some { journal with previousJunctionTarget := before } }) ?_ ?_
  · refine ask_split h.safe.1 (fun _ _ _ _ => rfl) ?_ ?_
    · intro _ _
      exact hretreat w h.safe hjunction hdatabase
    · intro _ _
      exact hretreat _ hrecorded.safe hjunction hdatabase
  rintro _ w₁ rfl
  have hstays := hretreat _ hrecorded.safe hjunction hdatabase
  refine either_bind (K := fun _ w' => w' =
    { w with journal := some { journal with previousJunctionTarget := before } }) ?_ ?_
  · exact ask_split hrecorded.safe.1 (fun _ _ _ _ => rfl) (fun _ _ => hstays) fun _ _ => hstays
  rintro newTarget w₂ rfl
  refine either_bind (K := fun _ w' => before ≠ none ∧ w' =
    { w with
      journal := some { journal with previousJunctionTarget := before }
      junction := some newTarget }) ?_ ?_
  · refine ask_split hrecorded.safe.1 (fun _ _ _ hsome => ⟨hsome, rfl⟩) (fun _ _ => hstays) ?_
    intro _ hpromised
    have heq : some newTarget = before := hpromised rfl
    exact hretreat _ (.flipped_back hrecorded.safe.1 heq) heq hdatabase
  rintro _ w₃ ⟨hsome, rfl⟩
  have hlaid : Going before
      { journal with
        phase := .treeLaid
        previousJunctionTarget := before
        newJunctionTarget := some newTarget }
      { w with
        journal := some { journal with
          phase := .treeLaid
          previousJunctionTarget := before
          newJunctionTarget := some newTarget }
        junction := some newTarget } := by
    refine ⟨⟨⟨?_, fun hnone => by cases hnone⟩, ?_⟩, rfl, rfl⟩
    · intro journal' hjournal' _
      cases hjournal'
      refine ⟨fun _ => h.sound.backup (by rw [hphase]), fun _ => ⟨rfl, hsome⟩, ?_⟩
      intro hbefore
      exact absurd hbefore (Nat.lt_irrefl _)
    · rintro ⟨_, hbefore⟩
      exact absurd (hbefore _ rfl) (Nat.lt_irrefl _)
  -- The flip is not recorded yet: unless it went nowhere, this write returns.
  refine persist_split (hrecorded.safe.1.congr rfl rfl) h.underway (.inr ?_) rfl ⟨hlaid, rfl⟩ ?_ ?_
  · rw [hphase]
    rfl
  · intro hsame
    have heq : some newTarget = before := hsame rfl
    exact hretreat _ (.flipped_back hrecorded.safe.1 heq) heq hdatabase
  · intro hsame
    exact hretreat _ hlaid.safe (hsame rfl) hdatabase

/-- What an early journal says stays true at the next early boundary. -/
lemma UpgradeJournal.Sound.early
    (h : journal.Sound before database) (hrank : journal.phase.rank < UpgradePhase.treeLaid.rank)
    (hrank' : journal'.phase.rank < UpgradePhase.treeLaid.rank)
    (hbackup : UpgradePhase.backupVerified.rank ≤ journal'.phase.rank →
      ∃ backup, journal'.backup = some backup ∧ backup.content = .preUpgrade) :
    journal'.Sound before database where
  backup := hbackup
  previous := fun hhigh => absurd hhigh (Nat.not_le_of_lt hrank')
  database := fun _ => h.database hrank

lemma Going.persist_early (h : Going before journal w) (hrank : phase.rank = journal.phase.rank + 1)
    (hearly : phase.rank < UpgradePhase.backupVerified.rank) :
    (persist journal phase id).wp (watched before owner)
      (Either (fun journal' w' => Going before journal' w' ∧ journal'.phase = phase)
        (Retreat before journal phase)) w := by
  have hranks := ranks
  have hopen : phase.isTerminal = false := by
    cases phase <;> revert hearly <;> decide
  refine h.persist_split rfl rfl hrank hopen (h.sound.early (by omega) ?_ ?_)
  · exact Nat.lt_trans hearly (by decide)
  · exact fun hhigh => absurd hhigh (Nat.not_le_of_lt hearly)

lemma going_course : Course (watched before owner) (Going before) (Seen before)
    (fun attempting journal => Retreat before journal attempting) (Post before owner) where
  underway h := h.underway
  acquire h hphase := by
    have hnext : interlockAcquired.rank = _ + 1 := congrArg (·.rank + 1) hphase.symm
    refine either_bind (K := fun _ w' => Going before _ w')
      (h.ask_split hnext ⟨rfl, rfl, rfl⟩ fun _ _ => h.congr rfl rfl rfl) ?_
    intro _ w₁ h₁
    exact h₁.persist_early hnext (by decide)
  drain h hphase := by
    have hnext : writersDrained.rank = _ + 1 := congrArg (·.rank + 1) hphase.symm
    refine either_bind (h.ask_quiet hnext rfl) ?_
    rintro drained w₁ rfl
    split
    · exact h.retreat hnext h.safe rfl fun _ => rfl
    · exact h.persist_early hnext (by decide)
  backUp {journal w} h hphase := by
    have hnext : backupVerified.rank = _ + 1 := congrArg (·.rank + 1) hphase.symm
    have hearly : journal.phase.rank < treeLaid.rank := by
      rw [hphase]
      decide
    refine either_bind (K := fun backup w' => backup.content = .preUpgrade ∧ w' = w) ?_ ?_
    · refine h.ask_split hnext ⟨rfl, rfl, rfl⟩ ?_
      intro backup hshows
      have hshows : backup.content = w.database := hshows
      exact ⟨hshows.trans (h.sound.database hearly), rfl⟩
    · rintro backup w₁ ⟨hcontent, rfl⟩
      split
      · refine h.persist_split rfl rfl hnext rfl ?_
        have hbefore : backupVerified.rank < treeLaid.rank := by decide
        exact h.sound.early hearly hbefore fun _ => ⟨backup, rfl, hcontent⟩
      · exact h.retreat hnext h.safe rfl fun _ => rfl
  -- the junction has not moved, so its target is the previous tree
  look {journal w} h hphase := by
    have hnext : treeLaid.rank = _ + 1 := congrArg (·.rank + 1) hphase.symm
    refine h.ask_split hnext ⟨rfl, rfl, rfl⟩ ?_
    intro target hshows
    have hshows : target = w.junction := hshows
    refine ⟨journal, h, ?_⟩
    rw [hshows, h.junction (by rw [hphase]; decide)]
  flip h hphase := flip_goes h hphase
  migrate seams h hphase := migrate_goes h hphase
  health {journal w} h hphase := by
    have hnext : healthGreen.rank = _ + 1 := congrArg (·.rank + 1) hphase.symm
    refine either_bind (h.ask_quiet hnext rfl) ?_
    rintro green w₁ rfl
    split
    · exact h.retreat hnext h.safe rfl fun _ => rfl
    · refine h.persist_split rfl rfl hnext rfl (h.sound.late ?_ ?_ rfl rfl)
      · rw [hphase]
        decide
      · show _ ≤ healthGreen.rank
        omega
  commit h hphase := commit_goes h hphase
  raised fault h := ⟨h.safe, by intro outcome hr; cases hr⟩
  back reason h := rollback_wp h reason

/-! ### The start -/

lemma Going.begun (hinit : journal.phase = .init) (hjunction : w.junction = before)
    (hdatabase : w.database = .preUpgrade) :
    Going before journal { w with journal := some journal } where
  safe := by
    refine ⟨⟨?_, fun hnone => by cases hnone⟩, fun hexposed => hexposed.1 hjunction⟩
    intro journal' hjournal' _
    cases hjournal'
    refine ⟨?_, ?_, fun _ => hdatabase⟩
    · intro hhigh
      rw [hinit] at hhigh
      exact absurd hhigh (by decide)
    · intro hhigh
      rw [hinit] at hhigh
      exact absurd hhigh (by decide)
  disk := rfl
  underway := by rw [hinit]; rfl

lemma wp_post_iff {p : UpgradeM UpgradeOutcome} : p.wp (watched before owner)
    (Post before owner) w ↔ p.wp (watched before owner)
      (Either (fun outcome w' => Post before owner (.ok outcome) w') (Safe before)) w := by
  constructor
  · refine wp_mono ?_
    intro r w' hr
    cases r with
    | ok outcome => exact hr
    | error fault => exact hr.1
  · refine wp_mono ?_
    intro r w' hr
    cases r with
    | ok outcome => exact hr
    | error fault => exact ⟨hr, by intro outcome h; cases h⟩

lemma Safe.fresh (h : Safe before w) (hnone : w.journal = none) :
    w.junction = before ∧ w.database = .preUpgrade := by
  refine ⟨?_, h.1.fresh hnone⟩
  by_contra hmoved
  refine h.2 ⟨hmoved, ?_⟩
  intro journal hjournal
  rw [hnone] at hjournal
  cases hjournal

lemma beginUpgrade_wp (plan : UpgradePlan) (context : UpgradeContext) (hsafe : Safe before w)
    (hjunction : w.junction = before) (hdatabase : w.database = .preUpgrade) :
    (beginUpgrade plan context seams).wp (watched before owner) (Post before owner) w := by
  have hbegun : ∀ {w₁ : World} {journal : UpgradeJournal}, journal.phase = .init →
      w₁.junction = before → w₁.database = .preUpgrade → Safe before w₁ →
      (ask (.writeJournal journal)).wp (watched before owner) (Either (fun _ w' =>
        Going before journal w' ∧ w'.junction = before ∧ w'.database = .preUpgrade)
          (Safe before)) w₁ := by
    intro w₁ journal hinit hjunction₁ hdatabase₁ hsafe₁
    have hgoing := Going.begun hinit hjunction₁ hdatabase₁
    exact ask_split hsafe₁.1 (fun _ _ _ _ => ⟨hgoing, hjunction₁, hdatabase₁⟩)
      (fun _ _ => hsafe₁) fun _ _ => hgoing.safe
  apply wp_post_iff.mpr
  unfold beginUpgrade
  split
  · refine either_bind (K := fun journal' w' => journal'.phase = .refusedNonRestorable ∧
      Safe before w') ?_ ?_
    · exact persist_split hsafe.1 rfl (.inl rfl) rfl ⟨rfl, safe_of_terminal rfl⟩ (fun _ => hsafe)
        fun _ => safe_of_terminal rfl
    · -- refused: the outcome is not a rollback
      rintro journal' w' ⟨hphase, hsafe'⟩
      refine ⟨hsafe', ?_⟩
      rintro outcome houtcome ⟨hrolled, _⟩
      cases houtcome
      rw [hphase] at hrolled
      cases hrolled
  · refine either_bind (hbegun rfl hjunction hdatabase hsafe) ?_
    rintro _ w₁ ⟨hgoing₁, hjunction₁, hdatabase₁⟩
    refine either_bind (K := fun _ w' => w' = w₁) ?_ ?_
    · exact ask_split hgoing₁.safe.1 (fun _ _ _ _ => rfl) (fun _ _ => hgoing₁.safe)
        fun _ _ => hgoing₁.safe
    · rintro preRevision w₂ rfl
      refine either_bind (hbegun rfl hjunction₁ hdatabase₁ hgoing₁.safe) ?_
      rintro _ w₃ ⟨hgoing₃, _, _⟩
      exact wp_post_iff.mp (going_course.driveForward_wp hgoing₃)

/-- One run of the upgrade, resumed or fresh, keeps the worlds safe and leaves the
machine as before if it returns a clean rollback. -/
lemma runUpgrade_wp {setup : Setup} (hsafe : Safe before w)
    (hopen : ∀ journal, w.journal = some journal → journal.phase = .complete →
      w.junction = before ∧ w.database = .preUpgrade) :
    setup.run.wp (watched before owner) (Post before owner) w := by
  apply wp_post_iff.mpr
  refine either_bind (K := fun existing w' => existing = w.journal ∧ w' = w) ?_ ?_
  · exact ask_split hsafe.1 (fun _ _ hshows _ => ⟨hshows, rfl⟩) (fun _ _ => hsafe) fun _ _ => hsafe
  · rintro existing w₁ ⟨hexisting, rfl⟩
    apply wp_post_iff.mp
    cases existing with
    | none =>
      obtain ⟨hjunction, hdatabase⟩ := hsafe.fresh hexisting.symm
      exact beginUpgrade_wp _ _ hsafe hjunction hdatabase
    | some existing =>
      dsimp only
      by_cases hunderway : existing.phase.isTerminal = false
      · rw [if_pos hunderway]
        exact going_course.driveForward_wp ⟨hsafe, hexisting.symm, hunderway⟩
      · rw [if_neg hunderway]
        by_cases hcomplete : existing.phase = .complete
        · -- an earlier upgrade is complete, and this one starts
          rw [if_neg (not_not.mpr hcomplete)]
          obtain ⟨hjunction, hdatabase⟩ := hopen existing hexisting.symm hcomplete
          exact beginUpgrade_wp _ _ hsafe hjunction hdatabase
        · rw [if_pos hcomplete]
          refine ⟨hsafe, ?_⟩
          rintro outcome houtcome ⟨hrolled, _⟩
          cases houtcome
          cases hrolled

end Forward

/-! ## Whole histories -/

/-- A complete journal, while the upgrade is not committed, is that of an earlier one. -/
lemma World.Untouched.of_uncommitted {w₀ w : World} (huntouched : w₀.Untouched)
    (hopen : w₀.Uncommitted w) (journal : UpgradeJournal) (hjournal : w.journal = some journal)
    (hcomplete : journal.phase = .complete) :
    w.junction = w₀.junction ∧ w.database = .preUpgrade := by
  rcases hopen with rfl | hopen
  · exact ⟨rfl, huntouched.database⟩
  · exact absurd hcomplete (hopen journal hjournal)

lemma History.safe {setup : Setup} {w₀ w : World} (huntouched : w₀.Untouched)
    (h : History setup (FlipRecorded w₀.junction) (fun w => ¬ Exposed w₀.junction w) w₀ w) :
    Safe w₀.junction w := by
  induction h with
  | start =>
    refine ⟨⟨?_, fun _ => huntouched.database⟩, fun hexposed => hexposed.1 rfl⟩
    intro journal hjournal hunderway
    rw [huntouched.journal journal hjournal] at hunderway
    cases hunderway
  | ended _ hopen r hrun ih =>
    exact (hrun.post (wp_of_watch (runUpgrade_wp ih (huntouched.of_uncommitted hopen)))).1
  | killed _ hopen hrun hdie ih =>
    exact ⟨hrun.holds (fun _ _ hpost => hpost.1.1)
      (runUpgrade_wp ih (huntouched.of_uncommitted hopen)), hdie⟩

/-- In every history in which no failure and no kill falls between a flip and its
record, a clean rollback leaves the machine as it was before the upgrade. -/
theorem rolled_back_when_recorded (setup : Setup) {w₀ w w' : World} (huntouched : w₀.Untouched)
    (h : History setup (FlipRecorded w₀.junction) (fun w => ¬ Exposed w₀.junction w) w₀ w)
    (hopen : w₀.Uncommitted w) {outcome : UpgradeOutcome}
    (hrun : Exec (World.machine setup.context.ownerRunId (FlipRecorded w₀.junction)) setup.run w
      (.ok outcome) w') (hclean : outcome.RolledBackCleanly) :
    w₀.Reverted setup.context.ownerRunId w' := by
  have hpost := hrun.post (wp_of_watch
    (runUpgrade_wp (h.safe huntouched) (huntouched.of_uncommitted hopen)))
  rcases hpost.2 outcome rfl hclean with ⟨hjunction, hdatabase, hinterlock⟩
  exact ⟨hjunction, hdatabase, hinterlock⟩

/-! ### Two runs -/

/-- An upgrade from 1.0 to 2.0. -/
def toTwo : Setup where
  plan := {
    oldVersion := "1.0"
    newVersion := "2.0"
    migrationRestorable := true
    operatorAck := none }
  context := { stateRoot := "state", ownerRunId := "run-1" }
  seams := { filesystemRollback := true, hasExpectedSchemaHead := false }

def atOne : World where
  journal := none
  junction := some "versions/1.0"
  database := .preUpgrade
  interlock := none

lemma atOne_untouched : atOne.Untouched := by
  refine ⟨?_, rfl⟩
  intro journal hjournal
  cases hjournal

lemma failed_migration_run : ∃ outcome w',
    Exec (World.machine "run-1" (FlipRecorded atOne.junction)) toTwo.run atOne (.ok outcome) w' ∧
      outcome.RolledBackCleanly := by
  refine ⟨?outcome, ?after, ?run, ?clean⟩
  case run =>
    -- The journal of a fresh upgrade, then the first three steps.
    refine .call (.ok none) ⟨⟨trivial, rfl⟩, trivial⟩ ?_
    refine .call (.ok ()) ⟨⟨trivial, trivial⟩, trivial⟩ ?_
    refine .call (.ok (some "0041")) ⟨⟨trivial, trivial⟩, trivial⟩ ?_
    refine .call (.ok ()) ⟨⟨trivial, trivial⟩, trivial⟩ ?_
    refine .call (.ok ()) ⟨⟨by rintro _ ⟨⟩, trivial⟩, trivial⟩ ?_
    refine .call (.ok ()) ⟨⟨trivial, trivial⟩, trivial⟩ ?_
    refine .call (.ok true) ⟨⟨trivial, trivial⟩, trivial⟩ ?_
    refine .call (.ok ()) ⟨⟨trivial, trivial⟩, trivial⟩ ?_
    refine .call (.ok ⟨"backups", true, true, [], .preUpgrade⟩) ⟨⟨trivial, rfl⟩, trivial⟩ ?_
    refine .call (.ok ()) ⟨⟨trivial, trivial⟩, trivial⟩ ?_
    -- The tree, and the record of the flip.
    refine .call (.ok (some "versions/1.0")) ⟨⟨trivial, rfl⟩, trivial⟩ ?_
    refine .call (.ok ()) ⟨⟨trivial, trivial⟩, trivial⟩ ?_
    refine .call (.ok "versions/2.0") ⟨⟨trivial, trivial⟩, trivial⟩ ?_
    refine .call (.ok ()) ⟨⟨trivial, trivial⟩, by rintro ⟨⟩⟩ ?_
    refine .call (.ok ()) ⟨⟨trivial, trivial⟩, trivial⟩ ?_
    -- The migration, and the way back: restore, flip, release, record.
    refine .call (.failed (.operational (.raised "migrate")) true) ⟨fun _ => trivial, trivial⟩ ?_
    refine .call (.ok ()) ⟨⟨trivial, trivial⟩, trivial⟩ ?_
    refine .call (.ok ()) ⟨⟨trivial, trivial⟩, by rintro ⟨⟩⟩ ?_
    refine .call (.ok ()) ⟨⟨⟨_, rfl, .inr rfl⟩, trivial⟩, trivial⟩ ?_
    refine .call (.ok ()) ⟨⟨trivial, trivial⟩, trivial⟩ ?_
    exact .ret _ _
  case clean => exact ⟨rfl, _, rfl⟩

theorem failed_migration_reverted : ∃ outcome w',
    Exec (World.machine "run-1" (FlipRecorded atOne.junction)) toTwo.run atOne (.ok outcome) w' ∧
      outcome.RolledBackCleanly ∧ atOne.Reverted "run-1" w' := by
  rcases failed_migration_run with ⟨outcome, w', hrun, hclean⟩
  have hreverted := rolled_back_when_recorded toTwo atOne_untouched .start (.inl rfl) hrun hclean
  exact ⟨outcome, w', hrun, hclean, hreverted⟩

/-- The write of the `treeLaid` journal fails: the rollback takes the tree for not laid,
skips the flip back and reports no sub-failure, and the junction names the new tree. -/
theorem unrecorded_flip_stays : ¬ ∀ (setup : Setup) (w₀ w w' : World) (outcome : UpgradeOutcome),
    setup.seams.filesystemRollback = true → w₀.Untouched →
    History setup (fun _ _ => True) (fun _ => True) w₀ w → w₀.Uncommitted w →
    Exec (World.machine setup.context.ownerRunId fun _ _ => True) setup.run w (.ok outcome) w' →
    outcome.RolledBackCleanly → w₀.Reverted setup.context.ownerRunId w' := by
  intro hall
  have hrun : ∃ outcome w', Exec (World.machine "run-1" fun _ _ => True) toTwo.run atOne
      (.ok outcome) w' ∧ outcome.RolledBackCleanly ∧ w'.junction = some "versions/2.0" := by
    refine ⟨?outcome, ?after, ?run, ?clean, ?junction⟩
    case run =>
      refine .call (.ok none) ⟨⟨trivial, rfl⟩, trivial⟩ ?_
      refine .call (.ok ()) ⟨⟨trivial, trivial⟩, trivial⟩ ?_
      refine .call (.ok (some "0041")) ⟨⟨trivial, trivial⟩, trivial⟩ ?_
      refine .call (.ok ()) ⟨⟨trivial, trivial⟩, trivial⟩ ?_
      refine .call (.ok ()) ⟨⟨by rintro _ ⟨⟩, trivial⟩, trivial⟩ ?_
      refine .call (.ok ()) ⟨⟨trivial, trivial⟩, trivial⟩ ?_
      refine .call (.ok true) ⟨⟨trivial, trivial⟩, trivial⟩ ?_
      refine .call (.ok ()) ⟨⟨trivial, trivial⟩, trivial⟩ ?_
      refine .call (.ok ⟨"backups", true, true, [], .preUpgrade⟩) ⟨⟨trivial, rfl⟩, trivial⟩ ?_
      refine .call (.ok ()) ⟨⟨trivial, trivial⟩, trivial⟩ ?_
      refine .call (.ok (some "versions/1.0")) ⟨⟨trivial, rfl⟩, trivial⟩ ?_
      refine .call (.ok ()) ⟨⟨trivial, trivial⟩, trivial⟩ ?_
      refine .call (.ok "versions/2.0") ⟨⟨trivial, trivial⟩, trivial⟩ ?_
      refine .call (.ok ()) ⟨⟨trivial, trivial⟩, trivial⟩ ?_
      -- The write that would have recorded the flip.
      refine .call (.failed (.operational (.raised "disk full")) false) ⟨by rintro ⟨⟩, trivial⟩ ?_
      refine .call (.ok ()) ⟨⟨⟨_, rfl, .inr rfl⟩, trivial⟩, trivial⟩ ?_
      refine .call (.ok ()) ⟨⟨trivial, trivial⟩, trivial⟩ ?_
      exact .ret _ _
    case clean => exact ⟨rfl, _, rfl⟩
    case junction => rfl
  rcases hrun with ⟨outcome, w', hexec, hclean, hjunction⟩
  have hreverted := hall toTwo atOne atOne w' outcome rfl atOne_untouched .start (.inl rfl) hexec
    hclean
  have hsame : w'.junction = some "versions/1.0" := hreverted.junction
  rw [hjunction] at hsame
  exact absurd hsame (by decide)

end CivicCast.Upgrade
