import CivicCast.Upgrade.Rollback

/-! # The ledger of an upgrade

What is asked of an upgrade is not all on the machine: whether the interlock
was released since it was acquired, what last changed the database, which trees were
laid, which phases came to the disk. A `Ledger` is the machine with a register for each.

A history is any number of runs over one state root, each with a setup of its own; every
run returns, or is cut short where it stands. A run that raises is one of these: it is
cut short in the world it raises in.
-/

namespace CivicCast.Upgrade

open Lib Lib.Prog

/-! ## Registers -/

/-- What an upgrade does to the database. -/
inductive Mutation where
  | migration
  | restore
deriving DecidableEq

structure Ledger where
  world : World
  /-- The interlock was acquired, and no release has taken effect since. -/
  holds : Bool
  /-- The last change to the database. -/
  lastMutation : Option Mutation
  /-- The trees that were laid: version and target. -/
  trees : List (String × String)
  /-- The phases that came to the disk, in order. A journal rewritten in the phase it is in
  adds none. -/
  persisted : List UpgradePhase
deriving DecidableEq

namespace Ledger

/-- A state root on which no upgrade has begun. -/
def blank (w : World) : Ledger where
  world := w
  holds := false
  lastMutation := none
  trees := []
  persisted := []

def notePhase (phase : UpgradePhase) (persisted : List UpgradePhase) : List UpgradePhase :=
  if persisted.getLast? = some phase then persisted else persisted ++ [phase]

variable (owner : String)

def after (l : Ledger) (o : Op) : Ledger :=
  let l := { l with world := l.world.after owner o }
  match o with
  | .acquireInterlock => { l with holds := true }
  | .releaseInterlock => { l with holds := false }
  | .migrate => { l with lastMutation := some .migration }
  | .restoreBackup _ => { l with lastMutation := some .restore }
  | .writeJournal journal => { l with persisted := notePhase journal.phase l.persisted }
  | _ => l

def noteTree (l : Ledger) : (o : Op) → o.Res → Ledger
  | .layTree version, target => { l with trees := (version, target) :: l.trees }
  | _, _ => l

def next (l : Ledger) (o : Op) : Reply o.Res → Ledger
  | .ok a => (l.after owner o).noteTree o a
  | .failed _ landed => if landed then l.after owner o else l

/-- The machine, with the replies that satisfy `promised` only. -/
def machine (promised : (o : Op) → Reply o.Res → Prop) : Machine upgradeIface Ledger where
  pre := fun _ _ => True
  legal := fun l o reply => l.world.Replies owner o reply ∧ promised o reply
  next := fun l o reply => l.next owner o reply

/-- The call changes nothing that is on the ledger. -/
def Quiet : Op → Prop
  | .loadJournal => True
  | .schemaRevision => True
  | .drainAndVerifyQuiescence => True
  | .backup _ => True
  | .readJunction => True
  | .expectedSchemaHead => True
  | .healthGate => True
  | .writeRecoveryDocument => True
  | .stopService => True
  | _ => False

variable {owner} {l : Ledger}

lemma after_quiet {o : Op} (h : Quiet o) : l.after owner o = l := by
  cases o with
  | writeJournal | acquireInterlock | layTree | flipJunction | migrate | releaseInterlock
  | restoreBackup => exact h.elim
  | _ => rfl

lemma noteTree_quiet {o : Op} (h : Quiet o) (a : o.Res) : l.noteTree o a = l := by
  cases o with
  | layTree => exact h.elim
  | _ => rfl

/-- No journal is under way. -/
def Closed (l : Ledger) : Prop :=
  ∀ j, l.world.journal = some j → j.phase.isTerminal = true

lemma closed_write {owner : String} {j : UpgradeJournal}
    (h : j.phase.isTerminal = true) : (l.after owner (.writeJournal j)).Closed := by
  intro j' hj'
  cases hj'
  exact h

/-! ## Histories -/

/-- The ledgers that runs of `run_upgrade` on one state root lead to. A run can be cut
short where `mayStop` holds. -/
inductive Reached (promised : (o : Op) → Reply o.Res → Prop) (mayStop : Ledger → Prop)
    (l₀ : Ledger) : Ledger → Prop where
  | start : Reached promised mayStop l₀ l₀
  | returned {l l' : Ledger} (h : Reached promised mayStop l₀ l) (setup : Setup)
      {outcome : UpgradeOutcome}
      (hrun : Exec (machine setup.context.ownerRunId promised) setup.run l (.ok outcome) l') :
      Reached promised mayStop l₀ l'
  | cutShort {l l' : Ledger} (h : Reached promised mayStop l₀ l) (setup : Setup)
      (hrun : Visits (machine setup.context.ownerRunId promised) setup.run l l')
      (hstop : mayStop l') : Reached promised mayStop l₀ l'

end Ledger

/-! ## Rules -/

section Rules

variable {owner : String} {promised : (o : Op) → Reply o.Res → Prop}
  {φ : Ledger → Op → Prop} {l : Ledger} {journal : UpgradeJournal} {R : Ledger → Prop}

/-- The machine that demands `φ` of every call. -/
abbrev guarded (owner : String) (promised : (o : Op) → Reply o.Res → Prop)
    (φ : Ledger → Op → Prop) : Machine upgradeIface Ledger :=
  (Ledger.machine owner promised).guard φ

lemma ask_either {o : Op} {K : o.Res → Ledger → Prop} (hpre : φ l o)
    (hok : ∀ a, l.world.CanAct owner o → l.world.Shows o a → promised o (.ok a) →
      K a ((l.after owner o).noteTree o a))
    (hstays : ∀ fault, promised o (.failed fault false) → R l)
    (hlands : ∀ fault, promised o (.failed fault true) → R (l.after owner o)) :
    (ask o).wp (guarded owner promised φ) (Either K R) l := by
  refine ⟨⟨trivial, hpre⟩, ?_⟩
  intro reply hreply
  rcases hreply with ⟨hreply, hpromised⟩
  cases reply with
  | ok a => exact hok a hreply.1 hreply.2 hpromised
  | failed fault landed =>
    cases landed with
    | false => exact hstays fault hpromised
    | true => exact hlands fault hpromised

lemma ask_quiet {o : Op} (ho : Ledger.Quiet o) (hpre : φ l o) (hR : R l) :
    (ask o).wp (guarded owner promised φ)
      (Either (fun a l' => l.world.Shows o a ∧ l' = l) R) l := by
  refine ask_either hpre ?_ (fun _ _ => hR) ?_
  · intro a _ hshows _
    refine ⟨hshows, ?_⟩
    rw [Ledger.after_quiet ho, Ledger.noteTree_quiet ho]
  · intro _ _
    rw [Ledger.after_quiet ho]
    exact hR

lemma persist_either {phase : UpgradePhase} {update : UpgradeJournal → UpgradeJournal}
    {next : UpgradeJournal} {K : UpgradeJournal → Ledger → Prop}
    (hpre : φ l (.writeJournal next)) (hopen : journal.phase.isTerminal = false)
    (hphase : phase.isTerminal = true ∨ phase.rank = journal.phase.rank + 1)
    (hnext : update { journal with phase := phase } = next)
    (hok : K next (l.after owner (.writeJournal next)))
    (hstays : ∀ fault, promised (.writeJournal next) (.failed fault false) → R l)
    (hlands : ∀ fault, promised (.writeJournal next) (.failed fault true) →
      R (l.after owner (.writeJournal next))) :
    (persist journal phase update).wp (guarded owner promised φ) (Either K R) l :=
  persist_wp hopen hphase hnext (ask_either hpre (fun _ _ _ _ => hok) hstays hlands)

lemma contained_either {step : UpgradeM Unit} {failure : Fault → SubFailure} {K : Ledger → Prop}
    (hstep : step.wp (guarded owner promised φ) (Either (fun _ => K) K) l) :
    (contained step failure).wp (guarded owner promised φ) (Either (fun _ => K) R) l :=
  contained_wp hstep (fun _ h => h) fun _ _ h => h

end Rules

/-! ## The two ends of a run -/

/-- The plan may be carried out without asking. -/
def UpgradePlan.Consented (plan : UpgradePlan) : Prop :=
  plan.migrationRestorable = false → (plan.operatorAck.getD "").isEmpty = false

/-- What a run needs to get on its course, whichever journal it finds. -/
structure Launch (owner : String) (promised : (o : Op) → Reply o.Res → Prop)
    (φ : Ledger → Op → Prop) (At : UpgradeJournal → Ledger → Prop)
    (Q : Except Fault UpgradeOutcome → Ledger → Prop) (l : Ledger) : Prop where
  load : φ l .loadJournal
  raised : ∀ fault, Q (.error fault) l
  resumes : ∀ j, l.world.journal = some j → j.phase.isTerminal = false → At j l
  stale : ∀ j, l.world.journal = some j → j.phase.isTerminal = true →
    Q (.ok ⟨.refusedStaleJournal, { j with
      phase := .refusedStaleJournal, error := some (.staleJournal j.phase) }⟩) l
  refuses : ∀ j : UpgradeJournal, j.phase = .refusedNonRestorable →
    (l.world.journal = none ∨ ∃ d, l.world.journal = some d ∧ d.phase = .complete) →
    φ l (.writeJournal j) ∧ (∀ fault, Q (.error fault) (l.after owner (.writeJournal j))) ∧
    Q (.ok ⟨j.phase, j⟩) (l.after owner (.writeJournal j))
  begins : ∀ j : UpgradeJournal, j.plan.Consented → j.phase = .init →
    (l.world.journal = none ∨ ∃ d, l.world.journal = some d ∧ d.phase = .complete) →
    φ l (.writeJournal j) ∧ At j (l.after owner (.writeJournal j))
  notes : ∀ {j l'} (revision : Option String), At j l' → j.phase = .init →
    φ l' .schemaRevision ∧ φ l' (.writeJournal { j with preSchemaRevision := revision }) ∧
    At { j with preSchemaRevision := revision }
      (l'.after owner (.writeJournal { j with preSchemaRevision := revision }))
  fails : ∀ {j l'} (fault : Fault), At j l' → Q (.error fault) l'

section Ends

variable {owner : String} {promised : (o : Op) → Reply o.Res → Prop} {φ : Ledger → Op → Prop}
  {At Seen : UpgradeJournal → Ledger → Prop}
  {Back : UpgradePhase → UpgradeJournal → Ledger → Prop}
  {Q : Except Fault UpgradeOutcome → Ledger → Prop} {l : Ledger}

lemma wp_of_either {p : UpgradeM UpgradeOutcome} {M : Machine upgradeIface Ledger}
    (h : p.wp M (Either (fun outcome l' => Q (.ok outcome) l')
      fun l' => ∀ fault, Q (.error fault) l') l) : p.wp M Q l := by
  refine wp_mono ?_ h
  intro r l' hr
  cases r with
  | ok outcome => exact hr
  | error fault => exact hr fault

lemma Course.beginUpgrade_wp (h : Course (guarded owner promised φ) At Seen Back Q)
    (hl : Launch owner promised φ At Q l) (plan : UpgradePlan) (context : UpgradeContext)
    (seams : Seams)
    (hfree : l.world.journal = none ∨ ∃ d, l.world.journal = some d ∧ d.phase = .complete) :
    (beginUpgrade plan context seams).wp (guarded owner promised φ) Q l := by
  unfold beginUpgrade
  split
  · -- Declared non-restorable, and nobody acknowledged it.
    apply wp_of_either
    refine either_bind ?_ fun j l' hj => hj
    have hrefuses := hl.refuses
      { freshJournal plan context seams with
        phase := .refusedNonRestorable, error := some .nonRestorable } rfl hfree
    exact persist_either hrefuses.1 rfl (.inl rfl) rfl hrefuses.2.2 (fun _ _ => hl.raised)
      fun _ _ => hrefuses.2.1
  · rename_i hconsent
    have hplan : (freshJournal plan context seams).plan.Consented := by
      intro hrestorable
      by_contra hack
      exact hconsent ⟨hrestorable, eq_true_of_ne_false hack⟩
    have hbegins := hl.begins (freshJournal plan context seams) hplan rfl hfree
    have hwrite : (ask (.writeJournal (freshJournal plan context seams))).wp
        (guarded owner promised φ)
        (Either (fun _ l' => At (freshJournal plan context seams) l')
          fun l' => ∀ fault, Q (.error fault) l') l :=
      ask_either hbegins.1 (fun _ _ _ _ => hbegins.2) (fun _ _ => hl.raised)
        fun _ _ fault => hl.fails fault hbegins.2
    refine wp_seq hwrite ?_ fun fault l' hfault => hfault fault
    intro _ l₁ hat₁
    have hrevision : (ask .schemaRevision).wp (guarded owner promised φ)
        (Either (fun _ l' => l' = l₁) fun l' => ∀ fault, Q (.error fault) l') l₁ := by
      have hasked := (hl.notes none hat₁ rfl).1
      have hquiet : (ask .schemaRevision).wp (guarded owner promised φ)
          (Either (fun a l' => l₁.world.Shows .schemaRevision a ∧ l' = l₁)
            fun l' => ∀ fault, Q (.error fault) l') l₁ :=
        ask_quiet trivial hasked fun fault => hl.fails fault hat₁
      exact either_mono hquiet (fun _ _ h => h.2) fun _ h => h
    refine wp_seq hrevision ?_ fun fault l' hfault => hfault fault
    rintro revision l₂ rfl
    have hnotes := hl.notes revision hat₁ rfl
    have hrewrite : (ask (.writeJournal { freshJournal plan context seams with
          preSchemaRevision := revision })).wp (guarded owner promised φ)
        (Either (fun _ l' => At { freshJournal plan context seams with
          preSchemaRevision := revision } l') fun l' => ∀ fault, Q (.error fault) l') l₂ :=
      ask_either hnotes.2.1 (fun _ _ _ _ => hnotes.2.2) (fun _ _ fault => hl.fails fault hat₁)
        fun _ _ fault => hl.fails fault hnotes.2.2
    refine wp_seq hrewrite ?_ fun fault l' hfault => hfault fault
    intro _ l₃ hat₃
    exact h.driveForward_wp hat₃

lemma Course.run_wp (h : Course (guarded owner promised φ) At Seen Back Q)
    (hl : Launch owner promised φ At Q l) (setup : Setup) :
    setup.run.wp (guarded owner promised φ) Q l := by
  have hload : (ask .loadJournal).wp (guarded owner promised φ)
      (Either (fun existing l' => existing = l.world.journal ∧ l' = l)
        fun l' => ∀ fault, Q (.error fault) l') l :=
    ask_quiet trivial hl.load hl.raised
  refine wp_seq hload ?_ fun fault l' hfault => hfault fault
  rintro existing l' ⟨hexisting, rfl⟩
  cases existing with
  | none => exact h.beginUpgrade_wp hl _ _ _ (.inl hexisting.symm)
  | some j =>
    dsimp only
    by_cases hopen : j.phase.isTerminal = false
    · rw [if_pos hopen]
      exact h.driveForward_wp (hl.resumes j hexisting.symm hopen)
    · rw [if_neg hopen]
      by_cases hcomplete : j.phase = .complete
      · rw [if_neg (not_not_intro hcomplete)]
        exact h.beginUpgrade_wp hl _ _ _ (.inr ⟨j, hexisting.symm, hcomplete⟩)
      · rw [if_pos hcomplete]
        exact hl.stale j hexisting.symm (by simpa using hopen)

lemma rollback_wp_of {j : UpgradeJournal} {a : UpgradePhase} {J : Ledger → Prop}
    (hopen : j.phase.isTerminal = false) (hJ : J l)
    (hquiet : ∀ l', J l' → φ l' .writeRecoveryDocument ∧ φ l' .stopService)
    (hrestore : UpgradePhase.migrated.rank ≤ a.rank → ∀ backup, j.backup = some backup →
      φ l (.restoreBackup backup) ∧ J (l.after owner (.restoreBackup backup)))
    (hflip : ∀ l' target, UpgradePhase.treeLaid.rank ≤ j.phase.rank → J l' →
      φ l' (.flipJunction target) ∧ J (l'.after owner (.flipJunction target)))
    (hrelease : ∀ l', J l' → φ l' .releaseInterlock ∧ J (l'.after owner .releaseInterlock))
    (hwrite : ∀ l' j', J l' → j'.phase = .rolledBack ∨ j'.phase = .haltedRestoreFailed →
      j'.plan = j.plan → φ l' (.writeJournal j') ∧
      Q (.ok ⟨j'.phase, j'⟩) (l'.after owner (.writeJournal j')) ∧
      ∀ fault, promised (.writeJournal j') (.failed fault true) →
        ∀ fault, Q (.error fault) (l'.after owner (.writeJournal j')))
    (hraised : ∀ l' fault, J l' → Q (.error fault) l') (reason : Reason) :
    (rollback j reason a).wp (guarded owner promised φ) Q l := by
  -- The terminal phase, from wherever the undoing has come to.
  have hends : ∀ l' (phase : UpgradePhase) (error : Option UpgradeError), J l' →
      phase = .rolledBack ∨ phase = .haltedRestoreFailed →
      (do
        let journal ← persist j phase fun journal => { journal with error := error }
        return { phase := journal.phase, journal := journal } :
          UpgradeM UpgradeOutcome).wp (guarded owner promised φ) Q l' := by
    intro l' phase error hJ' hphase
    have hterminal : phase.isTerminal = true := by
      rcases hphase with rfl | rfl <;> rfl
    have hwritten := hwrite l' { j with phase := phase, error := error } hJ' hphase rfl
    apply wp_of_either
    refine either_bind ?_ fun j' l' hj => hj
    exact persist_either hwritten.1 hopen (.inl hterminal) rfl hwritten.2.1
      (fun _ _ fault => hraised l' fault hJ') fun fault hland => hwritten.2.2 fault hland
  have hunwind : ∀ l', J l' → (unwind j reason).wp (guarded owner promised φ) Q l' := by
    intro l' hJ'
    have hflipped : (flipBack j).wp (guarded owner promised φ)
        (Either (fun _ => J) fun _ => False) l' := by
      unfold flipBack
      split
      · split
        · rename_i target _ hrank
          have hflipJ := hflip l' target hrank hJ'
          exact contained_either
            (ask_either hflipJ.1 (fun _ _ _ _ => hflipJ.2) (fun _ _ => hJ') fun _ _ => hflipJ.2)
        · exact hJ'
      · exact hJ'
    have hreleased : ∀ l₁, J l₁ → (releaseOwn j).wp (guarded owner promised φ)
        (Either (fun _ => J) fun _ => False) l₁ := by
      intro l₁ hJ₁
      unfold releaseOwn
      split
      · have hreleaseJ := hrelease l₁ hJ₁
        exact contained_either (ask_either hreleaseJ.1 (fun _ _ _ _ => hreleaseJ.2)
          (fun _ _ => hJ₁) fun _ _ => hreleaseJ.2)
      · exact hJ₁
    refine wp_seq hflipped ?_ fun _ _ hfalse => hfalse.elim
    intro flip l₁ hJ₁
    refine wp_seq (hreleased l₁ hJ₁) ?_ fun _ _ hfalse => hfalse.elim
    intro release l₂ hJ₂
    exact hends l₂ _ _ hJ₂ (.inl rfl)
  have hhalt : ∀ l' restoreError, J l' →
      (halt j restoreError).wp (guarded owner promised φ) Q l' := by
    intro l' restoreError hJ'
    have hnoted : ∀ o, Ledger.Quiet o → φ l' o → (ask o).wp (guarded owner promised φ)
        (Either (fun _ l'' => l'' = l') fun l'' => l'' = l') l' := fun o ho hpre =>
      either_mono (ask_quiet ho hpre (R := fun l'' => l'' = l') rfl) (fun _ _ h => h.2) fun _ h => h
    have hdocument : (contained (ask .writeRecoveryDocument) .document).wp
        (guarded owner promised φ) (Either (fun _ l'' => l'' = l') fun _ => False) l' :=
      contained_either (hnoted _ trivial (hquiet l' hJ').1)
    have hstop : (contained (ask .stopService) .stop).wp (guarded owner promised φ)
        (Either (fun _ l'' => l'' = l') fun _ => False) l' :=
      contained_either (hnoted _ trivial (hquiet l' hJ').2)
    refine wp_seq hdocument ?_ fun _ _ hfalse => hfalse.elim
    rintro document l₁ rfl
    refine wp_seq hstop ?_ fun _ _ hfalse => hfalse.elim
    rintro stop l₂ rfl
    exact hends l₂ _ _ hJ' (.inr rfl)
  unfold rollback
  by_cases hmutated : UpgradePhase.migrated.rank ≤ a.rank
  · rw [if_pos hmutated, wp_bind, wp_attempt]
    have hrestored : (restore j).wp (guarded owner promised φ) (Either (fun _ => J) J) l := by
      unfold restore
      split
      · exact hJ
      · rename_i backup hbackup
        have hrestoreJ := hrestore hmutated backup hbackup
        exact ask_either hrestoreJ.1 (fun _ _ _ _ => hrestoreJ.2) (fun _ _ => hJ)
          fun _ _ => hrestoreJ.2
    refine wp_mono ?_ hrestored
    intro r l' hr
    cases r with
    | ok _ => exact hunwind l' hr
    | error restoreError => exact hhalt l' restoreError hr
  · rw [if_neg hmutated]
    exact hunwind l hJ

end Ends

/-! ## An upgrade to 2.0 -/

def laidJournal : UpgradeJournal :=
  { freshJournal toTwo.plan toTwo.context toTwo.seams with
    phase := .treeLaid
    preSchemaRevision := some "0041"
    backup := some ⟨"backups", true, true, [], .preUpgrade⟩
    previousJunctionTarget := some "versions/1.0"
    newJunctionTarget := some "versions/2.0" }

def laidLedger : Ledger where
  world :=
    { journal := some laidJournal
      junction := some "versions/2.0"
      database := .preUpgrade
      interlock := some ⟨true, 1, "run-1"⟩ }
  holds := true
  lastMutation := none
  trees := [("2.0", "versions/2.0")]
  persisted := [.init, .interlockAcquired, .writersDrained, .backupVerified, .treeLaid]

def migratedJournal : UpgradeJournal :=
  { laidJournal with phase := .migrated, postSchemaRevision := some "0042" }

def migratedLedger : Ledger :=
  { laidLedger with
    world :=
      { laidLedger.world with journal := some migratedJournal, database := .migrated }
    lastMutation := some .migration
    persisted := laidLedger.persisted ++ [.migrated] }

section ToTwo

variable {promised : (o : Op) → Reply o.Res → Prop} (hok : ∀ o a, promised o (.ok a))
include hok

lemma toTwo_comes_laid :
    Comes (Ledger.machine "run-1" promised) toTwo.run (.blank atOne)
      (migrateSchema toTwo.seams laidJournal) laidLedger := by
  -- the journal of a fresh upgrade, the interlock, the writers and the backup
  refine .call (.ok none) ⟨⟨trivial, rfl⟩, hok _ _⟩ ?_
  refine .call (.ok ()) ⟨⟨trivial, trivial⟩, hok _ _⟩ ?_
  refine .call (.ok (some "0041")) ⟨⟨trivial, trivial⟩, hok _ _⟩ ?_
  refine .call (.ok ()) ⟨⟨trivial, trivial⟩, hok _ _⟩ ?_
  refine .call (.ok ()) ⟨⟨by rintro _ ⟨⟩, trivial⟩, hok _ _⟩ ?_
  refine .call (.ok ()) ⟨⟨trivial, trivial⟩, hok _ _⟩ ?_
  refine .call (.ok true) ⟨⟨trivial, trivial⟩, hok _ _⟩ ?_
  refine .call (.ok ()) ⟨⟨trivial, trivial⟩, hok _ _⟩ ?_
  refine .call (.ok ⟨"backups", true, true, [], .preUpgrade⟩) ⟨⟨trivial, rfl⟩, hok _ _⟩ ?_
  refine .call (.ok ()) ⟨⟨trivial, trivial⟩, hok _ _⟩ ?_
  -- the tree and the flip
  refine .call (.ok (some "versions/1.0")) ⟨⟨trivial, rfl⟩, hok _ _⟩ ?_
  refine .call (.ok ()) ⟨⟨trivial, trivial⟩, hok _ _⟩ ?_
  refine .call (.ok "versions/2.0") ⟨⟨trivial, trivial⟩, hok _ _⟩ ?_
  refine .call (.ok ()) ⟨⟨trivial, trivial⟩, hok _ _⟩ ?_
  refine .call (.ok ()) ⟨⟨trivial, trivial⟩, hok _ _⟩ ?_
  exact .here _ _

lemma toTwo_comes_migrated :
    Comes (Ledger.machine "run-1" promised) toTwo.run (.blank atOne) (reachHealth migratedJournal)
      migratedLedger := by
  refine (toTwo_comes_laid hok).trans ?_
  refine .call (.ok ()) ⟨⟨trivial, trivial⟩, hok _ _⟩ ?_
  refine .call (.ok (some "0042")) ⟨⟨trivial, trivial⟩, hok _ _⟩ ?_
  refine .call (.ok ()) ⟨⟨trivial, trivial⟩, hok _ _⟩ ?_
  exact .here _ _

end ToTwo

end CivicCast.Upgrade
