import CivicCast.Eas.Service
import CivicCast.Lib.Interleave

/-! # The operator's decision

Automatic passes, operators and the poll worker share the store, and their calls
interleave freely. A pass reads the decisions of its channel once, at its start,
and then writes one decision after another without looking again; what an operator
did meanwhile, or what the query left out at its limit, it does not see.

`Desk` is the store together with a ledger of what operators last did to each alert
on each channel: displayed it in some mode, or cleared it. `Authoritative` says that
the store agrees with the ledger. It is kept by every interleaving in which

* a pass that reads the decisions of its channel gets every one that an operator
  made or cleared (`Promised`),
* no write finds the decision of another channel or alert under its id, and
* no operator touches an alert that a pass is still about to write (`Undisturbed`).

Without these a pass overrides the operator (`pass_overrides_operator`).
-/

namespace CivicCast.Eas

open Function List Option

open Lib (Text)
open Lib (Config Monitor Machine Prog)

/-! ## The desk -/

/-- The store, and what operators did last. -/
structure Desk where
  store : EasStore
  /-- Alerts an operator cleared and none displayed since, with the channel. -/
  cleared : List (Text × Text)
  /-- The mode in which an operator last displayed an alert on a channel. -/
  made : List ((Text × Text) × EasDisplayMode)

namespace Desk

/-- An operator made the decision, or cleared it. -/
def Marked (w : Desk) (channelId alertId : Text) : Prop :=
  (channelId, alertId) ∈ w.cleared ∨ ∃ mode, ((channelId, alertId), mode) ∈ w.made

/-- The decisions are as operators left them: each is there, what was cleared is not
displayed, and what they displayed has the mode they chose. -/
def Authoritative (w : Desk) : Prop :=
  (∀ channelId alertId, w.Marked channelId alertId →
    ∃ row ∈ w.store.decisions.rows, row.channelId = channelId ∧ row.alertId = alertId) ∧
  ∀ row ∈ w.store.decisions.rows,
    ((row.channelId, row.alertId) ∈ w.cleared → row.state ≠ .displayed) ∧
    ∀ mode, ((row.channelId, row.alertId), mode) ∈ w.made → row.mode = mode

def after (w : Desk) (o : StoreOp) : Desk :=
  let store := w.store.after o
  match o with
  | .upsertDecision .operator decision =>
    let pair := (decision.channelId, decision.alertId)
    { store
      cleared := w.cleared.filter fun p => p ≠ pair
      made := (pair, decision.mode) :: w.made.filter fun entry => entry.1 ≠ pair }
  | .clearDecision decisionId _ =>
    match w.store.decisions.get decisionId with
    | some row => { w with store, cleared := (row.channelId, row.alertId) :: w.cleared }
    | none => { w with store }
  | _ => { w with store }

/-- What the condition asks of a call and the store it finds. -/
def Promised (w : Desk) : StoreOp → Prop
  | .listDecisions channelId =>
    ∀ alertId, w.Marked channelId alertId →
      ∃ row ∈ w.store.decisions.listDecisions (some channelId) none, row.alertId = alertId
  | .upsertDecision _ decision =>
    ∀ row, w.store.decisions.get decision.decisionId = some row →
      row.channelId = decision.channelId ∧ row.alertId = decision.alertId
  | _ => True

/-- The shared store; `governed` where the condition is kept. -/
def machine (governed : Bool) : Machine storeIface Desk where
  pre := fun _ _ => True
  legal := fun w o x => w.store.answers o x ∧ (governed = true → w.Promised o)
  next := fun w o _ => w.after o

end Desk

/-! ## The callers -/

/-- What a thread is there for. -/
inductive Job where
  | pass (channelId : Text)
  | display (channelId alertId : Text) (mode : EasDisplayMode) (operatorId : Text)
      (confirmed : Bool)
  | clear (decisionId : Text)
  | ingest (alert : EasCapAlert)
  | expire (now : Instant)

def Job.code : Job → Service Unit
  | pass channelId => do let _ ← autoSurfaceActive channelId
  | display channelId alertId mode operatorId confirmed => do
    let _ ← surfaceAlert .operator channelId alertId mode operatorId confirmed
  | clear decisionId => clearDecision decisionId
  | ingest alert => ask (.ingestAlert alert)
  | expire now => ask (.expireAlerts now)

/-- How far a pass has come: it has read which alerts are shown, or it knows which
ones it is going to write. -/
inductive Progress where
  | idle
  | reading (channelId : Text) (shown : List Text)
  | writing (channelId : Text) (pending : List Text)
deriving DecidableEq

/-- The pass may still write a decision for the alert. -/
def Progress.Awaits : Progress → Text → Text → Prop
  | idle, _, _ => False
  | reading channel shown, channelId, alertId => channel = channelId ∧ alertId ∉ shown
  | writing channel pending, channelId, alertId => channel = channelId ∧ alertId ∈ pending

instance (g : Progress) (channelId alertId : Text) : Decidable (g.Awaits channelId alertId) :=
  match g with
  | .idle => inferInstanceAs (Decidable False)
  | .reading _ _ => inferInstanceAs (Decidable (_ ∧ _))
  | .writing _ _ => inferInstanceAs (Decidable (_ ∧ _))

def dueAlerts (shown : List Text) (alerts : List EasCapAlert) : List Text :=
  (alerts.filter fun alert =>
    !(alert.alertId ∈ shown) && severityAtOrAbove alert.severity autoSurfaceFloor).map
      EasCapAlert.alertId

/-- A pass writes only decisions that it awaits, and everybody writes a decision
under its own id. -/
def progress : Monitor storeIface Progress where
  allows := fun g o =>
    match o with
    | .upsertDecision caller decision =>
      decision.decisionId = decisionId decision.channelId decision.alertId ∧
        decision.state = .displayed ∧
        (caller = .pass → ∃ pending, g = .writing decision.channelId pending ∧
          decision.alertId ∈ pending)
    | _ => True
  next := fun g o x =>
    match o, x with
    | .listDecisions channelId, rows => .reading channelId (rows.map EasDisplayDecision.alertId)
    | .listActiveAlerts, rows =>
      match g with
      | .reading channelId shown => .writing channelId (dueAlerts shown rows)
      | g => g
    | .getAlert _, none => .idle
    | .upsertDecision .pass decision, _ =>
      match g with
      | .writing channelId pending => .writing channelId (pending.erase decision.alertId)
      | g => g
    | _, _ => g

/-- No operator touches what a pass is about to write. -/
def Undisturbed {T : Type} (g : T → Progress) : StoreOp → Prop
  | .upsertDecision .operator decision =>
    ∀ t, ¬ (g t).Awaits decision.channelId decision.alertId
  | .clearDecision id _ =>
    ∀ t channelId alertId, (g t).Awaits channelId alertId → decisionId channelId alertId ≠ id
  | _ => True

/-! ## Every caller keeps to its monitor -/

variable {channelId alertId decidedBy : Text} {mode : EasDisplayMode}

lemma displayDecision_eq_some
    {alert : EasCapAlert} {now createdAt : Instant} {decision : EasDisplayDecision}
    (h : displayDecision channelId alertId decidedBy mode alert now createdAt = some decision) :
    decision.decisionId = decisionId channelId alertId ∧ decision.channelId = channelId ∧
      decision.alertId = alertId ∧ decision.mode = mode ∧ decision.state = .displayed := by
  unfold displayDecision at h
  split at h
  · cases h
    exact ⟨rfl, rfl, rfl, rfl, rfl⟩
  · cases h

lemma surfaceAlert_admits {caller : Caller} {confirmed : Bool} {g : Progress} (rest : List Text)
    (hpass : caller = .pass → g = .writing channelId (alertId :: rest)) :
    (surfaceAlert caller channelId alertId mode decidedBy confirmed).wp progress.toMachine
      (fun r g' => ∀ decision, r = .ok decision → caller = .pass →
        g' = .writing channelId rest) g := by
  refine ⟨trivial, ?_⟩
  intro found _
  cases found with
  | none =>
    intro decision h
    cases h
  | some alert =>
    split
    · intro decision h
      cases h
    · refine ⟨trivial, fun now _ => ⟨trivial, fun createdAt _ => ?_⟩⟩
      dsimp only [Prog.bind]
      split
      · intro decision h
        cases h
      · -- the decision is of the alert that was asked for
        rename_i decision hdecision
        rcases displayDecision_eq_some hdecision with ⟨hid, hchannel, halert, _, hstate⟩
        refine ⟨⟨?_, hstate, ?_⟩, ?_⟩
        · rw [hid, hchannel, halert]
        · intro hcaller
          refine ⟨alertId :: rest, ?_, ?_⟩
          · rw [hchannel]
            exact hpass hcaller
          · rw [halert]
            exact mem_cons_self
        · intro _ _ decision' _ hcaller
          subst hcaller
          rw [hpass rfl]
          simp [Monitor.toMachine, progress, halert]

lemma surfaceEach_admits {shown : List Text} :
    ∀ alerts : List EasCapAlert, progress.Admits (surfaceEach channelId shown alerts)
      (.writing channelId (dueAlerts shown alerts)) := by
  intro alerts
  induction alerts with
  | nil => exact trivial
  | cons alert alerts ih =>
    unfold surfaceEach
    by_cases hshown : alert.alertId ∈ shown
    · have hdue : dueAlerts shown (alert :: alerts) = dueAlerts shown alerts := by
        simp [dueAlerts, hshown]
      rw [if_pos hshown, hdue]
      exact ih
    · rw [if_neg hshown]
      by_cases hsevere : severityAtOrAbove alert.severity autoSurfaceFloor = true
      · -- severe and not shown yet: it is due, and written now
        have hdue : dueAlerts shown (alert :: alerts) =
            alert.alertId :: dueAlerts shown alerts := by
          simp [dueAlerts, hshown, hsevere]
        rw [if_neg (by simpa using hsevere), hdue]
        refine Prog.wp_bind.mpr ?_
        refine Prog.wp_mono ?_ (surfaceAlert_admits _ fun _ => rfl)
        intro r g hr
        cases r with
        | error e => exact trivial
        | ok decision =>
          rw [hr decision rfl rfl]
          refine Prog.wp_bind.mpr ?_
          refine Prog.wp_mono ?_ ih
          intro r g _
          cases r <;> exact trivial
      · have hdue : dueAlerts shown (alert :: alerts) = dueAlerts shown alerts := by
          simp [dueAlerts, hsevere]
        rw [if_pos (by simpa using hsevere), hdue]
        exact ih

lemma job_admits {job : Job} : progress.Admits job.code .idle := by
  cases job with
  | pass channelId =>
    refine Prog.wp_bind.mpr ?_
    refine ⟨trivial, fun rows _ => ⟨trivial, fun alerts _ => ?_⟩⟩
    refine Prog.wp_mono ?_ (surfaceEach_admits alerts)
    intro r g _
    cases r <;> exact trivial
  | display channelId alertId mode operatorId confirmed =>
    refine Prog.wp_bind.mpr ?_
    refine Prog.wp_mono ?_ (surfaceAlert_admits [] nofun)
    intro r g _
    cases r <;> exact trivial
  | clear decisionId =>
    refine ⟨trivial, fun now _ => ⟨trivial, fun found _ => ?_⟩⟩
    cases found <;> exact trivial
  | ingest alert | expire now => exact ⟨trivial, fun _ _ => trivial⟩

/-! ## The invariant -/

/-- The store agrees with the ledger, every decision stands under its own id, and no
pass awaits what an operator decided. -/
structure DeskInv {T : Type} (g : T → Progress) (w : Desk) : Prop where
  canonical : ∀ row ∈ w.store.decisions.rows,
    row.decisionId = decisionId row.channelId row.alertId
  authoritative : w.Authoritative
  unawaited : ∀ t channelId alertId, w.Marked channelId alertId →
    ¬ (g t).Awaits channelId alertId

section Steps

variable {T : Type} [DecidableEq T] {g : T → Progress} {w : Desk} {t : T} {g' : Progress}
  {decision : EasDisplayDecision}

/-- A call that leaves the decisions and the ledger alone, by a thread that awaits no
more than before. -/
lemma DeskInv.idle_step (store : EasStore) (h : DeskInv g w)
    (hstore : store.decisions = w.store.decisions)
    (hawaits : ∀ channelId alertId, g'.Awaits channelId alertId →
      (g t).Awaits channelId alertId ∨ ¬ w.Marked channelId alertId) :
    DeskInv (update g t g') { w with store := store } where
  canonical := by
    intro row hrow
    exact h.canonical row (hstore ▸ hrow)
  authoritative := by
    refine ⟨?_, ?_⟩
    · intro channelId alertId hmarked
      rw [hstore]
      exact h.authoritative.1 channelId alertId hmarked
    · intro row hrow
      exact h.authoritative.2 row (hstore ▸ hrow)
  unawaited := by
    intro t' channelId alertId hmarked hawaited
    by_cases ht : t' = t
    · subst ht
      rw [update_self] at hawaited
      rcases hawaits channelId alertId hawaited with hbefore | hnot
      · exact h.unawaited t' channelId alertId hmarked hbefore
      · exact hnot hmarked
    · rw [update_of_ne ht] at hawaited
      exact h.unawaited t' channelId alertId hmarked hawaited

lemma upserted_row (decisions : DecisionTable) (decision : EasDisplayDecision) :
    let row := (decisions.get decision.decisionId).elim decision (DecisionTable.rewrite decision)
    row.decisionId = decision.decisionId ∧ row.channelId = decision.channelId ∧
      row.alertId = decision.alertId ∧ row.mode = decision.mode ∧ row.state = decision.state := by
  cases hget : decisions.get decision.decisionId with
  | none => exact ⟨rfl, rfl, rfl, rfl, rfl⟩
  | some held =>
    have hkey : held.decisionId = decision.decisionId := Lib.Table.key_of_get hget
    exact ⟨hkey, rfl, rfl, rfl, rfl⟩

/-- An upsert keeps every decision under its own id, and every pair that had a
decision, where it hits no other pair's. -/
lemma canonical_upsert
    (hcanonical : ∀ row ∈ w.store.decisions.rows,
      row.decisionId = decisionId row.channelId row.alertId)
    (hid : decision.decisionId = decisionId decision.channelId decision.alertId) :
    ∀ row ∈ (w.store.decisions.upsertDecision decision).rows,
      row.decisionId = decisionId row.channelId row.alertId := by
  intro row hrow
  rcases DecisionTable.mem_upsertDecision_iff.mp hrow with rfl | ⟨hold, _⟩
  · rcases upserted_row w.store.decisions decision with
      ⟨hkey, hchannel, halert, _, _⟩
    rw [hkey, hchannel, halert]
    exact hid
  · exact hcanonical row hold

lemma present_upsert {caller : Caller} {channelId alertId : Text}
    (hpromised : w.Promised (.upsertDecision caller decision))
    (hpresent : ∃ row ∈ w.store.decisions.rows, row.channelId = channelId ∧ row.alertId = alertId) :
    ∃ row ∈ (w.store.decisions.upsertDecision decision).rows,
      row.channelId = channelId ∧ row.alertId = alertId := by
  rcases hpresent with ⟨row, hrow, hchannel, halert⟩
  rcases upserted_row w.store.decisions decision with
    ⟨_, hnewChannel, hnewAlert, _, _⟩
  by_cases hid : row.decisionId = decision.decisionId
  · have hget : w.store.decisions.get decision.decisionId = some row :=
      Lib.Table.get_eq_some_iff.mpr ⟨hrow, hid⟩
    rcases hpromised row hget with ⟨hsame, hsame'⟩
    refine ⟨_, DecisionTable.mem_upsertDecision_iff.mpr (.inl rfl), ?_, ?_⟩
    · rw [hnewChannel, ← hsame, hchannel]
    · rw [hnewAlert, ← hsame', halert]
  · exact ⟨row, DecisionTable.mem_upsertDecision_iff.mpr (.inr ⟨hrow, hid⟩), hchannel, halert⟩

/-- A pass writes a decision that it awaits: no operator has decided about it. -/
lemma DeskInv.pass_step (h : DeskInv g w)
    (hallows : progress.allows (g t) (.upsertDecision .pass decision))
    (hpromised : w.Promised (.upsertDecision .pass decision)) :
    DeskInv (update g t (progress.next (g t) (.upsertDecision .pass decision) ()))
      (w.after (.upsertDecision .pass decision)) := by
  rcases hallows with ⟨hid, _, hpass⟩
  rcases hpass rfl with ⟨pending, hg, hpending⟩
  -- no operator has decided about what a pass awaits
  have hfree : ¬ w.Marked decision.channelId decision.alertId := by
    intro hmarked
    refine h.unawaited t _ _ hmarked ?_
    rw [hg]
    exact ⟨rfl, hpending⟩
  refine ⟨canonical_upsert h.canonical hid, ⟨?_, ?_⟩, ?_⟩
  · intro channelId alertId hmarked
    exact present_upsert hpromised (h.authoritative.1 channelId alertId hmarked)
  · intro row hrow
    rcases DecisionTable.mem_upsertDecision_iff.mp hrow with rfl | ⟨hold, _⟩
    · rcases upserted_row w.store.decisions decision with
        ⟨_, hchannel, halert, _, _⟩
      rw [hchannel, halert]
      refine ⟨fun hcleared => absurd (.inl hcleared) hfree, ?_⟩
      intro mode hmade
      exact absurd (.inr ⟨mode, hmade⟩) hfree
    · exact h.authoritative.2 row hold
  · intro t' channelId alertId hmarked hawaits
    refine h.unawaited t' channelId alertId hmarked ?_
    by_cases ht : t' = t
    · subst ht
      rw [update_self] at hawaits
      rw [hg] at hawaits ⊢
      exact ⟨hawaits.1, mem_of_mem_erase hawaits.2⟩
    · rwa [update_of_ne ht] at hawaits

lemma DeskInv.display_step (h : DeskInv g w)
    (hallows : progress.allows (g t) (.upsertDecision .operator decision))
    (hpromised : w.Promised (.upsertDecision .operator decision))
    (hok : Undisturbed g (.upsertDecision .operator decision)) :
    DeskInv (update g t (progress.next (g t) (.upsertDecision .operator decision) ()))
      (w.after (.upsertDecision .operator decision)) := by
  rcases hallows with ⟨hid, hstate, _⟩
  have hsame : update g t
      (progress.next (g t) (.upsertDecision .operator decision) ()) = g :=
    update_eq_self t g
  rw [hsame]
  have hmarked : ∀ channelId alertId,
      (w.after (.upsertDecision .operator decision)).Marked channelId alertId →
      (channelId, alertId) = (decision.channelId, decision.alertId) ∨
        w.Marked channelId alertId := by
    rintro channelId alertId (hcleared | ⟨mode, hmade⟩)
    · exact .inr (.inl (mem_filter.mp hcleared).1)
    · rcases mem_cons.mp hmade with heq | hmade
      · exact .inl (congrArg Prod.fst heq)
      · exact .inr (.inr ⟨mode, (mem_filter.mp hmade).1⟩)
  refine ⟨canonical_upsert h.canonical hid, ⟨?_, ?_⟩, ?_⟩
  · intro channelId alertId hafter
    rcases hmarked channelId alertId hafter with heq | hbefore
    · cases heq
      rcases upserted_row w.store.decisions decision with
        ⟨_, hchannel, halert, _, _⟩
      exact ⟨_, DecisionTable.mem_upsertDecision_iff.mpr (.inl rfl), hchannel, halert⟩
    · exact present_upsert hpromised (h.authoritative.1 channelId alertId hbefore)
  · intro row hrow
    rcases DecisionTable.mem_upsertDecision_iff.mp hrow with rfl | ⟨hold, hother⟩
    · rcases upserted_row w.store.decisions decision with
        ⟨_, hchannel, halert, hmode, _⟩
      rw [hchannel, halert, hmode]
      constructor
      · intro hcleared
        have hne := (mem_filter.mp hcleared).2
        simp at hne
      · intro mode hmade
        rcases mem_cons.mp hmade with heq | hmade
        · exact (congrArg Prod.snd heq).symm
        · have hne := (mem_filter.mp hmade).2
          simp at hne
    · -- a row under another id is about another pair
      have hpair : (row.channelId, row.alertId) ≠ (decision.channelId, decision.alertId) := by
        intro heq
        rcases Prod.mk.inj heq with ⟨hchannel, halert⟩
        rw [h.canonical row hold, hid, hchannel, halert] at hother
        exact hother rfl
      constructor
      · intro hcleared
        exact (h.authoritative.2 row hold).1 (mem_filter.mp hcleared).1
      · intro mode hmade
        rcases mem_cons.mp hmade with heq | hmade
        · exact absurd (congrArg Prod.fst heq) hpair
        · exact (h.authoritative.2 row hold).2 mode (mem_filter.mp hmade).1
  · intro t' channelId alertId hafter hawaits
    rcases hmarked channelId alertId hafter with heq | hbefore
    · cases heq
      exact hok t' hawaits
    · exact h.unawaited t' channelId alertId hbefore hawaits

omit [DecidableEq T] in
lemma DeskInv.clear_step {id : Text} {now : Instant} (h : DeskInv g w)
    (hok : Undisturbed g (.clearDecision id now)) :
    DeskInv g (w.after (.clearDecision id now)) := by
  have hrows : (w.after (.clearDecision id now)).store.decisions =
      w.store.decisions.clear now id := by
    unfold Desk.after
    dsimp only
    split <;> rfl
  have hmade : (w.after (.clearDecision id now)).made = w.made := by
    unfold Desk.after
    dsimp only
    split <;> rfl
  -- what is newly cleared is the pair of the row under the id
  have hcleared : ∀ channelId alertId,
      (channelId, alertId) ∈ (w.after (.clearDecision id now)).cleared →
      (channelId, alertId) ∈ w.cleared ∨ ∃ row, w.store.decisions.get id = some row ∧
        row.channelId = channelId ∧ row.alertId = alertId := by
    intro channelId alertId hmem
    unfold Desk.after at hmem
    dsimp only at hmem
    split at hmem
    · rename_i row hrow
      rcases mem_cons.mp hmem with heq | hmem
      · cases heq
        exact .inr ⟨row, hrow, rfl, rfl⟩
      · exact .inl hmem
    · exact .inl hmem
  have hmem : ∀ row, row ∈ w.store.decisions.rows →
      ∃ row' ∈ (w.store.decisions.clear now id).rows,
        row'.channelId = row.channelId ∧ row'.alertId = row.alertId := by
    intro row hrow
    refine ⟨_, mem_map.mpr ⟨row, hrow, rfl⟩, ?_⟩
    split <;> exact ⟨rfl, rfl⟩
  have hmarked : ∀ channelId alertId,
      (w.after (.clearDecision id now)).Marked channelId alertId →
      w.Marked channelId alertId ∨ ∃ row, w.store.decisions.get id = some row ∧
        row.channelId = channelId ∧ row.alertId = alertId := by
    rintro channelId alertId (hclear | ⟨mode, hmode⟩)
    · rcases hcleared channelId alertId hclear with hbefore | hnew
      · exact .inl (.inl hbefore)
      · exact .inr hnew
    · rw [hmade] at hmode
      exact .inl (.inr ⟨mode, hmode⟩)
  refine ⟨?_, ⟨?_, ?_⟩, ?_⟩
  · intro row hrow
    rw [hrows] at hrow
    rcases DecisionTable.mem_clear hrow with ⟨held, hheld, rfl⟩
    split
    · exact h.canonical held hheld
    · exact h.canonical held hheld
  · intro channelId alertId hafter
    rw [hrows]
    have hbefore : ∃ row ∈ w.store.decisions.rows,
        row.channelId = channelId ∧ row.alertId = alertId := by
      rcases hmarked channelId alertId hafter with hbefore | ⟨row, hrow, hpair⟩
      · exact h.authoritative.1 channelId alertId hbefore
      · exact ⟨row, Lib.Table.mem_of_get hrow, hpair⟩
    rcases hbefore with ⟨row, hrow, hchannel, halert⟩
    rcases hmem row hrow with ⟨row', hrow', hchannel', halert'⟩
    exact ⟨row', hrow', hchannel'.trans hchannel, halert'.trans halert⟩
  · intro row hrow
    rw [hrows] at hrow
    rcases DecisionTable.mem_clear hrow with ⟨held, hheld, rfl⟩
    rw [hmade]
    split
    · refine ⟨?_, (h.authoritative.2 held hheld).2⟩
      intro _ hdisplayed
      cases hdisplayed
    · rename_i hother
      refine ⟨?_, (h.authoritative.2 held hheld).2⟩
      intro hclear
      rcases hcleared _ _ hclear with hbefore | ⟨row, hrow, hchannel, halert⟩
      · exact (h.authoritative.2 held hheld).1 hbefore
      · have hid : row.decisionId = id := Lib.Table.key_of_get hrow
        rw [h.canonical row (Lib.Table.mem_of_get hrow), hchannel, halert,
          ← h.canonical held hheld] at hid
        exact absurd hid hother
  · intro t' channelId alertId hafter hawaits
    rcases hmarked channelId alertId hafter with hbefore | ⟨row, hrow, rfl, rfl⟩
    · exact h.unawaited t' channelId alertId hbefore hawaits
    · have hid : row.decisionId = id := Lib.Table.key_of_get hrow
      rw [h.canonical row (Lib.Table.mem_of_get hrow)] at hid
      exact hok t' _ _ hawaits hid

lemma DeskInv.step {o : StoreOp} {x : o.Ans} (h : DeskInv g w) (hok : Undisturbed g o)
    (hallows : progress.allows (g t) o) (hlegal : (Desk.machine true).legal w o x) :
    DeskInv (update g t (progress.next (g t) o x)) (w.after o) := by
  rcases hlegal with ⟨hanswer, hpromised⟩
  have hpromised := hpromised rfl
  cases o with
  | listDecisions channel =>
    refine h.idle_step w.store rfl ?_
    -- a pair that is marked has a row, so the pass has seen it
    rintro channelId alertId ⟨rfl, hunseen⟩
    right
    intro hmarked
    rcases hpromised alertId hmarked with ⟨row, hrow, halert⟩
    have hanswer : x = w.store.decisions.listDecisions (some channel) none := hanswer
    apply hunseen
    rw [hanswer]
    exact mem_map.mpr ⟨row, hrow, halert⟩
  | listActiveAlerts =>
    refine h.idle_step w.store rfl ?_
    intro channelId alertId hawaits
    left
    cases hg : g t with
    | idle | writing channel pending =>
      rw [hg] at hawaits
      exact hawaits
    | reading channel shown =>
      rw [hg] at hawaits
      rcases hawaits with ⟨hchannel, hdue⟩
      refine ⟨hchannel, ?_⟩
      rcases mem_map.mp hdue with ⟨alert, halert, rfl⟩
      have hfilter := (mem_filter.mp halert).2
      simp only [Bool.and_eq_true, Bool.not_eq_true', decide_eq_false_iff_not] at hfilter
      exact hfilter.1
  | getAlert alertId =>
    -- an alert that is gone leaves the pass waiting for nothing
    refine h.idle_step w.store rfl ?_
    intro channelId alertId' hawaits
    cases x with
    | none => exact False.elim hawaits
    | some alert => exact .inl hawaits
  | upsertDecision caller decision =>
    cases caller with
    | pass => exact h.pass_step hallows hpromised
    | operator => exact h.display_step hallows hpromised hok
  | clearDecision id now =>
    have hsame : update g t (progress.next (g t) (.clearDecision id now) x) = g :=
      update_eq_self t g
    rw [hsame]
    exact h.clear_step hok
  | ingestAlert alert =>
    refine h.idle_step _ ?_ fun _ _ hawaits => .inl hawaits
    unfold EasStore.after
    dsimp only
    split <;> rfl
  | expireAlerts now => exact h.idle_step _ rfl fun _ _ hawaits => .inl hawaits
  | clock => exact h.idle_step w.store rfl fun _ _ hawaits => .inl hawaits

end Steps

/-! ## Runs -/

/-- Every thread at its start, with the alerts there are and no decision yet. -/
def opening {T : Type} (jobs : T → Job) (alerts : AlertTable) :
    Config T storeIface EasDisplayError Progress Desk where
  code := fun t => (jobs t).code
  ghost := fun _ => .idle
  world := { store := { alerts := alerts, decisions := .empty }, cleared := [], made := [] }

/-- In every interleaving of passes, operators and ingests in which a pass reads
every decision that operators made or cleared on its channel, no write hits another
alert's decision, and no operator touches an alert that a pass is about to write,
the decisions stay as operators left them. -/
theorem operator_is_authoritative {T : Type} [DecidableEq T] (jobs : T → Job)
    (alerts : AlertTable) (c : Config T storeIface EasDisplayError Progress Desk)
    (h : Config.Reach (fun _ => Desk.machine true) (fun _ => progress) Undisturbed
      (opening jobs alerts) c) :
    c.world.Authoritative := by
  have hinit : DeskInv (opening jobs alerts).ghost (opening jobs alerts).world := by
    refine ⟨?_, ⟨?_, ?_⟩, ?_⟩
    · intro row hrow
      cases hrow
    · rintro channelId alertId (hcleared | ⟨mode, hmade⟩)
      · cases hcleared
      · cases hmade
    · intro row hrow
      cases hrow
    · intro t channelId alertId _ hawaits
      exact hawaits
  have hadmits : ∀ t, progress.Admits ((opening jobs alerts).code t)
      ((opening jobs alerts).ghost t) := fun t => job_admits
  have hinv := h.invariant hadmits hinit
    (fun g w t o x hJ hok hallows hlegal => hJ.step hok hallows hlegal)
  exact hinv.authoritative

/-! ### Two concrete runs -/

/-- What the store answers when the clock stands at `now`. -/
def EasStore.answer (st : EasStore) (now : Instant) : (o : StoreOp) → {x : o.Ans // st.answers o x}
  | .listDecisions channelId => ⟨st.decisions.listDecisions (some channelId) none, rfl⟩
  | .listActiveAlerts => ⟨st.alerts.listActiveAlerts, rfl⟩
  | .getAlert alertId => ⟨st.alerts.getAlert alertId, rfl⟩
  | .clearDecision decisionId _ => ⟨(st.decisions.get decisionId).isSome, rfl⟩
  | .upsertDecision _ _ => ⟨(), trivial⟩
  | .ingestAlert _ => ⟨(), trivial⟩
  | .expireAlerts _ => ⟨(), trivial⟩
  | .clock => ⟨now, trivial⟩

instance (w : Desk) (o : StoreOp) : Decidable (w.Promised o) :=
  match o with
  | .listDecisions channelId =>
    decidable_of_iff (∀ pair ∈ w.cleared ++ w.made.map Prod.fst, pair.1 = channelId →
        ∃ row ∈ w.store.decisions.listDecisions (some channelId) none, row.alertId = pair.2) (by
      constructor
      · intro h alertId hmarked
        refine h (channelId, alertId) ?_ rfl
        rcases hmarked with hcleared | ⟨mode, hmade⟩
        · exact List.mem_append_left _ hcleared
        · exact List.mem_append_right _ (List.mem_map.mpr ⟨_, hmade, rfl⟩)
      · rintro h ⟨channel, alertId⟩ hpair rfl
        apply h alertId
        rcases List.mem_append.mp hpair with hcleared | hmade
        · exact Or.inl hcleared
        · rcases List.mem_map.mp hmade with ⟨⟨pair, mode⟩, hmade, rfl⟩
          exact Or.inr ⟨mode, hmade⟩)
  | .upsertDecision _ decision =>
    decidable_of_iff (∀ row ∈ w.store.decisions.get decision.decisionId,
      row.channelId = decision.channelId ∧ row.alertId = decision.alertId) Iff.rfl
  | .listActiveAlerts => isTrue trivial
  | .getAlert _ => isTrue trivial
  | .clearDecision _ _ => isTrue trivial
  | .ingestAlert _ => isTrue trivial
  | .expireAlerts _ => isTrue trivial
  | .clock => isTrue trivial

/-- The alerts with the one warning in force. -/
def oneWarning : AlertTable := AlertTable.empty.insert (numberedAlert 0) rfl rfl

def govChannel : Text := ['g', 'o', 'v']

/-- A pass on the channel, an operator who displays the warning as a crawl, and one
who clears it. -/
def govJobs : Fin 3 → Job
  | 0 => .pass govChannel
  | 1 => .display govChannel (numeral 0) .crawl ['o', 'p'] false
  | 2 => .clear (decisionId govChannel (numeral 0))

/-- Operators write only while no pass is under way. -/
def apart (g : Fin 3 → Progress) : StoreOp → Bool
  | .upsertDecision .operator _ => ∀ t, g t = .idle
  | .clearDecision _ _ => ∀ t, g t = .idle
  | _ => true

/-- The threads take turns as in `schedule`. -/
def govRun (governed : Bool) (schedule : List (Fin 3)) :
    Option (Config (Fin 3) storeIface EasDisplayError Progress Desk) :=
  Config.drive (fun _ => Desk.machine governed) (fun _ => progress)
    (fun _ w o =>
      if h : governed = true → w.Promised o then
        some ⟨(w.store.answer 0 o).1, (w.store.answer 0 o).2, h⟩
      else none)
    (fun g o => governed = true → apart g o = true) schedule (opening govJobs oneWarning)

/-- The modes and states of the decisions after a run. -/
def shownAfter (c : Option (Config (Fin 3) storeIface EasDisplayError Progress Desk)) :
    List (EasDisplayMode × EasDisplayState) :=
  (c.map fun c => c.world.store.decisions.rows.map fun row => (row.mode, row.state)).getD []

/-- A pass reads that nothing is shown, an operator displays the warning as a crawl,
and the pass turns the crawl into an overlay. -/
theorem pass_overrides_operator :
    ¬ ∀ (T : Type) (_ : DecidableEq T) (jobs : T → Job) (alerts : AlertTable)
      (c : Config T storeIface EasDisplayError Progress Desk),
      Config.Reach (fun _ => Desk.machine false) (fun _ => progress) (fun _ _ => True)
        (opening jobs alerts) c → c.world.Authoritative := by
  intro hall
  have hrun : (govRun false [0, 1, 1, 1, 1, 0, 0, 0, 0, 0]).isSome = true := by decide +kernel
  rcases isSome_iff_exists.mp hrun with ⟨c, hc⟩
  have hreach : Config.Reach (fun _ => Desk.machine false) (fun _ => progress) (fun _ _ => True)
      (opening govJobs oneWarning) c :=
    (Config.reach_of_drive .refl hc).mono fun _ _ _ => trivial
  have hauth := hall (Fin 3) inferInstance govJobs oneWarning c hreach
  have hbroken : ∃ row ∈ c.world.store.decisions.rows,
      ((row.channelId, row.alertId), .crawl) ∈ c.world.made ∧ row.mode = .overlay := by
    have hview : (match govRun false [0, 1, 1, 1, 1, 0, 0, 0, 0, 0] with
        | some c => decide (∃ row ∈ c.world.store.decisions.rows,
            ((row.channelId, row.alertId), EasDisplayMode.crawl) ∈ c.world.made ∧
              row.mode = .overlay)
        | none => false) = true := by
      decide +kernel
    rw [hc] at hview
    exact of_decide_eq_true hview
  rcases hbroken with ⟨row, hrow, hmade, hmode⟩
  have hkept := (hauth.2 row hrow).2 _ hmade
  rw [hmode] at hkept
  cases hkept

/-- An operator displays the warning and clears it, and the pass that follows leaves
it cleared. -/
theorem operator_is_authoritative_gov :
    ∃ c : Config (Fin 3) storeIface EasDisplayError Progress Desk,
    c.world.Authoritative ∧ (govChannel, numeral 0) ∈ c.world.cleared ∧
      shownAfter (some c) = [(.crawl, .cleared)] := by
  have hrun : (govRun true [1, 1, 1, 1, 2, 2, 0, 0]).isSome = true := by decide +kernel
  rcases isSome_iff_exists.mp hrun with ⟨c, hc⟩
  have hreach : Config.Reach (fun _ => Desk.machine true) (fun _ => progress) Undisturbed
      (opening govJobs oneWarning) c := by
    refine (Config.reach_of_drive .refl hc).mono ?_
    intro g o hapart
    have hnone : (∀ t, g t = .idle) → ∀ t channelId alertId, ¬ (g t).Awaits channelId alertId := by
      intro hidle t channelId alertId hawaits
      rw [hidle t] at hawaits
      exact hawaits
    -- in this run the operator waits until the pass is over
    cases o with
    | upsertDecision caller decision =>
      cases caller with
      | pass => exact trivial
      | operator =>
        have hidle : ∀ t, g t = .idle := of_decide_eq_true (hapart rfl)
        exact fun t => hnone hidle t _ _
    | clearDecision id now =>
      have hidle : ∀ t, g t = .idle := of_decide_eq_true (hapart rfl)
      exact fun t _ _ hawaits => absurd hawaits (hnone hidle t _ _)
    | _ => exact trivial
  have hview : (match govRun true [1, 1, 1, 1, 2, 2, 0, 0] with
      | some c => decide ((govChannel, numeral 0) ∈ c.world.cleared ∧
          shownAfter (some c) = [(.crawl, .cleared)])
      | none => false) = true := by
    decide +kernel
  rw [hc] at hview
  exact ⟨c, operator_is_authoritative govJobs oneWarning c hreach, of_decide_eq_true hview⟩

end CivicCast.Eas
