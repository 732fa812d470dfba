import CivicCast.Eas.Store
import CivicCast.Lib.Prog

/-! # The display service

The service turns alerts into display decisions and finds the one to present. It
reaches the store one call at a time, so its operations are programs over the
store's interface (`StoreOp`): what another caller does between two calls of a pass
is not hidden by the model. `EasStore.answers` and `EasStore.after` give the calls
their meaning on the tables.

`activePresentation` only reads, and is a function of the tables. It looks at the
200 newest displayed decisions of the channel; `worst_on_air_iff` says when that is
enough.
-/

namespace CivicCast.Eas

open List Option

open Lib (Text)

inductive OverlaySeverity where
  | watch
  | warning
  | emergency
deriving DecidableEq

/-- What the resident player renders. The fields with one constant value are not
kept. -/
structure EmergencyOverlay where
  overlayId : Text
  severity : OverlaySeverity
  title : Text
  message : Text
  instructions : Text
deriving DecidableEq

def autoSurfaceFloor : EasSeverity := .severe

def overlaySeverityFor : EasSeverity → OverlaySeverity
  | .extreme => .emergency
  | .severe => .warning
  | _ => .watch

def recommendedMode (alert : EasCapAlert) : EasDisplayMode :=
  if alert.severity = .extreme then .overlay else .crawl

/-- The first text that is there and not empty, or the last resort. -/
def firstText : List (Option Text) → Text → Text
  | [], last => last
  | none :: rest, last => firstText rest last
  | some t :: rest, last => if t.isEmpty then firstText rest last else t

def alertToEmergencyOverlay (alert : EasCapAlert) (overlayId : Text) : EmergencyOverlay where
  overlayId := overlayId
  severity := overlaySeverityFor alert.severity
  title := (firstText [alert.headline, some alert.event] "Public safety alert".toList).take 160
  message := firstText [alert.headline, alert.description] alert.event
  instructions :=
    firstText [alert.instruction] "Monitor local authorities for more information.".toList

def overlayId (channelId alertId : Text) : Text :=
  ("eas-".toList ++ channelId ++ '-' :: alertId).take 120

def decisionId (channelId alertId : Text) : Text :=
  ("eas-decision-".toList ++ channelId ++ '-' :: alertId).take 160

lemma decisionId_bounds (channelId alertId : Text) :
    1 ≤ (decisionId channelId alertId).length ∧ (decisionId channelId alertId).length ≤ 160 := by
  have hlabel : "eas-decision-".toList.length = 13 := rfl
  unfold decisionId
  rw [length_take, length_append, length_append, hlabel]
  omega

/-! ## Presentation -/

/-- The alert of a displayed decision, if it is there, active, not expired and in
effect. -/
def presentedAlert (now : Instant) (alerts : AlertTable) (decision : EasDisplayDecision) :
    Option EasCapAlert :=
  match alerts.getAlert decision.alertId with
  | none => none
  | some alert =>
    if alert.status ≠ .active then none
    else if (alert.expires.any fun expires => expires ≤ now) then none
    else if (alert.effective.any fun effective => now < effective) then none
    else some alert

/-- One round of the loop: a worse alert replaces the best so far. -/
def worse (now : Instant) (alerts : AlertTable)
    (best : Option (EasDisplayDecision × EasCapAlert)) (decision : EasDisplayDecision) :
    Option (EasDisplayDecision × EasCapAlert) :=
  match presentedAlert now alerts decision with
  | none => best
  | some alert =>
    match best with
    | none => some (decision, alert)
    | some (held, heldAlert) =>
      if heldAlert.severity.rank < alert.severity.rank then some (decision, alert)
      else some (held, heldAlert)

/-- `best_decision` and `best_alert` after the loop. -/
def activeChoice (st : EasStore) (now : Instant) (channelId : Text) :
    Option (EasDisplayDecision × EasCapAlert) :=
  (st.decisions.listDecisions (some channelId) (some .displayed)).foldl (worse now st.alerts) none

def activePresentation (st : EasStore) (now : Instant) (channelId : Text) :
    Option (EasDisplayMode × EmergencyOverlay) :=
  (activeChoice st now channelId).map fun (decision, alert) =>
    (decision.mode, alertToEmergencyOverlay alert (overlayId channelId alert.alertId))

/-- A displayed decision of the channel, with its active, effective and unexpired
alert. -/
structure Presentable (st : EasStore) (now : Instant) (channelId : Text)
    (decision : EasDisplayDecision) (alert : EasCapAlert) : Prop where
  decided : decision ∈ st.decisions.rows
  channel : decision.channelId = channelId
  displayed : decision.state = .displayed
  stored : alert ∈ st.alerts.rows
  about : alert.alertId = decision.alertId
  active : alert.status = .active
  unexpired : ∀ expires, alert.expires = some expires → now < expires
  effective : ∀ effective, alert.effective = some effective → effective ≤ now

/-- The channel presents the worst alert there is to present, and nothing only when
there is none. -/
def WorstOnAir (st : EasStore) (now : Instant) (channelId : Text) : Prop :=
  (activePresentation st now channelId = none ↔
    ¬ ∃ decision alert, Presentable st now channelId decision alert) ∧
  ∀ decision alert, activeChoice st now channelId = some (decision, alert) →
    activePresentation st now channelId = some (decision.mode,
      alertToEmergencyOverlay alert (overlayId channelId alert.alertId)) ∧
    Presentable st now channelId decision alert ∧
    ∀ decision' alert', Presentable st now channelId decision' alert' →
      alert'.severity.rank ≤ alert.severity.rank

section Presentation

variable {st : EasStore} {now : Instant} {channelId : Text} {alerts : AlertTable}
  {decision : EasDisplayDecision} {alert : EasCapAlert} {n : ℕ}
  {best : Option (EasDisplayDecision × EasCapAlert)}

lemma presentedAlert_eq_some_iff : presentedAlert now alerts decision = some alert ↔
    alert ∈ alerts.rows ∧ alert.alertId = decision.alertId ∧ alert.status = .active ∧
      (∀ expires, alert.expires = some expires → now < expires) ∧
      ∀ effective, alert.effective = some effective → effective ≤ now := by
  unfold presentedAlert
  constructor
  · intro h
    split at h
    · cases h
    · -- found; then the status, the expiry and the effective time are looked at
      rename_i row hrow
      rcases AlertTable.getAlert_eq_some_iff.mp hrow with ⟨hmem, hid⟩
      split at h
      · cases h
      · rename_i hactive
        split at h
        · cases h
        · rename_i hexpires
          split at h
          · cases h
          · rename_i heffective
            cases h
            refine ⟨hmem, hid, by simpa using hactive, ?_, ?_⟩
            · intro expires hsome
              simpa [hsome] using hexpires
            · intro effective hsome
              simpa [hsome] using heffective
  · rintro ⟨hmem, hid, hactive, hexpires, heffective⟩
    rw [AlertTable.getAlert_eq_some_iff.mpr ⟨hmem, hid⟩]
    have hunexpired : (alert.expires.any fun expires => decide (expires ≤ now)) = false := by
      cases hsome : alert.expires with
      | none => rfl
      | some expires => simpa using hexpires expires hsome
    have hineffect : (alert.effective.any fun effective => decide (now < effective)) = false := by
      cases hsome : alert.effective with
      | none => rfl
      | some effective => simpa using heffective effective hsome
    simp [hactive, hunexpired, hineffect]

variable (h : decision ∈ st.decisions.listDecisions (some channelId) (some .displayed))
include h

lemma mem_listDecisions :
    decision ∈ st.decisions.rows ∧ decision.channelId = channelId ∧
      decision.state = .displayed := by
  have hmem := mem_of_mem_newest h
  simpa using hmem

lemma presentable_of_mem (halert : presentedAlert now st.alerts decision = some alert) :
    Presentable st now channelId decision alert := by
  rcases mem_listDecisions h with ⟨hdecided, hchannel, hdisplayed⟩
  rcases presentedAlert_eq_some_iff.mp halert with ⟨hstored, habout, hactive, hexpires, heffective⟩
  exact ⟨hdecided, hchannel, hdisplayed, hstored, habout, hactive, hexpires, heffective⟩

omit h

lemma Presentable.presentedAlert (h : Presentable st now channelId decision alert) :
    presentedAlert now st.alerts decision = some alert :=
  presentedAlert_eq_some_iff.mpr ⟨h.stored, h.about, h.active, h.unexpired, h.effective⟩

lemma worse_eq_none_iff :
    worse now alerts best decision = none ↔
      best = none ∧ presentedAlert now alerts decision = none := by
  unfold worse
  cases presentedAlert now alerts decision with
  | none => simp
  | some candidate =>
    cases best with
    | none => simp
    | some held =>
      simp only [reduceCtorEq, false_and, iff_false]
      split <;> simp

/-- A round keeps what was held or takes the decision, whichever is worse. -/
lemma of_worse_eq_some
    {held : EasDisplayDecision} (h : worse now alerts best decision = some (held, alert)) :
    (best = some (held, alert) ∨
      (held = decision ∧ presentedAlert now alerts decision = some alert)) ∧
    (∀ d a, best = some (d, a) → a.severity.rank ≤ alert.severity.rank) ∧
    ∀ a, presentedAlert now alerts decision = some a → a.severity.rank ≤ alert.severity.rank := by
  unfold worse at h
  split at h
  · -- nothing is presented: what was held stays
    rename_i hnone
    subst h
    refine ⟨.inl rfl, ?_, ?_⟩
    · intro d a heq
      cases heq
      exact le_refl _
    · intro a heq
      rw [hnone] at heq
      cases heq
  · rename_i candidate hcandidate
    split at h
    · cases h
      refine ⟨.inr ⟨rfl, hcandidate⟩, ?_, ?_⟩
      · intro d a heq
        cases heq
      · intro a heq
        rw [hcandidate] at heq
        cases heq
        exact le_refl _
    · split at h
      · -- more severe than what was held
        rename_i hlt
        cases h
        refine ⟨.inr ⟨rfl, hcandidate⟩, ?_, ?_⟩
        · intro d a heq
          cases heq
          exact le_of_lt hlt
        · intro a heq
          rw [hcandidate] at heq
          cases heq
          exact le_refl _
      · -- no more severe: the first seen stays
        rename_i hle
        cases h
        refine ⟨.inl rfl, ?_, ?_⟩
        · intro d a heq
          cases heq
          exact le_refl _
        · intro a heq
          rw [hcandidate] at heq
          cases heq
          exact not_lt.mp hle

lemma foldl_worse_eq_none_iff {decisions : List EasDisplayDecision} :
    ∀ best, decisions.foldl (worse now alerts) best = none ↔
      best = none ∧ ∀ d ∈ decisions, presentedAlert now alerts d = none := by
  induction decisions with
  | nil =>
    intro best
    simp
  | cons d decisions ih =>
    intro best
    rw [foldl_cons, ih, worse_eq_none_iff, forall_mem_cons, and_assoc]

/-- The loop ends with the best so far or with a decision it saw, and with nothing
less severe than either. -/
lemma of_foldl_worse_eq_some {decisions : List EasDisplayDecision} :
    ∀ best, decisions.foldl (worse now alerts) best = some (decision, alert) →
      (best = some (decision, alert) ∨
        (decision ∈ decisions ∧ presentedAlert now alerts decision = some alert)) ∧
      (∀ d a, best = some (d, a) → a.severity.rank ≤ alert.severity.rank) ∧
      ∀ d ∈ decisions, ∀ a, presentedAlert now alerts d = some a →
        a.severity.rank ≤ alert.severity.rank := by
  induction decisions with
  | nil =>
    intro best h
    subst h
    refine ⟨.inl rfl, ?_, by simp⟩
    intro d a heq
    cases heq
    exact le_refl _
  | cons first decisions ih =>
    intro best h
    rw [foldl_cons] at h
    rcases ih _ h with ⟨hfrom, hheld, hrest⟩
    rcases hworse : worse now alerts best first with _ | ⟨d₁, a₁⟩
    · -- nothing presentable up to here
      rcases worse_eq_none_iff.mp hworse with ⟨rfl, hnone⟩
      rw [hworse] at hfrom
      refine ⟨?_, by simp, ?_⟩
      · rcases hfrom with hfrom | ⟨hmem, halert⟩
        · cases hfrom
        · exact .inr ⟨mem_cons_of_mem _ hmem, halert⟩
      · intro d hd a ha
        rcases mem_cons.mp hd with rfl | hd
        · rw [hnone] at ha
          cases ha
        · exact hrest d hd a ha
    · rcases of_worse_eq_some hworse with ⟨hfirst, hbest, hcandidate⟩
      have hle := hheld d₁ a₁ hworse
      refine ⟨?_, ?_, ?_⟩
      · rcases hfrom with hfrom | ⟨hmem, halert⟩
        · rw [hworse] at hfrom
          cases hfrom
          rcases hfirst with hfirst | ⟨rfl, halert⟩
          · exact .inl hfirst
          · exact .inr ⟨mem_cons_self, halert⟩
        · exact .inr ⟨mem_cons_of_mem _ hmem, halert⟩
      · intro d a heq
        exact le_trans (hbest d a heq) hle
      · intro d hd a ha
        rcases mem_cons.mp hd with rfl | hd
        · exact le_trans (hcandidate a ha) hle
        · exact hrest d hd a ha

lemma presentation_of_choice (h : activeChoice st now channelId = some (decision, alert)) :
    activePresentation st now channelId = some (decision.mode,
      alertToEmergencyOverlay alert (overlayId channelId alert.alertId)) := by
  unfold activePresentation
  rw [h]
  rfl

/-- The choice is a decision the loop saw, and none it saw is worse. -/
lemma of_choice (h : activeChoice st now channelId = some (decision, alert)) :
    decision ∈ st.decisions.listDecisions (some channelId) (some .displayed) ∧
    Presentable st now channelId decision alert ∧
    ∀ d ∈ st.decisions.listDecisions (some channelId) (some .displayed), ∀ a,
      Presentable st now channelId d a → a.severity.rank ≤ alert.severity.rank := by
  rcases of_foldl_worse_eq_some none h with ⟨hfrom, _, hseen⟩
  rcases hfrom with hfrom | ⟨hmem, halert⟩
  · cases hfrom
  · refine ⟨hmem, presentable_of_mem hmem halert, ?_⟩
    intro d hd a hpresentable
    exact hseen d hd a hpresentable.presentedAlert

/-- The query returns, for every alert there is to present, one at least as
severe. -/
def WindowHoldsWorst (st : EasStore) (now : Instant) (channelId : Text) : Prop :=
  ∀ decision alert, Presentable st now channelId decision alert →
    ∃ decision' ∈ st.decisions.listDecisions (some channelId) (some .displayed),
      ∃ alert', Presentable st now channelId decision' alert' ∧
        alert.severity.rank ≤ alert'.severity.rank

lemma worst_of_window (hwindow : WindowHoldsWorst st now channelId) :
    WorstOnAir st now channelId := by
  constructor
  · unfold activePresentation
    rw [map_eq_none_iff]
    constructor
    · rintro hnone ⟨decision, alert, hpresentable⟩
      rcases hwindow decision alert hpresentable with ⟨d, hd, a, hpresentable', _⟩
      have hseen := ((foldl_worse_eq_none_iff none).mp hnone).2 d hd
      have hsome := hpresentable'.presentedAlert
      rw [hseen] at hsome
      cases hsome
    · intro hnone
      by_contra hsome
      rcases ne_none_iff_exists'.mp hsome with ⟨⟨decision, alert⟩, hchoice⟩
      exact hnone ⟨decision, alert, (of_choice hchoice).2.1⟩
  · intro decision alert hchoice
    rcases of_choice hchoice with ⟨_, hpresentable, hseen⟩
    refine ⟨presentation_of_choice hchoice, hpresentable, ?_⟩
    intro d a hpresentable'
    rcases hwindow d a hpresentable' with ⟨d', hd', a', hpresentable'', hle⟩
    exact le_trans hle (hseen d' hd' a' hpresentable'')

lemma window_of_worst (hworst : WorstOnAir st now channelId) :
    WindowHoldsWorst st now channelId := by
  intro decision alert hpresentable
  have hsome : activePresentation st now channelId ≠ none := by
    intro hnone
    exact hworst.1.mp hnone ⟨decision, alert, hpresentable⟩
  unfold activePresentation at hsome
  rw [Ne, map_eq_none_iff] at hsome
  rcases ne_none_iff_exists'.mp hsome with ⟨⟨d, a⟩, hchoice⟩
  rcases of_choice hchoice with ⟨hmem, hpresentable', _⟩
  exact ⟨d, hmem, a, hpresentable', (hworst.2 d a hchoice).2.2 decision alert hpresentable⟩

/-- The worst alert is on air exactly when the newest displayed decisions of the
channel, as far as the query returns them, hold one at least as severe as every
alert there is to present. -/
theorem worst_on_air_iff (st : EasStore) (now : Instant) (channelId : Text) :
    WorstOnAir st now channelId ↔ WindowHoldsWorst st now channelId :=
  ⟨window_of_worst, worst_of_window⟩

/-- A text of its own for every number up to 400. -/
def numeral (n : ℕ) : Text :=
  List.replicate (min n 400 / 20) 'a' ++ 'b' :: List.replicate (n % 20) 'c'

lemma numeral_length (n : ℕ) : 1 ≤ (numeral n).length ∧ (numeral n).length ≤ 40 := by
  simp only [numeral, length_append, length_replicate, length_cons]
  omega

lemma numeral_inj {m : ℕ} (hn : n ≤ 400) (hm : m ≤ 400) (h : numeral n = numeral m) : n = m := by
  have ha := congrArg (count 'a') h
  have hc := congrArg (count 'c') h
  simp [numeral, count_replicate, hn, hm] at ha hc
  omega

/-- Alert number `n`: the first is a long extreme warning, the others are over. -/
def numberedAlert (n : ℕ) : EasCapAlert where
  alertId := numeral n
  sourceId := ['s']
  sender := ['n', 'w', 's']
  identifier := numeral n
  sent := n
  msgType := .alert
  status := if n = 0 then .active else .expired
  event := ['T']
  severity := .extreme
  urgency := []
  certainty := []
  headline := none
  description := none
  instruction := none
  areas := []
  references := none
  effective := none
  onset := none
  expires := none
  createdAt := n
  alertIdBounds := by have := numeral_length n; omega
  bounds := by have := numeral_length n; simp; omega

/-- The decision that put it on the channel. -/
def numberedDecision (n : ℕ) : EasDisplayDecision where
  decisionId := numeral n
  alertId := numeral n
  channelId := ['g', 'o', 'v']
  mode := .overlay
  state := .displayed
  decidedBy := ['a', 'u', 't', 'o']
  autoSurfaced := true
  overlayId := none
  reason := none
  displayedAt := some n
  clearedAt := none
  expiresAt := none
  createdAt := n
  bounds := by have := numeral_length n; simp; omega

/-- The numbers 200 to 1. -/
def laterNumbers : List ℕ := ((List.range 200).map Nat.succ).reverse

lemma laterNumbers_append : laterNumbers ++ [0] = (List.range 201).reverse := by
  rw [range_succ_eq_map, reverse_cons]
  rfl

lemma mem_laterNumbers_append : n ∈ laterNumbers ++ [0] ↔ n < 201 := by
  rw [laterNumbers_append, mem_reverse, mem_range]

lemma pos_of_mem_laterNumbers (h : n ∈ laterNumbers) : n ≠ 0 := by
  rcases mem_map.mp (mem_reverse.mp h) with ⟨m, _, rfl⟩
  exact Nat.succ_ne_zero m

lemma nodup_numbered {α : Type} {f : ℕ → α} (hf : ∀ n ≤ 400, ∀ m ≤ 400, f n = f m → n = m) :
    ((laterNumbers ++ [0]).map f).Nodup := by
  refine List.Nodup.map_on ?_ ?_
  · intro n hn m hm heq
    have hn := mem_laterNumbers_append.mp hn
    have hm := mem_laterNumbers_append.mp hm
    exact hf n (by omega) m (by omega) heq
  · rw [laterNumbers_append, nodup_reverse]
    exact nodup_range

/-- The store after 201 alerts were shown and the last 200 expired. -/
def longWatch : EasStore where
  alerts := {
    table := {
      rows := (laterNumbers ++ [0]).map numberedAlert
      nodup := by
        rw [List.map_map]
        apply nodup_numbered
        intro n hn m hm heq
        exact numeral_inj hn hm (congrArg Prod.snd heq) }
    ids := by
      rw [List.map_map]
      exact nodup_numbered fun n hn m hm heq => numeral_inj hn hm heq }
  decisions := {
    rows := (laterNumbers ++ [0]).map numberedDecision
    nodup := by
      rw [List.map_map]
      exact nodup_numbered fun n hn m hm heq => numeral_inj hn hm heq }

/-- The query returns the 200 decisions whose alerts are over. -/
lemma longWatch_listDecisions :
    longWatch.decisions.listDecisions (some ['g', 'o', 'v']) (some .displayed) =
      laterNumbers.map numberedDecision := by
  have hall : (longWatch.decisions.rows.filter fun row =>
      ((some ['g', 'o', 'v'] : Option Text).all fun channel => decide (row.channelId = channel)) &&
        (some EasDisplayState.displayed).all fun state => decide (row.state = state)) =
      (laterNumbers ++ [0]).map numberedDecision := by
    apply filter_eq_self.mpr
    intro row hrow
    rcases mem_map.mp hrow with ⟨n, _, rfl⟩
    simp [numberedDecision]
  unfold DecisionTable.listDecisions
  rw [hall, newest_of_sorted, map_append]
  · exact take_left' (by simp [laterNumbers])
  · rw [pairwise_map]
    rw [laterNumbers_append, pairwise_reverse]
    exact pairwise_lt_range.imp fun h => Int.ofNat_le.mpr (le_of_lt h)

/-- The warning that is still in force is not presented: its decision is the oldest
of 201. -/
theorem long_warning_not_presented : ¬ WorstOnAir longWatch 0 ['g', 'o', 'v'] := by
  intro hworst
  have hchoice : activeChoice longWatch 0 ['g', 'o', 'v'] = none := by
    unfold activeChoice
    rw [longWatch_listDecisions, foldl_worse_eq_none_iff]
    refine ⟨rfl, ?_⟩
    intro d hd
    rcases mem_map.mp hd with ⟨n, hn, rfl⟩
    by_contra hsome
    rcases ne_none_iff_exists'.mp hsome with ⟨alert, halert⟩
    rcases presentedAlert_eq_some_iff.mp halert with ⟨hstored, habout, hactive, _⟩
    rcases mem_map.mp hstored with ⟨m, hm, rfl⟩
    have hm := mem_laterNumbers_append.mp hm
    have hn' := mem_laterNumbers_append.mp (mem_append_left [0] hn)
    have heq : m = n := numeral_inj (by omega) (by omega) habout
    have hactive : (if m = 0 then EasAlertStatus.active else .expired) = .active := hactive
    rw [if_neg (heq ▸ pos_of_mem_laterNumbers hn)] at hactive
    cases hactive
  have hnone : activePresentation longWatch 0 ['g', 'o', 'v'] = none := by
    unfold activePresentation
    rw [hchoice]
    rfl
  refine hworst.1.mp hnone ⟨numberedDecision 0, numberedAlert 0, ?_⟩
  exact {
    decided := mem_map.mpr ⟨0, by simp, rfl⟩
    channel := rfl
    displayed := rfl
    stored := mem_map.mpr ⟨0, by simp, rfl⟩
    about := rfl
    active := rfl
    unexpired := by intro expires h; cases h
    effective := by intro effective h; cases h }

end Presentation

/-! ## Display decisions -/

/-- Who makes a call. The store does not look at it. -/
inductive Caller where
  | pass
  | operator
deriving DecidableEq

/-- The calls of the service and of the ingest, each of them one session. -/
inductive StoreOp where
  | listDecisions (channelId : Text)
  | listActiveAlerts
  | getAlert (alertId : Text)
  | upsertDecision (caller : Caller) (decision : EasDisplayDecision)
  | clearDecision (decisionId : Text) (now : Instant)
  | ingestAlert (alert : EasCapAlert)
  | expireAlerts (now : Instant)
  | clock

/-- What each call returns; a decision to clear that is not there is `none`. -/
def StoreOp.Ans : StoreOp → Type
  | listDecisions _ => List EasDisplayDecision
  | listActiveAlerts => List EasCapAlert
  | getAlert _ => Option EasCapAlert
  | upsertDecision _ _ => Unit
  | clearDecision _ _ => Bool
  | ingestAlert _ => Unit
  | expireAlerts _ => Unit
  | clock => Instant

abbrev storeIface : Lib.Iface where
  Op := StoreOp
  Ans := StoreOp.Ans

inductive EasDisplayError where
  | alertNotFound
  | unconfirmedSlate
  | validation
  | decisionNotFound
deriving DecidableEq

abbrev Service := Lib.Prog storeIface EasDisplayError

def ask (o : StoreOp) : Service o.Ans := Lib.Prog.lift (I := storeIface) o

def autoText : Text := "auto".toList

def EasSeverity.text : EasSeverity → Text
  | unknown => "unknown".toList
  | minor => "minor".toList
  | moderate => "moderate".toList
  | severe => "severe".toList
  | extreme => "extreme".toList

/-- The decision `surface_alert` builds; `none` where a field is out of bounds. -/
def displayDecision (channelId alertId decidedBy : Text) (mode : EasDisplayMode)
    (alert : EasCapAlert) (now createdAt : Instant) : Option EasDisplayDecision :=
  if h : (1 ≤ alertId.length ∧ alertId.length ≤ 160) ∧
      (1 ≤ channelId.length ∧ channelId.length ≤ 120) ∧
      (1 ≤ decidedBy.length ∧ decidedBy.length ≤ 120) then
    some {
      decisionId := decisionId channelId alertId
      alertId := alertId
      channelId := channelId
      mode := mode
      state := .displayed
      decidedBy := decidedBy
      autoSurfaced := decidedBy = autoText
      overlayId := some (overlayId channelId alertId)
      reason := some
        ((alert.event ++ " (".toList ++ alert.severity.text ++ ")".toList).take 500)
      displayedAt := some now
      clearedAt := none
      expiresAt := alert.expires
      createdAt := createdAt
      bounds := by
        refine ⟨?_, h.1, h.2.1, h.2.2, ?_, ?_⟩
        · exact decisionId_bounds channelId alertId
        · exact List.length_take_le 120 _
        · exact List.length_take_le 500 _ }
  else none

def surfaceAlert (caller : Caller) (channelId alertId : Text) (mode : EasDisplayMode)
    (decidedBy : Text) (operatorConfirmed : Bool) : Service EasDisplayDecision := do
  match ← ask (.getAlert alertId) with
  | none => .raise .alertNotFound
  | some alert =>
    if mode = .forcedSlate ∧ (operatorConfirmed = false ∨ decidedBy = autoText) then
      .raise .unconfirmedSlate
    else
      let now ← ask .clock
      let createdAt ← ask .clock
      match displayDecision channelId alertId decidedBy mode alert now createdAt with
      | none => .raise .validation
      | some decision =>
        ask (.upsertDecision caller decision)
        return decision

/-- The loop of `auto_surface_active`. -/
def surfaceEach (channelId : Text) (shown : List Text) :
    List EasCapAlert → Service (List EasDisplayDecision)
  | [] => return []
  | alert :: rest =>
    if alert.alertId ∈ shown then surfaceEach channelId shown rest
    else if ¬ severityAtOrAbove alert.severity autoSurfaceFloor then
      surfaceEach channelId shown rest
    else do
      let decision ←
        surfaceAlert .pass channelId alert.alertId (recommendedMode alert) autoText false
      let decisions ← surfaceEach channelId shown rest
      return decision :: decisions

def autoSurfaceActive (channelId : Text) : Service (List EasDisplayDecision) := do
  let shown ← ask (.listDecisions channelId)
  let alerts ← ask .listActiveAlerts
  surfaceEach channelId (shown.map fun decision => decision.alertId) alerts

def clearDecision (decisionId : Text) : Service Unit := do
  let now ← ask .clock
  match ← ask (.clearDecision decisionId now) with
  | true => return ()
  | false => .raise .decisionNotFound

def EasStore.after (st : EasStore) : StoreOp → EasStore
  | .upsertDecision _ decision => { st with decisions := st.decisions.upsertDecision decision }
  | .clearDecision decisionId now => { st with decisions := st.decisions.clear now decisionId }
  | .ingestAlert alert =>
    match st.alerts.ingestAlert alert with
    | .ok (alerts, _) => { st with alerts := alerts }
    | .error _ => st
  | .expireAlerts now => { st with alerts := (st.alerts.expireAlerts now).1 }
  | _ => st

def EasStore.answers (st : EasStore) : (o : StoreOp) → o.Ans → Prop
  | .listDecisions channelId, rows => rows = st.decisions.listDecisions (some channelId) none
  | .listActiveAlerts, rows => rows = st.alerts.listActiveAlerts
  | .getAlert alertId, row => row = st.alerts.getAlert alertId
  | .clearDecision decisionId _, found => found = (st.decisions.get decisionId).isSome
  | .upsertDecision _ _, _ => True
  | .ingestAlert _, _ => True
  | .expireAlerts _, _ => True
  | .clock, _ => True

end CivicCast.Eas
