import CivicCast.Eas.OperatorAuthority
import CivicCast.Eas.Worker

/-! # From the feed to the air without an operator

Poll scans fill the alert table, and passes put its severe alerts on the channels.
A pass looks at the status and the severity of a row and at nothing else, while a
scan hands the store every Update and every Cancel, whatever the filter of its
source says, and the store keeps them as active alerts.

`Station` is the store with two pieces of history: the delivery that each row holds
(`origin`), and what passes have put on the air (`aired`). `only_meant_aired` says
that a station whose scans hand over no severe Cancel, and no severe Update that
misses its filter, puts nothing on the air that was not meant for it. Without that
a cancellation goes on the air as if it were the warning
(`cancellation_goes_on_air`).
-/

namespace CivicCast.Eas

open List Function Option

open Lib (Text)
open Lib (Machine Exec)

/-! ## Where a row comes from -/

/-- The source and the message of the delivery that the row under a key holds. -/
abbrev Origin := Text × Text → Option (EasCapSource × EasCapAlert)

def takes (t : AlertTable) (alert : EasCapAlert) : Bool :=
  (t.get alert.dedupKey).all fun row => row.sent < alert.sent

lemma takes_iff {t : AlertTable} {alert : EasCapAlert} : takes t alert = true ↔ t.Takes alert := by
  unfold takes AlertTable.Takes
  cases t.get alert.dedupKey <;> simp

def traceOne (t : AlertTable) (source : EasCapSource) (alert : EasCapAlert)
    (origin : Origin) : Origin :=
  if takes t alert then update origin alert.dedupKey (some (source, alert)) else origin

/-- The origins after a sequence of deliveries. -/
def traceAll : List (EasCapSource × EasCapAlert) → AlertTable → Origin → Origin
  | [], _, origin => origin
  | (source, alert) :: rest, t, origin =>
    match t.ingestAlert alert with
    | .ok (t', _) => traceAll rest t' (traceOne t source alert origin)
    | .error _ => origin

/-! ## The station -/

/-- What a pass put on a channel: the row it found, and where that came from. -/
structure Airing where
  channelId : Text
  alert : EasCapAlert
  origin : Option (EasCapSource × EasCapAlert)

/-- An Alert or an Update that passed its source's filter when it was ingested. -/
def Airing.Meant (a : Airing) : Prop :=
  (a.alert.msgType = .alert ∨ a.alert.msgType = .update) ∧
    ∃ source message, a.origin = some (source, message) ∧
      alertPassesSourceFilter message source = true

structure Station where
  store : EasStore
  origin : Origin
  aired : List Airing

namespace Station

/-- Nothing was polled yet; decisions there may be. -/
def opened (decisions : DecisionTable) : Station where
  store := { alerts := .empty, decisions := decisions }
  origin := fun _ => none
  aired := []

/-- What a decision of a pass puts on the air. -/
def airing (w : Station) (decision : EasDisplayDecision) : List Airing :=
  ((w.store.alerts.getAlert decision.alertId).map fun row =>
    { channelId := decision.channelId, alert := row, origin := w.origin row.dedupKey }).toList

def after (w : Station) (o : StoreOp) : Station :=
  { w with
    store := w.store.after o
    aired :=
      match o with
      | .upsertDecision .pass decision => w.airing decision ++ w.aired
      | _ => w.aired }

def machine : Machine storeIface Station where
  pre := fun _ _ => True
  legal := fun w o x => w.store.answers o x
  next := fun w o _ => w.after o

def scan (w : Station) (env : ScanEnv) (sources : List EasCapSource) : Station :=
  let scanned := (runOnce env sources w.store.alerts).2
  { w with
    store := { w.store with alerts := scanned.alerts }
    origin := traceAll scanned.log (w.store.alerts.expireAlerts env.now).1 w.origin }

/-- Scans that satisfy `ok`, passes, and operators, who may do anything to the
decisions. -/
inductive Step (ok : ScanEnv → List EasCapSource → Prop) : Station → Station → Prop where
  | scan {w : Station} (env : ScanEnv) (sources : List EasCapSource) (h : ok env sources) :
      Step ok w (w.scan env sources)
  | operate {w : Station} (decisions : DecisionTable) :
      Step ok w { w with store := { w.store with decisions := decisions } }
  | pass {w w' : Station} (channelId : Text)
      (r : Except EasDisplayError (List EasDisplayDecision))
      (h : Exec machine (autoSurfaceActive channelId) w r w') : Step ok w w'

def Run (ok : ScanEnv → List EasCapSource → Prop) : Station → Station → Prop :=
  Relation.ReflTransGen (Step ok)

end Station

/-- A severe message that may be shown: no Cancel, and within its source's filter. -/
def Displayable (source : EasCapSource) (message : EasCapAlert) : Prop :=
  severityAtOrAbove message.severity autoSurfaceFloor = true →
    message.msgType ≠ .cancel ∧ alertPassesSourceFilter message source = true

/-- Every message that the scan hands to the store is displayable. -/
def HandsDisplayable (env : ScanEnv) (sources : List EasCapSource) : Prop :=
  ∀ source ∈ sources, ∀ message ∈ handedOf env source, Displayable source message

/-! ## Every row holds a displayable message -/

/-- Every row has the type and the severity of the delivery it holds, and that was
displayable. -/
def Attributed (t : AlertTable) (origin : Origin) : Prop :=
  ∀ row ∈ t.rows, ∃ source message, origin row.dedupKey = some (source, message) ∧
    row.msgType = message.msgType ∧ row.severity = message.severity ∧ Displayable source message

section Attributed

variable {t t' : AlertTable} {origin : Origin} {source : EasCapSource} {alert row : EasCapAlert}
  {isNew : Bool}

lemma attributed_empty {origin : Origin} : Attributed .empty origin := by
  intro row hrow
  cases hrow

lemma Attributed.restatus (h : Attributed t origin)
    (hrows : ∀ row ∈ t'.rows, ∃ held ∈ t.rows, row.dedupKey = held.dedupKey ∧
      row.msgType = held.msgType ∧ row.severity = held.severity) : Attributed t' origin := by
  intro row hrow
  rcases hrows row hrow with ⟨held, hheld, hkey, htype, hseverity⟩
  rcases h held hheld with ⟨source, message, horigin, htype', hseverity', hdisplayable⟩
  refine ⟨source, message, ?_, htype.trans htype', hseverity.trans hseverity', hdisplayable⟩
  rw [hkey]
  exact horigin

lemma Attributed.expire (h : Attributed t origin) (now : Instant) :
    Attributed (t.expireAlerts now).1 origin := by
  apply h.restatus
  intro row hrow
  rcases mem_map.mp hrow with ⟨held, hheld, rfl⟩
  refine ⟨held, hheld, ?_⟩
  unfold AlertTable.expireRow
  split <;> exact ⟨rfl, rfl, rfl⟩

lemma struck_same (alert row : EasCapAlert) :
    (AlertTable.struck alert row).dedupKey = row.dedupKey ∧
    (AlertTable.struck alert row).msgType = row.msgType ∧
    (AlertTable.struck alert row).severity = row.severity := by
  unfold AlertTable.struck
  split
  · split <;> exact ⟨rfl, rfl, rfl⟩
  · exact ⟨rfl, rfl, rfl⟩

/-- A delivery that is taken gives its row a new origin, and the others keep theirs. -/
lemma Attributed.ingest (h : Attributed t origin) (hdisplayable : Displayable source alert)
    (hingest : t.ingestAlert alert = .ok (t', isNew)) :
    Attributed t' (traceOne t source alert origin) := by
  unfold traceOne
  by_cases htakes : t.Takes alert
  · rw [if_pos (takes_iff.mpr htakes)]
    intro row hrow
    have hget := AlertTable.get_of_mem hrow
    -- its own row is new; a row it strikes keeps type and severity
    by_cases hkey : row.dedupKey = alert.dedupKey
    · rw [hkey, AlertTable.get_ingest_self hingest htakes] at hget
      have hstored := some.inj hget
      refine ⟨source, alert, ?_, ?_, ?_, hdisplayable⟩
      · rw [hkey, update_self]
      · rw [← hstored]
        cases t.get alert.dedupKey <;> rfl
      · rw [← hstored]
        cases t.get alert.dedupKey <;> rfl
    · rw [AlertTable.get_ingest_of_ne hingest htakes hkey] at hget
      rcases map_eq_some_iff.mp hget with ⟨held, hheld, rfl⟩
      rcases struck_same alert held with ⟨hsame, htype, hseverity⟩
      rcases h held (AlertTable.mem_of_get hheld) with
        ⟨source', message, horigin, htype', hseverity', hmessage⟩
      refine ⟨source', message, ?_, htype.trans htype', hseverity.trans hseverity', hmessage⟩
      rw [update_of_ne hkey, hsame]
      exact horigin
  · rw [if_neg (fun hb => htakes (takes_iff.mp hb))]
    rw [AlertTable.ingest_of_not_takes htakes] at hingest
    cases hingest
    exact h

lemma Attributed.ingestAll : ∀ {log : List (EasCapSource × EasCapAlert)} {t : AlertTable}
    {origin : Origin}, Attributed t origin → (∀ p ∈ log, Displayable p.1 p.2) →
    AlertTable.ingestAll (log.map Prod.snd) t = .ok t' →
    Attributed t' (traceAll log t origin) := by
  intro log
  induction log with
  | nil =>
    intro t origin h _ hingest
    cases hingest
    exact h
  | cons delivery rest ih =>
    intro t origin h hlog hingest
    rcases delivery with ⟨source, alert⟩
    rcases AlertTable.ingestAll_cons.mp hingest with ⟨t₁, isNew, hone, hrest⟩
    have hdisplayable := hlog (source, alert) mem_cons_self
    rw [traceAll, hone]
    apply ih (h.ingest hdisplayable hone) _ hrest
    intro p hp
    exact hlog p (mem_cons_of_mem _ hp)

lemma Attributed.meant (h : Attributed t origin) (hrow : row ∈ t.rows)
    (hsevere : severityAtOrAbove row.severity autoSurfaceFloor = true) (channelId : Text) :
    Airing.Meant { channelId := channelId, alert := row, origin := origin row.dedupKey } := by
  rcases h row hrow with ⟨source, message, horigin, htype, hseverity, hdisplayable⟩
  rw [hseverity] at hsevere
  rcases hdisplayable hsevere with ⟨hcancel, hpasses⟩
  refine ⟨?_, source, message, horigin, hpasses⟩
  rw [htype]
  unfold alertPassesSourceFilter at hpasses
  cases hmessage : message.msgType with
  | alert => exact .inl rfl
  | update => exact .inr rfl
  | cancel => exact absurd hmessage hcancel
  | ack | error => simp [hmessage] at hpasses

end Attributed

/-! ## Scans and passes -/

namespace Station

/-- Every row holds a displayable message, and all that passes put on the air was
meant for the station. -/
structure Sound (w : Station) : Prop where
  rows : Attributed w.store.alerts w.origin
  aired : ∀ a ∈ w.aired, a.Meant

variable {w w' : Station} {channelId : Text} {env : ScanEnv} {row : EasCapAlert}

lemma Sound.scan (h : w.Sound) {sources : List EasCapSource}
    (hhands : HandsDisplayable env sources) : (w.scan env sources).Sound where
  rows := by
    rcases runOnce_ingests env sources w.store.alerts with
      ⟨log, hingested, hlog, hfrom, _⟩
    rw [← hlog] at hingested hfrom
    apply (h.rows.expire env.now).ingestAll _ hingested
    intro p hp
    rcases hfrom p hp with ⟨hsource, hmessage⟩
    exact hhands p.1 hsource p.2 hmessage
  aired := h.aired

lemma Sound.read (h : w.Sound) {o : StoreOp} (hstore : w.store.after o = w.store)
    (haired : (w.after o).aired = w.aired) : (w.after o).Sound where
  rows := by
    show Attributed (w.store.after o).alerts w.origin
    rw [hstore]
    exact h.rows
  aired := by
    rw [haired]
    exact h.aired

lemma Sound.write (h : w.Sound) {decision : EasDisplayDecision}
    (hrow : row ∈ w.store.alerts.rows) (habout : decision.alertId = row.alertId)
    (hsevere : severityAtOrAbove row.severity autoSurfaceFloor = true) :
    (w.after (.upsertDecision .pass decision)).Sound where
  rows := h.rows
  aired := by
    intro a ha
    rcases mem_append.mp ha with ha | ha
    · have hfound := AlertTable.getAlert_eq_some_iff.mpr ⟨hrow, habout.symm⟩
      unfold airing at ha
      rw [hfound] at ha
      have heq : a = _ := mem_singleton.mp ha
      rw [heq]
      exact h.rows.meant hrow hsevere _
    · exact h.aired a ha

/-- `surface_alert` about a severe row keeps the station sound and the rows as they
are. -/
lemma surfaceAlert_keeps {mode : EasDisplayMode} {decidedBy : Text} {confirmed : Bool}
    {alerts : AlertTable} (hrow : row ∈ alerts.rows)
    (hsevere : severityAtOrAbove row.severity autoSurfaceFloor = true) {w : Station}
    (hw : w.Sound ∧ w.store.alerts = alerts) :
    (surfaceAlert .pass channelId row.alertId mode decidedBy confirmed).wp machine
      (fun _ w' => w'.Sound ∧ w'.store.alerts = alerts) w := by
  refine ⟨trivial, ?_⟩
  intro found _
  have hread : (w.after (.getAlert row.alertId)).Sound := hw.1.read rfl rfl
  cases found with
  | none => exact ⟨hread, hw.2⟩
  | some alert =>
    split
    · exact ⟨hread, hw.2⟩
    · refine ⟨trivial, fun now _ => ⟨trivial, fun createdAt _ => ?_⟩⟩
      dsimp only [Lib.Prog.bind]
      split
      · exact hw
      · rename_i decision hdecision
        have habout := (displayDecision_eq_some hdecision).2.2.1
        have hrow' : row ∈ w.store.alerts.rows := hw.2 ▸ hrow
        exact ⟨trivial, fun _ _ => ⟨hw.1.write hrow' habout hsevere, hw.2⟩⟩

lemma surfaceEach_keeps {shown : List Text} {table : AlertTable} :
    ∀ (alerts : List EasCapAlert), (∀ row ∈ alerts, row ∈ table.rows) → ∀ w : Station,
      w.Sound ∧ w.store.alerts = table →
      (surfaceEach channelId shown alerts).wp machine
        (fun _ w' => w'.Sound ∧ w'.store.alerts = table) w := by
  intro alerts
  induction alerts with
  | nil =>
    intro _ w hw
    exact hw
  | cons alert rest ih =>
    intro hrows w hw
    have hrest := ih fun row hrow => hrows row (mem_cons_of_mem _ hrow)
    unfold surfaceEach
    split
    · exact hrest w hw
    · split
      · exact hrest w hw
      · -- severe and not shown yet: it is written
        rename_i hsevere
        have hsevere : severityAtOrAbove alert.severity autoSurfaceFloor = true := by
          simpa using hsevere
        have hrow := hrows alert mem_cons_self
        refine Lib.Prog.wp_seq (surfaceAlert_keeps hrow hsevere hw) ?_ fun _ _ h => h
        intro decision w₁ hw₁
        refine Lib.Prog.wp_seq (hrest w₁ hw₁) ?_ fun _ _ h => h
        intro decisions w₂ hw₂
        exact hw₂

lemma Sound.pass (h : w.Sound) {r : Except EasDisplayError (List EasDisplayDecision)}
    (hpass : Exec machine (autoSurfaceActive channelId) w r w') : w'.Sound := by
  have hkeeps : (autoSurfaceActive channelId).wp machine
      (fun _ w' => w'.Sound ∧ w'.store.alerts = w.store.alerts) w := by
    refine ⟨trivial, fun shown _ => ⟨trivial, fun alerts halerts => ?_⟩⟩
    have halerts : alerts = w.store.alerts.listActiveAlerts := halerts
    have hread : (w.after (.listDecisions channelId)).Sound := h.read rfl rfl
    refine surfaceEach_keeps alerts ?_ _ ⟨hread.read rfl rfl, rfl⟩
    intro row hrow
    rw [halerts] at hrow
    exact mem_of_mem_filter (mem_of_mem_newest hrow)
  exact (hpass.post hkeeps).1

lemma Sound.step (h : w.Sound) (hstep : Step HandsDisplayable w w') : w'.Sound := by
  cases hstep with
  | scan env sources hhands => exact h.scan hhands
  | operate decisions => exact ⟨h.rows, h.aired⟩
  | pass channelId r hpass => exact h.pass hpass

/-- Along every run whose scans hand over only displayable messages, what passes put
on the air was meant for the station. -/
theorem only_meant_aired (decisions : DecisionTable) (w : Station)
    (h : Run HandsDisplayable (opened decisions) w) : ∀ a ∈ w.aired, a.Meant := by
  have hsound : w.Sound := by
    induction h with
    | refl => exact ⟨attributed_empty, by intro a ha; cases ha⟩
    | tail _ hstep ih => exact ih.step hstep
  exact hsound.aired

/-! ## A warning and a cancellation -/

/-- The station after one scan and one pass on the channel, at the time 0. -/
def scannedAndPassed (env : ScanEnv) : Station :=
  (autoSurfaceActive govChannel).finish machine (fun w o => some (w.store.answer 0 o))
    ((opened .empty).scan env [feedSource])

lemma run_scannedAndPassed {ok : ScanEnv → List EasCapSource → Prop}
    (hok : ok env [feedSource])
    (hreturns : (autoSurfaceActive govChannel).returns machine
      (fun w o => some (w.store.answer 0 o)) ((opened .empty).scan env [feedSource]) = true) :
    Run ok (opened .empty) (scannedAndPassed env) := by
  rcases Lib.Prog.exec_of_returns hreturns with ⟨decisions, hpass⟩
  exact (Relation.ReflTransGen.single (.scan env [feedSource] hok)).tail (.pass _ _ hpass)

def feedOf (feature : Json) : ScanEnv where
  rt := { feedRuntime with loads := fun _ => some (.obj [("features".toList, .arr [feature])]) }
  now := 0
  readAt := fun _ => 0
  fetch := fun _ => .body []
  writeFails := fun _ _ => false
  hookFails := fun _ => false

instance (source : EasCapSource) (message : EasCapAlert) : Decidable (Displayable source message) :=
  inferInstanceAs (Decidable (_ → _))

/-- An extreme warning passes the filter and goes on the air. -/
theorem warning_meant_and_aired : ∃ w : Station, w.aired.length = 1 ∧ ∀ a ∈ w.aired, a.Meant := by
  have hhands : HandsDisplayable (feedOf extremeFeature) [feedSource] := by
    have hall : ∀ message ∈ handedOf (feedOf extremeFeature) feedSource,
        Displayable feedSource message := by
      decide +kernel
    intro source hsource
    rw [mem_singleton.mp hsource]
    exact hall
  refine ⟨scannedAndPassed (feedOf extremeFeature), by decide +kernel, ?_⟩
  exact only_meant_aired .empty _ (run_scannedAndPassed hhands (by decide +kernel))

def cancelFeature : Json :=
  .obj [("properties".toList, .obj [
    ("id".toList, .str ['2']),
    ("sender".toList, .str ['n', 'w', 's']),
    ("messageType".toList, .str "Cancel".toList),
    ("severity".toList, .str "Extreme".toList)])]

/-- The cancellation goes on the air. -/
theorem cancellation_goes_on_air :
    ¬ ∀ (decisions : DecisionTable) (w : Station),
      Run (fun _ _ => True) (opened decisions) w → ∀ a ∈ w.aired, a.Meant := by
  intro h
  have hmeant := h .empty (scannedAndPassed (feedOf cancelFeature))
    (run_scannedAndPassed trivial (by decide +kernel))
  have haired : (scannedAndPassed (feedOf cancelFeature)).aired.map (fun a => a.alert.msgType) =
      [.cancel] := by
    decide +kernel
  rcases map_eq_singleton_iff.mp haired with ⟨a, ha, hcancel⟩
  have hmem : a ∈ (scannedAndPassed (feedOf cancelFeature)).aired := by
    rw [ha]
    exact mem_singleton_self a
  rcases (hmeant a hmem).1 with htype | htype
  · rw [hcancel] at htype
    cases htype
  · rw [hcancel] at htype
    cases htype

end Station

end CivicCast.Eas
