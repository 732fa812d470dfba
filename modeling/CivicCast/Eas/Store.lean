import CivicCast.Eas.Models
import CivicCast.Lib.Table

/-! # The alert store

Three tables with the operations the code performs on them. The alert table has
two keys: the primary key `alert_id`, and the pair of sender and identifier by
which a repeated delivery is recognised. Both are unique, and an insert that
would break the primary key raises.

An alert is stored by `ingestAlert`: a delivery that is not newer than what is
held changes nothing, a newer one replaces the content of the row and keeps its
status, and an Update or a Cancel that was stored strikes the active alerts it
references. `get_ingest_self` and `get_ingest_of_ne` say what that does to each
row; no later proof looks inside `ingestAlert`.

The queries sort by a column and cut the result at a limit. Rows that tie stand
in table order.
-/

namespace CivicCast.Eas

open List

open Lib (Text)

inductive EasStoreError where
  | alertNotFound
  | decisionNotFound
  | integrity
deriving DecidableEq

/-- `ORDER BY key DESC LIMIT limit`. -/
def newest {α : Type} (key : α → Instant) (limit : ℕ) (rows : List α) : List α :=
  (rows.insertionSort fun a b => key b ≤ key a).take limit

section Newest

variable {α : Type} {key : α → Instant} {limit : ℕ} {rows : List α} {a : α}

lemma mem_of_mem_newest (h : a ∈ newest key limit rows) : a ∈ rows :=
  (perm_insertionSort _ rows).mem_iff.mp (mem_of_mem_take h)

lemma newest_of_sorted (h : rows.Pairwise fun a b => key b ≤ key a) :
    newest key limit rows = rows.take limit := by
  unfold newest
  rw [h.insertionSort_eq]

end Newest

/-! ## Alerts -/

def parseCapReferences (references : Option Text) : List (Text × Text) :=
  (references.getD []).words.filterMap fun token =>
    match token.fields with
    | sender :: identifier :: _ =>
      if sender.isEmpty || identifier.isEmpty then none else some (sender, identifier)
    | _ => none

/-- The `eas_cap_alerts` table with its two unique keys. -/
structure AlertTable where
  table : Lib.Table EasCapAlert (Text × Text) EasCapAlert.dedupKey
  ids : (table.rows.map EasCapAlert.alertId).Nodup

namespace AlertTable

def empty : AlertTable where
  table := .empty
  ids := List.nodup_nil

def rows (t : AlertTable) : List EasCapAlert := t.table.rows

/-- The row with the sender and the identifier. -/
def get (t : AlertTable) (key : Text × Text) : Option EasCapAlert := t.table.get key

/-- `session.get(EasCapAlertDb, alert_id)`. -/
def getAlert (t : AlertTable) (alertId : Text) : Option EasCapAlert :=
  t.rows.find? fun row => row.alertId = alertId

/-- Change the row under a key, but neither of its keys. -/
def modify (t : AlertTable) (key : Text × Text) (f : EasCapAlert → EasCapAlert)
    (hkey : ∀ row, (f row).dedupKey = row.dedupKey) (hid : ∀ row, (f row).alertId = row.alertId) :
    AlertTable where
  table := t.table.modify key f hkey
  ids := by
    have hids : (t.table.modify key f hkey).rows.map EasCapAlert.alertId =
        t.table.rows.map EasCapAlert.alertId := by
      simp only [Lib.Table.modify, List.map_map]
      apply List.map_congr_left
      intro row _
      simp only [Function.comp_apply]
      split
      · exact hid row
      · rfl
    rw [hids]
    exact t.ids

def map (t : AlertTable) (f : EasCapAlert → EasCapAlert)
    (hkey : ∀ row, (f row).dedupKey = row.dedupKey) (hid : ∀ row, (f row).alertId = row.alertId) :
    AlertTable where
  table := t.table.map f hkey
  ids := by
    have hids : (t.table.map f hkey).rows.map EasCapAlert.alertId =
        t.table.rows.map EasCapAlert.alertId := by
      simp only [Lib.Table.map, List.map_map]
      apply List.map_congr_left
      intro row _
      exact hid row
    rw [hids]
    exact t.ids

/-- Add a row under two keys that are not in use. -/
def insert (t : AlertTable) (alert : EasCapAlert) (hkey : t.get alert.dedupKey = none)
    (hid : t.getAlert alert.alertId = none) : AlertTable where
  table := t.table.insert alert hkey
  ids := by
    have hfresh : alert.alertId ∉ t.table.rows.map EasCapAlert.alertId := by
      intro hmem
      rcases List.mem_map.mp hmem with ⟨row, hrow, heq⟩
      have hnone := List.find?_eq_none.mp hid row hrow
      simp [heq] at hnone
    have hrows : (t.table.insert alert hkey).rows = t.table.rows ++ [alert] := rfl
    rw [hrows, List.map_append, List.nodup_append]
    refine ⟨t.ids, List.nodup_singleton _, ?_⟩
    intro id hid' id' hid''
    have heq : id' = alert.alertId := by simpa using hid''
    rw [heq]
    rintro rfl
    exact hfresh hid'

/-- A newer delivery of a stored alert: the content is replaced, the row keeps its
identity and its status. -/
def refresh (row alert : EasCapAlert) : EasCapAlert :=
  { alert with
    alertId := row.alertId
    sender := row.sender
    identifier := row.identifier
    status := row.status
    createdAt := row.createdAt
    alertIdBounds := row.alertIdBounds
    bounds := ⟨alert.bounds.1, row.bounds.2.1, row.bounds.2.2.1, alert.bounds.2.2.2⟩ }

variable {f : EasCapAlert → EasCapAlert} {hkey : ∀ row, (f row).dedupKey = row.dedupKey}
  {hid : ∀ row, (f row).alertId = row.alertId} (status : EasAlertStatus)

lemma refresh_dedupKey (row alert : EasCapAlert) :
    (refresh row alert).dedupKey = row.dedupKey := rfl

lemma refresh_alertId (row alert : EasCapAlert) : (refresh row alert).alertId = row.alertId := rfl

/-- The table after the content of a stored alert was replaced. -/
def replace (t : AlertTable) (alert : EasCapAlert) : AlertTable :=
  t.modify alert.dedupKey (fun row => refresh row alert) (fun row => refresh_dedupKey row alert)
    fun row => refresh_alertId row alert

/-- The status an Update or a Cancel gives to what it references. -/
def strikeStatus : EasMsgType → Option EasAlertStatus
  | .cancel => some .cancelled
  | .update => some .superseded
  | _ => none

/-- One reference of a stored Update or Cancel. -/
def strikeRow (status : EasAlertStatus) (currentAlertId : Text) (row : EasCapAlert) :
    EasCapAlert :=
  if row.alertId ≠ currentAlertId ∧ row.status = .active then { row with status := status }
  else row

lemma strikeRow_dedupKey {currentAlertId : Text}
    (row : EasCapAlert) : (strikeRow status currentAlertId row).dedupKey = row.dedupKey := by
  unfold strikeRow
  split <;> rfl

lemma strikeRow_alertId {currentAlertId : Text}
    (row : EasCapAlert) : (strikeRow status currentAlertId row).alertId = row.alertId := by
  unfold strikeRow
  split <;> rfl

def applySupersession (alert : EasCapAlert) (currentAlertId : Text) (t : AlertTable) :
    AlertTable :=
  match strikeStatus alert.msgType with
  | none => t
  | some status =>
    (parseCapReferences alert.references).foldl
      (fun t key => t.modify key (strikeRow status currentAlertId)
        (strikeRow_dedupKey status) (strikeRow_alertId status)) t

/-- `ingest_alert`: the table after it, and whether the alert was new. An insert
under an `alert_id` in use raises, and nothing is committed. -/
def ingestAlert (alert : EasCapAlert) (t : AlertTable) :
    Except EasStoreError (AlertTable × Bool) :=
  match hkey : t.get alert.dedupKey with
  | some row =>
    if alert.sent ≤ row.sent then .ok (t, false)
    else .ok ((t.replace alert).applySupersession alert row.alertId, false)
  | none =>
    if hid : t.getAlert alert.alertId = none then
      .ok ((t.insert alert hkey hid).applySupersession alert alert.alertId, true)
    else .error .integrity

/-- The rows `expire_alerts` updates. -/
def overdue (now : Instant) (row : EasCapAlert) : Bool :=
  row.status = .active && (row.expires.any fun expires => expires < now)

def expireRow (now : Instant) (row : EasCapAlert) : EasCapAlert :=
  if overdue now row then { row with status := .expired } else row

/-- `expire_alerts`: one guarded `UPDATE`, and how many rows it changed. -/
def expireAlerts (now : Instant) (t : AlertTable) : AlertTable × ℕ :=
  (t.map (expireRow now)
    (by intro row; unfold expireRow; split <;> rfl) (by intro row; unfold expireRow; split <;> rfl),
    (t.rows.filter (overdue now)).length)

/-- `list_alerts(active_only=True)`. -/
def listActiveAlerts (t : AlertTable) : List EasCapAlert :=
  newest EasCapAlert.sent 200 (t.rows.filter fun row => row.status = .active)

/-! ### What an ingest does to each row -/

variable {t t' : AlertTable} {alert row : EasCapAlert} {key key' : Text × Text} {isNew : Bool}

lemma mem_of_get (h : t.get key = some row) : row ∈ t.rows := Lib.Table.mem_of_get h

lemma key_of_get (h : t.get key = some row) : row.dedupKey = key := Lib.Table.key_of_get h

lemma get_of_mem (h : row ∈ t.rows) : t.get row.dedupKey = some row :=
  Lib.Table.get_eq_some_iff.mpr ⟨h, rfl⟩

lemma get_modify_self : (t.modify key f hkey hid).get key = (t.get key).map f :=
  Lib.Table.get_modify_self hkey

lemma get_modify_of_ne (h : key' ≠ key) : (t.modify key f hkey hid).get key' = t.get key' :=
  Lib.Table.get_modify_of_ne hkey h

lemma eq_of_alertId_eq {row' : EasCapAlert} (h : row ∈ t.rows) (h' : row' ∈ t.rows)
    (hid : row.alertId = row'.alertId) : row = row' :=
  inj_on_of_nodup_map t.ids h h' hid

lemma getAlert_eq_some_iff {alertId : Text} :
    t.getAlert alertId = some row ↔ row ∈ t.rows ∧ row.alertId = alertId := by
  constructor
  · intro h
    exact ⟨mem_of_find?_eq_some h, by simpa using find?_some h⟩
  · rintro ⟨hmem, rfl⟩
    cases hfind : t.getAlert row.alertId with
    | none =>
      have hnone := find?_eq_none.mp hfind row hmem
      simp at hnone
    | some row' =>
      have hid : row'.alertId = row.alertId := by simpa using find?_some hfind
      rw [eq_of_alertId_eq (mem_of_find?_eq_some hfind) hmem hid]

/-- The store takes a delivery: it holds nothing under the key, or something
older. -/
def Takes (t : AlertTable) (alert : EasCapAlert) : Prop :=
  ∀ row, t.get alert.dedupKey = some row → row.sent < alert.sent

/-- A row after an alert with another key was stored. -/
def struck (alert row : EasCapAlert) : EasCapAlert :=
  match strikeStatus alert.msgType with
  | some status =>
    if row.dedupKey ∈ parseCapReferences alert.references ∧ row.status = .active then
      { row with status := status }
    else row
  | none => row

def stored (alert : EasCapAlert) (held : Option EasCapAlert) : EasCapAlert :=
  held.elim alert fun row => refresh row alert

lemma strikeRow_idem (currentAlertId : Text) (row : EasCapAlert) :
    strikeRow status currentAlertId (strikeRow status currentAlertId row) =
      strikeRow status currentAlertId row := by
  unfold strikeRow
  split
  · split <;> rfl
  · rfl

/-- Striking references one by one strikes the rows whose key is among them. -/
lemma get_strikes (currentAlertId : Text) (refs : List (Text × Text)) : ∀ t : AlertTable,
    (refs.foldl (fun t key => t.modify key (strikeRow status currentAlertId)
      (strikeRow_dedupKey status) (strikeRow_alertId status)) t).get
        key = (t.get key).map fun row =>
          if key ∈ refs then strikeRow status currentAlertId row else row := by
  induction refs with
  | nil =>
    intro t
    simp
  | cons ref refs ih =>
    intro t
    rw [foldl_cons, ih]
    by_cases hkey : key = ref
    · subst hkey
      rw [get_modify_self, Option.map_map]
      congr 1
      funext row
      simp [strikeRow_idem]
    · rw [get_modify_of_ne hkey]
      simp [hkey]

lemma get_applySupersession_self (h : t.get key = some row) :
    (t.applySupersession alert row.alertId).get key = some row := by
  unfold applySupersession
  split
  · exact h
  · rw [get_strikes, h]
    simp [strikeRow]

lemma get_applySupersession_of_ne (h : t.get key = some row) (hne : key' ≠ key) :
    (t.applySupersession alert row.alertId).get key' = (t.get key').map (struck alert) := by
  cases hget : t.get key' with
  | none =>
    unfold applySupersession
    split
    · exact hget
    · rw [get_strikes, hget]
      rfl
  | some row' =>
    have hid : row'.alertId ≠ row.alertId := by
      intro heq
      have hrows := eq_of_alertId_eq (mem_of_get hget) (mem_of_get h) heq
      rw [← key_of_get hget, ← key_of_get h, hrows] at hne
      exact hne rfl
    unfold applySupersession struck
    split
    · rename_i hstatus
      simp [hstatus, hget]
    · rename_i status hstatus
      rw [get_strikes, hget]
      simp only [hstatus, Option.map_some, key_of_get hget, strikeRow]
      congr 1
      by_cases hmem : key' ∈ parseCapReferences alert.references
      · simp [hmem, hid]
      · simp [hmem]

lemma ingest_of_not_takes (h : ¬ t.Takes alert) : t.ingestAlert alert = .ok (t, false) := by
  unfold Takes at h
  push Not at h
  rcases h with ⟨row, hrow, hsent⟩
  unfold ingestAlert
  split
  · rename_i row' hrow'
    rw [hrow] at hrow'
    cases hrow'
    rw [if_pos hsent]
  · rename_i hnone
    rw [hrow] at hnone
    cases hnone

variable (h : t.ingestAlert alert = .ok (t', isNew))
include h

/-- A delivery that is taken writes its own row and then strikes its references. -/
lemma ingest_takes (htakes : t.Takes alert) :
    ∃ base : AlertTable,
      base.get alert.dedupKey = some (stored alert (t.get alert.dedupKey)) ∧
      (∀ key, key ≠ alert.dedupKey → base.get key = t.get key) ∧
      t' = base.applySupersession alert (stored alert (t.get alert.dedupKey)).alertId := by
  unfold ingestAlert at h
  split at h
  · -- an older row with the key is replaced
    rename_i row hrow
    have hnewer : ¬ alert.sent ≤ row.sent := not_le.mpr (htakes row hrow)
    rw [if_neg hnewer] at h
    cases h
    rw [hrow]
    refine ⟨t.replace alert, ?_, fun key hne => get_modify_of_ne hne, rfl⟩
    rw [replace, get_modify_self, hrow]
    rfl
  · -- no row has the key, and the alert's id is free
    rename_i hnone
    split at h
    · rename_i hid
      have hstored : stored alert (t.get alert.dedupKey) = alert := by rw [hnone]; rfl
      rw [hstored]
      cases h
      exact ⟨t.insert alert hnone hid, Lib.Table.get_insert_self hnone,
        fun key hne => Lib.Table.get_insert_of_ne hnone hne, rfl⟩
    · cases h

lemma get_ingest_self (htakes : t.Takes alert) :
    t'.get alert.dedupKey = some (stored alert (t.get alert.dedupKey)) := by
  rcases ingest_takes h htakes with ⟨base, hself, _, rfl⟩
  exact get_applySupersession_self hself

/-- A delivery that is taken strikes every other row it references. -/
lemma get_ingest_of_ne (htakes : t.Takes alert)
    (hne : key ≠ alert.dedupKey) : t'.get key = (t.get key).map (struck alert) := by
  rcases ingest_takes h htakes with ⟨base, hself, hothers, rfl⟩
  rw [get_applySupersession_of_ne hself hne, hothers key hne]

omit h

/-- An ingest raises only when another alert holds the id of a new one. -/
lemma ingest_error_iff : (∃ e, t.ingestAlert alert = .error e) ↔
    t.get alert.dedupKey = none ∧ ∃ row ∈ t.rows, row.alertId = alert.alertId := by
  unfold ingestAlert
  constructor
  · rintro ⟨e, h⟩
    split at h
    · split at h <;> cases h
    · rename_i hnone
      split at h
      · cases h
      · rename_i hid
        rcases Option.ne_none_iff_exists'.mp hid with ⟨row, hrow⟩
        rcases getAlert_eq_some_iff.mp hrow with ⟨hmem, heq⟩
        exact ⟨hnone, row, hmem, heq⟩
  · rintro ⟨hnone, row, hmem, heq⟩
    split
    · rename_i row' hrow'
      rw [hnone] at hrow'
      cases hrow'
    · have hid : t.getAlert alert.alertId ≠ none := by
        rw [getAlert_eq_some_iff.mpr ⟨hmem, heq⟩]
        exact Option.some_ne_none row
      rw [dif_neg hid]
      exact ⟨_, rfl⟩

end AlertTable

/-! ## Display decisions -/

/-- The `eas_display_decisions` table, with its primary key. -/
abbrev DecisionTable := Lib.Table EasDisplayDecision Text EasDisplayDecision.decisionId

namespace DecisionTable

/-- What an upsert leaves of the row it finds: its identity and `created_at`. -/
def rewrite (decision row : EasDisplayDecision) : EasDisplayDecision :=
  { decision with
    decisionId := row.decisionId
    createdAt := row.createdAt
    bounds := ⟨row.bounds.1, decision.bounds.2⟩ }

lemma rewrite_decisionId (decision row : EasDisplayDecision) :
    (rewrite decision row).decisionId = row.decisionId := rfl

def upsertDecision (decision : EasDisplayDecision) (t : DecisionTable) : DecisionTable :=
  t.upsert decision (rewrite decision) (rewrite_decisionId decision)

/-- `set_decision_state` to `cleared`. -/
def clearRow (now : Instant) (row : EasDisplayDecision) : EasDisplayDecision :=
  { row with state := .cleared, clearedAt := some now }

lemma clearRow_decisionId (now : Instant) (row : EasDisplayDecision) :
    (clearRow now row).decisionId = row.decisionId := rfl

def clear (now : Instant) (decisionId : Text) (t : DecisionTable) : DecisionTable :=
  t.modify decisionId (clearRow now) (clearRow_decisionId now)

def listDecisions (t : DecisionTable) (channelId : Option Text)
    (state : Option EasDisplayState) : List EasDisplayDecision :=
  newest EasDisplayDecision.createdAt 200 <|
    t.rows.filter fun row =>
      (channelId.all fun channel => row.channelId = channel) &&
        state.all fun state => row.state = state

variable {t : DecisionTable} {decision : EasDisplayDecision} {id : Text} {now : Instant}

lemma get_upsertDecision_self : (t.upsertDecision decision).get decision.decisionId =
    some ((t.get decision.decisionId).elim decision (rewrite decision)) :=
  Lib.Table.get_upsert_self

lemma get_upsertDecision_of_ne (h : id ≠ decision.decisionId) :
    (t.upsertDecision decision).get id = t.get id :=
  Lib.Table.get_upsert_of_ne h

lemma mem_upsertDecision_iff {row : EasDisplayDecision} :
    row ∈ (t.upsertDecision decision).rows ↔
      row = (t.get decision.decisionId).elim decision (rewrite decision) ∨
        (row ∈ t.rows ∧ row.decisionId ≠ decision.decisionId) := by
  have hself : ((t.get decision.decisionId).elim decision (rewrite decision)).decisionId =
      decision.decisionId := by
    cases hget : t.get decision.decisionId with
    | none => rfl
    | some held =>
      have hkey : held.decisionId = decision.decisionId := Lib.Table.key_of_get hget
      exact hkey
  by_cases hid : row.decisionId = decision.decisionId
  · have hmem : row ∈ (t.upsertDecision decision).rows ↔
        (t.upsertDecision decision).get decision.decisionId = some row := by
      rw [Lib.Table.get_eq_some_iff]
      simp [hid]
    rw [hmem, get_upsertDecision_self, Option.some.injEq]
    simp [hid, eq_comm]
  · have hmem : ∀ t : DecisionTable, row ∈ t.rows ↔ t.get row.decisionId = some row := by
      intro t
      rw [Lib.Table.get_eq_some_iff]
      simp
    rw [hmem, get_upsertDecision_of_ne hid, ← hmem]
    constructor
    · intro h
      exact .inr ⟨h, hid⟩
    · rintro (rfl | ⟨h, _⟩)
      · exact absurd hself hid
      · exact h

lemma mem_clear {row : EasDisplayDecision} (h : row ∈ (t.clear now id).rows) :
    ∃ held ∈ t.rows, row = if held.decisionId = id then clearRow now held else held := by
  rcases mem_map.mp h with ⟨held, hheld, rfl⟩
  exact ⟨held, hheld, rfl⟩

end DecisionTable

/-- The tables the display service reads and writes. -/
structure EasStore where
  alerts : AlertTable
  decisions : DecisionTable

end CivicCast.Eas
