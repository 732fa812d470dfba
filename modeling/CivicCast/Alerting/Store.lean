import CivicCast.Lib.Python
import CivicCast.Lib.Table

/-! # The alerting store

Rules, channels, events and deliveries, and what the store functions do to them inside one
transaction. `record_alert_condition` is the hub that every section reports a condition to: it
creates an event, counts the condition on the one that is firing, or resolves it. The lookup of
the firing event raises where more than one is found.

An id drawn at random is one that the table does not have yet.
-/

namespace CivicCast.Alerting

open Lib (Text Table)

/-- Microseconds since the epoch, in UTC. -/
abbrev Instant := ℤ

def seconds (n : ℤ) : ℤ := n * 1000000

/-! ## Models -/

inductive AlertSeverity where
  | critical | warning | info
deriving DecidableEq

inductive AlertConditionKind where
  | offAir | encoderDeath | serverCrash | schemaDrift | relayBlocked | complianceProbeFail
  | missingMedia | commitFailure | takeoverStuck2h | aiRuntimeDown | diskLow | clockSkew
  | dbUnreachable | serviceDown | selfTestFail | remoteContributionCoprocessDown
  | remoteContributionTurnUnreachable | remoteContributionGuestDrop | easSourceUnavailable
  | scheduledRecordingFailure | scheduledRecordingDropout | asrunOutboxDegraded
  | channelAutomationFailure | captionTierDegraded | liveCaptionFailure
deriving DecidableEq

inductive AlertChannelKind where
  | email | sms | webhook
deriving DecidableEq

inductive AlertDeliveryStatus where
  | sent | failed | suppressed | deadLetter
deriving DecidableEq

inductive AlertEventState where
  | firing | resolved
deriving DecidableEq

structure AlertRule where
  ruleId : Text
  condition : AlertConditionKind
  enabled : Bool
  severity : AlertSeverity
  channelIds : List Text
  reAlertAfterSeconds : ℕ
  scopeChannelId : Option Text
  notifyOnResolve : Bool
deriving DecidableEq

/-- An `HH:MM` that passed validation. -/
structure QuietTime where
  hour : Fin 24
  minute : Fin 60
deriving DecidableEq

structure AlertChannel where
  channelId : Text
  kind : AlertChannelKind
  label : Text
  enabled : Bool
  quietHoursStartUtc : Option QuietTime
  quietHoursEndUtc : Option QuietTime
deriving DecidableEq

structure AlertEvent where
  eventId : ℕ
  ruleId : Text
  condition : AlertConditionKind
  severity : AlertSeverity
  state : AlertEventState
  resourceRef : Text
  summary : Text
  detail : Text
  sourceSection : Text
  firstObservedAt : Instant
  lastObservedAt : Instant
  resolvedAt : Option Instant
  occurrenceCount : ℕ
deriving DecidableEq

structure AlertEventDelivery where
  deliveryId : ℕ
  eventId : ℕ
  alertChannelId : Text
  kind : AlertChannelKind
  status : AlertDeliveryStatus
  attempts : ℕ
  nextAttemptAt : Option Instant
  lastError : Text
  dispatchedAt : Instant
deriving DecidableEq

abbrev EventTable : Type := Table AlertEvent ℕ AlertEvent.eventId

abbrev DeliveryTable : Type := Table AlertEventDelivery ℕ AlertEventDelivery.deliveryId

structure Db where
  rules : List AlertRule
  channels : Table AlertChannel Text AlertChannel.channelId
  events : EventTable
  deliveries : DeliveryTable

/-- An id that no row of the table has. -/
def draw {α : Type} {key : α → ℕ} (t : Table α ℕ key) : ℕ :=
  (t.rows.map key).foldr max 0 + 1

lemma le_foldr_max {k : ℕ} : ∀ {ks : List ℕ}, k ∈ ks → k ≤ ks.foldr max 0
  | _ :: _, .head _ => le_max_left _ _
  | _ :: _, .tail _ h => (le_foldr_max h).trans (le_max_right _ _)

lemma get_draw {α : Type} {key : α → ℕ} (t : Table α ℕ key) : t.get (draw t) = none := by
  rw [Table.get_eq_none_iff]
  intro a ha
  have hle : key a ≤ (t.rows.map key).foldr max 0 := le_foldr_max (List.mem_map_of_mem ha)
  unfold draw
  omega

/-! ## Events -/

/-- `scalar_one_or_none` finds more than one row. -/
inductive StoreError where
  | multipleResultsFound
deriving DecidableEq

/-- The event fires for the condition on the resource. -/
def AlertEvent.Fires (kind : AlertConditionKind) (resourceRef : Text) (e : AlertEvent) : Bool :=
  e.condition = kind && e.resourceRef = resourceRef && e.state = .firing

def scalarOneOrNone {α : Type} : List α → Except StoreError (Option α)
  | [] => .ok none
  | [a] => .ok (some a)
  | _ => .error .multipleResultsFound

def Db.findFiringEvent (db : Db) (kind : AlertConditionKind) (resourceRef : Text) :
    Except StoreError (Option AlertEvent) :=
  scalarOneOrNone (db.events.rows.filter (AlertEvent.Fires kind resourceRef))

/-- `_find_matching_rule`: a rule scoped to a prefix of the resource before one without a
scope. An empty scope is neither. -/
def Db.findMatchingRule (db : Db) (kind : AlertConditionKind) (resourceRef : Text) :
    Option AlertRule :=
  let rows := db.rules.filter fun rule => rule.condition = kind && rule.enabled
  (rows.find? fun rule => rule.scopeChannelId.any fun scope =>
      !scope.isEmpty && scope.isPrefixOf resourceRef).or
    (rows.find? fun rule => rule.scopeChannelId = none)

/-- What a section reports. -/
structure Condition where
  kind : AlertConditionKind
  resourceRef : Text
  sourceSection : Text
  summary : Text
  detail : Text := []
deriving DecidableEq

/-- The row `_create_event` adds. -/
def newEvent (db : Db) (c : Condition) (now : Instant) (state : AlertEventState) : AlertEvent :=
  let rule := db.findMatchingRule c.kind c.resourceRef
  { eventId := draw db.events
    ruleId := (rule.map AlertRule.ruleId).getD []
    condition := c.kind
    severity := (rule.map AlertRule.severity).getD .warning
    state := state
    resourceRef := c.resourceRef
    summary := c.summary.take 300
    detail := c.detail.take 2000
    sourceSection := c.sourceSection.take 8
    firstObservedAt := now
    lastObservedAt := now
    resolvedAt := if state = .resolved then some now else none
    occurrenceCount := 1 }

def Db.createEvent (db : Db) (c : Condition) (now : Instant) (state : AlertEventState) :
    Db × AlertEvent :=
  ({ db with events := db.events.insert (newEvent db c now state) (get_draw _) },
    newEvent db c now state)

def Db.updateEvent (db : Db) (eventId : ℕ) (f : AlertEvent → AlertEvent)
    (hf : ∀ e, (f e).eventId = e.eventId) : Db :=
  { db with events := db.events.modify eventId f hf }

/-- A firing event that is seen once more. -/
def AlertEvent.bump (c : Condition) (now : Instant) (e : AlertEvent) : AlertEvent :=
  { e with
    occurrenceCount := e.occurrenceCount + 1
    lastObservedAt := now
    summary := c.summary.take 300
    detail := c.detail.take 2000 }

/-- A firing event that is over. -/
def AlertEvent.resolve (now : Instant) (e : AlertEvent) : AlertEvent :=
  { e with state := .resolved, resolvedAt := some now, lastObservedAt := now }

def Db.recordAlertCondition (db : Db) (c : Condition) (now : Instant) (resolved : Bool) :
    Except StoreError (Db × AlertEvent) :=
  match db.findFiringEvent c.kind c.resourceRef with
  | .error e => .error e
  | .ok (some row) =>
    if resolved then
      .ok (db.updateEvent row.eventId (AlertEvent.resolve now) fun _ => rfl, row.resolve now)
    else
      .ok (db.updateEvent row.eventId (AlertEvent.bump c now) fun _ => rfl, row.bump c now)
  | .ok none => .ok (db.createEvent c now (if resolved then .resolved else .firing))

/-! ## Deliveries -/

/-- Change the delivery with the id, if there is one. -/
def Db.updateDelivery (db : Db) (deliveryId : ℕ)
    (f : AlertEventDelivery → AlertEventDelivery)
    (hf : ∀ d, (f d).deliveryId = d.deliveryId) : Db :=
  { db with deliveries := db.deliveries.modify deliveryId f hf }

def Db.failDelivery (db : Db) (deliveryId : ℕ) (error : Text) (nextAttemptAt : Instant) : Db :=
  db.updateDelivery deliveryId (fun row =>
    { row with
      status := .failed
      lastError := error.take 1000
      attempts := row.attempts + 1
      nextAttemptAt := some nextAttemptAt }) fun _ => rfl

def Db.succeedDelivery (db : Db) (deliveryId : ℕ) : Db :=
  db.updateDelivery deliveryId (fun row =>
    { row with status := .sent, nextAttemptAt := none }) fun _ => rfl

def Db.deadLetterDelivery (db : Db) (deliveryId : ℕ) : Db :=
  db.updateDelivery deliveryId (fun row =>
    { row with status := .deadLetter, nextAttemptAt := none }) fun _ => rfl

def AlertEventDelivery.due (now : Instant) (row : AlertEventDelivery) : Bool :=
  row.status = .failed && row.nextAttemptAt.any fun t => t ≤ now

/-- `due_retry_deliveries`: those that have waited longest first, and no more than the
limit. -/
def Db.dueRetryDeliveries (db : Db) (now : Instant) (limit : ℕ) : List AlertEventDelivery :=
  ((db.deliveries.rows.filter (AlertEventDelivery.due now)).mergeSort fun a b =>
    a.nextAttemptAt.getD 0 ≤ b.nextAttemptAt.getD 0).take limit

/-- The row `_write_delivery` adds: the first attempt of a delivery to be sent is counted
before it is made. -/
def newDelivery (db : Db) (eventId : ℕ) (channelId : Text) (kind : AlertChannelKind)
    (status : AlertDeliveryStatus) (now : Instant) (nextAttemptAt : Option Instant)
    (lastError : Text) : AlertEventDelivery where
  deliveryId := draw db.deliveries
  eventId := eventId
  alertChannelId := channelId
  kind := kind
  status := status
  attempts := if status = .sent then 1 else 0
  nextAttemptAt := nextAttemptAt
  lastError := lastError
  dispatchedAt := now

/-- `_write_delivery` of the evaluator. -/
def Db.writeDelivery (db : Db) (eventId : ℕ) (channelId : Text) (kind : AlertChannelKind)
    (status : AlertDeliveryStatus) (now : Instant) (nextAttemptAt : Option Instant)
    (lastError : Text) : Db × ℕ :=
  let row := newDelivery db eventId channelId kind status now nextAttemptAt lastError
  ({ db with deliveries := db.deliveries.insert row (get_draw _) }, row.deliveryId)

/-! ## What the functions leave alone -/

section Frames

variable {db db' : Db} {c : Condition} {now : Instant} {resolved : Bool} {e : AlertEvent}

lemma recordAlertCondition_frame (h : db.recordAlertCondition c now resolved = .ok (db', e)) :
    db'.rules = db.rules ∧ db'.channels = db.channels ∧ db'.deliveries = db.deliveries := by
  unfold Db.recordAlertCondition at h
  split at h
  · cases h
  · split at h
    · cases h
      exact ⟨rfl, rfl, rfl⟩
    · cases h
      exact ⟨rfl, rfl, rfl⟩
  · cases h
    exact ⟨rfl, rfl, rfl⟩

lemma recordAlertCondition_keeps (h : db.recordAlertCondition c now resolved = .ok (db', e))
    {eventId : ℕ} (hevent : (db.events.get eventId).isSome) : (db'.events.get eventId).isSome := by
  have hmodify : ∀ (id : ℕ) (f : AlertEvent → AlertEvent) (hf : ∀ e, (f e).eventId = e.eventId),
      ((db.events.modify id f hf).get eventId).isSome := by
    intro id f hf
    by_cases hid : eventId = id
    · rw [hid, Table.get_modify_self, Option.isSome_map, ← hid]
      exact hevent
    · rw [Table.get_modify_of_ne hf hid]
      exact hevent
  unfold Db.recordAlertCondition at h
  split at h
  · cases h
  · split at h
    · cases h
      exact hmodify _ (AlertEvent.resolve now) fun _ => rfl
    · cases h
      exact hmodify _ (AlertEvent.bump c now) fun _ => rfl
  · cases h
    -- a new event takes an id that is free
    have hne : eventId ≠ draw db.events := by
      intro heq
      rw [heq, get_draw] at hevent
      cases hevent
    have hget := Table.get_insert_of_ne (get_draw db.events) (t := db.events)
      (a := newEvent db c now (if resolved then .resolved else .firing)) hne
    exact (congrArg Option.isSome hget).trans hevent

end Frames

/-! ## One firing event for a condition -/

/-- No two events fire for one condition on one resource. -/
def OneFiring (events : List AlertEvent) : Prop :=
  ∀ kind resourceRef, events.countP (AlertEvent.Fires kind resourceRef) ≤ 1

section OneFiring

variable {db db' : Db} {c : Condition} {now : Instant} {resolved : Bool} {e : AlertEvent}

lemma scalarOneOrNone_of_le_one {α : Type} {as : List α} (h : as.length ≤ 1) :
    scalarOneOrNone as = .ok as.head? := by
  match as, h with
  | [], _ | [a], _ => rfl

lemma findFiringEvent_eq (h : OneFiring db.events.rows) (kind : AlertConditionKind)
    (resourceRef : Text) :
    db.findFiringEvent kind resourceRef =
      .ok (db.events.rows.filter (AlertEvent.Fires kind resourceRef)).head? := by
  apply scalarOneOrNone_of_le_one
  rw [← List.countP_eq_length_filter]
  exact h kind resourceRef

lemma recordAlertCondition_isOk (h : OneFiring db.events.rows) :
    ∃ out, db.recordAlertCondition c now resolved = .ok out := by
  unfold Db.recordAlertCondition
  rw [findFiringEvent_eq h]
  cases (db.events.rows.filter (AlertEvent.Fires c.kind c.resourceRef)).head? with
  | none => exact ⟨_, rfl⟩
  | some row =>
    dsimp only
    split
    · exact ⟨_, rfl⟩
    · exact ⟨_, rfl⟩

lemma OneFiring.modify {t : EventTable} (h : OneFiring t.rows) {eventId : ℕ}
    {f : AlertEvent → AlertEvent} (hf : ∀ e, (f e).eventId = e.eventId)
    (hfires : ∀ kind resourceRef e, (f e).Fires kind resourceRef → e.Fires kind resourceRef) :
    OneFiring (t.modify eventId f hf).rows := by
  intro kind resourceRef
  exact le_trans (Table.countP_modify_le hf (hfires kind resourceRef)) (h kind resourceRef)

lemma OneFiring.recordAlertCondition (h : OneFiring db.events.rows)
    (hrecord : db.recordAlertCondition c now resolved = .ok (db', e)) :
    OneFiring db'.events.rows := by
  unfold Db.recordAlertCondition at hrecord
  rw [findFiringEvent_eq h] at hrecord
  cases hfound : (db.events.rows.filter (AlertEvent.Fires c.kind c.resourceRef)).head? with
  | some row =>
    rw [hfound] at hrecord
    dsimp only at hrecord
    split at hrecord
    · cases hrecord
      apply h.modify (f := AlertEvent.resolve now) fun _ => rfl
      intro kind resourceRef e he
      simp [AlertEvent.Fires, AlertEvent.resolve] at he
    · cases hrecord
      apply h.modify (f := AlertEvent.bump c now) fun _ => rfl
      intro kind resourceRef e he
      exact he
  | none =>
    rw [hfound] at hrecord
    cases hrecord
    intro kind resourceRef
    show (db.events.rows ++ [_]).countP _ ≤ 1
    rw [List.countP_append]
    have hnone : db.events.rows.countP (AlertEvent.Fires c.kind c.resourceRef) = 0 := by
      rw [List.countP_eq_length_filter, List.head?_eq_none_iff.mp hfound]
      rfl
    by_cases hpair : c.kind = kind ∧ c.resourceRef = resourceRef
    · -- the new event is the only one for its condition
      rcases hpair with ⟨rfl, rfl⟩
      rw [hnone, Nat.zero_add]
      exact List.countP_le_length
    · have hother : List.countP (AlertEvent.Fires kind resourceRef)
          [newEvent db c now (if resolved then .resolved else .firing)] = 0 := by
        rw [List.countP_singleton, if_neg]
        intro hfires
        simp only [AlertEvent.Fires, newEvent, Bool.and_eq_true] at hfires
        exact hpair ⟨of_decide_eq_true hfires.1.1, of_decide_eq_true hfires.1.2⟩
      rw [hother]
      exact h kind resourceRef

end OneFiring

end CivicCast.Alerting
