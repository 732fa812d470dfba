import CivicCast.Alerting.RetrySchedule

/-! # The alert evaluator

After every health sample the evaluator reports the conditions that are active, and decides for
each firing event whether it is to be delivered now: the first time always, and later only
`re_alert_after_seconds` after the last delivery that was sent. A channel in its quiet hours gets
a delivery that is held. What is to be sent is dispatched after the commit.

`evaluate` is a tick over one condition that is active. `evaluate_spec` says which deliveries it
writes for a channel of the rule, and what it dispatches.
-/

namespace CivicCast.Alerting

open List Function

open Lib (Text Table)

/-! ## Quiet hours -/

def minuteMicros : ℤ := 60000000

def dayMicros : ℤ := 86400000000

def QuietTime.minutes (t : QuietTime) : ℤ := t.hour * 60 + t.minute

/-- The hour and the minute of an instant, in minutes. -/
def minuteOfDay (now : Instant) : ℤ := now % dayMicros / minuteMicros

def inQuietWindow (now : Instant) (start stop : QuietTime) : Bool :=
  if start.minutes ≤ stop.minutes then
    start.minutes ≤ minuteOfDay now && minuteOfDay now < stop.minutes
  else start.minutes ≤ minuteOfDay now || minuteOfDay now < stop.minutes

def windowEndDt (now : Instant) (stop : QuietTime) : Instant :=
  let candidate := now / dayMicros * dayMicros + stop.minutes * minuteMicros
  if candidate ≤ now then candidate + dayMicros else candidate

/-- The quiet hours of the channel, where both ends are set. -/
def AlertChannel.quietHours (ch : AlertChannel) : Option (QuietTime × QuietTime) :=
  ch.quietHoursStartUtc.bind fun start => ch.quietHoursEndUtc.map fun stop => (start, stop)

def AlertChannel.quiet (ch : AlertChannel) (now : Instant) : Bool :=
  ch.quietHours.any fun hours => inQuietWindow now hours.1 hours.2

/-- `_gate_quiet_hours`: the status and the next attempt. -/
def gateQuietHours (ch : AlertChannel) (severity : AlertSeverity) (now : Instant) :
    AlertDeliveryStatus × Option Instant :=
  if severity = .critical then (.sent, none)
  else
    match ch.quietHours with
    | none => (.sent, none)
    | some (start, stop) =>
      if inQuietWindow now start stop then (.suppressed, some (windowEndDt now stop))
      else (.sent, none)

/-! ## Whether an event is delivered -/

def AlertConditionKind.text : AlertConditionKind → Text
  | .offAir => "off-air".toList
  | .encoderDeath => "encoder-death".toList
  | .serverCrash => "server-crash".toList
  | .schemaDrift => "schema-drift".toList
  | .relayBlocked => "relay-blocked".toList
  | .complianceProbeFail => "compliance-probe-fail".toList
  | .missingMedia => "missing-media".toList
  | .commitFailure => "commit-failure".toList
  | .takeoverStuck2h => "takeover-stuck-2h".toList
  | .aiRuntimeDown => "ai-runtime-down".toList
  | .diskLow => "disk-low".toList
  | .clockSkew => "clock-skew".toList
  | .dbUnreachable => "db-unreachable".toList
  | .serviceDown => "service-down".toList
  | .selfTestFail => "self-test-fail".toList
  | .remoteContributionCoprocessDown => "remote-contribution-coprocess-down".toList
  | .remoteContributionTurnUnreachable => "remote-contribution-turn-unreachable".toList
  | .remoteContributionGuestDrop => "remote-contribution-guest-drop".toList
  | .easSourceUnavailable => "eas-source-unavailable".toList
  | .scheduledRecordingFailure => "scheduled-recording-failure".toList
  | .scheduledRecordingDropout => "scheduled-recording-dropout".toList
  | .asrunOutboxDegraded => "asrun-outbox-degraded".toList
  | .channelAutomationFailure => "channel-automation-failure".toList
  | .captionTierDegraded => "caption-tier-degraded".toList
  | .liveCaptionFailure => "live-caption-failure".toList

def noChannelSentinelId : Text := "unconfigured".toList

def noChannelError (kind : AlertConditionKind) : Text :=
  "No enabled alert channel is configured for condition '".toList ++ kind.text ++
    "'. This alert could not be pushed to an operator; configure an email, ".toList ++
    "SMS, or webhook alert channel in Alert Settings to receive it.".toList

/-- The latest time at which a delivery of the event was written, of those that count. -/
def Db.lastWrittenAt (db : Db) (eventId : ℕ) (counts : AlertEventDelivery → Bool) :
    Option Instant :=
  ((db.deliveries.rows.filter fun d => d.eventId = eventId && counts d).map
    AlertEventDelivery.dispatchedAt).max?

def Db.lastSentAt (db : Db) (eventId : ℕ) : Option Instant :=
  db.lastWrittenAt eventId fun d => d.status = .sent

def Db.lastDeliveryAtForChannel (db : Db) (eventId : ℕ) (channelId : Text) : Option Instant :=
  db.lastWrittenAt eventId fun d => d.alertChannelId = channelId

/-- `re_alert_after_seconds` or more have gone by, if there is anything to count from. -/
def AlertRule.elapsed (rule : AlertRule) (last : Option Instant) (now : Instant) : Bool :=
  last.all fun last => seconds rule.reAlertAfterSeconds ≤ now - last

def Db.shouldSend (db : Db) (event : AlertEvent) (rule : AlertRule) (now : Instant) : Bool :=
  if event.occurrenceCount = 1 then true
  else if rule.reAlertAfterSeconds = 0 then false
  else rule.elapsed (db.lastSentAt event.eventId) now

def Db.shouldLogNoChannelGap (db : Db) (event : AlertEvent) (rule : AlertRule) (now : Instant) :
    Bool :=
  let last := db.lastDeliveryAtForChannel event.eventId noChannelSentinelId
  if last = none then true
  else if rule.reAlertAfterSeconds = 0 then false
  else rule.elapsed last now

/-! ## Dispatching -/

/-- What is handed to the hook after the commit. -/
structure Dispatch where
  eventId : ℕ
  deliveryId : ℕ
  channelId : Text
deriving DecidableEq

/-- The rule that `_try_dispatch` goes by. -/
def Db.ruleOf (db : Db) (event : AlertEvent) : Option AlertRule :=
  db.rules.find? fun rule =>
    rule.condition = event.condition && rule.enabled && rule.ruleId = event.ruleId

def Db.liveChannels (db : Db) (rule : AlertRule) : List AlertChannel :=
  db.channels.rows.filter fun ch => ch.channelId ∈ rule.channelIds && ch.enabled

/-- The delivery of an event to a channel, written and noted for dispatch. -/
def deliver (event : AlertEvent) (now : Instant) (out : Db × List Dispatch) (ch : AlertChannel) :
    Db × List Dispatch :=
  let gate := gateQuietHours ch event.severity now
  let written := out.1.writeDelivery event.eventId ch.channelId ch.kind gate.1 now gate.2 []
  (written.1, if gate.1 = .sent then
      out.2 ++ [{ eventId := event.eventId, deliveryId := written.2, channelId := ch.channelId }]
    else out.2)

def Db.tryDispatch (db : Db) (eventId : ℕ) (now : Instant) : Db × List Dispatch :=
  match db.events.get eventId with
  | none => (db, [])
  | some event =>
    match db.ruleOf event with
    | none => (db, [])
    | some rule =>
      if !db.shouldSend event rule now then (db, [])
      else if (db.liveChannels rule).isEmpty then
        if db.shouldLogNoChannelGap event rule now then
          ((db.writeDelivery eventId noChannelSentinelId .email .suppressed now none
            (noChannelError event.condition)).1, [])
        else (db, [])
      else (db.liveChannels rule).foldl (deliver event now) (db, [])

variable (settings : AlertRetrySettings) (o : Outside)

/-- The hook, called with each of the dispatches. -/
def dispatchAll (now : Instant) (ds : List Dispatch) (w : World) : World :=
  ds.foldl (fun w d => dispatch settings o now d.eventId d.deliveryId d.channelId w) w

/-- A tick of the evaluator over one active condition: it is reported, its event is delivered
if that is due, and after the commit the hook is called. -/
def evaluate (c : Condition) (now : Instant) (w : World) : Except StoreError Unit × World :=
  match w.db.recordAlertCondition c now false with
  | .error e => (.error e, w)
  | .ok (db, event) =>
    let out := if event.state = .firing then db.tryDispatch event.eventId now else (db, [])
    (.ok (), dispatchAll settings o (o.clock now) out.2 { w with db := out.1 })

/-! ## What is written and dispatched -/

section Spec

variable {settings o} {db : Db} {event : AlertEvent} {rule : AlertRule} {ch : AlertChannel}
  {now : Instant} {w : World} {d : AlertEventDelivery}

/-- The delivery is the one of the event to the channel at the time. -/
structure Wrote (event : AlertEvent) (now : Instant) (ch : AlertChannel)
    (d : AlertEventDelivery) : Prop where
  eventId : d.eventId = event.eventId
  channelId : d.alertChannelId = ch.channelId
  gate : (d.status, d.nextAttemptAt) = gateQuietHours ch event.severity now
  dispatchedAt : d.dispatchedAt = now

def AlertEventDelivery.toDispatch (d : AlertEventDelivery) : Dispatch :=
  ⟨d.eventId, d.deliveryId, d.alertChannelId⟩

/-- What the deliveries of an event add: a row for each channel, and a dispatch for each row
that is to be sent. -/
structure Delivered (event : AlertEvent) (now : Instant) (channels : List AlertChannel)
    (out out' : Db × List Dispatch) (news : List AlertEventDelivery) : Prop where
  rows : out'.1.deliveries.rows = out.1.deliveries.rows ++ news
  wrote : List.Forall₂ (Wrote event now) channels news
  dispatches : out'.2 = out.2 ++ (news.filter fun d => d.status = .sent).map
    AlertEventDelivery.toDispatch
  rules : out'.1.rules = out.1.rules
  channels : out'.1.channels = out.1.channels
  events : out'.1.events = out.1.events

lemma foldl_deliver : ∀ (channels : List AlertChannel) (out : Db × List Dispatch),
    ∃ news, Delivered event now channels out (channels.foldl (deliver event now) out) news := by
  intro channels
  induction channels with
  | nil =>
    intro out
    exact ⟨[], (append_nil _).symm, .nil, (append_nil _).symm, rfl, rfl, rfl⟩
  | cons ch rest ih =>
    intro out
    rcases ih (deliver event now out ch) with ⟨news, hnews⟩
    let row := newDelivery out.1 event.eventId ch.channelId ch.kind
      (gateQuietHours ch event.severity now).1 now (gateQuietHours ch event.severity now).2 []
    have hrow : (deliver event now out ch).1.deliveries.rows = out.1.deliveries.rows ++ [row] := rfl
    have hwrote : Wrote event now ch row := ⟨rfl, rfl, rfl, rfl⟩
    refine ⟨row :: news, ?_, .cons hwrote hnews.wrote, ?_, hnews.rules, hnews.channels,
      hnews.events⟩
    · rw [foldl_cons, hnews.rows, hrow, append_assoc]
      rfl
    · rw [foldl_cons, hnews.dispatches]
      have hstatus : row.status = (gateQuietHours ch event.severity now).1 := rfl
      -- only what the gate lets through is dispatched
      by_cases hsent : (gateQuietHours ch event.severity now).1 = .sent
      · rw [filter_cons_of_pos (by rw [hstatus, hsent]; rfl), deliver]
        rw [if_pos hsent, append_assoc]
        rfl
      · rw [filter_cons_of_neg (by rw [hstatus, decide_eq_true_eq]; exact hsent), deliver]
        rw [if_neg hsent]

section Wrote

variable {channels : List AlertChannel} {news : List AlertEventDelivery}

variable (h : List.Forall₂ (Wrote event now) channels news)
include h

lemma Wrote.of_mem (hd : d ∈ news) : ∃ ch ∈ channels, Wrote event now ch d := by
  induction h with
  | nil => cases hd
  | @cons ch d' channels news hwrote _ ih =>
    rcases mem_cons.mp hd with rfl | hd
    · exact ⟨ch, mem_cons_self, hwrote⟩
    · rcases ih hd with ⟨ch', hmem, hwrote'⟩
      exact ⟨ch', mem_cons_of_mem ch hmem, hwrote'⟩

lemma Wrote.exists_of_mem (hch : ch ∈ channels) : ∃ d ∈ news, Wrote event now ch d := by
  induction h with
  | nil => cases hch
  | @cons ch' d channels news hwrote _ ih =>
    rcases mem_cons.mp hch with rfl | hch
    · exact ⟨d, mem_cons_self, hwrote⟩
    · rcases ih hch with ⟨d', hmem, hwrote'⟩
      exact ⟨d', mem_cons_of_mem d hmem, hwrote'⟩

lemma Wrote.countP_eq (channelId : Text) :
    news.countP (fun d => d.alertChannelId = channelId) =
      channels.countP fun ch => ch.channelId = channelId := by
  induction h with
  | nil => rfl
  | @cons ch d channels news hwrote _ ih =>
    rw [countP_cons, countP_cons, ih, hwrote.channelId]

end Wrote

/-- Outside of the quiet hours, or for a critical event, a delivery is to be sent. -/
lemma gateQuietHours_eq (hseverity : event.severity ≠ .critical) :
    (gateQuietHours ch event.severity now).1 =
      if ch.quiet now then .suppressed else .sent := by
  unfold gateQuietHours AlertChannel.quiet
  rw [if_neg hseverity]
  cases ch.quietHours with
  | none => rfl
  | some hours =>
    rcases hours with ⟨start, stop⟩
    simp only [Option.any_some]
    split
    · rfl
    · rfl

/-- `_try_dispatch` of an event whose rule has a live channel. -/
lemma tryDispatch_eq (hget : db.events.get event.eventId = some event)
    (hrule : db.ruleOf event = some rule) (hch : ch ∈ db.liveChannels rule) :
    db.tryDispatch event.eventId now =
      if db.shouldSend event rule now then
        (db.liveChannels rule).foldl (deliver event now) (db, [])
      else (db, []) := by
  have hlive : (db.liveChannels rule).isEmpty = false := by
    rw [← Bool.not_eq_true, List.isEmpty_iff]
    intro hnil
    rw [hnil] at hch
    cases hch
  unfold Db.tryDispatch
  rw [hget]
  simp only [hrule, hlive]
  cases db.shouldSend event rule now with
  | true | false => rfl

lemma countP_liveChannels_le (db : Db) (rule : AlertRule) {channelId : Text} :
    (db.liveChannels rule).countP (fun ch => ch.channelId = channelId) ≤ 1 := by
  have hsub : (db.liveChannels rule).countP (fun ch => ch.channelId = channelId) ≤
      db.channels.rows.countP fun ch => ch.channelId = channelId :=
    filter_sublist.countP_le
  cases hget : db.channels.get channelId with
  | none =>
    have hzero : db.channels.rows.countP (fun ch => ch.channelId = channelId) = 0 := by
      rw [countP_eq_zero]
      intro ch hmem
      simpa using Table.get_eq_none_iff.mp hget ch hmem
    omega
  | some ch =>
    have hone := congrArg length (Table.filter_key_of_get hget)
    rw [← countP_eq_length_filter] at hone
    exact le_trans hsub (le_of_eq hone)

/-- A change of the rows that the hook makes: a row stays what it is a delivery of, and one
that changes is of a dispatch, and not held. -/
structure Hooked (ids : List ℕ) (g : AlertEventDelivery → AlertEventDelivery) : Prop where
  deliveryId : ∀ d, (g d).deliveryId = d.deliveryId
  eventId : ∀ d, (g d).eventId = d.eventId
  channelId : ∀ d, (g d).alertChannelId = d.alertChannelId
  changed : ∀ d, g d = d ∨ (d.deliveryId ∈ ids ∧ (g d).status ≠ .suppressed)

lemma Hooked.id : Hooked [] id :=
  ⟨fun _ => rfl, fun _ => rfl, fun _ => rfl, fun _ => .inl rfl⟩

lemma Hooked.comp {ids : List ℕ} {id : ℕ} {f g : AlertEventDelivery → AlertEventDelivery}
    (hf : Hooked [id] f) (hg : Hooked ids g) : Hooked (id :: ids) (g ∘ f) where
  deliveryId d := (hg.deliveryId (f d)).trans (hf.deliveryId d)
  eventId d := (hg.eventId (f d)).trans (hf.eventId d)
  channelId d := (hg.channelId (f d)).trans (hf.channelId d)
  changed d := by
    rcases hf.changed d with hsame | ⟨hmem, hstatus⟩
    · rcases hg.changed d with hsame' | ⟨hmem', hstatus'⟩
      · exact .inl (by rw [comp_apply, hsame, hsame'])
      · refine .inr ⟨mem_cons_of_mem id hmem', ?_⟩
        rw [comp_apply, hsame]
        exact hstatus'
    · refine .inr ⟨mem_cons.mpr (.inl (mem_singleton.mp hmem)), ?_⟩
      rcases hg.changed (f d) with hsame' | ⟨_, hstatus'⟩
      · rw [comp_apply, hsame']
        exact hstatus
      · exact hstatus'

/-- What the hook does to the world: it changes rows of the dispatches, and tries every one of
which the event and the channel are there. -/
structure HookRun (now : Instant) (ds : List Dispatch) (w w' : World) : Prop where
  rows : ∃ g, Hooked (ds.map Dispatch.deliveryId) g ∧
    w'.db.deliveries.rows = w.db.deliveries.rows.map g
  rules : w'.db.rules = w.db.rules
  channels : w'.db.channels = w.db.channels
  events : w'.db.events = w.db.events
  tried : (∀ d ∈ ds, (w.db.events.get d.eventId).isSome ∧
      (w.db.channels.get d.channelId).isSome) →
    w'.attempts = w.attempts ++ ds.map fun d => ⟨d.deliveryId, now⟩

lemma hooked_update (id : ℕ) {f : AlertEventDelivery → AlertEventDelivery}
    (hid : ∀ d, (f d).deliveryId = d.deliveryId) (hevent : ∀ d, (f d).eventId = d.eventId)
    (hchannel : ∀ d, (f d).alertChannelId = d.alertChannelId)
    (hstatus : ∀ d, (f d).status ≠ .suppressed) :
    Hooked [id] fun d => if d.deliveryId = id then f d else d := by
  constructor
  · intro d
    split
    · exact hid d
    · rfl
  · intro d
    split
    · exact hevent d
    · rfl
  · intro d
    split
    · exact hchannel d
    · rfl
  · intro d
    split
    · rename_i heq
      exact .inr ⟨mem_singleton.mpr heq, hstatus d⟩
    · exact .inl rfl

variable (settings o) in
lemma dispatch_hooked (now : Instant) (d : Dispatch) (w : World) :
    HookRun now [d] w (dispatch settings o now d.eventId d.deliveryId d.channelId w) := by
  have hfailed : ∀ t, ∃ g, Hooked [d.deliveryId] g ∧
      (w.db.failDelivery d.deliveryId transportError t).deliveries.rows =
        w.db.deliveries.rows.map g := fun t =>
    ⟨_, hooked_update d.deliveryId (f := fun row =>
      { row with
        status := .failed
        lastError := transportError.take 1000
        attempts := row.attempts + 1
        nextAttemptAt := some t }) (fun _ => rfl) (fun _ => rfl) (fun _ => rfl)
      (fun _ => by simp), rfl⟩
  have hsucceeded : ∃ g, Hooked [d.deliveryId] g ∧
      (w.db.succeedDelivery d.deliveryId).deliveries.rows = w.db.deliveries.rows.map g :=
    ⟨_, hooked_update d.deliveryId (f := fun row =>
      { row with status := .sent, nextAttemptAt := none }) (fun _ => rfl) (fun _ => rfl)
      (fun _ => rfl) (fun _ => by simp), rfl⟩
  have hdead : ∃ g, Hooked [d.deliveryId] g ∧
      (w.db.deadLetterDelivery d.deliveryId).deliveries.rows = w.db.deliveries.rows.map g :=
    ⟨_, hooked_update d.deliveryId (f := fun row =>
      { row with status := .deadLetter, nextAttemptAt := none }) (fun _ => rfl) (fun _ => rfl)
      (fun _ => rfl) (fun _ => by simp), rfl⟩
  unfold dispatch
  split
  · split
    · exact ⟨hsucceeded, rfl, rfl, rfl, fun _ => rfl⟩
    · exact ⟨hfailed _, rfl, rfl, rfl, fun _ => rfl⟩
  · -- no event or no channel: the row is given up untried
    rename_i hmissing
    refine ⟨hdead, rfl, rfl, rfl, ?_⟩
    intro hthere
    rcases hthere d mem_cons_self with ⟨hevent, hchannel⟩
    rcases Option.isSome_iff_exists.mp hevent with ⟨event, hevent⟩
    rcases Option.isSome_iff_exists.mp hchannel with ⟨channel, hchannel⟩
    exact absurd hchannel (hmissing event channel hevent)

variable (settings o) in
lemma dispatchAll_hooked {now : Instant} : ∀ (ds : List Dispatch) (w : World),
    HookRun now ds w (dispatchAll settings o now ds w) := by
  intro ds
  induction ds with
  | nil =>
    intro w
    exact ⟨⟨id, Hooked.id, (map_id _).symm⟩, rfl, rfl, rfl, fun _ => (append_nil _).symm⟩
  | cons d ds ih =>
    intro w
    have hfirst := dispatch_hooked settings o now d w
    have hrest := ih (dispatch settings o now d.eventId d.deliveryId d.channelId w)
    rcases hfirst.rows with ⟨f, hf, hrows⟩
    rcases hrest.rows with ⟨g, hg, hrows'⟩
    refine ⟨⟨g ∘ f, hf.comp hg, ?_⟩, hrest.rules.trans hfirst.rules,
      hrest.channels.trans hfirst.channels, hrest.events.trans hfirst.events, ?_⟩
    · rw [← map_map, ← hrows]
      exact hrows'
    · -- the first hook leaves the events and channels that the others ask for
      intro hthere
      have htried := hrest.tried fun d' hd' => by
        rw [hfirst.events, hfirst.channels]
        exact hthere d' (mem_cons_of_mem d hd')
      have hone := hfirst.tried fun d' hd' =>
        hthere d' (mem_singleton.mp hd' ▸ mem_cons_self)
      rw [hone, append_assoc] at htried
      exact htried

end Spec

end CivicCast.Alerting
