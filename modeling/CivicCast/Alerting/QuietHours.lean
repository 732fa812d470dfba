import CivicCast.Alerting.Evaluator
import CivicCast.Lib.Runs

/-! # Deliveries held for quiet hours

In the quiet hours of a channel the evaluator writes a delivery that is held until they end. No
component looks at it again: the retry worker takes failed deliveries only, and the evaluator
goes by the last delivery that was sent. So a held delivery keeps no other from being written at
the next tick, and what is sent after the quiet hours is a delivery that some later tick finds
due, if any does.

`Watch` is a run of evaluator and retry ticks over one condition, with a log of what each tick
did on one channel of its rule. `held_not_swallowed` is about every run in which due ticks in the
quiet hours are `re_alert_after_seconds` apart, and the first evaluator tick after a held
delivery's time is due and outside the quiet hours.
-/

namespace CivicCast.Alerting

open List

open Lib (Text Table)

/-! ## The run -/

/-- A condition, the rule of its event, and one of the channels of the rule. -/
structure Watched where
  kind : AlertConditionKind
  resourceRef : Text
  rule : AlertRule
  channel : AlertChannel

/-- What a tick did on the channel: the next attempts of the deliveries that it held, and how
many it sent. -/
structure Mark where
  evaluator : Bool
  time : Instant
  due : Bool
  held : List (Option Instant)
  sent : ℕ
deriving DecidableEq

/-- The world, and what the ticks did, the last one first. -/
structure Watch where
  world : World
  log : List Mark

inductive Tick where
  | evaluate (summary : Text) (now : Instant)
  | retry (now : Instant)

variable (v : Watched)

/-- The event that fires for the condition. -/
def Db.firing (db : Db) : Option AlertEvent :=
  (db.events.rows.filter (AlertEvent.Fires v.kind v.resourceRef)).head?

/-- A tick finds the event due: it is the first one, or `re_alert_after_seconds` is set and no
delivery was sent more recently. -/
def Db.due (db : Db) (now : Instant) : Bool :=
  match db.firing v with
  | none => true
  | some event =>
    v.rule.reAlertAfterSeconds ≠ 0 && v.rule.elapsed (db.lastSentAt event.eventId) now

def Db.mine (db : Db) (d : AlertEventDelivery) : Bool :=
  d.alertChannelId = v.channel.channelId &&
    (db.events.get d.eventId).any (AlertEvent.Fires v.kind v.resourceRef)

/-- The next attempts of the deliveries to the channel that were written and are held. -/
def heldSince (w w' : World) : List (Option Instant) :=
  ((w'.db.deliveries.rows.drop w.db.deliveries.rows.length).filter fun d =>
    w'.db.mine v d && d.status = .suppressed).map AlertEventDelivery.nextAttemptAt

/-- How many sends on the channel were tried. -/
def sentSince (w w' : World) : ℕ :=
  (w'.attempts.drop w.attempts.length).countP fun a =>
    (w'.db.deliveries.get a.deliveryId).any (w'.db.mine v)

def Watched.report (summary : Text) : Condition where
  kind := v.kind
  resourceRef := v.resourceRef
  sourceSection := "S8".toList
  summary := summary

variable (settings : AlertRetrySettings) (o : Outside)

def Watch.act (s : Watch) : Tick → Watch
  | .evaluate summary now =>
    let w := (evaluate settings o (v.report summary) now s.world).2
    { world := w
      log := ⟨true, now, s.world.db.due v now, heldSince v s.world w, sentSince v s.world w⟩
        :: s.log }
  | .retry now =>
    let w := (tick settings o now s.world).2
    { world := w
      log := ⟨false, now, false, heldSince v s.world w, sentSince v s.world w⟩ :: s.log }

/-! ## What a log says -/

/-- The ticks since the last one that sent on the channel. -/
def unsent (log : List Mark) : List Mark := log.takeWhile fun m => m.sent = 0

/-- Between two sends, no two held deliveries are less than the seconds apart. -/
def Spaced (reAlertAfterSeconds : ℕ) : List Mark → Prop
  | [] => True
  | m :: past =>
    (m.held.length ≤ 1 ∧ (m.held ≠ [] → ∀ m' ∈ unsent past, m'.held ≠ [] →
      m'.time + seconds reAlertAfterSeconds ≤ m.time)) ∧ Spaced reAlertAfterSeconds past

/-- The next attempts of held deliveries at or after which there was no evaluator tick yet, and
no send. -/
def owed : List Mark → List Instant
  | [] => []
  | m :: past =>
    m.held.reduceOption ++
      (owed past).filter fun t => !((m.evaluator || m.sent ≠ 0) && t ≤ m.time)

/-- The first evaluator tick at or after the next attempt of a held delivery sends on the
channel, unless a retry has done so since. -/
def Served : List Mark → Prop
  | [] => True
  | m :: past =>
    (m.evaluator = true → ∀ t ∈ owed past, t ≤ m.time → m.sent ≠ 0) ∧ Served past

/-- The tick of an evaluator that is due in the quiet hours comes `re_alert_after_seconds` or
more after those before it, back to the last send; and where a held delivery's time has come, the
tick is due and outside the quiet hours. -/
def Watch.Apt (s : Watch) : Tick → Prop
  | .evaluate _ now =>
    (s.world.db.due v now = true → v.channel.quiet now = true →
      ∀ m ∈ unsent s.log, m.evaluator = true → m.due = true → v.channel.quiet m.time = true →
        m.time + seconds v.rule.reAlertAfterSeconds ≤ now) ∧
    ∀ t ∈ owed s.log, t ≤ now →
      s.world.db.due v now = true ∧ v.channel.quiet now = false
  | .retry _ => True

/-- The event that fires, or the next one to be created, is not critical, and it is the rule's;
the rule has the channel, and no two events fire for one condition. -/
structure Db.Covered (db : Db) : Prop where
  one : OneFiring db.events.rows
  created : db.firing v = none → ∃ found, db.findMatchingRule v.kind v.resourceRef = some found ∧
    found.severity ≠ .critical ∧
    (db.rules.find? fun rule =>
      rule.condition = v.kind && rule.enabled && rule.ruleId = found.ruleId) = some v.rule
  firing : ∀ e ∈ db.events.rows, e.Fires v.kind v.resourceRef = true →
    db.ruleOf e = some v.rule ∧ e.severity ≠ .critical ∧ 1 ≤ e.occurrenceCount
  channel : v.channel ∈ db.liveChannels v.rule

/-! ## Reporting the condition -/

section Record

variable {v} {db db' : Db} {c : Condition} {now : Instant} {e : AlertEvent}

lemma record_cases (hone : OneFiring db.events.rows) (c : Condition) (now : Instant) :
    (∃ row, row ∈ db.events.rows ∧ row.Fires c.kind c.resourceRef = true ∧
      (db.events.rows.filter (AlertEvent.Fires c.kind c.resourceRef)).head? = some row ∧
      db.recordAlertCondition c now false =
        .ok (db.updateEvent row.eventId (AlertEvent.bump c now) fun _ => rfl, row.bump c now)) ∨
    ((db.events.rows.filter (AlertEvent.Fires c.kind c.resourceRef)).head? = none ∧
      db.recordAlertCondition c now false = .ok (db.createEvent c now .firing)) := by
  have hfind := findFiringEvent_eq hone c.kind c.resourceRef
  unfold Db.recordAlertCondition
  rw [hfind]
  cases hhead : (db.events.rows.filter (AlertEvent.Fires c.kind c.resourceRef)).head? with
  | none => exact .inr ⟨rfl, rfl⟩
  | some row =>
    have hmem := mem_filter.mp (mem_of_mem_head? hhead)
    exact .inl ⟨row, hmem.1, hmem.2, rfl, rfl⟩

lemma firing_eq_none_iff : db.firing v = none ↔
    ∀ e ∈ db.events.rows, ¬ e.Fires v.kind v.resourceRef = true := by
  rw [Db.firing, head?_eq_none_iff, filter_eq_nil_iff]

lemma Db.Covered.congr (h : db.Covered v) (hrules : db'.rules = db.rules)
    (hchannels : db'.channels = db.channels) (hevents : db'.events = db.events) :
    db'.Covered v := by
  rcases db with ⟨rules, channels, events, deliveries⟩
  rcases db' with ⟨rules', channels', events', deliveries'⟩
  cases hrules
  cases hchannels
  cases hevents
  exact ⟨h.one, h.created, h.firing, h.channel⟩

/-- An event of the condition that a report creates is the rule's. -/
lemma Db.Covered.newEvent (h : db.Covered v)
    (hfires : (newEvent db c now .firing).Fires v.kind v.resourceRef = true)
    (hnone : (db.events.rows.filter (AlertEvent.Fires c.kind c.resourceRef)).head? = none) :
    db.ruleOf (Alerting.newEvent db c now .firing) = some v.rule ∧
      (Alerting.newEvent db c now .firing).severity ≠ .critical := by
  simp only [AlertEvent.Fires, Alerting.newEvent, Bool.and_eq_true, decide_eq_true_eq] at hfires
  rcases hfires with ⟨⟨hkind, href⟩, -⟩
  replace hkind := of_decide_eq_true hkind
  replace href := of_decide_eq_true href
  rw [hkind, href] at hnone
  rcases h.created hnone with ⟨found, hfound, hseverity, hrule⟩
  constructor
  · rw [Db.ruleOf]
    simp only [Alerting.newEvent, hkind, href, hfound, Option.map_some, Option.getD_some]
    exact hrule
  · simp only [Alerting.newEvent, hkind, href, hfound, Option.map_some, Option.getD_some]
    exact hseverity

lemma Db.Covered.record (h : db.Covered v)
    (hrecord : db.recordAlertCondition c now false = .ok (db', e)) : db'.Covered v := by
  have hone := OneFiring.recordAlertCondition h.one hrecord
  rcases record_cases h.one c now with ⟨row, hrow, hfires, -, hbump⟩ | ⟨hnone, hcreate⟩
  · -- the event is firing, and is bumped
    rw [hbump] at hrecord
    cases hrecord
    have hold : ∀ e ∈ (db.updateEvent row.eventId (AlertEvent.bump c now) fun _ => rfl).events.rows,
        ∃ old ∈ db.events.rows, e = old ∨ e = old.bump c now := by
      intro e he
      rcases mem_map.mp he with ⟨old, hold, rfl⟩
      by_cases hid : old.eventId = row.eventId
      · exact ⟨old, hold, .inr (if_pos hid)⟩
      · exact ⟨old, hold, .inl (if_neg hid)⟩
    refine ⟨hone, ?_, ?_, h.channel⟩
    · intro hnone
      apply h.created
      rw [firing_eq_none_iff] at hnone ⊢
      intro old hold hfires'
      apply hnone (if old.eventId = row.eventId then old.bump c now else old) (mem_map_of_mem hold)
      split
      · exact hfires'
      · exact hfires'
    · intro e he hfires'
      rcases hold e he with ⟨old, hold, hsame | hbumped⟩
      · rw [hsame] at hfires' ⊢
        exact h.firing old hold hfires'
      · rw [hbumped] at hfires' ⊢
        rcases h.firing old hold hfires' with ⟨hrule, hseverity, -⟩
        exact ⟨hrule, hseverity, Nat.succ_le_succ (Nat.zero_le _)⟩
  · -- nothing fires, and the event is new
    rw [hcreate] at hrecord
    cases hrecord
    refine ⟨hone, ?_, ?_, h.channel⟩
    · intro hnone'
      apply h.created
      rw [firing_eq_none_iff] at hnone' ⊢
      intro old hold
      exact hnone' old (mem_append_left _ hold)
    · intro e he hfires
      rcases mem_append.mp he with hold | hnew
      · exact h.firing e hold hfires
      · have hsame := mem_singleton.mp hnew
        rw [hsame] at hfires ⊢
        rcases h.newEvent hfires hnone with ⟨hrule, hseverity⟩
        exact ⟨hrule, hseverity, le_refl 1⟩

lemma Db.Covered.reported (h : db.Covered v) (summary : Text) (now : Instant) :
    ∃ db' e, db.recordAlertCondition (v.report summary) now false = .ok (db', e) ∧
      db'.Covered v ∧ db'.deliveries = db.deliveries ∧ db'.events.get e.eventId = some e ∧
      e.Fires v.kind v.resourceRef = true ∧ db'.shouldSend e v.rule now = db.due v now := by
  rcases record_cases h.one (v.report summary) now with
    ⟨row, hrow, hfires, hhead, hbump⟩ | ⟨hnone, hcreate⟩
  · -- a further occurrence: the re-alert interval decides
    refine ⟨_, _, hbump, h.record hbump, rfl, ?_, hfires, ?_⟩
    · have hget : db.events.get row.eventId = some row := Table.get_eq_some_iff.mpr ⟨hrow, rfl⟩
      have hself := Table.get_modify_self (t := db.events) (k := row.eventId)
        (f := AlertEvent.bump (v.report summary) now) fun _ => rfl
      rw [hget] at hself
      exact hself
    · have hcount := (h.firing row hrow hfires).2.2
      have hdue : db.due v now = (decide (v.rule.reAlertAfterSeconds ≠ 0) &&
          v.rule.elapsed (db.lastSentAt row.eventId) now) := by
        unfold Db.due Db.firing
        have hhead' : (db.events.rows.filter (AlertEvent.Fires v.kind v.resourceRef)).head? =
            some row := hhead
        rw [hhead']
      have hnotone : ¬ row.occurrenceCount + 1 = 1 := by omega
      rw [hdue, Db.shouldSend]
      show (if row.occurrenceCount + 1 = 1 then true else _) = _
      rw [if_neg hnotone]
      by_cases hzero : v.rule.reAlertAfterSeconds = 0
      · simp [hzero]
      · rw [if_neg hzero]
        simp only [ne_eq, hzero, not_false_eq_true, decide_true, Bool.true_and]
        rfl
  · -- the first occurrence is always due
    refine ⟨_, _, hcreate, h.record hcreate, rfl,
      Table.get_insert_self
        (get_draw db.events), ?_, ?_⟩
    · simp [AlertEvent.Fires, Alerting.newEvent, Watched.report]
    · have hdue : db.due v now = true := by
        unfold Db.due Db.firing
        have hnone' : (db.events.rows.filter (AlertEvent.Fires v.kind v.resourceRef)).head? =
            none := hnone
        rw [hnone']
      rw [hdue]
      rfl

end Record

/-! ## What a tick does on the channel -/

section Ticks

variable {v settings o} {w : World} {now : Instant} {summary : Text}

/-- A tick of the evaluator: it holds one delivery at most, and only if it is due in the quiet
hours; and if it is due outside of them, it sends. -/
structure Evaluated (now : Instant) (w w' : World) : Prop where
  covered : w'.db.Covered v
  length : (heldSince v w w').length ≤ 1
  held : heldSince v w w' ≠ [] → w.db.due v now = true ∧ v.channel.quiet now = true
  sent : w.db.due v now = true → v.channel.quiet now = false → sentSince v w w' ≠ 0

lemma heldSince_of_length {w w' : World}
    (h : w'.db.deliveries.rows.length = w.db.deliveries.rows.length) : heldSince v w w' = [] := by
  rw [heldSince, ← h, drop_length]
  rfl

lemma Db.Covered.channel_eq {db : Db} (h : db.Covered v) {ch : AlertChannel}
    (hch : ch ∈ db.liveChannels v.rule) (hid : ch.channelId = v.channel.channelId) :
    ch = v.channel :=
  Table.eq_of_key_eq (mem_filter.mp hch).1 (mem_filter.mp h.channel).1 hid

lemma evaluated_of_due {db : Db} {e : AlertEvent} (hcovered : db.Covered v)
    (hdeliveries : db.deliveries = w.db.deliveries) (hget : db.events.get e.eventId = some e)
    (hfires : e.Fires v.kind v.resourceRef = true) (hdue : w.db.due v now = true)
    {out : Db × List Dispatch} {news : List AlertEventDelivery}
    (hnews : Delivered e now (db.liveChannels v.rule) (db, []) out news) {w' : World}
    (hhook : HookRun (o.clock now) out.2 { w with db := out.1 } w') :
    Evaluated (v := v) now w w' := by
  have hseverity := (hcovered.firing e (Table.mem_of_get hget) hfires).2.1
  rcases hhook.rows with ⟨g, hg, hrows⟩
  have hrows' : w'.db.deliveries.rows = (w.db.deliveries.rows ++ news).map g := by
    rw [hrows]
    rw [hnews.rows]
    rw [hdeliveries]
  have hdrop : w'.db.deliveries.rows.drop w.db.deliveries.rows.length = news.map g := by
    rw [hrows', map_append, drop_left' (length_map g)]
  have hevents : w'.db.events = db.events := hhook.events.trans hnews.events
  have hchannels : w'.db.channels = db.channels := hhook.channels.trans hnews.channels
  have hcovered' : w'.db.Covered v :=
    hcovered.congr (hhook.rules.trans hnews.rules) hchannels hevents
  refine ⟨hcovered', ?_, ?_, ?_⟩
  · -- the channel has one delivery among the new ones
    rw [heldSince, hdrop, length_map, ← countP_eq_length_filter, countP_map]
    calc _ ≤ news.countP fun d => d.alertChannelId = v.channel.channelId := by
            apply countP_mono_left
            intro d _ hd
            simp only [Function.comp_apply, Db.mine, Bool.and_eq_true, hg.channelId] at hd
            exact hd.1.1
      _ = _ := Wrote.countP_eq hnews.wrote _
      _ ≤ 1 := countP_liveChannels_le db v.rule
  · -- a row held is the channel's, and the gate held it for the quiet hours
    intro hheld
    rw [heldSince, hdrop] at hheld
    rcases exists_mem_of_ne_nil _ hheld with ⟨next, hnext⟩
    rcases mem_map.mp hnext with ⟨d', hd', -⟩
    rcases mem_filter.mp hd' with ⟨hmem, hmine⟩
    rcases mem_map.mp hmem with ⟨d, hd, rfl⟩
    simp only [Db.mine, Bool.and_eq_true, decide_eq_true_eq, hg.channelId] at hmine
    have hstatus : d.status = .suppressed := by
      rcases hg.changed d with hsame | ⟨-, hnot⟩
      · rw [← hsame]
        exact hmine.2
      · exact absurd hmine.2 hnot
    rcases Wrote.of_mem hnews.wrote hd with ⟨ch, hch, hwrote⟩
    have hsame := hcovered.channel_eq hch (hwrote.channelId.symm.trans hmine.1.1)
    have hgate := (congrArg Prod.fst hwrote.gate).symm.trans hstatus
    rw [gateQuietHours_eq hseverity, hsame] at hgate
    refine ⟨hdue, ?_⟩
    by_contra hquiet
    rw [if_neg hquiet] at hgate
    cases hgate
  · -- out of the quiet hours the row is sent, and the hook tries it
    intro _ hquiet
    rcases Wrote.exists_of_mem hnews.wrote hcovered.channel with ⟨d, hd, hwrote⟩
    have hstatus : d.status = .sent := by
      have hgate := congrArg Prod.fst hwrote.gate
      rw [gateQuietHours_eq hseverity, hquiet] at hgate
      exact hgate
    have hds : out.2 = (news.filter fun d => d.status = .sent).map
        AlertEventDelivery.toDispatch := hnews.dispatches.trans (nil_append _)
    have htried := hhook.tried (by
      intro dispatch hdispatch
      rw [hds] at hdispatch
      rcases mem_map.mp hdispatch with ⟨d', hd', rfl⟩
      rcases Wrote.of_mem hnews.wrote (mem_filter.mp hd').1 with ⟨ch, hch, hwrote'⟩
      show (out.1.events.get d'.eventId).isSome ∧ (out.1.channels.get d'.alertChannelId).isSome
      rw [hnews.events, hnews.channels, hwrote'.eventId, hwrote'.channelId]
      have hstored : db.channels.get ch.channelId = some ch :=
        Table.get_eq_some_iff.mpr ⟨(mem_filter.mp hch).1, rfl⟩
      exact ⟨hget ▸ rfl, hstored ▸ rfl⟩)
    have hattempts : w'.attempts.drop w.attempts.length =
        out.2.map fun d => ⟨d.deliveryId, o.clock now⟩ := by
      rw [htried, drop_left' rfl]
    rw [sentSince, hattempts, ← Nat.pos_iff_ne_zero, countP_pos_iff]
    refine ⟨⟨d.deliveryId, o.clock now⟩, ?_, ?_⟩
    · apply mem_map.mpr
      refine ⟨d.toDispatch, ?_, rfl⟩
      rw [hds]
      exact mem_map_of_mem (mem_filter.mpr ⟨hd, decide_eq_true hstatus⟩)
    · have hrow : w'.db.deliveries.get d.deliveryId = some (g d) := by
        rw [Table.get_eq_some_iff, hrows']
        exact ⟨mem_map_of_mem (mem_append_right _ hd), hg.deliveryId d⟩
      rw [hrow, Option.any_some, Db.mine, hg.channelId, hg.eventId, hwrote.channelId,
        hwrote.eventId, hevents, hget]
      simp [hfires]

lemma evaluate_evaluated (h : w.db.Covered v) (summary : Text) (now : Instant) :
    Evaluated (v := v) now w (evaluate settings o (v.report summary) now w).2 := by
  rcases h.reported summary now with ⟨db, e, hrecord, hcovered, hdeliveries, hget, hfires, hsend⟩
  have hrule := (hcovered.firing e (Table.mem_of_get hget) hfires).1
  have hstate : e.state = .firing := by
    simp only [AlertEvent.Fires, Bool.and_eq_true, decide_eq_true_eq] at hfires
    exact hfires.2
  unfold evaluate
  rw [hrecord]
  simp only [hstate, if_true]
  rw [tryDispatch_eq hget hrule hcovered.channel, hsend]
  cases hdue : w.db.due v now with
  | true =>
    rw [if_pos rfl]
    rcases @foldl_deliver e now (db.liveChannels v.rule) (db, []) with ⟨news, hnews⟩
    exact evaluated_of_due hcovered hdeliveries hget hfires hdue hnews
      (dispatchAll_hooked settings o _ _)
  | false =>
    -- nothing is written, so nothing is held
    rw [if_neg Bool.false_ne_true]
    have hnone : heldSince v w { w with db := db } = [] := by
      apply heldSince_of_length
      rw [hdeliveries]
    refine ⟨hcovered, ?_, ?_, ?_⟩
    · show (heldSince v w { w with db := db }).length ≤ 1
      rw [hnone]
      exact Nat.zero_le 1
    · intro hheld
      exact absurd hnone hheld
    · intro htrue
      rw [hdue] at htrue
      cases htrue

/-- What a tick of the retry worker leaves: the events are covered, and no delivery is new. -/
structure Retried (w w' : World) : Prop where
  covered : w'.db.Covered v
  length : w'.db.deliveries.rows.length = w.db.deliveries.rows.length

lemma Retried.of_update (h : w.db.Covered v) {id : ℕ} {f : AlertEventDelivery → AlertEventDelivery}
    {hf : ∀ d, (f d).deliveryId = d.deliveryId} {attempts : List Attempt} : Retried (v := v) w
      { w with db := w.db.updateDelivery id f hf, attempts := attempts } :=
  ⟨h.congr rfl rfl rfl, length_map _⟩

lemma retryOne_retried (h : w.db.Covered v) (delivery : AlertEventDelivery) :
    Retried (v := v) w (retryOne settings o now delivery w).2 := by
  unfold retryOne
  split
  · dsimp only
    split
    · exact Retried.of_update h
    · split
      · split
        · exact ⟨h, rfl⟩
        · -- the delivery is given up, and the channel reported as down
          rename_i db e hrecord
          have hgiven : (w.db.deadLetterDelivery delivery.deliveryId).Covered v :=
            h.congr rfl rfl rfl
          refine ⟨hgiven.record hrecord, ?_⟩
          rw [(recordAlertCondition_frame hrecord).2.2]
          exact length_map _
      · exact Retried.of_update h
  · exact Retried.of_update h

lemma retryEach_retried : ∀ (due : List AlertEventDelivery) (w : World), w.db.Covered v →
    Retried (v := v) w (retryEach settings o now due w).2 := by
  intro due
  induction due with
  | nil =>
    intro w h
    exact ⟨h, rfl⟩
  | cons delivery rest ih =>
    intro w h
    have hone := @retryOne_retried v settings o w now h delivery
    rw [retryEach]
    split
    · rename_i w' hout
      rw [hout] at hone
      exact hone
    · rename_i w' hout
      rw [hout] at hone
      have hrest := ih w' hone.covered
      exact ⟨hrest.covered, hrest.length.trans hone.length⟩

end Ticks

/-! ## The log of a run -/

section Log

variable {v settings o} {s : Watch}

/-- The deliveries are covered, and every tick that held one was due in the quiet hours. -/
structure Watch.Sound (s : Watch) : Prop where
  covered : s.world.db.Covered v
  noted : ∀ m ∈ s.log, m.held ≠ [] →
    m.evaluator = true ∧ m.due = true ∧ v.channel.quiet m.time = true
  spaced : Spaced v.rule.reAlertAfterSeconds s.log
  served : Served s.log

lemma Watch.Sound.evaluate (h : s.Sound (v := v)) (summary : Text) (now : Instant)
    (hok : s.Apt v (.evaluate summary now)) :
    (s.act v settings o (.evaluate summary now)).Sound (v := v) := by
  have htick := @evaluate_evaluated v settings o s.world h.covered summary now
  refine ⟨htick.covered, ?_, ⟨⟨htick.length, ?_⟩, h.spaced⟩, ⟨?_, h.served⟩⟩
  · intro m hm hheld
    rcases mem_cons.mp hm with rfl | hm
    · exact ⟨rfl, htick.held hheld⟩
    · exact h.noted m hm hheld
  · -- a delivery held before, and not followed by a send, is of a due tick in the quiet hours
    intro hheld m hm hheld'
    rcases htick.held hheld with ⟨hdue, hquiet⟩
    have hmem := (List.takeWhile_sublist _).subset hm
    rcases h.noted m hmem hheld' with ⟨hevaluator, hdue', hquiet'⟩
    exact hok.1 hdue hquiet m hm hevaluator hdue' hquiet'
  · intro _ t ht hle
    rcases hok.2 t ht hle with ⟨hdue, hquiet⟩
    exact htick.sent hdue hquiet

lemma Watch.Sound.retry (h : s.Sound (v := v)) (now : Instant) :
    (s.act v settings o (.retry now)).Sound (v := v) := by
  have htick : Retried (v := v) s.world (tick settings o now s.world).2 :=
    retryEach_retried _ s.world h.covered
  have hnone := heldSince_of_length (v := v) htick.length
  refine ⟨htick.covered, ?_, ⟨⟨?_, ?_⟩, h.spaced⟩, ⟨?_, h.served⟩⟩
  · intro m hm hheld
    rcases mem_cons.mp hm with rfl | hm
    · exact absurd hnone hheld
    · exact h.noted m hm hheld
  · show (heldSince v s.world (tick settings o now s.world).2).length ≤ 1
    rw [hnone]
    exact Nat.zero_le 1
  · intro hheld
    exact absurd hnone hheld
  · intro hretry
    cases hretry

end Log

/-- In every run in which due ticks in the quiet hours are `re_alert_after_seconds` apart, back to
the last send, and the first evaluator tick at or after the time of a held delivery is due and
outside the quiet hours: between two sends on the channel one delivery at most is held in
`re_alert_after_seconds`, and that first tick sends. -/
theorem held_not_swallowed {v : Watched} {settings : AlertRetrySettings} {o : Outside}
    {w₀ : World} (hcovered : w₀.db.Covered v) {s : Watch}
    (h : Lib.Runs.Reached (Watch.act v settings o) (Watch.Apt v) ⟨w₀, []⟩ s) :
    Spaced v.rule.reAlertAfterSeconds s.log ∧ Served s.log := by
  have hsound : s.Sound (v := v) := by
    apply h.invariant
    · refine ⟨hcovered, ?_, trivial, trivial⟩
      intro m hm
      cases hm
    · intro s a hs hok
      cases a with
      | evaluate summary now => exact hs.evaluate summary now hok
      | retry now => exact hs.retry now
  exact ⟨hsound.spaced, hsound.served⟩

/-! ## A night -/

/-- Quiet from ten in the evening to seven in the morning. -/
def nightChannel : AlertChannel where
  channelId := "mail".toList
  kind := .email
  label := "Mail".toList
  enabled := true
  quietHoursStartUtc := some ⟨22, 0⟩
  quietHoursEndUtc := some ⟨7, 0⟩

def diskRule (reAlertAfterSeconds : ℕ) : AlertRule where
  ruleId := "disk".toList
  condition := .diskLow
  enabled := true
  severity := .warning
  channelIds := ["mail".toList]
  reAlertAfterSeconds := reAlertAfterSeconds
  scopeChannelId := none
  notifyOnResolve := false

def watchedDisk (reAlertAfterSeconds : ℕ) : Watched where
  kind := .diskLow
  resourceRef := "gov".toList
  rule := diskRule reAlertAfterSeconds
  channel := nightChannel

/-- No event yet. -/
def beforeNight (reAlertAfterSeconds : ℕ) : World where
  db :=
    { rules := [diskRule reAlertAfterSeconds]
      channels := ⟨[nightChannel], by decide⟩
      events := Table.empty
      deliveries := Table.empty }
  attempts := []
  raised := []

lemma beforeNight_covered {reAlertAfterSeconds : ℕ} :
    (beforeNight reAlertAfterSeconds).db.Covered (watchedDisk reAlertAfterSeconds) where
  one _ _ := Nat.zero_le 1
  created _ := ⟨diskRule reAlertAfterSeconds, rfl, by simp [diskRule], by rfl⟩
  firing _ he := nomatch he
  channel := mem_filter.mpr ⟨mem_singleton.mpr rfl, by rfl⟩

/-- Every send gets through at once. -/
def smooth : Outside := ⟨fun _ _ _ => true, id⟩

def watchNight (reAlertAfterSeconds : ℕ) (ticks : List Tick) : Watch :=
  ticks.foldl (Watch.act (watchedDisk reAlertAfterSeconds) {} smooth)
    ⟨beforeNight reAlertAfterSeconds, []⟩

/-- Eleven in the evening, and seven in the morning. -/
def elevenPm : Instant := seconds 82800
def sevenAm : Instant := seconds 111600

/-- The disk is reported in the evening and in the morning. -/
def eveningAndMorning : List Tick :=
  [.evaluate [] elevenPm, .retry sevenAm, .evaluate [] sevenAm]

def twiceInTheEvening : List Tick :=
  [.evaluate [] elevenPm, .evaluate [] (elevenPm + seconds 10)]

theorem held_until_morning :
    (watchNight 3600 eveningAndMorning).log.map (fun m => (m.held, m.sent)) =
        [([], 1), ([], 0), ([some sevenAm], 0)] ∧
      Spaced 3600 (watchNight 3600 eveningAndMorning).log ∧
      Served (watchNight 3600 eveningAndMorning).log := by
  refine ⟨by decide +kernel, ?_⟩
  have hmeets : Lib.Runs.Meets (Watch.act (watchedDisk 3600) {} smooth)
      (Watch.Apt (watchedDisk 3600)) ⟨beforeNight 3600, []⟩ eveningAndMorning := by
    refine ⟨⟨?_, ?_⟩, trivial, ⟨?_, ?_⟩, trivial⟩
    · intro _ _ m hm
      cases hm
    · intro t ht
      cases ht
    · intro _ hquiet
      revert hquiet
      decide +kernel
    · decide +kernel
  exact held_not_swallowed beforeNight_covered (Lib.Runs.reached_of_meets hmeets)

/-- Two ticks ten seconds apart hold a delivery each; and with no seconds set to alert again,
nothing is ever sent of what was held. -/
theorem held_twice_and_swallowed :
    ((beforeNight 3600).db.Covered (watchedDisk 3600) ∧
      ¬ Spaced 3600 (watchNight 3600 twiceInTheEvening).log) ∧
    (beforeNight 0).db.Covered (watchedDisk 0) ∧ ¬ Served (watchNight 0 eveningAndMorning).log := by
  refine ⟨⟨beforeNight_covered, ?_⟩, beforeNight_covered, ?_⟩
  · have hlog : (watchNight 3600 twiceInTheEvening).log =
        [⟨true, elevenPm + seconds 10, true, [some sevenAm], 0⟩,
          ⟨true, elevenPm, true, [some sevenAm], 0⟩] := by decide +kernel
    rw [hlog]
    intro hspaced
    have happart := hspaced.1.2 (cons_ne_nil _ _) ⟨true, elevenPm, true, [some sevenAm], 0⟩
      (by decide +kernel) (cons_ne_nil _ _)
    revert happart
    decide +kernel
  · have hlog : (watchNight 0 eveningAndMorning).log =
        [⟨true, sevenAm, false, [], 0⟩, ⟨false, sevenAm, false, [], 0⟩,
          ⟨true, elevenPm, true, [some sevenAm], 0⟩] := by decide +kernel
    rw [hlog]
    intro hserved
    exact hserved.1 rfl sevenAm (by decide +kernel) (le_refl _) rfl

end CivicCast.Alerting
