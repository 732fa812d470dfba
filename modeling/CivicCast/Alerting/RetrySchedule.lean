import CivicCast.Alerting.Store

/-! # Retries of a delivery

A delivery is written as sent with one attempt counted, and handed to the dispatch hook, which
makes the attempt. A transport that fails makes the hook call `fail_delivery`, and that counts
the attempt once more: the retry worker then reads one attempt too many, both for the backoff
and for the limit.

`Lives` is the life of one delivery whose transport always fails, between whatever else goes on
in the database. `lives_tracked` says what its row is after any number of attempts, and
`on_schedule_iff` that this is the documented schedule only where two attempts are allowed.
-/

namespace CivicCast.Alerting

open List Option

open Lib (Text Table)

/-! ## The dispatch hook and the retry worker -/

structure AlertRetrySettings where
  maxAttempts : ℕ := 5
  baseBackoffSeconds : ℕ := 120
deriving DecidableEq

/-- What the code meets outside: whether `_send_by_kind` gets through, and the clock that
`record_alert_condition` reads during a tick. -/
structure Outside where
  send : Instant → AlertEvent → AlertChannel → Bool
  clock : Instant → Instant

/-- A send that was tried. -/
structure Attempt where
  deliveryId : ℕ
  time : Instant
deriving DecidableEq

/-- The database, the sends that were tried and the conditions the worker has raised. -/
structure World where
  db : Db
  attempts : List Attempt
  raised : List (Condition × Instant)

def World.tried (w : World) (deliveryId : ℕ) (now : Instant) : World :=
  { w with attempts := w.attempts ++ [{ deliveryId := deliveryId, time := now }] }

def transportError : Text := "transport error".toList

variable (settings : AlertRetrySettings) (o : Outside)

/-- `AlertDeliveryDispatch.__call__`. -/
def dispatch (now : Instant) (eventId deliveryId : ℕ) (channelId : Text) (w : World) : World :=
  match w.db.events.get eventId, w.db.channels.get channelId with
  | some event, some channel =>
    let w := w.tried deliveryId now
    if o.send now event channel then { w with db := w.db.succeedDelivery deliveryId }
    else
      let nextAttempt := now + seconds settings.baseBackoffSeconds
      { w with db := w.db.failDelivery deliveryId transportError nextAttempt }
  | _, _ => { w with db := w.db.deadLetterDelivery deliveryId }

/-- What the worker reports when it gives a delivery up. -/
def serviceDown (channelId : Text) (newAttempts : ℕ) : Condition where
  kind := .serviceDown
  resourceRef := "alert_channel:".toList ++ channelId
  sourceSection := "S8".toList
  summary := "Alert channel '".toList ++ channelId ++ "' unreachable after ".toList ++
    (toString newAttempts).toList ++ " attempts".toList

/-- `_retry_one` and the commit after it. Where it raises, what it wrote is rolled back; the
send was tried all the same. -/
def retryOne (now : Instant) (delivery : AlertEventDelivery) (w : World) :
    Except StoreError Unit × World :=
  match w.db.events.get delivery.eventId, w.db.channels.get delivery.alertChannelId with
  | some event, some channel =>
    let w := w.tried delivery.deliveryId now
    if o.send now event channel then
      (.ok (), { w with db := w.db.succeedDelivery delivery.deliveryId })
    else
      let newAttempts := delivery.attempts + 1
      if settings.maxAttempts ≤ newAttempts then
        let down := serviceDown delivery.alertChannelId newAttempts
        match (w.db.deadLetterDelivery delivery.deliveryId).recordAlertCondition down
            (o.clock now) false with
        | .error e => (.error e, w)
        | .ok (db, _) => (.ok (), { w with db := db, raised := w.raised ++ [(down, now)] })
      else
        let backoff := settings.baseBackoffSeconds * 2 ^ (newAttempts - 1)
        let nextAttempt := now + seconds backoff
        (.ok (), { w with
          db := w.db.failDelivery delivery.deliveryId transportError nextAttempt })
  | _, _ => (.ok (), { w with db := w.db.deadLetterDelivery delivery.deliveryId })

/-- The loop of `tick`: how many rows it went through. -/
def retryEach (now : Instant) :
    List AlertEventDelivery → World → Except StoreError ℕ × World
  | [], w => (.ok 0, w)
  | delivery :: rest, w =>
    match retryOne settings o now delivery w with
    | (.error e, w') => (.error e, w')
    | (.ok (), w') =>
      let out := retryEach now rest w'
      (out.1.map fun n => n + 1, out.2)

/-- `AlertRetryWorker.tick`. -/
def tick (now : Instant) (w : World) : Except StoreError ℕ × World :=
  retryEach settings o now (w.db.dueRetryDeliveries now 100) w

/-! ## The life of a delivery -/

/-- What the others do leaves the delivery alone, and its event and channel in place. -/
structure Kept (deliveryId eventId : ℕ) (channelId : Text) (db db' : Db) : Prop where
  delivery : db'.deliveries.get deliveryId = db.deliveries.get deliveryId
  event : (db'.events.get eventId).isSome
  channel : (db'.channels.get channelId).isSome

/-- The transport of the channel always fails. -/
def Fails (channelId : Text) : Prop :=
  ∀ now event channel, channel.channelId = channelId → o.send now event channel = false

/-- The worlds in the life of a delivery: it is written as sent and dispatched, then the
worker ticks, and the others do what they do. The worker runs while no two events fire for one
condition. -/
inductive Lives (deliveryId eventId : ℕ) (channelId : Text) : World → Prop
  | dispatched (db db' : Db) (kind : AlertChannelKind) (written now : Instant)
      (hid : deliveryId = (db.writeDelivery eventId channelId kind .sent written none []).2)
      (hkept : Kept deliveryId eventId channelId
        (db.writeDelivery eventId channelId kind .sent written none []).1 db') :
      Lives deliveryId eventId channelId
        (dispatch settings o now eventId deliveryId channelId ⟨db', [], []⟩)
  | tick (w : World) (now : Instant) (h : Lives deliveryId eventId channelId w)
      (hone : OneFiring w.db.events.rows) :
      Lives deliveryId eventId channelId (tick settings o now w).2
  | other (w : World) (db' : Db) (h : Lives deliveryId eventId channelId w)
      (hkept : Kept deliveryId eventId channelId w.db db') :
      Lives deliveryId eventId channelId { w with db := db' }

def World.timesOf (w : World) (deliveryId : ℕ) : List Instant :=
  (w.attempts.filter fun a => a.deliveryId = deliveryId).map Attempt.time

/-- The delivery is given up, and its channel was reported as down when it was last tried. -/
def GivenUp (w : World) (channelId : Text) (row : AlertEventDelivery) (t : Instant) : Prop :=
  row.status = .deadLetter ∧ ∃ newAttempts, (serviceDown channelId newAttempts, t) ∈ w.raised

/-- The documented schedule: the delivery is tried no more than `max_attempts` times; after the
`k`-th time of fewer it waits for the next one, `2 ^ (k - 1)` times the base later, which comes
with the first tick that has room for it; after the last it is given up. -/
def OnSchedule (deliveryId : ℕ) (channelId : Text) (w : World) : Prop :=
  (w.timesOf deliveryId).length ≤ settings.maxAttempts ∧
  ∃ row t, w.db.deliveries.get deliveryId = some row ∧
    (w.timesOf deliveryId).getLast? = some t ∧
    ((w.timesOf deliveryId).length < settings.maxAttempts →
      row.status = .failed ∧
      row.nextAttemptAt = some (t + seconds
        (settings.baseBackoffSeconds * 2 ^ ((w.timesOf deliveryId).length - 1))) ∧
      ∀ now, row.due now → OneFiring w.db.events.rows →
        (w.db.deliveries.rows.filter (AlertEventDelivery.due now)).length ≤ 100 →
        ((tick settings o now w).2.timesOf deliveryId).length =
          (w.timesOf deliveryId).length + 1) ∧
    ((w.timesOf deliveryId).length = settings.maxAttempts → GivenUp w channelId row t)

/-! ## One retry -/

section Retry

variable {settings o} {w w' : World} {now : Instant} {delivery row : AlertEventDelivery}
  {deliveryId eventId : ℕ} {db : Db} {other : ℕ} {f : AlertEventDelivery → AlertEventDelivery}
  {hf : ∀ d, (f d).deliveryId = d.deliveryId}

lemma timesOf_tried_self (w : World) {deliveryId : ℕ} (now : Instant) :
    (w.tried deliveryId now).timesOf deliveryId = w.timesOf deliveryId ++ [now] := by
  simp [World.timesOf, World.tried]

lemma timesOf_tried_of_ne (h : other ≠ deliveryId) :
    (w.tried other now).timesOf deliveryId = w.timesOf deliveryId := by
  simp [World.timesOf, World.tried, h]

/-- What a step of the worker does to everything but the delivery it is about. -/
structure Apart (deliveryId : ℕ) (w w' : World) : Prop where
  delivery : ∀ other, other ≠ deliveryId →
    w'.db.deliveries.get other = w.db.deliveries.get other
  times : ∀ other, other ≠ deliveryId → w'.timesOf other = w.timesOf other
  channels : w'.db.channels = w.db.channels
  events : ∀ eventId, (w.db.events.get eventId).isSome → (w'.db.events.get eventId).isSome
  one : OneFiring w.db.events.rows → OneFiring w'.db.events.rows
  raised : w.raised ⊆ w'.raised

lemma updateDelivery_get (h : other ≠ deliveryId) :
    (db.updateDelivery deliveryId f hf).deliveries.get other = db.deliveries.get other :=
  Table.get_modify_of_ne hf h

lemma updateDelivery_get_self :
    (db.updateDelivery deliveryId f hf).deliveries.get deliveryId =
      (db.deliveries.get deliveryId).map f :=
  Table.get_modify_self hf

lemma Apart.of_update (w : World) :
    Apart deliveryId w { w with db := w.db.updateDelivery deliveryId f hf } where
  delivery := fun _ h => updateDelivery_get h
  times := fun _ _ => rfl
  channels := rfl
  events := fun _ h => h
  one := fun h => h
  raised := fun _ h => h

lemma Apart.of_tried (w : World) {now : Instant} : Apart deliveryId w (w.tried deliveryId now) where
  delivery := fun _ _ => rfl
  times := fun _ h => timesOf_tried_of_ne h.symm
  channels := rfl
  events := fun _ h => h
  one := fun h => h
  raised := fun _ h => h

lemma Apart.trans {w'' : World} (h : Apart deliveryId w w') (h' : Apart deliveryId w' w'') :
    Apart deliveryId w w'' where
  delivery := fun other hne => (h'.delivery other hne).trans (h.delivery other hne)
  times := fun other hne => (h'.times other hne).trans (h.times other hne)
  channels := h'.channels.trans h.channels
  events := fun eventId hsome => h'.events eventId (h.events eventId hsome)
  one := fun hone => h'.one (h.one hone)
  raised := fun _ hmem => h'.raised (h.raised hmem)

lemma Apart.of_record {down : Condition} {e : AlertEvent} {t : Instant}
    (h : (w.db.deadLetterDelivery deliveryId).recordAlertCondition down t false = .ok (db, e)) :
    Apart deliveryId w { w with db := db, raised := w.raised ++ [(down, now)] } := by
  rcases recordAlertCondition_frame h with ⟨_, hchannels, hdeliveries⟩
  constructor
  · intro other hne
    rw [hdeliveries]
    exact updateDelivery_get hne
  · exact fun _ _ => rfl
  · exact hchannels
  · intro eventId hsome
    exact recordAlertCondition_keeps h hsome
  · intro hone
    exact @OneFiring.recordAlertCondition (w.db.deadLetterDelivery deliveryId) _ _ _ _ _ hone h
  · exact subset_append_left _ _

/-- With one firing event at most, a retry does not raise, and it leaves the other deliveries
alone. -/
lemma retryOne_apart (hone : OneFiring w.db.events.rows) :
    (retryOne settings o now delivery w).1 = .ok () ∧
      Apart delivery.deliveryId w (retryOne settings o now delivery w).2 := by
  unfold retryOne
  split
  · dsimp only
    split
    · exact ⟨rfl, (Apart.of_tried w).trans (Apart.of_update _)⟩
    · split
      · have hrecord := @recordAlertCondition_isOk
          ((w.tried delivery.deliveryId now).db.deadLetterDelivery delivery.deliveryId)
          (serviceDown delivery.alertChannelId (delivery.attempts + 1)) (o.clock now) false hone
        rcases hrecord with ⟨⟨db, e⟩, hrecord⟩
        rw [hrecord]
        exact ⟨rfl, (Apart.of_tried w).trans (Apart.of_record hrecord)⟩
      · exact ⟨rfl, (Apart.of_tried w).trans (Apart.of_update _)⟩
  · exact ⟨rfl, Apart.of_update _⟩

/-- A retry that fails: the delivery is given up or scheduled again, by the attempts that its
row counts. -/
lemma retryOne_fails (hone : OneFiring w.db.events.rows)
    (hrow : w.db.deliveries.get delivery.deliveryId = some delivery)
    (hevent : (w.db.events.get delivery.eventId).isSome)
    (hchannel : (w.db.channels.get delivery.alertChannelId).isSome)
    (hfails : Fails o delivery.alertChannelId) :
    (retryOne settings o now delivery w).2.timesOf delivery.deliveryId =
        w.timesOf delivery.deliveryId ++ [now] ∧
      if settings.maxAttempts ≤ delivery.attempts + 1 then
        (retryOne settings o now delivery w).2.db.deliveries.get delivery.deliveryId =
            some { delivery with status := .deadLetter, nextAttemptAt := none } ∧
          (serviceDown delivery.alertChannelId (delivery.attempts + 1), now) ∈
            (retryOne settings o now delivery w).2.raised
      else
        (retryOne settings o now delivery w).2.db.deliveries.get delivery.deliveryId =
          some { delivery with
            status := .failed
            lastError := transportError.take 1000
            attempts := delivery.attempts + 1
            nextAttemptAt := some (now +
              seconds (settings.baseBackoffSeconds * 2 ^ delivery.attempts)) } := by
  rcases isSome_iff_exists.mp hevent with ⟨event, hevent⟩
  rcases isSome_iff_exists.mp hchannel with ⟨channel, hchannel⟩
  have hsend : o.send now event channel = false :=
    hfails now event channel (Table.key_of_get hchannel)
  unfold retryOne
  rw [hevent, hchannel]
  dsimp only
  rw [if_neg (by simp [hsend])]
  by_cases hlimit : settings.maxAttempts ≤ delivery.attempts + 1
  · -- the last attempt: a dead letter, and an alert about the channel
    rw [if_pos hlimit, if_pos hlimit]
    have hrecord := @recordAlertCondition_isOk
      ((w.tried delivery.deliveryId now).db.deadLetterDelivery delivery.deliveryId)
      (serviceDown delivery.alertChannelId (delivery.attempts + 1)) (o.clock now) false hone
    rcases hrecord with ⟨⟨db, e⟩, hrecord⟩
    rw [hrecord]
    refine ⟨timesOf_tried_self w now, ?_, ?_⟩
    · show db.deliveries.get _ = _
      rw [(recordAlertCondition_frame hrecord).2.2, Db.deadLetterDelivery, updateDelivery_get_self]
      exact congrArg _ hrow
    · exact mem_append_right _ mem_cons_self
  · rw [if_neg hlimit, if_neg hlimit]
    refine ⟨timesOf_tried_self w now, ?_⟩
    rw [Db.failDelivery, updateDelivery_get_self]
    exact congrArg _ hrow

/-! ## One tick -/

/-- What a step leaves of a delivery that it is not about. -/
structure Untouched (deliveryId : ℕ) (w w' : World) : Prop where
  delivery : w'.db.deliveries.get deliveryId = w.db.deliveries.get deliveryId
  times : w'.timesOf deliveryId = w.timesOf deliveryId
  channels : w'.db.channels = w.db.channels
  events : ∀ eventId, (w.db.events.get eventId).isSome → (w'.db.events.get eventId).isSome
  one : OneFiring w.db.events.rows → OneFiring w'.db.events.rows
  raised : w.raised ⊆ w'.raised

lemma Untouched.refl (deliveryId : ℕ) (w : World) : Untouched deliveryId w w :=
  ⟨rfl, rfl, rfl, fun _ h => h, fun h => h, fun _ h => h⟩

lemma Untouched.trans {w'' : World} (h : Untouched deliveryId w w')
    (h' : Untouched deliveryId w' w'') : Untouched deliveryId w w'' where
  delivery := h'.delivery.trans h.delivery
  times := h'.times.trans h.times
  channels := h'.channels.trans h.channels
  events := fun eventId hsome => h'.events eventId (h.events eventId hsome)
  one := fun hone => h'.one (h.one hone)
  raised := fun _ hmem => h'.raised (h.raised hmem)

lemma Apart.untouched (h : Apart other w w') (hne : deliveryId ≠ other) :
    Untouched deliveryId w w' :=
  ⟨h.delivery _ hne, h.times _ hne, h.channels, h.events, h.one, h.raised⟩

variable (settings o) in
lemma retryEach_cons {rest : List AlertEventDelivery} (hone : OneFiring w.db.events.rows) :
    (retryEach settings o now (delivery :: rest) w).2 =
      (retryEach settings o now rest (retryOne settings o now delivery w).2).2 := by
  have hok := (@retryOne_apart settings o w now delivery hone).1
  rw [retryEach]
  rcases hout : retryOne settings o now delivery w with ⟨r, w'⟩
  rw [hout] at hok
  cases hok
  rfl

variable (settings o) in
lemma retryEach_untouched : ∀ (due : List AlertEventDelivery) (w : World),
    OneFiring w.db.events.rows → (∀ d ∈ due, d.deliveryId ≠ deliveryId) →
    Untouched deliveryId w (retryEach settings o now due w).2 := by
  intro due
  induction due with
  | nil => exact fun w _ _ => Untouched.refl deliveryId w
  | cons d rest ih =>
    intro w hone hothers
    rw [retryEach_cons settings o hone]
    have happart := (@retryOne_apart settings o w now d hone).2
    have hfirst := happart.untouched (hothers d mem_cons_self).symm
    exact hfirst.trans (ih _ (happart.one hone) fun e he =>
      hothers e (mem_cons_of_mem _ he))

variable (settings o) in
lemma retryEach_of_mem : ∀ (due : List AlertEventDelivery) (w : World),
    OneFiring w.db.events.rows → (due.map AlertEventDelivery.deliveryId).Nodup →
    delivery ∈ due →
    ∃ before, Untouched delivery.deliveryId w before ∧
      Untouched delivery.deliveryId (retryOne settings o now delivery before).2
        (retryEach settings o now due w).2 := by
  intro due
  induction due with
  | nil =>
    intro w _ _ hmem
    cases hmem
  | cons d rest ih =>
    intro w hone hnodup hmem
    rw [retryEach_cons settings o hone]
    rw [map_cons, nodup_cons] at hnodup
    have happart := (@retryOne_apart settings o w now d hone).2
    rcases mem_cons.mp hmem with rfl | hrest
    · -- its turn comes first, and no later row has its id
      refine ⟨w, Untouched.refl _ w, ?_⟩
      apply retryEach_untouched settings o rest _ (happart.one hone)
      intro e he heq
      exact hnodup.1 (heq ▸ mem_map_of_mem he)
    · -- the row before it is another delivery
      have hne : delivery.deliveryId ≠ d.deliveryId := by
        intro heq
        exact hnodup.1 (heq ▸ mem_map_of_mem hrest)
      rcases ih _ (happart.one hone) hnodup.2 hrest with ⟨before, hbefore, hafter⟩
      exact ⟨before, (happart.untouched hne).trans hbefore, hafter⟩

lemma mem_of_mem_due {limit : ℕ} (h : delivery ∈ db.dueRetryDeliveries now limit) :
    delivery ∈ db.deliveries.rows ∧ delivery.due now = true := by
  have hmem := mem_mergeSort.mp (mem_of_mem_take h)
  exact mem_filter.mp hmem

lemma due_nodup (db : Db) (now : Instant) (limit : ℕ) :
    ((db.dueRetryDeliveries now limit).map AlertEventDelivery.deliveryId).Nodup := by
  have hfiltered : ((db.deliveries.rows.filter (AlertEventDelivery.due now)).map
      AlertEventDelivery.deliveryId).Nodup :=
    db.deliveries.nodup.sublist (filter_sublist.map _)
  have hsorted := ((mergeSort_perm (db.deliveries.rows.filter (AlertEventDelivery.due now))
    fun a b => a.nextAttemptAt.getD 0 ≤ b.nextAttemptAt.getD 0).map
      AlertEventDelivery.deliveryId).nodup_iff.mpr hfiltered
  exact hsorted.sublist ((take_sublist _ _).map _)

lemma mem_due_of_room (hrow : db.deliveries.get deliveryId = some row) (hdue : row.due now = true)
    (hroom : (db.deliveries.rows.filter (AlertEventDelivery.due now)).length ≤ 100) :
    row ∈ db.dueRetryDeliveries now 100 := by
  unfold Db.dueRetryDeliveries
  rw [take_of_length_le (by rw [length_mergeSort]; exact hroom), mem_mergeSort]
  exact mem_filter.mpr ⟨Table.mem_of_get hrow, hdue⟩

/-- A delivery in its life: its row, its event and its channel. -/
structure Alive (row : AlertEventDelivery) (w : World) : Prop where
  delivery : w.db.deliveries.get row.deliveryId = some row
  event : (w.db.events.get row.eventId).isSome
  channel : (w.db.channels.get row.alertChannelId).isSome

lemma Alive.untouched (h : Alive row w) (hsame : Untouched row.deliveryId w w') : Alive row w' where
  delivery := hsame.delivery.trans h.delivery
  event := hsame.events _ h.event
  channel := by
    rw [hsame.channels]
    exact h.channel

lemma tick_due (halive : Alive row w) (hone : OneFiring w.db.events.rows)
    (hmem : row ∈ w.db.dueRetryDeliveries now 100) (hfails : Fails o row.alertChannelId) :
    (tick settings o now w).2.timesOf row.deliveryId = w.timesOf row.deliveryId ++ [now] ∧
      if settings.maxAttempts ≤ row.attempts + 1 then
        Alive { row with status := .deadLetter, nextAttemptAt := none }
            (tick settings o now w).2 ∧
          (serviceDown row.alertChannelId (row.attempts + 1), now) ∈
            (tick settings o now w).2.raised
      else
        Alive { row with
          status := .failed
          lastError := transportError.take 1000
          attempts := row.attempts + 1
          nextAttemptAt := some (now +
            seconds (settings.baseBackoffSeconds * 2 ^ row.attempts)) }
          (tick settings o now w).2 := by
  rcases @retryEach_of_mem settings o now row _ w hone (due_nodup w.db now 100) hmem with
    ⟨before, hbefore, hafter⟩
  have hstill := halive.untouched hbefore
  have hdone := (@retryOne_apart settings o before now row (hbefore.one hone)).2
  rcases @retryOne_fails settings o before now row (hbefore.one hone) hstill.delivery hstill.event
    hstill.channel hfails with ⟨htimes, hrow⟩
  have hevent := hafter.events _ (hdone.events _ hstill.event)
  have hchannel : ((tick settings o now w).2.db.channels.get row.alertChannelId).isSome := by
    rw [show (tick settings o now w).2.db.channels = _ from hafter.channels, hdone.channels]
    exact hstill.channel
  -- its turn comes at `before`, and the rest of the tick leaves it alone
  constructor
  · exact hafter.times.trans (by rw [htimes, hbefore.times])
  · split at hrow
    · rename_i hlimit
      rw [if_pos hlimit]
      exact ⟨⟨hafter.delivery.trans hrow.1, hevent, hchannel⟩, hafter.raised hrow.2⟩
    · rename_i hlimit
      rw [if_neg hlimit]
      exact ⟨hafter.delivery.trans hrow, hevent, hchannel⟩

end Retry

/-! ## A whole life -/

/-- The delivery waits for another attempt after `k`, of which its row counts one more. -/
def Waiting (k : ℕ) (t : Instant) (row : AlertEventDelivery) : Prop :=
  row.status = .failed ∧ row.attempts = k + 1 ∧
    row.nextAttemptAt =
      some (t + seconds (settings.baseBackoffSeconds * 2 ^ (if k = 1 then 0 else k))) ∧
    (k = 1 ∨ 2 ≤ k ∧ k + 1 < settings.maxAttempts)

/-- The delivery was given up after `k` attempts. -/
def Over (w : World) (channelId : Text) (k : ℕ) (t : Instant) (row : AlertEventDelivery) : Prop :=
  GivenUp w channelId row t ∧ 2 ≤ k ∧ settings.maxAttempts ≤ k + 1 ∧
    (k = 2 ∨ k < settings.maxAttempts)

/-- What the code makes of a delivery whose transport fails: it waits the base after the first
attempt and `2 ^ k` times the base after the `k`-th of the others, and is given up at the second
one or at the last but one. -/
structure Tracked (deliveryId eventId : ℕ) (channelId : Text) (w : World)
    (row : AlertEventDelivery) (t : Instant) : Prop where
  alive : Alive row w
  ids : row.deliveryId = deliveryId ∧ row.eventId = eventId ∧ row.alertChannelId = channelId
  last : (w.timesOf deliveryId).getLast? = some t
  state : Waiting settings (w.timesOf deliveryId).length t row ∨
    Over settings w channelId (w.timesOf deliveryId).length t row

section Life

variable {settings o} {w w' : World} {now t : Instant} {row : AlertEventDelivery}
  {deliveryId eventId : ℕ} {channelId : Text}

lemma Tracked.untouched (h : Tracked settings deliveryId eventId channelId w row t)
    (hsame : Untouched deliveryId w w') :
    Tracked settings deliveryId eventId channelId w' row t where
  alive := h.alive.untouched (h.ids.1 ▸ hsame)
  ids := h.ids
  last := by
    rw [hsame.times]
    exact h.last
  state := by
    rw [hsame.times]
    rcases h.state with hwaiting | ⟨⟨hstatus, n, hraised⟩, hrest⟩
    · exact .inl hwaiting
    · exact .inr ⟨⟨hstatus, n, hsame.raised hraised⟩, hrest⟩

/-- One tick: the delivery is left as it is, or tried once more. -/
lemma Tracked.tick (h : Tracked settings deliveryId eventId channelId w row t)
    (hfails : Fails o channelId) (hone : OneFiring w.db.events.rows) :
    ∃ row' t', Tracked settings deliveryId eventId channelId (tick settings o now w).2 row' t' := by
  rcases h.ids with ⟨rfl, rfl, rfl⟩
  by_cases hmem : row ∈ w.db.dueRetryDeliveries now 100
  · -- only a delivery that waits is due
    have hdue := (mem_of_mem_due hmem).2
    have hwaiting : Waiting settings (w.timesOf row.deliveryId).length t row := by
      rcases h.state with hwaiting | ⟨⟨hstatus, _⟩, _⟩
      · exact hwaiting
      · simp [AlertEventDelivery.due, hstatus] at hdue
    rcases hwaiting with ⟨_, hattempts, _, hcount⟩
    rcases @tick_due settings o w now row h.alive hone hmem hfails with ⟨htimes, hrow⟩
    have hlength : ((Alerting.tick settings o now w).2.timesOf row.deliveryId).length =
        (w.timesOf row.deliveryId).length + 1 := by
      rw [htimes, length_append]
      rfl
    have hlast : ((Alerting.tick settings o now w).2.timesOf row.deliveryId).getLast? =
        some now := by
      rw [htimes, getLast?_append]
      rfl
    split at hrow
    · refine ⟨_, now, hrow.1, ⟨rfl, rfl, rfl⟩, hlast, .inr ⟨⟨rfl, _, hrow.2⟩, ?_⟩⟩
      rw [hlength]
      omega
    · refine ⟨_, now, hrow, ⟨rfl, rfl, rfl⟩, hlast, .inl ⟨rfl, ?_, ?_, ?_⟩⟩
      · rw [hlength]
        exact congrArg (fun n => n + 1) hattempts
      · rw [hlength, if_neg (by omega), ← hattempts]
      · rw [hlength]
        omega
  · refine ⟨row, t, h.untouched ?_⟩
    apply retryEach_untouched settings o _ w hone
    intro d hd heq
    have hd' := (mem_of_mem_due hd).1
    have hrow := Table.mem_of_get h.alive.delivery
    exact hmem (Table.eq_of_key_eq hd' hrow heq ▸ hd)

/-- The first dispatch: one attempt, which the row counts twice. -/
lemma dispatch_tracked {db db' : Db} {kind : AlertChannelKind} {written : Instant}
    (hid : deliveryId = (db.writeDelivery eventId channelId kind .sent written none []).2)
    (hkept : Kept deliveryId eventId channelId
      (db.writeDelivery eventId channelId kind .sent written none []).1 db')
    (hfails : Fails o channelId) :
    ∃ row, Tracked settings deliveryId eventId channelId
      (dispatch settings o now eventId deliveryId channelId ⟨db', [], []⟩) row now := by
  rcases isSome_iff_exists.mp hkept.event with ⟨event, hevent⟩
  rcases isSome_iff_exists.mp hkept.channel with ⟨channel, hchannel⟩
  have hsend : o.send now event channel = false :=
    hfails now event channel (Table.key_of_get hchannel)
  have hrow : db'.deliveries.get deliveryId =
      some (newDelivery db eventId channelId kind .sent written none []) := by
    rw [hkept.delivery, hid]
    exact Table.get_insert_self (get_draw db.deliveries)
  -- the first send fails, and the row waits for its second attempt
  let nextAttempt := now + seconds settings.baseBackoffSeconds
  have hdispatch : dispatch settings o now eventId deliveryId channelId ⟨db', [], []⟩ =
      ⟨db'.failDelivery deliveryId transportError nextAttempt, [⟨deliveryId, now⟩], []⟩ := by
    unfold dispatch
    rw [hevent, hchannel]
    exact if_neg (by simp [hsend])
  let failed : AlertEventDelivery :=
    { newDelivery db eventId channelId kind .sent written none [] with
      status := .failed
      lastError := transportError.take 1000
      attempts := 2
      nextAttemptAt := some nextAttempt }
  have hfailed : (db'.failDelivery deliveryId transportError nextAttempt).deliveries.get
      deliveryId = some failed := by
    rw [Db.failDelivery, updateDelivery_get_self, hrow]
    rfl
  have htimes : (⟨db'.failDelivery deliveryId transportError nextAttempt, [⟨deliveryId, now⟩],
      []⟩ : World).timesOf deliveryId = [now] := by
    simp [World.timesOf]
  have hids : failed.deliveryId = deliveryId := hid.symm
  rw [hdispatch]
  refine ⟨failed, ⟨?_, hkept.event, hkept.channel⟩, ⟨hids, rfl, rfl⟩, ?_, .inl ⟨rfl, ?_, ?_, ?_⟩⟩
  · exact hids ▸ hfailed
  · rw [htimes]
    rfl
  · rw [htimes]
    rfl
  · rw [htimes]
    show some nextAttempt = _
    simp [nextAttempt]
  · rw [htimes]
    exact .inl rfl

lemma lives_tracked (hfails : Fails o channelId)
    (h : Lives settings o deliveryId eventId channelId w) :
    ∃ row t, Tracked settings deliveryId eventId channelId w row t := by
  induction h with
  | dispatched db db' kind written now hid hkept =>
    rcases dispatch_tracked hid hkept hfails with ⟨row, htracked⟩
    exact ⟨row, now, htracked⟩
  | tick w now _ hone ih =>
    rcases ih with ⟨row, t, htracked⟩
    exact htracked.tick hfails hone
  | other w db' _ hkept ih =>
    rcases ih with ⟨row, t, htracked⟩
    refine ⟨row, t, ?_, htracked.ids, htracked.last, htracked.state⟩
    rcases htracked.ids with ⟨rfl, rfl, rfl⟩
    exact ⟨hkept.delivery.trans htracked.alive.delivery, hkept.event, hkept.channel⟩

end Life

/-- Every delivery whose transport fails keeps to the documented schedule. -/
def KeepsSchedule : Prop :=
  ∀ (o : Outside) (deliveryId eventId : ℕ) (channelId : Text) (w : World), Fails o channelId →
    Lives settings o deliveryId eventId channelId w → OnSchedule settings o deliveryId channelId w

section Schedule

variable {settings o} {w : World} {now t : Instant} {row : AlertEventDelivery}
  {deliveryId eventId : ℕ} {channelId : Text}

variable (h : Tracked settings deliveryId eventId channelId w row t)
include h

lemma Tracked.row_eq {row' : AlertEventDelivery}
    (hrow : w.db.deliveries.get deliveryId = some row') : row = row' := by
  have hget := h.alive.delivery
  rw [h.ids.1, hrow] at hget
  exact (some.inj hget).symm

lemma Tracked.tick_length
    (hfails : Fails o channelId) (hdue : row.due now = true) (hone : OneFiring w.db.events.rows)
    (hroom : (w.db.deliveries.rows.filter (AlertEventDelivery.due now)).length ≤ 100) :
    ((Alerting.tick settings o now w).2.timesOf deliveryId).length =
      (w.timesOf deliveryId).length + 1 := by
  rcases h.ids with ⟨rfl, rfl, rfl⟩
  have hmem := mem_due_of_room h.alive.delivery hdue hroom
  rw [(@tick_due settings o w now row h.alive hone hmem hfails).1, length_append]
  rfl

/-- With two attempts the count that is one too high makes no difference. -/
lemma Tracked.onSchedule_of_two (hfails : Fails o channelId) (htwo : settings.maxAttempts = 2) :
    OnSchedule settings o deliveryId channelId w := by
  have hrow : w.db.deliveries.get deliveryId = some row := h.ids.1 ▸ h.alive.delivery
  rcases h.state with ⟨hstatus, _, hnext, hcount⟩ | ⟨hgiven, hcount⟩
  · have hone : (w.timesOf deliveryId).length = 1 := by omega
    rw [hone] at hnext
    refine ⟨by omega, row, t, hrow, h.last, ?_, ?_⟩
    · intro _
      refine ⟨hstatus, ?_, ?_⟩
      · rw [hone]
        exact hnext
      · intro now hdue hfiring hroom
        exact h.tick_length hfails hdue hfiring hroom
    · intro hall
      omega
  · refine ⟨by omega, row, t, hrow, h.last, ?_, ?_⟩
    · intro hfewer
      omega
    · intro _
      exact hgiven

end Schedule

/-! ## A delivery that keeps failing -/

def downChannel : AlertChannel where
  channelId := ['c']
  kind := .webhook
  label := ['c']
  enabled := true
  quietHoursStartUtc := none
  quietHoursEndUtc := none

def diskEvent : AlertEvent where
  eventId := 0
  ruleId := ['r']
  condition := .diskLow
  severity := .critical
  state := .firing
  resourceRef := ['d']
  summary := ['d']
  detail := []
  sourceSection := ['S', '8']
  firstObservedAt := 0
  lastObservedAt := 0
  resolvedAt := none
  occurrenceCount := 1

/-- One event, and one channel to deliver it to. -/
def oneEvent : Db where
  rules := []
  channels := ⟨[downChannel], by decide⟩
  events := ⟨[diskEvent], by decide⟩
  deliveries := .empty

/-- Nothing gets through. -/
def unreachable : Outside where
  send := fun _ _ _ => false
  clock := fun now => now

/-- The event is delivered at time zero. -/
def firstTry : World :=
  dispatch settings unreachable 0 0 1 ['c']
    ⟨(oneEvent.writeDelivery 0 ['c'] .webhook .sent 0 none []).1, [], []⟩

lemma firstTry_lives : Lives settings unreachable 1 0 ['c'] (firstTry settings) :=
  .dispatched oneEvent _ .webhook 0 0 rfl ⟨rfl, rfl, rfl⟩

lemma unreachable_fails : Fails unreachable ['c'] := fun _ _ _ _ => rfl

lemma firstTry_times : (firstTry settings).timesOf 1 = [0] := rfl

lemma firstTry_oneFiring : OneFiring (firstTry settings).db.events.rows := by
  intro kind resourceRef
  exact countP_le_length

lemma firstTry_room {now : Instant} :
    ((firstTry settings).db.deliveries.rows.filter (AlertEventDelivery.due now)).length ≤ 100 :=
  (length_filter_le _ _).trans (show (1 : ℕ) ≤ 100 by decide)

/-- With another number of attempts allowed, the delivery at time zero is off the documented
schedule at its first or second attempt. -/
lemma not_keepsSchedule_of_ne (hattempts : 1 ≤ settings.maxAttempts)
    (hbackoff : 1 ≤ settings.baseBackoffSeconds) (hne : settings.maxAttempts ≠ 2) :
    ¬ KeepsSchedule settings := by
  intro hkeeps
  have hlives := firstTry_lives settings
  rcases hkeeps _ _ _ _ _ unreachable_fails hlives with ⟨_, row, t, hrow, _, hfewer, hall⟩
  rcases lives_tracked unreachable_fails hlives with ⟨row', t', htracked⟩
  have hsame := htracked.row_eq hrow
  subst hsame
  rw [firstTry_times] at hfewer hall
  have hwaiting : Waiting settings 1 t' row' := by
    rcases htracked.state with hwaiting | ⟨_, hcount, _⟩
    · exact hwaiting
    · rw [firstTry_times] at hcount
      exact absurd hcount (by decide)
  by_cases hone : settings.maxAttempts = 1
  · -- a single attempt is given another one
    have hgiven := (hall hone.symm).1
    rw [hwaiting.1] at hgiven
    cases hgiven
  · -- of three or more attempts, the second is given up or waits for twice too long
    have hmore : [(0 : Instant)].length < settings.maxAttempts := by
      show 1 < _
      omega
    rcases hfewer hmore with ⟨_, hnext, hagain⟩
    have hdue : row'.due (t + seconds (settings.baseBackoffSeconds * 2 ^ 0)) = true := by
      simp only [AlertEventDelivery.due, hwaiting.1, hnext]
      simp
    have hlength := hagain _ hdue (firstTry_oneFiring settings) (firstTry_room settings)
    have hlives' := hlives.tick _ (t + seconds (settings.baseBackoffSeconds * 2 ^ 0))
      (firstTry_oneFiring settings)
    rcases hkeeps _ _ _ _ _ unreachable_fails hlives' with ⟨_, row₂, t₂, hrow₂, hlast₂, hfewer₂, _⟩
    rcases lives_tracked unreachable_fails hlives' with ⟨row₃, t₃, htracked₃⟩
    have hsame₃ := htracked₃.row_eq hrow₂
    have htime : t₃ = t₂ := some.inj (htracked₃.last.symm.trans hlast₂)
    subst hsame₃ htime
    have hstate := htracked₃.state
    rw [hlength] at hfewer₂ hstate
    have htwo : [(0 : Instant)].length + 1 < settings.maxAttempts := by
      show 2 < _
      omega
    rcases hfewer₂ htwo with ⟨hstatus, hnext₂, _⟩
    rcases hstate with ⟨_, _, hnext₃, _⟩ | ⟨⟨hgiven, _⟩, _⟩
    · -- it waits for the pause of the third attempt
      rw [hnext₃] at hnext₂
      have hequal := some.inj hnext₂
      simp [seconds] at hequal
      omega
    · -- it is given up though attempts are left
      rw [hstatus] at hgiven
      cases hgiven

/-- The documented schedule is kept exactly where two attempts are allowed. -/
theorem on_schedule_iff (hattempts : 1 ≤ settings.maxAttempts)
    (hbackoff : 1 ≤ settings.baseBackoffSeconds) :
    KeepsSchedule settings ↔ settings.maxAttempts = 2 := by
  constructor
  · intro hkeeps
    by_contra hne
    exact not_keepsSchedule_of_ne settings hattempts hbackoff hne hkeeps
  · intro htwo o deliveryId eventId channelId w hfails hlives
    rcases lives_tracked hfails hlives with ⟨row, t, htracked⟩
    exact htracked.onSchedule_of_two hfails htwo

/-- Two attempts and a backoff of two minutes. -/
theorem on_schedule_two : KeepsSchedule { maxAttempts := 2, baseBackoffSeconds := 120 } :=
  (on_schedule_iff _ (by decide) (by decide)).mpr rfl

/-- The defaults do not keep the schedule they document. -/
theorem defaults_off_schedule :
    ¬ ∀ settings : AlertRetrySettings, 1 ≤ settings.maxAttempts →
      1 ≤ settings.baseBackoffSeconds → KeepsSchedule settings := by
  intro h
  have hdefaults := h {} (by decide) (by decide)
  exact not_keepsSchedule_of_ne {} (by decide) (by decide) (by decide) hdefaults

end CivicCast.Alerting
