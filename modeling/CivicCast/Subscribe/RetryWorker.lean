import CivicCast.Lib.Table

/-!
# The webhook retry worker

`WebhookRetryWorker` sends queued webhook notices again until one is accepted. A row comes to
the queue after its first send failed (`enqueue_failed_webhook_delivery`, attempt 1); a scan
(`run_once`) attempts every due row once. `_attempt` keeps what the send raised as text, and
takes the empty text for "nothing was raised": an exception without a message is recorded as a
delivery.

Beside the queue the model keeps a journal of what happened to each row: a post that returned,
a send that raised, a subscription found to be no longer confirmed. `delivered_iff_returned` is
about every history of enqueues and scans in which what the sends raise has a message and the
store takes the result of a post that returned.
-/

namespace CivicCast.Subscribe

open Lib List Table Option

inductive WebhookRetryState where
  | pending | delivered | deadLetter
  deriving DecidableEq

structure WebhookRetryRecord where
  retryId : String
  subscriptionId : String
  payload : String
  state : WebhookRetryState
  attempts : ℕ
  nextAttemptAt : Option ℚ
  lastStatusCode : ℤ
  lastError : String
  createdAt : ℚ
  updatedAt : ℚ
  deriving DecidableEq

inductive SubscriptionChannel where
  | email | webhook
  deriving DecidableEq

inductive SubscriptionStatus where
  | pendingConfirmation | confirmed | unsubscribed
  deriving DecidableEq

/-- The fields of a subscription the worker reads. `_webhook_secret_matches_channel` refuses a
webhook subscription without a secret. -/
structure SubscriptionRecord where
  channel : SubscriptionChannel
  status : SubscriptionStatus
  encryptedWebhookSecret : Option String
  secret_of_webhook : channel = .webhook →
    ∃ secret, encryptedWebhookSecret = some secret ∧ secret ≠ ""

/-- `not subscription.encrypted_webhook_secret`. -/
def SubscriptionRecord.lacksSecret (s : SubscriptionRecord) : Bool :=
  s.encryptedWebhookSecret.getD "" = ""

inductive Failure where
  | secretBox | payload | overflow | store | unique
  deriving DecidableEq

/-- An exception as `_attempt` reads it: its text, and the status code of its response (0 where
it has none). -/
structure Raised where
  message : String
  statusCode : ℤ
  deriving DecidableEq

structure WebhookRetrySettings where
  backoffSeconds : ℚ
  maxAttempts : ℤ

/-- What one attempt meets: the subscription of the row (rows are queued for webhook
subscriptions only), whether the sealed handle, secret and payload open, whether the secret is
a random one, how the post ends, and whether the queue and the delivery table take the
result. -/
structure Answers where
  subscription : Option SubscriptionRecord
  webhook : ∀ s, subscription = some s → s.channel = .webhook
  opened : Except Failure Unit
  randomSecret : Bool
  post : Except Raised Unit
  saved : Except Failure Unit
  recorded : Except Failure Unit

/-- `require_random_webhook_secret` and the post, in one `try`. -/
def Answers.send (a : Answers) : Except Raised Unit :=
  if a.randomSecret then a.post
  else .error ⟨"Webhook needs re-registration and endpoint confirmation before delivery.", 0⟩

/-- What happened to a row: a post for it returned, a send for it raised, or its subscription
was found not to be confirmed. -/
inductive Event where
  | returned (retryId : String)
  | raised (retryId : String)
  | unconfirmed (retryId : String)
  deriving DecidableEq

structure Queue where
  rows : Table WebhookRetryRecord String WebhookRetryRecord.retryId
  journal : List Event

namespace Queue

def empty : Queue where
  rows := .empty
  journal := []

def log (q : Queue) (events : List Event) : Queue := { q with journal := q.journal ++ events }

/-- `save_webhook_retry`: the columns it writes into the row already there. -/
def save (q : Queue) (record : WebhookRetryRecord) : Queue :=
  { q with
    rows := q.rows.upsert record
      (fun row =>
        { row with
          state := record.state
          attempts := record.attempts
          nextAttemptAt := record.nextAttemptAt
          lastStatusCode := record.lastStatusCode
          lastError := record.lastError
          updatedAt := record.updatedAt })
      fun _ => rfl }

/-- `due_webhook_retries`, earliest first and then by id. -/
def dueWebhookRetries (q : Queue) (now : ℚ) : List WebhookRetryRecord :=
  (q.rows.rows.filter fun row =>
    row.state = .pending && row.nextAttemptAt.any (· ≤ now)).mergeSort fun a b =>
      (a.nextAttemptAt.getD 0 < b.nextAttemptAt.getD 0) ||
        (a.nextAttemptAt = b.nextAttemptAt && a.retryId ≤ b.retryId)

end Queue

/-- `enqueue_failed_webhook_delivery`: attempt 1 is the send that failed. The queue's primary
key refuses an id that is there. -/
def enqueueFailedWebhookDelivery (retryId subscriptionId payload : String) (raised : Raised)
    (backoff now : ℚ) (q : Queue) : Except Failure WebhookRetryRecord × Queue :=
  let record : WebhookRetryRecord :=
    { retryId := retryId
      subscriptionId := subscriptionId
      payload := payload
      state := .pending
      attempts := 1
      nextAttemptAt := some (now + backoff)
      lastStatusCode := raised.statusCode
      lastError := raised.message
      createdAt := now
      updatedAt := now }
  if h : q.rows.get retryId = none then
    (.ok record, { q with rows := q.rows.insert record h }.log [.raised retryId])
  else (.error .unique, q)

/-- `save_webhook_retry`, then `_record_result` into the delivery table. -/
def saveResult (a : Answers) (record : WebhookRetryRecord) (q : Queue) :
    Except Failure WebhookRetryRecord × Queue :=
  match a.saved with
  | .error failure => (.error failure, q)
  | .ok () =>
    match a.recorded with
    | .error failure => (.error failure, q.save record)
    | .ok () => (.ok record, q.save record)

/-- The last second a `datetime` can hold. -/
def datetimeMax : ℚ := 253402300799

def attempt (settings : WebhookRetrySettings) (now : ℚ) (a : Answers) (row : WebhookRetryRecord)
    (q : Queue) : Except Failure WebhookRetryRecord × Queue :=
  let unconfirmed := a.subscription.all fun s => s.status ≠ .confirmed
  if unconfirmed || a.subscription.any SubscriptionRecord.lacksSecret then
    saveResult a
      { row with
        state := .deadLetter
        nextAttemptAt := none
        lastError := "subscription is no longer confirmed"
        updatedAt := now }
      (q.log (if unconfirmed then [.unconfirmed row.retryId] else []))
  else
    match a.opened with
    | .error failure => (.error failure, q)
    | .ok () =>
      let (statusCode, error, q) :=
        match a.send with
        | .ok () => (200, "", q.log [.returned row.retryId])
        | .error raised => (raised.statusCode, raised.message, q.log [.raised row.retryId])
      let attempts := row.attempts + 1
      if error = "" then
        saveResult a
          { row with
            state := .delivered
            attempts := attempts
            nextAttemptAt := none
            lastStatusCode := statusCode
            lastError := ""
            updatedAt := now }
          q
      else if settings.maxAttempts ≤ attempts then
        saveResult a
          { row with
            state := .deadLetter
            attempts := attempts
            nextAttemptAt := none
            lastStatusCode := statusCode
            lastError := error
            updatedAt := now }
          q
      else
        let delay := settings.backoffSeconds * 2 ^ (attempts - 1)
        if datetimeMax < now + delay then (.error .overflow, q)
        else
          saveResult a
            { row with
              attempts := attempts
              nextAttemptAt := some (now + delay)
              lastStatusCode := statusCode
              lastError := error
              updatedAt := now }
            q

/-- The loop of `run_once`: an exception out of an attempt ends the scan. -/
def attemptEach (settings : WebhookRetrySettings) (now : ℚ) (answers : String → Answers) :
    List WebhookRetryRecord → Queue → Except Failure (List WebhookRetryRecord) × Queue
  | [], q => (.ok [], q)
  | row :: rest, q =>
    match attempt settings now (answers row.retryId) row q with
    | (.error failure, q) => (.error failure, q)
    | (.ok record, q) =>
      match attemptEach settings now answers rest q with
      | (.error failure, q) => (.error failure, q)
      | (.ok processed, q) => (.ok (record :: processed), q)

def runOnce (settings : WebhookRetrySettings) (now : ℚ) (answers : String → Answers) (q : Queue) :
    Except Failure (List WebhookRetryRecord) × Queue :=
  attemptEach settings now answers (q.dueWebhookRetries now) q

/-! ## Histories of the queue -/

/-- A history of enqueues and scans. `ok` is what every attempt of it may meet. -/
inductive Reached (settings : WebhookRetrySettings) (ok : Answers → Prop) : Queue → Prop where
  | empty : Reached settings ok .empty
  | enqueue {q : Queue} (retryId subscriptionId payload : String) (raised : Raised)
      (backoff now : ℚ) (h : Reached settings ok q) :
      Reached settings ok
        (enqueueFailedWebhookDelivery retryId subscriptionId payload raised backoff now q).2
  | scan {q : Queue} (now : ℚ) (answers : String → Answers) (h : Reached settings ok q)
      (hok : ∀ row ∈ q.dueWebhookRetries now, ok (answers row.retryId)) :
      Reached settings ok (runOnce settings now answers q).2

/-- The post does not raise an exception without a message, and the queue takes the result of
a post that returned. -/
structure Answers.Told (a : Answers) : Prop where
  message : ∀ raised, a.post = .error raised → raised.message ≠ ""
  kept : a.post = .ok () → a.saved = .ok ()

def Event.retryId : Event → String
  | returned retryId | raised retryId | unconfirmed retryId => retryId

/-- The sends for a row that failed, the first one included. -/
def failedSends (journal : List Event) (retryId : String) : ℕ := journal.count (.raised retryId)

/-- What the state of a row says about it is true. -/
structure WebhookRetryRecord.Sound (maxAttempts : ℤ) (journal : List Event)
    (row : WebhookRetryRecord) : Prop where
  delivered : row.state = .delivered ↔ .returned row.retryId ∈ journal
  deadLetter : row.state = .deadLetter →
    maxAttempts ≤ failedSends journal row.retryId ∨ .unconfirmed row.retryId ∈ journal
  counted : row.state = .pending → row.attempts ≤ failedSends journal row.retryId

section Sound

variable {maxAttempts : ℤ} {journal events : List Event} {row : WebhookRetryRecord}

lemma failedSends_append (retryId : String) :
    failedSends (journal ++ events) retryId =
      failedSends journal retryId + failedSends events retryId :=
  count_append

lemma WebhookRetryRecord.Sound.append (h : row.Sound maxAttempts journal)
    (hother : ∀ e ∈ events, e.retryId ≠ row.retryId) :
    row.Sound maxAttempts (journal ++ events) := by
  have hfailed : failedSends (journal ++ events) row.retryId = failedSends journal row.retryId := by
    have hnone : failedSends events row.retryId = 0 :=
      count_eq_zero.mpr fun hmem => hother _ hmem rfl
    rw [failedSends_append, hnone, Nat.add_zero]
  constructor
  · rw [h.delivered, mem_append, or_iff_left]
    exact fun hmem => hother _ hmem rfl
  · intro hdead
    rw [hfailed]
    exact (h.deadLetter hdead).imp id (mem_append_left _)
  · rw [hfailed]
    exact h.counted

/-- A pending row no post returned for stays sound when more is known of it. -/
lemma WebhookRetryRecord.Sound.stays (h : row.Sound maxAttempts journal)
    (hpending : row.state = .pending) (hreturned : .returned row.retryId ∉ events) :
    row.Sound maxAttempts (journal ++ events) := by
  have hnot : Event.returned row.retryId ∉ journal := by
    rw [← h.delivered, hpending]
    decide
  constructor
  · rw [hpending, mem_append]
    simp [hnot, hreturned]
  · intro hdead
    rw [hpending] at hdead
    cases hdead
  · intro _
    have := h.counted hpending
    rw [failedSends_append]
    omega

end Sound

/-- Every row of the queue is sound, and no post is known to have returned for a row that is
not there. -/
structure Queue.Sound (maxAttempts : ℤ) (q : Queue) : Prop where
  rows : ∀ row, q.rows.get row.retryId = some row → row.Sound maxAttempts q.journal
  fresh : ∀ retryId, q.rows.get retryId = none → .returned retryId ∉ q.journal

lemma Queue.sound_empty {maxAttempts : ℤ} : Queue.empty.Sound maxAttempts := by
  constructor
  · intro row hrow
    cases hrow
  · intro retryId _ hmem
    cases hmem

lemma Queue.Sound.enqueue {maxAttempts : ℤ} {q : Queue} (h : q.Sound maxAttempts)
    (retryId subscriptionId payload : String) (raised : Raised) (backoff now : ℚ) :
    (enqueueFailedWebhookDelivery retryId subscriptionId payload raised backoff now q).2.Sound
      maxAttempts := by
  unfold enqueueFailedWebhookDelivery
  by_cases hget : q.rows.get retryId = none
  · rw [dif_pos hget]
    set record : WebhookRetryRecord :=
      ⟨retryId, subscriptionId, payload, .pending, 1, some (now + backoff), raised.statusCode,
        raised.message, now, now⟩ with hrecord
    have hnew : q.rows.get record.retryId = none := hget
    constructor
    · intro row hrow
      by_cases hid : row.retryId = record.retryId
      · -- the new row: its first send is the one failure the journal has of it
        have hrow : (q.rows.insert record hnew).get row.retryId = some row := hrow
        rw [hid, get_insert_self] at hrow
        obtain rfl := some.inj hrow
        have hnot := h.fresh _ hget
        constructor
        · simp [Queue.log, hrecord, hnot]
        · simp [hrecord]
        · intro _
          show 1 ≤ failedSends (q.journal ++ [.raised retryId]) retryId
          rw [failedSends_append]
          simp [failedSends]
      · have hold : (q.rows.insert record hnew).get row.retryId = some row := hrow
        rw [get_insert_of_ne _ hid] at hold
        refine (h.rows row hold).append ?_
        simpa [Event.retryId] using Ne.symm hid
    · intro other hother
      have hnone : (q.rows.insert record hnew).get other = none := hother
      by_cases hid : other = record.retryId
      · rw [hid, get_insert_self] at hnone
        cases hnone
      · rw [get_insert_of_ne _ hid] at hnone
        simpa [Queue.log] using h.fresh other hnone
  · rw [dif_neg hget]
    exact h

/-! ## One attempt -/

/-- The queue after an attempt of `row`: only events of that row are added, the row is sound,
and the other rows are as they were. -/
def Queue.Attempted (maxAttempts : ℤ) (row : WebhookRetryRecord) (q q' : Queue) : Prop :=
  ∃ events record,
    q'.journal = q.journal ++ events ∧ (∀ e ∈ events, e.retryId = row.retryId) ∧
    record.retryId = row.retryId ∧ q'.rows.get row.retryId = some record ∧
    record.Sound maxAttempts q'.journal ∧
    ∀ retryId, retryId ≠ row.retryId → q'.rows.get retryId = q.rows.get retryId

section Attempt

variable {settings : WebhookRetrySettings} {now : ℚ} {a : Answers} {q : Queue}
  {row record : WebhookRetryRecord} {events : List Event}

/-- Of the columns of a row, these are not written by `save_webhook_retry`. -/
structure WebhookRetryRecord.SameNotice (row record : WebhookRetryRecord) : Prop where
  retryId : record.retryId = row.retryId
  subscriptionId : record.subscriptionId = row.subscriptionId
  payload : record.payload = row.payload
  createdAt : record.createdAt = row.createdAt

lemma Queue.get_save (hrow : q.rows.get row.retryId = some row) (hsame : row.SameNotice record) :
    (q.save record).rows.get row.retryId = some record := by
  obtain ⟨hid, hsubscription, hpayload, hcreated⟩ := hsame
  have hget : (q.save record).rows.get record.retryId = _ := get_upsert_self
  rw [hid, hrow] at hget
  rw [hget]
  cases record
  cases row
  simp_all

lemma Queue.get_save_of_ne (hsame : row.SameNotice record) {retryId : String}
    (hne : retryId ≠ row.retryId) : (q.save record).rows.get retryId = q.rows.get retryId :=
  get_upsert_of_ne (hsame.retryId ▸ hne)

lemma Queue.attempted_log (hrow : q.rows.get row.retryId = some row)
    (hevents : ∀ e ∈ events, e.retryId = row.retryId)
    (hsound : row.Sound settings.maxAttempts (q.journal ++ events)) :
    q.Attempted settings.maxAttempts row (q.log events) :=
  ⟨events, row, rfl, hevents, rfl, hrow, hsound, fun _ _ => rfl⟩

lemma attempted_saveResult (hrow : q.rows.get row.retryId = some row)
    (hevents : ∀ e ∈ events, e.retryId = row.retryId) (hsame : row.SameNotice record)
    (hsaved : record.Sound settings.maxAttempts (q.journal ++ events))
    (hlost : a.saved ≠ .ok () → row.Sound settings.maxAttempts (q.journal ++ events)) :
    q.Attempted settings.maxAttempts row (saveResult a record (q.log events)).2 := by
  have hdone : q.Attempted settings.maxAttempts row ((q.log events).save record) :=
    ⟨events, record, rfl, hevents, hsame.retryId, Queue.get_save hrow hsame, hsaved,
      fun _ hne => Queue.get_save_of_ne hsame hne⟩
  unfold saveResult
  cases h : a.saved with
  | error failure => exact Queue.attempted_log hrow hevents (hlost (by simp [h]))
  | ok =>
    cases a.recorded with
    | error failure | ok => exact hdone

/-- Where the subscription of a webhook is not refused for want of a secret, it is refused for
not being confirmed. -/
lemma Answers.unconfirmed_of_refused
    (h : (a.subscription.all (fun s => s.status ≠ .confirmed) ||
      a.subscription.any SubscriptionRecord.lacksSecret) = true) :
    a.subscription.all (fun s => s.status ≠ .confirmed) = true := by
  rcases Bool.or_eq_true_iff.mp h with hall | hlacks
  · exact hall
  · cases hsubscription : a.subscription with
    | none => rfl
    | some s =>
      obtain ⟨secret, hsecret, hne⟩ := s.secret_of_webhook (a.webhook s hsubscription)
      rw [hsubscription] at hlacks
      simp [SubscriptionRecord.lacksSecret, hsecret, hne] at hlacks

lemma Answers.Told.send_message (h : a.Told) {raised : Raised} (hsend : a.send = .error raised) :
    raised.message ≠ "" := by
  unfold Answers.send at hsend
  split at hsend
  · exact h.message raised hsend
  · cases hsend
    decide

lemma Answers.Told.saved (h : a.Told) (hsend : a.send = .ok ()) : a.saved = .ok () := by
  unfold Answers.send at hsend
  split at hsend
  · exact h.kept hsend
  · cases hsend

lemma attempted_attempt (hrow : q.rows.get row.retryId = some row) (hpending : row.state = .pending)
    (hsound : row.Sound settings.maxAttempts q.journal) (ha : a.Told) :
    q.Attempted settings.maxAttempts row (attempt settings now a row q).2 := by
  have hcounted := hsound.counted hpending
  have hnot : Event.returned row.retryId ∉ q.journal := by
    rw [← hsound.delivered, hpending]
    decide
  by_cases hrefused : (a.subscription.all (fun s => s.status ≠ .confirmed) ||
      a.subscription.any SubscriptionRecord.lacksSecret) = true
  · -- the subscription is gone or not confirmed
    simp only [attempt]
    rw [if_pos hrefused, if_pos (Answers.unconfirmed_of_refused hrefused)]
    refine attempted_saveResult hrow (by simp [Event.retryId]) ⟨rfl, rfl, rfl, rfl⟩ ?_
      fun _ => hsound.stays hpending (by simp)
    constructor
    · simp [hnot]
    · simp
    · simp
  simp only [attempt]
  rw [if_neg hrefused]
  cases a.opened with
  | error failure =>
    -- a sealed value or the payload does not open: the attempt raises
    have hlog : q.log [] = q := by simp [Queue.log]
    have hkept : q.Attempted settings.maxAttempts row (q.log []) :=
      Queue.attempted_log hrow (by simp) (by simpa using hsound)
    rwa [hlog] at hkept
  | ok =>
    cases hsend : a.send with
    | ok =>
      rw [if_pos rfl]
      refine attempted_saveResult hrow (by simp [Event.retryId]) ⟨rfl, rfl, rfl, rfl⟩ ?_
        fun hlost => absurd (ha.saved hsend) hlost
      constructor
      · simp
      · simp
      · simp
    | error raised =>
      have hfailed : failedSends (q.journal ++ [.raised row.retryId]) row.retryId =
          failedSends q.journal row.retryId + 1 := by
        rw [failedSends_append]
        simp [failedSends]
      have hstays : row.Sound settings.maxAttempts (q.journal ++ [.raised row.retryId]) :=
        hsound.stays hpending (by simp)
      dsimp only
      rw [if_neg (ha.send_message hsend)]
      split
      · rename_i hmax
        refine attempted_saveResult hrow (by simp [Event.retryId]) ⟨rfl, rfl, rfl, rfl⟩ ?_
          fun _ => hstays
        constructor
        · simp [hnot]
        · intro _
          rw [hfailed]
          left
          omega
        · simp
      · split
        · exact Queue.attempted_log hrow (by simp [Event.retryId]) hstays
        · refine attempted_saveResult hrow (by simp [Event.retryId]) ⟨rfl, rfl, rfl, rfl⟩ ?_
            fun _ => hstays
          constructor
          · simp [hnot, hpending]
          · simp [hpending]
          · intro _
            rw [hfailed]
            simpa using hcounted

lemma Queue.Sound.attempted {maxAttempts : ℤ} {q' : Queue} (h : q.Sound maxAttempts)
    (hattempt : q.Attempted maxAttempts row q') : q'.Sound maxAttempts := by
  obtain ⟨events, record, hjournal, hevents, hid, hget, hsound, hframe⟩ := hattempt
  constructor
  · intro other hother
    by_cases hsame : other.retryId = row.retryId
    · rw [hsame, hget] at hother
      obtain rfl := some.inj hother
      exact hsound
    · rw [hframe _ hsame] at hother
      rw [hjournal]
      exact (h.rows other hother).append fun e he heq => hsame (heq ▸ hevents e he)
  · intro retryId hnone
    have hne : retryId ≠ row.retryId := by
      rintro rfl
      rw [hget] at hnone
      cases hnone
    rw [hframe _ hne] at hnone
    rw [hjournal, mem_append]
    rintro (hmem | hmem)
    · exact h.fresh retryId hnone hmem
    · exact hne (hevents _ hmem)

/-- The rows still to be attempted in a scan are as the scan read them. -/
lemma Queue.Sound.attemptEach {answers : String → Answers} {rows : List WebhookRetryRecord}
    (hnodup : (rows.map WebhookRetryRecord.retryId).Nodup)
    (hrows : ∀ row ∈ rows, q.rows.get row.retryId = some row ∧ row.state = .pending)
    (hok : ∀ row ∈ rows, (answers row.retryId).Told) (h : q.Sound settings.maxAttempts) :
    (attemptEach settings now answers rows q).2.Sound settings.maxAttempts := by
  induction rows generalizing q with
  | nil => exact h
  | cons row rest ih =>
    obtain ⟨hfirst, hnodup⟩ := nodup_cons.mp hnodup
    obtain ⟨hrow, hpending⟩ := hrows row mem_cons_self
    have hattempt : q.Attempted settings.maxAttempts row
        (attempt settings now (answers row.retryId) row q).2 :=
      attempted_attempt hrow hpending (h.rows row hrow) (hok row mem_cons_self)
    have hsound := h.attempted hattempt
    have hrest : ∀ other ∈ rest,
        (attempt settings now (answers row.retryId) row q).2.rows.get other.retryId = some other ∧
          other.state = .pending := by
      intro other hother
      obtain ⟨-, -, -, -, -, -, -, hframe⟩ := hattempt
      -- an attempt changes no other row
      have hne : other.retryId ≠ row.retryId := fun heq =>
        hfirst (heq ▸ mem_map_of_mem hother)
      rw [hframe _ hne]
      exact hrows other (mem_cons_of_mem _ hother)
    have hdone := ih hnodup hrest (fun other hother => hok other (mem_cons_of_mem _ hother)) hsound
    unfold CivicCast.Subscribe.attemptEach
    rcases hresult : attempt settings now (answers row.retryId) row q with ⟨_ | record, q'⟩
    · rw [hresult] at hsound
      exact hsound
    · rw [hresult] at hdone
      dsimp only
      rcases hloop : CivicCast.Subscribe.attemptEach settings now answers rest q' with ⟨_ | _, q''⟩
      all_goals
        rw [hloop] at hdone
        exact hdone

lemma Queue.mem_dueWebhookRetries (hrow : row ∈ q.dueWebhookRetries now) :
    q.rows.get row.retryId = some row ∧ row.state = .pending := by
  unfold Queue.dueWebhookRetries at hrow
  rw [mem_mergeSort, mem_filter, Bool.and_eq_true, decide_eq_true_eq] at hrow
  exact ⟨get_eq_some_iff.mpr ⟨hrow.1, rfl⟩, hrow.2.1⟩

lemma Queue.dueWebhookRetries_nodup (q : Queue) (now : ℚ) :
    ((q.dueWebhookRetries now).map WebhookRetryRecord.retryId).Nodup := by
  unfold Queue.dueWebhookRetries
  rw [((mergeSort_perm _ _).map _).nodup_iff]
  exact q.rows.nodup.sublist (filter_sublist.map _)

lemma Queue.Sound.runOnce {answers : String → Answers}
    (hok : ∀ row ∈ q.dueWebhookRetries now, (answers row.retryId).Told)
    (h : q.Sound settings.maxAttempts) :
    (runOnce settings now answers q).2.Sound settings.maxAttempts :=
  h.attemptEach (q.dueWebhookRetries_nodup now) (fun _ => Queue.mem_dueWebhookRetries) hok

lemma Reached.sound (h : Reached settings Answers.Told q) : q.Sound settings.maxAttempts := by
  induction h with
  | empty => exact Queue.sound_empty
  | enqueue retryId subscriptionId payload raised backoff now _ ih =>
    exact ih.enqueue retryId subscriptionId payload raised backoff now
  | scan now answers _ hok ih => exact ih.runOnce hok

/-- In every history in which no post raises an exception without a message and the queue takes
the result of every post that returned, a row is delivered exactly if a post for it returned,
and dead-lettered only after `max_attempts` failed sends or a look at a subscription that was
not confirmed. -/
theorem delivered_iff_returned (h : Reached settings Answers.Told q)
    (hrow : q.rows.get row.retryId = some row) :
    (row.state = .delivered ↔ .returned row.retryId ∈ q.journal) ∧
      (row.state = .deadLetter → settings.maxAttempts ≤ failedSends q.journal row.retryId ∨
        .unconfirmed row.retryId ∈ q.journal) :=
  ⟨(h.sound.rows row hrow).delivered, (h.sound.rows row hrow).deadLetter⟩

end Attempt

def endpoint : SubscriptionRecord where
  channel := .webhook
  status := .confirmed
  encryptedWebhookSecret := some "k"
  secret_of_webhook := fun _ => ⟨"k", rfl, by decide⟩

/-- An attempt in which everything works but, perhaps, the post. -/
def posting (post : Except Raised Unit) : Answers where
  subscription := some endpoint
  webhook := by
    rintro s ⟨⟩
    rfl
  opened := .ok ()
  randomSecret := true
  post := post
  saved := .ok ()
  recorded := .ok ()

def shipped : WebhookRetrySettings where
  backoffSeconds := 120
  maxAttempts := 8

/-- One notice queued after an HTTP 503, and the scan two minutes later. -/
def afterScan (post : Except Raised Unit) : Queue :=
  (runOnce shipped 120 (fun _ => posting post)
    (enqueueFailedWebhookDelivery "r" "s" "x" ⟨"HTTP 503", 503⟩ 120 0 .empty).2).2

lemma reached_afterScan {ok : Answers → Prop} {post : Except Raised Unit} (h : ok (posting post)) :
    Reached shipped ok (afterScan post) :=
  .scan 120 _ (.enqueue "r" "s" "x" ⟨"HTTP 503", 503⟩ 120 0 .empty) fun _ _ => h

/-- A timeout that carries no text is recorded as a delivery. -/
theorem silent_timeout_delivered :
    Reached shipped (fun _ => True) (afterScan (.error ⟨"", 0⟩)) ∧
      ((afterScan (.error ⟨"", 0⟩)).rows.get "r").map WebhookRetryRecord.state =
        some .delivered ∧
      .returned "r" ∉ (afterScan (.error ⟨"", 0⟩)).journal := by
  refine ⟨reached_afterScan trivial, ?_, ?_⟩
  · decide +kernel
  · decide +kernel

/-- A post that returns is. -/
theorem accepted_notice_delivered :
    ∃ row, (afterScan (.ok ())).rows.get "r" = some row ∧ row.state = .delivered := by
  have htold : (posting (.ok ())).Told := ⟨nofun, fun _ => rfl⟩
  have hreturned : .returned "r" ∈ (afterScan (.ok ())).journal := by decide +kernel
  cases hget : (afterScan (.ok ())).rows.get "r" with
  | none => exact absurd hget (by decide +kernel)
  | some row =>
    have hid : row.retryId = "r" := key_of_get hget
    have hrow : (afterScan (.ok ())).rows.get row.retryId = some row := by rw [hid, hget]
    refine ⟨row, rfl, ?_⟩
    exact (delivered_iff_returned (reached_afterScan htold) hrow).1.mpr (hid.symm ▸ hreturned)

end CivicCast.Subscribe
