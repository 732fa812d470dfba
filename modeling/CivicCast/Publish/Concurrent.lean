import CivicCast.Lib.Runs
import CivicCast.Publish.Evidence

/-!
# Concurrent work on one publish run

A retry and a refresh of the notices read the run, work on one surface, and write the whole run
back with `upsert_run`. The polls of the YouTube output read the run and write its surfaces with
`replace_surfaces`, which gives up where the stored surfaces are not those that were read.

The whole-run writes have no such guard: what was written between the read and the write of a
retry or a refresh is lost with it (`refresh_loses_poll`). In every run of the calls in which a
whole-run write still finds the run that its call read, every surface has the status that its own
call computed for it, and no event is missing (`results_kept`).
-/

namespace CivicCast.Publish.Concurrent

open Lib Option

/-! ## Refreshing the notices -/

inductive DeliveryOutcome where
  | sent | failed | queued | pending
  deriving DecidableEq

/-- The counts of `summarize_outcomes`. -/
def summarizeOutcomes (records : List DeliveryOutcome) (publicationId : Text) :
    NotificationSummary where
  publicationId := publicationId
  intended := records.length
  sent := records.count .sent
  failed := records.count .failed
  queued := records.count .queued
  pending := records.count .pending

/-- The states of `_STATE_COPY`. -/
inductive NoticeState where
  | succeeded | partly | pending | failed | notConfigured
  deriving DecidableEq

def NoticeState.surfaceState : NoticeState → SurfaceState
  | succeeded => .succeeded
  | partly => .partly
  | pending => .pending
  | failed => .failed
  | notConfigured => .notConfigured

def stateFor (summary : NotificationSummary) : NoticeState :=
  if summary.intended = 0 then .notConfigured
  else if summary.sent = summary.intended then .succeeded
  else if 0 < summary.sent then .partly
  else if 0 < summary.queued ∨ 0 < summary.pending then .pending
  else .failed

def number (n : ℕ) : Text := (toString n).toList

/-- `_STATE_COPY`, with the counts filled in: health, message and next step. -/
def stateCopy (summary : NotificationSummary) : NoticeState → Health × Text × Text
  | .succeeded =>
    (.ok,
      "Every confirmed subscriber notice was delivered (".toList ++ number summary.sent ++
        " of ".toList ++ number summary.intended ++ ").".toList,
      "No action needed. Delivery receipts are kept with this publish run.".toList)
  | .partly =>
    (.warning,
      "Some subscriber notices were not delivered: ".toList ++ number summary.sent ++
        " of ".toList ++ number summary.intended ++ " delivered, ".toList ++
        number summary.queued ++ " still retrying, ".toList ++ number summary.failed ++
        " failed.".toList,
      ("Open the delivery list. The worker will retry queued webhooks; retry the " ++
        "surface after fixing a terminal failure.").toList)
  | .pending =>
    (.warning,
      "No subscriber notice has been delivered yet: ".toList ++ number summary.queued ++
        " are queued for retry and ".toList ++ number summary.pending ++
        " have not been attempted.".toList,
      "The retry worker is still trying. Check again shortly.".toList)
  | .failed =>
    (.warning,
      "No subscriber notice could be delivered (".toList ++ number summary.failed ++
        " of ".toList ++ number summary.intended ++ " failed).".toList,
      ("Fix the mail or webhook problem shown in the delivery list, then retry this " ++
        "surface.").toList)
  | .notConfigured =>
    (.unknown, "No confirmed subscribers are targeted, so nothing was sent.".toList,
      ("No action needed. Notices start once residents confirm a subscription " ++
        "for this channel or meeting body.").toList)

def refreshed (previous : SurfaceStatus) (summary : NotificationSummary) : SurfaceStatus :=
  let state := stateFor summary
  let (health, message, nextStep) := stateCopy summary state
  { previous with
    state := state.surfaceState
    health := if previous.simulated then .warning else health
    message :=
      if previous.simulated then
        "SIMULATED - no subscriber notice actually left this station. ".toList ++ message
      else message
    nextStep := nextStep
    notificationSummary := some summary }

/-- `refresh_notification_surface` up to the record it stores; `none` where it stores nothing. -/
def refreshNotificationSurface (deliveries : Text → List DeliveryOutcome) (run : RunRecord) :
    Option RunRecord := do
  let previous ← run.surfaces.find? fun surface => surface.id = .subscriberNotifications
  let earlier ← previous.notificationSummary
  let summary := summarizeOutcomes (deliveries earlier.publicationId) earlier.publicationId
  let updated := refreshed previous summary
  return { run with
    surfaces := run.surfaces.map fun surface =>
      if surface.id = updated.id then updated else surface }

/-! ## Polling the YouTube output -/

/-- `_mark_interrupted_youtube` on one surface. -/
def markInterrupted (surface : SurfaceStatus) : SurfaceStatus :=
  if surface.id = .youtubeLive ∧
      surface.deliveryState ∈
        ["scheduled", "configured", "starting", "live"].map fun state => some state.toList then
    { surface with
      state := .failed
      health := .error
      deliveryState := some "failed".toList
      message := "YouTube output was interrupted. Check YouTube Studio before retrying.".toList
      nextStep := "Confirm the old event has ended, then retry YouTube Live.".toList }
  else surface

/-- `record` of the YouTube output on one surface. -/
def recordOutput (proof : LiveProof) (confirmedLive : Bool) (now : Time) (surface : SurfaceStatus) :
    SurfaceStatus :=
  let live : Bool := proof.deliveryState = "live".toList
  let stopped : Bool := proof.deliveryState = "stopped".toList
  let failed : Bool := proof.deliveryState = "failed".toList
  if surface.id ≠ .youtubeLive then surface
  else
    { surface with
      deliveryState := some proof.deliveryState
      channelId := proof.channelId
      broadcastId := proof.broadcastId
      streamId := proof.streamId
      scheduledStart := proof.scheduledStart
      scheduledEnd := proof.scheduledEnd
      url := proof.url
      state :=
        if live || (stopped && confirmedLive) then .succeeded
        else if failed then .failed
        else if stopped then .unverified
        else .running
      health :=
        if live || (stopped && confirmedLive) then .ok else if failed then .error else .warning
      completedAt :=
        if live then some (surface.completedAt.getD now) else surface.completedAt
      message := "YouTube Live: ".toList ++ proof.deliveryState ++ ".".toList ++
        (if failed then
          " Check YouTube Studio and retry; local portal publication is unaffected.".toList
        else [])
      nextStep :=
        if live then "Stop the YouTube output when finished.".toList
        else "Inspect YouTube Studio for destination status.".toList }

/-! ## The calls -/

inductive Call where
  | retry (call : RetryCall)
  | refresh (deliveries : Text → List DeliveryOutcome)
  | interrupted (known : Bool)
  | record (proof : LiveProof) (confirmedLive : Bool) (now : Time)

def Call.target : Call → Text
  | retry call => call.surfaceId
  | refresh _ => SurfaceId.subscriberNotifications.name
  | interrupted _ | record _ _ _ => SurfaceId.youtubeLive.name

inductive Failure where
  | publish (e : PublishError)
  | changedConcurrently
  deriving DecidableEq

/-- Where a call is: with the run that it read, and the run or the surfaces that it is about to
write; ended with a write, with the surfaces it computed and the events it added; ended
without one. -/
inductive Phase where
  | ready
  | writing (read result : RunRecord)
  | polling (read : RunRecord) (updated : List SurfaceStatus)
  | ended (computed : List SurfaceStatus) (events : List AuditEvent)
  | idle
  | raised (e : Failure)
  deriving DecidableEq

/-- A poll that has found nothing to change writes nothing. -/
def pollWith (run : RunRecord) (updated : List SurfaceStatus) : Phase :=
  if updated = run.surfaces then .idle else .polling run updated

def Call.afterRead (run : RunRecord) : Call → Phase
  | retry call =>
    match call.retryPublishSurface (some run) with
    | .ok result => .writing run result
    | .error e => .raised (.publish e)
  | refresh deliveries =>
    match refreshNotificationSurface deliveries run with
    | some result => .writing run result
    | none => .idle
  | interrupted known => if known then .idle else pollWith run (run.surfaces.map markInterrupted)
  | record proof confirmedLive now =>
    pollWith run (run.surfaces.map (recordOutput proof confirmedLive now))

/-- The end of a poll whose surfaces were changed by others. -/
def Call.lost : Call → Phase
  | record _ _ _ => .raised .changedConcurrently
  | _ => .idle

structure State (K : Type) where
  run : RunRecord
  phase : K → Phase

inductive Statement (K : Type) where
  | read (k : K)
  | write (k : K)

/-- Calls on one run, no two of them on the same surface. -/
structure Work (K : Type) where
  run : RunRecord
  calls : K → Call
  sameAsset : ∀ k call, calls k = .retry call → call.asset.assetId = run.assetId
  apart : ∀ k k', (calls k).target = (calls k').target → k = k'

section Interleave

variable {K : Type} [DecidableEq K] (calls : K → Call)

def State.withPhase (s : State K) (k : K) (phase : Phase) : State K :=
  { s with phase := Function.update s.phase k phase }

def added (read result : RunRecord) : List AuditEvent :=
  result.auditEvents.drop read.auditEvents.length

/-- Statements that are not next do nothing. -/
def act (s : State K) : Statement K → State K
  | .read k =>
    match s.phase k with
    | .ready =>
      match getRun (some s.run) with
      | .ok (some run) => s.withPhase k ((calls k).afterRead run)
      | .ok none => s.withPhase k .idle
      | .error e => s.withPhase k (.raised (.publish e))
    | _ => s
  | .write k =>
    match s.phase k with
    | .writing read result =>
      -- `upsert_run`
      { s.withPhase k (.ended result.surfaces (added read result)) with run := result }
    | .polling read updated =>
      -- `replace_surfaces`
      if s.run.surfaces = read.surfaces then
        { s.withPhase k (.ended updated []) with run := { s.run with surfaces := updated } }
      else s.withPhase k (calls k).lost
    | _ => s

/-- The condition of a run: a whole-run write finds the run that its call read. -/
def Undisturbed (s : State K) : Statement K → Prop
  | .read _ => True
  | .write k =>
    match s.phase k with
    | .writing read _ => s.run = read
    | _ => True

instance (s : State K) (a : Statement K) : Decidable (Undisturbed s a) := by
  unfold Undisturbed
  split
  · infer_instance
  · split <;> infer_instance

end Interleave

def start {K : Type} (work : Work K) : State K := ⟨work.run, fun _ => .ready⟩

/-! ## What a call writes -/

/-- The list is the other one with the surface of that name changed in place. -/
def Rewrites (target : Text) (read written : List SurfaceStatus) : Prop :=
  ∃ f : SurfaceStatus → SurfaceStatus, (∀ s, (f s).id.name = s.id.name) ∧
    (∀ s, s.id.name ≠ target → f s = s) ∧ written = read.map f

section Writes

variable {read result : RunRecord} {run : RunRecord} {updated computed : List SurfaceStatus}
  {call : Call}

lemma rewrites_retry {call : RetryCall} (h : call.retryPublishSurface (some read) = .ok result) :
    Rewrites call.surfaceId read.surfaces result.surfaces ∧
      result.auditEvents = read.auditEvents ++ added read result := by
  obtain ⟨updated, events, hsurfaces, hupdated, hevents⟩ := call.retryPublishSurface_spec h
  constructor
  · refine ⟨_, ?_, ?_, hsurfaces⟩
    · intro s
      split
      · rename_i hs
        rw [hupdated, hs]
      · rfl
    · intro s hs
      rw [if_neg hs]
  · rw [added, hevents, List.drop_left]

lemma rewrites_refresh {deliveries : Text → List DeliveryOutcome}
    (h : refreshNotificationSurface deliveries read = some result) :
    Rewrites SurfaceId.subscriberNotifications.name read.surfaces result.surfaces ∧
      result.auditEvents = read.auditEvents ++ added read result := by
  obtain ⟨previous, hprevious, h⟩ := bind_eq_some_iff.mp h
  obtain ⟨earlier, -, h⟩ := bind_eq_some_iff.mp h
  cases h
  have hid : previous.id = .subscriberNotifications := by simpa using List.find?_some hprevious
  constructor
  · refine ⟨_, ?_, ?_, rfl⟩
    · intro s
      split
      · rename_i hs
        rw [hs]
      · rfl
    · intro s hs
      rw [if_neg]
      intro heq
      rw [heq] at hs
      exact hs (congrArg SurfaceId.name hid)
  · simp [added]

lemma rewrites_interrupted {surfaces : List SurfaceStatus} :
    Rewrites SurfaceId.youtubeLive.name surfaces (surfaces.map markInterrupted) := by
  refine ⟨markInterrupted, ?_, ?_, rfl⟩
  · intro s
    unfold markInterrupted
    split <;> rfl
  · intro s hs
    rw [markInterrupted, if_neg]
    rintro ⟨hid, -⟩
    exact hs (congrArg SurfaceId.name hid)

lemma rewrites_record {proof : LiveProof} {confirmedLive : Bool} {now : Time}
    {surfaces : List SurfaceStatus} :
    Rewrites SurfaceId.youtubeLive.name surfaces
      (surfaces.map (recordOutput proof confirmedLive now)) := by
  refine ⟨recordOutput proof confirmedLive now, ?_, ?_, rfl⟩
  · intro s
    unfold recordOutput
    split <;> rfl
  · intro s hs
    unfold recordOutput
    rw [if_pos]
    intro hid
    exact hs (congrArg SurfaceId.name hid)

lemma rewrites_poll {target : Text} (hrewrites : Rewrites target run.surfaces computed)
    (h : pollWith run computed = .polling read updated) :
    Rewrites target read.surfaces updated := by
  unfold pollWith at h
  split at h
  · cases h
  · cases h
    exact hrewrites

lemma pollWith_ne_writing : pollWith run computed ≠ .writing read result := by
  unfold pollWith
  split <;> simp

lemma Call.writing_spec (h : call.afterRead run = .writing read result) :
    Rewrites call.target read.surfaces result.surfaces ∧
      result.auditEvents = read.auditEvents ++ added read result := by
  cases call with
  | retry call =>
    simp only [afterRead] at h
    split at h
    · rename_i hresult
      cases h
      exact rewrites_retry hresult
    · cases h
  | refresh deliveries =>
    simp only [afterRead] at h
    split at h
    · rename_i hresult
      cases h
      exact rewrites_refresh hresult
    · cases h
  | interrupted known =>
    simp only [afterRead] at h
    split at h
    · cases h
    · exact absurd h pollWith_ne_writing
  | record proof confirmedLive now => exact absurd h pollWith_ne_writing

lemma Call.polling_spec (h : call.afterRead run = .polling read updated) :
    Rewrites call.target read.surfaces updated := by
  cases call with
  | retry call | refresh deliveries =>
    simp only [afterRead] at h
    split at h <;> cases h
  | interrupted known =>
    simp only [afterRead] at h
    split at h
    · cases h
    · exact rewrites_poll rewrites_interrupted h
  | record proof confirmedLive now => exact rewrites_poll rewrites_record h

end Writes

/-! ## The invariant -/

section Invariant

variable {K : Type} (work : Work K)

/-- The surfaces and events of a state. -/
structure Kept (s : State K) : Prop where
  /-- No surface comes or goes. -/
  names : s.run.surfaces.map (·.id.name) = work.run.surfaces.map (·.id.name)
  /-- The surface of a call that has written has the status that the call computed. -/
  own : ∀ k computed events, s.phase k = .ended computed events →
    ∀ (i : ℕ) (surface : SurfaceStatus), s.run.surfaces[i]? = some surface →
      surface.id.name = (work.calls k).target → computed[i]? = some surface
  /-- Every other surface is as it was. -/
  others : ∀ (i : ℕ) (surface : SurfaceStatus), s.run.surfaces[i]? = some surface →
    (∀ k computed events, s.phase k = .ended computed events →
      surface.id.name ≠ (work.calls k).target) → work.run.surfaces[i]? = some surface
  /-- The events of a call that has written are there. -/
  events : ∀ k computed events, s.phase k = .ended computed events →
    ∀ event ∈ events, event ∈ s.run.auditEvents
  /-- The events from before are there. -/
  earlier : ∀ event ∈ work.run.auditEvents, event ∈ s.run.auditEvents

structure Inv (s : State K) : Prop where
  kept : Kept work s
  writing : ∀ k read result, s.phase k = .writing read result →
    Rewrites (work.calls k).target read.surfaces result.surfaces ∧
      result.auditEvents = read.auditEvents ++ added read result
  polling : ∀ k read updated, s.phase k = .polling read updated →
    Rewrites (work.calls k).target read.surfaces updated

variable {work} {s : State K}

lemma Inv.start : Inv work (start work) := by
  refine ⟨⟨rfl, ?_, fun i surface h _ => h, ?_, fun event h => h⟩, ?_, ?_⟩
  · intro k computed events hphase
    cases hphase
  · intro k computed events hphase
    cases hphase
  · intro k read result hphase
    cases hphase
  · intro k read updated hphase
    cases hphase

variable [DecidableEq K] {k : K}

@[simp] lemma withPhase_self (k : K) {phase : Phase} : (s.withPhase k phase).phase k = phase := by
  simp [State.withPhase]

lemma withPhase_of_ne {k' : K} (h : k' ≠ k) {phase : Phase} :
    (s.withPhase k phase).phase k' = s.phase k' := by
  simp [State.withPhase, h]

/-- The phase that a call is in then is the one it was given, or it is another call. -/
lemma phase_of_withPhase {k' : K} {phase phase' : Phase}
    (h : (s.withPhase k phase).phase k' = phase') :
    (k' = k ∧ phase = phase') ∨ (k' ≠ k ∧ s.phase k' = phase') := by
  by_cases hk : k' = k
  · subst hk
    exact .inl ⟨rfl, (withPhase_self k').symm.trans h⟩
  · exact .inr ⟨hk, (withPhase_of_ne hk).symm.trans h⟩

lemma Inv.withPhase (h : Inv work s) {phase : Phase}
    (hbefore : ∀ computed events, s.phase k ≠ .ended computed events)
    (hafter : ∀ computed events, phase ≠ .ended computed events)
    (hwriting : ∀ read result, phase = .writing read result →
      Rewrites (work.calls k).target read.surfaces result.surfaces ∧
        result.auditEvents = read.auditEvents ++ added read result)
    (hpolling : ∀ read updated, phase = .polling read updated →
      Rewrites (work.calls k).target read.surfaces updated) :
    Inv work (s.withPhase k phase) := by
  -- the calls that have written are the same
  have hended : ∀ k' computed events, (s.withPhase k phase).phase k' = .ended computed events ↔
      s.phase k' = .ended computed events := by
    intro k' computed events
    by_cases hk : k' = k
    · subst hk
      rw [withPhase_self]
      exact ⟨fun heq => absurd heq (hafter _ _), fun heq => absurd heq (hbefore _ _)⟩
    · rw [withPhase_of_ne hk]
  refine ⟨⟨h.kept.names, ?_, ?_, ?_, h.kept.earlier⟩, ?_, ?_⟩
  · intro k' computed events hphase
    exact h.kept.own k' computed events ((hended k' computed events).mp hphase)
  · intro i surface hsurface hnone
    apply h.kept.others i surface hsurface
    intro k' computed events hphase
    exact hnone k' computed events ((hended k' computed events).mpr hphase)
  · intro k' computed events hphase
    exact h.kept.events k' computed events ((hended k' computed events).mp hphase)
  · intro k' read result hphase
    rcases phase_of_withPhase hphase with ⟨rfl, hnew⟩ | ⟨-, hold⟩
    · exact hwriting read result hnew
    · exact h.writing k' read result hold
  · intro k' read updated hphase
    rcases phase_of_withPhase hphase with ⟨rfl, hnew⟩ | ⟨-, hold⟩
    · exact hpolling read updated hnew
    · exact h.polling k' read updated hold

/-- A call writes over the run as it is: its own surface in place, and its events at the end. -/
lemma Inv.written (h : Inv work s) (run : RunRecord) {events : List AuditEvent}
    (hrewrites : Rewrites (work.calls k).target s.run.surfaces run.surfaces)
    (hevents : run.auditEvents = s.run.auditEvents ++ events) :
    Inv work { s.withPhase k (.ended run.surfaces events) with run := run } := by
  obtain ⟨f, hname, hsame, hmap⟩ := hrewrites
  -- a surface of another name is where it was
  have hother : ∀ (i : ℕ) (surface : SurfaceStatus), run.surfaces[i]? = some surface →
      surface.id.name ≠ (work.calls k).target → s.run.surfaces[i]? = some surface := by
    intro i surface hsurface hne
    rw [hmap, List.getElem?_map, map_eq_some_iff] at hsurface
    obtain ⟨old, hold, rfl⟩ := hsurface
    rw [hname] at hne
    rw [hsame old hne, hold]
  refine ⟨⟨?_, ?_, ?_, ?_, ?_⟩, ?_, ?_⟩
  · rw [← h.kept.names, hmap, List.map_map]
    exact List.map_congr_left fun surface _ => hname surface
  · intro k' computed events' hphase i surface hsurface htarget
    rcases phase_of_withPhase hphase with ⟨rfl, ⟨⟩⟩ | ⟨hk, hold⟩
    · exact hsurface
    · have hne : surface.id.name ≠ (work.calls k).target := by
        rw [htarget]
        exact fun heq => hk (work.apart k' k heq)
      exact h.kept.own k' computed events' hold i surface (hother i surface hsurface hne) htarget
  · intro i surface hsurface hnone
    have hne := hnone k run.surfaces events (withPhase_self k)
    apply h.kept.others i surface (hother i surface hsurface hne)
    intro k' computed events' hphase
    by_cases hk : k' = k
    · rw [hk]
      exact hne
    · exact hnone k' computed events' ((withPhase_of_ne hk).trans hphase)
  · intro k' computed events' hphase event hevent
    rw [hevents, List.mem_append]
    rcases phase_of_withPhase hphase with ⟨rfl, ⟨⟩⟩ | ⟨-, hold⟩
    · exact .inr hevent
    · exact .inl (h.kept.events k' computed events' hold event hevent)
  · intro event hevent
    rw [hevents, List.mem_append]
    exact .inl (h.kept.earlier event hevent)
  · intro k' read result hphase
    rcases phase_of_withPhase hphase with ⟨-, ⟨⟩⟩ | ⟨-, hold⟩
    exact h.writing k' read result hold
  · intro k' read updated hphase
    rcases phase_of_withPhase hphase with ⟨-, ⟨⟩⟩ | ⟨-, hold⟩
    exact h.polling k' read updated hold

lemma Call.afterRead_ne_ended (call : Call) (run : RunRecord) (computed : List SurfaceStatus)
    (events : List AuditEvent) : call.afterRead run ≠ .ended computed events := by
  cases call <;> simp only [afterRead, pollWith] <;> repeat' split <;> simp

lemma Inv.read (h : Inv work s) (k : K) : Inv work (act work.calls s (.read k)) := by
  simp only [act]
  split
  · rename_i hphase
    have hbefore : ∀ computed events, s.phase k ≠ .ended computed events := by
      intro computed events heq
      rw [hphase] at heq
      cases heq
    split
    · rename_i run hrun
      exact h.withPhase hbefore ((work.calls k).afterRead_ne_ended run)
        (fun read result heq => Call.writing_spec heq) fun read updated heq => Call.polling_spec heq
    · exact h.withPhase hbefore (by simp) (by simp) (by simp)
    · exact h.withPhase hbefore (by simp) (by simp) (by simp)
  · exact h

lemma Call.lost_quiet (call : Call) : call.lost = .idle ∨
    call.lost = .raised .changedConcurrently := by
  cases call <;> simp [lost]

lemma Inv.write (h : Inv work s) (k : K) (hundisturbed : Undisturbed s (.write k)) :
    Inv work (act work.calls s (.write k)) := by
  simp only [act]
  split
  · rename_i read result hphase
    obtain ⟨hrewrites, hevents⟩ := h.writing k read result hphase
    have hread : s.run = read := by simpa [Undisturbed, hphase] using hundisturbed
    subst hread
    exact h.written result hrewrites hevents
  · rename_i read updated hphase
    split
    · rename_i hsame
      have hrewrites := h.polling k read updated hphase
      rw [← hsame] at hrewrites
      exact h.written { s.run with surfaces := updated } hrewrites (List.append_nil _).symm
    · have hbefore : ∀ computed events, s.phase k ≠ .ended computed events := by
        intro computed events heq
        rw [hphase] at heq
        cases heq
      rcases (work.calls k).lost_quiet with hlost | hlost <;> rw [hlost] <;>
        exact h.withPhase hbefore (by simp) (by simp) (by simp)
  · exact h

/-- In a run of the calls in which no whole-run write is disturbed, no result is lost. -/
theorem results_kept
    (h : Runs.Reached (act work.calls) Undisturbed (Concurrent.start work) s) : Kept work s := by
  have hinv : Inv work s := by
    apply h.invariant Inv.start
    intro s a hs ha
    cases a with
    | read k => exact hs.read k
    | write k => exact hs.write k ha
  exact hinv.kept

end Invariant

/-! ## A refresh and a poll -/

def liveOutput : SurfaceStatus where
  id := .youtubeLive
  label := ['Y']
  kind := .reach
  state := .succeeded
  required := false
  approval := .approved
  health := .ok
  message := ['m']
  nextStep := ['n']
  deliveryState := some "live".toList

def queuedNotices : SurfaceStatus where
  id := .subscriberNotifications
  label := ['N']
  kind := .audience
  state := .pending
  required := false
  approval := .approved
  health := .warning
  message := ['m']
  nextStep := ['n']
  notificationSummary := some ⟨['p'], 1, 0, 0, 1, 0⟩

/-- The notice was delivered, and the YouTube output is found interrupted. -/
def refreshAndPoll : Work Bool where
  run := ⟨['a'], ['o'], ['O'], 0, [liveOutput, queuedNotices], []⟩
  calls k := if k then .refresh fun _ => [.sent] else .interrupted false
  sameAsset := by
    intro k call h
    cases k with
    | true => cases h
    | false => cases h
  apart := by decide

def states (s : State Bool) : List SurfaceState := s.run.surfaces.map (·.state)

abbrev sampleAct : State Bool → Statement Bool → State Bool := act refreshAndPoll.calls

def oneByOne : List (Statement Bool) := [.read false, .write false, .read true, .write true]

theorem refresh_keeps_poll :
    Kept refreshAndPoll (oneByOne.foldl sampleAct (start refreshAndPoll)) ∧
      states (oneByOne.foldl sampleAct (start refreshAndPoll)) = [.failed, .succeeded] :=
  ⟨results_kept (Runs.reached_of_meets ⟨trivial, trivial, trivial, rfl, trivial⟩), rfl⟩

/-- The refresh has read the run before the poll writes. -/
def overlapping : List (Statement Bool) := [.read true, .read false, .write false, .write true]

theorem refresh_loses_poll :
    ¬ ∀ s, Runs.Reached sampleAct (fun _ _ => True) (start refreshAndPoll) s →
      Kept refreshAndPoll s := by
  intro hkept
  have hreached : Runs.Reached sampleAct (fun _ _ => True) (start refreshAndPoll)
      (overlapping.foldl sampleAct (start refreshAndPoll)) :=
    Runs.reached_of_meets (by decide)
  have hphase : (overlapping.foldl sampleAct (start refreshAndPoll)).phase false =
      .ended [markInterrupted liveOutput, queuedNotices] [] := rfl
  have hsurface : (overlapping.foldl sampleAct (start refreshAndPoll)).run.surfaces[0]? =
      some liveOutput := rfl
  have hsame := (hkept _ hreached).own false _ _ hphase 0 liveOutput hsurface rfl
  revert hsame
  decide

end CivicCast.Publish.Concurrent
