import CivicCast.Publish.Service

/-!
# What a publish run keeps

Approvals and retries of one recording, one after another. The stored run is the evidence of
what was published where: its audit events and, for every surface, a `Status`. A retry adds to
it. An approval replaces it by a run built from nothing, so what an earlier call left on
surfaces that this one does not touch is gone, and so are the events.

`evidence_kept` is about every history in which an approval finds nothing there to lose.
-/

namespace CivicCast.Publish

open Lib List Option

/-- What the run says of a surface. -/
structure Status where
  state : SurfaceState
  url : Option Text
  path : Option Text
  verificationHash : Option Text
  overrideJustification : Option Text
  notificationSummary : Option NotificationSummary
  deriving DecidableEq

def SurfaceStatus.status (surface : SurfaceStatus) : Status :=
  ⟨surface.state, surface.url, surface.path, surface.verificationHash,
    surface.overrideJustification, surface.notificationSummary⟩

def statusIn (surfaces : List SurfaceStatus) (id : SurfaceId) : Option Status :=
  (surfaces.find? fun surface => surface.id = id).map SurfaceStatus.status

inductive Call where
  | approve (call : ApprovalCall)
  | retry (call : RetryCall)

namespace Call

/-- The surfaces that a call selects or overrides. -/
def Touches : Call → SurfaceId → Prop
  | approve call, id => call.Touches id
  | retry call, id => id.name = call.surfaceId

def result (stored : Option RunRecord) : Call → Except PublishError RunRecord
  | approve call => call.approvePublish stored
  | retry call => call.retryPublishSurface stored

/-- The stored run after a call: a call that raises has stored nothing. -/
def perform (stored : Option RunRecord) (call : Call) : Option RunRecord :=
  match call.result stored with
  | .ok run => some run
  | .error _ => stored

end Call

/-- No event of the stored run is removed by the call, and no status of a surface that it does
not touch is changed. -/
structure Keeps (before : Option RunRecord) (call : Call) (after : Option RunRecord) : Prop where
  events : ∀ run, before = some run → ∃ run', after = some run' ∧
    run.auditEvents.Sublist run'.auditEvents
  statuses : ∀ run, before = some run → ∃ run', after = some run' ∧
    ∀ id status, ¬ call.Touches id → statusIn run.surfaces id = some status →
      statusIn run'.surfaces id = some status

/-- The runs stored by a history of calls, with each call between what it found and what it left. -/
def history (stored : Option RunRecord) :
    List Call → List (Option RunRecord × Call × Option RunRecord)
  | [] => []
  | call :: rest =>
    (stored, call, call.perform stored) :: history (call.perform stored) rest

/-- An approval that finds a stored run finds it without events, and with the surfaces that it
does not touch as they are before any run. -/
def NothingToLose (stored : Option RunRecord) : Call → Prop
  | .retry _ => True
  | .approve call => ∀ run, stored = some run → call.request.valid = true →
    call.blockedSelectedSurfaces = [] →
      run.auditEvents = [] ∧ ∀ id status, ¬ call.Touches id →
        statusIn run.surfaces id = some status →
          statusIn (buildInitialSurfaces call.asset) id = some status

/-! ## What an approval makes of the surfaces -/

namespace ApprovalCall

variable {call : ApprovalCall} {stored : Option RunRecord} {pair : Option (Proof × Proof)}
  {surface : SurfaceStatus}

variable {now : Time} {providers : Providers} {asset : Asset} {updated : SurfaceStatus}
  {surfaces : List SurfaceStatus}

lemma id_executePortal : (executePortal asset now surface).id = surface.id := by
  unfold executePortal
  split
  · rfl
  · rfl

lemma id_executeInternetArchive :
    (executeInternetArchive providers now surface).id = surface.id := by
  unfold executeInternetArchive
  split
  · rfl
  · rfl

lemma id_executeNas : (executeNas providers now pair surface).1.id = surface.id := by
  unfold executeNas
  split
  · rfl
  · rfl

lemma id_executeYoutubeLive {request : ApprovalRequest} {previous : Option SurfaceStatus} :
    (executeYoutubeLive providers request previous now surface).id = surface.id := by
  unfold executeYoutubeLive
  dsimp only
  split
  · -- the provider raises: the surface is the one with the earlier ids
    cases previous with
    | none | some previous => rfl
  · cases previous with
    | none | some previous => rfl

lemma id_executeYoutubeVod : (executeYoutubeVod providers now surface).id = surface.id := by
  unfold executeYoutubeVod
  split
  · rfl
  · rfl

lemma id_executePodcast (h : executePodcast asset providers now surface = .ok updated) :
    updated.id = surface.id := by
  unfold executePodcast at h
  dsimp only at h
  split at h
  · cases h
    rfl
  · split at h
    · cases h
    · cases h
    · cases h
      rfl

lemma id_executeNotifications (h : executeNotifications asset providers now surface = .ok updated) :
    updated.id = surface.id := by
  unfold executeNotifications at h
  split at h
  · cases h
    rfl
  · split at h
    · cases h
    · cases h
      rfl

lemma id_executeCablePackage : (executeCablePackage providers now surface).id = surface.id := by
  unfold executeCablePackage
  split
  · rfl
  · rfl
  · rfl

lemma id_execute {result : SurfaceStatus × Option (Proof × Proof)}
    (h : call.execute stored pair surface = .ok result) : result.1.id = surface.id := by
  unfold execute at h
  split at h
  · cases h
    exact id_executePortal
  · cases h
    exact id_executeInternetArchive
  · obtain rfl := Except.ok.inj h
    exact id_executeNas
  · obtain rfl := Except.ok.inj h
    exact id_executeNas
  · obtain ⟨previous, -, h⟩ := bind_ok h
    cases h
    exact id_executeYoutubeLive
  · cases h
    exact id_executeYoutubeVod
  · obtain ⟨updated, hpodcast, h⟩ := bind_ok h
    cases h
    exact id_executePodcast hpodcast
  · obtain ⟨updated, hnotices, h⟩ := bind_ok h
    cases h
    exact id_executeNotifications hnotices
  · cases h
    exact id_executeCablePackage

/-- The loop leaves every id in its place, and the surfaces it does not touch as they are. -/
lemma executeAll_spec {updated : List SurfaceStatus} {events : List AuditEvent}
    (h : call.executeAll stored pair surfaces = .ok (updated, events)) :
    List.Forall₂ (fun before after =>
      after.id = before.id ∧ (¬ call.Touches before.id → after = before)) surfaces updated := by
  induction surfaces generalizing pair updated events with
  | nil =>
    cases h
    exact .nil
  | cons surface rest ih =>
    unfold executeAll at h
    split at h
    · -- overridden
      rename_i justification hoverride
      obtain ⟨logged, -, h⟩ := bind_ok h
      obtain ⟨⟨others, events'⟩, hrest, h⟩ := bind_ok h
      cases h
      exact .cons ⟨rfl, fun hnot => absurd (.inl (by simp [hoverride])) hnot⟩ (ih hrest)
    · split at h
      · -- selected
        rename_i hselected
        obtain ⟨⟨after, pair'⟩, hexecute, h⟩ := bind_ok h
        have hid : after.id = surface.id := id_execute hexecute
        have htouched : ¬ call.Touches surface.id → after = surface :=
          fun hnot => absurd (.inr hselected) hnot
        dsimp only at h
        split at h
        · obtain ⟨logged, -, h⟩ := bind_ok h
          obtain ⟨⟨others, events'⟩, hrest, h⟩ := bind_ok h
          cases h
          exact .cons ⟨hid, htouched⟩ (ih hrest)
        · obtain ⟨⟨others, events'⟩, hrest, h⟩ := bind_ok h
          cases h
          exact .cons ⟨hid, htouched⟩ (ih hrest)
      · obtain ⟨⟨others, events'⟩, hrest, h⟩ := bind_ok h
        cases h
        exact .cons ⟨rfl, fun _ => rfl⟩ (ih hrest)

lemma statusIn_of_forall₂ {updated : List SurfaceStatus} {id : SurfaceId}
    (hid : ¬ call.Touches id)
    (h : List.Forall₂ (fun before after =>
      after.id = before.id ∧ (¬ call.Touches before.id → after = before)) surfaces updated) :
    statusIn updated id = statusIn surfaces id := by
  unfold statusIn
  induction h with
  | nil => rfl
  | cons hsurface hrest ih =>
    rename_i before after surfaces updated
    obtain ⟨hsame, hkept⟩ := hsurface
    simp only [find?_cons, hsame]
    by_cases hbefore : before.id = id
    · simp only [hbefore, decide_true]
      rw [hkept (hbefore ▸ hid)]
    · simp only [hbefore, decide_false]
      exact ih

/-- An approval that is stored gives the surfaces it does not touch the status they have before
any run. -/
lemma approvePublish_spec {run : RunRecord} (h : call.approvePublish stored = .ok run) :
    call.request.valid = true ∧ call.blockedSelectedSurfaces = [] ∧
      ∀ id, ¬ call.Touches id →
        statusIn run.surfaces id = statusIn (buildInitialSurfaces call.asset) id := by
  unfold approvePublish at h
  split at h
  · cases h
  · rename_i hvalid
    split at h
    · cases h
    · rename_i hready
      obtain ⟨⟨surfaces, events⟩, hall, h⟩ := bind_ok h
      cases h
      refine ⟨by simpa using hvalid, not_not.mp hready, fun id hid => ?_⟩
      exact statusIn_of_forall₂ hid (executeAll_spec hall)

end ApprovalCall

/-! ## What a retry keeps -/

namespace RetryCall

variable {call : RetryCall} {run run' : RunRecord}

/-- A retry that is stored puts its surface in place of the earlier one and adds events. -/
lemma retryPublishSurface_spec (h : call.retryPublishSurface (some run) = .ok run') :
    ∃ updated added, run'.surfaces = run.surfaces.map (fun surface =>
        if surface.id.name = call.surfaceId then updated else surface) ∧
      updated.id.name = call.surfaceId ∧ run'.auditEvents = run.auditEvents ++ added := by
  unfold retryPublishSurface at h
  split at h
  · cases h
  · obtain ⟨previous, hprevious, h⟩ := bind_ok h
    obtain rfl : previous = some run := by
      unfold getRun at hprevious
      dsimp only at hprevious
      split at hprevious
      · exact (Except.ok.inj hprevious).symm
      · cases hprevious
    obtain ⟨retried, -, h⟩ := bind_ok h
    split at h
    · cases h
    · rename_i found hfound
      obtain ⟨logged, -, h⟩ := bind_ok h
      cases h
      refine ⟨call.retriedSurface run.surfaces found, [logged] ++ retried.auditEvents, rfl, ?_, ?_⟩
      · have hname : found.id.name = call.surfaceId := by simpa using find?_some hfound
        exact hname
      · exact append_assoc _ _ _

lemma statusIn_map_of_ne {surfaces : List SurfaceStatus} {updated : SurfaceStatus} {id : SurfaceId}
    (hupdated : updated.id.name = call.surfaceId) (hid : id.name ≠ call.surfaceId) :
    statusIn (surfaces.map fun surface =>
        if surface.id.name = call.surfaceId then updated else surface) id =
      statusIn surfaces id := by
  unfold statusIn
  induction surfaces with
  | nil => rfl
  | cons surface rest ih =>
    simp only [map_cons, find?_cons]
    by_cases hsurface : surface.id.name = call.surfaceId
    · -- neither the surface nor what takes its place is the one asked for
      have hne : surface.id ≠ id := fun heq => hid (heq ▸ hsurface)
      have hne' : updated.id ≠ id := fun heq => hid (heq ▸ hupdated)
      simp only [hsurface, if_true, hne, hne', decide_false]
      exact ih
    · simp only [hsurface, if_false]
      split
      · rfl
      · exact ih

end RetryCall

/-! ## Every history -/

variable {stored : Option RunRecord} {call : Call}

lemma Keeps.refl : Keeps stored call stored where
  events run hrun := ⟨run, hrun, List.Sublist.refl _⟩
  statuses run hrun := ⟨run, hrun, fun _ _ _ hstatus => hstatus⟩

/-- One call keeps the evidence where an approval has nothing to lose. -/
lemma keeps_perform (h : NothingToLose stored call) : Keeps stored call (call.perform stored) := by
  unfold Call.perform
  cases hresult : call.result stored with
  | error error => exact .refl
  | ok run' =>
    cases call with
    | approve approval =>
      -- a new run takes the place of the stored one
      obtain ⟨hvalid, hready, hinitial⟩ := ApprovalCall.approvePublish_spec hresult
      constructor
      · intro run hrun
        refine ⟨run', rfl, ?_⟩
        rw [(h run hrun hvalid hready).1]
        exact nil_sublist _
      · intro run hrun
        refine ⟨run', rfl, fun id status hid hstatus => ?_⟩
        rw [hinitial id hid]
        exact (h run hrun hvalid hready).2 id status hid hstatus
    | retry retry =>
      -- events are appended, and one surface is written anew
      constructor
      · rintro run rfl
        obtain ⟨updated, added, -, -, hevents⟩ := RetryCall.retryPublishSurface_spec hresult
        refine ⟨run', rfl, ?_⟩
        rw [hevents]
        exact sublist_append_left _ _
      · rintro run rfl
        obtain ⟨updated, added, hsurfaces, hupdated, -⟩ :=
          RetryCall.retryPublishSurface_spec hresult
        refine ⟨run', rfl, fun id status hid hstatus => ?_⟩
        rw [hsurfaces, RetryCall.statusIn_map_of_ne hupdated hid]
        exact hstatus

/-- In every history whose approvals have nothing to lose, every call keeps the evidence. -/
theorem evidence_kept (stored : Option RunRecord) (calls : List Call)
    (h : ∀ entry ∈ history stored calls, NothingToLose entry.1 entry.2.1) :
    ∀ entry ∈ history stored calls, Keeps entry.1 entry.2.1 entry.2.2 := by
  induction calls generalizing stored with
  | nil => simp [history]
  | cons call rest ih =>
    obtain ⟨hcall, hrest⟩ := forall_mem_cons.mp h
    exact forall_mem_cons.mpr ⟨keeps_perform hcall, ih (call.perform stored) hrest⟩

/-! ## The portal first, then the podcast -/

def councilMeeting : Asset where
  assetId := ['a']
  title := ['t']
  manifestUrl := some ['m']
  retentionPolicy := ['m', 'e', 'e', 't', 'i', 'n', 'g']
  publishedAt := none

/-- Nothing outside is set up. -/
def bareStation : Providers where
  unhealthy _ := false
  internetArchive := .error ['e']
  nas _ := .error ['e']
  youtubeLive _ := .error ['e']
  youtubeVod := .error ['e']
  podcast := .notCreated ['e']
  localMedia := false
  publicBaseUrl := none
  notifications := .error ['e']
  cable := .notConfigured ['e']

def approving (selection : Option (List Text)) (now : Time) : Call :=
  .approve ⟨councilMeeting, ⟨['o'], ['O'], selection, [], none, none, none⟩, bareStation, now⟩

def retryingPodcast (now : Time) : Call :=
  .retry ⟨councilMeeting, SurfaceId.podcast.name, ⟨['o'], ['O'], none, none, none⟩, bareStation,
    now, now, now⟩

/-- A retry of the podcast keeps the evidence of the portal. -/
theorem portal_then_podcast_retry :
    (∀ entry ∈ history none [approving none 1, retryingPodcast 2],
      Keeps entry.1 entry.2.1 entry.2.2) ∧
    ((approving none 1).perform none).map (fun run =>
      run.auditEvents.map AuditEvent.surfaceId) = some [.portal] := by
  refine ⟨evidence_kept none _ ?_, by decide +kernel⟩
  intro entry hentry
  simp only [history, mem_cons, not_mem_nil, or_false] at hentry
  rcases hentry with rfl | rfl
  · intro run hrun
    cases hrun
  · trivial

/-- An approval of the podcast takes the evidence of the portal away. -/
theorem portal_evidence_lost :
    ¬ ∀ entry ∈ history none [approving none 1, approving (some [SurfaceId.podcast.name]) 2],
      Keeps entry.1 entry.2.1 entry.2.2 := by
  intro h
  have hfirst : ((approving none 1).perform none).map (fun run => run.auditEvents.length) =
      some 1 := by decide +kernel
  have hsecond : ((approving (some [SurfaceId.podcast.name]) 2).perform
      ((approving none 1).perform none)).map (fun run => run.auditEvents.length) = some 0 := by
    decide +kernel
  have hkeeps := h ((approving none 1).perform none, approving (some [SurfaceId.podcast.name]) 2,
    (approving (some [SurfaceId.podcast.name]) 2).perform ((approving none 1).perform none))
    (mem_cons_of_mem _ mem_cons_self)
  obtain ⟨run, hrun, hone⟩ := map_eq_some_iff.mp hfirst
  obtain ⟨run', hrun', hsublist⟩ := hkeeps.events run hrun
  obtain ⟨last, hlast, hnone⟩ := map_eq_some_iff.mp hsecond
  have hlength := hsublist.length_le
  rw [some.inj (hrun'.symm.trans hlast)] at hlength
  omega

end CivicCast.Publish
