import CivicCast.Lib.Python

/-!
# The publish run of a recording

`publish/service.py`: `approve_publish` builds the nine surfaces of a recording afresh, executes
those the operator selected or overrode, and stores the result as the run of the recording.
`retry_publish_surface` approves one surface on a throwaway store and merges what came of it
into the stored run.

What the providers answer is passed in (`Providers`), as is what the clock says. Pydantic checks
a model when it is built and when it is loaded, not when it is copied: an event that breaks its
limits stops the approval before anything is stored, and a surface that was stored with an
empty text cannot be loaded again.
-/

namespace CivicCast.Publish

open Lib

/-- Microseconds. -/
abbrev Time : Type := ℤ

inductive SurfaceId where
  | portal | internetArchive | localNasRsync | localNasZfs | youtubeLive | youtubeVod | podcast
  | subscriberNotifications | cableFilePackage
  deriving DecidableEq

def SurfaceId.name : SurfaceId → Text
  | portal => ['p', 'o', 'r', 't', 'a', 'l']
  | internetArchive =>
    ['i', 'n', 't', 'e', 'r', 'n', 'e', 't', '-', 'a', 'r', 'c', 'h', 'i', 'v', 'e']
  | localNasRsync => ['l', 'o', 'c', 'a', 'l', '-', 'n', 'a', 's', '-', 'r', 's', 'y', 'n', 'c']
  | localNasZfs => ['l', 'o', 'c', 'a', 'l', '-', 'n', 'a', 's', '-', 'z', 'f', 's']
  | youtubeLive => ['y', 'o', 'u', 't', 'u', 'b', 'e', '-', 'l', 'i', 'v', 'e']
  | youtubeVod => ['y', 'o', 'u', 't', 'u', 'b', 'e', '-', 'v', 'o', 'd']
  | podcast => ['p', 'o', 'd', 'c', 'a', 's', 't']
  | subscriberNotifications =>
    ['s', 'u', 'b', 's', 'c', 'r', 'i', 'b', 'e', 'r', '-', 'n', 'o', 't', 'i', 'f', 'i', 'c',
      'a', 't', 'i', 'o', 'n', 's']
  | cableFilePackage =>
    ['c', 'a', 'b', 'l', 'e', '-', 'f', 'i', 'l', 'e', '-', 'p', 'a', 'c', 'k', 'a', 'g', 'e']

inductive SurfaceKind where
  | canonical | archive | reach | record | audience
  deriving DecidableEq

inductive SurfaceState where
  | blocked | notConfigured | comingSoon | pending | running | succeeded | partly | unverified
  | failed | overridden
  deriving DecidableEq

inductive Approval where
  | pending | approved | overridden
  deriving DecidableEq

inductive Health where
  | ok | warning | error | unknown
  deriving DecidableEq

/-- The counts of `PublishNotificationSummary`; its rows are data of the delivery store. -/
structure NotificationSummary where
  publicationId : Text
  intended : ℕ
  sent : ℕ
  failed : ℕ
  queued : ℕ
  pending : ℕ
  deriving DecidableEq

structure SurfaceStatus where
  id : SurfaceId
  label : Text
  kind : SurfaceKind
  state : SurfaceState
  required : Bool
  approval : Approval
  health : Health
  message : Text
  nextStep : Text
  url : Option Text := none
  path : Option Text := none
  verificationHash : Option Text := none
  lastAttemptAt : Option Time := none
  completedAt : Option Time := none
  retryCount : ℕ := 0
  overrideJustification : Option Text := none
  simulated : Bool := false
  notificationSummary : Option NotificationSummary := none
  deliveryState : Option Text := none
  channelId : Option Text := none
  broadcastId : Option Text := none
  streamId : Option Text := none
  scheduledStart : Option Time := none
  scheduledEnd : Option Time := none
  deriving DecidableEq

inductive Action where
  | succeeded | retried | overridden
  deriving DecidableEq

def Action.name : Action → Text
  | succeeded => ['s', 'u', 'c', 'c', 'e', 'e', 'd', 'e', 'd']
  | retried => ['r', 'e', 't', 'r', 'i', 'e', 'd']
  | overridden => ['o', 'v', 'e', 'r', 'r', 'i', 'd', 'd', 'e', 'n']

structure AuditEvent where
  eventId : Text
  assetId : Text
  surfaceId : SurfaceId
  action : Action
  operatorId : Text
  occurredAt : Time
  message : Text
  url : Option Text
  path : Option Text
  verificationHash : Option Text
  deriving DecidableEq

structure RunRecord where
  assetId : Text
  operatorId : Text
  operatorDisplayName : Text
  approvedAt : Time
  surfaces : List SurfaceStatus
  auditEvents : List AuditEvent
  deriving DecidableEq

/-- The columns of the asset row that publishing reads. -/
structure Asset where
  assetId : Text
  title : Text
  manifestUrl : Option Text
  retentionPolicy : Text
  publishedAt : Option Time
  deriving DecidableEq

inductive PublishError where
  | configuration (blocked : List SurfaceId)
  | unknownSurface (surfaceId : Text)
  | validation
  | missingBaseUrl
  | unboundEpisode
  | notifications (message : Text)
  deriving DecidableEq

/-! ## Surfaces before a run -/

def isPublicRecord (asset : Asset) : Bool :=
  asset.retentionPolicy = "meeting".toList || asset.retentionPolicy = "permanent".toList

/-- A manifest url that is there and not empty. -/
def Asset.manifest (asset : Asset) : Option Text := asset.manifestUrl.filter (· ≠ [])

def blockedPortalSurface (asset : Asset) : SurfaceStatus :=
  match asset.manifest with
  | some url =>
    { id := .portal
      label := "Portal".toList
      kind := .canonical
      state := .pending
      required := true
      approval := .pending
      url := some url
      health := .warning
      message := "Portal publish is waiting for operator approval.".toList
      nextStep := "Approve publish to make the canonical portal URL public.".toList }
  | none =>
    { id := .portal
      label := "Portal".toList
      kind := .canonical
      state := .blocked
      required := true
      approval := .pending
      health := .error
      message := "The portal cannot publish this asset until an HLS manifest exists.".toList
      nextStep :=
        "Run the packager or fix ingest so manifest_url exists, then retry approval.".toList }

def pendingSurface (id : SurfaceId) (label : String) (kind : SurfaceKind) (required : Bool)
    (message nextStep : String) : SurfaceStatus where
  id := id
  label := label.toList
  kind := kind
  state := .pending
  required := required
  approval := .pending
  health := if required then .warning else .unknown
  message := message.toList
  nextStep := nextStep.toList

def buildInitialSurfaces (asset : Asset) : List SurfaceStatus :=
  let publicRecord := isPublicRecord asset
  [ blockedPortalSurface asset,
    pendingSurface .internetArchive "Internet Archive" .archive publicRecord
      (if publicRecord then "Internet Archive proof is required before archive verification."
        else "Internet Archive is optional for this non-public-record asset.")
      "Approve IA publish or enter an audit-logged override.",
    pendingSurface .localNasRsync "Local NAS rsync" .archive publicRecord
      (if publicRecord then "Rsync/hash local NAS proof is required before archive verification."
        else "Local NAS rsync proof is optional for this non-public-record asset.")
      "Approve local NAS rsync archive or enter an audit-logged override.",
    pendingSurface .localNasZfs "Local NAS ZFS" .archive publicRecord
      (if publicRecord then
        "ZFS send/hash local NAS proof is required before archive verification."
        else "Local NAS ZFS proof is optional for this non-public-record asset.")
      "Approve local NAS ZFS archive or enter an audit-logged override.",
    pendingSurface .youtubeLive "YouTube Live" .reach false
      "YouTube Live is a reach surface; failures must not block the portal."
      "Approve YouTube Live fanout or leave it pending.",
    pendingSurface .youtubeVod "YouTube VOD" .reach false
      "YouTube VOD is a reach surface; failures degrade independently."
      "Approve YouTube VOD upload or leave it pending.",
    pendingSurface .podcast "Podcast episode" .audience false
      "Podcast RSS is an audience surface generated after operator approval."
      "Approve podcast generation or leave it pending for later audio review.",
    pendingSurface .subscriberNotifications "Subscriber notifications" .audience false
      "Confirmed subscribers receive notices after publish; failures do not block archive."
      "Approve notification dispatch after the public portal link is ready.",
    pendingSurface .cableFilePackage "Cable file package" .record false
      ("Cable file package creates a local ZIP with media, captions, metadata, " ++
        "and hashes for PEG/headend handoff.")
      ("Configure a cable package output folder and caption sidecar folder, then " ++
        "approve this surface for headend handoff.") ]

def defaultApprovedSurfaceIds (asset : Asset) : List Text :=
  ((buildInitialSurfaces asset).filter fun surface => surface.kind = .canonical).map fun surface =>
    surface.id.name

/-! ## Checks of the models -/

/-- The pattern `^sha256:[0-9a-f]{64}$`. -/
def isVerificationHash (hash : Text) : Bool :=
  let digits := hash.drop 7
  "sha256:".toList.isPrefixOf hash && digits.length = 64 &&
    digits.all fun c => c.isDigit || ('a' ≤ c && c ≤ 'f')

def AuditEvent.valid (event : AuditEvent) : Bool :=
  event.eventId.length ≤ 180 && event.message ≠ [] && event.verificationHash.all isVerificationHash

/-- A surface that its model takes when it is loaded. -/
def SurfaceStatus.valid (surface : SurfaceStatus) : Bool :=
  surface.message ≠ [] && surface.nextStep ≠ [] &&
    surface.verificationHash.all isVerificationHash &&
    (surface.state ≠ .overridden || (surface.overrideJustification.any (· ≠ [])))

/-- `store.get_run`. -/
def getRun (stored : Option RunRecord) : Except PublishError (Option RunRecord) :=
  match stored with
  | none => .ok none
  | some run => if run.surfaces.all SurfaceStatus.valid then .ok (some run) else .error .validation

/-- `_event`; the whole second is in the id. -/
def event (assetId : Text) (surface : SurfaceStatus) (action : Action) (operatorId message : Text)
    (now : Time) : Except PublishError AuditEvent :=
  let built : AuditEvent :=
    { eventId := assetId ++ [':'] ++ surface.id.name ++ [':'] ++ action.name ++ [':'] ++
        (toString (now.tdiv 1000000)).toList
      assetId := assetId
      surfaceId := surface.id
      action := action
      operatorId := operatorId
      occurredAt := now
      message := message
      url := surface.url
      path := surface.path
      verificationHash := surface.verificationHash }
  if built.valid then .ok built else .error .validation

/-! ## Executing a surface -/

/-- The proof of an archive: where the copy is, its hash, and whether there is one. -/
structure Proof where
  target : Text
  verificationHash : Text
  simulated : Bool
  deriving DecidableEq

structure LiveProof where
  deliveryState : Text
  url : Option Text
  channelId : Option Text
  broadcastId : Option Text
  streamId : Option Text
  scheduledStart : Option Time
  scheduledEnd : Option Time
  deriving DecidableEq

/-- What `publish_live` is given besides the asset. -/
structure LiveOptions where
  channelId : Option Text
  scheduledStart : Option Time
  scheduledEnd : Option Time
  broadcastId : Option Text
  streamId : Option Text
  deriving DecidableEq

structure NotificationOutcome where
  state : SurfaceState
  health : Health
  message : Text
  nextStep : Text
  simulated : Bool
  summary : Option NotificationSummary
  deriving DecidableEq

inductive CableResult where
  | created (zipPath verificationHash nextStep : Text)
  | notConfigured (error : Text)
  | failed (error : Text)
  deriving DecidableEq

/-- The episode was created, could not be created, or was created and could not be stored. -/
inductive PodcastResult where
  | created (channelId : Text)
  | notCreated (error : Text)
  | notStored (channelId error : Text)
  deriving DecidableEq

def PodcastResult.error : PodcastResult → Text
  | created _ => []
  | notCreated error | notStored _ error => error

def PodcastResult.channelId : PodcastResult → Option Text
  | created channelId | notStored channelId _ => some channelId
  | notCreated _ => none

/-- What everything outside the service answers during one call. An archive run on the NAS is
answered for the surface that asks for it; the text of an exception is its `str`. -/
structure Providers where
  unhealthy : SurfaceId → Bool
  internetArchive : Except Text Proof
  nas : SurfaceId → Except Text (Proof × Proof)
  youtubeLive : LiveOptions → Except Text LiveProof
  youtubeVod : Except Text (Text × Bool)
  podcast : PodcastResult
  localMedia : Bool
  publicBaseUrl : Option Text
  notifications : Except Text NotificationOutcome
  cable : CableResult

structure ApprovalRequest where
  operatorId : Text
  operatorDisplayName : Text
  approvedSurfaceIds : Option (List Text)
  overrides : List (Text × Text)
  youtubeScheduledStart : Option Time
  youtubeScheduledEnd : Option Time
  youtubeChannelId : Option Text
  deriving DecidableEq

/-- `_valid_youtube_window`, `_empty_selection_needs_an_override`, `_no_duplicate_overrides`. -/
def ApprovalRequest.valid (request : ApprovalRequest) : Bool :=
  (match request.youtubeScheduledStart, request.youtubeScheduledEnd with
    | none, none => true
    | some start, some finish => start < finish
    | _, _ => false) &&
  (request.approvedSurfaceIds ≠ some [] || request.overrides ≠ []) &&
  (request.overrides.map Prod.fst).Nodup

def ApprovalRequest.approvedIds (request : ApprovalRequest) (asset : Asset) : List Text :=
  request.approvedSurfaceIds.getD (defaultApprovedSurfaceIds asset)

def applyOverride (surface : SurfaceStatus) (justification : Text) (now : Time) : SurfaceStatus :=
  { surface with
    state := .overridden
    approval := .overridden
    health := .warning
    completedAt := some now
    message := surface.label ++ " was skipped with an audit-logged override.".toList
    nextStep := "Review the override justification before closing the public record.".toList
    overrideJustification := some justification }

def providerFailure (surface : SurfaceStatus) (now : Time) (error : Text) : SurfaceStatus :=
  { surface with
    state := .failed
    approval := .approved
    health := .warning
    completedAt := some now
    message := surface.label ++ " delivery failed; retry this surface.".toList
    nextStep := error }

def archived (surface : SurfaceStatus) (now : Time) (proof : Proof)
    (message nextStep : Text) : SurfaceStatus :=
  { surface with
    state := .succeeded
    approval := .approved
    health := .ok
    verificationHash := some proof.verificationHash
    completedAt := some now
    simulated := proof.simulated
    message := message
    nextStep := nextStep }

def executePortal (asset : Asset) (now : Time) (surface : SurfaceStatus) : SurfaceStatus :=
  if asset.manifest.isSome then
    { surface with
      state := .succeeded
      approval := .approved
      health := .ok
      completedAt := some now
      message := "Canonical portal is public for this recording.".toList
      nextStep := "Monitor archive and reach surfaces independently.".toList }
  else surface

def executeInternetArchive (providers : Providers) (now : Time) (surface : SurfaceStatus) :
    SurfaceStatus :=
  match providers.internetArchive with
  | .error error => providerFailure surface now error
  | .ok proof =>
    { archived surface now proof
        (if proof.simulated then
          ("SIMULATED - no item was created at the Internet Archive. " ++
            "An admin must set CIVICCAST_PROVIDER_INTERNET_ARCHIVE=real " ++
            "with valid credentials before this counts as the legal archive.").toList
          else "Internet Archive item URL verifies hash-match.".toList)
        (if proof.simulated then
          "Ask an admin to enable the real Internet Archive provider.".toList
          else "Confirm local NAS proofs before archive verification.".toList) with
      url := some proof.target }

/-- The two NAS surfaces share one archive run: the pair of the first that succeeds. -/
def executeNas (providers : Providers) (now : Time) (pair : Option (Proof × Proof))
    (surface : SurfaceStatus) : SurfaceStatus × Option (Proof × Proof) :=
  match pair.elim (providers.nas surface.id) .ok with
  | .error error => (providerFailure surface now error, none)
  | .ok pair =>
    let proof := if surface.id = .localNasRsync then pair.1 else pair.2
    ({ archived surface now proof
        (if proof.simulated then
          "SIMULATED - ".toList ++ surface.label ++
            (" did not write any file. An admin must set " ++
              "CIVICCAST_PROVIDER_LOCAL_NAS=real before " ++
              "this counts as the station's retained copy.").toList
          else surface.label ++ " wrote and verified a hash-matched copy.".toList)
        (if proof.simulated then "Ask an admin to enable the real local-NAS provider.".toList
          else "Keep both local NAS proofs with the archive evidence.".toList) with
      path := some proof.target }, some pair)

/-- The ids and the url of an earlier broadcast go with the surface. -/
def executeYoutubeLive (providers : Providers) (request : ApprovalRequest)
    (previous : Option SurfaceStatus) (now : Time) (surface : SurfaceStatus) : SurfaceStatus :=
  let surface :=
    match previous with
    | none => surface
    | some previous =>
      { surface with
        broadcastId := previous.broadcastId
        streamId := previous.streamId
        scheduledStart := previous.scheduledStart
        scheduledEnd := previous.scheduledEnd
        channelId := previous.channelId
        url := previous.url
        deliveryState := previous.deliveryState }
  let broadcastId := previous.bind SurfaceStatus.broadcastId
  let options : LiveOptions :=
    if request.youtubeScheduledStart.isSome || broadcastId.any (· ≠ []) then
      ⟨request.youtubeChannelId, request.youtubeScheduledStart, request.youtubeScheduledEnd,
        broadcastId, previous.bind SurfaceStatus.streamId⟩
    else ⟨request.youtubeChannelId, none, none, none, none⟩
  match providers.youtubeLive options with
  | .error error => providerFailure surface now error
  | .ok proof =>
    let live : Bool := proof.deliveryState = "live".toList
    { surface with
      state :=
        if proof.deliveryState ∈ ["scheduled", "configured", "starting"].map String.toList then
          .running
        else if live then .succeeded
        else if proof.deliveryState = "failed".toList then .failed
        else .unverified
      approval := .approved
      health := if live then .ok else .warning
      url := proof.url
      completedAt := if live then some now else none
      simulated := proof.deliveryState = "simulated".toList
      deliveryState := some proof.deliveryState
      channelId := proof.channelId
      broadcastId := proof.broadcastId
      streamId := proof.streamId
      scheduledStart := proof.scheduledStart
      scheduledEnd := proof.scheduledEnd
      message := "YouTube Live: ".toList ++ proof.deliveryState ++
        ". Only destination-confirmed live output counts as delivery.".toList
      nextStep := "Treat this as reach evidence, not the system of record.".toList }

def executeYoutubeVod (providers : Providers) (now : Time) (surface : SurfaceStatus) :
    SurfaceStatus :=
  match providers.youtubeVod with
  | .error error => providerFailure surface now error
  | .ok (url, simulated) =>
    { surface with
      state := if simulated then .unverified else .succeeded
      approval := .approved
      health := .ok
      simulated := simulated
      url := some url
      completedAt := some now
      message :=
        if simulated then "Simulated YouTube VOD; nothing was uploaded.".toList
        else "YouTube VOD upload confirmed.".toList
      nextStep := "Treat this as reach evidence, not the system of record.".toList }

/-- What comes of the episode, with what the service itself finds missing. -/
def podcastEpisode (asset : Asset) (providers : Providers) : PodcastResult :=
  if asset.publishedAt = none then
    .notCreated ("Publish this recording to Portal first, then retry Podcast " ++
      "after the public record is confirmed.").toList
  else if !providers.localMedia then
    .notCreated "A local recording and podcast storage are required.".toList
  else providers.podcast

def executePodcast (asset : Asset) (providers : Providers) (now : Time) (surface : SurfaceStatus) :
    Except PublishError SurfaceStatus :=
  let episode := podcastEpisode asset providers
  if episode.error ≠ [] then
    .ok { surface with
      state := .failed
      approval := .approved
      health := .warning
      completedAt := some now
      message := "Podcast audio was not published.".toList
      nextStep := episode.error }
  else
    match providers.publicBaseUrl, episode.channelId with
    | none, _ => .error .missingBaseUrl
    | some _, none => .error .unboundEpisode
    | some baseUrl, some channelId =>
      let base := (baseUrl.reverse.dropWhile (· = '/')).reverse
      .ok { surface with
        state := .succeeded
        approval := .approved
        health := .ok
        url := some (base ++ "/api/public/podcast/".toList ++ channelId ++ ".xml".toList)
        completedAt := some now
        message := "Podcast audio was created and added to the RSS feed.".toList
        nextStep := "Open the feed to check the episode and audio.".toList }

/-- The notices go out once the recording is public; until then the surface waits. -/
def executeNotifications (asset : Asset) (providers : Providers) (now : Time)
    (surface : SurfaceStatus) : Except PublishError SurfaceStatus :=
  if asset.publishedAt = none then
    .ok { surface with
      state := .pending
      approval := .approved
      health := .warning
      message := "Subscriber notices are waiting for the recording to become public.".toList
      nextStep :=
        "Publish the recording to Portal; notices will send after visibility is confirmed.".toList }
  else
    match providers.notifications with
    | .error error => .error (.notifications error)
    | .ok outcome =>
      .ok { surface with
        state := outcome.state
        approval := .approved
        health := outcome.health
        completedAt := some now
        message := outcome.message
        nextStep := outcome.nextStep
        simulated := outcome.simulated
        notificationSummary := outcome.summary }

def executeCablePackage (providers : Providers) (now : Time) (surface : SurfaceStatus) :
    SurfaceStatus :=
  match providers.cable with
  | .notConfigured error =>
    { surface with
      state := .notConfigured
      approval := .approved
      health := .unknown
      completedAt := some now
      message := "Cable file package is not set up (optional).".toList
      nextStep := error }
  | .failed error =>
    { surface with
      state := .failed
      approval := .approved
      health := .warning
      completedAt := some now
      message := "Cable file package was not created.".toList
      nextStep := error }
  | .created zipPath verificationHash nextStep =>
    { surface with
      state := .succeeded
      approval := .approved
      health := .ok
      path := some zipPath
      verificationHash := some verificationHash
      completedAt := some now
      message := "Cable file package ZIP and SHA-256 proof were created.".toList
      nextStep := nextStep }

/-! ## Approval and retry -/

/-- One approval: the recording, the request, what is outside, and the clock. -/
structure ApprovalCall where
  asset : Asset
  request : ApprovalRequest
  providers : Providers
  now : Time

namespace ApprovalCall

variable (call : ApprovalCall)

def approvedIds : List Text := call.request.approvedIds call.asset

def override (surface : SurfaceId) : Option Text :=
  (call.request.overrides.find? fun entry => entry.1 = surface.name).map Prod.snd

def Touches (surface : SurfaceId) : Prop :=
  (call.override surface).isSome ∨ surface.name ∈ call.approvedIds

/-- `_blocked_selected_surfaces`: the selected surfaces whose provider is not ready. The portal
and the cable package are not checked. -/
def blockedSelectedSurfaces : List SurfaceId :=
  ((buildInitialSurfaces call.asset).map SurfaceStatus.id).filter fun surface =>
    surface ≠ .portal && surface ≠ .cableFilePackage && (call.override surface).isNone &&
      surface.name ∈ call.approvedIds && call.providers.unhealthy surface

def execute (stored : Option RunRecord) (pair : Option (Proof × Proof)) (surface : SurfaceStatus) :
    Except PublishError (SurfaceStatus × Option (Proof × Proof)) :=
  match surface.id with
  | .portal => .ok (executePortal call.asset call.now surface, pair)
  | .internetArchive => .ok (executeInternetArchive call.providers call.now surface, pair)
  | .localNasRsync | .localNasZfs => .ok (executeNas call.providers call.now pair surface)
  | .youtubeLive => do
    let previous ← getRun stored
    let previous := previous.bind fun run => run.surfaces.find? fun other => other.id = surface.id
    return (executeYoutubeLive call.providers call.request previous call.now surface, pair)
  | .youtubeVod => .ok (executeYoutubeVod call.providers call.now surface, pair)
  | .podcast => do
    return (← executePodcast call.asset call.providers call.now surface, pair)
  | .subscriberNotifications => do
    return (← executeNotifications call.asset call.providers call.now surface, pair)
  | .cableFilePackage => .ok (executeCablePackage call.providers call.now surface, pair)

/-- The loop over the surfaces: what becomes of each, and the events it leaves. -/
def executeAll (stored : Option RunRecord) :
    Option (Proof × Proof) → List SurfaceStatus →
      Except PublishError (List SurfaceStatus × List AuditEvent)
  | _, [] => .ok ([], [])
  | pair, surface :: rest => do
    match call.override surface.id with
    | some justification =>
      let updated := applyOverride surface justification call.now
      let logged ← event call.asset.assetId updated .overridden call.request.operatorId
        updated.message call.now
      let (surfaces, events) ← executeAll stored pair rest
      return (updated :: surfaces, logged :: events)
    | none =>
      if surface.id.name ∈ call.approvedIds then
        let (updated, pair) ← call.execute stored pair surface
        if updated.state = .succeeded then
          let logged ← event call.asset.assetId updated .succeeded call.request.operatorId
            updated.message call.now
          let (surfaces, events) ← executeAll stored pair rest
          return (updated :: surfaces, logged :: events)
        else
          let (surfaces, events) ← executeAll stored pair rest
          return (updated :: surfaces, events)
      else
        let (surfaces, events) ← executeAll stored pair rest
        return (surface :: surfaces, events)

/-- `approve_publish` up to the record it stores. -/
def approvePublish (stored : Option RunRecord) : Except PublishError RunRecord :=
  if !call.request.valid then .error .validation
  else if call.blockedSelectedSurfaces ≠ [] then
    .error (.configuration call.blockedSelectedSurfaces)
  else do
    let (surfaces, events) ← call.executeAll stored none (buildInitialSurfaces call.asset)
    return {
      assetId := call.asset.assetId
      operatorId := call.request.operatorId
      operatorDisplayName := call.request.operatorDisplayName
      approvedAt := call.now
      surfaces := surfaces
      auditEvents := events }

end ApprovalCall

/-- `PublishRetryRequest`; a schedule that is not in the request is `none`. -/
structure RetryRequest where
  operatorId : Text
  operatorDisplayName : Text
  youtubeScheduledStart : Option (Option Time)
  youtubeScheduledEnd : Option (Option Time)
  youtubeChannelId : Option Text
  deriving DecidableEq

/-- One retry: the clock is read again for the attempt and for the event. -/
structure RetryCall where
  asset : Asset
  surfaceId : Text
  request : RetryRequest
  providers : Providers
  now : Time
  attemptedAt : Time
  loggedAt : Time

namespace RetryCall

variable (call : RetryCall)

/-- The approval of one surface that a retry makes of the surfaces so far. -/
def approval (surfaces : List SurfaceStatus) : ApprovalCall where
  asset := call.asset
  providers := call.providers
  now := call.now
  request :=
    let earlier := surfaces.find? fun surface => surface.id.name = call.surfaceId
    { operatorId := call.request.operatorId
      operatorDisplayName := call.request.operatorDisplayName
      approvedSurfaceIds := some [call.surfaceId]
      overrides := []
      youtubeScheduledStart :=
        call.request.youtubeScheduledStart.getD (earlier.bind SurfaceStatus.scheduledStart)
      youtubeScheduledEnd :=
        call.request.youtubeScheduledEnd.getD (earlier.bind SurfaceStatus.scheduledEnd)
      youtubeChannelId :=
        (call.request.youtubeChannelId.filter (· ≠ [])).or (earlier.bind SurfaceStatus.channelId) }

/-- The surfaces so far: those of the stored run, or the initial ones. -/
def previousSurfaces (previous : Option RunRecord) : List SurfaceStatus :=
  previous.elim (buildInitialSurfaces call.asset) RunRecord.surfaces

/-- The surface that was retried: one more retry than the last surface under its id. -/
def retriedSurface (surfaces : List SurfaceStatus) (found : SurfaceStatus) : SurfaceStatus :=
  let earlier := (surfaces.reverse.find? fun surface => surface.id.name = call.surfaceId).getD found
  { found with
    retryCount := earlier.retryCount + 1
    lastAttemptAt := some call.attemptedAt }

/-- `retry_publish_surface` up to the record it stores. -/
def retryPublishSurface (stored : Option RunRecord) : Except PublishError RunRecord :=
  if call.surfaceId ∉ (buildInitialSurfaces call.asset).map fun surface => surface.id.name then
    .error (.unknownSurface call.surfaceId)
  else do
    let previous ← getRun stored
    let surfaces := call.previousSurfaces previous
    let retried ← (call.approval surfaces).approvePublish previous
    match retried.surfaces.find? fun surface => surface.id.name = call.surfaceId with
    | none => throw .validation
    | some found =>
      let updated := call.retriedSurface surfaces found
      let logged ← event call.asset.assetId updated .retried call.request.operatorId
        (updated.label ++ " was retried by the operator.".toList) call.loggedAt
      return {
        assetId := call.asset.assetId
        operatorId := call.request.operatorId
        operatorDisplayName := call.request.operatorDisplayName
        approvedAt := (previous.map RunRecord.approvedAt).getD retried.approvedAt
        surfaces := surfaces.map fun surface =>
          if surface.id.name = call.surfaceId then updated else surface
        auditEvents :=
          (previous.elim [] RunRecord.auditEvents) ++ [logged] ++ retried.auditEvents }

end RetryCall

end CivicCast.Publish
