import CivicCast.Lib.Table

/-! # Live takeover: the audit record, the queued command, the override in memory

A takeover lives in three places. `TakeoverService` writes a session into the audit
store and queues a command; the daemon pops the queue and processes the commands
one by one; `PlayoutSupervisor` keeps the live plan that is to be on air in a
dictionary. This module follows the three for one channel.

* `prepareTake`, `take`, `handback` are the service's requests; each is one step.
* `pop` and `process` are the daemon's side; requests may come between any two.
* `Agree` says that the override is the plan of the open session.

The override is not durable and gives way to a forced slate, and a command that is
processed while the channel is disabled is dropped; the session stays as it is. So
the record and the air drift apart by design, until the next takeover or handback
takes effect (`displaced`).
-/

namespace CivicCast.Egress

open List

namespace Takeover

/-- Microseconds since the epoch. -/
abbrev Instant := Int

/-! ## Live ingest paths -/

inductive RelayHealth where
  | notConfigured
  | ready
  | degraded
  | offline
deriving DecidableEq

/-- `LiveIngestPath`, as far as a takeover reads it. -/
structure LiveIngestPath where
  pathId : String
  label : String
  endpointUrl : String
  returnPlaybackUrl : Option String
  enabled : Bool
  healthState : RelayHealth
deriving DecidableEq

structure LiveIngestPlan where
  channelId : String
  localDefault : LiveIngestPath
  relayPaths : List LiveIngestPath
  recommendedPathId : String
deriving DecidableEq

def LiveIngestPlan.paths (plan : LiveIngestPlan) : List LiveIngestPath :=
  plan.localDefault :: plan.relayPaths

/-- A source plan of one live segment. -/
structure LivePlan where
  channelId : String
  label : String
  path : String
  durationSeconds : ℚ
  sourceRef : String
  secretRef : Option String
deriving DecidableEq

/-- Why no live source could be prepared. -/
inductive NotReady where
  | noConfig
  | disabled
  | planChannel (channelId : String)
  | duration
  | pathNotFound (pathId : String)
  | pathDisabled (pathId : String)
  | pathNotReady (pathId : String) (health : RelayHealth)
  | noUrl (pathId : String)
  | segmentRefused
  | verdict (reason : String)
deriving DecidableEq

inductive TakeoverError where
  | alreadyLive
  | notInTakeover
  | notReady (why : NotReady)
  /-- The session model refuses a value. -/
  | sessionRefused
deriving DecidableEq

/-- Python's `a or b` on strings: an empty string counts as absent. -/
def pyOr (a : Option String) (b : String) : String :=
  match a with
  | some "" => b
  | some s => s
  | none => b

/-- A length between `lo` and `hi`. -/
def fits (lo hi : Nat) (s : String) : Bool := lo ≤ s.length && s.length ≤ hi

def selectLivePath (plan : LiveIngestPlan) (pathId : Option String) :
    Except NotReady LiveIngestPath :=
  let selected := pyOr pathId plan.recommendedPathId
  match plan.paths.find? fun p => p.pathId = selected with
  | some path => .ok path
  | none => .error (.pathNotFound selected)

def buildLiveTakeoverSourcePlan (channelId : String) (plan : LiveIngestPlan)
    (pathId : Option String) (durationSeconds : ℚ) : Except NotReady LivePlan := do
  if plan.channelId ≠ channelId then throw (.planChannel plan.channelId)
  if durationSeconds ≤ 0 then throw .duration
  let path ← selectLivePath plan pathId
  if !path.enabled then throw (.pathDisabled path.pathId)
  if path.healthState ≠ .ready then throw (.pathNotReady path.pathId path.healthState)
  let url := pyOr path.returnPlaybackUrl path.endpointUrl
  if url = "" then throw (.noUrl path.pathId)
  let label := "Live: " ++ path.label
  if fits 1 200 label && fits 1 1000 url && fits 0 200 path.pathId && fits 1 80 channelId then
    return { channelId := channelId, label := label, path := url
             durationSeconds := durationSeconds, sourceRef := path.pathId, secretRef := none }
  else throw .segmentRefused

/-- The stored plan reads back as a plan: the credential handle, attached without a
check, is checked here. -/
def LivePlan.readable (plan : LivePlan) : Bool := plan.secretRef.all (fits 0 200)

/-- `_validate_live_takeover_plan`; a plan of this type begins with its live segment. -/
def LivePlan.validFor (plan : LivePlan) (channelId : String) : Bool := plan.channelId = channelId

/-! ## The audit store -/

structure TakeoverSession where
  sessionId : String
  channelId : String
  sourceRef : String
  sourceLabel : String
  operatorId : String
  operatorName : Option String
  reason : Option String
  tookOverAt : Instant
  returnedAt : Option Instant
  sourcePlan : LivePlan
  notes : Option String
deriving DecidableEq

/-- The channel's rows of `takeover_audit`. -/
abbrev AuditStore := Lib.Table TakeoverSession String TakeoverSession.sessionId

namespace AuditStore

def openSessions (a : AuditStore) : List TakeoverSession :=
  a.rows.filter fun s => s.returnedAt.isNone

/-- `get_active`: of the open sessions, the one started last. -/
def getActive (a : AuditStore) : Option TakeoverSession :=
  (openSessions a).foldl
    (fun best s =>
      match best with
      | none => some s
      | some b => if b.tookOverAt < s.tookOverAt then some s else some b)
    none

/-- `append`; a session id in use is refused by the primary key. -/
def append (a : AuditStore) (s : TakeoverSession) : Option AuditStore :=
  if h : a.get s.sessionId = none then some (a.insert s h) else none

def close (a : AuditStore) (sessionId : String) (returnedAt : Instant) (notes : Option String) :
    AuditStore :=
  a.modify sessionId
    (fun s => { s with returnedAt := some returnedAt, notes := notes.orElse fun _ => s.notes })
    fun _ => rfl

end AuditStore

/-! ## The command queue -/

inductive Action where
  | start
  | stop
  | reload
  | drain
  | takeover
  | handback
deriving DecidableEq

structure EgressCommand where
  action : Action
  issuedAt : Instant
  issuedBy : String
  commandId : String
deriving DecidableEq

/-- The order in which commands are popped: by time, then by id. -/
def EgressCommand.before (c d : EgressCommand) : Prop :=
  c.issuedAt < d.issuedAt ∨ c.issuedAt = d.issuedAt ∧ c.commandId ≤ d.commandId

instance (c d : EgressCommand) : Decidable (c.before d) := inferInstanceAs (Decidable (_ ∨ _))

/-- What exists for one channel: its configuration (`none` when there is none, else
whether it is enabled), the audit rows, the queue, the batch the daemon has popped
and not yet processed, and the supervisor's overrides. -/
structure Channel where
  channelId : String
  config : Option Bool
  audit : AuditStore
  pending : List EgressCommand
  consumedIds : List String
  batch : List EgressCommand
  livePlan : Option LivePlan
  forcedSlateReason : Option String
  /-- Something other than a takeover or a handback has decided the override last,
  or a handback that a newer session has outrun. -/
  displaced : Bool

/-- An enabled channel before anything happened. -/
def Channel.init (channelId : String) : Channel where
  channelId := channelId
  config := some true
  audit := .empty
  pending := []
  consumedIds := []
  batch := []
  livePlan := none
  forcedSlateReason := none
  displaced := false

namespace Channel

/-- `enqueue_command`: an id already pending or consumed is ignored. -/
def enqueue (c : Channel) (cmd : EgressCommand) : Channel :=
  if cmd.commandId ∈ c.consumedIds ∨ c.pending.any (fun d => d.commandId = cmd.commandId) then c
  else { c with pending := c.pending ++ [cmd] }

/-- `pop_pending_commands`. -/
def pop (c : Channel) : Channel :=
  { c with
    pending := []
    consumedIds := c.consumedIds ++ c.pending.map (·.commandId)
    batch := c.pending.insertionSort EgressCommand.before }

end Channel

/-! ## Requests -/

/-- What a take request brings along: its arguments, the answers of the ingest plan
provider, the readiness verifier (`none` when there is none), the clock and the id
factory. -/
structure TakeRequest where
  operatorId : String
  operatorName : Option String
  reason : Option String
  pathId : Option String
  durationSeconds : ℚ
  ingestPlan : LiveIngestPlan
  /-- The refusal, or the credential handle of the source. -/
  verdict : Option (Except String (Option String))
  now : Instant
  token : String

/-- The plan that goes into the session: the verifier may refuse it or attach a
credential handle. -/
def verified (plan : LivePlan) : Option (Except String (Option String)) → Except NotReady LivePlan
  | none => .ok plan
  | some verdict =>
    if plan.sourceRef = "" then .ok plan
    else
      match verdict with
      | .error reason => .error (.verdict reason)
      | .ok none => .ok plan
      | .ok (some "") => .ok plan
      | .ok (some secret) => .ok { plan with secretRef := some secret }

def TakeRequest.session (r : TakeRequest) (channelId : String) (plan : LivePlan) :
    TakeoverSession where
  sessionId := "takeover-" ++ r.token
  channelId := channelId
  sourceRef := pyOr (some plan.sourceRef) (pyOr r.pathId r.ingestPlan.recommendedPathId)
  sourceLabel := plan.label
  operatorId := r.operatorId
  operatorName := r.operatorName
  reason := r.reason
  tookOverAt := r.now
  returnedAt := none
  sourcePlan := plan
  notes := none

/-- The lengths the session model asks for. -/
def TakeoverSession.accepted (s : TakeoverSession) : Bool :=
  fits 1 120 s.sessionId && fits 1 80 s.channelId && fits 1 160 s.sourceRef &&
    fits 1 160 s.sourceLabel && fits 1 120 s.operatorId &&
    s.operatorName.all (fits 0 160)

/-- `prepare_take`: everything is checked before anything is written. -/
def prepareTake (c : Channel) (r : TakeRequest) : Except TakeoverError TakeoverSession :=
  match c.config with
  | none => .error (.notReady .noConfig)
  | some false => .error (.notReady .disabled)
  | some true =>
    if (AuditStore.getActive c.audit).isSome then .error .alreadyLive
    else do
      let plan ← (buildLiveTakeoverSourcePlan c.channelId r.ingestPlan r.pathId
        r.durationSeconds).mapError .notReady
      let plan ← (verified plan r.verdict).mapError .notReady
      let session := r.session c.channelId plan
      if session.accepted then return session else throw .sessionRefused

/-- `take`: the session is stored before the command is queued. -/
def take (c : Channel) (r : TakeRequest) : Except TakeoverError Channel := do
  let session ← prepareTake c r
  match AuditStore.append c.audit session with
  | none => throw .sessionRefused
  | some audit =>
    return { c with audit := audit }.enqueue
      { action := .takeover, issuedAt := r.now, issuedBy := r.operatorId
        commandId := "takeover-" ++ r.token }

/-- `handback`: the command is queued, then the session is closed. -/
def handback (c : Channel) (operatorId : String) (notes : Option String) (now : Instant)
    (token : String) : Except TakeoverError Channel :=
  match AuditStore.getActive c.audit with
  | none => .error .notInTakeover
  | some active =>
    let c := c.enqueue
      { action := .handback, issuedAt := now, issuedBy := operatorId
        commandId := "handback-" ++ token }
    .ok { c with audit := AuditStore.close c.audit active.sessionId now notes }

/-! ## The daemon -/

namespace Channel

def disabled (c : Channel) : Bool := c.config = some false

/-- `request_live_takeover`, up to the reload it asks for. -/
def requestLiveTakeover (c : Channel) (plan : LivePlan) : Channel :=
  { c with forcedSlateReason := none, livePlan := some plan, displaced := false }

/-- `request_live_handback`. A session that is open by now has a plan of its own,
which this takes off again. -/
def requestLiveHandback (c : Channel) : Channel :=
  { c with livePlan := none, displaced := (AuditStore.getActive c.audit).isSome }

def requestFallbackSlate (c : Channel) (reason : String) : Channel :=
  if reason = "" then c
  else { c with forcedSlateReason := some reason, livePlan := none, displaced := true }

def requestSlateExit (c : Channel) : Channel := { c with forcedSlateReason := none }

/-- `_consume_takeover`: the plan is that of the session open by now. -/
def consumeTakeover (c : Channel) : Channel :=
  match AuditStore.getActive c.audit with
  | none => c
  | some session =>
    if session.sourcePlan.readable ∧ session.sourcePlan.validFor c.channelId then
      c.requestLiveTakeover session.sourcePlan
    else { c with displaced := true }

/-- `_process_command`, as far as it touches the overrides. -/
def processCommand (c : Channel) : Action → Channel
  | .takeover => if c.disabled then { c with displaced := true } else c.consumeTakeover
  | .handback => if c.disabled then { c with displaced := true } else c.requestLiveHandback
  | _ => c

def process (c : Channel) : Channel :=
  match c.batch with
  | [] => c
  | cmd :: rest => { c with batch := rest }.processCommand cmd.action

/-- The daemon restarts: its memory is gone, and with it what it had popped. -/
def restart (c : Channel) : Channel :=
  { c with batch := [], livePlan := none, forcedSlateReason := none, displaced := true }

/-- Nothing is queued and nothing popped is left to process. -/
def Drained (c : Channel) : Prop := c.pending = [] ∧ c.batch = []

instance (c : Channel) : Decidable c.Drained := inferInstanceAs (Decidable (_ ∧ _))

/-- The override is the plan of the open session. -/
def Agree (c : Channel) : Prop :=
  c.livePlan = (AuditStore.getActive c.audit).map (·.sourcePlan)

instance (c : Channel) : Decidable c.Agree := inferInstanceAs (Decidable (_ = _))

end Channel

/-! ## Histories -/

inductive Event where
  | take (r : TakeRequest)
  | handback (operatorId : String) (notes : Option String) (now : Instant) (token : String)
  | enqueue (cmd : EgressCommand)
  | setConfig (config : Option Bool)
  | fallbackSlate (reason : String)
  | slateExit
  | pop
  | process
  | restart

namespace Channel

def unused (c : Channel) (commandId : String) : Bool :=
  commandId ∉ c.consumedIds && c.pending.all fun d => d.commandId ≠ commandId

/-- One event. A refused request leaves everything as it is. There is no step when
the id factory repeats itself, when a takeover or handback is queued by other hands,
or when the daemon pops while it still has commands to process. -/
def step (c : Channel) : Event → Option Channel
  | .take r =>
    if c.unused ("takeover-" ++ r.token) then
      match Takeover.take c r with
      | .ok c' => some c'
      | .error _ => some c
    else none
  | .handback operatorId notes now token =>
    if c.unused ("handback-" ++ token) then
      match Takeover.handback c operatorId notes now token with
      | .ok c' => some c'
      | .error _ => some c
    else none
  | .enqueue cmd =>
    if cmd.action = .takeover ∨ cmd.action = .handback then none else some (c.enqueue cmd)
  | .setConfig config => some { c with config := config }
  | .fallbackSlate reason => some (c.requestFallbackSlate reason)
  | .slateExit => some c.requestSlateExit
  | .pop => if c.batch = [] then some c.pop else none
  | .process => some c.process
  | .restart => some c.restart

def run : Channel → List Event → Option Channel
  | c, [] => some c
  | c, ev :: rest => (c.step ev).bind fun c' => c'.run rest

end Channel

/-! ## At most one open session -/

namespace AuditStore

variable {a a' : AuditStore} {s : TakeoverSession}

lemma getActive_of_nil (h : openSessions a = []) : getActive a = none := by
  simp [getActive, h]

lemma getActive_of_singleton (h : openSessions a = [s]) : getActive a = some s := by
  simp [getActive, h]

/-- A take finds no open session, so afterwards its own is the only one. -/
lemma openSessions_append (h : append a s = some a') (ha : openSessions a = [])
    (hs : s.returnedAt = none) : openSessions a' = [s] := by
  unfold append at h
  split at h
  · injection h with h
    subst h
    have ha : a.rows.filter (fun s => s.returnedAt.isNone) = [] := ha
    simp [openSessions, Lib.Table.insert, filter_append, ha, hs]
  · cases h

lemma openSessions_close (now : Instant) (notes : Option String) (ha : openSessions a = [s]) :
    openSessions (close a s.sessionId now notes) = [] := by
  rw [openSessions, filter_eq_nil_iff]
  intro row hrow
  rcases mem_map.mp hrow with ⟨row₀, hrow₀, rfl⟩
  split
  · simp
  · rename_i hid
    intro hopen
    have hmem : row₀ ∈ openSessions a := mem_filter.mpr ⟨hrow₀, hopen⟩
    rw [ha, mem_singleton] at hmem
    exact hid (by rw [hmem])

end AuditStore

/-! ## The invariant -/

namespace Channel

def queued (c : Channel) : List EgressCommand := c.batch ++ c.pending

/-- A command with this action is still to be processed. -/
def Awaits (c : Channel) (a : Action) : Prop := ∃ cmd ∈ c.queued, cmd.action = a

/-- At most one session is open. Its plan is on air, or its takeover is still to be
processed; without one no plan is, or a handback is still to be processed. -/
structure Inv (c : Channel) : Prop where
  one : AuditStore.openSessions c.audit = [] ∨ ∃ s, AuditStore.openSessions c.audit = [s]
  live : ∀ s, AuditStore.getActive c.audit = some s →
    c.Awaits .takeover ∨ c.displaced = true ∨ c.livePlan = some s.sourcePlan
  idle : AuditStore.getActive c.audit = none →
    c.Awaits .handback ∨ c.displaced = true ∨ c.livePlan = none

lemma inv_init (channelId : String) : (init channelId).Inv := by
  constructor
  · exact .inl rfl
  · intro s hs
    cases hs
  · intro _
    exact .inr (.inr rfl)

variable {c c' : Channel} {cmd : EgressCommand} {a : Action} {r : TakeRequest} {s : TakeoverSession}
  {rest : List EgressCommand} {evs : List Event}

lemma enqueue_of_unused (h : c.unused cmd.commandId) :
    c.enqueue cmd = { c with pending := c.pending ++ [cmd] } := by
  unfold unused at h
  rw [Bool.and_eq_true, decide_eq_true_iff, all_eq_true] at h
  unfold enqueue
  rw [if_neg]
  rintro (hmem | hany)
  · exact h.1 hmem
  · rcases any_eq_true.mp hany with ⟨d, hd, heq⟩
    simp_all

lemma awaits_enqueue_self (h : c.unused cmd.commandId) : (c.enqueue cmd).Awaits cmd.action := by
  rw [enqueue_of_unused h]
  refine ⟨cmd, ?_, rfl⟩
  simp [queued]

lemma Awaits.enqueue (h : c.Awaits a) : (c.enqueue cmd).Awaits a := by
  unfold Channel.enqueue
  split
  · exact h
  · rcases h with ⟨d, hd, hda⟩
    refine ⟨d, ?_, hda⟩
    rcases mem_append.mp hd with hd | hd
    · exact mem_append_left _ hd
    · exact mem_append_right _ (mem_append_left _ hd)

lemma Awaits.pop (h : c.Awaits a) (hbatch : c.batch = []) : c.pop.Awaits a := by
  rcases h with ⟨d, hd, hda⟩
  refine ⟨d, ?_, hda⟩
  rw [queued, hbatch, nil_append] at hd
  simpa [queued, Channel.pop] using hd

@[simp] lemma enqueue_audit : (c.enqueue cmd).audit = c.audit := by
  unfold enqueue
  split <;> rfl

@[simp] lemma enqueue_livePlan : (c.enqueue cmd).livePlan = c.livePlan := by
  unfold enqueue
  split <;> rfl

@[simp] lemma enqueue_displaced : (c.enqueue cmd).displaced = c.displaced := by
  unfold enqueue
  split <;> rfl

/-- A take that is not refused found no open session and prepared an open one. -/
lemma prepareTake_ok (h : prepareTake c r = .ok s) :
    AuditStore.getActive c.audit = none ∧ s.returnedAt = none := by
  unfold prepareTake at h
  split at h
  · cases h
  · cases h
  · split at h
    · cases h
    · rename_i hactive
      constructor
      · simpa using hactive
      · -- whatever plan was prepared, the session is built open
        cases hbuild : (buildLiveTakeoverSourcePlan c.channelId r.ingestPlan r.pathId
            r.durationSeconds).mapError TakeoverError.notReady with
        | error e => simp [hbuild, bind, Except.bind] at h
        | ok plan =>
          cases hverified : (verified plan r.verdict).mapError TakeoverError.notReady with
          | error e => simp [hbuild, hverified, bind, Except.bind] at h
          | ok plan' =>
            simp only [hbuild, hverified, bind, Except.bind] at h
            split at h
            · injection h with h
              rw [← h]
              rfl
            · cases h

/-! ## Steps -/

variable (h : c.Inv)
include h

lemma Inv.openSessions_of_idle (hidle : AuditStore.getActive c.audit = none) :
    AuditStore.openSessions c.audit = [] := by
  rcases h.one with hnil | ⟨s, hs⟩
  · exact hnil
  · rw [AuditStore.getActive_of_singleton hs] at hidle
    cases hidle

lemma Inv.openSessions_of_live
    (hlive : AuditStore.getActive c.audit = some s) : AuditStore.openSessions c.audit = [s] := by
  rcases h.one with hnil | ⟨s', hs'⟩
  · rw [AuditStore.getActive_of_nil hnil] at hlive
    cases hlive
  · rw [AuditStore.getActive_of_singleton hs'] at hlive
    injection hlive with hlive
    rw [hs', hlive]

lemma Inv.take (hid : c.unused ("takeover-" ++ r.token))
    (htake : Takeover.take c r = .ok c') : c'.Inv := by
  unfold Takeover.take at htake
  cases hprepare : prepareTake c r with
  | error e => simp [hprepare, bind, Except.bind] at htake
  | ok s =>
    rcases prepareTake_ok hprepare with ⟨hidle, hopen⟩
    simp only [hprepare, bind, Except.bind] at htake
    split at htake
    · cases htake
    · rename_i audit happend
      injection htake with htake
      subst htake
      have hone := AuditStore.openSessions_append happend (h.openSessions_of_idle hidle) hopen
      have hactive := AuditStore.getActive_of_singleton hone
      constructor
      · rw [enqueue_audit]
        exact .inr ⟨s, hone⟩
      · intro _ _
        exact .inl (awaits_enqueue_self hid)
      · intro hnone
        rw [enqueue_audit] at hnone
        rw [hactive] at hnone
        cases hnone

lemma Inv.handback {operatorId : String} {notes : Option String} {now : Instant} {token : String}
    (hid : c.unused ("handback-" ++ token))
    (hback : Takeover.handback c operatorId notes now token = .ok c') : c'.Inv := by
  unfold Takeover.handback at hback
  cases hactive : AuditStore.getActive c.audit with
  | none => simp [hactive] at hback
  | some s =>
    simp only [hactive] at hback
    injection hback with hback
    subst hback
    have hnil := AuditStore.openSessions_close now notes (h.openSessions_of_live hactive)
    constructor
    · exact .inl (by simpa using hnil)
    · intro s' hs'
      have hnone := AuditStore.getActive_of_nil hnil
      simp only [enqueue_audit] at hs'
      rw [hnone] at hs'
      cases hs'
    · intro _
      exact .inl (awaits_enqueue_self hid)

/-- Once the override is displaced, only the sessions count. -/
lemma Inv.of_displaced (haudit : c'.audit = c.audit) (hdisplaced : c'.displaced) : c'.Inv := by
  constructor
  · rw [haudit]
    exact h.one
  · intro _ _
    exact .inr (.inl hdisplaced)
  · intro _
    exact .inr (.inl hdisplaced)

/-- A takeover puts the plan of the open session on air. -/
lemma Inv.consumeTakeover (hbatch : c.batch = cmd :: rest) (hcmd : cmd.action = .takeover) :
    ({ c with batch := rest }.consumeTakeover).Inv := by
  unfold Channel.consumeTakeover
  cases hactive : AuditStore.getActive c.audit with
  | none =>
    -- ignored: the handback that closed the session is still to come, or came
    constructor
    · exact h.one
    · intro s hs
      rw [hactive] at hs
      cases hs
    · intro _
      rcases h.idle hactive with ⟨d, hd, hda⟩ | hrest
      · left
        refine ⟨d, ?_, hda⟩
        rw [queued, hbatch, cons_append] at hd
        rcases mem_cons.mp hd with rfl | hd
        · rw [hcmd] at hda
          cases hda
        · exact hd
      · exact .inr hrest
  | some s =>
    simp only
    split
    · constructor
      · exact h.one
      · intro s' hs'
        have hs' : AuditStore.getActive c.audit = some s' := hs'
        rw [hactive] at hs'
        injection hs' with hs'
        rw [← hs']
        exact .inr (.inr rfl)
      · intro hnone
        have hnone : AuditStore.getActive c.audit = none := hnone
        rw [hactive] at hnone
        cases hnone
    · apply h.of_displaced <;> rfl

/-- A handback takes the plan off air; with no session open that is as it should be. -/
lemma Inv.requestLiveHandback : ({ c with batch := rest }.requestLiveHandback).Inv := by
  constructor
  · exact h.one
  · intro s hs
    right
    left
    have hs : AuditStore.getActive c.audit = some s := hs
    simp [Channel.requestLiveHandback, hs]
  · intro _
    exact .inr (.inr rfl)

lemma Inv.process : c.process.Inv := by
  unfold Channel.process
  split
  · exact h
  · rename_i cmd rest hbatch
    -- any other command leaves the overrides alone and is not waited for
    have hother : cmd.action ≠ .takeover → cmd.action ≠ .handback →
        ({ c with batch := rest } : Channel).Inv := by
      intro htake hback
      have hawaits : ∀ a, cmd.action ≠ a → c.Awaits a →
          ({ c with batch := rest } : Channel).Awaits a := by
        rintro a ha ⟨d, hd, hda⟩
        refine ⟨d, ?_, hda⟩
        rw [queued, hbatch, cons_append] at hd
        rcases mem_cons.mp hd with rfl | hd
        · exact absurd hda ha
        · exact hd
      constructor
      · exact h.one
      · intro s hs
        exact (h.live s hs).imp_left (hawaits _ htake)
      · intro hnone
        exact (h.idle hnone).imp_left (hawaits _ hback)
    cases hcmd : cmd.action with
    | takeover =>
      simp only [processCommand]
      split
      · apply h.of_displaced <;> rfl
      · exact h.consumeTakeover hbatch hcmd
    | handback =>
      simp only [processCommand]
      split
      · apply h.of_displaced <;> rfl
      · exact h.requestLiveHandback
    | start | stop | reload | drain => exact hother (by simp [hcmd]) (by simp [hcmd])

lemma Inv.step {ev : Event} (hstep : c.step ev = some c') : c'.Inv := by
  cases ev with
  | take r =>
    simp only [Channel.step] at hstep
    split at hstep
    · rename_i hid
      split at hstep
      · rename_i c₁ htake
        cases hstep
        exact h.take hid htake
      · cases hstep
        exact h
    · cases hstep
  | handback operatorId notes now token =>
    simp only [Channel.step] at hstep
    split at hstep
    · rename_i hid
      split at hstep
      · rename_i c₁ hback
        cases hstep
        exact h.handback hid hback
      · cases hstep
        exact h
    · cases hstep
  | enqueue cmd =>
    simp only [Channel.step] at hstep
    split at hstep
    · cases hstep
    · cases hstep
      constructor
      · rw [enqueue_audit]
        exact h.one
      · intro s hs
        rw [enqueue_audit] at hs
        rw [enqueue_displaced, enqueue_livePlan]
        exact (h.live s hs).imp_left Awaits.enqueue
      · intro hnone
        rw [enqueue_audit] at hnone
        rw [enqueue_displaced, enqueue_livePlan]
        exact (h.idle hnone).imp_left Awaits.enqueue
  | setConfig config =>
    cases hstep
    exact ⟨h.one, h.live, h.idle⟩
  | fallbackSlate reason =>
    -- the slate displaces the live plan, unless it is there already
    cases hstep
    unfold Channel.requestFallbackSlate
    split
    · exact h
    · apply h.of_displaced <;> rfl
  | slateExit =>
    cases hstep
    exact ⟨h.one, h.live, h.idle⟩
  | pop =>
    simp only [Channel.step] at hstep
    split at hstep
    · rename_i hbatch
      cases hstep
      constructor
      · exact h.one
      · intro s hs
        exact (h.live s hs).imp_left fun hawaits => hawaits.pop hbatch
      · intro hnone
        exact (h.idle hnone).imp_left fun hawaits => hawaits.pop hbatch
    · cases hstep
  | process =>
    cases hstep
    exact h.process
  | restart =>
    cases hstep
    apply h.of_displaced <;> rfl

lemma Inv.run (hrun : c.run evs = some c') : c'.Inv := by
  induction evs generalizing c with
  | nil =>
    injection hrun with hrun
    rw [← hrun]
    exact h
  | cons ev rest ih =>
    rcases Option.bind_eq_some_iff.mp hrun with ⟨c₁, hstep, hrest⟩
    exact ih (h.step hstep) hrest

omit h

lemma Drained.not_awaits (h : c.Drained) : ¬ c.Awaits a := by
  rintro ⟨d, hd, _⟩
  simp [queued, h.1, h.2] at hd

/-- After every history: once the queue is drained, the record and the air agree,
unless something else than a takeover or a handback decided the override last. -/
theorem record_agrees_with_air {channelId : String} {evs : List Event}
    (hrun : (init channelId).run evs = some c) (hdrained : c.Drained)
    (hdisplaced : c.displaced = false) : c.Agree := by
  have h := (inv_init channelId).run hrun
  unfold Agree
  cases hactive : AuditStore.getActive c.audit with
  | none =>
    rcases h.idle hactive with hawaits | htrue | hplan
    · exact absurd hawaits hdrained.not_awaits
    · rw [hdisplaced] at htrue
      cases htrue
    · rw [hplan]
      rfl
  | some s =>
    rcases h.live s hactive with hawaits | htrue | hplan
    · exact absurd hawaits hdrained.not_awaits
    · rw [hdisplaced] at htrue
      cases htrue
    · rw [hplan]
      rfl

/-! ### Two concrete histories -/

def studioFeed : LiveIngestPath where
  pathId := "studio"
  label := "Studio"
  endpointUrl := "srt://studio"
  returnPlaybackUrl := none
  enabled := true
  healthState := .ready

def takeStudio : TakeRequest where
  operatorId := "operator"
  operatorName := none
  reason := none
  pathId := none
  durationSeconds := 3600
  ingestPlan :=
    { channelId := "main", localDefault := studioFeed, relayPaths := []
      recommendedPathId := "studio" }
  verdict := none
  now := 0
  token := "a"

def goLive : List Event := [.take takeStudio, .pop, .process]

/-- A forced slate pushes the live source off air. -/
def goLiveThenSlate : List Event := goLive ++ [Event.fallbackSlate "emergency"]

def endOf (evs : List Event) : Channel := ((init "main").run evs).getD (init "main")

lemma run_endOf (h : ((init "main").run evs).isSome) :
    (init "main").run evs = some (endOf evs) := by
  rcases Option.isSome_iff_exists.mp h with ⟨c, hc⟩
  rw [endOf, hc]
  rfl

theorem record_agrees_with_air_goLive :
    (endOf goLive).Agree ∧ (endOf goLive).livePlan.isSome := by
  have hrun := run_endOf (show ((init "main").run goLive).isSome by decide +kernel)
  constructor
  · exact record_agrees_with_air hrun (by decide +kernel) (by decide +kernel)
  · decide +kernel

/-- The session stays open while the slate is on air. -/
theorem slate_leaves_session_open : ¬ ∀ (channelId : String) (evs : List Event) (c : Channel),
    (init channelId).run evs = some c → c.config = some true → c.Drained → c.Agree := by
  intro h
  have hrun := run_endOf (show ((init "main").run goLiveThenSlate).isSome by decide +kernel)
  have hagree := h "main" goLiveThenSlate (endOf goLiveThenSlate) hrun (by decide +kernel)
    (by decide +kernel)
  revert hagree
  decide +kernel

end Channel

end Takeover

end CivicCast.Egress
