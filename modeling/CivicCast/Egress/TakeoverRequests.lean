import CivicCast.Egress.Takeover
import CivicCast.Lib.Interleave

/-! # Takeover requests side by side

`TakeoverService.take` and the go-on-air of a live session both look for an open takeover of
their channel, and insert one later. A call of a store is a transaction, and one step; the
transition of a live session is one transaction of several statements, which read what is
committed when they run, and whose writes are seen from its commit on.

No key or index of `takeover_audit` keeps two open sessions of one channel apart, so a second
request can insert between the check and the insert of the first. `one_live_takeover` is over
every interleaving in which that does no harm: what was inserted since a request looked is
closed again when it inserts. `two_operators_live` is one in which it does.

`World` is what the requests share, for all channels. The session and the live plan of a
request are those of `Takeover`; the answers of the ingest plan provider and of the readiness
verifier come with the request.
-/

namespace CivicCast.Egress

namespace Takeover

open Lib Lib.Prog List Function Option

/-! ## Open sessions of a channel -/

namespace AuditStore

def openOn (a : AuditStore) (channelId : String) : List TakeoverSession :=
  (openSessions a).filter fun s => s.channelId = channelId

def latest (sessions : List TakeoverSession) : Option TakeoverSession :=
  sessions.foldl
    (fun best s =>
      match best with
      | none => some s
      | some b => if b.tookOverAt < s.tookOverAt then some s else some b)
    none

/-- `get_active`, where the store has the rows of all channels. -/
def activeOn (a : AuditStore) (channelId : String) : Option TakeoverSession :=
  latest (openOn a channelId)

end AuditStore

/-! ## Live sessions -/

inductive LiveState where
  | idle
  | preflight
  | onAir
  | ending
  | recorded
deriving DecidableEq

structure LiveSession where
  liveSessionId : String
  channelId : String
  state : LiveState
deriving DecidableEq

/-- The transitions of `_TRANSITIONS`. -/
inductive Transition where
  | startPreflight
  | goOnAir
  | endBroadcast
  | markRecorded
deriving DecidableEq

def Transition.expected : Transition → LiveState
  | startPreflight => .idle
  | goOnAir => .preflight
  | endBroadcast => .onAir
  | markRecorded => .ending

def Transition.new : Transition → LiveState
  | startPreflight => .preflight
  | goOnAir => .onAir
  | endBroadcast => .ending
  | markRecorded => .recorded

/-- What a transition does besides the state: a takeover to insert, or the handback of the
session's own takeover. -/
inductive Rider where
  | none
  | takeover (session : TakeoverSession)
  | handback (operatorId : String) (endedAt : Instant)

/-! ## Calls -/

/-- The writes of a transition, committed together. -/
structure LiveWrites where
  liveSessionId : String
  state : LiveState
  insert : Option TakeoverSession := none
  close : Option (String × Instant) := none
  command : Option EgressCommand := none

inductive Op where
  | getConfig (channelId : String)
  | getActive (channelId : String)
  | append (session : TakeoverSession)
  | enqueueCommand (command : EgressCommand)
  | close (sessionId : String) (returnedAt : Instant) (notes : Option String)
  | getSession (liveSessionId : String)
  /-- The conditional `UPDATE` of a transition: did it match? -/
  | updateWhere (liveSessionId : String) (expected : LiveState)
  /-- The row that the transition has updated. -/
  | selectUpdated (liveSessionId : String)
  /-- Is there an open takeover, in the transaction of a transition? -/
  | selectOpen (channelId : String)
  | getTakeover (sessionId : String)
  | rollback (liveSessionId : String)
  | commit (writes : LiveWrites)

def Op.Res : Op → Type
  | getConfig _ => Option Bool
  | getActive _ => Option TakeoverSession
  /- `false` is the refusal of the primary key. -/
  | append _ => Bool
  | enqueueCommand _ => Unit
  | close _ _ _ => Unit
  | getSession _ => Option LiveSession
  | updateWhere _ _ => Bool
  | selectUpdated _ => Option LiveSession
  | selectOpen _ => Bool
  | getTakeover _ => Option TakeoverSession
  | rollback _ => Unit
  | commit _ => Bool

abbrev takeoverIface : Iface where
  Op := Op
  Ans := Op.Res

inductive RequestError where
  | takeover (error : TakeoverError)
  | liveSessionNotFound
  | liveSessionState
  | preflightFailed
  | channelsDiffer
  /-- A primary key is in use. -/
  | integrity
deriving DecidableEq

abbrev TakeoverM := Prog takeoverIface RequestError

def ask (o : Op) : TakeoverM o.Res := .call o .ret

/-! ## Requests to the service -/

/-- What `prepare_take` does once it has found no open session. -/
def TakeRequest.prepared (r : TakeRequest) (channelId : String) :
    Except TakeoverError TakeoverSession := do
  let plan ← (buildLiveTakeoverSourcePlan channelId r.ingestPlan r.pathId
    r.durationSeconds).mapError .notReady
  let plan ← (verified plan r.verdict).mapError .notReady
  let session := r.session channelId plan
  if session.accepted then return session else throw .sessionRefused

/-- `prepare_take`. -/
def prepareTakeCalls (channelId : String) (r : TakeRequest) : TakeoverM TakeoverSession := do
  let config : Option Bool ← ask (.getConfig channelId)
  match config with
  | none => .raise (.takeover (.notReady .noConfig))
  | some false => .raise (.takeover (.notReady .disabled))
  | some true =>
    let active : Option TakeoverSession ← ask (.getActive channelId)
    if active.isSome then .raise (.takeover .alreadyLive)
    else
      match r.prepared channelId with
      | .ok session => return session
      | .error error => .raise (.takeover error)

/-- `take`. -/
def takeCalls (channelId : String) (r : TakeRequest) : TakeoverM TakeoverSession := do
  let session ← prepareTakeCalls channelId r
  let stored : Bool ← ask (.append session)
  if stored then
    ask (.enqueueCommand
      { action := .takeover, issuedAt := r.now, issuedBy := r.operatorId
        commandId := "takeover-" ++ r.token })
    return session
  else .raise .integrity

/-- `handback`. -/
def handbackCalls (channelId operatorId : String) (notes : Option String) (now : Instant)
    (token : String) : TakeoverM TakeoverSession := do
  let active : Option TakeoverSession ← ask (.getActive channelId)
  match active with
  | none => .raise (.takeover .notInTakeover)
  | some active =>
    ask (.enqueueCommand
      { action := .handback, issuedAt := now, issuedBy := operatorId
        commandId := "handback-" ++ token })
    ask (.close active.sessionId now notes)
    return active

/-! ## Transitions of live sessions -/

section Transitions

variable (digest : String → String)

/-- The id of the takeover of a live session, `digest` being the hex digest of its id. -/
def takeoverId (liveSessionId : String) : String := "live-room-" ++ digest liveSessionId

/-- The last statements of a transition. -/
def commitTransition (writes : LiveWrites) : TakeoverM Unit := do
  let committed : Bool ← ask (.commit writes)
  if committed then return () else .raise .integrity

/-- `LiveSessionStore._transition`; an exception rolls the transaction back. -/
def transition (liveSessionId : String) (name : Transition) (rider : Rider) : TakeoverM Unit := do
  let matched : Bool ← ask (.updateWhere liveSessionId name.expected)
  if matched then
    match rider with
    | .none => commitTransition { liveSessionId := liveSessionId, state := name.new }
    | .takeover session =>
      let current : Option LiveSession ← ask (.selectUpdated liveSessionId)
      if current.map (·.channelId) ≠ some session.channelId then
        ask (.rollback liveSessionId)
        .raise .channelsDiffer
      else
        let active : Bool ← ask (.selectOpen session.channelId)
        if active then
          ask (.rollback liveSessionId)
          .raise (.takeover .alreadyLive)
        else
          commitTransition
            { liveSessionId := liveSessionId
              state := name.new
              insert := some { session with sessionId := takeoverId digest liveSessionId }
              command := some
                { action := .takeover, issuedAt := session.tookOverAt
                  issuedBy := session.operatorId
                  commandId := "takeover-" ++ takeoverId digest liveSessionId } }
    | .handback operatorId endedAt =>
      let own : Option TakeoverSession ← ask (.getTakeover (takeoverId digest liveSessionId))
      if (own.map (·.returnedAt)) = some none then
        commitTransition
          { liveSessionId := liveSessionId
            state := name.new
            close := some (takeoverId digest liveSessionId, endedAt)
            command := some
              { action := .handback, issuedAt := endedAt, issuedBy := operatorId
                commandId := "handback-" ++ takeoverId digest liveSessionId } }
      else commitTransition { liveSessionId := liveSessionId, state := name.new }
  else
    let current : Option LiveSession ← ask (.getSession liveSessionId)
    match current with
    | none => .raise .liveSessionNotFound
    | some _ => .raise .liveSessionState

/-- The route to go on air; `ready` is the verdict of the pre-flight evaluation. -/
def goOnAir (liveSessionId : String) (ready : Bool) (r : TakeRequest) : TakeoverM Unit := do
  let current : Option LiveSession ← ask (.getSession liveSessionId)
  match current with
  | none => .raise .liveSessionNotFound
  | some current =>
    if current.state ≠ .preflight then .raise .liveSessionState
    else if ready then
      let session ← prepareTakeCalls current.channelId r
      transition digest liveSessionId .goOnAir (.takeover session)
    else .raise .preflightFailed

/-! ## Requests -/

inductive Request where
  | take (channelId : String) (r : TakeRequest)
  | handback (channelId operatorId : String) (notes : Option String) (now : Instant)
      (token : String)
  | goOnAir (liveSessionId : String) (ready : Bool) (r : TakeRequest)
  | endBroadcast (liveSessionId operatorId : String) (endedAt : Instant)
  /-- A transition that brings nothing along. -/
  | advance (liveSessionId : String) (name : Transition)

def discard {α : Type} (p : TakeoverM α) : TakeoverM Unit := do
  let _ ← p.attempt
  return ()

def Request.code : Request → TakeoverM Unit
  | take channelId r => discard (takeCalls channelId r)
  | handback channelId operatorId notes now token =>
    discard (handbackCalls channelId operatorId notes now token)
  | goOnAir liveSessionId ready r => discard (Takeover.goOnAir digest liveSessionId ready r)
  | endBroadcast liveSessionId operatorId endedAt =>
    discard (transition digest liveSessionId .endBroadcast (.handback operatorId endedAt))
  | advance liveSessionId name => discard (transition digest liveSessionId name .none)

def requests : List Request → TakeoverM Unit
  | [] => return ()
  | request :: rest => do
    request.code digest
    requests rest

end Transitions

/-! ## The machine -/

structure World where
  /-- The configuration of each channel: `none` when there is none, else whether it is
  enabled. -/
  config : String → Option Bool
  audit : AuditStore
  live : Table LiveSession String LiveSession.liveSessionId
  /-- The live sessions that a transaction has updated and not committed. -/
  locked : List String
  commands : List EgressCommand

namespace World

def enqueued (w : World) (command : EgressCommand) : World :=
  if w.commands.any fun c => c.commandId = command.commandId then w
  else { w with commands := w.commands ++ [command] }

/-- No key refuses the writes. -/
def fresh (w : World) (writes : LiveWrites) : Bool :=
  (writes.insert.all fun s => (w.audit.get s.sessionId).isNone) &&
    writes.command.all fun command => w.commands.all fun c => c.commandId ≠ command.commandId

/-- The takeovers after the writes of a transition. -/
def auditAfter (a : AuditStore) (writes : LiveWrites) : AuditStore :=
  let inserted :=
    match writes.insert with
    | some s => (AuditStore.append a s).getD a
    | none => a
  match writes.close with
  | some (sessionId, endedAt) => AuditStore.close inserted sessionId endedAt none
  | none => inserted

def unlock (w : World) (liveSessionId : String) : World :=
  { w with locked := w.locked.filter (· ≠ liveSessionId) }

def committed (w : World) (writes : LiveWrites) : World :=
  { w.unlock writes.liveSessionId with
    audit := auditAfter w.audit writes
    live := w.live.modify writes.liveSessionId (fun l => { l with state := writes.state })
      fun _ => rfl
    commands := w.commands ++ writes.command.toList }

/-- What a call can answer. An `UPDATE` of a row that another transaction has updated waits. -/
def Replies (w : World) : (o : Op) → o.Res → Prop
  | .getConfig channelId, r => r = w.config channelId
  | .getActive channelId, r => r = AuditStore.activeOn w.audit channelId
  | .append session, r => r = (AuditStore.append w.audit session).isSome
  | .enqueueCommand _, _ => True
  | .close _ _ _, _ => True
  | .getSession liveSessionId, r => r = w.live.get liveSessionId
  | .updateWhere liveSessionId expected, r =>
    liveSessionId ∉ w.locked ∧
      r = decide ((w.live.get liveSessionId).map (·.state) = some expected)
  | .selectUpdated liveSessionId, r => r = w.live.get liveSessionId
  | .selectOpen channelId, r => r = !(AuditStore.openOn w.audit channelId).isEmpty
  | .getTakeover sessionId, r => r = w.audit.get sessionId
  | .rollback _, _ => True
  | .commit writes, r => r = w.fresh writes

/-- What a call leaves behind. -/
def next (w : World) : (o : Op) → o.Res → World
  | .append session, _ => { w with audit := (AuditStore.append w.audit session).getD w.audit }
  | .enqueueCommand command, _ => w.enqueued command
  | .close sessionId returnedAt notes, _ =>
    { w with audit := AuditStore.close w.audit sessionId returnedAt notes }
  | .updateWhere liveSessionId _, true => { w with locked := liveSessionId :: w.locked }
  | .rollback liveSessionId, _ => w.unlock liveSessionId
  | .commit writes, true => w.committed writes
  | .commit writes, false => w.unlock writes.liveSessionId
  | _, _ => w

/-- An answer to every call, where there is one. -/
def reply (w : World) : (o : Op) → Option {x : o.Res // w.Replies o x}
  | .getConfig _ => some ⟨_, rfl⟩
  | .getActive _ => some ⟨_, rfl⟩
  | .append _ => some ⟨_, rfl⟩
  | .enqueueCommand _ => some ⟨(), trivial⟩
  | .close _ _ _ => some ⟨(), trivial⟩
  | .getSession _ => some ⟨_, rfl⟩
  | .updateWhere liveSessionId _ =>
    if h : liveSessionId ∉ w.locked then some ⟨_, h, rfl⟩ else none
  | .selectUpdated _ => some ⟨_, rfl⟩
  | .selectOpen _ => some ⟨_, rfl⟩
  | .getTakeover _ => some ⟨_, rfl⟩
  | .rollback _ => some ⟨(), trivial⟩
  | .commit _ => some ⟨_, rfl⟩

end World

/-! ## Interleavings

What a request knows of the open sessions is what it saw when it looked last. `Desk` keeps
for each of them the sessions that were inserted since. -/

def Op.inserts : Op → Option TakeoverSession
  | append session => some session
  | commit writes => writes.insert
  | _ => none

def inserted : (o : Op) → o.Res → Option TakeoverSession
  | .append session, true => some session
  | .commit writes, true => writes.insert
  | _, _ => none

/-- The channel that a call looks for open sessions on, and whether it found none. -/
def looked : (o : Op) → o.Res → Option (String × Bool)
  | .getActive channelId, active => some (channelId, Option.isNone active)
  | .selectOpen channelId, active => some (channelId, !active)
  | _, _ => none

structure Desk (T : Type) where
  world : World
  since : T → List String

section Interleavings

variable {T : Type} [DecidableEq T]

/-- What is known to have been inserted since each request looked. -/
def Desk.sinceNext (d : Desk T) (t : T) (o : Op) (x : o.Res) : T → List String :=
  match looked o x, inserted o x with
  | some _, _ => update d.since t []
  | none, some session => fun t' => session.sessionId :: d.since t'
  | none, none => d.since

/-- The calls of the request `t`, under a condition on them. -/
def Desk.machine (cond : World → List String → Op → Prop) (t : T) :
    Machine takeoverIface (Desk T) where
  pre := fun _ _ => True
  legal := fun d o x => d.world.Replies o x ∧ cond d.world (d.since t) o
  next := fun d o x => ⟨d.world.next o x, d.sinceNext t o x⟩

/-- A session is inserted when those of its channel that were inserted since the request
looked are closed again. -/
def Settled (w : World) (since : List String) (o : Op) : Prop :=
  ∀ session, o.inserts = some session →
    ∀ row ∈ AuditStore.openOn w.audit session.channelId, row.sessionId ∉ since

/-- The channel that the request has found no open session on, when it looked last. -/
def Clear.monitor : Monitor takeoverIface (Option String) where
  allows := fun clear o => ∀ session, o.inserts = some session → clear = some session.channelId
  next := fun clear o x =>
    match looked o x with
    | some (channelId, true) => some channelId
    | some (_, false) => none
    | none => clear

abbrev Requests (T : Type) := Config T takeoverIface RequestError (Option String) (Desk T)

/-- The requests before their first call, with nothing looked for yet. -/
def Requests.initial (digest : String → String) (calls : T → List Request) (w : World) :
    Requests T where
  code := fun t => requests digest (calls t)
  ghost := fun _ => none
  world := ⟨w, fun _ => []⟩

/-- The states that the requests come to, by calls that meet the condition. -/
def Requests.Reached (digest : String → String) (cond : World → List String → Op → Prop)
    (calls : T → List Request) (w : World) (r : Requests T) : Prop :=
  Config.Reach (Desk.machine cond) (fun _ => Clear.monitor) (fun _ _ => True)
    (Requests.initial digest calls w) r

/-- One open session at most on every channel, and the handback of the active one leaves
none. -/
structure OneLive (a : AuditStore) : Prop where
  one : ∀ channelId, ∀ s ∈ AuditStore.openOn a channelId, ∀ s' ∈ AuditStore.openOn a channelId,
    s = s'
  handback : ∀ channelId s now notes, AuditStore.activeOn a channelId = some s →
    AuditStore.activeOn (AuditStore.close a s.sessionId now notes) channelId = none

end Interleavings

/-! ## The open sessions after a call -/

namespace AuditStore

variable {a a' : AuditStore} {s row : TakeoverSession} {channelId sessionId : String}

lemma mem_openOn :
    s ∈ openOn a channelId ↔ s ∈ a.rows ∧ s.returnedAt = none ∧ s.channelId = channelId := by
  simp only [openOn, openSessions, mem_filter, isNone_iff_eq_none, decide_eq_true_eq]
  exact and_assoc

lemma latest_from (best : TakeoverSession) (sessions : List TakeoverSession) :
    ∃ s ∈ best :: sessions, latest (best :: sessions) = some s := by
  unfold latest
  rw [foldl_cons]
  induction sessions generalizing best with
  | nil => exact ⟨best, mem_singleton_self best, rfl⟩
  | cons s rest ih =>
    rw [foldl_cons]
    dsimp only
    split
    · obtain ⟨found, hmem, hfound⟩ := ih s
      exact ⟨found, mem_cons_of_mem _ hmem, hfound⟩
    · obtain ⟨found, hmem, hfound⟩ := ih best
      refine ⟨found, ?_, hfound⟩
      rcases mem_cons.mp hmem with rfl | hmem
      · exact mem_cons_self
      · exact mem_cons_of_mem _ (mem_cons_of_mem _ hmem)

lemma activeOn_eq_none_iff : activeOn a channelId = none ↔ openOn a channelId = [] := by
  unfold activeOn
  cases hopen : openOn a channelId with
  | nil => simp [latest]
  | cons s rest =>
    obtain ⟨found, -, hfound⟩ := latest_from s rest
    simp [hfound]

lemma mem_of_activeOn (h : activeOn a channelId = some s) : s ∈ openOn a channelId := by
  unfold activeOn at h
  cases hopen : openOn a channelId with
  | nil =>
    rw [hopen] at h
    cases h
  | cons s' rest =>
    rw [hopen] at h
    obtain ⟨found, hmem, hfound⟩ := latest_from s' rest
    rw [hfound] at h
    cases h
    exact hmem

lemma of_mem_openOn_close {now : Instant} {notes : Option String}
    (h : row ∈ openOn (close a sessionId now notes) channelId) :
    row ∈ openOn a channelId ∧ row.sessionId ≠ sessionId := by
  obtain ⟨hmem, hopen, hchannel⟩ := mem_openOn.mp h
  have hget : (close a sessionId now notes).get row.sessionId = some row :=
    Table.get_eq_some_iff.mpr ⟨hmem, rfl⟩
  unfold close at hget
  by_cases hid : row.sessionId = sessionId
  · -- the closed row is not open
    rw [hid, Table.get_modify_self, map_eq_some_iff] at hget
    obtain ⟨row₀, -, rfl⟩ := hget
    cases hopen
  · rw [Table.get_modify_of_ne _ hid] at hget
    exact ⟨mem_openOn.mpr ⟨Table.mem_of_get hget, hopen, hchannel⟩, hid⟩

lemma of_mem_openOn_append (h : row ∈ openOn ((append a s).getD a) channelId) :
    row ∈ openOn a channelId ∨ (append a s).isSome = true ∧ row = s ∧
      row.channelId = channelId := by
  cases happend : append a s with
  | none =>
    rw [happend] at h
    exact .inl h
  | some a' =>
    rw [happend] at h
    unfold append at happend
    split at happend
    · cases happend
      obtain ⟨hmem, hopen, hchannel⟩ := mem_openOn.mp h
      rcases mem_append.mp hmem with hmem | hmem
      · exact .inl (mem_openOn.mpr ⟨hmem, hopen, hchannel⟩)
      · exact .inr ⟨rfl, mem_singleton.mp hmem, hchannel⟩
    · cases happend

end AuditStore

section Step

variable {w : World} {o : Op} {x : o.Res} {row session : TakeoverSession} {channelId : String}

lemma inserts_of_inserted (h : inserted o x = some session) : o.inserts = some session := by
  cases o with
  | append s | commit writes => cases x <;> first | exact h | cases h
  | _ => cases h

lemma World.of_mem_openOn_next (hx : w.Replies o x)
    (h : row ∈ AuditStore.openOn (w.next o x).audit channelId) :
    row ∈ AuditStore.openOn w.audit channelId ∨
      inserted o x = some row ∧ row.channelId = channelId := by
  cases o with
  | append s =>
    rcases AuditStore.of_mem_openOn_append h with hold | ⟨hadded, rfl, hchannel⟩
    · exact .inl hold
    · have hx : x = true := hx.trans hadded
      subst hx
      exact .inr ⟨rfl, hchannel⟩
  | close sessionId returnedAt notes => exact .inl (AuditStore.of_mem_openOn_close h).1
  | enqueueCommand command =>
    have h : row ∈ AuditStore.openOn (w.enqueued command).audit channelId := h
    unfold World.enqueued at h
    split at h
    · exact .inl h
    · exact .inl h
  | updateWhere liveSessionId expected => cases x <;> exact .inl h
  | commit writes =>
    cases x with
    | false => exact .inl h
    | true =>
      have h : row ∈ AuditStore.openOn (World.auditAfter w.audit writes) channelId := h
      -- of the writes of a transition only the insert opens a session
      have hinserted : row ∈ AuditStore.openOn (World.auditAfter w.audit
          { writes with close := none }) channelId →
          row ∈ AuditStore.openOn w.audit channelId ∨
            writes.insert = some row ∧ row.channelId = channelId := by
        intro h
        cases hinsert : writes.insert with
        | none =>
          rw [hinsert] at h
          exact .inl h
        | some s =>
          rw [hinsert] at h
          rcases AuditStore.of_mem_openOn_append h with hold | ⟨-, rfl, hchannel⟩
          · exact .inl hold
          · exact .inr ⟨rfl, hchannel⟩
      unfold World.auditAfter at h
      dsimp only at h
      split at h
      · exact hinserted (AuditStore.of_mem_openOn_close h).1
      · exact hinserted h
  | _ => exact .inl h

lemma World.of_looked {empty : Bool} (hx : w.Replies o x)
    (h : looked o x = some (channelId, empty)) :
    w.next o x = w ∧ (empty = true → AuditStore.openOn w.audit channelId = []) := by
  cases o with
  | getActive channelId' =>
    have hx : x = AuditStore.activeOn w.audit channelId' := hx
    cases h
    refine ⟨rfl, ?_⟩
    intro hnone
    rw [hx, isNone_iff_eq_none] at hnone
    exact AuditStore.activeOn_eq_none_iff.mp hnone
  | selectOpen channelId' =>
    have hx : x = !(AuditStore.openOn w.audit channelId').isEmpty := hx
    cases h
    refine ⟨rfl, ?_⟩
    intro hnone
    rw [hx, Bool.not_not, List.isEmpty_iff] at hnone
    exact hnone
  | append s | commit writes => cases x <;> cases h
  | _ => cases h

end Step

/-! ## The invariant -/

section Invariant

variable {T : Type} [DecidableEq T]

/-- One open session at most on every channel; where a request has found none, those open now
were inserted since. -/
structure Desk.Inv (g : T → Option String) (d : Desk T) : Prop where
  one : ∀ channelId, ∀ s ∈ AuditStore.openOn d.world.audit channelId,
    ∀ s' ∈ AuditStore.openOn d.world.audit channelId, s = s'
  seen : ∀ t channelId, g t = some channelId →
    ∀ row ∈ AuditStore.openOn d.world.audit channelId, row.sessionId ∈ d.since t

variable {g : T → Option String} {d : Desk T} {t : T} {o : Op} {x : o.Res}

omit [DecidableEq T] in
/-- A request that has looked and found nothing inserts on an empty channel. -/
lemma Desk.Inv.openOn_of_settled (h : d.Inv g) {session : TakeoverSession}
    (hinserts : o.inserts = some session) (hallows : Clear.monitor.allows (g t) o)
    (hsettled : Settled d.world (d.since t) o) :
    AuditStore.openOn d.world.audit session.channelId = [] := by
  rw [eq_nil_iff_forall_not_mem]
  intro row hrow
  have hsince := h.seen t session.channelId (hallows session hinserts) row hrow
  exact hsettled session hinserts row hrow hsince

/-- The call that looks: nothing is open where it found nothing. -/
lemma Desk.Inv.look (h : d.Inv g) {channelId : String} {empty : Bool}
    (hempty : empty = true → AuditStore.openOn d.world.audit channelId = []) :
    Desk.Inv (update g t (if empty = true then some channelId else none))
      ⟨d.world, update d.since t []⟩ := by
  refine ⟨h.one, ?_⟩
  intro t' channelId' hclear row hrow
  show row.sessionId ∈ update d.since t [] t'
  have hrow : row ∈ AuditStore.openOn d.world.audit channelId' := hrow
  by_cases ht : t' = t
  · subst ht
    rw [update_self] at hclear
    cases empty with
    | true =>
      cases hclear
      rw [hempty rfl] at hrow
      cases hrow
    | false => cases hclear
  · rw [update_of_ne ht] at hclear ⊢
    exact h.seen t' channelId' hclear row hrow

omit [DecidableEq T] in
lemma Desk.Inv.shrink (h : d.Inv g) {w : World}
    (hold : ∀ {channelId row}, row ∈ AuditStore.openOn w.audit channelId →
      row ∈ AuditStore.openOn d.world.audit channelId) : Desk.Inv g ⟨w, d.since⟩ where
  one channelId s hs s' hs' := h.one channelId s (hold hs) s' (hold hs')
  seen t channelId hclear row hrow := h.seen t channelId hclear row (hold hrow)

omit [DecidableEq T] in
lemma Desk.Inv.insert (h : d.Inv g) {w : World} {session : TakeoverSession}
    (hnil : AuditStore.openOn d.world.audit session.channelId = [])
    (hopen : ∀ {channelId row}, row ∈ AuditStore.openOn w.audit channelId →
      row ∈ AuditStore.openOn d.world.audit channelId ∨
        row = session ∧ session.channelId = channelId) :
    Desk.Inv g ⟨w, fun t => session.sessionId :: d.since t⟩ := by
  have hfree : ∀ {s}, s ∉ AuditStore.openOn d.world.audit session.channelId := by
    intro s hs
    rw [hnil] at hs
    cases hs
  constructor
  · intro channelId s hs s' hs'
    rcases hopen hs with hs | ⟨rfl, rfl⟩
    · rcases hopen hs' with hs' | ⟨-, rfl⟩
      · exact h.one channelId s hs s' hs'
      · exact absurd hs hfree
    · rcases hopen hs' with hs' | ⟨rfl, -⟩
      · exact absurd hs' hfree
      · rfl
  · intro t channelId hclear row hrow
    rcases hopen hrow with hrow | ⟨rfl, -⟩
    · exact mem_cons_of_mem _ (h.seen t channelId hclear row hrow)
    · exact mem_cons_self

lemma Desk.Inv.step (h : d.Inv g) (hallows : Clear.monitor.allows (g t) o)
    (hx : d.world.Replies o x) (hsettled : Settled d.world (d.since t) o) :
    Desk.Inv (update g t (Clear.monitor.next (g t) o x))
      ⟨d.world.next o x, d.sinceNext t o x⟩ := by
  unfold Desk.sinceNext
  cases hlooked : looked o x with
  | some found =>
    -- the call looks: the channel is noted as clear if it found nothing
    obtain ⟨channelId, empty⟩ := found
    obtain ⟨hnext, hempty⟩ := World.of_looked hx hlooked
    have hclear : Clear.monitor.next (g t) o x =
        if empty = true then some channelId else none := by
      simp only [Clear.monitor, hlooked]
      cases empty <;> rfl
    rw [hnext, hclear]
    exact h.look hempty
  | none =>
    have hghost : update g t (Clear.monitor.next (g t) o x) = g := by
      simp only [Clear.monitor, hlooked, update_eq_self]
    rw [hghost]
    cases hinserted : inserted o x with
    | none =>
      refine h.shrink ?_
      intro channelId row hrow
      rcases World.of_mem_openOn_next hx hrow with hold | ⟨hnew, -⟩
      · exact hold
      · rw [hinserted] at hnew
        cases hnew
    | some session =>
      -- the call inserts, on a channel that is still clear
      refine h.insert (h.openOn_of_settled (inserts_of_inserted hinserted) hallows hsettled) ?_
      intro channelId row hrow
      rcases World.of_mem_openOn_next hx hrow with hold | ⟨hnew, hchannel⟩
      · exact .inl hold
      · rw [hinserted] at hnew
        cases hnew
        exact .inr ⟨rfl, hchannel⟩

end Invariant

/-! ## What a request looks for -/

section Admitted

/-- A program that inserts only where it has just found nothing open. -/
abbrev Admitted {α : Type} (p : TakeoverM α) : Prop := p.Safe Clear.monitor.toMachine

lemma admitted_ask (o : Op) (ho : o.inserts = none) : Admitted (ask o) := by
  intro clear
  refine ⟨?_, fun _ _ => trivial⟩
  intro session hsession
  rw [ho] at hsession
  cases hsession

lemma prepared_channelId {r : TakeRequest} {channelId : String} {session : TakeoverSession}
    (h : r.prepared channelId = .ok session) : session.channelId = channelId := by
  unfold TakeRequest.prepared at h
  cases hbuild : (buildLiveTakeoverSourcePlan channelId r.ingestPlan r.pathId
      r.durationSeconds).mapError TakeoverError.notReady with
  | error e => simp [hbuild, Bind.bind, Except.bind] at h
  | ok plan =>
    cases hverified : (verified plan r.verdict).mapError TakeoverError.notReady with
    | error e => simp [hbuild, hverified, Bind.bind, Except.bind] at h
    | ok plan' =>
      simp only [hbuild, hverified, Bind.bind, Except.bind] at h
      split at h
      · injection h with h
        rw [← h]
        rfl
      · cases h

lemma wp_prepareTakeCalls {channelId : String} (r : TakeRequest) {clear : Option String} :
    (prepareTakeCalls channelId r).wp Clear.monitor.toMachine
      (fun outcome clear' => ∀ session, outcome = .ok session →
        clear' = some session.channelId) clear := by
  refine ⟨fun _ h => (nomatch h), ?_⟩
  rintro (_ | _ | _) _
  · exact fun _ h => nomatch h
  · exact fun _ h => nomatch h
  · refine ⟨fun _ h => (nomatch h), ?_⟩
    rintro (_ | active) _
    · show Prog.wp _ (match r.prepared channelId with
        | .ok session => pure session
        | .error error => .raise (.takeover error) : TakeoverM TakeoverSession) _ _
      cases hprepared : r.prepared channelId with
      | error error => exact fun _ h => nomatch h
      | ok session =>
        intro session' hsession'
        cases hsession'
        rw [prepared_channelId hprepared]
        rfl
    · exact fun _ h => nomatch h

lemma admitted_takeCalls {channelId : String} (r : TakeRequest) :
    Admitted (takeCalls channelId r) := by
  intro clear
  refine wp_seq (wp_prepareTakeCalls r) ?_ fun _ _ _ => trivial
  intro session clear' hclear
  refine ⟨?_, ?_⟩
  · intro session' hsession'
    cases hsession'
    exact hclear session rfl
  · rintro (_ | _) _
    · trivial
    · exact ((admitted_ask (.enqueueCommand _) rfl).bind fun _ => safe_pure) _

lemma admitted_handbackCalls (channelId operatorId : String) (notes : Option String) (now : Instant)
    (token : String) : Admitted (handbackCalls channelId operatorId notes now token) := by
  refine (admitted_ask (.getActive channelId) rfl).bind ?_
  rintro (_ | active)
  · exact safe_raise
  · exact (admitted_ask (.enqueueCommand _) rfl).bind fun _ =>
      (admitted_ask (.close active.sessionId now notes) rfl).bind fun _ => safe_pure

variable (digest : String → String)

lemma admitted_commitTransition {writes : LiveWrites} (h : writes.insert = none) :
    Admitted (commitTransition writes) :=
  (admitted_ask (.commit writes) h).bind fun (_ : Bool) => .ite safe_pure safe_raise

/-- A transition that brings a takeover along looks again before it commits. -/
lemma admitted_transition {liveSessionId : String} {name : Transition} {rider : Rider} :
    Admitted (transition digest liveSessionId name rider) := by
  refine (admitted_ask (.updateWhere liveSessionId name.expected) rfl).bind
    fun (matched : Bool) => .ite ?_ ?_
  · cases rider with
    | none => exact admitted_commitTransition rfl
    | takeover session =>
      -- the live row is set, so the insert follows a look at the channel
      have hrollback : ∀ e, Admitted (do
          ask (.rollback liveSessionId)
          .raise e : TakeoverM Unit) := fun e =>
        (admitted_ask (.rollback liveSessionId) rfl).bind fun _ => safe_raise
      refine (admitted_ask (.selectUpdated liveSessionId) rfl).bind
        fun (current : Option LiveSession) => .ite (hrollback _) ?_
      intro clear
      refine ⟨fun _ h => (nomatch h), ?_⟩
      rintro (_ | _) _
      · refine ⟨?_, ?_⟩
        · intro session' hsession'
          cases hsession'
          rfl
        · rintro (_ | _) _
          · trivial
          · trivial
      · exact hrollback _ _
    | handback operatorId endedAt =>
      refine (admitted_ask (.getTakeover (takeoverId digest liveSessionId)) rfl).bind
        fun (own : Option TakeoverSession) => .ite ?_ ?_
      · exact admitted_commitTransition rfl
      · exact admitted_commitTransition rfl
  · refine (admitted_ask (.getSession liveSessionId) rfl).bind ?_
    rintro (_ | current)
    · exact safe_raise
    · exact safe_raise

lemma admitted_goOnAir {liveSessionId : String} (ready : Bool) (r : TakeRequest) :
    Admitted (goOnAir digest liveSessionId ready r) := by
  refine (admitted_ask (.getSession liveSessionId) rfl).bind ?_
  rintro (_ | current)
  · exact safe_raise
  · refine .ite safe_raise (.ite ?_ safe_raise)
    intro clear
    refine wp_seq (wp_prepareTakeCalls r) ?_ fun _ _ _ => trivial
    intro session clear' _
    exact admitted_transition digest clear'

lemma admitted_discard {α : Type} {p : TakeoverM α} (hp : Admitted p) : Admitted (discard p) :=
  hp.attempt.bind fun _ => safe_pure

lemma Request.admitted : (request : Request) → Admitted (request.code digest)
  | take _ r => admitted_discard (admitted_takeCalls r)
  | handback channelId operatorId notes now token =>
    admitted_discard (admitted_handbackCalls channelId operatorId notes now token)
  | goOnAir _ ready r => admitted_discard (admitted_goOnAir digest ready r)
  | endBroadcast _ _ _ => admitted_discard (admitted_transition digest)
  | advance _ _ => admitted_discard (admitted_transition digest)

lemma admitted_requests {list : List Request} : Admitted (requests digest list) := by
  induction list with
  | nil => exact safe_pure
  | cons request rest ih => exact (request.admitted digest).bind fun _ => ih

end Admitted

/-! ## One live takeover -/

/-- Where one session at most is open, its handback leaves none. -/
lemma oneLive_of_one {a : AuditStore}
    (h : ∀ channelId, ∀ s ∈ AuditStore.openOn a channelId,
      ∀ s' ∈ AuditStore.openOn a channelId, s = s') : OneLive a := by
  refine ⟨h, ?_⟩
  intro channelId s now notes hactive
  rw [AuditStore.activeOn_eq_none_iff, eq_nil_iff_forall_not_mem]
  intro row hrow
  obtain ⟨hopen, hother⟩ := AuditStore.of_mem_openOn_close hrow
  have hsame := h channelId row hopen s (AuditStore.mem_of_activeOn hactive)
  exact hother (by rw [hsame])

section Runs

variable {T : Type} [DecidableEq T]

/-- In every interleaving in which a request inserts a takeover only when those inserted since
it looked are closed again, one session at most is open on a channel at every point. -/
theorem one_live_takeover (digest : String → String) (calls : T → List Request) (w : World)
    (hw : OneLive w.audit) (r : Requests T) (h : Requests.Reached digest Settled calls w r) :
    OneLive r.world.world.audit := by
  have hinit : Desk.Inv (fun _ : T => none) (Requests.initial digest calls w).world :=
    ⟨hw.one, fun _ _ hclear => nomatch hclear⟩
  have hinv : r.world.Inv r.ghost := by
    refine Config.Reach.invariant h ?_ hinit ?_
    · intro t
      exact admitted_requests digest none
    · intro g d t o x hd _ hallows hlegal
      exact hd.step hallows hlegal.1 hlegal.2
  exact oneLive_of_one hinv.one

end Runs

/-! ## Requests alone

Where no other request comes between its calls, a request leaves in the tables, the sessions and
the queue of commands, what `take` and `handback` leave in one step. -/

section Alone

/-- The calls of one request, with nothing in between. -/
def World.machine : Machine takeoverIface World where
  pre := fun _ _ => True
  legal := fun w o x => w.Replies o x
  next := fun w o x => w.next o x

/-- The tables hold what the channel has. Of its commands, some may be consumed. -/
structure Holds (c : Channel) (w : World) : Prop where
  config : w.config c.channelId = c.config
  audit : w.audit = c.audit
  rows : ∀ s ∈ c.audit.rows, s.channelId = c.channelId
  queue : ∃ consumed : List EgressCommand, w.commands = consumed ++ c.pending ∧
    consumed.map (·.commandId) = c.consumedIds

variable {c : Channel} {w : World}

lemma Holds.activeOn (h : Holds c w) :
    AuditStore.activeOn w.audit c.channelId = AuditStore.getActive c.audit := by
  have hopen : AuditStore.openOn c.audit c.channelId = AuditStore.openSessions c.audit := by
    refine filter_eq_self.mpr ?_
    intro s hs
    exact decide_eq_true (h.rows s (mem_filter.mp hs).1)
  unfold AuditStore.activeOn
  rw [h.audit, hopen]
  rfl

lemma prepareTake_eq (c : Channel) (r : TakeRequest) : prepareTake c r =
    match c.config with
    | none => .error (.notReady .noConfig)
    | some false => .error (.notReady .disabled)
    | some true =>
      if (AuditStore.getActive c.audit).isSome then .error .alreadyLive
      else r.prepared c.channelId := rfl

lemma wp_prepareTakeCalls_alone (h : Holds c w) (r : TakeRequest) :
    (prepareTakeCalls c.channelId r).wp World.machine
      (fun outcome w' => w' = w ∧ outcome = (prepareTake c r).mapError .takeover) w := by
  rw [prepareTake_eq]
  refine ⟨trivial, ?_⟩
  intro config hconfig
  have hconfig : config = c.config := hconfig.trans h.config
  subst hconfig
  cases c.config with
  | none => exact ⟨rfl, rfl⟩
  | some enabled =>
    cases enabled with
    | false => exact ⟨rfl, rfl⟩
    | true =>
      refine ⟨trivial, ?_⟩
      intro active hactive
      have hactive : active = AuditStore.getActive c.audit := hactive.trans h.activeOn
      subst hactive
      show Prog.wp World.machine (if (AuditStore.getActive c.audit).isSome = true
        then .raise (.takeover .alreadyLive)
        else match r.prepared c.channelId with
          | .ok session => pure session
          | .error error => .raise (.takeover error) : TakeoverM TakeoverSession) _ w
      refine wp_ite (fun hlive => ?_) fun hidle => ?_
      · exact ⟨rfl, by rw [if_pos hlive]; rfl⟩
      · rw [if_neg hidle]
        cases r.prepared c.channelId with
        | error error | ok session => exact ⟨rfl, rfl⟩

/-- The command table and the queue of the channel refuse the same ids. -/
lemma Holds.enqueue (h : Holds c w) (cmd : EgressCommand) :
    Holds (c.enqueue cmd) (w.enqueued cmd) := by
  obtain ⟨consumed, hcommands, hids⟩ := h.queue
  have hused : (w.commands.any fun d => d.commandId = cmd.commandId) = true ↔
      cmd.commandId ∈ c.consumedIds ∨
        (c.pending.any fun d => d.commandId = cmd.commandId) = true := by
    rw [hcommands, any_append, Bool.or_eq_true, ← hids, List.mem_map, List.any_eq_true]
    simp only [decide_eq_true_eq]
  unfold Channel.enqueue World.enqueued
  by_cases huse : cmd.commandId ∈ c.consumedIds ∨
      (c.pending.any fun d => d.commandId = cmd.commandId) = true
  · rw [if_pos huse, if_pos (hused.mpr huse)]
    exact h
  · rw [if_neg huse, if_neg (mt hused.mp huse)]
    refine ⟨h.config, h.audit, h.rows, consumed, ?_, hids⟩
    rw [hcommands, append_assoc]

lemma Holds.append (h : Holds c w) {session : TakeoverSession}
    (hchannel : session.channelId = c.channelId) {audit : AuditStore}
    (happend : AuditStore.append c.audit session = some audit) :
    Holds { c with audit := audit } { w with audit := audit } := by
  refine ⟨h.config, rfl, ?_, h.queue⟩
  unfold AuditStore.append at happend
  split at happend
  · cases happend
    intro s hs
    rcases mem_append.mp hs with hs | hs
    · exact h.rows s hs
    · rw [mem_singleton.mp hs]
      exact hchannel
  · cases happend

lemma Holds.close (h : Holds c w) (sessionId : String) (now : Instant) (notes : Option String) :
    Holds { c with audit := AuditStore.close c.audit sessionId now notes }
      { w with audit := AuditStore.close w.audit sessionId now notes } := by
  refine ⟨h.config, ?_, ?_, h.queue⟩
  · dsimp only
    rw [h.audit]
  · intro s hs
    obtain ⟨s₀, hs₀, rfl⟩ := mem_map.mp hs
    split
    · exact h.rows s₀ hs₀
    · exact h.rows s₀ hs₀

lemma prepareTake_channelId {r : TakeRequest} {session : TakeoverSession}
    (h : prepareTake c r = .ok session) : session.channelId = c.channelId := by
  rw [prepareTake_eq] at h
  split at h
  · cases h
  · cases h
  · split_ifs at h
    exact prepared_channelId h

/-- A take with no other request beside it leaves what `take` leaves. -/
lemma takeCalls_alone (h : Holds c w) (r : TakeRequest) :
    (takeCalls c.channelId r).wp World.machine
      (fun _ w' => Holds ((take c r).toOption.getD c) w') w := by
  refine wp_seq (wp_prepareTakeCalls_alone h r) ?_ ?_
  · rintro session w₁ ⟨rfl, houtcome⟩
    have hprepared : prepareTake c r = .ok session := by
      cases hprepare : prepareTake c r with
      | error error =>
        rw [hprepare] at houtcome
        cases houtcome
      | ok session' =>
        rw [hprepare] at houtcome
        cases houtcome
        rfl
    unfold take
    simp only [hprepared, Bind.bind, Except.bind]
    refine ⟨trivial, ?_⟩
    intro stored hstored
    have hstored : stored = (AuditStore.append w₁.audit session).isSome := hstored
    subst hstored
    cases happend : AuditStore.append c.audit session with
    | none =>
      -- the primary key refuses the session, and nothing is queued
      rw [h.audit, happend]
      show Holds c { w₁ with audit := (AuditStore.append w₁.audit session).getD w₁.audit }
      rw [h.audit, happend, getD_none, ← h.audit]
      exact h
    | some audit =>
      rw [h.audit, happend]
      refine ⟨trivial, ?_⟩
      intro _ _
      show Holds _ (World.enqueued
        { w₁ with audit := (AuditStore.append w₁.audit session).getD w₁.audit } _)
      rw [h.audit, happend]
      exact (h.append (prepareTake_channelId hprepared) happend).enqueue _
  · rintro error w₁ ⟨rfl, houtcome⟩
    cases hprepare : prepareTake c r with
    | error error' =>
      unfold take
      rw [hprepare]
      exact h
    | ok session' =>
      rw [hprepare] at houtcome
      cases houtcome

lemma handbackCalls_alone (h : Holds c w) (operatorId : String) (notes : Option String)
    (now : Instant) (token : String) :
    (handbackCalls c.channelId operatorId notes now token).wp World.machine
      (fun _ w' => Holds ((handback c operatorId notes now token).toOption.getD c) w') w := by
  refine ⟨trivial, ?_⟩
  intro active hactive
  have hactive : active = AuditStore.getActive c.audit := hactive.trans h.activeOn
  subst hactive
  unfold handback
  cases AuditStore.getActive c.audit with
  | none => exact h
  | some active =>
    refine ⟨trivial, ?_⟩
    intro _ _
    refine ⟨trivial, ?_⟩
    intro _ _
    exact (h.enqueue _).close active.sessionId now notes

end Alone

/-! ## Two operators -/

namespace TwoOperators

/-- A channel that is enabled, and nothing else. -/
def world : World where
  config := fun _ => some true
  audit := .empty
  live := .empty
  locked := []
  commands := []

/-- Two operators go live with the studio, and one of them hands back. -/
def calls : Fin 3 → List Request
  | 0 => [.take "main" Channel.takeStudio]
  | 1 => [.take "main" { Channel.takeStudio with now := 1, token := "b" }]
  | 2 => [.handback "main" "operator" none 2 "c"]

instance (w : World) (since : List String) (o : Op) : Decidable (Settled w since o) :=
  match h : o.inserts with
  | none => .isTrue fun _ hsession => nomatch h.symm.trans hsession
  | some session =>
    decidable_of_iff
      (∀ row ∈ AuditStore.openOn w.audit session.channelId, row.sessionId ∉ since)
      ⟨fun hall _ hsession => Option.some.inj (h.symm.trans hsession) ▸ hall,
        fun hsettled => hsettled session h⟩

variable (cond : World → List String → Op → Prop) [∀ w since o, Decidable (cond w since o)]

def answers (t : Fin 3) (d : Desk (Fin 3)) (o : Op) :
    Option {x : o.Res // (Desk.machine cond t).legal d o x} :=
  if h : cond d.world (d.since t) o then (d.world.reply o).map fun x => ⟨x.1, x.2, h⟩ else none

def run (schedule : List (Fin 3)) : Option (Requests (Fin 3)) :=
  Config.drive (Desk.machine cond) (fun _ => Clear.monitor) (answers cond) (fun _ _ => True)
    schedule (Requests.initial id calls world)

lemma reached_run {schedule : List (Fin 3)} {r : Requests (Fin 3)}
    (h : run cond schedule = some r) : Requests.Reached id cond calls world r :=
  Config.reach_of_drive .refl h

/-- Both operators look, then both insert. -/
def together : List (Fin 3) := [0, 0, 1, 1, 0, 0, 1, 1]

/-- The second operator looks when the first has inserted, and hands back. -/
def inTurn : List (Fin 3) := [0, 0, 0, 0, 1, 1, 2, 2, 2]

lemma oneLive_world : OneLive world.audit :=
  oneLive_of_one fun _ _ hs => nomatch (AuditStore.mem_openOn.mp hs).1

end TwoOperators

open TwoOperators in
/-- The channel is live twice, and the handback of the active session leaves the other. -/
theorem two_operators_live :
    ∃ r : Requests (Fin 3), Requests.Reached id (fun _ _ _ => True) calls world r ∧
      ¬ OneLive r.world.world.audit ∧
        ∃ s, AuditStore.activeOn r.world.world.audit "main" = some s ∧
          AuditStore.activeOn (AuditStore.close r.world.world.audit s.sessionId 2 none) "main" ≠
            none := by
  have hsome : (run (fun _ _ _ => True) together).isSome = true := by decide +kernel
  obtain ⟨r, hr⟩ := isSome_iff_exists.mp hsome
  have hfacts : (run (fun _ _ _ => True) together).all (fun r : Requests (Fin 3) =>
      match AuditStore.activeOn r.world.world.audit "main" with
      | some s => (AuditStore.activeOn
          (AuditStore.close r.world.world.audit s.sessionId 2 none) "main").isSome
      | none => false) = true := by decide +kernel
  rw [hr] at hfacts
  simp only [all_some] at hfacts
  split at hfacts
  · rename_i s hactive
    have hleft := isSome_iff_ne_none.mp hfacts
    refine ⟨r, reached_run _ hr, ?_, s, hactive, hleft⟩
    intro hone
    exact hleft (hone.handback "main" s 2 none hactive)
  · cases hfacts

open TwoOperators in
/-- The second operator is refused, and after the handback the channel is not live. -/
theorem second_operator_refused :
    ∃ r : Requests (Fin 3), run Settled inTurn = some r ∧ OneLive r.world.world.audit ∧
      r.world.world.audit.rows.map (·.sessionId) = ["takeover-a"] ∧
        AuditStore.activeOn r.world.world.audit "main" = none := by
  have hsome : (run Settled inTurn).isSome = true := by decide +kernel
  obtain ⟨r, hr⟩ := isSome_iff_exists.mp hsome
  have hfacts : (run Settled inTurn).all (fun r : Requests (Fin 3) =>
      decide (r.world.world.audit.rows.map (·.sessionId) = ["takeover-a"]) &&
        (AuditStore.activeOn r.world.world.audit "main").isNone) = true := by decide +kernel
  rw [hr] at hfacts
  simp only [all_some, Bool.and_eq_true, decide_eq_true_eq,
    isNone_iff_eq_none] at hfacts
  have hone := one_live_takeover id calls world oneLive_world r (reached_run _ hr)
  exact ⟨r, hr, hone, hfacts.1, hfacts.2⟩

end Takeover

end CivicCast.Egress
