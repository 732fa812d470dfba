import CivicCast.Lib.Python

/-! # The worker control seam

The strategy keeps one `WorkerPipeSession` per channel: it writes commands to
a pipe, tracks which are unacknowledged, and keeps in a `ChannelReplay` ledger
the current desired line of each verb that is reissued. The worker remembers
the ids it applied (`AppliedIdCache`) and enacts a command only when its id is
new.

On a reconnect the ledger reissues the desired lines under ids made of the
verb and the channel alone, and the worker tells commands apart by id alone.
So a second reissue of a verb to the same worker is taken for a redelivery of
the first, whatever its line: `reconnect_converges_iff` says exactly when a
reconnect brings the worker to the desired lines.

The pipe loses frames and acknowledgements at any time. A frame carries its
command; the worker's verb is the one its line begins with, which is the verb
the strategy built the line for.
-/

namespace CivicCast.Egress

open Lib List Function

/-! ## The replay policy (`replay.py`) -/

inductive Verb where
  | reload
  | swap
  | caption
  | stop
  | emergency
deriving DecidableEq

inductive LostAckOutcome where
  | reissueDesiredState
  | reportDropped
  | keepStopping
deriving DecidableEq

/-- `_SEMANTICS`, as far as a decision reads it. -/
def Verb.onLostAck : Verb → LostAckOutcome
  | .emergency | .reload | .swap => .reissueDesiredState
  | .caption => .reportDropped
  | .stop => .keepStopping

structure Command where
  id : Text
  verb : Verb
  line : Text
deriving DecidableEq

/-- The ledger of one channel. -/
structure ChannelReplay where
  channelId : Text
  desiredReloadLine : Option Text := none
  desiredSwapLine : Option Text := none
  desiredEmergencyLine : Option Text := none
  stopping : Bool := false
  droppedCaptions : List Text := []
deriving DecidableEq

namespace ChannelReplay

def recordSent (r : ChannelReplay) (c : Command) : ChannelReplay :=
  match c.verb with
  -- last writer wins: only the newest line of a verb is ever reissued
  | .reload => { r with desiredReloadLine := some c.line }
  | .swap => { r with desiredSwapLine := some c.line }
  | .emergency => { r with desiredEmergencyLine := some c.line }
  | .stop => { r with stopping := true }
  | .caption => r

/-- `on_lost_ack`: a stopping channel suppresses every reissue. -/
def onLostAck (r : ChannelReplay) (c : Command) : LostAckOutcome × ChannelReplay :=
  if r.stopping then
    if c.verb = .caption then
      (.reportDropped, { r with droppedCaptions := r.droppedCaptions ++ [c.id] })
    else (.keepStopping, r)
  else if c.verb.onLostAck = .reportDropped then
    (c.verb.onLostAck, { r with droppedCaptions := r.droppedCaptions ++ [c.id] })
  else (c.verb.onLostAck, r)

/-- The desired line of a verb; only three verbs have one. -/
def desired (r : ChannelReplay) : Verb → Option Text
  | .reload => r.desiredReloadLine
  | .swap => r.desiredSwapLine
  | .emergency => r.desiredEmergencyLine
  | .caption | .stop => none

/-- The fixed part of a verb's reissue id. -/
def reissueStem : Verb → Text
  | .reload => "reissue-reload-".toList
  | .swap => "reissue-swap-".toList
  | .emergency => "reissue-emergency-".toList
  | .caption | .stop => []

/-- The reissue of one verb, if it has a desired line. -/
def reissue (r : ChannelReplay) (v : Verb) : List Command :=
  match r.desired v with
  | none => []
  | some line => [⟨reissueStem v ++ r.channelId, v, line⟩]

def reissueOnReconnect (r : ChannelReplay) : List Command :=
  if r.stopping then [] else r.reissue .reload ++ r.reissue .swap ++ r.reissue .emergency

end ChannelReplay

/-- `AppliedIdCache`, oldest id first. -/
structure AppliedIdCache where
  capacity : ℕ := 1024
  ids : List Text := []
deriving DecidableEq

namespace AppliedIdCache

def shouldApply (cache : AppliedIdCache) (commandId : Text) : Bool := commandId ∉ cache.ids

/-- `mark_applied`: a known id moves to the end, a new one may push out the
oldest. -/
def markApplied (cache : AppliedIdCache) (commandId : Text) : AppliedIdCache :=
  if commandId ∈ cache.ids then { cache with ids := cache.ids.erase commandId ++ [commandId] }
  else
    { cache with
      ids := (cache.ids ++ [commandId]).drop ((cache.ids ++ [commandId]).length - cache.capacity) }

end AppliedIdCache

/-! ## The strategy's session (`strategy.py`) -/

inductive SessionError where
  | emptyId
  | alreadyPending (id : Text)
  | frameTooLarge
deriving DecidableEq

/-- `encode_envelope_command`: ASCII, so that its length is its size. -/
def encodeEnvelopeCommand (c : Command) : Text :=
  "\x7b\"v\": 1, \"id\": ".toList ++ Text.jsonString c.id ++ ", \"cmd\": ".toList ++
    Text.jsonString c.line ++ "\x7d".toList

def workerPipeFrameCap : ℕ := 16 * 1024

/-- `pending` is the dictionary, keyed by the commands' ids. `transport` is
what was written to the pipe and neither read nor lost. -/
structure WorkerPipeSession where
  replay : ChannelReplay
  pending : List Command := []
  transport : List Command := []
deriving DecidableEq

namespace WorkerPipeSession

/-- `self._pending[command.id] = command`. -/
def setPending (pending : List Command) (c : Command) : List Command :=
  if pending.any (fun p => p.id = c.id) then
    pending.map fun p => if p.id = c.id then c else p
  else pending ++ [c]

/-- `new_command`. Without a `commandId` the id is a fresh `uuid`. -/
def newCommand (s : WorkerPipeSession) (verb : Verb) (line : Text) (commandId : Option Text)
    (uuid : Text) : Except SessionError Command × WorkerPipeSession :=
  let resolved := (commandId.map Text.strip).getD uuid
  if resolved = [] then (.error .emptyId, s)
  else if s.pending.any (fun p => p.id = resolved) then (.error (.alreadyPending resolved), s)
  else
    let c : Command := ⟨resolved, verb, line⟩
    -- the ledger is updated here, before anything is written
    (.ok c, { s with replay := s.replay.recordSent c, pending := setPending s.pending c })

/-- `dispatch`: the command is recorded already when the frame is refused. -/
def dispatch (s : WorkerPipeSession) (c : Command) :
    Except SessionError Text × WorkerPipeSession :=
  if workerPipeFrameCap < (encodeEnvelopeCommand c).length then (.error .frameTooLarge, s)
  else (.ok c.id, { s with transport := s.transport ++ [c] })

/-- Allocate, record and write one new command. -/
def submit (s : WorkerPipeSession) (verb : Verb) (line : Text) (commandId : Option Text)
    (uuid : Text) : Except SessionError Text × WorkerPipeSession :=
  match s.newCommand verb line commandId uuid with
  | (.error e, s') => (.error e, s')
  | (.ok c, s') => s'.dispatch c

/-- `_send`: a reissue checks the frame before it records anything. -/
def sendReissue (s : WorkerPipeSession) (c : Command) :
    Except SessionError Text × WorkerPipeSession :=
  if workerPipeFrameCap < (encodeEnvelopeCommand c).length then (.error .frameTooLarge, s)
  else
    (.ok c.id,
      { replay := s.replay.recordSent c
        pending := setPending s.pending c
        transport := s.transport ++ [c] })

/-- `handle_ack_line` with a well-formed acknowledgement of `commandId`; any
other frame is dropped. -/
def handleAck (s : WorkerPipeSession) (commandId : Text) : WorkerPipeSession :=
  { s with pending := s.pending.filter fun p => p.id ≠ commandId }

def expire (s : WorkerPipeSession) (commandId : Text) :
    Option LostAckOutcome × WorkerPipeSession :=
  match s.pending.find? (fun p => p.id = commandId) with
  | none => (none, s)
  | some c =>
    (some (s.replay.onLostAck c).1,
      { s with
        replay := (s.replay.onLostAck c).2
        pending := s.pending.filter fun p => p.id ≠ commandId })

/-- The comprehension of `reconnect`: an exception stops it. -/
def sendAll (s : WorkerPipeSession) :
    List Command → Except SessionError (List Text) × WorkerPipeSession
  | [] => (.ok [], s)
  | c :: rest =>
    match s.sendReissue c with
    | (.error e, s') => (.error e, s')
    | (.ok id, s') =>
      match s'.sendAll rest with
      | (.error e, s'') => (.error e, s'')
      | (.ok ids, s'') => (.ok (id :: ids), s'')

/-- What is still in flight on the transport of a reconnect: nothing on a
`fresh` one. -/
def inFlight (s : WorkerPipeSession) (fresh : Bool) : List Command :=
  if fresh then [] else s.transport

/-- `reconnect`, `fresh` when it is given a new transport. -/
def reconnect (s : WorkerPipeSession) (fresh : Bool) :
    Except SessionError (List Text) × WorkerPipeSession :=
  sendAll { s with transport := s.inFlight fresh } s.replay.reissueOnReconnect

end WorkerPipeSession

/-! ## The worker (`worker.py`) -/

/-- The cache, and the last line enacted of each verb. -/
structure Worker where
  applied : AppliedIdCache := {}
  enacted : Verb → Option Text := fun _ => none

/-- One command of the pipe reader: a remembered id is acknowledged again and
not enacted. -/
def Worker.receive (w : Worker) (c : Command) : Worker :=
  if w.applied.shouldApply c.id then
    { applied := w.applied.markApplied c.id
      enacted := update w.enacted c.verb (some c.line) }
  else w

/-! ## Runs -/

/-- One channel: the strategy's session and one worker process. -/
structure Seam where
  session : WorkerPipeSession
  worker : Worker := {}

def Seam.fresh (channelId : Text) : Seam where
  session := { replay := { channelId := channelId } }

/-- What can happen on a channel. A frame is read in order or lost; an
acknowledgement arrives or its command expires. -/
inductive SeamEvent where
  | send (verb : Verb) (line : Text) (commandId : Option Text) (uuid : Text)
  | deliver
  | lose (i : ℕ)
  | ack (commandId : Text)
  | expire (commandId : Text)
  | reconnect (fresh : Bool)
deriving DecidableEq

def Seam.step (s : Seam) : SeamEvent → Seam
  | .send verb line commandId uuid =>
    { s with session := (s.session.submit verb line commandId uuid).2 }
  | .deliver =>
    match s.session.transport with
    | [] => s
    | c :: rest =>
      { session := { s.session with transport := rest }, worker := s.worker.receive c }
  | .lose i =>
    { s with session := { s.session with transport := s.session.transport.eraseIdx i } }
  | .ack commandId => { s with session := s.session.handleAck commandId }
  | .expire commandId => { s with session := (s.session.expire commandId).2 }
  | .reconnect fresh => { s with session := (s.session.reconnect fresh).2 }

def Seam.run (s : Seam) (events : List SeamEvent) : Seam := events.foldl Seam.step s

/-! ## What every step keeps -/

/-- The verbs with a desired line. -/
def Verb.replayed : Verb → Bool
  | .reload | .swap | .emergency => true
  | .caption | .stop => false

namespace ChannelReplay

/-- `r'` is a later ledger than `r`: it forgets no desired line and no stop. -/
structure Later (r r' : ChannelReplay) : Prop where
  stopping : r.stopping = true → r'.stopping = true
  desired : ∀ v, (r.desired v).isSome = true → (r'.desired v).isSome = true

lemma Later.refl (r : ChannelReplay) : Later r r := ⟨id, fun _ => id⟩

variable {r : ChannelReplay} {c : Command}

lemma Later.trans {r' r'' : ChannelReplay} (h : Later r r') (h' : Later r' r'') : Later r r'' :=
  ⟨fun hs => h'.stopping (h.stopping hs), fun v hv => h'.desired v (h.desired v hv)⟩

lemma later_recordSent {r : ChannelReplay} {c : Command} : Later r (r.recordSent c) := by
  unfold recordSent
  constructor
  · intro h
    split <;> first | exact h | rfl
  · intro v hv
    split <;> cases v <;> first | exact hv | rfl

lemma later_onLostAck {r : ChannelReplay} {c : Command} : Later r (r.onLostAck c).2 := by
  unfold onLostAck
  constructor
  · intro h
    split_ifs <;> exact h
  · intro v hv
    split_ifs <;> cases v <;> exact hv

lemma desired_recordSent (h : c.verb.replayed = true) :
    ((r.recordSent c).desired c.verb).isSome = true := by
  rcases c with ⟨id, verb, line⟩
  cases verb with
  | caption | stop => cases h
  | _ => rfl

lemma recordSent_reissued (h : r.desired c.verb = some c.line) : r.recordSent c = r := by
  rcases c with ⟨id, verb, line⟩
  cases verb with
  | reload =>
    change ({ r with desiredReloadLine := some line } : ChannelReplay) = r
    rw [← h]
    rfl
  | swap =>
    change ({ r with desiredSwapLine := some line } : ChannelReplay) = r
    rw [← h]
    rfl
  | emergency =>
    change ({ r with desiredEmergencyLine := some line } : ChannelReplay) = r
    rw [← h]
    rfl
  | caption | stop => cases h

lemma mem_reissue {v : Verb} : c ∈ r.reissue v → c.verb = v ∧ r.desired v = some c.line := by
  unfold reissue
  split
  · exact nofun
  · rename_i line hline
    intro hc
    obtain rfl := mem_singleton.mp hc
    exact ⟨rfl, hline⟩

lemma mem_reissueOnReconnect (h : c ∈ r.reissueOnReconnect) :
    c.verb.replayed = true ∧ r.desired c.verb = some c.line := by
  unfold reissueOnReconnect at h
  split at h
  · cases h
  · simp only [mem_append] at h
    rcases h with (h | h) | h <;> obtain ⟨hv, hd⟩ := mem_reissue h <;> rw [hv] <;>
      exact ⟨rfl, hd⟩

/-- A live channel reissues every desired line, once. -/
lemma exists_reissue (hlive : r.stopping = false) {v : Verb} {line : Text}
    (h : r.desired v = some line) : ∃ c ∈ r.reissueOnReconnect, c.verb = v ∧ c.line = line := by
  have hmem : (⟨reissueStem v ++ r.channelId, v, line⟩ : Command) ∈ r.reissue v := by
    unfold reissue
    rw [h]
    exact mem_singleton.mpr rfl
  refine ⟨⟨reissueStem v ++ r.channelId, v, line⟩, ?_, rfl, rfl⟩
  unfold reissueOnReconnect
  rw [hlive, if_neg (by decide)]
  simp only [mem_append]
  cases v with
  | reload => exact .inl (.inl hmem)
  | swap => exact .inl (.inr hmem)
  | emergency => exact .inr hmem
  | caption | stop => cases h

lemma nodup_reissueOnReconnect (r : ChannelReplay) :
    (r.reissueOnReconnect.map Command.verb).Nodup := by
  have hverbs : ∀ v, r.reissue v = [] ∨ ∃ c, r.reissue v = [c] ∧ c.verb = v := by
    intro v
    unfold reissue
    cases r.desired v with
    | none => exact .inl rfl
    | some line => exact .inr ⟨_, rfl, rfl⟩
  unfold reissueOnReconnect
  split
  · exact nodup_nil
  · rcases hverbs .reload with h₁ | ⟨c₁, h₁, hv₁⟩ <;>
      rcases hverbs .swap with h₂ | ⟨c₂, h₂, hv₂⟩ <;>
      rcases hverbs .emergency with h₃ | ⟨c₃, h₃, hv₃⟩ <;> simp [*]

end ChannelReplay

namespace WorkerPipeSession

/-- What a session function may do: the ledger only grows, and every frame of
a replayed verb in flight has a desired line. -/
structure Backed (s s' : WorkerPipeSession) : Prop where
  later : s.replay.Later s'.replay
  frames : ∀ c ∈ s'.transport, c ∈ s.transport ∨
    (c.verb.replayed = true → (s'.replay.desired c.verb).isSome = true)

lemma Backed.refl (s : WorkerPipeSession) : Backed s s := ⟨.refl _, fun _ => .inl⟩

variable {s s' : WorkerPipeSession}

lemma Backed.trans {s'' : WorkerPipeSession} (h : Backed s s') (h' : Backed s' s'') :
    Backed s s'' := by
  refine ⟨h.later.trans h'.later, fun c hc => ?_⟩
  rcases h'.frames c hc with hc | hc
  · rcases h.frames c hc with hc | hc
    · exact .inl hc
    · exact .inr fun hv => h'.later.desired _ (hc hv)
  · exact .inr hc

lemma backed_submit (s : WorkerPipeSession) (verb : Verb) (line : Text)
    (commandId : Option Text) (uuid : Text) : Backed s (s.submit verb line commandId uuid).2 := by
  unfold submit newCommand
  by_cases hempty : (commandId.map Text.strip).getD uuid = []
  · rw [if_pos hempty]
    exact .refl s
  · rw [if_neg hempty]
    by_cases hpending : (s.pending.any fun p => p.id = (commandId.map Text.strip).getD uuid) = true
    · rw [if_pos hpending]
      exact .refl s
    · rw [if_neg hpending]
      unfold dispatch
      dsimp only
      split_ifs
      · exact ⟨ChannelReplay.later_recordSent, fun _ => .inl⟩
      -- a frame over the cap: recorded, never written
      · refine ⟨ChannelReplay.later_recordSent, fun c hc => ?_⟩
        rcases mem_append.mp hc with hc | hc
        · exact .inl hc
        · obtain rfl := mem_singleton.mp hc
          exact .inr ChannelReplay.desired_recordSent

lemma backed_sendReissue (s : WorkerPipeSession) (c : Command) : Backed s (s.sendReissue c).2 := by
  unfold sendReissue
  split_ifs
  · exact .refl s
  · refine ⟨ChannelReplay.later_recordSent, fun c' hc => ?_⟩
    rcases mem_append.mp hc with hc | hc
    · exact .inl hc
    · obtain rfl := mem_singleton.mp hc
      exact .inr ChannelReplay.desired_recordSent

lemma backed_sendAll {cs : List Command} : ∀ s : WorkerPipeSession, Backed s (s.sendAll cs).2 := by
  induction cs with
  | nil => exact fun s => .refl s
  | cons c rest ih =>
    intro s
    unfold sendAll
    have hfirst := backed_sendReissue s c
    split
    · rename_i hsend
      rw [hsend] at hfirst
      exact hfirst
    · rename_i id s' hsend
      rw [hsend] at hfirst
      have hrest := ih s'
      split <;> rename_i hall <;> rw [hall] at hrest <;> exact hfirst.trans hrest

lemma backed_expire (s : WorkerPipeSession) (commandId : Text) :
    Backed s (s.expire commandId).2 := by
  unfold expire
  split
  · exact .refl s
  · exact ⟨ChannelReplay.later_onLostAck, fun _ => .inl⟩

lemma backed_reconnect (s : WorkerPipeSession) (fresh : Bool) : Backed s (s.reconnect fresh).2 := by
  have hfresh : Backed s { s with transport := s.inFlight fresh } := by
    refine ⟨.refl _, fun c hc => ?_⟩
    cases fresh with
    | true => cases hc
    | false => exact .inl hc
  exact hfresh.trans (backed_sendAll _)

/-- A reconnect that does not raise writes the whole reissue and leaves the
ledger as it is. -/
lemma sendAll_ok {cs : List Command} : ∀ {s s' : WorkerPipeSession} {ids : List Text},
    (∀ c ∈ cs, s.replay.desired c.verb = some c.line) → s.sendAll cs = (.ok ids, s') →
    s'.transport = s.transport ++ cs ∧ s'.replay = s.replay := by
  induction cs with
  | nil =>
    intro s s' ids _ h
    cases h
    exact ⟨(append_nil _).symm, rfl⟩
  | cons c rest ih =>
    intro s s' ids hdesired h
    have hc := ChannelReplay.recordSent_reissued (hdesired c mem_cons_self)
    unfold sendAll at h
    by_cases hcap : workerPipeFrameCap < (encodeEnvelopeCommand c).length
    -- a reissue over the cap would have raised
    · simp [sendReissue, hcap] at h
    · simp only [sendReissue, if_neg hcap, hc] at h
      split at h
      · cases h
      · rename_i ids' s'' hall
        cases h
        obtain ⟨htransport, hreplay⟩ :=
          ih (s := ⟨s.replay, setPending s.pending c, s.transport ++ [c]⟩)
            (fun c' hc' => hdesired c' (mem_cons_of_mem _ hc')) hall
        refine ⟨?_, hreplay⟩
        rw [htransport, append_assoc]
        rfl

lemma reconnect_ok {fresh : Bool} {ids : List Text} (h : s.reconnect fresh = (.ok ids, s')) :
    s'.transport = s.inFlight fresh ++ s.replay.reissueOnReconnect ∧ s'.replay = s.replay :=
  sendAll_ok (fun _ hc => (ChannelReplay.mem_reissueOnReconnect hc).2) h

end WorkerPipeSession

/-! ## The invariant of a run -/

/-- Nothing of a replayed verb was enacted or is in flight without a desired
line. -/
structure Seam.Inv (s : Seam) : Prop where
  frames : ∀ c ∈ s.session.transport, c.verb.replayed = true →
    (s.session.replay.desired c.verb).isSome = true
  lines : ∀ v, v.replayed = true → (s.worker.enacted v).isSome = true →
    (s.session.replay.desired v).isSome = true

variable {s : Seam}

lemma Seam.Inv.backed (h : s.Inv) {session : WorkerPipeSession}
    (hsession : s.session.Backed session) : Seam.Inv { s with session := session } := by
  constructor
  · intro c hc hv
    rcases hsession.frames c hc with hc | hc
    · exact hsession.later.desired _ (h.frames c hc hv)
    · exact hc hv
  · intro v hv hline
    exact hsession.later.desired v (h.lines v hv hline)

lemma Worker.receive_enacted (w : Worker) (c : Command) (v : Verb) :
    (w.receive c).enacted v = w.enacted v ∨ v = c.verb ∧ (w.receive c).enacted v = some c.line := by
  unfold receive
  split_ifs
  · by_cases hv : v = c.verb
    · subst hv
      exact .inr ⟨rfl, update_self _ _ _⟩
    · exact .inl (update_of_ne hv _ _)
  · exact .inl rfl

lemma Seam.Inv.receive (h : s.Inv) {c : Command}
    (hc : c.verb.replayed = true → (s.session.replay.desired c.verb).isSome = true) :
    Seam.Inv { s with worker := s.worker.receive c } := by
  refine ⟨h.frames, fun v hv hline => ?_⟩
  rcases s.worker.receive_enacted c v with heq | ⟨rfl, -⟩
  · exact h.lines v hv (heq ▸ hline)
  · exact hc hv

lemma Seam.Inv.step (h : s.Inv) (e : SeamEvent) : (s.step e).Inv := by
  cases e with
  | send verb line commandId uuid => exact h.backed (s.session.backed_submit _ _ _ _)
  | deliver =>
    unfold Seam.step
    dsimp only
    split
    · exact h
    · rename_i c rest htransport
      have hmem : c ∈ s.session.transport := by rw [htransport]; exact mem_cons_self
      have hread : WorkerPipeSession.Backed s.session { s.session with transport := rest } := by
        refine ⟨.refl _, fun c' hc' => .inl ?_⟩
        rw [htransport]
        exact mem_cons_of_mem _ hc'
      -- the frame leaves the pipe, then the worker reads it
      exact (h.backed hread).receive (h.frames c hmem)
  | lose i =>
    exact h.backed ⟨.refl _, fun c hc => .inl (mem_of_mem_eraseIdx hc)⟩
  | ack commandId => exact h.backed ⟨.refl _, fun _ => .inl⟩
  | expire commandId => exact h.backed (s.session.backed_expire _)
  | reconnect fresh => exact h.backed (s.session.backed_reconnect _)

lemma Seam.Inv.run (h : s.Inv) (events : List SeamEvent) : (s.run events).Inv := by
  induction events generalizing s with
  | nil => exact h
  | cons e events ih => exact ih (h.step e)

lemma Seam.inv_fresh {channelId : Text} : (Seam.fresh channelId).Inv :=
  ⟨nofun, nofun⟩

lemma Seam.stopping_step (h : s.session.replay.stopping = true) (e : SeamEvent) :
    (s.step e).session.replay.stopping = true := by
  cases e with
  | send verb line commandId uuid => exact (s.session.backed_submit _ _ _ _).later.stopping h
  | deliver =>
    unfold Seam.step
    dsimp only
    split <;> exact h
  | lose i | ack commandId => exact h
  | expire commandId => exact (s.session.backed_expire _).later.stopping h
  | reconnect fresh => exact (s.session.backed_reconnect _).later.stopping h

lemma Seam.stopping_run (h : s.session.replay.stopping = true)
    (events : List SeamEvent) : (s.run events).session.replay.stopping = true := by
  induction events generalizing s with
  | nil => exact h
  | cons e events ih => exact ih (Seam.stopping_step h e)

/-! ## Convergence -/

/-- The worker's last enacted lines are the desired ones. -/
def Converged (w : Worker) (r : ChannelReplay) : Prop :=
  ∀ v, v.replayed = true → w.enacted v = r.desired v

def AppliedIdCache.withId (cache : AppliedIdCache) (commandId : Text) : AppliedIdCache :=
  if cache.shouldApply commandId then cache.markApplied commandId else cache

/-- Each of these commands, in its turn, has an id the cache does not hold, or
repeats the line `enacted` last for its verb. -/
def Effective (enacted : Verb → Option Text) : AppliedIdCache → List Command → Prop
  | _, [] => True
  | cache, c :: rest =>
    (cache.shouldApply c.id = true ∨ enacted c.verb = some c.line) ∧
      Effective enacted (cache.withId c.id) rest

instance Effective.decidable (enacted : Verb → Option Text) :
    (cache : AppliedIdCache) → (cs : List Command) → Decidable (Effective enacted cache cs)
  | _, [] => inferInstanceAs (Decidable True)
  | cache, c :: rest =>
    have := Effective.decidable enacted (cache.withId c.id) rest
    inferInstanceAs (Decidable (_ ∧ _))

lemma Worker.receive_applied (w : Worker) (c : Command) :
    (w.receive c).applied = w.applied.withId c.id := by
  unfold receive AppliedIdCache.withId
  split_ifs <;> rfl

lemma Worker.foldl_receive_enacted {v : Verb} (cs : List Command) :
    ∀ w : Worker, v ∉ cs.map Command.verb →
      (cs.foldl Worker.receive w).enacted v = w.enacted v := by
  induction cs with
  | nil => intro w _; rfl
  | cons c rest ih =>
    intro w hv
    rw [map_cons, mem_cons, not_or] at hv
    rw [foldl_cons, ih _ hv.2]
    rcases w.receive_enacted c v with heq | ⟨heq, -⟩
    · exact heq
    · exact absurd heq hv.1

lemma effective_congr {enacted enacted' : Verb → Option Text} (cs : List Command) :
    ∀ cache, (∀ c ∈ cs, enacted c.verb = enacted' c.verb) →
      (Effective enacted cache cs ↔ Effective enacted' cache cs) := by
  induction cs with
  | nil => intro _ _; rfl
  | cons c rest ih =>
    intro cache h
    unfold Effective
    rw [h c mem_cons_self, ih _ fun c' hc' => h c' (mem_cons_of_mem _ hc')]

/-- Commands of distinct verbs all have the desired effect exactly when they
are effective. -/
lemma Worker.foldl_receive_iff {cs : List Command} : ∀ w : Worker,
    (cs.map Command.verb).Nodup →
    ((∀ c ∈ cs, (cs.foldl Worker.receive w).enacted c.verb = some c.line) ↔
      Effective w.enacted w.applied cs) := by
  induction cs with
  | nil => intro w _; simp [Effective]
  | cons c rest ih =>
    intro w hnodup
    rw [map_cons, nodup_cons] at hnodup
    -- after `c`, only commands of other verbs follow
    have hc : ((c :: rest).foldl Worker.receive w).enacted c.verb =
        (w.receive c).enacted c.verb := by
      rw [foldl_cons, Worker.foldl_receive_enacted rest _ hnodup.1]
    have hother : ∀ c' ∈ rest, (w.receive c).enacted c'.verb = w.enacted c'.verb := by
      intro c' hc'
      rcases w.receive_enacted c c'.verb with heq | ⟨heq, -⟩
      · exact heq
      · exact absurd (heq ▸ mem_map_of_mem hc') hnodup.1
    have hfirst : (w.receive c).enacted c.verb = some c.line ↔
        w.applied.shouldApply c.id = true ∨ w.enacted c.verb = some c.line := by
      unfold receive
      split_ifs with happly
      · simp [happly]
      · simp [happly]
    rw [forall_mem_cons, hc, hfirst, foldl_cons, ih _ hnodup.2, receive_applied,
      effective_congr rest _ hother]
    rfl

lemma Seam.Inv.receiveAll (h : s.Inv) {cs : List Command}
    (hcs : ∀ c ∈ cs, c.verb.replayed = true → (s.session.replay.desired c.verb).isSome = true) :
    Seam.Inv { s with worker := cs.foldl Worker.receive s.worker } := by
  induction cs generalizing s with
  | nil => exact h
  | cons c rest ih =>
    exact ih (h.receive (hcs c mem_cons_self)) fun c' hc' =>
      hcs c' (mem_cons_of_mem _ hc')

/-- Delivering the whole reissue converges exactly when all of it is
effective. -/
lemma Seam.Inv.converged_iff (h : s.Inv) (hlive : s.session.replay.stopping = false) :
    Converged (s.session.replay.reissueOnReconnect.foldl Worker.receive s.worker) s.session.replay ↔
      Effective s.worker.enacted s.worker.applied s.session.replay.reissueOnReconnect := by
  rw [← Worker.foldl_receive_iff _ s.session.replay.nodup_reissueOnReconnect]
  constructor
  · intro hconverged c hc
    rcases ChannelReplay.mem_reissueOnReconnect hc with ⟨hv, hdesired⟩
    rw [hconverged c.verb hv, hdesired]
  · intro hlines v hv
    cases hdesired : s.session.replay.desired v with
    | some line =>
      rcases ChannelReplay.exists_reissue hlive hdesired with ⟨c, hc, rfl, rfl⟩
      exact hlines c hc
    | none =>
      -- a verb that was never sent is neither reissued nor enacted
      have hnot : v ∉ s.session.replay.reissueOnReconnect.map Command.verb := by
        intro hmem
        rcases mem_map.mp hmem with ⟨c, hc, rfl⟩
        have hsome := (ChannelReplay.mem_reissueOnReconnect hc).2
        rw [hdesired] at hsome
        cases hsome
      rw [Worker.foldl_receive_enacted _ _ hnot]
      by_contra hne
      have hsome := h.lines v hv (Option.isSome_iff_ne_none.mpr hne)
      rw [hdesired] at hsome
      cases hsome

/-- After any run, a reconnect all of whose reissue is delivered, behind any
`older` frames still in flight, brings the worker to the desired lines exactly
when every reissued command reaches it with an id it does not remember or
repeats its last line of that verb. And once a stop was recorded, no reconnect
writes anything. -/
theorem reconnect_converges_iff {channelId : Text} {events : List SeamEvent} {s : Seam}
    (hrun : (Seam.fresh channelId).run events = s) (fresh : Bool) :
    (∀ (ids : List Text) (session : WorkerPipeSession) (older reissued : List Command),
      s.session.replay.stopping = false →
      s.session.reconnect fresh = (.ok ids, session) →
      session.transport = s.session.inFlight fresh ++ reissued →
      older.Sublist (s.session.inFlight fresh) →
      (Converged (reissued.foldl Worker.receive (older.foldl Worker.receive s.worker))
          session.replay ↔
        Effective (older.foldl Worker.receive s.worker).enacted
          (older.foldl Worker.receive s.worker).applied s.session.replay.reissueOnReconnect)) ∧
    (s.session.replay.stopping = true → ∀ later,
      (s.run later).session.reconnect fresh =
        (.ok [], { (s.run later).session with
          transport := (s.run later).session.inFlight fresh })) := by
  have hinv : s.Inv := hrun ▸ (Seam.inv_fresh).run events
  constructor
  · intro ids session older reissued hlive hreconnect hwritten holder
    rcases WorkerPipeSession.reconnect_ok hreconnect with ⟨htransport, hreplay⟩
    -- what was written behind the frames in flight is the whole reissue
    have hreissued : reissued = s.session.replay.reissueOnReconnect :=
      append_cancel_left (hwritten.symm.trans htransport)
    have hframes : ∀ c ∈ older, c.verb.replayed = true →
        (s.session.replay.desired c.verb).isSome = true := by
      intro c hc
      refine hinv.frames c ?_
      have hflight := holder.subset hc
      cases fresh with
      | true => cases hflight
      | false => exact hflight
    rw [hreissued, hreplay]
    exact (hinv.receiveAll hframes).converged_iff hlive
  · intro hstopping later
    have hlater := Seam.stopping_run hstopping later
    unfold WorkerPipeSession.reconnect ChannelReplay.reissueOnReconnect
    rw [if_pos hlater]
    rfl

/-! ### A concrete channel -/

/-- One delivered and acknowledged reload, then a reconnect whose reissue is
delivered too. -/
def reloadedOnce : List SeamEvent :=
  [.send .reload "reload a".toList none "u1".toList, .deliver, .ack "u1".toList,
    .reconnect true, .deliver, .ack "reissue-reload-A".toList]

/-- A second reload is lost; the next reconnect reissues it under the id of
the first reissue, and the worker keeps the old line. -/
theorem reconnect_keeps_stale_line :
    ¬ ∀ (channelId : Text) (events : List SeamEvent) (s : Seam) (fresh : Bool) (ids : List Text)
      (session : WorkerPipeSession) (older reissued : List Command),
      (Seam.fresh channelId).run events = s → s.session.replay.stopping = false →
      s.session.reconnect fresh = (.ok ids, session) →
      session.transport = s.session.inFlight fresh ++ reissued →
      older.Sublist (s.session.inFlight fresh) →
      Converged (reissued.foldl Worker.receive (older.foldl Worker.receive s.worker))
        session.replay := by
  intro h
  have hstale := h "A".toList
    (reloadedOnce ++ [.send .reload "reload b".toList none "u2".toList, .lose 0,
      .expire "u2".toList]) _ true
    ["reissue-reload-A".toList] _ [] [⟨"reissue-reload-A".toList, .reload, "reload b".toList⟩]
    rfl (by decide +kernel) (by rfl) (by decide +kernel) (List.Sublist.refl _) .reload rfl
  revert hstale
  decide +kernel

/-- The same channel without the loss. -/
def reloadedTwice : Seam :=
  (Seam.fresh "A".toList).run (reloadedOnce ++
    [SeamEvent.send .reload "reload b".toList none "u2".toList, .deliver])

/-- There the worker has the line already, and the reissue may be taken for a
redelivery. -/
theorem reconnect_converges_delivered :
    Converged (reloadedTwice.worker.receive
      ⟨"reissue-reload-A".toList, .reload, "reload b".toList⟩)
      (reloadedTwice.session.reconnect true).2.replay := by
  have hiff := (reconnect_converges_iff (s := reloadedTwice) rfl true).1
    ["reissue-reload-A".toList] (reloadedTwice.session.reconnect true).2 []
    [⟨"reissue-reload-A".toList, .reload, "reload b".toList⟩] (by decide +kernel)
    (by decide +kernel) (by decide +kernel) (List.Sublist.refl _)
  exact hiff.mpr (by decide +kernel)

end CivicCast.Egress
