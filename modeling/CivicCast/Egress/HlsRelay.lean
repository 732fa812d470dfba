import CivicCast.Lib.Python

/-! # Recovery of an HLS relay

`HlsRelaySupervisor` on one (channel, sink): the stall self-heal, the restart
of a child that cannot carry its streams, and the reclaim of a port that an
orphan holds. Each of the three replaces the child by a fresh record and then
carries its own bookkeeping onto it: the heal its latch, the restart its
attempt count, the reclaim its reclaim count.

The bounds they keep are meant for a fault episode, which ends when the served
window advances to a segment not served before. A run counts, beside the
record, what was done since that last happened. Each path drops what the other
two have written on the record, so the bounds hold in the runs where no path
replaces a child that another one has an open count on
(`recovery_bounds_hold`), and not in all of them.
-/

namespace CivicCast.Egress

open Lib Option

inductive StreamKind where
  | video
  | audio
deriving DecidableEq

/-- What the supervisor and the sink fix. -/
structure RelayConfig where
  stallBound : ℚ := 30
  streamRetryDelay : ℚ := 5
  streamRetrySlowDelay : ℚ := 60
  /-- `_sink_required_kinds`. -/
  requiredKinds : List StreamKind := [.video, .audio]
  /-- `udp_port_of(relay_uri)`. -/
  udpPort : Option ℕ := some 18000

def streamFastAttempts : ℕ := 3

/-- `_Relay`: the record of one child, and whether it still runs. -/
structure Relay where
  alive : Bool := true
  progressSegment : Option Text := none
  progressAt : Option ℚ := none
  healAttempted : Bool := false
  healBaselineSegment : Option Text := none
  startedAt : ℚ
  streamsVerified : Bool := false
  streamsProbedSegment : Option Text := none
  streamFaultAttempts : ℕ := 0
  streamRetryNotBefore : Option ℚ := none
  orphanReclaimAttempted : Bool := false
  orphanReclaimAttempts : ℕ := 0
deriving DecidableEq

/-- The record of the (channel, sink), if one is tracked, and the last segment
of the advertised playlist, if it can be read. -/
structure SinkState where
  relay : Option Relay
  window : Option Text
deriving DecidableEq

/-- How a respawn ends: whether the old playlist could be withdrawn, and when
the new child started, unless it could not be spawned. -/
structure Spawn where
  withdrawn : Bool
  startedAt : Option ℚ
deriving DecidableEq

/-- `_respawn_locked`: a fresh record in place of the old one. -/
def respawnLocked (s : SinkState) (spawn : Spawn) : SinkState where
  relay := spawn.startedAt.map fun startedAt => { startedAt }
  window := if spawn.withdrawn then none else s.window

/-- What a path carries onto the replacement. -/
def SinkState.carry (s : SinkState) (f : Relay → Relay) : SinkState :=
  { s with relay := s.relay.map f }

/-! ## Progress -/

/-- `note_progress` on a record with a readable window. -/
def Relay.noteSegment (r : Relay) (segment : Text) (now : ℚ) : Relay :=
  if r.progressSegment ≠ some segment then
    -- only a segment other than the one the heal began with lets go of the latch
    let advanced := r.healAttempted ∧ r.healBaselineSegment ≠ some segment
    { r with
      healAttempted := if advanced then false else r.healAttempted
      healBaselineSegment := if advanced then none else r.healBaselineSegment
      progressSegment := some segment
      progressAt := some now }
  else if r.progressAt = none then { r with progressAt := some now }
  else r

def noteProgress (s : SinkState) (now : ℚ) : SinkState :=
  match s.window with
  | none => s
  | some segment => s.carry fun r => r.noteSegment segment now

/-! ## The stall self-heal -/

/-- The gates every watch of a running child has. -/
structure Watch where
  now : ℚ
  producing : Bool
  startupGrace : ℚ

def Relay.inGrace (r : Relay) (w : Watch) : Bool := w.now - r.startedAt < w.startupGrace

/-- The child has served no window, or none that moved within the bound. -/
def Relay.stalled (c : RelayConfig) (r : Relay) (now : ℚ) : Bool :=
  match r.progressSegment, r.progressAt with
  | some _, some since => c.stallBound < now - since
  | _, _ => true

/-- The segment the heal starts from. -/
def Relay.baseline (r : Relay) : Option Text :=
  match r.progressSegment, r.progressAt with
  | some segment, some _ => some segment
  | _, _ => none

/-- `maybe_self_heal_stalled` restarts this child. -/
def Relay.healDue (c : RelayConfig) (r : Relay) (w : Watch) : Bool :=
  w.producing ∧ r.alive ∧ r.healAttempted = false ∧ r.inGrace w = false ∧ r.stalled c w.now

/-- `maybe_self_heal_stalled`: the latch and the baseline go to the new
child. -/
def maybeSelfHealStalled (c : RelayConfig) (s : SinkState) (w : Watch) (spawn : Spawn) :
    SinkState :=
  match s.relay with
  | none => s
  | some r =>
    if r.healDue c w then
      (respawnLocked s spawn).carry fun new => { new with
        healAttempted := true
        healBaselineSegment := r.baseline
        progressSegment := r.baseline
        -- the stall clock starts anew for the replacement
        progressAt := some w.now }
    else s

/-! ## Missing streams and orphans -/

/-- What `maybe_restore_missing_streams` meets beside the record. -/
structure RestoreWorld where
  bindFailure : Bool
  /-- `decide_reclaim` allows it and the kill succeeds. -/
  reaped : Bool
  reclaimSpawn : Spawn
  probe : Option (List StreamKind)
  restartSpawn : Spawn

/-- `_stream_retry_blocked`. -/
def Relay.retryBlocked (r : Relay) (now : ℚ) : Bool := ∃ t ∈ r.streamRetryNotBefore, now < t

def RelayConfig.retryDelay (c : RelayConfig) (attempts : ℕ) : ℚ :=
  if attempts ≤ streamFastAttempts then c.streamRetryDelay else c.streamRetrySlowDelay

/-- `_maybe_reclaim_orphan` looks for the holder of the port. -/
def Relay.reclaimDue (c : RelayConfig) (r : Relay) (now : ℚ) (world : RestoreWorld) : Bool :=
  r.orphanReclaimAttempted = false ∧
    ¬ (streamFastAttempts ≤ r.orphanReclaimAttempts ∧ r.retryBlocked now) ∧
    c.udpPort.isSome ∧ world.bindFailure

/-- `_maybe_reclaim_orphan` reaps the holder and its respawn succeeds. -/
def Relay.reclaims (c : RelayConfig) (r : Relay) (now : ℚ) (world : RestoreWorld) : Bool :=
  r.reclaimDue c now world ∧ world.reaped ∧ world.reclaimSpawn.startedAt.isSome

def attemptStreamRestart (c : RelayConfig) (s : SinkState) (r : Relay) (now : ℚ) (spawn : Spawn) :
    SinkState :=
  (respawnLocked s spawn).carry fun new => { new with
    streamFaultAttempts := r.streamFaultAttempts + 1
    streamRetryNotBefore := some (now + c.retryDelay (r.streamFaultAttempts + 1)) }

/-- The respawn of `_maybe_reclaim_orphan`. -/
def reclaimOrphan (c : RelayConfig) (s : SinkState) (r : Relay) (now : ℚ) (spawn : Spawn) :
    SinkState :=
  (respawnLocked s spawn).carry fun new => { new with
    orphanReclaimAttempts := r.orphanReclaimAttempts + 1
    streamRetryNotBefore := some (now + c.retryDelay (r.orphanReclaimAttempts + 1)) }

/-- The segment of a running child that is due for a probe. -/
def Relay.probeDue (c : RelayConfig) (r : Relay) (window : Option Text) (w : Watch) :
    Option Text :=
  if w.producing = false ∨ r.streamsVerified ∨ c.requiredKinds = [] ∨ r.inGrace w then none
  else if window = r.streamsProbedSegment then none
  else window

/-- `required - kinds`. -/
def RelayConfig.missing (c : RelayConfig) (kinds : List StreamKind) : List StreamKind :=
  c.requiredKinds.filter fun k => k ∉ kinds

/-- What `maybe_restore_missing_streams` does with the record. -/
inductive RestoreAction where
  | leave
  /-- The probe cannot tell, or its restart has to wait. -/
  | probed (segment : Text)
  | verified (segment : Text)
  | reclaim
  | restart
deriving DecidableEq

/-- The choice of `maybe_restore_missing_streams`. -/
def Relay.restoreAction (c : RelayConfig) (r : Relay) (window : Option Text) (w : Watch)
    (world : RestoreWorld) : RestoreAction :=
  if r.alive = false then
    if r.reclaims c w.now world then .reclaim
    -- a reclaim does not wait for the backoff, a restart does
    else if r.retryBlocked w.now then .leave
    else .restart
  else
    match r.probeDue c window w with
    | none => .leave
    | some segment =>
      match world.probe with
      | none => .probed segment
      | some kinds =>
        if c.missing kinds = [] then .verified segment
        else if r.retryBlocked w.now then .probed segment
        else .restart

/-- A probe for the holder that reaped nothing latches the record. -/
def Relay.latchReclaim (c : RelayConfig) (r : Relay) (now : ℚ) (world : RestoreWorld) : Relay :=
  if r.alive = false ∧ r.reclaimDue c now world then { r with orphanReclaimAttempted := true }
  else r

/-- The playlist after the respawns of this call: one that reaped but could not
spawn has withdrawn it too. -/
def SinkState.afterReclaim (c : RelayConfig) (s : SinkState) (r : Relay) (now : ℚ)
    (world : RestoreWorld) : SinkState :=
  if r.alive = false ∧ r.reclaimDue c now world ∧ world.reaped then
    respawnLocked s world.reclaimSpawn
  else s

def maybeRestoreMissingStreams (c : RelayConfig) (s : SinkState) (w : Watch)
    (world : RestoreWorld) : SinkState :=
  match s.relay with
  | none => s
  | some r =>
    match r.restoreAction c s.window w world with
    | .reclaim => reclaimOrphan c s r w.now world.reclaimSpawn
    | .restart =>
      attemptStreamRestart c (s.afterReclaim c r w.now world) r w.now world.restartSpawn
    | .leave => (s.afterReclaim c r w.now world).carry fun r => r.latchReclaim c w.now world
    | .probed segment => s.carry fun r => { r with streamsProbedSegment := some segment }
    | .verified segment => s.carry fun r => { r with
        streamsProbedSegment := some segment
        streamsVerified := true
        streamFaultAttempts := 0
        streamRetryNotBefore := none }

/-! ## Runs -/

/-- What happens to a (channel, sink): its window is served anew or goes away,
its child exits, or the supervisor is called. -/
inductive RelayEvent where
  | serve (window : Option Text)
  | exit
  | noteProgress (now : ℚ)
  | selfHeal (watch : Watch) (spawn : Spawn)
  | restore (watch : Watch) (world : RestoreWorld)

/-- The sink with what was done since its window last advanced. -/
structure Episode where
  sink : SinkState
  /-- Every segment that was the last of the window. -/
  served : List Text
  /-- Self-heal respawns since the window last advanced. -/
  heals : ℕ := 0
  /-- Reclaims inside the retry backoff since the window last advanced. -/
  jumps : ℕ := 0
  /-- Times the attempt count fell other than by a verified probe. -/
  falls : ℕ := 0

/-- The attempt count of the second state is below that of the first. -/
def countFell (before after : SinkState) : Bool :=
  ∃ old ∈ before.relay, ∃ new ∈ after.relay, new.streamFaultAttempts < old.streamFaultAttempts

namespace Episode

/-- The window is served anew; a segment not served before ends the episode. -/
def serve (e : Episode) (window : Option Text) : Episode :=
  let sink := { e.sink with window := window }
  match window with
  | none => { e with sink := sink }
  | some segment =>
    -- a segment seen before is not progress: a restarted child may count from one again
    if segment ∈ e.served then { e with sink := sink }
    else { e with sink := sink, served := segment :: e.served, heals := 0, jumps := 0 }

def healing (c : RelayConfig) (e : Episode) (w : Watch) : Bool :=
  match e.sink.relay with
  | none => false
  | some r => r.healDue c w

def restoring (c : RelayConfig) (e : Episode) (w : Watch) (world : RestoreWorld) : RestoreAction :=
  match e.sink.relay with
  | none => .leave
  | some r => r.restoreAction c e.sink.window w world

/-- The child is inside its retry backoff. -/
def blocked (e : Episode) (now : ℚ) : Bool :=
  match e.sink.relay with
  | none => false
  | some r => r.retryBlocked now

def heal (c : RelayConfig) (e : Episode) (w : Watch) (spawn : Spawn) : Episode :=
  { e with
    sink := maybeSelfHealStalled c e.sink w spawn
    heals := if e.healing c w then e.heals + 1 else e.heals }

def restore (c : RelayConfig) (e : Episode) (w : Watch) (world : RestoreWorld) : Episode :=
  { e with
    sink := maybeRestoreMissingStreams c e.sink w world
    jumps := if e.restoring c w world = .reclaim ∧ e.blocked w.now then e.jumps + 1 else e.jumps }

/-- One event, but for the falls of the attempt count. -/
def act (c : RelayConfig) (e : Episode) : RelayEvent → Episode
  | .serve window => e.serve window
  | .exit => { e with sink := e.sink.carry fun r => { r with alive := false } }
  | .noteProgress now => { e with sink := CivicCast.Egress.noteProgress e.sink now }
  | .selfHeal w spawn => e.heal c w spawn
  | .restore w world => e.restore c w world

/-- A probe finds every required stream. -/
def verifies (c : RelayConfig) (e : Episode) : RelayEvent → Bool
  | .restore w world =>
    match e.restoring c w world with
    | .verified _ => true
    | .leave | .probed _ | .reclaim | .restart => false
  | .serve _ | .exit | .noteProgress _ | .selfHeal _ _ => false

def step (c : RelayConfig) (e : Episode) (event : RelayEvent) : Episode :=
  let next := e.act c event
  { next with falls :=
      if countFell e.sink next.sink ∧ e.verifies c event = false then e.falls + 1 else e.falls }

def run (c : RelayConfig) : Episode → List RelayEvent → Episode
  | e, [] => e
  | e, event :: rest => run c (e.step c event) rest

/-- A child just started, with a window that was served. -/
def start (startedAt : ℚ) (window : Option Text) (served : List Text) : Episode where
  sink := { relay := some { startedAt }, window := window }
  served := window.toList ++ served

/-- At most one heal, at most the fast attempts of reclaims that jump the
backoff, and an attempt count that only a verified probe takes back. -/
def WithinBounds (e : Episode) : Prop :=
  e.heals ≤ 1 ∧ e.jumps ≤ streamFastAttempts ∧ e.falls = 0

instance (e : Episode) : Decidable e.WithinBounds := inferInstanceAs (Decidable (_ ∧ _))

end Episode

/-! ## When the bounds hold -/

/-- The record latched by a heal would let go of the latch on this segment. -/
def Relay.releases (r : Relay) (segment : Text) : Prop :=
  r.progressSegment ≠ some segment ∧ r.healBaselineSegment ≠ some segment

/-- A step that leaves the counts of the other paths alone: a path replaces the
child only when the others have nothing open on it, and the latch of a heal in
this episode is not let go for an old segment. -/
def Episode.Keeps (c : RelayConfig) (e : Episode) : RelayEvent → Prop
  | .serve _ | .exit => True
  | .noteProgress _ => 0 < e.heals →
      ∀ r ∈ e.sink.relay, ∀ segment ∈ e.sink.window, ¬ r.releases segment
  | .selfHeal w _ => e.healing c w = true →
      e.jumps = 0 ∧ ∀ r ∈ e.sink.relay, r.streamFaultAttempts = 0
  | .restore w world =>
    (e.restoring c w world = .restart → e.heals = 0 ∧ e.jumps = 0) ∧
    (e.restoring c w world = .reclaim →
      e.heals = 0 ∧ ∀ r ∈ e.sink.relay, r.streamFaultAttempts = 0)

instance (r : Relay) (segment : Text) : Decidable (r.releases segment) :=
  inferInstanceAs (Decidable (_ ∧ _))

instance Episode.decidableKeeps (c : RelayConfig) (e : Episode) :
    (event : RelayEvent) → Decidable (e.Keeps c event)
  | .serve _ | .exit => isTrue trivial
  | .noteProgress _ => inferInstanceAs (Decidable (_ → _))
  | .selfHeal _ _ => inferInstanceAs (Decidable (_ → _))
  | .restore _ _ => inferInstanceAs (Decidable (_ ∧ _))

def Episode.KeepsAll (c : RelayConfig) : Episode → List RelayEvent → Prop
  | _, [] => True
  | e, event :: rest => e.Keeps c event ∧ KeepsAll c (e.step c event) rest

instance Episode.decidableKeepsAll (c : RelayConfig) :
    (e : Episode) → (events : List RelayEvent) → Decidable (e.KeepsAll c events)
  | _, [] => isTrue trivial
  | e, event :: rest =>
    have := Episode.decidableKeepsAll c (e.step c event) rest
    inferInstanceAs (Decidable (_ ∧ _))

/-- The bounds, and the record that carries them on: latched while a heal is
open, and counting every reclaim that jumped. -/
structure Episode.Inv (e : Episode) : Prop where
  bounds : e.WithinBounds
  latched : ∀ r ∈ e.sink.relay, 0 < e.heals → r.healAttempted = true
  counted : ∀ r ∈ e.sink.relay, e.jumps ≤ r.orphanReclaimAttempts

lemma Episode.inv_start (startedAt : ℚ) (window : Option Text) (served : List Text) :
    (Episode.start startedAt window served).Inv := by
  constructor
  · exact ⟨Nat.zero_le _, Nat.zero_le _, rfl⟩
  · intro r _ h
    cases h
  · intro r _
    exact Nat.zero_le _

section Steps

variable {c : RelayConfig} {e : Episode}

variable {r : Relay} {w : Watch} {world : RestoreWorld} {s : SinkState} {now : ℚ} {spawn : Spawn}
  {new : Relay} {f : Relay → Relay} {event : RelayEvent}

lemma Episode.Inv.serve (h : e.Inv) (window : Option Text) : (e.serve window).Inv := by
  unfold Episode.serve
  cases window with
  | none => exact ⟨h.bounds, h.latched, h.counted⟩
  | some segment =>
    dsimp only
    split_ifs
    · exact ⟨h.bounds, h.latched, h.counted⟩
    · -- a new segment: the counts start again
      refine ⟨⟨Nat.zero_le _, Nat.zero_le _, h.bounds.2.2⟩, ?_, ?_⟩
      · intro r _ hpos
        cases hpos
      · intro r _
        exact Nat.zero_le _

/-- A change of the record that keeps the latch and the reclaim count. -/
lemma Episode.Inv.carry (h : e.Inv)
    (hlatch : ∀ r ∈ e.sink.relay, 0 < e.heals → (f r).healAttempted = r.healAttempted)
    (hcount : ∀ r, (f r).orphanReclaimAttempts = r.orphanReclaimAttempts) :
    Episode.Inv { e with sink := e.sink.carry f } := by
  refine ⟨h.bounds, ?_, ?_⟩
  · intro r hr hpos
    rcases map_eq_some_iff.mp hr with ⟨old, hold, rfl⟩
    rw [hlatch old hold hpos]
    exact h.latched old hold hpos
  · intro r hr
    rcases map_eq_some_iff.mp hr with ⟨old, hold, rfl⟩
    rw [hcount]
    exact h.counted old hold

lemma Relay.noteSegment_count (r : Relay) (segment : Text) (now : ℚ) :
    (r.noteSegment segment now).orphanReclaimAttempts = r.orphanReclaimAttempts := by
  unfold Relay.noteSegment
  split_ifs <;> rfl

lemma Relay.noteSegment_latch {segment : Text} (h : ¬ r.releases segment) (now : ℚ) :
    (r.noteSegment segment now).healAttempted = r.healAttempted := by
  unfold Relay.noteSegment
  by_cases hprogress : r.progressSegment ≠ some segment
  · rw [if_pos hprogress]
    have hbaseline : r.healBaselineSegment = some segment := by
      by_contra hne
      exact h ⟨hprogress, hne⟩
    simp [hbaseline]
  · rw [if_neg hprogress]
    split_ifs <;> rfl

lemma Episode.Inv.noteProgress (h : e.Inv) (hkeeps : e.Keeps c (.noteProgress now)) :
    (e.act c (.noteProgress now)).Inv := by
  unfold Episode.act CivicCast.Egress.noteProgress
  cases hwindow : e.sink.window with
  | none => exact h
  | some segment =>
    refine h.carry ?_ ?_
    · intro r hr hpos
      exact r.noteSegment_latch (hkeeps hpos r hr segment hwindow) now
    · intro r
      exact r.noteSegment_count segment now

lemma mem_respawn
    (h : r ∈ ((respawnLocked s spawn).carry f).relay) : ∃ startedAt, r = f { startedAt } := by
  rcases map_eq_some_iff.mp h with ⟨new, hnew, rfl⟩
  rcases map_eq_some_iff.mp hnew with ⟨startedAt, -, rfl⟩
  exact ⟨startedAt, rfl⟩

lemma Episode.Inv.heal (h : e.Inv)
    (hkeeps : e.Keeps c (.selfHeal w spawn)) : (e.heal c w spawn).Inv := by
  unfold Episode.heal maybeSelfHealStalled
  cases hrelay : e.sink.relay with
  | none =>
    have hhealing : e.healing c w = false := by
      unfold Episode.healing
      rw [hrelay]
    simp only [hhealing]
    exact ⟨h.bounds, h.latched, h.counted⟩
  | some r =>
    by_cases hdue : r.healDue c w = true
    · have hhealing : e.healing c w = true := by
        unfold Episode.healing
        rw [hrelay]
        exact hdue
      have hjumps := (hkeeps hhealing).1
      -- a child that is due is not latched, so no heal is open
      have hheals : e.heals = 0 := by
        by_contra hpos
        have hlatched := h.latched r hrelay (Nat.pos_of_ne_zero hpos)
        unfold Relay.healDue at hdue
        rw [decide_eq_true_eq] at hdue
        rw [hlatched] at hdue
        cases hdue.2.2.1
      simp only [hhealing, hdue, if_true]
      refine ⟨⟨?_, h.bounds.2.1, h.bounds.2.2⟩, ?_, ?_⟩
      · show e.heals + 1 ≤ 1
        omega
      · intro new hnew _
        rcases mem_respawn hnew with ⟨startedAt, rfl⟩
        rfl
      · intro new _
        show e.jumps ≤ _
        omega
    · have hhealing : e.healing c w = false := by
        unfold Episode.healing
        rw [hrelay]
        simpa using hdue
      simp only [hhealing, hdue]
      exact ⟨h.bounds, h.latched, h.counted⟩

lemma Relay.latchReclaim_eq (c : RelayConfig) (r : Relay) (now : ℚ) (world : RestoreWorld) :
    (r.latchReclaim c now world).healAttempted = r.healAttempted ∧
      (r.latchReclaim c now world).orphanReclaimAttempts = r.orphanReclaimAttempts ∧
      (r.latchReclaim c now world).streamFaultAttempts = r.streamFaultAttempts := by
  unfold Relay.latchReclaim
  split_ifs <;> exact ⟨rfl, rfl, rfl⟩

lemma mem_attemptStreamRestart {old : Relay}
    (h : new ∈ (attemptStreamRestart c s old now spawn).relay) :
    new.streamFaultAttempts = old.streamFaultAttempts + 1 := by
  rcases mem_respawn h with ⟨startedAt, rfl⟩
  rfl

lemma mem_reclaimOrphan {old : Relay} (h : new ∈ (reclaimOrphan c s old now spawn).relay) :
    new.orphanReclaimAttempts = old.orphanReclaimAttempts + 1 := by
  rcases mem_respawn h with ⟨startedAt, rfl⟩
  rfl

lemma Relay.reclaims_fast (h : r.reclaims c now world = true)
    (hblocked : r.retryBlocked now = true) : r.orphanReclaimAttempts < streamFastAttempts := by
  unfold Relay.reclaims at h
  rw [decide_eq_true_eq] at h
  have hdue := h.1
  unfold Relay.reclaimDue at hdue
  rw [decide_eq_true_eq] at hdue
  by_contra hge
  exact hdue.2.1 ⟨not_lt.mp hge, hblocked⟩

lemma Relay.restoreAction_reclaim {window : Option Text}
    (h : r.restoreAction c window w world = .reclaim) : r.reclaims c w.now world = true := by
  unfold Relay.restoreAction at h
  by_cases halive : r.alive = false
  · rw [if_pos halive] at h
    split_ifs at h with hreclaims
    exact hreclaims
  · rw [if_neg halive] at h
    split at h
    · cases h
    · split at h
      · cases h
      · split_ifs at h

lemma Relay.restoreAction_leave {window : Option Text}
    (h : r.restoreAction c window w world = .leave) :
    r.alive = true ∨ ¬ r.reclaims c w.now world = true := by
  unfold Relay.restoreAction at h
  by_cases halive : r.alive = false
  · rw [if_pos halive] at h
    split_ifs at h with hreclaims
    exact .inr hreclaims
  · exact .inl (by simpa using halive)

lemma mem_afterReclaim
    (hrelay : s.relay = some r) (hnot : r.alive = true ∨ ¬ r.reclaims c now world = true)
    (h : new ∈ (s.afterReclaim c r now world).relay) : new = r := by
  unfold SinkState.afterReclaim at h
  split_ifs at h with htried
  · -- it reaped the holder, so it could not spawn
    exfalso
    rcases hnot with halive | hnot
    · rw [halive] at htried
      cases htried.1
    · rcases map_eq_some_iff.mp h with ⟨startedAt, hstarted, -⟩
      apply hnot
      unfold Relay.reclaims
      rw [decide_eq_true_eq]
      refine ⟨htried.2.1, htried.2.2, ?_⟩
      rw [hstarted]
      rfl
  · rw [hrelay] at h
    cases h
    rfl

lemma mem_restore (hrelay : s.relay = some r)
    (h : new ∈ (maybeRestoreMissingStreams c s w world).relay) :
    match r.restoreAction c s.window w world with
    | .reclaim => new.orphanReclaimAttempts = r.orphanReclaimAttempts + 1
    | .restart => new.streamFaultAttempts = r.streamFaultAttempts + 1
    | .leave | .probed _ => new.healAttempted = r.healAttempted ∧
        new.orphanReclaimAttempts = r.orphanReclaimAttempts ∧
        new.streamFaultAttempts = r.streamFaultAttempts
    | .verified _ => new.healAttempted = r.healAttempted ∧
        new.orphanReclaimAttempts = r.orphanReclaimAttempts := by
  unfold maybeRestoreMissingStreams at h
  rw [hrelay] at h
  dsimp only at h
  cases haction : r.restoreAction c s.window w world with
  | reclaim =>
    rw [haction] at h
    exact mem_reclaimOrphan h
  | restart =>
    rw [haction] at h
    exact mem_attemptStreamRestart h
  | leave =>
    -- only the latch of an earlier reclaim may change
    rw [haction] at h
    rcases map_eq_some_iff.mp h with ⟨kept, hkept, rfl⟩
    rw [mem_afterReclaim hrelay (Relay.restoreAction_leave haction) hkept]
    exact r.latchReclaim_eq c w.now world
  | probed segment =>
    rw [haction] at h
    rcases map_eq_some_iff.mp h with ⟨kept, hkept, rfl⟩
    rw [hrelay] at hkept
    cases hkept
    exact ⟨rfl, rfl, rfl⟩
  | verified segment =>
    rw [haction] at h
    rcases map_eq_some_iff.mp h with ⟨kept, hkept, rfl⟩
    rw [hrelay] at hkept
    cases hkept
    exact ⟨rfl, rfl⟩

lemma Episode.Inv.restore (h : e.Inv)
    (hkeeps : e.Keeps c (.restore w world)) : (e.restore c w world).Inv := by
  rcases hkeeps with ⟨hrestart, hreclaim⟩
  unfold Episode.restore
  cases hrelay : e.sink.relay with
  | none =>
    have hsink : maybeRestoreMissingStreams c e.sink w world = e.sink := by
      unfold maybeRestoreMissingStreams
      rw [hrelay]
    have hleave : e.restoring c w world = .leave := by
      unfold Episode.restoring
      rw [hrelay]
    rw [hsink, hleave]
    exact h
  | some r =>
    have haction : e.restoring c w world = r.restoreAction c e.sink.window w world := by
      unfold Episode.restoring
      rw [hrelay]
    have hblocked : e.blocked w.now = r.retryBlocked w.now := by
      unfold Episode.blocked
      rw [hrelay]
    have hcounted := h.counted r hrelay
    have hmem : ∀ new ∈ (maybeRestoreMissingStreams c e.sink w world).relay, _ :=
      fun new hnew => mem_restore hrelay hnew
    have hkept : (∀ new ∈ (maybeRestoreMissingStreams c e.sink w world).relay,
        new.healAttempted = r.healAttempted ∧
          new.orphanReclaimAttempts = r.orphanReclaimAttempts) →
        Episode.Inv { e with sink := maybeRestoreMissingStreams c e.sink w world } := by
      intro hsame
      refine ⟨h.bounds, ?_, ?_⟩
      · intro new hnew hpos
        rw [(hsame new hnew).1]
        exact h.latched r hrelay hpos
      · intro new hnew
        rw [(hsame new hnew).2]
        exact hcounted
    rw [haction] at hrestart hreclaim ⊢
    rw [hblocked]
    cases hchoice : r.restoreAction c e.sink.window w world with
    | reclaim =>
      rw [hchoice] at hmem
      have hheals := (hreclaim hchoice).1
      have hjump : (if RestoreAction.reclaim = .reclaim ∧ r.retryBlocked w.now = true
          then e.jumps + 1 else e.jumps) ≤ r.orphanReclaimAttempts + 1 := by
        split_ifs <;> omega
      refine ⟨⟨h.bounds.1, ?_, h.bounds.2.2⟩, ?_, ?_⟩
      · dsimp only
        split_ifs with hfast
        -- a jump of the backoff is a fast attempt, and the record counts it
        · have := Relay.reclaims_fast (Relay.restoreAction_reclaim hchoice) hfast.2
          omega
        · exact h.bounds.2.1
      · intro new _ hpos
        have : 0 < e.heals := hpos
        omega
      · intro new hnew
        rw [show new.orphanReclaimAttempts = _ from hmem new hnew]
        exact hjump
    | restart =>
      rcases hrestart hchoice with ⟨hheals, hjumps⟩
      refine ⟨h.bounds, ?_, ?_⟩
      · intro new _ hpos
        have : 0 < e.heals := hpos
        omega
      · intro new _
        show e.jumps ≤ _
        omega
    | leave | probed segment =>
      rw [hchoice] at hmem
      exact hkept fun new hnew => ⟨(hmem new hnew).1, (hmem new hnew).2.1⟩
    | verified segment =>
      rw [hchoice] at hmem
      exact hkept hmem

lemma Episode.Inv.act (h : e.Inv) (hkeeps : e.Keeps c event) : (e.act c event).Inv := by
  cases event with
  | serve window => exact h.serve window
  | exit => exact h.carry (fun _ _ _ => rfl) (fun _ => rfl)
  | noteProgress now => exact h.noteProgress hkeeps
  | selfHeal w spawn => exact h.heal hkeeps
  | restore w world => exact h.restore hkeeps

/-! ## The attempt count -/

lemma not_countFell {before after : SinkState}
    (h : ∀ old ∈ before.relay, ∀ new ∈ after.relay,
      old.streamFaultAttempts ≤ new.streamFaultAttempts) : ¬ countFell before after = true := by
  unfold countFell
  rw [decide_eq_true_eq]
  rintro ⟨old, hold, new, hnew, hlt⟩
  have := h old hold new hnew
  omega

lemma not_countFell_carry (hf : ∀ r, (f r).streamFaultAttempts = r.streamFaultAttempts) :
    ¬ countFell s (s.carry f) = true := by
  apply not_countFell
  intro old hold new hnew
  rcases map_eq_some_iff.mp hnew with ⟨r, hr, rfl⟩
  rw [mem_def.mp hold] at hr
  cases hr
  rw [hf]

lemma not_countFell_same {s : SinkState} {window : Option Text} :
    ¬ countFell s { s with window := window } = true := by
  apply not_countFell
  intro old hold new hnew
  have hsame : s.relay = some new := hnew
  rw [mem_def.mp hold] at hsame
  cases hsame
  exact le_refl _

lemma not_countFell_heal (hkeeps : e.Keeps c (.selfHeal w spawn)) :
    ¬ countFell e.sink (maybeSelfHealStalled c e.sink w spawn) = true := by
  unfold maybeSelfHealStalled
  cases hrelay : e.sink.relay with
  | none => exact not_countFell_same
  | some r =>
    dsimp only
    split_ifs with hdue
    · -- the count is dropped, but there was none
      have hhealing : e.healing c w = true := by
        unfold Episode.healing
        rw [hrelay]
        exact hdue
      apply not_countFell
      intro old hold new _
      rw [(hkeeps hhealing).2 old hold]
      exact Nat.zero_le _
    · exact not_countFell_same

lemma not_countFell_restore (hkeeps : e.Keeps c (.restore w world))
    (hverifies : e.verifies c (.restore w world) = false) :
    ¬ countFell e.sink (maybeRestoreMissingStreams c e.sink w world) = true := by
  apply not_countFell
  intro old hold new hnew
  have hmem := mem_restore hold hnew
  have haction : e.restoring c w world = old.restoreAction c e.sink.window w world := by
    unfold Episode.restoring
    rw [mem_def.mp hold]
  unfold Episode.verifies at hverifies
  dsimp only at hverifies
  rw [haction] at hverifies
  cases hchoice : old.restoreAction c e.sink.window w world with
  | reclaim =>
    rw [(hkeeps.2 (haction.trans hchoice)).2 old hold]
    exact Nat.zero_le _
  | restart =>
    rw [hchoice] at hmem
    omega
  | leave | probed segment =>
    rw [hchoice] at hmem
    exact le_of_eq hmem.2.2.symm
  | verified segment =>
    rw [hchoice] at hverifies
    cases hverifies

/-- A step that keeps the others' counts never takes the attempt count back. -/
lemma not_countFell_act (hkeeps : e.Keeps c event)
    (hverifies : e.verifies c event = false) : ¬ countFell e.sink (e.act c event).sink = true := by
  cases event with
  | serve window =>
    have hsink : (e.serve window).sink = { e.sink with window := window } := by
      unfold Episode.serve
      cases window with
      | none => rfl
      | some segment =>
        dsimp only
        split_ifs <;> rfl
    unfold Episode.act
    rw [hsink]
    exact not_countFell_same
  | exit => exact not_countFell_carry fun _ => rfl
  | noteProgress now =>
    -- noting a segment keeps every count
    unfold Episode.act noteProgress
    cases e.sink.window with
    | none => exact not_countFell_same
    | some segment =>
      refine not_countFell_carry ?_
      intro r
      unfold Relay.noteSegment
      split_ifs <;> rfl
  | selfHeal w spawn => exact not_countFell_heal hkeeps
  | restore w world => exact not_countFell_restore hkeeps hverifies

lemma Episode.Inv.step (h : e.Inv) (hkeeps : e.Keeps c event) : (e.step c event).Inv := by
  have hact := h.act hkeeps
  have hfalls : ¬ (countFell e.sink (e.act c event).sink = true ∧ e.verifies c event = false) :=
    fun hfell => not_countFell_act hkeeps hfell.2 hfell.1
  unfold Episode.step
  dsimp only
  rw [if_neg hfalls]
  exact ⟨⟨hact.bounds.1, hact.bounds.2.1, h.bounds.2.2⟩, hact.latched, hact.counted⟩

end Steps

lemma Episode.Inv.run {c : RelayConfig} (events : List RelayEvent) :
    ∀ {e : Episode}, e.Inv → e.KeepsAll c events → (e.run c events).Inv := by
  induction events with
  | nil =>
    intro e h _
    exact h
  | cons event rest ih =>
    intro e h hkeeps
    exact ih (h.step hkeeps.1) hkeeps.2

/-- From a child just started, through any events of which each leaves the
counts of the other paths alone: between two advances of the served window at
most one heal and at most the fast attempts of reclaims inside the backoff, and
an attempt count that only a verified probe takes back. -/
theorem recovery_bounds_hold {c : RelayConfig} {startedAt : ℚ} {window : Option Text}
    {served : List Text} {events : List RelayEvent}
    (hkeeps : (Episode.start startedAt window served).KeepsAll c events) :
    ((Episode.start startedAt window served).run c events).WithinBounds :=
  ((Episode.inv_start startedAt window served).run events hkeeps).bounds

/-! Runs of a channel on air: a heal, an exit that the restore answers by a
restart, and another heal, with or without a new segment in between. -/

/-- A call on a producing channel with half a minute of grace. -/
def onAir (now : ℚ) : Watch := { now := now, producing := true, startupGrace := 30 }

/-- A respawn that withdraws the old playlist. -/
def spawnAt (now : ℚ) : Spawn := { withdrawn := true, startedAt := some now }

/-- The child's log shows no bind failure. -/
def restartAt (now : ℚ) : RelayEvent :=
  .restore (onAir now) {
    bindFailure := false
    reaped := false
    reclaimSpawn := spawnAt now
    probe := none
    restartSpawn := spawnAt now }

/-- The window advances before the child exits, and the restarted child serves
and is verified before it is healed. -/
theorem recovery_bounds_hold_advancing :
    ((Episode.start 0 none []).run {} [.selfHeal (onAir 100) (spawnAt 100),
      .serve (some "seg000000001.ts".toList), .noteProgress 130, .exit, restartAt 131,
      .serve (some "seg000000002.ts".toList), .noteProgress 140,
      .restore (onAir 170) {
        bindFailure := false
        reaped := false
        reclaimSpawn := spawnAt 170
        probe := some [.video, .audio]
        restartSpawn := spawnAt 170 },
      .selfHeal (onAir 200) (spawnAt 200)]).WithinBounds :=
  recovery_bounds_hold (by decide +kernel)

/-- No segment is ever served: the restart drops the latch of the first heal,
and the second heal drops the attempt count of the restart. -/
theorem second_heal_in_one_episode :
    ¬ ∀ (c : RelayConfig) (startedAt : ℚ) (window : Option Text) (served : List Text)
      (events : List RelayEvent),
      ((Episode.start startedAt window served).run c events).WithinBounds := by
  intro h
  have hbounds := h {} 0 none [] [.selfHeal (onAir 100) (spawnAt 100), .exit, restartAt 101,
    .selfHeal (onAir 200) (spawnAt 200)]
  revert hbounds
  decide +kernel

end CivicCast.Egress
