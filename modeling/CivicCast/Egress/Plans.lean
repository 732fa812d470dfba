import Mathlib

/-! # Source plans as playout sees them

The source plan, the state names and the command actions that the automation and the
egress daemon exchange, and `re_resolve_program_at_occurrence_start`, which both use when
they look a plan up one margin past a boundary.
-/

namespace CivicCast.Egress

namespace Playout

/-- Seconds since the epoch. -/
abbrev Instant := ℚ

inductive SourceKind where
  | program
  | slate
  | live
  | cg
deriving DecidableEq

/-- `EgressSourceSegment`, as far as playout reads it. -/
structure Segment where
  durationSeconds : ℚ
  kind : SourceKind
  sourceRef : Option String
  scheduleOccurrenceId : Option String
  scheduleOccurrenceStart : Option Instant
  label : String
  playableDurationSeconds : Option ℚ
  inpointSeconds : Option ℚ
  outpointSeconds : Option ℚ
deriving DecidableEq

structure SourcePlan where
  channelId : String
  segments : List Segment
deriving DecidableEq

namespace SourcePlan

def seconds (plan : SourcePlan) : ℚ := (plan.segments.map Segment.durationSeconds).sum

end SourcePlan

/-- The exceptions that playout's handlers tell apart. -/
inductive Fault where
  | sourcePrepare
  | configInvalid
  | secretUnresolved
  | encoderUnavailable
  /-- Any other `EgressError`. -/
  | egress
  | ffmpegNotFound
  /-- Anything else. -/
  | other
deriving DecidableEq

inductive EgressState where
  | stopped
  | starting
  | onAir
  | transitioning
  | fallbackSlate
  | draining
  | stopping
  | error
deriving DecidableEq

inductive Action where
  | start
  | stop
  | reload
  | drain
  | takeover
  | handback
deriving DecidableEq

/-- The answer of a source plan provider. -/
abbrev PlanAnswer := Except Fault (Option SourcePlan)

/-! ## Looking a plan up past a boundary -/

/-- Whether a probed plan opens on a program that starts inside the probe's margin. -/
def startsInsideProbe (channelId : String) (plan : SourcePlan) (probedAt trueBoundary : Instant) :
    Option (String × String × Instant) :=
  if plan.channelId ≠ channelId then none
  else
    match plan.segments with
    | [] => none
    | first :: _ =>
      if first.kind ≠ .program then none
      else
        match first.scheduleOccurrenceId, first.sourceRef, first.scheduleOccurrenceStart with
        | some occurrenceId, some sourceRef, some occurrenceStart =>
          if trueBoundary < probedAt ∧ trueBoundary ≤ occurrenceStart ∧ occurrenceStart < probedAt
          then some (occurrenceId, sourceRef, occurrenceStart)
          else none
        | _, _, _ => none

/-- Whether the plan at the occurrence's own start is the same occurrence, no shorter. -/
def confirmsOccurrence (channelId : String) (probed replacement : SourcePlan)
    (occurrenceId sourceRef : String) (occurrenceStart : Instant) : Bool :=
  replacement.channelId = channelId &&
    match replacement.segments with
    | [] => false
    | first :: _ =>
      first.kind = .program && first.scheduleOccurrenceId = some occurrenceId
        && first.sourceRef = some sourceRef
        && first.scheduleOccurrenceStart = some occurrenceStart
        && !(decide (replacement.seconds ≤ 0) || decide (replacement.seconds < probed.seconds))

def reResolveProgramAtOccurrenceStart (channelId : String) (provider : Instant → PlanAnswer)
    (probed : Option SourcePlan) (probedAt trueBoundary : Instant) : PlanAnswer :=
  match probed with
  | none => .ok none
  | some plan =>
    match startsInsideProbe channelId plan probedAt trueBoundary with
    | none => .ok (some plan)
    | some (occurrenceId, sourceRef, occurrenceStart) =>
      match provider occurrenceStart with
      | .error .sourcePrepare => .ok (some plan)
      | .error fault => .error fault
      | .ok none => .ok (some plan)
      | .ok (some replacement) =>
        if confirmsOccurrence channelId plan replacement occurrenceId sourceRef occurrenceStart
        then .ok (some replacement)
        else .ok (some plan)

end Playout

end CivicCast.Egress
