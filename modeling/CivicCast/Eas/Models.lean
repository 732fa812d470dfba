import CivicCast.Lib.Python

/-! # The public-safety data model

Sources, normalized alerts and display decisions, as the domain models of the
code declare them. A model's length bounds are fields of the record, so a value
that the validation of the code would refuse cannot be built. `updated_at` is
written by every operation and read by none; it is not kept.
-/

namespace CivicCast.Eas

open Lib (Text)

/-- Instants in microseconds. A naive datetime is read as UTC wherever the code
compares one, so an instant is all a datetime is. -/
abbrev Instant := Int

inductive EasSourceKind where
  | ipawsCap
  | nwsCap
  | amberCap
  | manual
deriving DecidableEq

inductive EasSeverity where
  | unknown
  | minor
  | moderate
  | severe
  | extreme
deriving DecidableEq

inductive EasMsgType where
  | alert
  | update
  | cancel
  | ack
  | error
deriving DecidableEq

inductive EasAlertStatus where
  | active
  | superseded
  | expired
  | cancelled
deriving DecidableEq

inductive EasDisplayMode where
  | crawl
  | overlay
  | forcedSlate
deriving DecidableEq

inductive EasDisplayState where
  | pending
  | displayed
  | cleared
  | expired
deriving DecidableEq

/-- `SEVERITY_RANK`. -/
def EasSeverity.rank : EasSeverity → ℕ
  | unknown => 0
  | minor => 1
  | moderate => 2
  | severe => 3
  | extreme => 4

def severityAtOrAbove (severity floor : EasSeverity) : Bool :=
  floor.rank ≤ severity.rank

/-- A configured feed. -/
structure EasCapSource where
  sourceId : Text
  label : Text
  kind : EasSourceKind
  endpointUrl : Option Text
  geocodeFilter : List Text
  severityFloor : EasSeverity
  enabled : Bool
  bounds : (1 ≤ sourceId.length ∧ sourceId.length ≤ 120) ∧
    (1 ≤ label.length ∧ label.length ≤ 160) := by decide
deriving DecidableEq

/-- A normalized CAP alert. -/
structure EasCapAlert where
  alertId : Text
  sourceId : Text
  sender : Text
  identifier : Text
  sent : Instant
  msgType : EasMsgType
  status : EasAlertStatus
  event : Text
  severity : EasSeverity
  urgency : Text
  certainty : Text
  headline : Option Text
  description : Option Text
  instruction : Option Text
  areas : List Text
  references : Option Text
  effective : Option Instant
  onset : Option Instant
  expires : Option Instant
  createdAt : Instant
  alertIdBounds : 1 ≤ alertId.length ∧ alertId.length ≤ 160 := by decide
  bounds : (1 ≤ sourceId.length ∧ sourceId.length ≤ 120) ∧
    (1 ≤ sender.length ∧ sender.length ≤ 255) ∧
    (1 ≤ identifier.length ∧ identifier.length ≤ 255) ∧
    (1 ≤ event.length ∧ event.length ≤ 255) ∧
    urgency.length ≤ 40 ∧ certainty.length ≤ 40 ∧
    (headline.getD []).length ≤ 500 ∧ (references.getD []).length ≤ 4000 := by decide
deriving DecidableEq

/-- CAP's own identity of an alert, by which the store tells repeats. -/
def EasCapAlert.dedupKey (alert : EasCapAlert) : Text × Text :=
  (alert.sender, alert.identifier)

/-- The on-channel display action for an alert. `eas_claim` is the constant
`"not_eas"` and is not kept. -/
structure EasDisplayDecision where
  decisionId : Text
  alertId : Text
  channelId : Text
  mode : EasDisplayMode
  state : EasDisplayState
  decidedBy : Text
  autoSurfaced : Bool
  overlayId : Option Text
  reason : Option Text
  displayedAt : Option Instant
  clearedAt : Option Instant
  expiresAt : Option Instant
  createdAt : Instant
  bounds : (1 ≤ decisionId.length ∧ decisionId.length ≤ 160) ∧
    (1 ≤ alertId.length ∧ alertId.length ≤ 160) ∧
    (1 ≤ channelId.length ∧ channelId.length ≤ 120) ∧
    (1 ≤ decidedBy.length ∧ decidedBy.length ≤ 120) ∧
    (overlayId.getD []).length ≤ 120 ∧ (reason.getD []).length ≤ 500 := by decide
deriving DecidableEq

end CivicCast.Eas
