import Mathlib

/-! # The supervisor's state vocabulary and transition function

`states.py`: seven supervisor states, thirteen events, the total transition
`supervisorTransition`, and the dependency, restart-storm and backoff
predicates. Seconds are exact rationals.

`2.0**k` is the one float operation of this module that can fail: CPython
raises `OverflowError` from `k = 1024` on (`pow2`). A finite product that
exceeds the float range becomes `inf` there and is cut back by `min`, so the
exact product gives the same minimum.
-/

namespace CivicCast.Supervisor

/-- The overall supervisor state. -/
inductive SupervisorState where
  | starting
  | ready
  | degraded
  | blockedWslActive
  | blockedProbeUnavailable
  | maintenance
  | stopping
deriving DecidableEq

/-- The complete input alphabet of the machine. -/
inductive SupervisorEvent where
  | start
  | childrenReady
  | dependencyLost
  | restartStorm
  | recovered
  | guardClear
  | guardBlockProbe
  | guardBlockWsl
  | interlockHeld
  | interlockFreedClear
  | interlockFreedBlockedWsl
  | interlockFreedBlockedProbe
  | stop
deriving DecidableEq

/-- Per-child lifecycle. `pending` is "never attempted this run" and is
retried; `stopped` is "deliberately not running" and is not. -/
inductive ChildState where
  | pending
  | stopped
  | starting
  | ready
  | stopping
  | failed
deriving DecidableEq

/-- The direct children. `ollama` is optional and outside the startup order. -/
inductive ChildName where
  | postgres
  | controlPlane
  | ollama
deriving DecidableEq

def startupOrder : List ChildName := [.postgres, .controlPlane]

/-- `_BLOCKED_STATES`. -/
def SupervisorState.blocked : SupervisorState → Bool
  | .blockedWslActive | .blockedProbeUnavailable => true
  | _ => false

/-- The pure, total transition. The order of the guards is the precedence:
stop, then maintenance, then a block, then the normal lifecycle. -/
def supervisorTransition (state : SupervisorState) (event : SupervisorEvent) : SupervisorState :=
  if state = .stopping then .stopping
  else if event = .stop then .stopping
  else if event = .interlockHeld then .maintenance
  else if state = .maintenance then
    match event with
    | .interlockFreedClear => .starting
    | .interlockFreedBlockedWsl => .blockedWslActive
    | .interlockFreedBlockedProbe => .blockedProbeUnavailable
    | _ => .maintenance
  else if event = .guardBlockWsl ∨ event = .interlockFreedBlockedWsl then .blockedWslActive
  else if event = .guardBlockProbe ∨ event = .interlockFreedBlockedProbe then
    .blockedProbeUnavailable
  else if state.blocked then
    if event = .guardClear then .starting else state
  else if event = .restartStorm then .degraded
  else
    match state with
    | .starting => if event = .childrenReady then .ready else .starting
    | .ready => if event = .dependencyLost then .starting else .ready
    | _ => if event = .recovered then .ready else .degraded

/-- `restart_eligible`: every predecessor of `child` in `order` is ready; a
child outside `order` has no constraint. -/
def restartEligible (child : ChildName) (childStates : ChildName → ChildState)
    (order : List ChildName) : Bool :=
  if child ∈ order then
    (order.takeWhile (· ≠ child)).all fun p => childStates p = .ready
  else true

/-- `is_restart_storm`: at least `threshold` restarts in the trailing window,
both ends included. -/
def isRestartStorm (restartEpochs : List ℚ) (now windowSeconds : ℚ) (threshold : ℕ) : Bool :=
  threshold ≤ (restartEpochs.filter fun e => now - windowSeconds ≤ e ∧ e ≤ now).length

/-- The exceptions the modelled code can raise. `fault` is an error of the
operating system behind a seam, with its `winerror` when it carries one. -/
inductive PyError where
  | overflow
  | value
  | fault (winerror : Option ℤ)
deriving DecidableEq

/-- `2.0 ** k` for a natural `k`. -/
def pow2 (k : ℕ) : Except PyError ℚ :=
  if 1024 ≤ k then .error .overflow else .ok (2 ^ k)

def backoffBaseSeconds (attempt : ℤ) (initialSeconds maxSeconds : ℚ) : Except PyError ℚ := do
  let factor ← pow2 (max attempt 0).toNat
  return min (initialSeconds * factor) maxSeconds

/-! ## Facts about the transition

Each is a check over all states and events, stated once for the proofs that
follow a run. -/

@[simp] lemma transition_stopping (e : SupervisorEvent) :
    supervisorTransition .stopping e = .stopping := by
  cases e <;> rfl

lemma transition_interlockHeld (s : SupervisorState) :
    supervisorTransition s .interlockHeld = .maintenance ∨ s = .stopping := by
  cases s <;> decide

end CivicCast.Supervisor
