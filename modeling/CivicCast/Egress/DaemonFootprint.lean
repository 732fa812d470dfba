import CivicCast.Egress.DaemonRules

/-! # What most of the daemon's code leaves alone

`Custody` is what the daemon holds on to: the process, the preparation in flight, the
pending settlement, the prepared directories and the overrides. Most functions never touch
it: they resolve plans, keep counters and write the state row. `Plain` is the class of
operations they are made of; here every such function is placed in it, and
`Steady.keeps` is what follows for an assertion about what is held.
-/

namespace CivicCast.Egress

namespace Daemon

open Lib Lib.Prog Playout

/-- What the daemon holds on to for the channel. -/
structure Custody where
  process : Option Proc
  preparation : Option Preparation
  settle : Option Settlement
  activeDir : Option Dir
  restartPlan : Option ReusePreparedPlan
  takeover : Option SourcePlan
  forcedSlate : Option String

def Attrs.custody (d : Attrs) : Custody :=
  ⟨d.process, d.preparation, d.settle, d.activeDir, d.restartPlan, d.takeover, d.forcedSlate⟩

/-- Operations that change nothing the daemon holds on to, and hand out nothing. -/
def Plain : Op → Prop
  | .modify f => ∀ d, (f d).custody = d.custody
  | .release _ | .dropSettle _ | .cancelPreparation | .submit _ | .launch _ _ | .prepare _
  | .futureDone _ _ _ | .reloadContent _ | .mark _ | .configure _ => False
  | _ => True

/-- The code stays in `Plain`, and may raise anything. -/
abbrev IsPlain {α : Type} (p : DaemonM α) : Prop := p.Uses Plain fun _ => True

/-- Operations that keep the restart streak and confirm nothing on air. -/
def Uncounted : Op → Prop
  | .modify f => ∀ d, (f d).restartStreak = d.restartStreak ∧
      ((f d).onAirConfirmedAt = d.onAirConfirmedAt ∨ (f d).onAirConfirmedAt = none)
  | _ => True

/-- The code stays in `Uncounted`, and may raise anything. -/
abbrev IsUncounted {α : Type} (p : DaemonM α) : Prop := p.Uses Uncounted fun _ => True

/-- Plain operations that count nothing. -/
def Tame (o : Op) : Prop := Plain o ∧ Uncounted o

abbrev IsTame {α : Type} (p : DaemonM α) : Prop := p.Uses Tame fun _ => True

/-- An assertion about what is held: the bookkeeping, the state row and the worker's own
moves do not disturb it. -/
structure Steady (J : World → Prop) : Prop where
  setD : ∀ {w : World} {d : Attrs}, d.custody = w.d.custody → J w → J (w.setD d)
  move : ∀ {w : World} {m : WorkerMove}, legal w .meanwhile m = true → J w → J (w.move m)
  row : ∀ {w : World} (row : Option StateRow), J w → J { w with row := row }
  fresh : ∀ {w : World}, J w → J { w with fresh := w.fresh + 1 }
  terminated : ∀ {w : World} (p : Proc), J w → J { w with terminated := p :: w.terminated }

variable {J : World → Prop}

lemma Steady.next (hJ : Steady J) {o : Op} (ho : Plain o) {w : World}
    {x : Ans o} (hx : legal w o x = true) (hw : J w) : J (next w o x) := by
  cases o with
  | modify f => exact hJ.setD (ho w.d) hw
  | release dir | dropSettle reason | cancelPreparation | submit plan | launch plan planDir
  | prepare plan | futureDone ticket plan supplied | reloadContent req | mark m
  | configure config => exact ho.elim
  | uuid => exact hJ.fresh hw
  | meanwhile => exact hJ.move hx hw
  | terminate p => exact hJ.terminated p hw
  | writeState row =>
    cases x with
    | ok u => exact hJ.row _ hw
    | error e => exact hw
  | _ => exact hw

/-- Plain code keeps a steady assertion, however it ends. -/
lemma Steady.keeps (hJ : Steady J) {α : Type} {p : DaemonM α}
    (hp : IsPlain p) {q : Promises} : Preserves q J p := by
  refine Uses.keeps hp (fun _ _ _ _ => trivial) ?_
  intro w o x ho hw hx
  have hlegal : legal w o x = true := by
    have hboth : (legal w o x && q.allows w o x) = true := hx
    simp_all
  exact hJ.next ho hlegal hw

section Parts

variable {α : Type} {p : DaemonM α} {f : Attrs → Attrs} {φ : Op → Prop}

lemma plain_pure {a : α} : IsPlain (pure a) := uses_pure

lemma plain_call {o : Op} (h : Plain o) : IsPlain (call o) := ⟨h, fun _ => trivial⟩

lemma plain_modify (h : ∀ d, (f d).custody = d.custody) :
    IsPlain (modify f) := ⟨h, fun _ => trivial⟩

lemma tame_call {o : Op} (h : Tame o) : IsTame (call o) := ⟨h, fun _ => trivial⟩

lemma tame_modify (h : ∀ d, (f d).custody = d.custody ∧
    (f d).restartStreak = d.restartStreak ∧ (f d).onAirConfirmedAt = d.onAirConfirmedAt) :
    IsTame (modify f) :=
  ⟨⟨fun d => (h d).1, fun d => ⟨(h d).2.1, .inl (h d).2.2⟩⟩, fun _ => trivial⟩

lemma IsTame.plain (h : IsTame p) : IsPlain p :=
  Uses.mono (fun _ ho => ho.1) (fun _ _ => trivial) h

lemma IsTame.uncounted (h : IsTame p) : IsUncounted p :=
  Uses.mono (fun _ ho => ho.2) (fun _ _ => trivial) h

lemma tame_self : IsTame self := tame_call ⟨trivial, trivial⟩

lemma uses_orRaise (r : Except Fault α) : (orRaise r).Uses φ fun _ => True := by
  cases r <;> trivial

lemma uses_ask {o : Op} {f : Ans o → DaemonM α} (h : φ o)
    (hf : ∀ x, (f x).Uses φ fun _ => True) : (call o >>= f).Uses φ fun _ => True := ⟨h, hf⟩

lemma tame_assist : IsTame assist := ⟨⟨trivial, trivial⟩, fun x => uses_orRaise x⟩

lemma tame_getConfig : IsTame getConfig := ⟨⟨trivial, trivial⟩, fun x => uses_orRaise x⟩

lemma tame_readState : IsTame readState := ⟨⟨trivial, trivial⟩, fun x => uses_orRaise x⟩

lemma tame_writeState {state : EgressState} {proofEventId : Option ℕ} {pid : Option Proc} :
    IsTame (writeState state proofEventId pid) := ⟨⟨trivial, trivial⟩, fun x => uses_orRaise x⟩

lemma tame_appendProofEvent : IsTame appendProofEvent :=
  uses_ask ⟨trivial, trivial⟩ fun _ =>
    uses_ask ⟨trivial, trivial⟩ fun x =>
    uses_bind (uses_orRaise x) fun _ => uses_pure

lemma tame_fallbackPlan : IsTame fallbackPlan := ⟨⟨trivial, trivial⟩, fun x => uses_orRaise x⟩

lemma tame_processPoll {p : Proc} : IsTame (processPoll p) :=
  ⟨⟨trivial, trivial⟩, fun _ => tame_call ⟨trivial, trivial⟩⟩

lemma tame_hasPendingTerminalCommand : IsTame hasPendingTerminalCommand :=
  uses_ask ⟨trivial, trivial⟩ fun x => uses_bind (uses_orRaise x) fun _ => uses_pure

lemma tame_recordDispatchedPlan {proofEventId : ℕ} {plan : SourcePlan} {deferred : Bool}
    {chainedEnd : Option Instant} :
    IsTame (recordDispatchedPlan proofEventId plan deferred chainedEnd) :=
  tame_modify fun _ => ⟨rfl, rfl, rfl⟩

lemma plain_resetRestartTracking {slateEosRelaunches : Bool} :
    IsPlain (resetRestartTracking slateEosRelaunches) := plain_modify fun _ => rfl

lemma tame_restartLatchShouldRunNow : IsTame restartLatchShouldRunNow :=
  uses_ask ⟨trivial, trivial⟩ fun _ => uses_bind tame_self fun _ =>
    uses_ite (uses_bind (tame_modify fun _ => ⟨rfl, rfl, rfl⟩) fun _ => uses_pure) uses_pure

lemma uses_catchSourcePrepare (h : p.Uses φ fun _ => True) :
    (catchSourcePrepare p).Uses φ fun _ => True := by
  refine uses_bind (uses_attempt h) fun r => ?_
  cases r with
  | ok a => exact uses_pure
  | error e => cases e <;> trivial

end Parts

/-! ## Resolving plans

Plan resolution asks the providers and takes plans off the look-ahead queue. -/

def Resolving : Op → Prop
  | .modify f => ∀ d, ∃ plans, f d = { d with lookahead := plans }
  | .self | .monotonic | .utcNow | .getConfig | .readState | .assist | .upstreamPlan
  | .lookaheadPlans | .boundaryPlan _ _ | .fallbackPlan | .nextProgramStart _ => True
  | _ => False

abbrev IsResolving {α : Type} (p : DaemonM α) : Prop := p.Uses Resolving fun _ => True

section Resolving

variable {α : Type} {p : DaemonM α}

lemma IsResolving.tame (h : IsResolving p) : IsTame p := by
  refine Uses.mono (fun o ho => ?_) (fun _ _ => trivial) h
  cases o with
  | modify f =>
    refine ⟨fun d => ?_, fun d => ?_⟩
    · obtain ⟨plans, hf⟩ := ho d
      rw [hf]
      rfl
    · obtain ⟨plans, hf⟩ := ho d
      rw [hf]
      exact ⟨rfl, .inl rfl⟩
  | release dir | dropSettle reason | cancelPreparation | submit plan | launch plan planDir
  | prepare plan | futureDone ticket plan supplied | reloadContent req | mark m
  | configure config => exact ho.elim
  | _ => exact ⟨trivial, trivial⟩

lemma IsResolving.plain (h : IsResolving p) : IsPlain p := h.tame.plain

lemma resolving_call {o : Op} (h : Resolving o) : IsResolving (call o) := ⟨h, fun _ => trivial⟩

lemma resolving_modify {f : Attrs → Attrs}
    (h : ∀ d, ∃ plans, f d = { d with lookahead := plans }) : IsResolving (modify f) :=
  ⟨h, fun _ => trivial⟩

lemma resolving_self : IsResolving self := resolving_call trivial

lemma resolving_assist : IsResolving assist := ⟨trivial, fun x => uses_orRaise x⟩

lemma resolving_getConfig : IsResolving getConfig := ⟨trivial, fun x => uses_orRaise x⟩

lemma resolving_readState : IsResolving readState := ⟨trivial, fun x => uses_orRaise x⟩

lemma resolving_boundaryPlan {at_ : Instant} {minPlanSeconds : Option ℚ} :
    IsResolving (boundaryPlan at_ minPlanSeconds) := ⟨trivial, fun x => uses_orRaise x⟩

lemma resolving_fallbackPlan : IsResolving fallbackPlan := ⟨trivial, fun x => uses_orRaise x⟩

end Resolving

section Plans

variable (setup : Setup) {planEndAt : Option Instant} (state : StateRow)
  {boundaryAt : Option Instant}

lemma resolving_refreshSourceLookahead : IsResolving (refreshSourceLookahead setup) :=
  uses_bind (uses_ite (resolving_call trivial) (resolving_call trivial)) fun x =>
    uses_bind (uses_orRaise x) fun _ => resolving_modify fun _ => ⟨_, rfl⟩

lemma resolving_ensureLookahead : IsResolving (ensureLookahead setup) := by
  refine uses_bind resolving_self fun d => uses_ite ?_ uses_pure
  exact uses_bind (resolving_modify fun _ => ⟨_, rfl⟩) fun _ =>
    resolving_refreshSourceLookahead setup

lemma resolving_nextSourcePlan : IsResolving (nextSourcePlan setup) := by
  refine uses_bind resolving_self fun d => uses_ite (trivial) ?_
  cases d.takeover with
  | some live => exact uses_pure
  | none =>
    refine uses_bind (resolving_ensureLookahead setup) fun _ =>
      uses_bind resolving_self fun d => ?_
    cases d.lookahead.getD [] with
    | nil => exact uses_pure
    | cons plan rest => exact uses_bind (resolving_modify fun _ => ⟨_, rfl⟩) fun _ => uses_pure

lemma resolving_reResolve {probed : Option SourcePlan} (probedAt trueBoundary : Instant)
    {minPlanSeconds : Option ℚ} :
    IsResolving (reResolveProgramAtOccurrenceStart setup probed probedAt
      trueBoundary minPlanSeconds) := by
  cases probed with
  | none => exact uses_pure
  | some plan =>
    unfold reResolveProgramAtOccurrenceStart
    dsimp only
    split
    · exact uses_pure
    · refine uses_bind (uses_catchSourcePrepare resolving_boundaryPlan) fun answer => ?_
      split
      · exact uses_ite uses_pure uses_pure
      · exact uses_pure

lemma resolving_isDispatchedProgramRemainder (plan : SourcePlan) :
    IsResolving (isDispatchedProgramRemainder plan) := by
  refine uses_bind resolving_self fun d => uses_bind resolving_readState fun state => ?_
  split <;> exact uses_pure

lemma resolving_airsWhole (plan : SourcePlan) : IsResolving (airsWhole plan) :=
  uses_ite (uses_bind (resolving_isDispatchedProgramRemainder plan) fun _ => uses_pure)
    uses_pure

lemma resolving_noNext {slateWhenNoNext : Bool} {plan : SourcePlan} :
    IsResolving (resolveScheduleTail.noNext setup slateWhenNoNext plan) := by
  refine uses_ite (uses_bind (uses_catchSourcePrepare resolving_fallbackPlan) fun slate => ?_)
    uses_pure
  cases slate with
  | some slate => exact uses_ite uses_pure uses_pure
  | none => exact uses_pure

lemma resolving_resolveScheduleTail {plan : SourcePlan} {resolvedAt : Option Instant}
    {slateWhenNoNext : Bool} :
    IsResolving (resolveScheduleTail setup plan resolvedAt slateWhenNoNext) := by
  refine uses_bind resolving_self fun d => uses_ite uses_pure ?_
  refine uses_bind (resolving_airsWhole plan) fun whole => uses_ite uses_pure ?_
  refine uses_ite uses_pure (uses_ask trivial fun now => ?_)
  refine uses_bind (uses_catchSourcePrepare resolving_boundaryPlan) fun probed => ?_
  refine uses_bind (resolving_reResolve setup _ _) fun next => ?_
  cases next with
  | none => exact resolving_noNext setup
  | some nextPlan =>
    exact uses_ite (uses_ite uses_pure uses_pure) (resolving_noNext setup)

lemma resolving_chainNextProgram {filler : SourcePlan} {boundaryAt : Option Instant} :
    IsResolving (chainNextProgram setup filler boundaryAt) := by
  cases boundaryAt with
  | none => exact uses_pure
  | some boundary =>
    refine uses_ite uses_pure (uses_ask trivial fun answer => ?_)
    match answer with
    | .error e => exact uses_pure
    | .ok none => exact uses_pure
    | .ok (some nextStart) =>
      refine uses_ite uses_pure ?_
      cases trimFiller (nextStart - boundary) filler.segments with
      | none => exact uses_pure
      | some trimmed =>
        refine uses_ask trivial fun program => ?_
        match program with
        | .ok (some program) => exact uses_ite uses_pure uses_pure
        | .ok none => exact uses_pure
        | .error e => exact uses_pure

lemma resolving_handoffBoundary : IsResolving (handoffBoundary planEndAt) := by
  cases planEndAt with
  | none => exact uses_pure
  | some endAt => exact uses_ask trivial fun _ => uses_pure

lemma resolving_lookUpPlan (horizon : Option ℚ) :
    IsResolving (lookUpPlan setup boundaryAt horizon) := by
  refine uses_bind resolving_self fun d => ?_
  refine uses_bind (uses_catchSourcePrepare ?_) fun plan => ?_
  · split
    · exact resolving_boundaryPlan
    · exact resolving_nextSourcePlan setup
  · cases plan <;> exact uses_pure

lemma resolving_fillerPlan : IsResolving fillerPlan := by
  refine uses_bind (uses_catchSourcePrepare resolving_fallbackPlan) fun slate => ?_
  cases slate <;> exact uses_pure

lemma resolving_lookUpFiller {planEndAt : Option Instant} :
    IsResolving (lookUpFiller setup boundaryAt planEndAt) := by
  have hfiller : IsResolving (if setup.fallbackProvider then fillerPlan
      else pure (.resolved none .onAir)) := uses_ite resolving_fillerPlan uses_pure
  refine uses_ask trivial fun now => ?_
  refine uses_bind (uses_catchSourcePrepare ?_) fun late => ?_
  · split
    · exact resolving_boundaryPlan
    · exact resolving_nextSourcePlan setup
  · split
    · exact uses_ite uses_pure hfiller
    · exact hfiller

lemma resolving_lookUpPastBoundary (horizon : Option ℚ) :
    IsResolving (lookUpPastBoundary setup boundaryAt horizon) := by
  refine uses_bind resolving_self fun d => ?_
  split
  · exact uses_bind (uses_catchSourcePrepare resolving_boundaryPlan) fun _ =>
      resolving_reResolve setup _ _
  · exact uses_pure

lemma resolving_terminalSlate : IsResolving (terminalSlate setup planEndAt) := by
  refine uses_bind resolving_self fun d => uses_ite ?_ uses_pure
  refine uses_bind (uses_catchSourcePrepare resolving_fallbackPlan) fun slate => ?_
  cases slate <;> exact uses_pure

lemma resolving_resolveReload (a : ReloadArgs) {boundaryAt : Option Instant} :
    IsResolving (resolveReload setup state a boundaryAt) := by
  refine uses_ite (uses_bind (resolving_lookUpFiller setup) fun found => ?_)
    (uses_bind resolving_self fun d => uses_bind (resolving_lookUpPlan setup _) fun found => ?_)
  · split
    · exact uses_bind (resolving_chainNextProgram setup) fun _ => uses_pure
    · exact uses_pure
  · split
    · refine uses_bind (resolving_lookUpPastBoundary setup _) fun plan => ?_
      cases plan with
      | some plan => exact uses_pure
      | none => exact uses_bind (resolving_terminalSlate setup) fun _ => uses_pure
    · exact uses_pure

lemma resolving_floorReload (a : ReloadArgs) {boundaryAt : Option Instant} (plan : SourcePlan)
    {targetState : EgressState} : IsResolving (floorReload setup a boundaryAt plan targetState) :=
  uses_ite (uses_bind (resolving_resolveScheduleTail setup) fun _ => uses_pure)
    uses_pure

lemma resolving_reloadSteps (process : Proc) (a : ReloadArgs) :
    IsResolving (reloadSteps setup state process a) := by
  refine uses_bind resolving_getConfig fun config => ?_
  cases config with
  | none => exact uses_pure
  | some config =>
    refine uses_ite uses_pure (uses_bind resolving_assist fun _ => ?_)
    refine uses_bind resolving_handoffBoundary fun boundaryAt => ?_
    refine uses_bind (resolving_resolveReload setup state a) fun found => ?_
    obtain ⟨found, chainedEnd⟩ := found
    match found with
    | .ended outcome => exact uses_pure
    | .resolved none targetState => exact uses_pure
    | .resolved (some plan) targetState =>
      exact uses_ite uses_pure (uses_bind (resolving_floorReload setup a plan) fun _ =>
        uses_bind resolving_self fun _ => uses_pure)

/-- What a generator may be suspended with. -/
def Steps.Resumes (φ : Resume → Prop) : Steps → Prop
  | .finished _ => True
  | .goesOn resume => φ resume
  | .yields _ _ resume => φ resume

/-- A resolution that ends the reload declines it, or leaves it be. -/
def ReloadPlan.EndsEarly (found : ReloadPlan) : Prop :=
  ∀ outcome, found = .ended outcome → outcome = .declined ∨ outcome = .accepted

lemma ReloadPlan.endsEarly_resolved {plan : Option SourcePlan} {targetState : EgressState} :
    (ReloadPlan.resolved plan targetState).EndsEarly := by
  intro outcome h
  cases h

lemma ReloadPlan.endsEarly_declined : (ReloadPlan.ended .declined).EndsEarly := by
  intro outcome h
  cases h
  exact .inl rfl

lemma ReloadPlan.endsEarly_accepted : (ReloadPlan.ended .accepted).EndsEarly := by
  intro outcome h
  cases h
  exact .inr rfl

lemma gives_lookUpPlan (horizon : Option ℚ) :
    (lookUpPlan setup boundaryAt horizon).Gives ReloadPlan.EndsEarly := by
  refine gives_bind fun d => gives_bind fun plan => ?_
  cases plan with
  | some plan => exact gives_pure ReloadPlan.endsEarly_resolved
  | none => exact gives_pure ReloadPlan.endsEarly_declined

lemma gives_fillerPlan : fillerPlan.Gives ReloadPlan.EndsEarly := by
  refine gives_bind fun slate => ?_
  cases slate with
  | some slate => exact gives_pure ReloadPlan.endsEarly_resolved
  | none => exact gives_pure ReloadPlan.endsEarly_accepted

lemma gives_lookUpFiller {planEndAt : Option Instant} :
    (lookUpFiller setup boundaryAt planEndAt).Gives ReloadPlan.EndsEarly := by
  have hfiller : Prog.Gives ReloadPlan.EndsEarly (if setup.fallbackProvider then fillerPlan
      else pure (.resolved none .onAir) : DaemonM ReloadPlan) :=
    gives_ite gives_fillerPlan (gives_pure ReloadPlan.endsEarly_resolved)
  refine gives_bind fun now => gives_bind fun late => ?_
  split
  · exact gives_ite (gives_pure ReloadPlan.endsEarly_resolved) hfiller
  · exact hfiller

lemma gives_terminalSlate : (terminalSlate setup planEndAt).Gives ReloadPlan.EndsEarly := by
  refine gives_bind fun d => gives_ite (gives_bind fun slate => ?_)
    (gives_pure ReloadPlan.endsEarly_resolved)
  cases slate with
  | some slate => exact gives_pure ReloadPlan.endsEarly_resolved
  | none => exact gives_pure ReloadPlan.endsEarly_accepted

lemma gives_resolveReload (a : ReloadArgs) {boundaryAt : Option Instant} :
    (resolveReload setup state a boundaryAt).Gives fun found => found.1.EndsEarly := by
  refine gives_ite ?_ (gives_bind fun d => ?_)
  · refine (gives_lookUpFiller setup).bind fun found hfound => ?_
    split
    · exact gives_bind fun chained => gives_pure ReloadPlan.endsEarly_resolved
    · exact gives_pure hfound
  · refine (gives_lookUpPlan setup _).bind fun found hfound => ?_
    split
    · refine gives_bind fun plan => ?_
      cases plan with
      | some plan => exact gives_pure ReloadPlan.endsEarly_resolved
      | none => exact (gives_terminalSlate setup).bind fun found hfound => gives_pure hfound
    · exact gives_pure hfound

/-- A reload ends at once, or is suspended for the worker asked for. -/
lemma gives_reloadSteps_of {χ : Steps → Prop} {process : Proc}
    (a : ReloadArgs) (hdeclined : χ (.finished .declined)) (haccepted : χ (.finished .accepted))
    (hyield : ∀ r d, r.process = process → χ (yieldReload setup r d)) :
    (reloadSteps setup state process a).Gives χ := by
  refine gives_bind fun config => ?_
  cases config with
  | none => exact gives_pure hdeclined
  | some config =>
    refine gives_ite (gives_pure hdeclined) (gives_bind fun _ => gives_bind fun boundaryAt => ?_)
    refine (gives_resolveReload setup state a).bind fun found hfound => ?_
    obtain ⟨found, chainedEnd⟩ := found
    match found, hfound with
    | .ended outcome, hfound =>
      rcases hfound outcome rfl with rfl | rfl
      · exact gives_pure hdeclined
      · exact gives_pure haccepted
    | .resolved none targetState, _ => exact gives_pure hdeclined
    | .resolved (some plan) targetState, _ =>
      refine gives_ite (gives_pure hdeclined) (gives_bind fun floored => ?_)
      exact gives_bind fun d => gives_pure (hyield _ d rfl)

lemma gives_reloadSteps (process : Proc) (a : ReloadArgs) :
    (reloadSteps setup state process a).Gives
      (Steps.Resumes fun resume => ∃ r, resume = .reload r ∧ r.process = process) := by
  refine gives_reloadSteps_of setup state a trivial trivial fun r d hprocess => ?_
  unfold yieldReload
  split
  · exact ⟨_, rfl, hprocess⟩
  · split
    · exact ⟨_, rfl, hprocess⟩
    · split <;> exact ⟨_, rfl, hprocess⟩

end Plans

/-! ## Starts, reloads and exits -/

section Moves

variable (setup : Setup) {planEndAt : Option Instant}

lemma tame_liveProcess : IsTame liveProcess := by
  refine uses_bind tame_self fun d => ?_
  cases d.process with
  | none => exact uses_pure
  | some p => exact uses_bind tame_processPoll fun _ => uses_pure

lemma tame_resolveSlate {slateFirstHandoff : Bool} : IsTame (resolveSlate slateFirstHandoff) :=
  uses_bind tame_writeState fun _ => uses_bind tame_fallbackPlan fun _ => uses_pure

lemma tame_nothingToStart : IsTame nothingToStart :=
  uses_bind tame_writeState fun _ => uses_bind tame_assist fun _ => uses_pure

lemma tame_captionReadiness : IsTame (captionReadiness setup) :=
  uses_ite (uses_ask ⟨trivial, trivial⟩ fun x => uses_orRaise x) uses_pure

lemma tame_applyTailFloor (a : StartArgs) {plan : StartPlan} :
    IsTame (applyTailFloor setup a plan) := by
  refine uses_bind tame_self fun d => uses_ite ?_ uses_pure
  exact uses_bind (resolving_resolveScheduleTail setup).tame fun tail =>
    uses_ite uses_pure uses_pure

lemma tame_receiveStart (r : StartResume) {sent : Sent} : IsTame (receiveStart setup r sent) := by
  unfold receiveStart
  split
  · exact uses_pure
  · exact uses_pure
  · exact uses_ite uses_pure uses_pure
  · exact uses_pure
  · refine uses_ite (uses_bind tame_writeState fun _ => ?_) trivial
    exact uses_bind tame_fallbackPlan fun _ => uses_pure

lemma tame_startExpired (r : StartResume) (p : Prepared) : IsTame (startExpired r p) := by
  unfold startExpired
  split
  · exact uses_ite uses_pure (uses_ask ⟨trivial, trivial⟩ fun _ => uses_pure)
  · exact uses_pure

lemma tame_announceTransition {previousState : Option EgressState} :
    IsTame (announceTransition previousState) :=
  uses_ite (uses_bind tame_appendProofEvent fun _ => tame_writeState) uses_pure

lemma tame_recordStart (r : StartResume) (up : Launched) : IsTame (recordStart r up) :=
  uses_bind tame_appendProofEvent fun _ => uses_bind tame_assist fun _ =>
    uses_bind tame_writeState fun _ =>
      uses_bind tame_recordDispatchedPlan fun _ =>
        uses_bind tame_assist fun _ => uses_pure

lemma tame_resolutionStart {startedAt : Option ℚ} : IsTame (resolutionStart startedAt) := by
  cases startedAt with
  | none => exact tame_call ⟨trivial, trivial⟩
  | some t => exact uses_pure

lemma tame_stallBound {failed : Option (ℚ × Instant)} {now : ℚ} :
    IsTame (armPendingReload.stallBound planEndAt failed now) := by
  refine uses_ask ⟨trivial, trivial⟩ fun utc => ?_
  split
  · exact uses_pure
  · cases planEndAt <;> exact uses_pure

lemma tame_armPendingReload {state : Option StateRow} {planEndAt : Option Instant} :
    IsTame (armPendingReload state planEndAt) :=
  uses_bind (tame_modify fun _ => ⟨rfl, rfl, rfl⟩) fun _ =>
    uses_ask ⟨trivial, trivial⟩ fun _ =>
    uses_bind (tame_modify fun _ => ⟨rfl, rfl, rfl⟩) fun _ => uses_bind tame_self fun _ =>
      uses_bind (tame_modify fun _ => ⟨rfl, rfl, rfl⟩) fun _ =>
        uses_bind tame_stallBound fun _ => tame_modify fun _ => ⟨rfl, rfl, rfl⟩

lemma tame_terminateBounded {p : Proc} : IsTame (terminateBounded p) :=
  uses_ask ⟨trivial, trivial⟩ fun _ =>
    uses_ask ⟨trivial, trivial⟩ fun _ => uses_pure

lemma tame_terminateForReload {p : Proc} : IsTame (terminateForReload p) :=
  uses_bind (tame_modify fun _ => ⟨rfl, rfl, rfl⟩) fun _ => tame_call ⟨trivial, trivial⟩

lemma tame_noteFailedPreparation : IsTame (noteFailedPreparation planEndAt) := by
  cases planEndAt with
  | none => exact uses_pure
  | some endAt => exact uses_ask ⟨trivial, trivial⟩ fun _ => tame_modify fun _ =>
    ⟨rfl, rfl, rfl⟩

lemma tame_receiveReload (r : ReloadResume) {sent : Sent} : IsTame (receiveReload r sent) := by
  unfold receiveReload
  split
  · exact uses_pure
  · exact uses_ite uses_pure uses_pure
  · exact uses_ite (uses_bind tame_noteFailedPreparation fun _ => uses_pure) trivial

lemma tame_reloadDeclined (r : ReloadResume) : IsTame (reloadDeclined r) := by
  refine uses_ask ⟨trivial, trivial⟩ fun timedOut => uses_ite ?_ uses_pure
  refine uses_bind tame_processPoll fun code => uses_ite ?_ uses_pure
  exact uses_bind tame_armPendingReload fun _ =>
    uses_bind (tame_modify fun _ => ⟨rfl, rfl, rfl⟩) fun _ => tame_terminateBounded

lemma tame_missedStart {scheduledStartAt : Option Instant} :
    IsTame (missedStart scheduledStartAt) := by
  cases scheduledStartAt with
  | none => exact uses_pure
  | some startAt => exact uses_ask ⟨trivial, trivial⟩ fun _ => uses_pure

lemma tame_restartProof {failed : Bool} {state : Option StateRow} :
    IsTame (restartProof failed state) :=
  uses_ite (uses_bind tame_appendProofEvent fun _ => uses_pure) uses_pure

lemma tame_boundaryExpired : IsTame (boundaryExpired planEndAt) := by
  cases planEndAt with
  | none => exact uses_pure
  | some endAt => exact uses_ask ⟨trivial, trivial⟩ fun _ => uses_pure

lemma tame_announceRestart {failed : Bool} {state : Option StateRow} {process : Option Proc}
    {planEndAt : Option Instant} : IsTame (announceRestart failed state process planEndAt) := by
  refine uses_bind tame_restartProof fun _ => uses_bind tame_writeState fun _ => ?_
  refine uses_bind tame_boundaryExpired fun expired => ?_
  split
  · exact uses_ite tame_terminateForReload uses_pure
  · exact uses_pure

lemma tame_takeRolloverRecord {commandId : Option String} :
    IsTame (takeRolloverRecord commandId) := by
  refine uses_bind tame_self fun d => ?_
  split
  · exact uses_pure
  · exact uses_bind (tame_modify fun _ => ⟨rfl, rfl, rfl⟩) fun _ => uses_pure

lemma tame_scheduledStart {a : RequestArgs} {state : StateRow} {planEndAt : Option Instant} :
    IsTame (scheduledStart setup a state planEndAt) := by
  unfold scheduledStart
  split
  · refine uses_ite (uses_ask ⟨trivial, trivial⟩ fun _ => ?_) uses_pure
    exact uses_bind tame_self fun _ => uses_pure
  · exact uses_pure

lemma tame_beforeSwitch {switchAtUnix : Option ℚ} : IsTame (beforeSwitch switchAtUnix) := by
  cases switchAtUnix with
  | none => exact uses_pure
  | some at_ => exact uses_ask ⟨trivial, trivial⟩ fun _ => uses_pure

lemma tame_backOff {state : EgressState} {proofEventId : Option ℕ} :
    IsTame (backOff state proofEventId) :=
  uses_bind (tame_modify fun _ => ⟨rfl, rfl, rfl⟩) fun _ =>
    uses_bind tame_writeState fun _ =>
    uses_bind tame_assist fun _ => tame_modify fun _ => ⟨rfl, rfl, rfl⟩

lemma tame_proveCrash {streak : ℕ} : IsTame (proveCrash streak) :=
  uses_bind tame_appendProofEvent fun _ => uses_ite tame_appendProofEvent uses_pure

lemma plain_settleDown {state : EgressState} : IsPlain (settleDown state) :=
  uses_bind plain_resetRestartTracking fun _ => uses_bind tame_assist.plain fun _ =>
    uses_bind tame_writeState.plain fun _ => uses_bind tame_assist.plain fun _ =>
      plain_modify fun _ => rfl

lemma tame_uptimeOf {startedAt : Option ℚ} : IsTame (uptimeOf startedAt) := by
  cases startedAt with
  | none => exact uses_pure
  | some t => exact uses_ask ⟨trivial, trivial⟩ fun _ => uses_pure

lemma tame_pollSourceOutput (p : Proc) (n : ℕ) : IsTame (pollSourceOutput p n) := by
  have hobserve : IsTame (pollSourceOutput.observe p) :=
    uses_ask ⟨trivial, trivial⟩ fun x => uses_bind (uses_orRaise x) fun _ =>
      uses_bind tame_readState fun _ => uses_bind tame_writeState fun _ => tame_assist
  induction n with
  | zero => exact uses_pure
  | succ n ih => exact uses_bind (uses_attempt hobserve) fun _ => ih

lemma plain_confirmOnAir {d : Attrs} : IsPlain (confirmOnAir d) := by
  refine uses_ite (uses_ask trivial fun evidence => ?_) plain_pure
  refine uses_ite (uses_ask trivial fun _ => ?_) plain_pure
  exact plain_modify fun _ => rfl

lemma plain_forgetRestarts {current : EgressState} : IsPlain (forgetRestarts current) := by
  refine uses_bind tame_self.plain fun d => ?_
  cases d.onAirConfirmedAt with
  | none => exact plain_pure
  | some confirmedAt =>
    exact uses_ask trivial fun _ =>
      uses_ite plain_resetRestartTracking plain_pure

lemma plain_workerAlive (p : Proc) : IsPlain (workerAlive p) :=
  uses_bind tame_readState.plain fun _ => uses_bind tame_assist.plain fun _ =>
    uses_bind tame_self.plain fun _ => uses_bind tame_assist.plain fun _ =>
      uses_bind tame_writeState.plain fun _ => uses_bind tame_assist.plain fun _ =>
        uses_bind plain_confirmOnAir fun _ => plain_forgetRestarts

lemma tame_qualityGuardDeferred : IsTame qualityGuardDeferred :=
  uses_bind tame_self fun _ => uses_ite uses_pure tame_hasPendingTerminalCommand

lemma tame_terminalIntent (d : Attrs) : IsTame (terminalIntent d) :=
  uses_ite uses_pure tame_hasPendingTerminalCommand

lemma tame_isDisabled : IsTame isDisabled := uses_bind tame_getConfig fun _ => uses_pure

lemma tame_guardSkips (c : Command) : IsTame (guardSkips c) := by
  unfold guardSkips
  split
  · exact uses_pure
  · exact uses_bind tame_readState fun _ => uses_pure

lemma tame_isStale {pending : Preparation} {d : Attrs} : IsTame (isStale pending d) :=
  uses_ite uses_pure (uses_bind tame_getConfig fun _ => uses_pure)

lemma tame_standDown (process : Option Proc) : IsTame (standDown process) := by
  refine uses_bind tame_assist fun _ => ?_
  cases process with
  | none => exact uses_pure
  | some p =>
    exact uses_bind tame_writeState fun _ =>
      uses_ask ⟨trivial, trivial⟩ fun _ => tame_assist

lemma tame_reconcileStaleClaims {pidless : Bool} : IsTame (reconcileStaleClaims pidless) := by
  refine uses_bind tame_getConfig fun config => uses_bind tame_self fun d => ?_
  refine uses_bind (tame_terminalIntent d) fun terminal => uses_ite uses_pure ?_
  refine uses_bind tame_readState fun state => ?_
  cases state with
  | none => exact uses_pure
  | some row =>
    refine uses_ite uses_pure (uses_bind ?_ fun gone => ?_)
    · exact uses_ite uses_pure (tame_call ⟨trivial, trivial⟩)
    · exact uses_ite tame_writeState uses_pure

end Moves

/-! ## Within a start or a reload

Starts and reloads touch everything that is held, but they settle nothing and leave the
configuration alone. -/

/-- Everything of it but the two hand-overs: a preparation to the executor, and a request to
the worker. -/
def Handling : Op → Prop
  | .modify f => ∀ d, (f d).preparation = d.preparation ∧ (f d).takeover = d.takeover ∧
      (f d).forcedSlate = d.forcedSlate
  | .mark _ | .configure _ | .futureDone _ _ _ | .submit _ | .reloadContent _ => False
  | _ => True

abbrev IsHandling {α : Type} (p : DaemonM α) : Prop := p.Uses Handling fun _ => True

/-- Of these, what counts nothing. -/
def Tidy (o : Op) : Prop := Handling o ∧ Uncounted o

abbrev IsTidy {α : Type} (p : DaemonM α) : Prop := p.Uses Tidy fun _ => True

/-- Operations a start or a reload may make. -/
def Inner : Op → Prop
  | .mark (.requested _) => True
  | .mark _ | .configure _ | .futureDone _ _ _ => False
  | _ => True

abbrev IsInner {α : Type} (p : DaemonM α) : Prop := p.Uses Inner fun _ => True

def Local (o : Op) : Prop := Inner o ∧ Uncounted o

abbrev IsLocal {α : Type} (p : DaemonM α) : Prop := p.Uses Local fun _ => True

section Inner

variable {α : Type} {p : DaemonM α} {o : Op} {f : Attrs → Attrs}

lemma Plain.handling (ho : Plain o) : Handling o := by
  cases o with
  | modify f =>
    intro d
    have hd := ho d
    simp only [Attrs.custody, Custody.mk.injEq] at hd
    exact ⟨hd.2.1, hd.2.2.2.2.2⟩
  | release dir | dropSettle reason | cancelPreparation | submit plan | launch plan planDir
  | prepare plan | futureDone ticket plan supplied | reloadContent req | mark m
  | configure config => exact ho.elim
  | _ => trivial

lemma Handling.inner (ho : Handling o) : Inner o := by
  cases o with
  | mark m | configure config | futureDone ticket plan supplied => exact ho.elim
  | _ => trivial

lemma IsPlain.handling (h : IsPlain p) : IsHandling p :=
  Uses.mono (fun _ => Plain.handling) (fun _ _ => trivial) h

lemma IsTame.tidy (h : IsTame p) : IsTidy p :=
  Uses.mono (fun _ ho => ⟨ho.1.handling, ho.2⟩) (fun _ _ => trivial) h

lemma Tidy.local_ (ho : Tidy o) : Local o := ⟨ho.1.inner, ho.2⟩

lemma IsTidy.local_ (h : IsTidy p) : IsLocal p :=
  Uses.mono (fun _ => Tidy.local_) (fun _ _ => trivial) h

lemma IsTame.local_ (h : IsTame p) : IsLocal p := h.tidy.local_

lemma IsTidy.handling (h : IsTidy p) : IsHandling p :=
  Uses.mono (fun _ ho => ho.1) (fun _ _ => trivial) h

lemma IsLocal.inner (h : IsLocal p) : IsInner p :=
  Uses.mono (fun _ ho => ho.1) (fun _ _ => trivial) h

lemma IsLocal.uncounted (h : IsLocal p) : IsUncounted p :=
  Uses.mono (fun _ ho => ho.2) (fun _ _ => trivial) h

lemma IsTidy.uncounted (h : IsTidy p) : IsUncounted p := h.local_.uncounted

lemma IsTidy.inner (h : IsTidy p) : IsInner p := h.local_.inner

lemma IsTame.inner (h : IsTame p) : IsInner p := h.local_.inner

lemma handling_call (h : Handling o) : IsHandling (call o) := ⟨h, fun _ => trivial⟩

lemma handling_modify
    (h : ∀ d, (f d).preparation = d.preparation ∧ (f d).takeover = d.takeover ∧
      (f d).forcedSlate = d.forcedSlate) : IsHandling (modify f) := ⟨h, fun _ => trivial⟩

lemma inner_call (h : Inner o) : IsInner (call o) := ⟨h, fun _ => trivial⟩

lemma tidy_call (h : Tidy o) : IsTidy (call o) := ⟨h, fun _ => trivial⟩

lemma tidy_modify
    (h : ∀ d, (f d).preparation = d.preparation ∧ (f d).takeover = d.takeover ∧
      (f d).forcedSlate = d.forcedSlate ∧ (f d).restartStreak = d.restartStreak ∧
      ((f d).onAirConfirmedAt = d.onAirConfirmedAt ∨ (f d).onAirConfirmedAt = none)) :
    IsTidy (modify f) :=
  ⟨⟨fun d => ⟨(h d).1, (h d).2.1, (h d).2.2.1⟩, fun d => (h d).2.2.2⟩, fun _ => trivial⟩

lemma next_registers (ho : Inner o) {w : World} {x : Ans o} :
    (next w o x).applied = w.applied ∧ (next w o x).reissues = w.reissues := by
  cases o with
  | mark m =>
    cases m with
    | requested forceFallback => exact ⟨rfl, rfl⟩
    | reissued | applied pending => exact ho.elim
  | configure config | futureDone ticket plan supplied => exact ho.elim
  | dropSettle reason | cancelPreparation | meanwhile => simp [next]
  | writeState row | prepare plan | launch plan planDir => cases x <;> exact ⟨rfl, rfl⟩
  | reloadContent req =>
    rcases x with e | _ | _ <;> exact ⟨rfl, rfl⟩
  | _ => exact ⟨rfl, rfl⟩

lemma local_call (h : Local o) : IsLocal (call o) := ⟨h, fun _ => trivial⟩

lemma local_modify (h : Uncounted (.modify f)) : IsLocal (modify f) :=
  local_call ⟨trivial, h⟩

lemma tidy_releasePreparedPlanDir {planDir : Option Dir} :
    IsTidy (releasePreparedPlanDir planDir) := by
  cases planDir with
  | none => exact uses_pure
  | some dir => exact tidy_call ⟨trivial, trivial⟩

lemma tidy_discardActivePreparedPlanDir : IsTidy discardActivePreparedPlanDir :=
  uses_bind tame_self.tidy fun _ =>
    uses_bind (tidy_modify fun _ => ⟨rfl, rfl, rfl, rfl, .inl rfl⟩) fun _ =>
    tidy_releasePreparedPlanDir

lemma tidy_discardPreparedRestartPlan : IsTidy discardPreparedRestartPlan :=
  uses_bind tame_self.tidy fun _ =>
    uses_bind (tidy_modify fun _ => ⟨rfl, rfl, rfl, rfl, .inl rfl⟩) fun _ =>
    tidy_releasePreparedPlanDir

lemma tidy_stashIfPrepared {prepared : Option ReusePreparedPlan} :
    IsTidy (stashIfPrepared prepared) := by
  cases prepared with
  | none => exact uses_pure
  | some plan =>
    exact uses_bind tidy_discardPreparedRestartPlan fun _ =>
      tidy_modify fun _ => ⟨rfl, rfl, rfl, rfl, .inl rfl⟩

lemma local_drive {steps : DaemonM Steps} {finish : Resume → Sent → DaemonM Outcome}
    (hsteps : IsLocal steps) (hfinish : ∀ resume sent, IsLocal (finish resume sent))
    {slateFirst : Bool} : IsLocal (drive steps finish slateFirst) := by
  refine uses_bind tame_self.local_ fun d => uses_ite uses_pure ?_
  refine uses_bind hsteps fun found => ?_
  cases found with
  | finished outcome => exact uses_pure
  | goesOn resume => exact hfinish resume none
  | yields plan supplied resume =>
    refine uses_bind tame_self.local_ fun d => uses_ite ?_ ?_
    · exact uses_ask ⟨trivial, trivial⟩ fun _ =>
        uses_bind tame_getConfig.local_ fun _ =>
        uses_bind (local_modify fun _ => ⟨rfl, .inl rfl⟩) fun _ => uses_pure
    · cases supplied with
      | some report => exact hfinish resume _
      | none => exact uses_ask ⟨trivial, trivial⟩ fun report => hfinish resume _

/-! ### Starts -/

variable (setup : Setup) {start : StartArgs → DaemonM Unit}

lemma tidy_dropHeldRestartPlan {prepared : Option ReusePreparedPlan} :
    IsTidy (dropHeldRestartPlan prepared) :=
  uses_bind tame_self.tidy fun _ =>
    uses_bind (tidy_modify fun _ => ⟨rfl, rfl, rfl, rfl, .inl rfl⟩) fun _ =>
    uses_ite tidy_releasePreparedPlanDir uses_pure

lemma tidy_clearForStart {prepared : Option ReusePreparedPlan} :
    IsTidy (clearForStart prepared) := by
  refine uses_bind tame_getConfig.tidy fun config => ?_
  cases config with
  | none => trivial
  | some config =>
    refine uses_ite trivial (uses_bind tame_assist.tidy fun _ => ?_)
    refine uses_bind tame_liveProcess.tidy fun live => uses_ite ?_ ?_
    · exact uses_bind tidy_releasePreparedPlanDir fun _ => uses_pure
    · exact uses_bind (tidy_modify fun _ => ⟨rfl, rfl, rfl, rfl, .inl rfl⟩) fun _ =>
        uses_bind tidy_dropHeldRestartPlan fun _ =>
          uses_ask ⟨trivial, trivial⟩ fun _ =>
            uses_bind tidy_discardActivePreparedPlanDir fun _ =>
              uses_bind tame_readState.tidy fun _ => uses_bind tame_assist.tidy fun _ =>
                uses_pure

lemma tidy_resolveStart (a : StartArgs) : IsTidy (resolveStart setup a) := by
  have hslate : ∀ handoff, IsTidy (resolveSlate handoff) := fun handoff => tame_resolveSlate.tidy
  refine uses_ite (hslate _) (uses_bind (tame_captionReadiness setup).tidy fun answer => ?_)
  cases answer with
  | refused requiresFallbackSlate =>
    refine uses_ite trivial (uses_ite ?_ (hslate _))
    exact uses_bind tame_nothingToStart.tidy fun _ =>
      uses_bind tidy_releasePreparedPlanDir fun _ => uses_pure
  | ready =>
    dsimp only
    split
    · exact uses_pure
    · refine uses_bind tame_self.tidy fun d => uses_ite (hslate _) ?_
      refine uses_bind (uses_attempt (resolving_nextSourcePlan setup).tame.tidy) fun answer => ?_
      split
      · exact uses_pure
      · exact uses_ite (hslate _) tame_nothingToStart.tidy
      · exact uses_ite (hslate _) trivial
      · trivial

lemma tidy_startGuarded {otherwise : α} (hp : IsTidy p) : IsTidy (startGuarded otherwise p) := by
  refine uses_bind (uses_attempt hp) fun answer => ?_
  cases answer with
  | ok a => exact uses_pure
  | error fault =>
    exact uses_bind tame_writeState.tidy fun _ =>
      uses_bind tame_assist.tidy fun _ =>
      uses_bind (tidy_modify fun _ => ⟨rfl, rfl, rfl, rfl, .inl rfl⟩) fun _ =>
        uses_ite trivial uses_pure

lemma tidy_startSteps (a : StartArgs) (startedAt : ℚ) : IsTidy (startSteps setup a startedAt) := by
  refine tidy_startGuarded (uses_bind tidy_clearForStart fun config => ?_)
  cases config with
  | none => exact uses_pure
  | some config =>
    refine uses_bind (tidy_resolveStart setup a) fun plan => ?_
    cases plan with
    | none => exact uses_pure
    | some plan =>
      refine uses_ite trivial (uses_bind (tame_applyTailFloor setup a).tidy fun _ => ?_)
      refine uses_bind (uses_ite tidy_releasePreparedPlanDir tame_writeState.tidy) fun _ => ?_
      exact uses_bind tame_self.tidy fun _ => uses_pure

lemma gives_startGuarded {χ : α → Prop} {otherwise : α} (hotherwise : χ otherwise)
    (hp : p.Gives χ) : (startGuarded otherwise p).Gives χ := by
  refine hp.attempt.bind fun answer hanswer => ?_
  cases answer with
  | ok a => exact gives_pure (hanswer a rfl)
  | error fault =>
    exact gives_bind fun _ => gives_bind fun _ => gives_bind fun _ =>
      gives_ite gives_raise (gives_pure hotherwise)

lemma yieldStart_resumes {prepared : Option ReusePreparedPlan} {plan : StartPlan}
    {resume : StartResume} {d : Attrs} :
    (yieldStart setup prepared plan resume d).Resumes fun resume => ∃ r, resume = .start r := by
  unfold yieldStart
  split
  · split <;> exact ⟨_, rfl⟩
  · split
    · split <;> exact ⟨_, rfl⟩
    · exact ⟨_, rfl⟩

lemma gives_startSteps (a : StartArgs) {startedAt : ℚ} :
    (startSteps setup a startedAt).Gives
      (Steps.Resumes fun resume => ∃ r, resume = .start r) := by
  refine gives_startGuarded trivial (gives_bind fun config => ?_)
  cases config with
  | none => exact gives_pure trivial
  | some config =>
    refine gives_bind fun plan => ?_
    cases plan with
    | none => exact gives_pure trivial
    | some plan =>
      refine gives_ite gives_raise (gives_bind fun floored => ?_)
      exact gives_bind fun _ => gives_bind fun _ =>
        gives_pure (yieldStart_resumes setup)

lemma tidy_launchEncoder (p : Prepared) : IsTidy (launchEncoder setup p) := by
  refine uses_ask ⟨trivial, trivial⟩ fun started => ?_
  cases started with
  | ok process => exact uses_pure
  | error fault =>
    refine uses_ite ?_ trivial
    exact uses_bind tame_fallbackPlan.tidy fun _ =>
      uses_bind tame_writeState.tidy fun _ =>
        uses_bind tame_assist.tidy fun _ =>
        uses_ask ⟨trivial, trivial⟩ fun again =>
          uses_bind (uses_orRaise again) fun _ =>
          uses_pure

lemma tidy_bringUp {previousState : Option EgressState} (p : Prepared) :
    IsTidy (bringUp setup previousState p) := by
  refine uses_bind tame_writeState.tidy fun _ =>
    uses_bind tame_assist.tidy fun _ => ?_
  refine uses_bind tame_announceTransition.tidy fun _ => ?_
  refine uses_bind tame_writeState.tidy fun _ =>
    uses_bind tame_assist.tidy fun _ => ?_
  refine uses_bind (tidy_launchEncoder setup p) fun up => ?_
  refine uses_ask ⟨trivial, trivial⟩ fun now =>
    uses_bind (tidy_modify fun _ => ⟨rfl, rfl, rfl, rfl, .inr rfl⟩) fun _ => ?_
  refine uses_bind (uses_ite tidy_releasePreparedPlanDir ?_) fun _ => uses_pure
  exact uses_ite (tidy_modify fun _ => ⟨rfl, rfl, rfl, rfl, .inl rfl⟩) uses_pure

lemma uses_releaseOnError {φ : Op → Prop} (hφ : ∀ o, Tidy o → φ o) {planDir : Option Dir}
    (hp : p.Uses φ fun _ => True) : (releaseOnError planDir p).Uses φ fun _ => True := by
  refine uses_bind (uses_attempt hp) fun answer => ?_
  cases answer with
  | ok a => exact uses_pure
  | error fault =>
    refine uses_bind ?_ fun _ => trivial
    exact Uses.mono hφ (fun _ _ => trivial) tidy_releasePreparedPlanDir

lemma tidy_startFinish (r : StartResume) {sent : Sent} : IsTidy (startFinish setup r sent) := by
  refine tidy_startGuarded (uses_bind (tame_receiveStart setup r).tidy fun p => ?_)
  refine uses_bind (tame_startExpired r p).tidy fun expired => uses_ite ?_ ?_
  · exact uses_bind tidy_releasePreparedPlanDir fun _ => uses_ite uses_pure trivial
  · exact uses_bind (uses_releaseOnError (fun _ => id) (tidy_bringUp setup p)) fun up =>
      (tame_recordStart r up).tidy

/-! ### Reloads -/

lemma tidy_awaitSettlement (r : ReloadResume) {req : ReloadRequest} :
    IsTidy (awaitSettlement r req) :=
  uses_ask ⟨trivial, trivial⟩ fun _ =>
    uses_bind (tidy_modify fun _ => ⟨rfl, rfl, rfl, rfl, .inl rfl⟩) fun _ =>
      uses_ask ⟨trivial, trivial⟩ fun _ =>
        uses_ask ⟨trivial, trivial⟩ fun _ =>
        tidy_modify fun _ => ⟨rfl, rfl, rfl, rfl, .inl rfl⟩

lemma local_dispatchReload {r : ReloadResume} {plan : SourcePlan} {planDir : Option Dir}
    {deferred : Bool} : IsLocal (dispatchReload r plan planDir deferred) := by
  refine uses_ask ⟨trivial, trivial⟩ fun id =>
    uses_ask ⟨trivial, trivial⟩ fun armed => ?_
  rcases armed with e | _ | _
  · exact uses_pure
  · exact uses_bind (tame_reloadDeclined r).local_ fun _ => uses_pure
  · exact uses_bind (tidy_awaitSettlement r).local_ fun _ => uses_pure

lemma local_reloadFinish (r : ReloadResume) (sent : Sent) : IsLocal (reloadFinish r sent) := by
  refine uses_bind (tame_receiveReload r).local_ fun received => ?_
  match received with
  | none => exact uses_pure
  | some (plan, report) =>
    refine uses_bind tame_missedStart.local_ fun late => uses_ite ?_ ?_
    · exact uses_bind tidy_releasePreparedPlanDir.local_ fun _ => uses_pure
    · refine uses_bind tame_assist.local_ fun _ => uses_bind tame_self.local_ fun d => ?_
      refine uses_ask ⟨trivial, trivial⟩ fun now =>
        uses_ite ?_ local_dispatchReload
      cases report <;> exact uses_pure

lemma local_resumeWith (resume : Resume) (sent : Sent) :
    IsLocal (resumeWith setup resume sent) := by
  cases resume with
  | start r => exact (tidy_startFinish setup r).local_
  | reload r => exact local_reloadFinish r sent

lemma tidy_fallBackToRestartReload {failed : Bool} {prepared : Option ReusePreparedPlan}
    {planEndAt : Option Instant} : IsTidy (fallBackToRestartReload failed prepared planEndAt) := by
  refine uses_ask ⟨trivial, trivial⟩ fun _ =>
    uses_bind tidy_stashIfPrepared fun _ => ?_
  refine uses_bind tame_readState.tidy fun state => uses_bind tame_self.tidy fun d => ?_
  exact uses_bind tame_armPendingReload.tidy fun _ =>
    tame_announceRestart.tidy

lemma local_tryContentReload {state : StateRow} {process : Proc} {a : ReloadArgs}
    {slateFirst : Bool} : IsLocal (tryContentReload setup state process a slateFirst) := by
  refine uses_ask ⟨trivial, trivial⟩ fun _ => ?_
  refine uses_bind (local_drive (resolving_reloadSteps setup state process a).tame.local_
    (local_resumeWith setup)) fun outcome => ?_
  cases outcome with
  | reuse plan =>
    exact uses_bind tidy_fallBackToRestartReload.local_ fun _ => uses_pure
  | _ => exact uses_pure

lemma local_requestReloadWith (hstart : ∀ a, IsLocal (start a)) (a : RequestArgs) :
    IsLocal (requestReloadWith setup start a) := by
  refine uses_ask ⟨trivial, trivial⟩ fun _ => ?_
  refine uses_bind tame_takeRolloverRecord.local_ fun recorded => ?_
  refine uses_ask ⟨trivial, trivial⟩ fun _ => uses_bind tame_readState.local_ fun
    state => ?_
  refine uses_bind tame_liveProcess.local_ fun live => ?_
  cases live with
  | none => exact hstart _
  | some p =>
    dsimp only
    split
    · exact tidy_fallBackToRestartReload.local_
    · refine uses_bind (tame_scheduledStart setup).local_ fun _ => ?_
      refine uses_bind (local_tryContentReload setup) fun armed => ?_
      exact uses_ite uses_pure tidy_fallBackToRestartReload.local_

lemma local_startWith (hstart : ∀ a, IsLocal (start a))
    (a : StartArgs) : IsLocal (startWith setup start a) := by
  refine uses_bind tame_self.local_ fun d => uses_ite tidy_releasePreparedPlanDir.local_ ?_
  refine uses_bind tame_resolutionStart.local_ fun startedAt => ?_
  refine uses_bind (uses_releaseOnError (fun _ => Tidy.local_) (local_drive
    (tidy_startSteps setup a startedAt).local_ (local_resumeWith setup))) fun outcome => ?_
  cases outcome with
  | startExpired => exact hstart _
  | slateFirst =>
    exact uses_bind tame_liveProcess.local_ fun live =>
      uses_ite (local_requestReloadWith setup hstart _) uses_pure
  | _ => exact uses_pure

lemma local_startUpTo (n : ℕ) (a : StartArgs) : IsLocal (startUpTo setup n a) := by
  induction n generalizing a with
  | zero => exact uses_ask ⟨trivial, trivial⟩ nofun
  | succ n ih => exact local_startWith setup ih a

lemma local_requestReload {a : RequestArgs} : IsLocal (requestReload setup a) :=
  uses_ask ⟨trivial, trivial⟩ fun n => local_requestReloadWith setup (local_startUpTo
    setup n) a

/-! ### The end of a worker -/

lemma tidy_clearExited : IsTidy clearExited := by
  refine uses_bind tame_self.tidy fun d => ?_
  refine uses_bind (tidy_modify fun _ => ⟨rfl, rfl, rfl, rfl, .inr rfl⟩) fun _ => ?_
  refine uses_bind tame_hasPendingTerminalCommand.tidy fun queued => ?_
  refine uses_bind tame_readState.tidy fun _ => ?_
  refine uses_bind (tidy_modify fun _ => ⟨rfl, rfl, rfl, rfl, .inl rfl⟩) fun _ => ?_
  exact uses_ask ⟨trivial, trivial⟩ fun _ =>
    uses_bind tidy_discardActivePreparedPlanDir fun _ => uses_pure

lemma tidy_commitReloadSettlement {pending : Settlement} :
    IsTidy (commitReloadSettlement pending) := by
  have hprove : IsTidy (proveTransition pending.previousState) :=
    uses_ite (uses_bind tame_appendProofEvent.tidy fun _ => uses_pure) uses_pure
  refine uses_bind hprove fun _ => uses_bind tame_appendProofEvent.tidy fun event => ?_
  refine uses_bind tame_writeState.tidy fun _ => ?_
  refine uses_bind tame_recordDispatchedPlan.tidy fun _ => ?_
  refine uses_bind tame_assist.tidy fun _ => uses_bind tame_self.tidy fun d => ?_
  refine uses_bind (tidy_modify fun _ => ⟨rfl, rfl, rfl, rfl, .inl rfl⟩) fun _ => ?_
  refine uses_bind tidy_releasePreparedPlanDir fun _ => ?_
  exact uses_ite (tidy_modify fun _ => ⟨rfl, rfl, rfl, rfl, .inl rfl⟩) uses_pure

end Inner

end Daemon

end CivicCast.Egress
