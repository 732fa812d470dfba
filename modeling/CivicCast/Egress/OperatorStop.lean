import CivicCast.Egress.DaemonRules

/-! # An operator's stop

An operator's stop sets `_operator_stopped_channels` and takes down everything that could
start the encoder by itself: the process, a preparation in flight, the back-off, the
quality recovery, the pin and the pending settlement. `Halted` is that state. No poll and
no automatic start leaves it, because each of them looks for one of these things first, or
at the latch.

Only a reload does not look: `_request_reload` starts the encoder whenever no worker is
alive, whoever asked for the reload.
-/

namespace CivicCast.Egress

namespace Daemon

open Lib Lib.Prog Playout World

/-! ## Which commands matter -/

def Command.isOperatorStop (c : Command) : Bool := c.action = .stop && c.isOperatorCommand

/-- The commands that end an operator's stop. -/
def Command.lifts (c : Command) : Bool :=
  c.action = .takeover || c.action = .start && c.isOperatorCommand

def Event.lifts : Event → Bool
  | .command c => c.lifts
  | _ => false

/-- The stored configuration is there, and off. -/
def World.disabled (w : World) : Bool := w.config.any fun c => !c.enabled

/-- A command that asks for a reload is only processed while the channel is disabled. -/
def NoReload (w : World) : Event → Prop
  | .command c => c.action = .reload ∨ c.action = .handback → w.disabled = true
  | _ => True

/-! ## Nothing left to start from -/

structure Quiet (d : Attrs) : Prop where
  latched : d.operatorStopped = true
  process : d.process = none
  preparation : d.preparation = none
  backoff : d.backoff = none
  qualityRecovery : d.qualityRecovery = none
  pendingReload : d.pendingReload = none
  settle : d.settle = none

/-- Under the stop, with `n` encoders started so far. -/
structure Halted (n : ℕ) (w : World) : Prop where
  quiet : Quiet w.d
  starts : w.starts = n

section Halted

variable {setup : Setup} {q : Promises} {n : ℕ} {w : World} {c : Command}

variable (h : Halted n w)
include h

lemma Halted.setD {d : Attrs} (hd : Quiet d) : Halted n (w.setD d) :=
  ⟨hd, h.starts⟩

lemma Halted.clearQualityRecovery : ComesTo q (Halted n) w clearQualityRecovery := by
  apply wp_clearQualityRecovery
  intro slate plans
  exact h.setD { h.quiet with qualityRecovery := rfl }

/-! ### The polls -/

lemma Halted.pollReloadSettlement :
    ComesTo q (Halted n) w (pollReloadSettlement setup) := by
  simp only [Daemon.pollReloadSettlement, wp_bind, wp_self, bindPost_ok, h.quiet.settle, wp_if,
    wp_call, next, wp_modify, wp_pure]
  constructor
  · intro _ status _ _
    constructor
    · intro _
      exact h.setD { h.quiet with settle := rfl }
    · intro _
      exact h
  · intro _
    exact h

lemma Halted.pollReloadStallWatchdog :
    ComesTo q (Halted n) w (pollReloadStallWatchdog setup) := by
  simp only [Daemon.pollReloadStallWatchdog, wp_bind, wp_self, bindPost_ok, h.quiet.pendingReload,
    Option.isNone_none, if_true, wp_modify]
  exact h.setD { h.quiet with pendingReload := rfl }

lemma Halted.pollGuard (verdict : DaemonM (Except Fault Verdict)) (detail : String) :
    ComesTo q (Halted n) w (pollGuard setup verdict detail) := by
  simp [Daemon.pollGuard, h.quiet.process, h]

lemma Halted.shutdownPreparation :
    ComesTo q (Halted n) w (Event.shutdownPreparation.code setup) := by
  simp only [Event.code, wp_bind, wp_modify, bindPost_ok, wp_cancelPreparation,
    cancelPreparation_d, setD_d]
  refine ⟨?_, ?_⟩
  · exact { h.quiet with preparation := rfl }
  · simpa using h.starts

lemma Halted.enableAsyncPreparation :
    ComesTo q (Halted n) w (Event.enableAsyncPreparation.code setup) := by
  simp only [Event.code, wp_bind, wp_self, bindPost_ok, wp_if, wp_modify, wp_pure]
  constructor
  · intro _
    exact h.setD { h.quiet with }
  · intro _
    exact h

omit h

/-! ### The commands -/

/-- `_stop` forgets everything, from any state, before anything in it can raise. -/
lemma clearForStop_halts (hlatch : w.d.operatorStopped = true) (hn : w.starts = n) :
    ComesTo q (Halted n) w clearForStop := by
  simp only [clearForStop, wp_bind, wp_cancelPreparation, bindPost_ok]
  apply wp_clearQualityRecovery
  intro slate plans
  simp only [resetRestartTracking, discardPreparedRestartPlan, releasePreparedRestartPlan,
    discardActivePreparedPlanDir, wp_bind, wp_self, wp_modify, bindPost_ok, wp_dropSettle,
    wp_releasePreparedPlanDir, wp_pure, cancelPreparation_d, dropSettle_d,
    releaseOpt_d, setD_d]
  intro _
  constructor
  · exact ⟨by simpa using hlatch, by simp, by simp, by simp, by simp, by simp, by simp⟩
  · simpa using hn

include h

lemma Halted.standDown (process : Option Proc) :
    ComesTo q (Halted n) w (standDown process) := by
  cases process with
  | none => simp [Daemon.standDown, h]
  | some p =>
    simp only [Daemon.standDown, wp_bind, wp_assist, bindPost_ok, bindPost_error, wp_writeState,
      wp_terminate]
    have hrest : ∀ (row : Option StateRow) (ps : List Proc),
        Halted n { w with row := row, terminated := ps } :=
      fun _ _ => ⟨h.quiet, h.starts⟩
    refine ⟨⟨⟨hrest _ _, fun _ _ => hrest _ _⟩, fun _ _ => h⟩, fun _ _ => h⟩

lemma Halted.drain : ComesTo q (Halted n) w drain := by
  simp only [Daemon.drain, wp_bind, wp_cancelPreparation, bindPost_ok]
  apply wp_clearQualityRecovery
  intro slate plans
  have hcleared : Halted n (w.cancelPreparation.setD
      { w.cancelPreparation.d with
        qualityRecovery := none, forcedSlate := slate, lookahead := plans }) := by
    constructor
    · simp only [setD_d, cancelPreparation_d]
      exact { h.quiet with preparation := rfl, qualityRecovery := rfl }
    · simpa using h.starts
  generalize w.cancelPreparation.setD _ = w₁ at hcleared ⊢
  simp only [wp_self, bindPost_ok, hcleared.quiet.process, wp_bind, wp_writeState, appendHealth,
    wp_assist, bindPost_error, wp_modify, discardPreparedRestartPlan, releasePreparedRestartPlan,
    wp_releasePreparedPlanDir, setD_d, setD_setD]
  have hrow : ∀ row : Option StateRow, Halted n { w₁ with row := row } :=
    fun _ => ⟨hcleared.quiet, hcleared.starts⟩
  refine ⟨⟨?_, fun _ _ => hrow _⟩, fun _ _ => hcleared⟩
  constructor
  · simp only [releaseOpt_d, setD_d]
    exact { hcleared.quiet with process := rfl }
  · simpa using hcleared.starts

lemma Halted.latchOperatorStop (c : Command) :
    ComesTo q (Halted n) w (latchOperatorStop c) := by
  simp only [Daemon.latchOperatorStop, wp_modify]
  exact h.setD { h.quiet with latched := by simp [h.quiet.latched] }

omit h

lemma Halted.assist (h : Halted n w) : ComesTo q (Halted n) w assist := by
  simp [h]

lemma Halted.writeState (h : Halted n w) (state : EgressState) (proofEventId : Option ℕ)
    (pid : Option Proc) :
    ComesTo q (Halted n) w (writeState state proofEventId pid) := by
  simp only [wp_writeState]
  exact ⟨⟨h.quiet, h.starts⟩, fun _ _ => h⟩

/-- The latch is set first, so that nothing in between is needed of the state before. -/
lemma stopCommand_halts (hlatch : c.isOperatorCommand = true ∨ w.d.operatorStopped = true)
    (hn : w.starts = n) : ComesTo q (Halted n) w (stopCommand c) := by
  simp only [stopCommand, Daemon.latchOperatorStop, wp_bind, wp_modify, bindPost_ok]
  apply wp_clearQualityRecovery
  intro slate plans
  refine ComesTo.seq (ComesTo.seq (clearForStop_halts ?_ hn) fun process w' hw' =>
    hw'.standDown process) fun _ w' hw' => ?_
  · rcases hlatch with hoperator | hstopped
    · simp [hoperator]
    · simp [hstopped]
  · exact ComesTo.seq hw'.assist fun _ w'' hw'' => hw''.writeState _ _ _

include h

lemma Halted.drainCommand (c : Command) :
    ComesTo q (Halted n) w (drainCommand c) := by
  refine ComesTo.seq (h.latchOperatorStop c) fun _ w' hw' => ?_
  exact ComesTo.seq hw'.clearQualityRecovery fun _ w'' hw'' => hw''.drain

lemma Halted.startCommand (hc : c.isOperatorCommand = false) :
    ComesTo q (Halted n) w (startCommand setup c) := by
  simp [Daemon.startCommand, isDisabled, hc, h.quiet.latched, h]

lemma Halted.reloadCommand (hdisabled : w.disabled = true) :
    ComesTo q (Halted n) w (reloadCommand setup c) := by
  have hdisabled : w.config.any (fun c => !c.enabled) = true := hdisabled
  simp only [Daemon.reloadCommand, isDisabled, wp_bind, wp_getConfig, bindPost_ok, bindPost_error,
    wp_pure, hdisabled, if_true, takeRolloverRecord, wp_self]
  refine ⟨?_, fun _ _ => h⟩
  split
  · exact h
  · simp only [wp_bind, wp_modify, bindPost_ok, wp_pure]
    exact h.setD { h.quiet with }

omit h

lemma guardSkips_operator (hc : c.isOperatorCommand = true) : guardSkips c = pure false := by
  have hprefix : slateRestartCommandPrefix.isPrefixOf c.commandId = false := by
    simp only [Command.isOperatorCommand, Bool.not_eq_true', Bool.or_eq_false_iff] at hc
    exact hc.1.1.2
  simp [guardSkips, Command.slateRestartGuardState, hprefix]

lemma processCommand_halts (hc : c.isOperatorStop = true) :
    (processCommand setup c).wp (machine q) (fun _ w' => Halted w.starts w') w := by
  have hboth : c.action = .stop ∧ c.isOperatorCommand = true := by
    simpa [Command.isOperatorStop] using hc
  simp only [processCommand, hboth.1, processDaemonCommand, guardSkips_operator hboth.2, wp_bind,
    wp_modify, bindPost_ok, wp_pure, wp_if]
  exact ⟨by simp, fun _ => stopCommand_halts (.inl hboth.2) rfl⟩

include h

/-- The guard on slate restarts only looks at the state row. -/
lemma Halted.unlessSkipped (c : Command) {p : DaemonM Unit}
    (hp : ∀ w', Halted n w' → p.wp (machine q) (fun _ w'' => Halted n w'') w') :
    ComesTo q (Halted n) w (guardSkips c >>= fun skipped => if skipped then pure () else p) := by
  have hguard : ComesTo q (Halted n) w (guardSkips c) := by
    unfold guardSkips
    split
    · exact h
    · simp [h]
  refine ComesTo.seq hguard fun skipped w' hw' => ?_
  exact wp_if.mpr ⟨fun _ => hw', fun _ => hp w' hw'⟩

/-- `_process_command` of the daemon: first the back-off goes, then the guard. -/
lemma Halted.processDaemonCommand
    (hlifts : c.lifts = false) (hreload : c.action = .reload → w.disabled = true) :
    ComesTo q (Halted n) w (processDaemonCommand setup c) := by
  have hcleared : Halted n (w.setD { w.d with backoff := none }) := by
    exact h.setD { h.quiet with backoff := rfl }
  rw [Daemon.processDaemonCommand, ComesTo, wp_bind, wp_modify, bindPost_ok]
  cases haction : c.action with
  | reload =>
    have hguard : guardSkips c = pure false := by
      simp [guardSkips, Command.slateRestartGuardState, haction]
    simp only [hguard, wp_bind, wp_pure, bindPost_ok, wp_if]
    exact ⟨by simp, fun _ => hcleared.reloadCommand (hreload haction)⟩
  | start =>
    have hauto : c.isOperatorCommand = false := by
      simpa [Command.lifts, haction] using hlifts
    exact hcleared.unlessSkipped c fun w' hw' => hw'.startCommand hauto
  | stop =>
    exact hcleared.unlessSkipped c fun w' hw' =>
      stopCommand_halts (.inr hw'.quiet.latched) hw'.starts
  | drain => exact hcleared.unlessSkipped c fun w' hw' => hw'.drainCommand c
  | takeover | handback => exact hcleared.unlessSkipped c fun w' hw' => hw'

/-- No command but a reload, a handback, an operator's start or a takeover starts the
encoder. -/
lemma Halted.processCommand (hlifts : c.lifts = false)
    (hreload : c.action = .reload ∨ c.action = .handback → w.disabled = true) :
    ComesTo q (Halted n) w (processCommand setup c) := by
  unfold Daemon.processCommand
  split
  · rename_i haction
    simp [Command.lifts, haction] at hlifts
  · rename_i haction
    have hdisabled : w.config.any (fun c => !c.enabled) = true := hreload (.inr haction)
    simp [isDisabled, hdisabled, h]
  · exact h.processDaemonCommand hlifts fun haction => hreload (.inl haction)

/-! ## Runs -/

/-- No event leaves `Halted`, apart from those that end the stop and from reloads. -/
lemma Halted.event {e : Event} (hlifts : e.lifts = false) (hreload : NoReload w e) :
    ComesTo q (Halted n) w (e.code setup) := by
  cases e with
  | pollHlsRelay => exact h.assist
  | pollProcess => simp [Event.code, Daemon.pollProcess, h.quiet.process, h]
  | serviceBackoffRelaunch => simp [Event.code, Daemon.serviceBackoffRelaunch, h.quiet.backoff, h]
  | pollReloadSettlement => exact h.pollReloadSettlement
  | pollOutputAvGuard | pollFreezeEscalation => exact h.pollGuard _ _
  | pollQualityRecovery =>
    simp [Event.code, Daemon.pollQualityRecovery, h.quiet.qualityRecovery, h]
  | pollReloadStallWatchdog => exact h.pollReloadStallWatchdog
  | pollPreparation => simp [Event.code, Daemon.pollPreparation, h.quiet.preparation, h]
  | command c => exact h.processCommand hlifts hreload
  | recordRolloverPlanEnd r =>
    simp only [Event.code, wp_modify]
    exact h.setD { h.quiet with }
  | reconcile pidless =>
    simp [Event.code, reconcileStaleClaims, terminalIntent, h.quiet.latched, h]
  | enableAsyncPreparation => exact h.enableAsyncPreparation
  | shutdownPreparation => exact h.shutdownPreparation
  | configure config =>
    simp only [Event.code, wp_configure]
    exact ⟨h.quiet, h.starts⟩
  | worker =>
    simp only [Event.code, wp_bind, wp_call, bindPost_ok, wp_pure, next]
    intro m _ _
    exact ⟨by simpa using h.quiet, by simpa using h.starts⟩

end Halted

/-- After an operator's stop no encoder is started, in any run of events none of which ends
the stop, as long as no reload request reaches the channel while it is enabled. -/
theorem no_start_under_operator_stop (setup : Setup) {c : Command} (hc : c.isOperatorStop = true)
    {w w₁ w₂ : World} (hstop : Step setup (machine {}) w (.command c) w₁) {es : List Event}
    (hrun : Run setup (machine {}) (fun w e => e.lifts = false ∧ NoReload w e) w₁ es w₂) :
    w₂.starts = w.starts := by
  obtain ⟨r, hexec⟩ := hstop
  have hhalted : Halted w.starts w₁ := hexec.post (processCommand_halts hc)
  refine (hrun.keeps ?_ hhalted).starts
  intro v e v' hallowed hv hstep
  obtain ⟨r, hexec⟩ := hstep
  exact hexec.post (hv.event hallowed.1 hallowed.2)

/-! ## A reload after the stop -/

namespace Gov

def operatorStop : Command := ⟨.stop, "op-2", "operator"⟩

def automaticStart : Command := ⟨.start, "auto-1", "channel-automation"⟩

/-- The automation saw the channel on air and queued this behind the stop. -/
def automaticReload : Command := ⟨.reload, "auto-rollover-1", "channel-automation"⟩

def airing : World := play plain boot [(.command operatorStart, scheduled)]

def stopped : World := play plain airing [(.command operatorStop, scheduled)]

end Gov

open Gov in
/-- The condition cannot go: after an operator's stop, a reload that the automation queued
starts the encoder. -/
theorem operator_stop_is_not_final :
    ¬ ∀ (setup : Setup) (config : Option Config) (row : Option StateRow) (c : Command)
      (w w₁ w₂ : World) (before es : List Event), c.isOperatorStop = true →
      Run setup (machine {}) (fun _ _ => True) (.boot config row) before w →
      Step setup (machine {}) w (.command c) w₁ →
      Run setup (machine {}) (fun _ e => e.lifts = false) w₁ es w₂ → w₂.starts = w.starts := by
  intro h
  have hreach : Run plain (machine {}) (fun _ _ => True) boot _ airing :=
    run_of_play plain _ (fun _ _ _ => trivial) (by decide +kernel)
  have hstop : Step plain (machine {}) airing (.command operatorStop) stopped :=
    step_of_play plain (by decide +kernel)
  have hlifts : ∀ ev ∈ [(Event.command automaticReload, scheduled)], ∀ _ : World,
      ev.1.lifts = false := by
    simp [Event.lifts, Command.lifts, automaticReload]
  have hreload := run_of_play plain (q := {}) (P := fun _ e => e.lifts = false) _ hlifts (w :=
    stopped)
    (by decide +kernel)
  have hsame := h plain _ _ operatorStop _ _ _ _ _ (by decide +kernel) hreach hstop hreload
  revert hsame
  decide +kernel

open Gov in
/-- An automatic start meets the hypotheses, and is ignored. -/
theorem no_start_under_operator_stop_gov :
    (play plain stopped [(.command automaticStart, scheduled)]).starts = airing.starts := by
  have hallowed : ∀ ev ∈ [(Event.command automaticStart, scheduled)], ∀ w : World,
      ev.1.lifts = false ∧ NoReload w ev.1 := by
    intro ev hev w
    rw [List.mem_singleton.mp hev]
    exact ⟨by decide +kernel, nofun⟩
  exact no_start_under_operator_stop plain (by decide +kernel)
    (step_of_play plain (by decide +kernel))
    (run_of_play plain _ hallowed (by decide +kernel))

end Daemon

end CivicCast.Egress
