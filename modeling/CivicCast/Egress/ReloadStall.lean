import CivicCast.Egress.IdleChannel

/-! # The reload-stall watchdog

A channel whose reload fell back to a restart carries a pin until its worker exits. The
watchdog waits for that: past a first bound it re-issues the reload, and five minutes later
it drops the pin and kills the worker. Which of the two comes next is the rung.

Three other places set the rung back to zero: arming the pin again, a pending settlement
and a preparation in flight. A re-issued reload that is declined on the spot arms the pin
too, but the watchdog puts the rung back up. One that is still being prepared when the
watchdog returns does it later, when nobody is looking, and the ladder starts over.
-/

namespace CivicCast.Egress

namespace Daemon

open Lib Lib.Prog Playout World Option

/-- Every reload comes to nothing before the poll that asked for it returns. -/
structure Promises.AtOnce (q : Promises) : Prop where
  store : q.storeWorks = true
  worker : q.workerStays = true
  declined : q.reloadsDeclined = true
  submitted : q.nothingSubmitted = true
  guards : q.guardsContent = true

/-- Idle on `p`, with the pin set, the rung at `k`, and `n` reloads re-issued so far. -/
structure Stuck (p : Proc) (n k : ℕ) (w : World) : Prop where
  settle : w.d.settle = none
  preparation : w.d.preparation = none
  qualityRecovery : w.d.qualityRecovery = none
  process : w.d.process = some p
  running : w.runs p = true
  pinned : w.d.pendingReload.isSome = true
  rung : w.d.stallRung = k
  reissues : w.reissues = n

/-! ## A re-issued reload -/

section Reissue

variable {setup : Setup} {q : Promises} {p : Proc} {n k : ℕ} {w : World} {α : Type} {c : DaemonM α}

/-- What `Stuck` reads of the attributes. -/
structure Stall where
  process : Option Proc
  preparation : Option Preparation
  settle : Option Settlement
  qualityRecovery : Option (ℚ × String)
  pendingReload : Option Pin
  stallRung : ℕ

def Attrs.stall (d : Attrs) : Stall :=
  ⟨d.process, d.preparation, d.settle, d.qualityRecovery, d.pendingReload, d.stallRung⟩

/-- Operations that leave a stuck channel as it is: only arming the pin, launching an
encoder and the watchdog's own mark do not. -/
def Still : Op → Prop
  | .modify f => ∀ d, (f d).stall = d.stall
  | .launch _ _ | .mark .reissued => False
  | _ => True

abbrev IsStill {α : Type} (p : DaemonM α) : Prop := p.Uses Still fun _ => True

lemma Stuck.setD (h : Stuck p n k w) {d : Attrs} (hd : d.stall = w.d.stall) :
    Stuck p n k (w.setD d) := by
  simp only [Attrs.stall, Stall.mk.injEq] at hd
  obtain ⟨hprocess, hpreparation, hsettle, hquality, hpending, hrung⟩ := hd
  exact ⟨hsettle.trans h.settle, hpreparation.trans h.preparation,
    hquality.trans h.qualityRecovery, hprocess.trans h.process, h.running,
    (congrArg _ hpending).trans h.pinned, hrung.trans h.rung, h.reissues⟩

lemma Stuck.move (h : Stuck p n k w) {m : WorkerMove} (hm : m ≠ .exits) :
    Stuck p n k (w.move m) := by
  refine ⟨?_, ?_, ?_, ?_, ?_, ?_, ?_, ?_⟩
  · simpa using h.settle
  · simpa using h.preparation
  · simpa using h.qualityRecovery
  · simpa using h.process
  · rw [runs_move hm]
    exact h.running
  · simpa using h.pinned
  · simpa using h.rung
  · simpa using h.reissues

lemma Stuck.of_eq (h : Stuck p n k w) {w' : World} (hd : w'.d = w.d)
    (hworker : w'.worker = w.worker) (hreissues : w'.reissues = w.reissues) : Stuck p n k w' := by
  refine ⟨?_, ?_, ?_, ?_, ?_, ?_, ?_, hreissues.trans h.reissues⟩
  · exact hd ▸ h.settle
  · exact hd ▸ h.preparation
  · exact hd ▸ h.qualityRecovery
  · exact hd ▸ h.process
  · simpa [runs, hworker] using h.running
  · exact hd ▸ h.pinned
  · exact hd ▸ h.rung

lemma Stuck.terminated (h : Stuck p n k w) (p' : Proc) :
    Stuck p n k { w with terminated := p' :: w.terminated } :=
  h.of_eq rfl rfl rfl

lemma Stuck.next (hq : q.AtOnce) (h : Stuck p n k w) {o : Op} (ho : Still o) {x : Ans o}
    (hx : q.allows w o x = true) : Stuck p n k (next w o x) := by
  cases o with
  | modify f => exact h.setD (ho w.d)
  | launch plan planDir => exact ho.elim
  | dropSettle reason =>
    simp only [Daemon.next, dropSettle, h.settle]
    exact h
  | cancelPreparation =>
    simp only [Daemon.next, cancelPreparation, h.preparation]
    exact h
  | submit plan => simp [Promises.allows, hq.submitted] at hx
  | meanwhile =>
    refine h.move ?_
    rintro rfl
    simp [Promises.allows, hq.worker] at hx
  | mark m =>
    cases m with
    | reissued => exact ho.elim
    | requested forceFallback | applied pending => exact h.of_eq rfl rfl rfl
  | reloadContent req =>
    -- the worker does not decline, so the reload stays pending
    rcases x with e | _ | _
    · exact h.of_eq rfl rfl rfl
    · exact h.of_eq rfl rfl rfl
    · simp [Promises.allows, hq.declined] at hx
  | writeState row | prepare plan => cases x <;> exact h.of_eq rfl rfl rfl
  | futureDone ticket plan supplied =>
    cases supplied with
    | none => rcases x with _ | e | report <;> exact h.of_eq rfl rfl rfl
    | some report => exact h
  | _ => exact h.of_eq rfl rfl rfl

lemma IsStill.keeps (hc : IsStill c) (hq : q.AtOnce) : Preserves q (Stuck p n k) c := by
  refine Uses.keeps hc (fun _ _ _ _ => trivial) ?_
  intro w o x ho hw hx
  have hboth : (legal w o x && q.allows w o x) = true := hx
  exact hw.next hq ho (by simp_all)

lemma IsResolving.still (h : IsResolving c) : IsStill c := by
  refine Uses.mono (fun o ho => ?_) (fun _ _ => trivial) h
  cases o with
  | modify f =>
    intro d
    obtain ⟨plans, hf⟩ := ho d
    rw [hf]
    rfl
  | launch plan planDir | mark m => exact ho.elim
  | _ => trivial

lemma still_call {o : Op} (h : Still o) : IsStill (call o) := ⟨h, fun _ => trivial⟩

lemma still_modify {f : Attrs → Attrs} (h : ∀ d, (f d).stall = d.stall) : IsStill (modify f) :=
  ⟨h, fun _ => trivial⟩

lemma still_releasePreparedPlanDir {planDir : Option Dir} :
    IsStill (releasePreparedPlanDir planDir) := by
  cases planDir with
  | none => exact uses_pure
  | some dir => exact still_call trivial

lemma still_receiveReload (r : ReloadResume) (sent : Sent) : IsStill (receiveReload r sent) := by
  have hnote : ∀ planEndAt, IsStill (noteFailedPreparation planEndAt) := by
    intro planEndAt
    cases planEndAt with
    | none => exact uses_pure
    | some endAt => exact uses_ask trivial fun _ => still_modify fun _ => rfl
  unfold receiveReload
  split
  · exact uses_pure
  · exact uses_ite uses_pure uses_pure
  · exact uses_ite (uses_bind (hnote _) fun _ => uses_pure) trivial

lemma still_missedStart {scheduledStartAt : Option Instant} :
    IsStill (missedStart scheduledStartAt) := by
  cases scheduledStartAt with
  | none => exact uses_pure
  | some startAt => exact uses_ask trivial fun _ => uses_pure

lemma still_takeRolloverRecord {commandId : Option String} :
    IsStill (takeRolloverRecord commandId) := by
  refine uses_ask trivial fun d => ?_
  split
  · exact uses_pure
  · exact uses_bind (still_modify fun _ => rfl) fun _ => uses_pure

lemma still_stashIfPrepared {prepared : Option ReusePreparedPlan} :
    IsStill (stashIfPrepared prepared) := by
  cases prepared with
  | none => exact uses_pure
  | some plan =>
    refine uses_bind ?_ fun _ => still_modify fun _ => rfl
    exact uses_ask trivial fun _ => uses_bind (still_modify fun _ => rfl) fun _ =>
      still_releasePreparedPlanDir

lemma stallBound_leaves {planEndAt : Option Instant} {failed : Option (ℚ × Instant)} {now : ℚ} :
    (armPendingReload.stallBound planEndAt failed now).wp (machine q)
      (fun r w' => w' = w ∧ ∃ bound, r = .ok bound) w := by
  rw [armPendingReload.stallBound, wp_bind, wp_utcNow]
  intro utc
  rw [bindPost_ok]
  split
  · exact ⟨rfl, _, rfl⟩
  · cases planEndAt <;> exact ⟨rfl, _, rfl⟩

lemma armPendingReload_resets {state : Option StateRow} {planEndAt : Option Instant} :
    (armPendingReload state planEndAt).Leads (machine q) (Stuck p n k) (Stuck p n 0)
      fun _ => False := by
  intro w hw
  simp only [armPendingReload, wp_bind, wp_modify, bindPost_ok, wp_monotonic, wp_self]
  intro now _
  refine wp_mono ?_ stallBound_leaves
  rintro _ _ ⟨rfl, bound, rfl⟩
  simp only [bindPost_ok, wp_modify]
  exact ⟨{ hw with pinned := rfl, rung := rfl }, by simp⟩

lemma still_announceRestart {failed : Bool} {state : Option StateRow} {process : Option Proc}
    {planEndAt : Option Instant} : IsStill (announceRestart failed state process planEndAt) := by
  have hproof : IsStill (restartProof failed state) := by
    refine uses_ite (uses_bind ?_ fun _ => uses_pure) uses_pure
    exact uses_ask trivial fun _ => uses_ask trivial fun x =>
      uses_bind (uses_orRaise x) fun _ => uses_pure
  have hexpired : IsStill (boundaryExpired planEndAt) := by
    cases planEndAt with
    | none => exact uses_pure
    | some endAt => exact uses_ask trivial fun _ => uses_pure
  refine uses_bind hproof fun _ => uses_bind ⟨trivial, fun x => uses_orRaise x⟩ fun _ => ?_
  refine uses_bind hexpired fun expired => ?_
  split
  · exact uses_ite (uses_bind (still_modify fun _ => rfl) fun _ => still_call trivial) uses_pure
  · exact uses_pure

lemma announceRestart_returns (hq : q.AtOnce) {failed : Bool} {state : Option StateRow}
    {process : Option Proc} {planEndAt : Option Instant} :
    (announceRestart failed state process planEndAt).wp (machine q)
      (fun r _ => ∀ e, r = .error e → False) w := by
  cases planEndAt <;> cases state <;> cases process <;>
    simp [announceRestart, restartProof, boundaryExpired, terminateForReload, hq.store]

lemma stashIfPrepared_returns {prepared : Option ReusePreparedPlan} :
    (stashIfPrepared prepared).wp (machine q) (fun r _ => ∀ e, r = .error e → False) w := by
  cases prepared <;>
    simp [stashIfPrepared, stashPreparedRestartPlan, discardPreparedRestartPlan,
      releasePreparedRestartPlan]

lemma IsStill.keepsReturning (hc : IsStill c) (hq : q.AtOnce)
    (hreturns : ∀ w, c.wp (machine q) (fun r _ => ∀ e, r = .error e → False) w) :
    c.Keeps (machine q) (Stuck p n k) fun _ => False := by
  intro w hw
  refine wp_mono ?_ (wp_and (hc.keeps hq w hw) (hreturns w))
  exact fun _ _ h => ⟨h.1.1, h.2⟩

variable (hq : q.AtOnce)
include hq

/-- A fall-back leaves the pin armed, and the rung at zero. -/
lemma fallBack_resets {failed : Bool} {prepared : Option ReusePreparedPlan}
    {planEndAt : Option Instant} :
    (fallBackToRestartReload failed prepared planEndAt).Leads (machine q) (Stuck p n k)
      (Stuck p n 0) fun _ => False := by
  intro w hw
  rw [fallBackToRestartReload, wp_bind, wp_dropSettle, bindPost_ok]
  have hdrop : w.dropSettle = w := by simp only [dropSettle, hw.settle]
  rw [hdrop]
  intro _
  refine wp_seq_returning (still_stashIfPrepared.keepsReturning hq
    (fun _ => stashIfPrepared_returns) w hw) fun _ w₁ hw₁ => ?_
  simp only [wp_bind, wp_readState, bindPost_ok, wp_self, hq.store, Bool.true_eq_false,
    false_implies, and_true]
  rw [← wp_bind]
  refine wp_seq_returning (armPendingReload_resets w₁ hw₁) fun _ w₂ hw₂ => ?_
  exact still_announceRestart.keepsReturning hq (fun _ => announceRestart_returns hq) w₂ hw₂

/-- The worker declined; a worker that does not answer is killed over a pin. -/
lemma reloadDeclined_resets (r : ReloadResume) (hw : Stuck p n k w) :
    (reloadDeclined r).wp (machine q)
      (fun answer w' => (∃ k', Stuck p n k' w') ∧ ∀ e, answer = .error e → False) w := by
  rw [reloadDeclined, wp_bind, wp_call]
  intro timedOut _ _
  refine wp_if.mpr ⟨fun _ => ?_, fun _ => ⟨⟨k, hw⟩, by simp⟩⟩
  simp only [wp_bind, wp_processPoll, bindPost_ok]
  intro m _ hm code _
  have hstays : m ≠ .exits := by
    rintro rfl
    simp [Promises.allows, hq.worker] at hm
  refine wp_if.mpr ⟨fun _ => ?_, fun _ => ⟨⟨k, hw.move hstays⟩, by simp⟩⟩
  refine wp_seq_returning (armPendingReload_resets _ (hw.move hstays)) fun _ w₁ hw₁ => ?_
  simp only [wp_bind, wp_modify, bindPost_ok, wp_terminateBounded]
  intro m' _ hm'
  have hstays' : m' ≠ .exits := by
    rintro rfl
    simp [Promises.allows, hq.worker] at hm'
  have hkill : Stuck p n 0 (w₁.setD { w₁.d with reloadKill := true }) := hw₁.setD rfl
  exact ⟨⟨0, (hkill.terminated _).move hstays'⟩, by simp⟩

/-- After a re-issued reload: if it raised, then before the pin was armed again. -/
def Reissued {α : Type} (p : Proc) (n k : ℕ) : Except Fault α → World → Prop
  | .ok _, w => ∃ k', Stuck p n k' w
  | .error _, w => Stuck p n k w

lemma Reissued.seq {β : Type} {f : α → DaemonM β} (hc : IsStill c) (hw : Stuck p n k w)
    (hf : ∀ a w', Stuck p n k w' → (f a).wp (machine q) (Reissued p n k) w') :
    (c >>= f).wp (machine q) (Reissued p n k) w :=
  wp_seq (hc.keeps hq w hw) (fun a w' h => hf a w' h.1) fun _ _ h => h.1

lemma dispatchReload_reissued (hw : Stuck p n k w) {r : ReloadResume}
    {plan : SourcePlan} {planDir : Option Dir} {deferred : Bool} :
    (dispatchReload r plan planDir deferred).wp (machine q) (Reissued p n k) w := by
  refine Reissued.seq hq (still_call trivial) hw fun id w₁ hw₁ => ?_
  rw [wp_bind, wp_call]
  intro armed _ harmed
  have hw₂ : Stuck p n k (next w₁ _ armed) := hw₁.next (o := .reloadContent _) hq trivial harmed
  rcases armed with e | _ | _
  · exact ⟨k, hw₂⟩
  · exact wp_seq_returning (reloadDeclined_resets hq r hw₂) fun _ _ h => h
  · simp [Promises.allows, hq.declined] at harmed

lemma reloadFinish_reissued (hw : Stuck p n k w) (r : ReloadResume)
    {sent : Sent} : (reloadFinish r sent).wp (machine q) (Reissued p n k) w := by
  refine Reissued.seq hq (still_receiveReload r sent) hw fun received w₁ hw₁ => ?_
  match received with
  | none => exact ⟨k, hw₁⟩
  | some (plan, report) =>
    refine Reissued.seq hq still_missedStart hw₁ fun late w₂ hw₂ => ?_
    refine wp_if.mpr ⟨fun _ => ?_, fun _ => ?_⟩
    · exact Reissued.seq hq still_releasePreparedPlanDir hw₂ fun _ w₃ hw₃ => ⟨k, hw₃⟩
    · refine Reissued.seq hq ⟨trivial, fun x => uses_orRaise x⟩ hw₂ fun _ w₃ hw₃ => ?_
      refine Reissued.seq hq (still_call trivial) hw₃ fun d w₄ hw₄ => ?_
      refine Reissued.seq hq (still_call trivial) hw₄ fun now w₅ hw₅ => ?_
      refine wp_if.mpr ⟨fun _ => ?_, fun _ => dispatchReload_reissued hq hw₅⟩
      cases report <;> exact ⟨k, hw₅⟩

lemma drive_reissued (hw : Stuck p n k w) (state : StateRow) (a : ReloadArgs) {slateFirst : Bool} :
    (drive (reloadSteps setup state p a) (resumeWith setup) slateFirst).wp (machine q)
      (Reissued p n k) w := by
  refine Reissued.seq hq (still_call trivial) hw fun d w₁ hw₁ => ?_
  refine wp_if.mpr ⟨fun _ => ⟨k, hw₁⟩, fun _ => ?_⟩
  have hsteps := (gives_reloadSteps setup state p a).wp
    ((resolving_reloadSteps setup state p a).still.keeps hq w₁ hw₁)
  refine wp_seq hsteps (fun steps w₂ h => ?_) fun _ _ h => h.1.1
  obtain ⟨⟨hw₂, -⟩, hresumes⟩ := h
  have hresumes := hresumes steps rfl
  match steps with
  | .finished outcome => exact ⟨k, hw₂⟩
  | .goesOn resume =>
    obtain ⟨r, rfl, -⟩ := hresumes
    exact reloadFinish_reissued hq hw₂ r
  | .yields plan supplied resume =>
    obtain ⟨r, rfl, -⟩ := hresumes
    refine Reissued.seq hq (still_call trivial) hw₂ fun d w₃ hw₃ => ?_
    refine wp_if.mpr ⟨fun _ => ?_, fun _ => ?_⟩
    · -- nothing is submitted
      rw [wp_bind, wp_call]
      intro ticket _ hticket
      simp [Promises.allows, hq.submitted] at hticket
    · cases supplied with
      | some report => exact reloadFinish_reissued hq hw₃ r
      | none =>
        refine Reissued.seq hq (still_call trivial) hw₃ fun report w₄ hw₄ => ?_
        exact reloadFinish_reissued hq hw₄ r

lemma fallBack_reissued {k' : ℕ} (hw : Stuck p n k' w) {failed : Bool}
    {prepared : Option ReusePreparedPlan} {planEndAt : Option Instant}
    (hc : ∀ w', Stuck p n 0 w' → c.wp (machine q) (Reissued p n k) w') :
    (fallBackToRestartReload failed prepared planEndAt >>= fun _ => c).wp (machine q)
      (Reissued p n k) w :=
  wp_seq_returning (fallBack_resets hq w hw) fun _ w' hw' => hc w' hw'

lemma tryContentReload_reissued (hw : Stuck p n k w) {state : StateRow}
    {a : ReloadArgs} {slateFirst : Bool} :
    (tryContentReload setup state p a slateFirst).wp (machine q) (Reissued p n k) w := by
  refine Reissued.seq hq (still_call trivial) hw fun _ w₁ hw₁ => ?_
  refine wp_seq (drive_reissued hq hw₁ state a) (fun outcome w₂ h => ?_) fun _ _ h => h
  obtain ⟨k', hw₂⟩ := h
  cases outcome with
  | reuse plan => exact fallBack_reissued hq hw₂ fun w' hw' => ⟨0, hw'⟩
  | _ => exact ⟨k', hw₂⟩

/-- The reload the watchdog re-issues: if it raises, the rung is as the watchdog left it. -/
lemma requestReload_reissued (hw : Stuck p n k w) :
    (requestReload setup {}).wp (machine q) (Reissued p n k) w := by
  refine Reissued.seq hq (still_call trivial) hw fun rounds w₁ hw₁ => ?_
  refine Reissued.seq hq (still_call trivial) hw₁ fun _ w₂ hw₂ => ?_
  refine Reissued.seq hq still_takeRolloverRecord hw₂ fun recorded w₃ hw₃ => ?_
  refine Reissued.seq hq (still_call trivial) hw₃ fun _ w₄ hw₄ => ?_
  refine Reissued.seq hq ⟨trivial, fun x => uses_orRaise x⟩ hw₄ fun state w₅ hw₅ => ?_
  rw [liveProcess]
  simp only [wp_bind, wp_self, bindPost_ok, hw₅.process, wp_processPoll, wp_pure]
  intro m _ hm code hcode
  have hstays : m ≠ .exits := by
    rintro rfl
    simp [Promises.allows, hq.worker] at hm
  have halive : code = none := by
    rw [runs_move hstays, hw₅.running] at hcode
    simpa using hcode
  subst halive
  have hw₆ := hw₅.move hstays
  simp only [isNone_none, if_true]
  -- whichever way a fall-back comes back, the pin is armed again
  have hfallBack : ∀ {k' : ℕ} {w' : World} (planEndAt : Option Instant), Stuck p n k' w' →
      (fallBackToRestartReload false none planEndAt).wp (machine q) (Reissued p n k) w' := by
    intro k' w' planEndAt hw'
    refine wp_mono ?_ (fallBack_resets hq _ hw')
    intro r w'' h
    cases r with
    | ok u => exact ⟨0, h.1⟩
    | error e => exact (h.2 e rfl).elim
  split
  · exact hfallBack _ hw₆
  · have hunscheduled : ∀ row planEndAt, scheduledStart setup {} row planEndAt = pure none :=
      fun _ _ => rfl
    rw [hunscheduled, wp_bind, wp_pure, bindPost_ok]
    refine wp_seq (tryContentReload_reissued hq hw₆) (fun armed w₇ h => ?_) fun _ _ h => h
    obtain ⟨k', hw₇⟩ := h
    exact wp_if.mpr ⟨fun _ => ⟨k', hw₇⟩, fun _ => hfallBack _ hw₇⟩

end Reissue

/-! ## The ladder -/

/-- When the watchdog acts next. -/
def Attrs.stallDeadline (d : Attrs) : Option ℚ :=
  d.stallSince.map (· + if 0 < d.stallRung then transitioningWatchdogReissueGraceSeconds
    else d.stallBound.getD transitioningWatchdogSeconds)

/-- Idle on `p`, at most one reload re-issued beyond the first `n`, and none while the rung
is at zero. The pin goes only with the worker. -/
structure Ladder (p : Proc) (n : ℕ) (w : World) : Prop where
  settle : w.d.settle = none
  preparation : w.d.preparation = none
  qualityRecovery : w.d.qualityRecovery = none
  process : w.d.process = some p
  running : w.runs p = true
  once : w.reissues ≤ n + 1
  fresh : w.d.pendingReload.isSome = true → w.d.stallRung = 0 → w.reissues ≤ n
  killed : w.d.pendingReload = none → p ∈ w.terminated

section Ladder

variable {setup : Setup} {q : Promises} {p : Proc} {n k : ℕ} {w : World}

lemma calm_ladder (p : Proc) (n : ℕ) : Calm (Ladder p n) where
  idle h := ⟨h.settle, h.preparation, h.qualityRecovery, p, h.process, h.running⟩
  setD {w d} hd h := by
    simp only [Attrs.business, Business.mk.injEq] at hd
    obtain ⟨hprocess, hpreparation, hsettle, hquality, hpending, -, -, hrung, -, -⟩ := hd
    refine ⟨hsettle.trans h.settle, hpreparation.trans h.preparation,
      hquality.trans h.qualityRecovery, hprocess.trans h.process, h.running, h.once, ?_, ?_⟩
    · intro hpinned hzero
      exact h.fresh (hpending ▸ hpinned) (hrung ▸ hzero)
    · intro hnone
      exact h.killed (hpending ▸ hnone)
  move {w m} hm h := by
    have hruns : (w.move m).runs p = true := by
      rw [runs_move hm]
      exact h.running
    exact ⟨by simpa using h.settle, by simpa using h.preparation, by simpa using h.qualityRecovery,
      by simpa using h.process, hruns, by simpa using h.once, by simpa using h.fresh,
      by simpa using h.killed⟩
  row _ h := { h with }
  terminated p' h := { h with killed := fun hnone => List.mem_cons_of_mem _ (h.killed hnone) }

/-- A stuck channel off the lowest rung. -/
lemma Stuck.ladder (h : Stuck p k 1 w) (hk : k ≤ n + 1) : Ladder p n w where
  __ := h
  once := h.reissues ▸ hk
  fresh _ hzero := absurd (h.rung.symm.trans hzero) nofun
  killed hnone := by
    have hpinned := h.pinned
    simp [hnone] at hpinned

/-- First rung: the reload is re-issued. -/
lemma Ladder.reissueStalled (hq : q.AtOnce) (h : Ladder p n w)
    (hpinned : w.d.pendingReload.isSome = true) (hzero : w.d.stallRung = 0) (now : ℚ) :
    (reissueStalled setup now).wp (machine q)
      (fun _ w' => Ladder p n w' ∧ w'.reissues = w.reissues + 1) w := by
  have hk : w.reissues + 1 ≤ n + 1 := Nat.add_le_add_right (h.fresh hpinned hzero) 1
  have hmarked : Stuck p (w.reissues + 1) 1
      ((w.setD { w.d with stallRung := 1 }).marked .reissued) :=
    { h with pinned := hpinned, rung := rfl, reissues := rfl }
  simp only [Daemon.reissueStalled, wp_bind, wp_modify, bindPost_ok, wp_mark]
  intro _
  refine wp_mono ?_ (requestReload_reissued hq hmarked)
  intro r w' hr
  cases r with
  | error e => exact ⟨hr.ladder hk, hr.reissues⟩
  | ok u =>
    obtain ⟨k', hw'⟩ := hr
    have hup : Stuck p (w.reissues + 1) 1
        (w'.setD { w'.d with stallSince := some now, stallRung := 1 }) :=
      { hw' with rung := rfl }
    simp only [bindPost_ok, wp_bind, wp_self, hw'.pinned, if_true, wp_modify]
    exact ⟨hup.ladder hk, hup.reissues⟩

/-- Second rung: the pin goes, and the worker with it. -/
lemma Ladder.killStalled (hq : q.AtOnce) (h : Ladder p n w) {process : Option Proc}
    (hprocess : process = some p) :
    (killStalled process).wp (machine q)
      (fun _ w' => Ladder p n w' ∧ w'.d.pendingReload = none ∧ p ∈ w'.terminated) w := by
  subst hprocess
  simp only [Daemon.killStalled, wp_bind, wp_modify, bindPost_ok, wp_processPoll]
  intro m _ hm code hcode
  -- the worker acts at once, so it is still there
  have hstays : m ≠ .exits := by
    rintro rfl
    simp [Promises.allows, hq.worker] at hm
  have halive : code = none := by
    have hruns : (w.setD { w.d with
        stallRung := w.d.stallRung + 1, pendingReload := none }).runs p = true := h.running
    rw [runs_move hstays, hruns] at hcode
    simpa using hcode
  subst halive
  simp only [isNone_none, wp_if, true_implies, not_true_eq_false, false_implies, and_true,
    wp_bind, wp_modify, bindPost_ok, wp_terminateBounded, move_d, setD_d]
  intro m' _ hm'
  have hstays' : m' ≠ .exits := by
    rintro rfl
    simp [Promises.allows, hq.worker] at hm'
  refine ⟨⟨?_, ?_, ?_, ?_, ?_, ?_, ?_, ?_⟩, ?_, ?_⟩
  · simpa using h.settle
  · simpa using h.preparation
  · simpa using h.qualityRecovery
  · simpa using h.process
  · rw [runs_move hstays']
    show (move _ m).runs p = true
    rw [runs_move hstays]
    exact h.running
  · simpa using h.once
  · simp
  · simp
  · simp
  · simp

/-- The watchdog climbs the ladder, and at its deadline it takes a rung. -/
lemma Ladder.pollReloadStallWatchdog (hq : q.AtOnce) (h : Ladder p n w) :
    (pollReloadStallWatchdog setup).wp (machine q)
      (fun _ w' => Ladder p n w' ∧
        (w.d.pendingReload.isSome = true → ∀ t, w.d.stallDeadline = some t → q.notBefore = some t →
          w'.reissues = w.reissues + 1 ∨ w'.d.pendingReload = none ∧ p ∈ w'.terminated)) w := by
  rw [Daemon.pollReloadStallWatchdog, wp_bind, wp_self, bindPost_ok]
  refine wp_if.mpr ⟨fun hnone => ?_, fun hsome => ?_⟩
  · have hnone : w.d.pendingReload = none := by simpa using hnone
    rw [wp_modify]
    refine ⟨{ h with fresh := ?_, killed := fun _ => h.killed hnone }, by simp [hnone]⟩
    intro hpinned
    simp [hnone] at hpinned
  · have hpinned : w.d.pendingReload.isSome = true := by simpa [isSome_iff_ne_none] using
      hsome
    have hidle : w.d.hasPendingReloadSettlement = false := by
      simp [Attrs.hasPendingReloadSettlement, h.settle, h.preparation]
    simp only [wp_bind, wp_monotonic, bindPost_ok, hidle, Bool.false_eq_true, if_false]
    intro now hnow
    cases hsince : w.d.stallSince with
    | none =>
      rw [wp_modify]
      exact ⟨{ h with }, fun _ t ht => by simp [Attrs.stallDeadline, hsince] at ht⟩
    | some since =>
      refine wp_if.mpr ⟨fun hearly => ⟨h, fun _ t ht hbefore => ?_⟩, fun _ => ?_⟩
      · -- before the deadline the clock cannot have reached it
        simp only [Attrs.stallDeadline, hsince, map_some, some.injEq] at ht
        have hreached : t ≤ now := by simpa [Promises.allows, hbefore] using hnow
        rw [← ht] at hreached
        exact absurd hearly (not_lt.mpr (le_sub_iff_add_le'.mpr hreached))
      · have hwaited : Ladder p n (w.setD { w.d with stallSince := some now }) := { h with }
        simp only [wp_bind, wp_modify, bindPost_ok, wp_readState, hq.store, Bool.true_eq_false,
          false_implies, and_true]
        refine wp_if.mpr ⟨fun hzero => ?_, fun _ => ?_⟩
        · refine wp_mono ?_ (hwaited.reissueStalled hq hpinned hzero now)
          exact fun _ w' hw' => ⟨hw'.1, fun _ _ _ _ => .inl hw'.2⟩
        · refine wp_mono ?_ (hwaited.killStalled hq h.process)
          exact fun _ w' hw' => ⟨hw'.1, fun _ _ _ _ => .inr hw'.2⟩

end Ladder

/-! ## Runs of polls -/

/-- Every reload is answered before the poll that asks for it returns, the store works, the
worker stays, and no guard asks for anything itself. -/
def answeredAtOnce : Promises where
  storeWorks := true
  workerStays := true
  reloadsDeclined := true
  nothingSubmitted := true
  guardsContent := true

/-- The same, but what is re-issued may stay in preparation. -/
def neverAccepted : Promises := { answeredAtOnce with nothingSubmitted := false }

lemma Run.ladder {setup : Setup} {p : Proc} {n : ℕ} {w w' : World} {es : List Event}
    (h : Run setup (machine answeredAtOnce) (fun _ e => e.isPoll = true) w es w')
    (hw : Ladder p n w) : Ladder p n w' := by
  refine h.keeps ?_ hw
  intro v e v' he hv hstep
  obtain ⟨r, hexec⟩ := hstep
  by_cases hstall : e = .pollReloadStallWatchdog
  · subst hstall
    exact (hexec.post (hv.pollReloadStallWatchdog ⟨rfl, rfl, rfl, rfl, rfl⟩)).1
  · exact hexec.post ((calm_ladder p n).poll hv rfl rfl he hstall)

/-- A stuck hand-off ends in a restart: in every run of polls the watchdog re-issues the
reload at most once, and drops the pin only to kill the worker. And it gets there: each poll
of the watchdog at its deadline takes one of these two steps. -/
theorem stalled_reload_ends_in_restart (setup : Setup) {p : Proc} {w w₁ : World}
    (hidle : Idle w) (hprocess : w.d.process = some p) (hpinned : w.d.pendingReload.isSome = true)
    {es : List Event}
    (hrun : Run setup (machine answeredAtOnce) (fun _ e => e.isPoll = true) w es w₁) :
    w₁.reissues ≤ w.reissues + 1 ∧ (w₁.d.pendingReload = none → p ∈ w₁.terminated) ∧
      ∀ t w₂, w₁.d.pendingReload.isSome = true → w₁.d.stallDeadline = some t →
        Step setup (machine { answeredAtOnce with notBefore := some t }) w₁
          .pollReloadStallWatchdog w₂ →
        w₁.reissues < w₂.reissues ∧ w₂.reissues ≤ w.reissues + 1 ∨
          w₂.d.pendingReload = none ∧ p ∈ w₂.terminated := by
  obtain ⟨p', hp', hruns⟩ := hidle.running
  have hsame : p' = p := some.inj (hp'.symm.trans hprocess)
  subst hsame
  have hstart : Ladder p' w.reissues w :=
    ⟨hidle.settle, hidle.preparation, hidle.qualityRecovery, hp', hruns, Nat.le_succ _,
      fun _ _ => le_rfl, fun hnone => by simp [hnone] at hpinned⟩
  have hladder : Ladder p' w.reissues w₁ := hrun.ladder hstart
  refine ⟨hladder.once, hladder.killed, fun t w₂ hpinned₁ ht hstep => ?_⟩
  obtain ⟨r, hexec⟩ := hstep
  obtain ⟨hladder₂, htaken⟩ := hexec.post
    (hladder.pollReloadStallWatchdog ⟨rfl, rfl, rfl, rfl, rfl⟩)
  rcases htaken hpinned₁ t ht rfl with hreissued | hkilled
  · exact .inl ⟨hreissued ▸ Nat.lt_succ_self _, hladder₂.once⟩
  · exact .inr hkilled

namespace Gov

/-- Preparation is asynchronous, and a program is on air. -/
def asyncAiring : World :=
  play preparing boot [(.enableAsyncPreparation, scheduled), (.command operatorStart, scheduled),
    (.pollPreparation, scheduled)]

/-- Preparations fail from here on; the clock stands at `t`. -/
def unpreparable (t : ℚ) : Env :=
  { scheduled with prepared := .error .sourcePrepare, monotonic := t }

/-- An operator's reload could not be prepared: the pin is set, and nothing is under way. -/
def pinned : World :=
  play preparing asyncAiring
    [(.command operatorReload, unpreparable 0), (.pollPreparation, unpreparable 0)]

/-- The watchdog re-issues the reload, and its preparation fails; twice. -/
def twice : List (Event × Env) :=
  [(.pollReloadStallWatchdog, unpreparable 2000), (.pollPreparation, unpreparable 2010),
    (.pollReloadStallWatchdog, unpreparable 4000), (.pollPreparation, unpreparable 4010)]

/-- The worker takes no reload; the clock stands at `t`. -/
def declining (t : ℚ) : Env := { scheduled with armed := .ok false, monotonic := t }

def refused : World :=
  play plain boot [(.enableAsyncPreparation, scheduled), (.command operatorStart, scheduled),
    (.command operatorReload, declining 0)]

/-- A pass of the watchdog past the first deadline, and one past the second. -/
def bothRungs : List (Event × Env) :=
  [(.pollReloadStallWatchdog, declining 2000), (.pollProcess, declining 2200),
    (.pollReloadStallWatchdog, declining 2400)]

end Gov

open Gov in
/-- A preparation in flight takes the ladder away: with reloads that never get through, but
are still being prepared when the watchdog returns, it re-issues again and again. -/
theorem stalled_reload_is_reissued_again :
    ¬ ∀ (setup : Setup) (config : Option Config) (row : Option StateRow) (before es : List Event)
      (w w₁ : World), Run setup (machine {}) (fun _ _ => True) (.boot config row) before w →
      w.d.executor = true → Idle w → w.d.pendingReload.isSome = true →
      Run setup (machine neverAccepted) (fun _ e => e.isPoll = true) w es w₁ →
      w₁.reissues ≤ w.reissues + 1 := by
  intro h
  have hreach : Run preparing (machine {}) (fun _ _ => True) boot _ pinned :=
    run_of_play preparing
      [(.enableAsyncPreparation, scheduled), (.command operatorStart, scheduled),
        (.pollPreparation, scheduled), (.command operatorReload, unpreparable 0),
        (.pollPreparation, unpreparable 0)] (fun _ _ _ => trivial) (by decide +kernel)
  have hidle : Idle pinned := by
    refine ⟨by decide +kernel, by decide +kernel, by decide +kernel, 2, by decide +kernel, ?_⟩
    decide +kernel
  have hpolls : ∀ ev ∈ twice, ∀ _ : World, ev.1.isPoll = true := by
    simp [twice, Event.isPoll]
  have hagain := h preparing _ _ _ _ _ _ hreach (by decide +kernel) hidle (by decide +kernel)
    (run_of_play preparing twice hpolls (by decide +kernel))
  revert hagain
  decide +kernel

open Gov in
/-- Declined on the spot, the reload is re-issued once, and then the worker is killed. -/
theorem stalled_reload_ends_in_restart_gov :
    (play plain refused bothRungs answeredAtOnce).reissues ≤ refused.reissues + 1 ∧
      0 ∈ (play plain refused bothRungs answeredAtOnce).terminated := by
  have hidle : Idle refused := by
    refine ⟨by decide +kernel, by decide +kernel, by decide +kernel, 0, by decide +kernel, ?_⟩
    decide +kernel
  have hpolls : ∀ ev ∈ bothRungs, ∀ _ : World, ev.1.isPoll = true := by
    simp [bothRungs, Event.isPoll]
  have hends := stalled_reload_ends_in_restart plain hidle (p := 0) (by decide +kernel)
    (by decide +kernel) (run_of_play plain bothRungs hpolls (by decide +kernel))
  exact ⟨hends.1, hends.2.1 (by decide +kernel)⟩

end Daemon

end CivicCast.Egress
