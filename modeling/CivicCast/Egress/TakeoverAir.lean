import CivicCast.Egress.DaemonEvents

/-! # A live takeover on air

While a takeover plan is set, `_next_source_plan` answers it, and every other lookup of
`_reload_steps` asks `has_manual_override` first: the boundary, the recovery past it, the
terminal slate and the tail floor. So a reload that is resolved under a takeover carries the
takeover's plan, and a preparation that was under way when the takeover came is cancelled by
the takeover's own reload.

Only the forced filler of a rollover does not ask. Its record is bound to the automation's
command, and it survives a takeover that is processed before that command.
-/

namespace CivicCast.Egress

namespace Daemon

open Lib Lib.Prog Playout

/-- Does the plan follow the takeover, if there is one? -/
def Follows (takeover : Option SourcePlan) (plan : SourcePlan) : Prop :=
  ∀ live, takeover = some live → plan = live

/-- A suspended reload follows the takeover; a start is no reload request. -/
def Resume.Follows (t : Option SourcePlan) : Resume → Prop
  | .start _ => True
  | .reload r => Daemon.Follows t r.sourcePlan

/-- No reload request has left the takeover so far, and the one in preparation will not. -/
structure OnLive (t : Option SourcePlan) (w : World) : Prop where
  takeover : w.d.takeover = t
  clean : w.offLive = false
  slate : t.isSome = true → w.d.forcedSlate = none
  prepared : ∀ pending, w.d.preparation = some pending → pending.resume.Follows t

section OnLive

variable {setup : Setup} {q : Promises} {t : Option SourcePlan} {w : World}

variable {α : Type} {p : DaemonM α} {live : SourcePlan} {a : ReloadArgs} {r : ReloadResume}
  {steps : Steps}

lemma OnLive.of_eq (h : OnLive t w) {w' : World} (htakeover : w'.d.takeover = w.d.takeover)
    (hslate : w'.d.forcedSlate = w.d.forcedSlate) (hclean : w'.offLive = w.offLive)
    (hprepared : w'.d.preparation = w.d.preparation ∨ w'.d.preparation = none) : OnLive t w' where
  takeover := htakeover.trans h.takeover
  clean := hclean.trans h.clean
  slate ht := hslate.trans (h.slate ht)
  prepared pending hpending := by
    rcases hprepared with hsame | hnone
    · exact h.prepared pending (hsame.symm.trans hpending)
    · simp [hnone] at hpending

lemma OnLive.next (h : OnLive t w) {o : Op} (ho : Handling o) {x : Ans o} :
    OnLive t (next w o x) := by
  cases o with
  | modify f => exact h.of_eq (ho w.d).2.1 (ho w.d).2.2 rfl (.inl (ho w.d).1)
  | mark m | configure config | futureDone ticket plan supplied | submit plan
  | reloadContent req => exact ho.elim
  | dropSettle reason =>
    exact h.of_eq (by simp [Daemon.next]) (by simp [Daemon.next]) (by simp [Daemon.next])
      (.inl (by simp [Daemon.next]))
  | cancelPreparation =>
    exact h.of_eq (by simp [Daemon.next]) (by simp [Daemon.next]) (by simp [Daemon.next])
      (.inr (by simp [Daemon.next]))
  | meanwhile =>
    exact h.of_eq (by simp [Daemon.next]) (by simp [Daemon.next]) (by simp [Daemon.next])
      (.inl (by simp [Daemon.next]))
  | writeState row | prepare plan | launch plan planDir =>
    cases x <;> exact h.of_eq rfl rfl rfl (.inl rfl)
  | _ => exact h.of_eq rfl rfl rfl (.inl rfl)

lemma IsHandling.keepsLive (hp : IsHandling p) : Preserves q (OnLive t) p :=
  Uses.keeps hp (fun _ _ _ _ => trivial) fun _ _ _ ho hw _ => hw.next ho

lemma IsPlain.keepsLive (hp : IsPlain p) :
    Preserves q (OnLive t) p := hp.handling.keepsLive

/-! ## Resolving under a takeover -/

lemma nextSourcePlan_live (hw : OnLive (some live) w) :
    (nextSourcePlan setup).wp (machine q) (fun r w' => w' = w ∧ r = .ok (some live)) w := by
  simp [nextSourcePlan, hw.slate rfl, hw.takeover]

/-- Every lookup but the forced filler's gives way to the override. -/
lemma resolveReload_live (hw : OnLive (some live) w) (state : StateRow)
    (ha : a.forceFallback = false) {boundaryAt : Option Instant} :
    (resolveReload setup state a boundaryAt).wp (machine q)
      (fun r w' => w' = w ∧ r = .ok (.resolved (some live) .onAir, none)) w := by
  have hmanual : w.d.hasManualOverride = true := by simp [Attrs.hasManualOverride, hw.takeover]
  have hlookUp : ∀ horizon, (lookUpPlan setup boundaryAt horizon).wp (machine q)
      (fun r w' => w' = w ∧ r = .ok (.resolved (some live) .onAir)) w := by
    intro horizon
    simp only [lookUpPlan, wp_bind, wp_self, bindPost_ok, hmanual, Bool.not_true, Bool.and_false]
    simp only [catchSourcePrepare, wp_bind, wp_attempt]
    refine wp_mono ?_ (nextSourcePlan_live hw)
    rintro _ _ ⟨rfl, rfl⟩
    exact ⟨rfl, rfl⟩
  simp only [resolveReload, ha, Bool.false_eq_true, if_false, wp_bind, wp_self, bindPost_ok]
  refine wp_mono ?_ (hlookUp _)
  rintro _ _ ⟨rfl, rfl⟩
  exact ⟨rfl, rfl⟩

lemma floorReload_live (hw : OnLive (some live) w) (a : ReloadArgs)
    {boundaryAt : Option Instant} (plan : SourcePlan) (targetState : EgressState) :
    (floorReload setup a boundaryAt plan targetState).wp (machine q)
      (fun r w' => w' = w ∧ ∃ target, r = .ok (plan, target)) w := by
  have hmanual : w.d.hasManualOverride = true := by simp [Attrs.hasManualOverride, hw.takeover]
  simp only [floorReload, wp_if, wp_bind, resolveScheduleTail, wp_self, bindPost_ok, hmanual,
    Bool.or_true, if_true, wp_pure]
  exact ⟨fun _ => ⟨trivial, _, rfl⟩, fun _ => ⟨trivial, _, rfl⟩⟩

/-- After the first half of a start or a reload: what it is suspended with follows the
takeover. -/
def SuspendedLive (t : Option SourcePlan) (answer : Except Fault Steps) (w : World) : Prop :=
  OnLive t w ∧ ∀ steps, answer = .ok steps → steps.Resumes (Resume.Follows t)

lemma SuspendedLive.error (hw : OnLive t w) (e : Fault) : SuspendedLive t (.error e) w := by
  refine ⟨hw, ?_⟩
  intro steps hsteps
  cases hsteps

lemma SuspendedLive.ok (hw : OnLive t w)
    (hsteps : steps.Resumes (Resume.Follows t)) : SuspendedLive t (.ok steps) w := by
  refine ⟨hw, ?_⟩
  rintro _ ⟨⟩
  exact hsteps

lemma yieldReload_follows (hr : Follows t r.sourcePlan) {d : Attrs} :
    (yieldReload setup r d).Resumes (Resume.Follows t) := by
  unfold yieldReload
  split
  · exact hr
  · split
    · exact hr
    · split <;> exact hr

lemma Steps.Resumes.mono {φ ψ : Resume → Prop} (h : steps.Resumes φ)
    (hφ : ∀ resume, φ resume → ψ resume) : steps.Resumes ψ := by
  cases steps with
  | finished outcome => trivial
  | goesOn resume | yields plan supplied resume => exact hφ _ h

lemma reloadSteps_unfollowed (hw : OnLive none w) (state : StateRow) (process : Proc)
    (a : ReloadArgs) :
    (reloadSteps setup state process a).wp (machine q) (SuspendedLive none) w := by
  have hkept := (resolving_reloadSteps setup state process a).plain.keepsLive (q := q) w hw
  refine wp_mono ?_ ((gives_reloadSteps setup state process a).wp hkept)
  rintro r w' ⟨⟨hw', -⟩, hgives⟩
  refine ⟨hw', fun steps hsteps => (hgives steps hsteps).mono ?_⟩
  rintro _ ⟨r', rfl, -⟩ live hlive
  cases hlive

lemma SuspendedLive.seq {f : α → DaemonM Steps} (hp : IsPlain p)
    (hw : OnLive t w) (hf : ∀ a w', OnLive t w' → (f a).wp (machine q) (SuspendedLive t) w') :
    (p >>= f).wp (machine q) (SuspendedLive t) w :=
  wp_seq (hp.keepsLive w hw) (fun a w' h => hf a w' h.1) fun e _ h => .error h.1 e

lemma reloadSteps_follows (hw : OnLive t w) (state : StateRow) (process : Proc)
    (ha : t.isSome = true → a.forceFallback = false) :
    (reloadSteps setup state process a).wp (machine q) (SuspendedLive t) w := by
  cases t with
  | none => exact reloadSteps_unfollowed hw state process a
  | some live =>
    refine SuspendedLive.seq tame_getConfig.plain hw fun config w₁ hw₁ => ?_
    cases config with
    | none => exact .ok hw₁ trivial
    | some config =>
      refine wp_if.mpr ⟨fun _ => .ok hw₁ trivial, fun _ => ?_⟩
      refine SuspendedLive.seq tame_assist.plain hw₁ fun _ w₂ hw₂ => ?_
      refine SuspendedLive.seq resolving_handoffBoundary.plain hw₂ fun boundaryAt w₃ hw₃ => ?_
      rw [wp_bind]
      refine wp_mono ?_ (resolveReload_live hw₃ state (ha rfl))
      rintro _ _ ⟨rfl, rfl⟩
      refine wp_if.mpr ⟨fun _ => .ok hw₃ trivial, fun _ => ?_⟩
      rw [wp_bind]
      refine wp_mono ?_ (floorReload_live hw₃ a live .onAir)
      rintro _ _ ⟨rfl, target, rfl⟩
      simp only [bindPost_ok, wp_bind, wp_self, wp_pure]
      refine .ok hw₃ (yieldReload_follows ?_)
      rintro live' ⟨⟩
      rfl

lemma startSteps_follows (hw : OnLive t w) (a : StartArgs) {startedAt : ℚ} :
    (startSteps setup a startedAt).wp (machine q) (SuspendedLive t) w := by
  have hkept := (tidy_startSteps setup a startedAt).handling.keepsLive (q := q) w hw
  refine wp_mono ?_ ((gives_startSteps setup a).wp hkept)
  rintro r w' ⟨⟨hw', -⟩, hgives⟩
  refine ⟨hw', fun steps hsteps => (hgives steps hsteps).mono ?_⟩
  rintro _ ⟨r', rfl⟩
  trivial

/-! ## Handing requests out -/

lemma OnLive.handed (hw : OnLive t w) (req : ReloadRequest) (hreq : Follows t req.resolved)
    (armed : Except Fault Bool) : OnLive t (Daemon.next w (.reloadContent req) armed) := by
  have hclean : (w.offLive || w.d.takeover.any (· ≠ req.resolved)) = false := by
    rw [hw.clean, hw.takeover, Bool.false_or]
    cases t with
    | none => rfl
    | some live => simp [hreq live rfl]
  match armed with
  | .ok true => exact ⟨hw.takeover, hclean, hw.slate, hw.prepared⟩
  | .ok false => exact ⟨hw.takeover, hclean, hw.slate, hw.prepared⟩
  | .error e => exact ⟨hw.takeover, hclean, hw.slate, hw.prepared⟩

lemma dispatchReload_live (hr : Follows t r.sourcePlan) {plan : SourcePlan} {planDir : Option Dir}
    {deferred : Bool} : Preserves q (OnLive t) (dispatchReload r plan planDir deferred) := by
  refine .bind (plain_call (o := .uuid) trivial).keepsLive fun id => ?_
  refine .bind ?_ fun armed => ?_
  · intro w hw
    rw [wp_call]
    exact fun armed _ _ => ⟨hw.handed _ hr armed, nofun⟩
  · match armed with
    | .error e => exact keeps_pure
    | .ok false => exact (tame_reloadDeclined r).plain.keepsLive.bind fun _ => keeps_pure
    | .ok true => exact (tidy_awaitSettlement r).handling.keepsLive.bind fun _ => keeps_pure

lemma reloadFinish_live (hr : Follows t r.sourcePlan) (sent : Sent) :
    Preserves q (OnLive t) (reloadFinish r sent) := by
  refine (tame_receiveReload r).plain.keepsLive.bind fun received => ?_
  match received with
  | none => exact keeps_pure
  | some (plan, report) =>
    refine tame_missedStart.plain.keepsLive.bind fun late => .ite ?_ ?_
    · exact tidy_releasePreparedPlanDir.handling.keepsLive.bind fun _ => keeps_pure
    · refine tame_assist.plain.keepsLive.bind fun _ => tame_self.plain.keepsLive.bind fun d => ?_
      refine .bind (plain_call (o := .utcNow) trivial).keepsLive fun now => ?_
      refine .ite ?_ (dispatchReload_live hr)
      cases report <;> exact keeps_pure

lemma resumeWith_live {resume : Resume} (hresume : resume.Follows t) {sent : Sent} :
    Preserves q (OnLive t) (resumeWith setup resume sent) := by
  cases resume with
  | start r => exact (tidy_startFinish setup r).handling.keepsLive
  | reload r => exact reloadFinish_live hresume sent

/-- A preparation is queued only with what was just resolved. -/
lemma drive_live {steps : DaemonM Steps}
    (hsteps : ∀ w, OnLive t w → steps.wp (machine q) (SuspendedLive t) w) {slateFirst : Bool} :
    Preserves q (OnLive t) (drive steps (resumeWith setup) slateFirst) := by
  refine tame_self.plain.keepsLive.bind fun d => .ite keeps_pure ?_
  intro w hw
  refine wp_seq (hsteps w hw) (fun found w₁ h₁ => ?_) fun _ _ h => ⟨h.1, fun _ _ => trivial⟩
  obtain ⟨hw₁, hresumes⟩ := h₁
  have hfollows := hresumes found rfl
  cases found with
  | finished outcome => exact keeps_pure w₁ hw₁
  | goesOn resume => exact resumeWith_live hfollows w₁ hw₁
  | yields plan supplied resume =>
    refine Keeps.bind tame_self.plain.keepsLive (fun d => ?_) w₁ hw₁
    refine Keeps.ite ?_ ?_
    · refine .bind ?_ fun ticket => tame_getConfig.plain.keepsLive.bind fun config =>
        .bind ?_ fun _ => keeps_pure
      · intro v hv
        rw [wp_call]
        exact fun _ _ _ => ⟨hv.of_eq rfl rfl rfl (.inl rfl), nofun⟩
      · -- what is set aside is the resume that was just resolved
        intro v hv
        rw [wp_modify]
        refine ⟨⟨hv.takeover, hv.clean, hv.slate, ?_⟩, nofun⟩
        rintro _ ⟨⟩
        exact hfollows
    · cases supplied with
      | some report => exact resumeWith_live hfollows
      | none =>
        refine .bind (handling_call (o := .prepare plan) trivial).keepsLive fun report => ?_
        exact resumeWith_live hfollows

lemma tryContentReload_live {state : StateRow} {process : Proc}
    (ha : t.isSome = true → a.forceFallback = false) {slateFirst : Bool} :
    Preserves q (OnLive t) (tryContentReload setup state process a slateFirst) := by
  refine .bind (handling_call (o := .cancelPreparation) trivial).keepsLive fun _ => ?_
  refine .bind (drive_live (fun w hw => reloadSteps_follows hw state process ha)) fun outcome => ?_
  cases outcome with
  | reuse plan =>
    exact tidy_fallBackToRestartReload.handling.keepsLive.bind fun _ => keeps_pure
  | _ => exact keeps_pure

/-- A reload request follows the takeover, as long as it brings no forced filler. -/
lemma requestReloadWith_live (hq : q.unforced = true) {start : StartArgs → DaemonM Unit}
    (hstart : ∀ a, Preserves q (OnLive t) (start a)) (a : RequestArgs) :
    Preserves q (OnLive t) (requestReloadWith setup start a) := by
  refine .bind (handling_call (o := .cancelPreparation) trivial).keepsLive fun _ => ?_
  refine tame_takeRolloverRecord.plain.keepsLive.bind fun recorded => ?_
  intro w hw
  rw [wp_bind, wp_mark]
  intro hallowed
  have hforce : t.isSome = true → (recorded.map (·.forceFallback)).getD false = false := by
    intro ht
    simpa [Promises.allows, hq, hw.takeover, ht] using hallowed
  refine Keeps.bind tame_readState.plain.keepsLive (fun state => ?_) w hw
  refine tame_liveProcess.plain.keepsLive.bind fun live => ?_
  cases live with
  | none => exact hstart _
  | some p =>
    dsimp only
    split
    · exact tidy_fallBackToRestartReload.handling.keepsLive
    · refine (tame_scheduledStart setup).plain.keepsLive.bind fun scheduledStartAt => ?_
      refine .bind (tryContentReload_live hforce) fun armed => ?_
      exact .ite keeps_pure tidy_fallBackToRestartReload.handling.keepsLive

lemma releaseOnError_live {planDir : Option Dir} (hp : Preserves q (OnLive t) p) :
    Preserves q (OnLive t) (releaseOnError planDir p) := by
  refine .bind (.attempt hp) fun answer => ?_
  cases answer with
  | ok a => exact keeps_pure
  | error fault =>
    exact tidy_releasePreparedPlanDir.handling.keepsLive.bind fun _ => keeps_raise trivial

variable (hq : q.unforced = true)
include hq

lemma startUpTo_live (n : ℕ) (a : StartArgs) : Preserves q (OnLive t) (startUpTo setup n a) := by
  induction n generalizing a with
  | zero => exact .bind (plain_call (o := .diverge) trivial).keepsLive nofun
  | succ n ih =>
    refine .bind tame_self.plain.keepsLive fun d => ?_
    refine .ite tidy_releasePreparedPlanDir.handling.keepsLive ?_
    refine tame_resolutionStart.plain.keepsLive.bind fun startedAt => ?_
    refine .bind (releaseOnError_live
      (drive_live (fun w hw => startSteps_follows hw a))) fun outcome => ?_
    cases outcome with
    | startExpired => exact ih _
    | slateFirst =>
      exact tame_liveProcess.plain.keepsLive.bind fun live =>
        .ite (requestReloadWith_live hq ih _) keeps_pure
    | _ => exact keeps_pure

lemma start_live (a : StartArgs) : Preserves q (OnLive t) (start setup a) :=
  .bind (plain_call (o := .rounds) trivial).keepsLive fun n => startUpTo_live hq n a

lemma requestReload_live {a : RequestArgs} : Preserves q (OnLive t) (requestReload setup a) :=
  .bind (plain_call (o := .rounds) trivial).keepsLive fun n =>
    requestReloadWith_live hq (startUpTo_live hq n) a

omit hq

/-! ## The moves -/

/-- A request begins by cancelling the preparation, so it does not matter whether that has
happened already. -/
lemma requestReload_cancels {Q : Except Fault Unit → World → Prop} {a : RequestArgs}
    (h : (requestReload setup a).wp (machine q) Q w.cancelPreparation) :
    (requestReload setup a).wp (machine q) Q w := by
  simp only [requestReload, requestReloadWith, wp_bind, wp_rounds, bindPost_ok,
    wp_cancelPreparation, World.cancelPreparation_idem] at h ⊢
  exact h

/-- A new override's reload takes the channel over, whatever was in preparation. -/
lemma requestReload_takesOver (hq : q.unforced = true) (htakeover : w.d.takeover = t)
    (hclean : w.offLive = false) (hslate : t.isSome = true → w.d.forcedSlate = none)
    {a : RequestArgs} : (requestReload setup a).wp (machine q) (fun _ w' => OnLive t w') w := by
  refine requestReload_cancels (keeps_iff.mp (requestReload_live hq) _ ?_)
  refine ⟨by simpa using htakeover, by simpa using hclean, by simpa using hslate, ?_⟩
  intro pending hpending
  simp at hpending

lemma clearQualityRecovery_live : Preserves q (OnLive t) clearQualityRecovery := by
  refine tame_self.plain.keepsLive.bind fun d => ?_
  refine .bind (IsPlain.keepsLive (plain_modify fun _ => rfl)) fun _ => ?_
  cases d.qualityRecovery with
  | none => exact keeps_pure
  | some recovery =>
    refine tame_self.plain.keepsLive.bind fun d => .ite ?_ keeps_pure
    intro w hw
    rw [wp_modify]
    exact ⟨⟨hw.takeover, hw.clean, fun _ => rfl, hw.prepared⟩, nofun⟩

include hq

lemma settle_live (pending : Settlement) {result : ReloadResult} :
    Preserves q (OnLive t) (settle setup pending result) := by
  have hdrop : ∀ reason, Preserves q (OnLive t) (call (.dropSettle reason)) :=
    fun reason => (handling_call (o := .dropSettle reason) trivial).keepsLive
  have hfall : ∀ failed, Preserves q (OnLive t)
      (fallBackToRestartReload failed none pending.rolloverPlanEndAt) :=
    fun failed => tidy_fallBackToRestartReload.handling.keepsLive
  cases result with
  | applied =>
    refine tame_processPoll.plain.keepsLive.bind fun code => .ite ?_ ?_
    · exact (hdrop _).bind fun _ => hfall _
    · refine .bind ?_ fun _ => .bind ?_ fun _ =>
        tidy_commitReloadSettlement.handling.keepsLive
      · intro w hw
        rw [wp_mark]
        exact fun _ => ⟨hw.of_eq rfl rfl rfl (.inl rfl), nofun⟩
      · exact IsHandling.keepsLive (handling_modify fun _ => ⟨rfl, rfl, rfl⟩)
  | aborted =>
    refine tame_beforeSwitch.plain.keepsLive.bind fun early => .ite (hdrop _) ?_
    refine .bind ?_ fun retried => .ite keeps_pure ((hdrop _).bind fun _ => hfall _)
    unfold retryAbortedBoundaryReload
    split
    · exact keeps_pure
    · refine tame_self.plain.keepsLive.bind fun d => .ite keeps_pure ?_
      exact (hdrop _).bind fun _ => .bind (IsPlain.keepsLive (plain_modify fun _ => rfl))
        fun _ => (requestReload_live hq).bind fun _ => keeps_pure
  | unrecognized => exact (hdrop _).bind fun _ => hfall _

lemma pollReloadSettlement_live : Preserves q (OnLive t) (pollReloadSettlement setup) := by
  have hstatus : ∀ {α : Type} {f : Option (ℕ × ReloadResult) → DaemonM α},
      (∀ status, Preserves q (OnLive t) (f status)) →
      Preserves q (OnLive t) (call .reloadStatus >>= f) :=
    fun hf => .bind (plain_call (o := .reloadStatus) trivial).keepsLive hf
  refine tame_self.plain.keepsLive.bind fun d => ?_
  cases d.settle with
  | none =>
    refine .ite (hstatus fun status => ?_) keeps_pure
    exact .ite (IsPlain.keepsLive (plain_modify fun _ => rfl)) keeps_pure
  | some pending =>
    refine .bind (plain_call (o := .meanwhile) trivial).keepsLive fun _ => ?_
    refine hstatus fun status => ?_
    split
    · exact settle_live hq pending
    · refine .bind (plain_call (o := .monotonic) trivial).keepsLive fun now => ?_
      refine .ite ?_ keeps_pure
      exact .bind (handling_call (o := .dropSettle .deadline) trivial).keepsLive fun _ =>
        tidy_fallBackToRestartReload.handling.keepsLive

lemma preparationDone_live {pending : Preparation} (hpending : pending.resume.Follows t)
    (sent : Except Fault Report) : Preserves q (OnLive t) (preparationDone setup pending sent) := by
  refine .bind ?_ fun _ => (resumeWith_live hpending).bind fun outcome => ?_
  · intro w hw
    rw [wp_modify]
    exact ⟨hw.of_eq rfl rfl rfl (.inr rfl), nofun⟩
  · split
    · exact tidy_fallBackToRestartReload.handling.keepsLive
    · exact .ite keeps_pure tidy_fallBackToRestartReload.handling.keepsLive
    · exact start_live hq _
    · refine .bind (plain_call (o := .rounds) trivial).keepsLive fun n => ?_
      exact tame_liveProcess.plain.keepsLive.bind fun live =>
        .ite (requestReloadWith_live hq (startUpTo_live hq n) _) keeps_pure
    · exact keeps_pure

lemma pollPreparation_live : Preserves q (OnLive t) (pollPreparation setup) := by
  intro w hw
  rw [pollPreparation, wp_bind, wp_self, bindPost_ok]
  cases hpreparation : w.d.preparation with
  | none => exact keeps_pure w hw
  | some pending =>
    have hfollows : pending.resume.Follows t := hw.prepared pending hpreparation
    refine Keeps.bind ?_ (fun answer => ?_) w hw
    · intro v hv
      rw [wp_call]
      intro answer _ _
      refine ⟨?_, nofun⟩
      match pending.suppliedReport, answer with
      | none, some (.ok report) => exact hv.of_eq rfl rfl rfl (.inl rfl)
      | none, some (.error e) | none, none | some report, answer => exact hv
    · cases answer with
      | none => exact keeps_pure
      | some sent =>
        -- stale media is asked for anew, any other is resumed
        refine tame_isStale.plain.keepsLive.bind fun stale => .ite ?_ ?_
        · exact .bind (handling_call (o := .cancelPreparation) trivial).keepsLive fun _ =>
            requestReload_live hq
        · exact preparationDone_live hq hfollows sent

lemma restartPinned_live (pin : Pin) : Preserves q (OnLive t) (restartPinned setup pin) :=
  tame_writeState.plain.keepsLive.bind fun _ => tame_self.plain.keepsLive.bind fun _ =>
    .bind (IsHandling.keepsLive (handling_modify fun _ => ⟨rfl, rfl, rfl⟩)) fun _ =>
      start_live hq _

omit hq

lemma clearForStop_live : Preserves q (OnLive t) clearForStop := by
  refine .bind (handling_call (o := .cancelPreparation) trivial).keepsLive fun _ => ?_
  refine clearQualityRecovery_live.bind fun _ => ?_
  refine IsHandling.keepsLive (uses_bind tame_self.plain.handling fun d => ?_)
  refine uses_bind (handling_modify fun _ => ⟨rfl, rfl, rfl⟩) fun _ => ?_
  refine uses_bind plain_resetRestartTracking.handling fun _ => ?_
  refine uses_bind (handling_modify fun _ => ⟨rfl, rfl, rfl⟩) fun _ => ?_
  exact uses_ask trivial fun _ =>
    uses_bind tidy_discardPreparedRestartPlan.handling fun _ =>
      uses_bind tidy_discardActivePreparedPlanDir.handling fun _ => uses_pure

end OnLive

/-! ## Runs -/

/-- Whatever takeover is set, the channel is on it. -/
def StaysLive (w : World) : Prop := OnLive w.d.takeover w

section StaysLive

variable {setup : Setup} {q : Promises} {t : Option SourcePlan}

lemma OnLive.stays {w : World} (h : OnLive t w) : StaysLive w := by
  rw [StaysLive, h.takeover]
  exact h

lemma staysLive_of_keeps {α : Type} {p : DaemonM α} (h : ∀ t, Preserves q (OnLive t) p) :
    Preserves q StaysLive p := by
  intro w hw
  refine wp_mono ?_ (h w.d.takeover w hw)
  exact fun _ w' hw' => ⟨hw'.1.stays, hw'.2⟩

lemma staysLive_of_wp {α : Type} {p : DaemonM α}
    (h : ∀ w, StaysLive w → p.wp (machine q) (fun _ w' => ∃ t, OnLive t w') w) :
    Preserves q StaysLive p := by
  intro w hw
  refine wp_mono ?_ (h w hw)
  rintro _ w' ⟨t, hw'⟩
  exact ⟨hw'.stays, fun _ _ => trivial⟩

variable (hq : q.unforced = true)
include hq

lemma requestLiveTakeover_stays (plan : SourcePlan) :
    Preserves q StaysLive (requestLiveTakeover setup plan) := by
  refine staysLive_of_wp fun w hw => ?_
  refine wp_if.mpr ⟨fun _ => ⟨_, hw⟩, fun _ => ?_⟩
  rw [wp_bind, wp_modify, bindPost_ok]
  refine wp_mono (fun _ _ h => ⟨some plan, h⟩) (requestReload_takesOver hq ?_ ?_ ?_)
  · rfl
  · exact hw.clean
  · exact fun _ => rfl

lemma requestLiveHandback_stays : Preserves q StaysLive (requestLiveHandback setup) := by
  refine staysLive_of_wp fun w hw => ?_
  simp only [requestLiveHandback, wp_bind, wp_modify, bindPost_ok, wp_utcNow]
  intro now
  refine wp_mono (fun _ _ h => ⟨none, h⟩) (requestReload_takesOver hq ?_ ?_ ?_)
  · rfl
  · exact hw.clean
  · intro hnone
    cases hnone

lemma reloadOrSwap_live : Preserves q (OnLive t) (reloadOrSwap setup) :=
  .ite (.bind (plain_call (o := .swapRole) trivial).keepsLive fun answer =>
    IsPlain.keepsLive (uses_orRaise answer)) (requestReload_live hq)

lemma requestFallbackSlate_stays (reason : String) :
    Preserves q StaysLive (requestFallbackSlate setup reason) := by
  refine staysLive_of_wp fun w hw => ?_
  refine wp_if.mpr ⟨fun _ => ⟨_, hw⟩, fun _ => ?_⟩
  rw [wp_bind, wp_modify, bindPost_ok]
  refine wp_mono (fun _ _ h => ⟨none, h.1⟩) (reloadOrSwap_live hq _ ?_)
  refine ⟨rfl, hw.clean, nofun, fun pending hpending => ?_⟩
  cases pending.resume with
  | start r => trivial
  | reload r => exact nofun

lemma requestSlateExit_live : Preserves q (OnLive t) (requestSlateExit setup) := by
  refine .bind ?_ fun _ => reloadOrSwap_live hq
  intro w hw
  rw [wp_modify]
  exact ⟨⟨hw.takeover, hw.clean, fun _ => rfl, hw.prepared⟩, nofun⟩

lemma carried_staysLive : Carried setup q StaysLive where
  plain hp := staysLive_of_keeps fun _ => hp.keepsLive
  reissued := staysLive_of_keeps fun t w hw => by
    rw [wp_mark]
    exact fun _ => ⟨hw.of_eq rfl rfl rfl (.inl rfl), nofun⟩
  configure config := staysLive_of_keeps fun t w hw => by
    rw [wp_configure]
    exact ⟨hw.of_eq rfl rfl rfl (.inl rfl), nofun⟩
  cancelPreparation := staysLive_of_keeps fun _ =>
    (handling_call (o := .cancelPreparation) trivial).keepsLive
  start a _ := staysLive_of_keeps fun _ => start_live hq a
  requestReload a := staysLive_of_keeps fun _ => requestReload_live hq
  restartPinned pin := staysLive_of_keeps fun _ => restartPinned_live hq pin
  clearExited := staysLive_of_keeps fun _ => tidy_clearExited.handling.keepsLive
  clearForStop := staysLive_of_keeps fun _ => clearForStop_live
  discardPreparedRestartPlan := staysLive_of_keeps fun _ =>
    tidy_discardPreparedRestartPlan.handling.keepsLive
  pollReloadSettlement := staysLive_of_keeps fun _ => pollReloadSettlement_live hq
  pollPreparation := staysLive_of_keeps fun _ => pollPreparation_live hq
  requestLiveTakeover := requestLiveTakeover_stays hq
  requestLiveHandback := requestLiveHandback_stays hq
  requestFallbackSlate := requestFallbackSlate_stays hq
  requestSlateExit := staysLive_of_keeps fun _ => requestSlateExit_live hq
  clearQualityRecovery := staysLive_of_keeps fun _ => clearQualityRecovery_live

end StaysLive

/-- In every run, every reload request made under a live takeover carries the takeover's
plan, as long as none is made with a forced filler. -/
theorem live_takeover_stays_live (setup : Setup) (config : Option Config) (row : Option StateRow)
    {es : List Event} {w : World}
    (hrun : Run setup (machine { unforced := true }) (fun _ _ => True) (.boot config row) es w) :
    w.offLive = false := by
  have hboot : StaysLive (.boot config row) := by
    refine ⟨rfl, rfl, ?_, ?_⟩
    · intro hnone
      cases hnone
    · intro pending hnone
      cases hnone
  exact ((carried_staysLive rfl).run hrun hboot).clean

namespace Gov

/-- A station with a fallback slate, a schedule that can be asked for a boundary, and a
takeover store. -/
def liveRoom : Setup :=
  { plain with boundaryProvider := true, fallbackProvider := true, takeoverStore := true }

def liveFeed : SourcePlan :=
  ⟨"gov", [⟨3600, .live, some "live-room", none, none, "Live", none, none, none⟩]⟩

def slate : SourcePlan :=
  ⟨"gov", [⟨600, .slate, some "civiccast-slate", none, none, "Slate", none, none, none⟩]⟩

/-- A takeover session is open; nothing is scheduled at the boundary. -/
def takenOver : Env :=
  { scheduled with session := .plan liveFeed, fallbackPlan := .ok slate }

def takeoverCommand : Command := ⟨.takeover, "take-1", "operator"⟩

/-- The automation's filler rollover, and the record it leaves for it. -/
def fillerReload : Command := ⟨.reload, "auto-reload-1", "channel-automation"⟩

def fillerRecord : RolloverRecord := ⟨some "auto-reload-1", 600, true, none⟩

/-- The takeover is processed between the automation's record and its reload. -/
def fillerUnderTakeover : List (Event × Env) :=
  [(.command operatorStart, takenOver), (.recordRolloverPlanEnd fillerRecord, takenOver),
    (.command takeoverCommand, takenOver), (.command fillerReload, takenOver)]

/-- The same without the filler: an operator's reload under the takeover. -/
def reloadUnderTakeover : List (Event × Env) :=
  [(.command operatorStart, takenOver), (.command takeoverCommand, takenOver),
    (.command operatorReload, takenOver)]

end Gov

open Gov in
/-- The forced filler does not ask for the override: the rollover that was recorded before
the takeover hands the encoder the slate while the takeover's plan is set. -/
theorem forced_filler_leaves_the_takeover :
    ¬ ∀ (setup : Setup) (config : Option Config) (row : Option StateRow) (es : List Event)
      (w : World), Run setup (machine {}) (fun _ _ => True) (.boot config row) es w →
      w.offLive = false := by
  intro h
  have hrun := run_of_play liveRoom (q := {}) (P := fun _ _ => True) fillerUnderTakeover
    (fun _ _ _ => trivial) (w := boot) (by decide +kernel)
  have hlive := h liveRoom _ _ _ _ hrun
  revert hlive
  decide +kernel

open Gov in
/-- An operator's reload under the takeover carries its plan. -/
theorem live_takeover_stays_live_gov :
    (play liveRoom boot reloadUnderTakeover { unforced := true }).offLive = false ∧
      (play liveRoom boot reloadUnderTakeover { unforced := true }).d.settle.map
        (·.sourcePlan) = some liveFeed := by
  refine ⟨?_, by decide +kernel⟩
  exact live_takeover_stays_live liveRoom _ _
    (run_of_play liveRoom reloadUnderTakeover (fun _ _ _ => trivial) (by decide +kernel))

end Daemon

end CivicCast.Egress
