import CivicCast.Egress.ExitSequel
import CivicCast.Egress.RestartStreak

/-! # A source that never airs ends on the slate

A worker that keeps failing is relaunched, and from `_LIVE_SOURCE_FAILURE_FALLBACK_STREAK` failures
on it is relaunched onto the fallback slate. The failures are counted by the restart streak, which
`_poll_process` clears once a worker has been seen on air for a minute. But
`_relaunch_after_crash` also clears it when the worker that exits had been up for a minute, seen on
air or not: workers that hang for a minute and then fail never add up to the slate.

`Ran` is any run of exits, polls and relaunches that shows no evidence of air and handles no
command. The result is about those whose exits `Escalates` allows; the streak then keeps up with
the exits (`Tallied`).
-/

namespace CivicCast.Egress

namespace Daemon

open Lib Lib.Prog Playout Option

variable (setup : Setup)

/-! ## Runs of exits -/

/-- No worker shows evidence of air, and no stop or drain is queued. -/
def isUnaired : (o : Op) → Ans o → Bool
  | .onAirEvidence, evidence => !evidence
  | .peekCommands, .ok commands => !commands.any fun c => c.action = .stop ∨ c.action = .drain
  | _, _ => true

/-- The daemon's machine, where nothing is seen on air and nothing is commanded. -/
def unaired : Machine daemonIface World :=
  (machine {}).promising fun o x => isUnaired o x = true

/-- A run from `w₀` in which `ok` allows every exit, with the number of counted exits before it:
the world, the number of non-zero exits other than slow starts so far, and every relaunch with that
number. An exit whose handling raises is no step of it. -/
inductive Ran (ok : World → ℕ → Exit → Prop) (w₀ : World) :
    World → ℕ → List (ℕ × StartArgs) → Prop where
  | start : Ran ok w₀ w₀ 0 []
  | quiet {w w' : World} {n : ℕ} {relaunches : List (ℕ × StartArgs)} {e : Event}
      (h : Ran ok w₀ w n relaunches) (he : e.IsQuiet) (hstep : Step setup unaired w e w') :
      Ran ok w₀ w' n relaunches
  /-- A poll of the worker that finds no exit. -/
  | polled {w w' : World} {n : ℕ} {relaunches : List (ℕ × StartArgs)}
      {r : Except Fault (Option Exit)} (h : Ran ok w₀ w n relaunches)
      (hpoll : Exec unaired observeExit w r w') (hr : ∀ x, r ≠ .ok (some x)) :
      Ran ok w₀ w' n relaunches
  | exited {w w₁ w₂ w' : World} {n : ℕ} {relaunches : List (ℕ × StartArgs)} {x : Exit} {s : Sequel}
      {r : Except Fault Unit} (h : Ran ok w₀ w n relaunches)
      (hpoll : Exec unaired observeExit w (.ok (some x)) w₁) (hok : ok w₁ n x)
      (hsequel : Exec unaired (exitSequel setup x) w₁ (.ok s) w₂)
      (hstart : Exec unaired (carryOut setup s) w₂ r w') :
      Ran ok w₀ w' (n + x.counts.toNat)
        (relaunches ++ s.relaunched.toList.map fun a => (n + x.counts.toNat, a))
  | backoff {w w₁ w' : World} {n : ℕ} {relaunches : List (ℕ × StartArgs)} {s : Sequel}
      {r : Except Fault Unit} (h : Ran ok w₀ w n relaunches)
      (hsequel : Exec unaired (backoffSequel setup) w (.ok s) w₁)
      (hstart : Exec unaired (carryOut setup s) w₁ r w') :
      Ran ok w₀ w' n (relaunches ++ s.relaunched.toList.map fun a => (n, a))
  | backoffRaised {w w' : World} {n : ℕ} {relaunches : List (ℕ × StartArgs)} {e : Fault}
      (h : Ran ok w₀ w n relaunches)
      (hraised : Exec unaired (backoffSequel setup) w (.error e) w') : Ran ok w₀ w' n relaunches

section Steps

variable {setup} {ok : World → ℕ → Exit → Prop} {w₀ w w' : World} {n : ℕ}
  {relaunches : List (ℕ × StartArgs)}

/-- Every poll of the worker goes on with the run, unless the exit it finds is not allowed, or
its handling raises. -/
lemma Ran.pollProcess (h : Ran setup ok w₀ w n relaunches)
    (hstep : Step setup unaired w .pollProcess w')
    (hexit : ∀ x w₁, Exec unaired observeExit w (.ok (some x)) w₁ →
      ok w₁ n x ∧ ∀ e w', ¬ Exec unaired (exitSequel setup x) w₁ (.error e) w') :
    ∃ n' relaunches', Ran setup ok w₀ w' n' relaunches' := by
  obtain ⟨r, hrun⟩ := hstep
  change Exec unaired (Daemon.pollProcess setup) w r w' at hrun
  rw [pollProcess_eq] at hrun
  rcases hrun.bind_cases with ⟨found, w₁, hpoll, hrun⟩ | ⟨e, -, hpoll⟩
  · cases found with
    | none =>
      cases hrun
      exact ⟨n, relaunches, .polled h hpoll nofun⟩
    | some x =>
      obtain ⟨hok, hreturns⟩ := hexit x w₁ hpoll
      rcases hrun.bind_cases with ⟨s, w₂, hsequel, hstart⟩ | ⟨e, -, hsequel⟩
      · exact ⟨_, _, .exited h hpoll hok hsequel hstart⟩
      · exact absurd hsequel (hreturns e w')
  · exact ⟨n, relaunches, .polled h hpoll nofun⟩

lemma Ran.serviceBackoffRelaunch (h : Ran setup ok w₀ w n relaunches)
    (hstep : Step setup unaired w .serviceBackoffRelaunch w') :
    ∃ relaunches', Ran setup ok w₀ w' n relaunches' := by
  obtain ⟨r, hrun⟩ := hstep
  change Exec unaired (Daemon.serviceBackoffRelaunch setup) w r w' at hrun
  rw [serviceBackoffRelaunch_eq] at hrun
  rcases hrun.bind_cases with ⟨s, w₁, hsequel, hstart⟩ | ⟨e, -, hraised⟩
  · exact ⟨_, .backoff h hsequel hstart⟩
  · exact ⟨relaunches, .backoffRaised h hraised⟩

end Steps

namespace Exit

variable (x : Exit) (w : World)

/-- Is the exit the one a pending reload waits for? -/
def honoured : Bool :=
  w.d.pendingReload.isSome && (decide (x.code = 0) || w.d.reloadKill) && !w.d.draining

/-- Is the exit handed to `_relaunch_after_crash`? -/
def crash : Bool :=
  !x.honoured w && !w.d.draining && w.row.any fun row =>
    decide (row.state = .onAir ∨ row.state = .transitioning
      ∨ x.code ≠ 0 ∧ row.state = .fallbackSlate)

/-- The end of a slate that airs because the source failed often enough. -/
def renewsSlate : Bool :=
  decide (x.code = 0) && !w.d.draining && (w.row.any fun row => decide (row.state = .fallbackSlate))
    && decide (w.d.slateEosRelaunches.getD 0 < slateEosRelaunchMaxConsecutive)
    && decide (liveSourceFailureFallbackStreak ≤ w.d.restartStreak.getD 0)

end Exit

/-- A counted exit is a crash. Once one is counted, an exit of a worker that was up for a minute is
not taken for a crash, and no exit takes the channel down. -/
def Escalates (w : World) (n : ℕ) (x : Exit) : Prop :=
  (x.counts → x.crash w) ∧ (0 < n → x.crash w ∧ ¬ x.long ∨ x.honoured w ∨ x.renewsSlate w)

instance (w : World) (n : ℕ) (x : Exit) : Decidable (Escalates w n x) :=
  inferInstanceAs (Decidable (_ ∧ _))

/-! ## The streak after an exit -/

/-- The streak goes up with every counted exit, and only a long run takes it down. -/
lemma crashStreak_ge (d : Attrs) (x : Exit) (now : ℚ) :
    (if x.long then 0 else d.restartStreak.getD 0) + x.counts.toNat ≤
      (crashStreak d x.uptime x.code now).1 := by
  unfold crashStreak Exit.long Exit.counts Exit.slow
  by_cases hslow : x.code ∈ slowStartExitCodes
  · simp only [hslow, decide_true, Bool.not_true, Bool.and_false, Bool.toNat_false]
    simp only [Bool.false_eq_true, if_false, Bool.true_and]
    split <;> omega
  · simp only [hslow, decide_false, Bool.not_false, Bool.and_true, Bool.false_and]
    have hcount := Bool.toNat_le (decide (x.code ≠ 0))
    simp only [Bool.false_eq_true, if_false]
    split <;> omega

/-! ## What the parts return

`Yields` is about the runs that return: an exit whose handling raises is no step of a run. -/

section Yields

variable {α β : Type} {s : Option ℕ} {w : World} {p : DaemonM α} {K : α → World → Prop}

/-- Whatever `p` returns, on the machine of the runs, satisfies `K`. -/
def Yields (p : DaemonM α) (K : α → World → Prop) (w : World) : Prop :=
  p.wp unaired (Either K fun _ => True) w

lemma Yields.bind {f : α → DaemonM β} {L : β → World → Prop} (hp : Yields p K w)
    (hf : ∀ a w', K a w' → Yields (f a) L w') : Yields (p >>= f) L w :=
  either_bind hp hf

lemma Yields.mono {L : α → World → Prop} (hp : Yields p K w)
    (h : ∀ a w', K a w' → L a w') : Yields p L w :=
  either_mono hp h fun _ => id

lemma Yields.post {a : α} {w' : World}
    (hp : Yields p K w) (h : Exec unaired p w (.ok a) w') : K a w' :=
  h.post hp

lemma yields_pure {a : α} (h : K a w) : Yields (pure a) K w := h

lemma yields_self : Yields self (fun d w' => d = w.d ∧ w' = w) w := by
  constructor
  · trivial
  · intro d hd
    have hlegal : d = w.d := by
      simpa [unaired, Machine.promising, machine, legal, Promises.allows] using hd.1
    exact ⟨hlegal, rfl⟩

lemma yields_modify {f : Attrs → Attrs} : Yields (modify f) (fun _ w' => w' = w.setD (f w.d)) w :=
  ⟨trivial, fun _ _ => rfl⟩

lemma yields_orRaise {r : Except Fault α} :
    Yields (orRaise r) (fun a w' => r = .ok a ∧ w' = w) w := by
  cases r with
  | ok a => exact ⟨rfl, rfl⟩
  | error e => trivial

lemma yields_readState : Yields readState (fun found w' => found = w.row ∧ w' = w) w := by
  refine ⟨trivial, fun answer hanswer => ?_⟩
  refine Yields.mono yields_orRaise fun found w' h => ?_
  obtain ⟨rfl, hw'⟩ := h
  have hlegal : found = w.row := by
    simpa [unaired, Machine.promising, machine, legal, Promises.allows] using hanswer.1
  exact ⟨hlegal, hw'⟩

lemma yields_hasPendingTerminalCommand :
    Yields hasPendingTerminalCommand (fun queued w' => queued = false ∧ w' = w) w := by
  refine ⟨trivial, fun answer hanswer => ?_⟩
  refine yields_orRaise.bind fun commands w' h => yields_pure ?_
  obtain ⟨rfl, rfl⟩ := h
  constructor
  · simpa [isUnaired] using hanswer.2
  · rfl

lemma IsUncounted.yields (hp : IsUncounted p) (h : Streak s w) :
    Yields p (fun _ w' => Streak s w') w := by
  refine wp_mono ?_ (hp.keeps (fun _ _ => trivial) rfl s w h)
  intro r w' hr
  cases r with
  | ok a => exact hr.1
  | error e => trivial

end Yields

/-! ## Handling an exit -/

section Handling

variable {setup} {s k : Option ℕ} {row : Option StateRow} {w : World} {o : Op} {x : Exit}

/-- A relaunch is forced onto the slate exactly when the streak is at its limit. -/
def Sequel.Forced (setup : Setup) (streak : ℕ) (sq : Sequel) : Prop :=
  ∀ a, sq.relaunched = some a → a.forceFallbackSlate =
    (decide (liveSourceFailureFallbackStreak ≤ streak) && setup.fallbackProvider)

lemma Sequel.forced_wait {streak : ℕ} : Sequel.wait.Forced setup streak := by
  intro a ha
  cases ha

lemma uncounted_beginSequel {previousState : Option EgressState} {proofEventId : Option ℕ} :
    IsUncounted (beginSequel setup previousState proofEventId) :=
  uses_bind tame_self.uncounted fun _ => uses_bind tame_writeState.uncounted fun _ =>
    uses_bind tame_assist.uncounted fun _ => uses_pure

lemma uncounted_carryOut {sq : Sequel} : IsUncounted (carryOut setup sq) := by
  cases sq with
  | relaunch a => exact uses_bind (uncounted_start setup a) fun _ => tame_assist.uncounted
  | renew a | restart a => exact uncounted_start setup a
  | wait | down => exact uses_pure

lemma beginSequel_yields (h : Streak s w) {previousState : Option EgressState}
    {proofEventId : Option ℕ} : Yields (beginSequel setup previousState proofEventId)
      (fun sq w' => Streak s w' ∧ sq.Forced setup (s.getD 0)) w := by
  refine yields_self.bind fun d w₁ hd => ?_
  obtain ⟨rfl, rfl⟩ := hd
  refine (tame_writeState.uncounted.yields h).bind fun _ w₂ h₂ => ?_
  refine (tame_assist.uncounted.yields h₂).bind fun _ w₃ h₃ => yields_pure ⟨h₃, ?_⟩
  intro a ha
  cases ha
  rw [h.streak]

/-- After a crash with the streak at `s`: the streak it has come to decides about the relaunch. -/
def Counted (setup : Setup) (s : Option ℕ) (x : Exit) (sq : Sequel) (w : World) : Prop :=
  ∃ streak, Streak (some streak) w ∧
    (if x.long then 0 else s.getD 0) + x.counts.toNat ≤ streak ∧ sq.Forced setup streak

lemma crashSequel_yields (h : Streak s w) {found : StateRow} (x : Exit) :
    Yields (crashSequel setup found x) (Counted setup s x) w := by
  refine ((uncounted_call (o := .monotonic) trivial).yields h).bind fun now w₁ h₁ => ?_
  refine yields_self.bind fun d w₂ hd => ?_
  obtain ⟨rfl, rfl⟩ := hd
  have hge := crashStreak_ge w₂.d x now
  rw [h₁.streak] at hge
  revert hge
  generalize crashStreak w₂.d x.uptime x.code now = counted
  obtain ⟨streak, incrAt⟩ := counted
  intro hge
  refine yields_modify.bind fun _ w₃ hw₃ => ?_
  have h₃ : Streak (some streak) w₃ := by
    subst hw₃
    exact ⟨rfl, h₁.unconfirmed⟩
  refine (tame_proveCrash.uncounted.yields h₃).bind fun event w₄ h₄ => ?_
  refine (tame_restartLatchShouldRunNow.uncounted.yields h₄).bind fun allowed w₅ h₅ => ?_
  cases allowed with
  | true =>
    refine (beginSequel_yields h₅).mono fun sq w' hsq => ?_
    exact ⟨streak, hsq.1, hge, hsq.2⟩
  | false =>
    refine (tame_backOff.uncounted.yields h₅).bind fun _ w' h' => yields_pure ?_
    exact ⟨streak, h', hge, Sequel.forced_wait⟩

/-! An exit is handled by the state row and the attributes it finds; clearing the worker away
changes none of those that count. -/

/-- Operations that leave the streak, the slate's relaunches and the state row. -/
def Clearing : Op → Prop
  | .modify f => ∀ d, (f d).restartStreak = d.restartStreak ∧
      ((f d).onAirConfirmedAt = d.onAirConfirmedAt ∨ (f d).onAirConfirmedAt = none) ∧
      (f d).slateEosRelaunches = d.slateEosRelaunches
  | .writeState _ => False
  | _ => True

/-- What an exit is handled with. -/
structure Found (s k : Option ℕ) (row : Option StateRow) (w : World) : Prop extends Streak s w where
  renewals : w.d.slateEosRelaunches = k
  row : w.row = row

lemma Clearing.uncounted (h : Clearing o) : Uncounted o := by
  cases o with
  | modify f => exact fun d => ⟨(h d).1, (h d).2.1⟩
  | _ => trivial

lemma next_row (ho : ∀ row, o ≠ .writeState row) (w : World) (x : Ans o) :
    (next w o x).row = w.row := by
  cases o with
  | writeState found => exact absurd rfl (ho found)
  | dropSettle reason =>
    unfold Daemon.next World.dropSettle
    cases w.d.settle with
    | none => rfl
    | some pending => simp
  | cancelPreparation =>
    unfold Daemon.next World.cancelPreparation
    cases w.d.preparation with
    | none => rfl
    | some pending => simp
  | meanwhile => exact World.move_row w x
  | prepare plan | launch plan planDir => cases x <;> rfl
  | mark m => cases m <;> rfl
  | reloadContent req =>
    rcases x with e | _ | _ <;> rfl
  | futureDone ticket plan supplied =>
    match supplied, x with
    | none, some (.ok report) | none, some (.error e) | none, none | some supplied, _ => rfl
  | _ => rfl

lemma Found.next (h : Found s k row w) (ho : Clearing o) (x : Ans o) :
    Found s k row (next w o x) := by
  have hrow : (Daemon.next w o x).row = w.row := by
    refine next_row (fun found hwrite => ?_) w x
    subst hwrite
    exact ho
  refine ⟨h.toStreak.next ho.uncounted x, ?_, hrow.trans h.row⟩
  by_cases hmodify : ∃ f, o = .modify f
  · obtain ⟨f, rfl⟩ := hmodify
    exact (ho w.d).2.2.trans h.renewals
  · have hother : ∀ f, o ≠ .modify f := fun f hf => hmodify ⟨f, hf⟩
    exact (next_attr hother w x fun _ _ _ _ => rfl).trans h.renewals

lemma Found.yields (h : Found s k row w) {α : Type} {p : DaemonM α}
    (hp : p.Uses Clearing fun _ => True) : Yields p (fun _ w' => Found s k row w') w := by
  have hkeeps : p.Keeps unaired (Found s k row) fun _ => True :=
    hp.keeps (fun _ _ _ _ => trivial) fun _ _ x ho hw _ => hw.next ho x
  refine wp_mono ?_ (hkeeps w h)
  intro r w' hr
  cases r with
  | ok a => exact hr.1
  | error e => trivial

lemma clearing_release {planDir : Option Dir} :
    (releasePreparedPlanDir planDir).Uses Clearing fun _ => True := by
  cases planDir with
  | none => exact uses_pure
  | some dir => exact ⟨trivial, fun _ => trivial⟩

lemma clearing_call (h : Clearing o) : (call o).Uses Clearing fun _ => True :=
  ⟨h, fun _ => trivial⟩

lemma clearing_modify {f : Attrs → Attrs} (h : Clearing (.modify f)) :
    (modify f).Uses Clearing fun _ => True := ⟨h, fun _ => trivial⟩

lemma clearExited_yields (h : Found s k row w) : Yields clearExited
    (fun cleared w' => cleared.1 = w.d ∧ cleared.2 = false ∧ Found s k row w') w := by
  refine yields_self.bind fun d w₁ hd => ?_
  obtain ⟨rfl, rfl⟩ := hd
  refine .bind (h.yields (clearing_modify fun _ => ⟨rfl, .inr rfl, rfl⟩)) fun _ w₂ h₂ => ?_
  refine yields_hasPendingTerminalCommand.bind fun queued w₃ hqueued => ?_
  obtain ⟨rfl, rfl⟩ := hqueued
  refine yields_readState.bind fun found w₄ hfound => ?_
  obtain ⟨-, rfl⟩ := hfound
  refine .bind (h₂.yields (clearing_modify fun _ => ⟨rfl, .inl rfl, rfl⟩)) fun _ w₅ h₅ => ?_
  refine .bind (h₅.yields (clearing_call trivial)) fun _ w₆ h₆ => ?_
  refine .bind (h₆.yields ?_) fun _ w₇ h₇ => yields_pure ⟨rfl, rfl, h₇⟩
  exact uses_ask trivial fun _ =>
    uses_bind (clearing_modify fun _ => ⟨rfl, .inl rfl, rfl⟩) fun _ => clearing_release

lemma exitSequel_unpinned {K : Sequel → World → Prop} (h : Found s k row w)
    (hpin : x.honoured w = false)
    (hrest : ∀ w', Found s k row w' → Yields
      (match row.filter fun s => decide (s.state = .onAir ∨ s.state = .transitioning) with
      | some found =>
        if x.code = 0 && !w.d.draining && !false then crashSequel setup found x
        else downSequel setup x w.d false
      | none => downSequel setup x w.d false) K w') :
    Yields (exitSequel setup x) K w := by
  refine (clearExited_yields h).bind fun cleared w₁ hcleared => ?_
  obtain ⟨d, queued⟩ := cleared
  obtain ⟨rfl, rfl, h₁⟩ := hcleared
  have hnone : (if !(x.code ≠ 0 && !w.d.reloadKill || w.d.draining || false)
      then w.d.pendingReload else none) = none := by
    revert hpin
    unfold Exit.honoured
    cases w.d.pendingReload <;> cases w.d.reloadKill <;> cases w.d.draining <;>
      by_cases hcode : x.code = 0 <;> simp [hcode]
  dsimp only
  rw [hnone]
  refine .bind (h₁.yields ?_) fun _ w₂ h₂ => yields_readState.bind fun found w₃ hfound => ?_
  · exact uses_ask trivial fun _ =>
      uses_bind (clearing_modify fun _ => ⟨rfl, .inl rfl, rfl⟩) fun _ => clearing_release
  · obtain ⟨rfl, rfl⟩ := hfound
    rw [h₂.row]
    exact hrest w₃ h₂

lemma exitSequel_crash (h : Found s k row w) (hx : x.crash w) :
    Yields (exitSequel setup x) (Counted setup s x) w := by
  have hcrash : x.honoured w = false ∧ w.d.draining = false ∧ ∃ found, row = some found ∧
      (found.state = .onAir ∨ found.state = .transitioning
        ∨ x.code ≠ 0 ∧ found.state = .fallbackSlate) := by
    simpa [Exit.crash, h.row, any_eq_true, and_assoc] using hx
  obtain ⟨hpin, hdraining, found, rfl, hstate⟩ := hcrash
  refine exitSequel_unpinned h hpin fun w₁ h₁ => ?_
  have hdown : x.code ≠ 0 → Yields (downSequel setup x w.d false) (Counted setup s x) w₁ := by
    intro hcode
    have hclean : (decide (x.code = 0) || w.d.draining || false) ≠ true := by
      simp [hcode, hdraining]
    unfold downSequel
    rw [if_neg hclean]
    refine .bind (h₁.yields (clearing_modify fun _ => ⟨rfl, .inl rfl, rfl⟩)) fun _ w₂ h₂ => ?_
    refine yields_readState.bind fun again w₃ hagain => ?_
    obtain ⟨rfl, rfl⟩ := hagain
    have hfilter : Option.filter (fun s : StateRow => decide (s.state = .onAir ∨
        s.state = .fallbackSlate ∨ s.state = .transitioning)) (some found) = some found := by
      rcases hstate with hstate | hstate | ⟨_, hstate⟩ <;> simp [hstate]
    rw [h₂.row, hfilter]
    exact crashSequel_yields h₂.toStreak x
  -- exit 0 on air is a crash too; any other code goes on to `downSequel`
  by_cases hcode : x.code = 0
  · have hactive : found.state = .onAir ∨ found.state = .transitioning := by
      rcases hstate with hstate | hstate | ⟨hne, _⟩
      · exact .inl hstate
      · exact .inr hstate
      · exact absurd hcode hne
    have hfilter : Option.filter (fun s : StateRow => decide (s.state = .onAir ∨
        s.state = .transitioning)) (some found) = some found := by
      simp [hactive]
    rw [hfilter]
    dsimp only
    rw [if_pos (by simp [hcode, hdraining])]
    exact crashSequel_yields h₁.toStreak x
  · split
    · rw [if_neg (by simp [hcode])]
      exact hdown hcode
    · exact hdown hcode

lemma exitSequel_honoured (h : Found s k row w) (hx : x.honoured w) :
    Yields (exitSequel setup x) (fun sq w' => Streak s w' ∧ sq.relaunched = none) w := by
  refine (clearExited_yields h).bind fun cleared w₁ hcleared => ?_
  obtain ⟨d, queued⟩ := cleared
  obtain ⟨rfl, rfl, h₁⟩ := hcleared
  have hpin : ∃ pin, (if !(x.code ≠ 0 && !w.d.reloadKill || w.d.draining || false)
      then w.d.pendingReload else none) = some pin := by
    revert hx
    unfold Exit.honoured
    cases w.d.pendingReload <;> cases w.d.reloadKill <;> cases w.d.draining <;>
      by_cases hcode : x.code = 0 <;> simp [hcode]
  obtain ⟨pin, hpin⟩ := hpin
  dsimp only
  rw [hpin]
  refine (tame_writeState.uncounted.yields h₁.toStreak).bind fun _ w₂ h₂ => ?_
  refine (tame_self.uncounted.yields h₂).bind fun held w₃ h₃ => ?_
  refine .bind (IsUncounted.yields (uncounted_modify fun _ => ⟨rfl, rfl⟩) h₃) fun _ w₄ h₄ => ?_
  exact yields_pure ⟨h₄, rfl⟩

lemma slateSequel_yields (h : Streak s w) (found : StateRow) :
    Yields (slateSequel found true none none) (fun sq w' => Streak s w' ∧
      ∀ a, sq.relaunched = some a → a.forceFallbackSlate = true) w := by
  refine (tame_restartLatchShouldRunNow.uncounted.yields h).bind fun allowed w₁ h₁ => ?_
  cases allowed with
  | true =>
    refine (tame_writeState.uncounted.yields h₁).bind fun _ w₂ h₂ => yields_pure ⟨h₂, ?_⟩
    intro a ha
    cases ha
    rfl
  | false =>
    refine (tame_backOff.uncounted.yields h₁).bind fun _ w₂ h₂ => yields_pure ⟨h₂, ?_⟩
    intro a ha
    cases ha

lemma exitSequel_renewsSlate (hfallback : setup.fallbackProvider = true)
    (h : Found s k row w) (hpin : x.honoured w = false) (hx : x.renewsSlate w) :
    Yields (exitSequel setup x) (fun sq w' => Streak s w' ∧
      ∀ a, sq.relaunched = some a → a.forceFallbackSlate = true) w := by
  have hslate : x.code = 0 ∧ w.d.draining = false ∧ (∃ found, row = some found ∧
      found.state = .fallbackSlate) ∧ k.getD 0 < slateEosRelaunchMaxConsecutive ∧
      liveSourceFailureFallbackStreak ≤ s.getD 0 := by
    simpa [Exit.renewsSlate, h.row, h.renewals, h.streak, any_eq_true, and_assoc] using hx
  obtain ⟨hcode, hdraining, ⟨found, rfl, hstate⟩, hcap, hstreak⟩ := hslate
  refine exitSequel_unpinned h hpin fun w₁ h₁ => ?_
  have hfilter : Option.filter (fun s : StateRow => decide (s.state = .onAir ∨
      s.state = .transitioning)) (some found) = none := by
    simp [hstate]
  rw [hfilter]
  unfold downSequel
  rw [if_pos (by simp [hcode]), hdraining]
  unfold slateEosUnlessDrained slateEosSequel
  rw [if_neg (by simp)]
  refine .bind (K := fun answer w' => ∃ sq, answer = some sq ∧ Streak s w' ∧
    ∀ a, sq.relaunched = some a → a.forceFallbackSlate = true) ?_ ?_
  · refine yields_readState.bind fun again w₂ hagain => ?_
    obtain ⟨rfl, rfl⟩ := hagain
    rw [h₁.row]
    dsimp only
    rw [if_neg (by simp [hstate])]
    refine yields_hasPendingTerminalCommand.bind fun queued w₃ hqueued => ?_
    obtain ⟨rfl, rfl⟩ := hqueued
    refine yields_self.bind fun d w₄ hd => ?_
    obtain ⟨rfl, rfl⟩ := hd
    rw [if_neg (by simp [h₁.renewals, hcap]), if_pos (by simp [h₁.streak, hstreak, hfallback])]
    refine (slateSequel_yields h₁.toStreak found).bind fun sq w₅ hsq => ?_
    exact yields_pure ⟨sq, rfl, hsq⟩
  · rintro answer w₂ ⟨sq, rfl, hsq⟩
    exact yields_pure hsq

/-- A relaunch that was put off is decided by the streak it finds. -/
lemma backoffSequel_yields (h : Streak s w) : Yields (backoffSequel setup)
    (fun sq w' => Streak s w' ∧ sq.Forced setup (s.getD 0)) w := by
  have hwait : ∀ {w'}, Streak s w' → Yields (pure Sequel.wait) (fun sq w' => Streak s w' ∧
      sq.Forced setup (s.getD 0)) w' := fun h' => yields_pure ⟨h', Sequel.forced_wait⟩
  refine yields_self.bind fun d w₁ hd => ?_
  obtain ⟨rfl, rfl⟩ := hd
  cases w₁.d.backoff with
  | none => exact hwait h
  | some pin =>
    refine (tame_hasPendingTerminalCommand.uncounted.yields h).bind fun queued w₂ h₂ => ?_
    cases queued with
    | true => exact hwait h₂
    | false =>
      cases w₁.d.process with
      | some p =>
        refine .bind (IsUncounted.yields (uncounted_modify fun _ => ⟨rfl, rfl⟩) h₂) ?_
        exact fun _ w₃ h₃ => hwait h₃
      | none =>
        refine (tame_restartLatchShouldRunNow.uncounted.yields h₂).bind fun now w₃ h₃ => ?_
        cases now with
        | false => exact hwait h₃
        | true =>
          refine .bind
            (IsUncounted.yields (uncounted_modify fun _ => ⟨rfl, rfl⟩) h₃) fun _ w₄ h₄ => ?_
          refine (tame_readState.uncounted.yields h₄).bind fun state w₅ h₅ => ?_
          exact beginSequel_yields h₅

lemma uncounted_backoffSequel : IsUncounted (backoffSequel setup) := by
  refine uses_bind tame_self.uncounted fun d => ?_
  cases d.backoff with
  | none => exact uses_pure
  | some pin =>
    refine uses_bind tame_hasPendingTerminalCommand.uncounted fun queued =>
      uses_ite uses_pure ?_
    refine uses_ite (uses_bind (uncounted_modify fun _ => ⟨rfl, rfl⟩) fun _ => uses_pure) ?_
    refine uses_bind tame_restartLatchShouldRunNow.uncounted fun now => uses_ite ?_ uses_pure
    exact uses_bind (uncounted_modify fun _ => ⟨rfl, rfl⟩) fun _ =>
      uses_bind tame_readState.uncounted fun _ => uncounted_beginSequel

/-! ## Polls that see no exit -/

lemma IsUncounted.keepsStreak {α : Type} {p : DaemonM α} (hp : IsUncounted p) :
    p.Keeps unaired (Streak s) fun _ => True :=
  hp.keeps (fun _ _ => trivial) rfl s

lemma workerAlive_keeps (p : Proc) : (workerAlive p).Keeps unaired (Streak s) fun _ => True := by
  have hconfirm : ∀ d, (confirmOnAir d).Keeps unaired (Streak s) fun _ => True := by
    intro d
    refine .ite ?_ keeps_pure
    intro w hw
    refine ⟨trivial, fun evidence hevidence => ?_⟩
    have hnone : evidence = false := by simpa [isUnaired] using hevidence.2
    subst hnone
    exact keeps_pure _ hw
  have hforget : ∀ current, (forgetRestarts current).Keeps unaired (Streak s) fun _ => True := by
    intro current w hw
    refine ⟨trivial, fun d hd => ?_⟩
    have hlegal : d = w.d := by
      simpa [unaired, Machine.promising, machine, legal, Promises.allows] using hd.1
    subst hlegal
    dsimp only [Prog.bind]
    rw [hw.unconfirmed]
    exact keeps_pure w hw
  refine tame_readState.uncounted.keepsStreak.bind fun state => ?_
  refine tame_assist.uncounted.keepsStreak.bind fun _ =>
    tame_self.uncounted.keepsStreak.bind fun d => ?_
  refine tame_assist.uncounted.keepsStreak.bind fun _ => ?_
  refine tame_writeState.uncounted.keepsStreak.bind fun _ => ?_
  exact tame_assist.uncounted.keepsStreak.bind fun _ => (hconfirm d).bind fun _ => hforget _

lemma observeExit_keeps : observeExit.Keeps unaired (Streak s) fun _ => True := by
  refine tame_self.uncounted.keepsStreak.bind fun d => ?_
  cases d.process with
  | none => exact keeps_pure
  | some p =>
    refine tame_processPoll.uncounted.keepsStreak.bind fun code => ?_
    refine (uncounted_call (o := .rounds) trivial).keepsStreak.bind fun n => ?_
    refine (tame_pollSourceOutput p n).uncounted.keepsStreak.bind fun _ => ?_
    cases code with
    | none => exact (workerAlive_keeps p).bind fun _ => keeps_pure
    | some code =>
      refine tame_self.uncounted.keepsStreak.bind fun before => ?_
      refine .bind (IsUncounted.keepsStreak ?_) fun _ => keeps_pure
      cases before.startedAt with
      | none => exact uses_pure
      | some t => exact uses_ask trivial fun _ => uses_pure

end Handling

/-! ## Before the first counted exit

Nothing is asked of the streak then, but no exit may confirm a worker on air. -/

section Unconfirmed

def Unconfirming : Op → Prop
  | .modify f => ∀ d, (f d).onAirConfirmedAt = d.onAirConfirmedAt ∨ (f d).onAirConfirmedAt = none
  | _ => True

abbrev IsUnconfirming {α : Type} (p : DaemonM α) : Prop := p.Uses Unconfirming fun _ => True

variable {α : Type} {setup} {w : World} {p : DaemonM α}

lemma IsUncounted.unconfirming (hp : IsUncounted p) : IsUnconfirming p := by
  refine Uses.mono (fun o ho => ?_) (fun _ _ => trivial) hp
  cases o with
  | modify f => exact fun d => (ho d).2
  | _ => trivial

lemma unconfirming_modify {f : Attrs → Attrs}
    (h : ∀ d, (f d).onAirConfirmedAt = d.onAirConfirmedAt) : IsUnconfirming (modify f) :=
  ⟨fun d => .inl (h d), fun _ => trivial⟩

lemma next_unconfirmed (h : w.d.onAirConfirmedAt = none) {o : Op} (ho : Unconfirming o)
    (x : Ans o) : (next w o x).d.onAirConfirmedAt = none := by
  by_cases hmodify : ∃ f, o = .modify f
  · obtain ⟨f, rfl⟩ := hmodify
    rcases ho w.d with hsame | hnone
    · exact hsame.trans h
    · exact hnone
  · have hother : ∀ f, o ≠ .modify f := fun f hf => hmodify ⟨f, hf⟩
    exact (next_attr hother w x fun _ _ _ _ => rfl).trans h

lemma IsUnconfirming.post (hp : IsUnconfirming p) {r : Except Fault α}
    {w' : World} (h : w.d.onAirConfirmedAt = none) (hrun : Exec unaired p w r w') :
    w'.d.onAirConfirmedAt = none := by
  have hkeeps : p.Keeps unaired (fun w => w.d.onAirConfirmedAt = none) fun _ => True :=
    hp.keeps (fun _ _ _ _ => trivial) fun _ _ x ho hw _ => next_unconfirmed hw ho x
  exact (hrun.post (hkeeps w h)).1

lemma unconfirming_crashSequel {found : StateRow} (x : Exit) :
    IsUnconfirming (crashSequel setup found x) := by
  refine uses_bind (uncounted_call (o := .monotonic) trivial).unconfirming fun now => ?_
  refine uses_bind tame_self.uncounted.unconfirming fun d => ?_
  refine uses_bind (unconfirming_modify fun _ => rfl) fun _ => ?_
  refine uses_bind tame_proveCrash.uncounted.unconfirming fun event => ?_
  refine uses_bind tame_restartLatchShouldRunNow.uncounted.unconfirming fun allowed =>
    uses_ite ?_ ?_
  · exact uncounted_beginSequel.unconfirming
  · exact uses_bind tame_backOff.uncounted.unconfirming fun _ => uses_pure

lemma unconfirming_slateEosSequel : IsUnconfirming (slateEosSequel setup) := by
  have hslate : ∀ row force plan startedAt,
      IsUnconfirming (slateSequel row force plan startedAt) := by
    intro row force plan startedAt
    refine uses_bind tame_restartLatchShouldRunNow.uncounted.unconfirming fun now => uses_ite ?_ ?_
    · exact uses_bind tame_writeState.uncounted.unconfirming fun _ => uses_pure
    · exact uses_bind tame_backOff.uncounted.unconfirming fun _ => uses_pure
  refine uses_bind tame_readState.uncounted.unconfirming fun state => ?_
  cases state with
  | none => exact uses_pure
  | some row =>
    refine uses_ite uses_pure ?_
    refine uses_bind tame_hasPendingTerminalCommand.uncounted.unconfirming fun queued => ?_
    refine uses_bind tame_self.uncounted.unconfirming fun d =>
      uses_ite uses_pure (uses_ite ?_ ?_)
    · exact uses_bind (hslate _ _ _ _) fun _ => uses_pure
    · refine uses_bind (uncounted_call (o := .monotonic) trivial).unconfirming fun now => ?_
      refine uses_bind (uses_catchSourcePrepare
        (resolving_nextSourcePlan setup).tame.uncounted.unconfirming) fun plan => ?_
      match plan with
      | none | some none => exact uses_pure
      | some (some plan) =>
        refine uses_ite uses_pure (uses_bind (unconfirming_modify fun _ => rfl) fun _ => ?_)
        exact uses_bind (hslate _ _ _ _) fun _ => uses_pure

lemma unconfirming_downSequel (x : Exit) (d : Attrs) {queued : Bool} :
    IsUnconfirming (downSequel setup x d queued) := by
  have hdown : ∀ state, IsUnconfirming (settleDown state) := fun state =>
    uses_bind (unconfirming_modify fun _ => rfl) fun _ =>
      uses_bind tame_assist.uncounted.unconfirming fun _ =>
        uses_bind tame_writeState.uncounted.unconfirming fun _ =>
          uses_bind tame_assist.uncounted.unconfirming fun _ => unconfirming_modify fun _ => rfl
  refine uses_ite (uses_bind (uses_ite uses_pure unconfirming_slateEosSequel) ?_) ?_
  · intro found
    cases found with
    | none => exact uses_bind (hdown _) fun _ => uses_pure
    | some sq => exact uses_pure
  · refine uses_bind (unconfirming_modify fun _ => rfl) fun _ => ?_
    refine uses_bind tame_readState.uncounted.unconfirming fun state => ?_
    split
    · exact unconfirming_crashSequel x
    · exact uses_bind (hdown _) fun _ => uses_pure

lemma unconfirming_exitSequel (x : Exit) : IsUnconfirming (exitSequel setup x) := by
  have hclear : IsUncounted clearExited := by
    refine uses_bind tame_self.uncounted fun d => ?_
    refine uses_bind (uncounted_unconfirm fun _ => ⟨rfl, rfl⟩) fun _ => ?_
    refine uses_bind tame_hasPendingTerminalCommand.uncounted fun queued => ?_
    refine uses_bind tame_readState.uncounted fun _ => ?_
    refine uses_bind (uncounted_modify fun _ => ⟨rfl, rfl⟩) fun _ => ?_
    exact uses_ask trivial fun _ =>
      uses_bind tidy_discardActivePreparedPlanDir.uncounted fun _ => uses_pure
  refine uses_bind hclear.unconfirming fun cleared => ?_
  obtain ⟨d, queued⟩ := cleared
  dsimp only
  split
  · refine uses_bind tame_writeState.uncounted.unconfirming fun _ => ?_
    refine uses_bind tame_self.uncounted.unconfirming fun held => ?_
    exact uses_bind (unconfirming_modify fun _ => rfl) fun _ => uses_pure
  · refine uses_bind tidy_discardPreparedRestartPlan.uncounted.unconfirming fun _ => ?_
    refine uses_bind tame_readState.uncounted.unconfirming fun state => ?_
    split
    · exact uses_ite (unconfirming_crashSequel x) (unconfirming_downSequel x d)
    · exact unconfirming_downSequel x d

end Unconfirmed

/-! ## The tally -/

section Tally

variable {setup} {n : ℕ} {w : World} {sq : Sequel}

/-- The streak has kept up with the counted exits, as far as the limit. -/
structure Tallied (n : ℕ) (w : World) : Prop where
  streak : min n liveSourceFailureFallbackStreak ≤ w.d.restartStreak.getD 0
  unconfirmed : w.d.onAirConfirmedAt = none

lemma Tallied.found (h : Tallied n w) : Found w.d.restartStreak w.d.slateEosRelaunches w.row w :=
  ⟨⟨rfl, h.unconfirmed⟩, rfl, rfl⟩

lemma Streak.tallied {s : Option ℕ} (h : Streak s w)
    (hs : min n liveSourceFailureFallbackStreak ≤ s.getD 0) : Tallied n w :=
  ⟨by rw [h.streak]; exact hs, h.unconfirmed⟩

/-- From the limit on, a relaunch is forced onto the slate. -/
def Sequel.Escalated (n : ℕ) (sq : Sequel) : Prop :=
  liveSourceFailureFallbackStreak ≤ n → ∀ a, sq.relaunched = some a → a.forceFallbackSlate = true

lemma Sequel.Forced.escalated {streak : ℕ} (h : sq.Forced setup streak)
    (hfallback : setup.fallbackProvider = true)
    (hs : min n liveSourceFailureFallbackStreak ≤ streak) : sq.Escalated n := by
  intro hn a ha
  have hlimit : liveSourceFailureFallbackStreak ≤ streak := by
    rwa [min_eq_right hn] at hs
  rw [h a ha, hfallback, decide_eq_true hlimit]
  rfl

lemma exitSequel_tallied {x : Exit} (hfallback : setup.fallbackProvider = true) (h : Tallied n w)
    (hok : Escalates w n x) {w' : World} (hrun : Exec unaired (exitSequel setup x) w (.ok sq) w') :
    Tallied (n + x.counts.toNat) w' ∧ sq.Escalated (n + x.counts.toNat) := by
  obtain ⟨hcounts, hlater⟩ := hok
  -- a crash adds one to a streak that is up to date
  have hcrash : x.crash w → (0 < n → ¬ x.long) →
      Tallied (n + x.counts.toNat) w' ∧ sq.Escalated (n + x.counts.toNat) := by
    intro hcrash hlong
    obtain ⟨streak, hstreak, hge, hforced⟩ := (exitSequel_crash h.found hcrash).post hrun
    have hmin : min (n + x.counts.toNat) liveSourceFailureFallbackStreak ≤ streak := by
      have htally := h.streak
      rcases Nat.eq_zero_or_pos n with rfl | hpos
      · omega
      · rw [if_neg (hlong hpos)] at hge
        omega
    exact ⟨hstreak.tallied hmin, hforced.escalated hfallback hmin⟩
  have huncounted : ¬ x.counts → n + x.counts.toNat = n := by
    intro hnot
    simp [hnot]
  rcases Nat.eq_zero_or_pos n with rfl | hpos
  · -- nothing counted so far
    by_cases hx : x.counts
    · exact hcrash (hcounts hx) fun hpos => absurd hpos (lt_irrefl 0)
    · rw [huncounted hx]
      constructor
      · exact ⟨by simp, (unconfirming_exitSequel x).post h.unconfirmed hrun⟩
      · intro hn
        exact absurd hn (by decide)
  · have hstays : x.honoured w → Tallied (n + x.counts.toNat) w' ∧
        sq.Escalated (n + x.counts.toNat) := by
      intro hpin
      have hx : ¬ x.counts := by
        intro hx
        have := hcounts hx
        simp [Exit.crash, hpin] at this
      obtain ⟨hstreak, hnone⟩ := (exitSequel_honoured h.found hpin).post hrun
      rw [huncounted hx]
      exact ⟨hstreak.tallied h.streak, fun _ a ha => absurd (hnone.symm.trans ha) (by simp)⟩
    -- a crash, the exit of a pinned reload, or a slate that is renewed
    rcases hlater hpos with ⟨hx, hlong⟩ | hpin | hslate
    · exact hcrash hx fun _ => hlong
    · exact hstays hpin
    · by_cases hpin : x.honoured w
      · exact hstays hpin
      · have hx : ¬ x.counts := by
          simp only [Exit.renewsSlate, Bool.and_eq_true, decide_eq_true_eq] at hslate
          simp [Exit.counts, hslate.1.1.1.1]
        obtain ⟨hstreak, hforced⟩ :=
          (exitSequel_renewsSlate hfallback h.found (by simpa using hpin) hslate).post hrun
        rw [huncounted hx]
        exact ⟨hstreak.tallied h.streak, fun _ => hforced⟩

lemma Tallied.keeps {α : Type} {p : DaemonM α} {r : Except Fault α} {w' : World}
    (h : Tallied n w) (hp : ∀ s, p.Keeps unaired (Streak s) fun _ => True)
    (hrun : Exec unaired p w r w') : Tallied n w' := by
  have hstreak : Streak w.d.restartStreak w' :=
    (hrun.post (hp w.d.restartStreak w ⟨rfl, h.unconfirmed⟩)).1
  exact hstreak.tallied h.streak

variable {w₀ : World} {relaunches : List (ℕ × StartArgs)}

/-- Every relaunch of the run is forced onto the slate from the limit on. -/
def AllEscalated (relaunches : List (ℕ × StartArgs)) : Prop :=
  ∀ k a, (k, a) ∈ relaunches → liveSourceFailureFallbackStreak ≤ k → a.forceFallbackSlate = true

lemma AllEscalated.append (h : AllEscalated relaunches) (hsq : sq.Escalated n) :
    AllEscalated (relaunches ++ sq.relaunched.toList.map fun a => (n, a)) := by
  intro k a hmem hk
  rcases List.mem_append.mp hmem with hmem | hmem
  · exact h k a hmem hk
  · obtain ⟨a', ha', heq⟩ := List.mem_map.mp hmem
    cases heq
    exact hsq hk a (by simpa using ha')

lemma Ran.tallied (hfallback : setup.fallbackProvider = true) (h₀ : w₀.d.onAirConfirmedAt = none)
    (h : Ran setup Escalates w₀ w n relaunches) : Tallied n w ∧ AllEscalated relaunches := by
  induction h with
  | start => exact ⟨⟨by simp, h₀⟩, fun _ _ hmem => by simp at hmem⟩
  | quiet _ he hstep ih =>
    obtain ⟨r, hrun⟩ := hstep
    exact ⟨ih.1.keeps (fun _ => (he.uncounted setup).keepsStreak) hrun, ih.2⟩
  | polled _ hpoll _ ih => exact ⟨ih.1.keeps (fun _ => observeExit_keeps) hpoll, ih.2⟩
  | exited _ hpoll hok hsequel hstart ih =>
    have hseen := ih.1.keeps (fun _ => observeExit_keeps) hpoll
    obtain ⟨htally, hsq⟩ := exitSequel_tallied hfallback hseen hok hsequel
    exact ⟨htally.keeps (fun _ => uncounted_carryOut.keepsStreak) hstart, ih.2.append hsq⟩
  | backoff _ hsequel hstart ih =>
    obtain ⟨hstreak, hforced⟩ := (backoffSequel_yields ih.1.found.toStreak).post hsequel
    have htally := hstreak.tallied ih.1.streak
    have hsq := hforced.escalated hfallback ih.1.streak
    exact ⟨htally.keeps (fun _ => uncounted_carryOut.keepsStreak) hstart, ih.2.append hsq⟩
  | backoffRaised _ hraised ih =>
    exact ⟨ih.1.keeps (fun _ => uncounted_backoffSequel.keepsStreak) hraised, ih.2⟩

end Tally

/-! ## Playing a run of exits -/

section Play

variable (ok : World → ℕ → Exit → Prop) [∀ w n x, Decidable (ok w n x)]

/-- The environment as a strategy, where nothing airs and nothing is commanded. -/
def Env.unairedStrategy (v : Env) (w : World) (o : Op) :
    Option {x : Ans o // unaired.legal w o x} :=
  match v.strategy {} w o with
  | none => none
  | some x => if h : isUnaired o x.1 = true then some ⟨x.1, x.2, h⟩ else none

/-- One exit in an environment, with the count and the relaunches so far. -/
def playExit (v : Env) (w : World) (n : ℕ) (relaunches : List (ℕ × StartArgs)) :
    Option (World × ℕ × List (ℕ × StartArgs)) :=
  match observeExit.play unaired v.unairedStrategy w with
  | some (.ok (some x), w₁) =>
    if ok w₁ n x then
      match (exitSequel setup x).play unaired v.unairedStrategy w₁ with
      | some (.ok s, w₂) =>
        match (carryOut setup s).play unaired v.unairedStrategy w₂ with
        | some (_, w') => some (w', n + x.counts.toNat,
            relaunches ++ s.relaunched.toList.map fun a => (n + x.counts.toNat, a))
        | none => none
      | _ => none
    else none
  | _ => none

def playExits : List Env → World → ℕ → List (ℕ × StartArgs) →
    Option (World × ℕ × List (ℕ × StartArgs))
  | [], w, n, relaunches => some (w, n, relaunches)
  | v :: rest, w, n, relaunches =>
    match playExit setup ok v w n relaunches with
    | some (w', n', relaunches') => playExits rest w' n' relaunches'
    | none => none

variable {setup ok} {w₀ w w' : World} {n n' : ℕ} {relaunches relaunches' : List (ℕ × StartArgs)}

lemma Ran.playExit {v : Env} (h : Ran setup ok w₀ w n relaunches)
    (hplay : playExit setup ok v w n relaunches = some (w', n', relaunches')) :
    Ran setup ok w₀ w' n' relaunches' := by
  unfold Daemon.playExit at hplay
  split at hplay
  · rename_i x w₁ hpoll
    split at hplay
    · rename_i hok
      split at hplay
      · rename_i s w₂ hsequel
        split at hplay
        · rename_i r w₃ hstart
          cases hplay
          exact .exited h (exec_of_play hpoll) hok (exec_of_play hsequel) (exec_of_play hstart)
        · cases hplay
      · cases hplay
    · cases hplay
  · cases hplay

lemma Ran.playExits {vs : List Env} (h : Ran setup ok w₀ w n relaunches)
    (hplay : playExits setup ok vs w n relaunches = some (w', n', relaunches')) :
    Ran setup ok w₀ w' n' relaunches' := by
  induction vs generalizing w n relaunches with
  | nil =>
    cases hplay
    exact h
  | cons v rest ih =>
    unfold Daemon.playExits at hplay
    split at hplay
    · rename_i w₁ n₁ relaunches₁ hexit
      exact ih (h.playExit hexit) hplay
    · cases hplay

end Play

namespace Gov

def slated : Setup := { plain with fallbackProvider := true }

/-- At time `t` the worker is gone, with exit code 1. -/
def failsAt (t : ℚ) : Env :=
  { scheduled with
    monotonic := t
    move := .exits
    exitCode := 1
    fallbackPlan := .ok ⟨"gov", [⟨60, .slate, some "civiccast-slate", none, none, "Slate", none,
      none, none⟩]⟩ }

/-- The channel has just been started. -/
def started : World := play slated boot [(.command operatorStart, scheduled)]

end Gov

/-! ## The result -/

/-- With a fallback provider and no evidence of air, every relaunch after the limit's number of
non-zero exits is forced onto the slate, in every run whose exits `Escalates` allows. -/
theorem never_aired_ends_on_slate {setup : Setup} {w₀ w : World} {n : ℕ}
    {relaunches : List (ℕ × StartArgs)} (hfallback : setup.fallbackProvider = true)
    (h₀ : w₀.d.onAirConfirmedAt = none) (h : Ran setup Escalates w₀ w n relaunches) :
    ∀ k a, (k, a) ∈ relaunches → liveSourceFailureFallbackStreak ≤ k →
      a.forceFallbackSlate = true :=
  (h.tallied hfallback h₀).2

/-- Failures twenty seconds apart: the fifth one's relaunch airs the slate. -/
theorem quick_failures_end_on_slate : ∃ w n relaunches a,
    Ran Gov.slated Escalates Gov.started w n relaunches ∧
      (liveSourceFailureFallbackStreak, a) ∈ relaunches ∧ a.forceFallbackSlate = true := by
  have hplay : (playExits Gov.slated Escalates ([20, 40, 60, 80, 100].map Gov.failsAt) Gov.started
      0 []).any (fun r => r.2.2.any fun e => decide (e.1 = liveSourceFailureFallbackStreak)) =
      true := by
    decide +kernel
  obtain ⟨⟨w, n, relaunches⟩, hexits, hany⟩ := (any_eq_true _ _).mp hplay
  obtain ⟨⟨k, a⟩, hmem, hk⟩ := List.any_eq_true.mp hany
  have hk : k = liveSourceFailureFallbackStreak := of_decide_eq_true hk
  subst hk
  have hran := Ran.playExits .start hexits
  exact ⟨w, n, relaunches, a, hran, hmem,
    never_aired_ends_on_slate rfl (by decide +kernel) hran _ a hmem le_rfl⟩

/-- Failures a hundred seconds apart: no worker is ever seen on air, and the fifth relaunch still
trusts the source. -/
theorem slow_failures_never_end_on_slate : ¬ ∀ (setup : Setup) (w₀ w : World) (n : ℕ)
    (relaunches : List (ℕ × StartArgs)), setup.fallbackProvider = true →
      w₀.d.onAirConfirmedAt = none → Ran setup (fun _ _ _ => True) w₀ w n relaunches →
      ∀ k a, (k, a) ∈ relaunches → liveSourceFailureFallbackStreak ≤ k →
        a.forceFallbackSlate = true := by
  intro hall
  have hplay : (playExits Gov.slated (fun _ _ _ => True) ([100, 200, 300, 400, 500].map Gov.failsAt)
      Gov.started 0 []).any (fun r => r.2.2.any fun e =>
        decide (e.1 = liveSourceFailureFallbackStreak) && !e.2.forceFallbackSlate) = true := by
    decide +kernel
  obtain ⟨⟨w, n, relaunches⟩, hexits, hany⟩ := (any_eq_true _ _).mp hplay
  obtain ⟨⟨k, a⟩, hmem, hunforced⟩ := List.any_eq_true.mp hany
  simp only [Bool.and_eq_true, decide_eq_true_eq, Bool.not_eq_true'] at hunforced
  have hforced := hall Gov.slated Gov.started w n relaunches rfl (by decide +kernel)
    (Ran.playExits .start hexits) k a hmem hunforced.1.ge
  rw [hunforced.2] at hforced
  cases hforced

end Daemon

end CivicCast.Egress
