import CivicCast.Egress.DaemonRuns

/-! # Rules for the daemon's programs

One equation per operation and per small part of the code: what a program that starts with
it needs of the world. They form the simp set the results about single polls are computed
with. Whatever the run is promised (`Promises`) stands in the rule of the operation it is
about.
-/

namespace CivicCast.Egress

namespace Daemon

open Lib Lib.Prog Playout Prog Option

/-- Every run of `p` ends in `J` again, whatever it raises. -/
abbrev Preserves {α : Type} (q : Promises) (J : World → Prop) (p : DaemonM α) : Prop :=
  p.Keeps (machine q) J fun _ => True

/-- From `w` every run of `p` comes to `J`, whatever it raises. -/
abbrev ComesTo {α : Type} (q : Promises) (J : World → Prop) (w : World) (p : DaemonM α) : Prop :=
  p.wp (machine q) (fun _ => J) w

lemma ComesTo.seq {α β : Type} {q : Promises} {J : World → Prop} {w : World} {p : DaemonM α}
    {f : α → DaemonM β} (hp : ComesTo q J w p) (hf : ∀ a w', J w' → ComesTo q J w' (f a)) :
    ComesTo q J w (p >>= f) :=
  wp_seq hp hf fun _ _ h => h

namespace World

variable (w : World)

@[simp] lemma setD_setD (d d' : Attrs) : (w.setD d).setD d' = w.setD d' := rfl

@[simp] lemma releaseOpt_d (dir : Option Dir) : (w.releaseOpt dir).d = w.d := by
  cases dir <;> rfl

@[simp] lemma releaseOpt_starts (dir : Option Dir) : (w.releaseOpt dir).starts = w.starts := by
  cases dir <;> rfl

@[simp] lemma releaseOpt_row (dir : Option Dir) : (w.releaseOpt dir).row = w.row := by
  cases dir <;> rfl

@[simp] lemma releaseOpt_worker (dir : Option Dir) : (w.releaseOpt dir).worker = w.worker := by
  cases dir <;> rfl

@[simp] lemma releaseOpt_applied (dir : Option Dir) : (w.releaseOpt dir).applied = w.applied := by
  cases dir <;> rfl

@[simp] lemma releaseOpt_reissues (dir : Option Dir) :
    (w.releaseOpt dir).reissues = w.reissues := by
  cases dir <;> rfl

@[simp] lemma releaseOpt_offLive (dir : Option Dir) : (w.releaseOpt dir).offLive = w.offLive := by
  cases dir <;> rfl

@[simp] lemma move_d (m : WorkerMove) : (w.move m).d = w.d := by
  unfold move
  split
  · rfl
  · split <;> rfl

@[simp] lemma move_starts (m : WorkerMove) : (w.move m).starts = w.starts := by
  unfold move
  split
  · rfl
  · split <;> rfl

@[simp] lemma move_row (m : WorkerMove) : (w.move m).row = w.row := by
  unfold move
  split
  · rfl
  · split <;> rfl

@[simp] lemma move_applied (m : WorkerMove) : (w.move m).applied = w.applied := by
  unfold move
  split
  · rfl
  · split <;> rfl

@[simp] lemma move_reissues (m : WorkerMove) : (w.move m).reissues = w.reissues := by
  unfold move
  split
  · rfl
  · split <;> rfl

@[simp] lemma move_terminated (m : WorkerMove) : (w.move m).terminated = w.terminated := by
  unfold move
  split
  · rfl
  · split <;> rfl

@[simp] lemma move_offLive (m : WorkerMove) : (w.move m).offLive = w.offLive := by
  unfold move
  split
  · rfl
  · split <;> rfl

lemma runs_move {w : World} {m : WorkerMove} (hm : m ≠ .exits) (p : Proc) :
    (w.move m).runs p = w.runs p := by
  unfold move
  split
  · rfl
  · rename_i k hk
    split
    · simp [runs, hk]
    · simp [runs, hk]
    · exact absurd rfl hm
    · rfl

@[simp] lemma cancelPreparation_d : w.cancelPreparation.d = { w.d with preparation := none } := by
  unfold cancelPreparation
  split
  · rename_i hnone
    rw [← hnone]
  · simp

@[simp] lemma cancelPreparation_idem :
    w.cancelPreparation.cancelPreparation = w.cancelPreparation := by
  rw [cancelPreparation.eq_def w.cancelPreparation]
  simp

@[simp] lemma cancelPreparation_starts : w.cancelPreparation.starts = w.starts := by
  unfold cancelPreparation
  split <;> simp

@[simp] lemma cancelPreparation_applied : w.cancelPreparation.applied = w.applied := by
  unfold cancelPreparation
  split <;> simp

@[simp] lemma cancelPreparation_reissues : w.cancelPreparation.reissues = w.reissues := by
  unfold cancelPreparation
  split <;> simp

@[simp] lemma cancelPreparation_offLive : w.cancelPreparation.offLive = w.offLive := by
  unfold cancelPreparation
  split <;> simp

@[simp] lemma dropSettle_d :
    w.dropSettle.d = { w.d with
      settle := none
      discardedReloadId := (w.d.settle.map (·.reloadId)).or w.d.discardedReloadId } := by
  unfold dropSettle
  split
  · rename_i hnone
    simp only [hnone, map_none, none_or]
    rw [← hnone]
  · rename_i pending hsome
    simp [hsome]

@[simp] lemma dropSettle_starts : w.dropSettle.starts = w.starts := by
  unfold dropSettle
  split <;> simp

@[simp] lemma dropSettle_applied : w.dropSettle.applied = w.applied := by
  unfold dropSettle
  split <;> simp

@[simp] lemma dropSettle_offLive : w.dropSettle.offLive = w.offLive := by
  unfold dropSettle
  split <;> simp

@[simp] lemma dropSettle_reissues : w.dropSettle.reissues = w.reissues := by
  unfold dropSettle
  split <;> simp

end World

section Wp

variable {α β : Type} {q : Promises} {Q : Except Fault β → World → Prop} {w : World}

attribute [simp] Prog.wp_bind

@[simp] lemma wp_pure (a : β) : (pure a : DaemonM β).wp (machine q) Q w ↔ Q (.ok a) w := .rfl

@[simp] lemma wp_raise (e : Fault) :
    (Prog.raise e : DaemonM β).wp (machine q) Q w ↔ Q (.error e) w := .rfl

@[simp] lemma bindPost_ok (f : α → DaemonM β) (a : α) :
    bindPost (machine q) f Q (.ok a) w ↔ (f a).wp (machine q) Q w := .rfl

@[simp] lemma bindPost_error (f : α → DaemonM β) (e : Fault) :
    bindPost (machine q) f Q (.error e) w ↔ Q (.error e) w := .rfl

@[simp] lemma wp_if {c : Prop} [Decidable c] {p p' : DaemonM β} :
    (if c then p else p').wp (machine q) Q w ↔
      (c → p.wp (machine q) Q w) ∧ (¬ c → p'.wp (machine q) Q w) := by
  by_cases hc : c <;> simp [hc]

@[simp] lemma wp_orRaise (r : Except Fault β) : (orRaise r).wp (machine q) Q w ↔ Q r w := by
  cases r <;> rfl

/-- The type of an answer is computed from the operation, so it is kept out of the index. -/
lemma wp_call (o : Op) (Q : Except Fault (Ans o) → World → Prop) :
    @wp _ _ (no_index _) _ (machine q) (call o) Q w ↔
      ∀ x, legal w o x = true → q.allows w o x = true → Q (.ok x) (next w o x) := by
  constructor
  · intro h x hx hq
    exact h.2 x (by simp [machine, hx, hq])
  · intro h
    constructor
    · trivial
    · intro x hx
      have hboth : legal w o x = true ∧ q.allows w o x = true := by
        simpa [machine] using hx
      exact h x hboth.1 hboth.2

@[simp] lemma wp_self (Q : Except Fault Attrs → World → Prop) :
    self.wp (machine q) Q w ↔ Q (.ok w.d) w := by
  simp [self, wp_call, legal, next, Promises.allows]

/-! Operations without an answer. -/

section Silent

variable {R : Except Fault Unit → World → Prop}

@[simp] lemma wp_modify (g : Attrs → Attrs) :
    (modify g).wp (machine q) R w ↔ R (.ok ()) (w.setD (g w.d)) :=
  ⟨fun h => h.2 () rfl, fun h => ⟨trivial, fun _ _ => h⟩⟩

@[simp] lemma wp_release (dir : Dir) :
    @wp _ _ (no_index _) _ (machine q) (call (.release dir)) R w ↔ R (.ok ()) (w.release dir) :=
  ⟨fun h => h.2 () rfl, fun h => ⟨trivial, fun _ _ => h⟩⟩

@[simp] lemma wp_dropSettle (reason : DropReason) :
    @wp _ _ (no_index _) _ (machine q) (call (.dropSettle reason)) R w ↔
      (q.allows w (.dropSettle reason) () = true → R (.ok ()) w.dropSettle) :=
  ⟨fun h hq => h.2 () hq, fun h => ⟨trivial, fun _ hq => h hq⟩⟩

@[simp] lemma wp_cancelPreparation :
    @wp _ _ (no_index _) _ (machine q) (call .cancelPreparation) R w ↔
      R (.ok ()) w.cancelPreparation :=
  ⟨fun h => h.2 () rfl, fun h => ⟨trivial, fun _ _ => h⟩⟩

@[simp] lemma wp_terminate (p : Proc) :
    @wp _ _ (no_index _) _ (machine q) (call (.terminate p)) R w ↔
      R (.ok ()) { w with terminated := p :: w.terminated } :=
  ⟨fun h => h.2 () rfl, fun h => ⟨trivial, fun _ _ => h⟩⟩

@[simp] lemma wp_mark (m : Mark) :
    @wp _ _ (no_index _) _ (machine q) (call (.mark m)) R w ↔
      (q.allows w (.mark m) () = true → R (.ok ()) (w.marked m)) :=
  ⟨fun h hq => h.2 () hq, fun h => ⟨trivial, fun _ hq => h hq⟩⟩

@[simp] lemma wp_configure (config : Option Config) :
    @wp _ _ (no_index _) _ (machine q) (call (.configure config)) R w ↔
      R (.ok ()) { w with config := config } :=
  ⟨fun h => h.2 () rfl, fun h => ⟨trivial, fun _ _ => h⟩⟩

@[simp] lemma wp_releasePreparedPlanDir (dir : Option Dir) :
    (releasePreparedPlanDir dir).wp (machine q) R w ↔ R (.ok ()) (w.releaseOpt dir) := by
  cases dir with
  | none => exact .rfl
  | some dir => exact wp_release dir

end Silent

/-! The store. -/

lemma forall_answer {γ : Type} {legal allows : Except Fault γ → Bool} {R : Except Fault γ → Prop}
    {v : γ} (hv : legal (.ok v) = true) (hallows : allows (.ok v) = true)
    (hok : ∀ a, legal (.ok a) = true → a = v) (herr : ∀ e, legal (.error e) = true)
    (hfails : ∀ e, allows (.error e) = !q.storeWorks) :
    (∀ x, legal x = true → allows x = true → R x) ↔
      R (.ok v) ∧ (q.storeWorks = false → ∀ e, R (.error e)) := by
  constructor
  · intro h
    constructor
    · exact h (.ok v) hv hallows
    · intro hq e
      exact h (.error e) (herr e) (by rw [hfails, hq]; rfl)
  · intro h x hlegal hx
    cases x with
    | ok a => exact hok a hlegal ▸ h.1
    | error e => exact h.2 (by simpa [hfails] using hx) e

@[simp] lemma wp_assist (R : Except Fault Unit → World → Prop) :
    assist.wp (machine q) R w ↔
      R (.ok ()) w ∧ (q.storeWorks = false → ∀ e, R (.error e) w) := by
  simp only [assist, wp_bind, wp_call, bindPost_ok, wp_orRaise]
  exact forall_answer rfl rfl (fun _ _ => rfl) (fun _ => rfl) fun _ => rfl

@[simp] lemma wp_readState (R : Except Fault (Option StateRow) → World → Prop) :
    readState.wp (machine q) R w ↔
      R (.ok w.row) w ∧ (q.storeWorks = false → ∀ e, R (.error e) w) := by
  simp only [readState, wp_bind, wp_call, bindPost_ok, wp_orRaise]
  exact forall_answer (decide_eq_true rfl) rfl (fun _ => of_decide_eq_true) (fun _ => rfl)
    fun _ => rfl

@[simp] lemma wp_getConfig (R : Except Fault (Option Config) → World → Prop) :
    getConfig.wp (machine q) R w ↔
      R (.ok w.config) w ∧ (q.storeWorks = false → ∀ e, R (.error e) w) := by
  simp only [getConfig, wp_bind, wp_call, bindPost_ok, wp_orRaise]
  exact forall_answer (decide_eq_true rfl) rfl (fun _ => of_decide_eq_true) (fun _ => rfl)
    fun _ => rfl

@[simp] lemma wp_writeState (state : EgressState) (proofEventId : Option ℕ)
    (pid : Option Proc) (R : Except Fault Unit → World → Prop) :
    (writeState state proofEventId pid).wp (machine q) R w ↔
      R (.ok ()) { w with row := some ⟨state, proofEventId, pid⟩ } ∧
        (q.storeWorks = false → ∀ e, R (.error e) w) := by
  simp only [writeState, wp_bind, wp_call, bindPost_ok, wp_orRaise]
  exact forall_answer rfl rfl (fun _ _ => rfl) (fun _ => rfl) fun _ => rfl

@[simp] lemma wp_appendProofEvent (R : Except Fault ℕ → World → Prop) :
    appendProofEvent.wp (machine q) R w ↔
      R (.ok w.fresh) { w with fresh := w.fresh + 1 } ∧
        (q.storeWorks = false → ∀ e, R (.error e) { w with fresh := w.fresh + 1 }) := by
  simp only [appendProofEvent, wp_bind, wp_call, bindPost_ok]
  constructor
  · intro h
    have h := h w.fresh (by simp [legal]) rfl
    constructor
    · exact h (.ok ()) rfl rfl
    · intro hq e
      exact h (.error e) rfl (by simp [Promises.allows, hq])
  · intro h id hid _ x _ hx
    have hid : id = w.fresh := by simpa [legal] using hid
    subst hid
    cases x with
    | ok u => exact h.1
    | error e => exact h.2 (by simpa [Promises.allows] using hx) e

/-! Clocks and processes. -/

@[simp] lemma wp_monotonic (R : Except Fault ℚ → World → Prop) :
    @wp _ _ (no_index _) _ (machine q) (call .monotonic) R w ↔
      ∀ now, q.allows w .monotonic now = true → R (.ok now) w := by
  simp only [wp_call, legal, next, true_implies]

@[simp] lemma wp_utcNow (R : Except Fault Instant → World → Prop) :
    @wp _ _ (no_index _) _ (machine q) (call .utcNow) R w ↔ ∀ now, R (.ok now) w :=
  ⟨fun h now => h.2 now rfl, fun h => ⟨trivial, fun now _ => h now⟩⟩

@[simp] lemma wp_rounds (R : Except Fault ℕ → World → Prop) :
    @wp _ _ (no_index _) _ (machine q) (call .rounds) R w ↔ ∀ n, R (.ok n) w :=
  ⟨fun h n => h.2 n rfl, fun h => ⟨trivial, fun n _ => h n⟩⟩

@[simp] lemma wp_processPoll (p : Proc) (R : Except Fault (Option ℤ) → World → Prop) :
    (processPoll p).wp (machine q) R w ↔
      ∀ m, legal w .meanwhile m = true → q.allows w .meanwhile m = true →
        ∀ code : Option ℤ, code.isNone = (w.move m).runs p → R (.ok code) (w.move m) := by
  simp only [processPoll, wp_bind, wp_call, bindPost_ok]
  constructor
  · intro h m hm hq code hcode
    exact h m hm hq code (decide_eq_true hcode) rfl
  · intro h m hm hq code hcode _
    exact h m hm hq code (of_decide_eq_true hcode)

@[simp] lemma wp_terminateBounded (p : Proc) (R : Except Fault Unit → World → Prop) :
    (terminateBounded p).wp (machine q) R w ↔
      ∀ m, legal w .meanwhile m = true → q.allows w .meanwhile m = true →
        R (.ok ()) (World.move { w with terminated := p :: w.terminated } m) := by
  rw [terminateBounded, wp_bind, wp_terminate, bindPost_ok, wp_bind, wp_call]
  exact .rfl

lemma wp_clearQualityRecovery {R : Except Fault Unit → World → Prop}
    (h : ∀ slate plans, R (.ok ()) (w.setD { w.d with
      qualityRecovery := none, forcedSlate := slate, lookahead := plans })) :
    clearQualityRecovery.wp (machine q) R w := by
  simp only [clearQualityRecovery, wp_bind, wp_self, bindPost_ok, wp_modify]
  cases w.d.qualityRecovery with
  | none => exact h w.d.forcedSlate w.d.lookahead
  | some recovery =>
    simp only [clearFallbackSlate, wp_bind, wp_self, bindPost_ok, wp_if, wp_modify, wp_pure,
      World.setD_d, World.setD_setD]
    constructor
    · intro _
      exact h none none
    · intro _
      exact h w.d.forcedSlate w.d.lookahead

end Wp

end Daemon

end CivicCast.Egress
