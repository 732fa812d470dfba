import CivicCast.Egress.DaemonEvents

/-! # Prepared media in use

A prepared-plan directory has one holder at a time: the active plan, the pending
settlement, the held restart plan, a preparation's supplied report, or the code that is
just running. `Kept` says so, and says where the directories of the live worker are: what
it has accepted is the pending settlement's, and what it airs is the settlement's once it
has applied that, and the active plan's until then.

All of it rests on the daemon's view of the worker, which is a poll behind. A settlement
that is dropped while the worker has applied it, or still can, takes its directory along:
`media_in_use_kept` is about the runs without such a drop, and
`superseded_reload_loses_media` is one with it.
-/

namespace CivicCast.Egress

namespace Daemon

open Lib Lib.Prog Playout Option World Attrs

/-! ## Holders -/

def held (dir : Option Dir) (x : Dir) : ℕ := if dir = some x then 1 else 0

@[simp] lemma held_none (x : Dir) : held none x = 0 := by
  simp [held]

@[simp] lemma held_self (x : Dir) : held (some x) x = 1 := by
  simp [held]

lemma held_le_one {dir : Option Dir} {x : Dir} : held dir x ≤ 1 := by
  unfold held
  split <;> omega

/-- How many hold the directory; `loose` are those that the running code holds. -/
def Attrs.holders (d : Attrs) (loose : List Dir) (x : Dir) : ℕ :=
  loose.count x + held d.activeDir x + held (d.settle.bind (·.planDir)) x
    + held (d.restartPlan.bind (·.report.planDir)) x
    + held ((d.preparation.bind (·.suppliedReport)).bind (·.planDir)) x

/-- Every directory has one holder, and was made before. -/
structure OneHolder (d : Attrs) (loose : List Dir) (fresh : ℕ) : Prop where
  once : ∀ x, d.holders loose x ≤ 1
  made : ∀ x, 0 < d.holders loose x → x < fresh

section OneHolder

variable {d d' : Attrs} {loose loose' : List Dir} {fresh fresh' : ℕ}

lemma OneHolder.mono (h : OneHolder d loose fresh)
    (hle : ∀ x, d'.holders loose' x ≤ d.holders loose x) (hfresh : fresh ≤ fresh') :
    OneHolder d' loose' fresh' where
  once := fun x => (hle x).trans (h.once x)
  made := fun x hx => (h.made x (hx.trans_le (hle x))).trans_le hfresh

lemma OneHolder.made_one (h : OneHolder d loose fresh) {dir : Option Dir}
    (hdir : dir = none ∨ dir = some fresh) : OneHolder d (dir.toList ++ loose) (fresh + 1) := by
  rcases hdir with rfl | rfl
  · exact h.mono (fun _ => le_rfl) (Nat.le_succ fresh)
  · -- nobody can hold a directory that was not made yet
    have hunheld : d.holders loose fresh = 0 := by
      by_contra hpos
      exact lt_irrefl fresh (h.made fresh (Nat.pos_of_ne_zero hpos))
    have hcount : ∀ x, d.holders ((some fresh).toList ++ loose) x =
        held (some fresh) x + d.holders loose x := by
      intro x
      unfold holders held
      simp only [toList_some, List.singleton_append, List.count_cons, some.injEq, beq_iff_eq]
      omega
    have hother : ∀ x, x ≠ fresh → held (some fresh) x = 0 := by
      intro x hne
      unfold held
      rw [if_neg]
      intro heq
      exact hne (some.inj heq).symm
    refine ⟨?_, ?_⟩
    · intro x
      rw [hcount]
      by_cases hx : x = fresh
      · subst hx
        rw [hunheld]
        exact held_le_one
      · rw [hother x hx, Nat.zero_add]
        exact h.once x
    · intro x hpos
      rw [hcount] at hpos
      by_cases hx : x = fresh
      · rw [hx]
        exact Nat.lt_succ_self fresh
      · rw [hother x hx, Nat.zero_add] at hpos
        exact (h.made x hpos).trans (Nat.lt_succ_self fresh)

end OneHolder

/-! ## The invariant -/

/-- What the daemon knows of the live worker. -/
structure Serves (w : World) (k : Worker) : Prop where
  accepted : ∀ id dir, k.accepted = some (id, dir) →
    ∃ s, w.d.settle = some s ∧ s.reloadId = id ∧ s.planDir = dir
  applied : ∀ s, w.d.settle = some s → k.airingId = some s.reloadId → k.airing = s.planDir
  active : (∀ s, w.d.settle = some s → k.airingId ≠ some s.reloadId) →
    k.airing = none ∨ k.airing = w.d.activeDir
  settled : ∀ s, w.d.settle = some s → w.status = some (s.reloadId, .applied) →
    k.airingId = some s.reloadId ∧ k.accepted = none

structure Kept (loose : List Dir) (w : World) : Prop where
  clean : w.releasedInUse = false
  holders : OneHolder w.d loose w.fresh
  process : ∀ p, w.d.process = some p → p < w.fresh
  status : ∀ id result, w.status = some (id, result) → id < w.fresh
  airing : ∀ k id, w.worker = some k → k.airingId = some id → id < w.fresh
  accepted : ∀ k id dir, w.worker = some k → k.accepted = some (id, dir) → id < w.fresh
  serves : ∀ k, w.live = some k → Serves w k
  /-- A start is prepared only while no worker is there. -/
  starting : ∀ pending r, w.d.preparation = some pending → pending.resume = .start r →
    w.live = none ∧ w.d.settle = none

/-- What `Kept` reads of the attributes. -/
structure Holding where
  process : Option Proc
  preparation : Option Preparation
  settle : Option Settlement
  activeDir : Option Dir
  restartPlan : Option ReusePreparedPlan

def Attrs.holding (d : Attrs) : Holding :=
  ⟨d.process, d.preparation, d.settle, d.activeDir, d.restartPlan⟩

lemma Attrs.holding_of_custody {d d' : Attrs} (h : d'.custody = d.custody) :
    d'.holding = d.holding := by
  simp only [custody, Custody.mk.injEq] at h
  rcases h with ⟨hprocess, hpreparation, hsettle, hactive, hrestart, _, _⟩
  simp [holding, hprocess, hpreparation, hsettle, hactive, hrestart]

section Kept

variable {loose loose' : List Dir} {w w' : World} {k : Worker} {x : Dir}

lemma World.live_congr (hworker : w'.worker = w.worker) (hprocess : w'.d.process = w.d.process) :
    w'.live = w.live := by
  unfold live
  rw [hworker, hprocess]

lemma World.worker_of_live (h : w.live = some k) :
    w.worker = some k ∧ k.alive = true ∧ w.d.process = some k.proc := by
  have hfilter := filter_eq_some_iff.mp h
  simpa using hfilter

variable (h : Kept loose w)
include h

lemma Kept.of_eq (hd : w'.d.holding = w.d.holding) (hworker : w'.worker = w.worker)
    (hstatus : w'.status = w.status) (hclean : w'.releasedInUse = w.releasedInUse)
    (hfresh : w.fresh ≤ w'.fresh) : Kept loose w' := by
  simp only [holding, Holding.mk.injEq] at hd
  rcases hd with ⟨hprocess, hpreparation, hsettle, hactive, hrestart⟩
  have hlive : w'.live = w.live := live_congr hworker hprocess
  have hholders : ∀ y, w'.d.holders loose y = w.d.holders loose y := by
    intro y
    unfold Attrs.holders
    rw [hactive, hsettle, hrestart, hpreparation]
  refine ⟨hclean.trans h.clean, h.holders.mono (fun y => (hholders y).le) hfresh, ?_, ?_, ?_, ?_,
    ?_, ?_⟩
  · intro p hp
    rw [hprocess] at hp
    exact (h.process p hp).trans_le hfresh
  · intro id result hid
    rw [hstatus] at hid
    exact (h.status id result hid).trans_le hfresh
  · intro k id hk hid
    rw [hworker] at hk
    exact (h.airing k id hk hid).trans_le hfresh
  · intro k id dir hk hid
    rw [hworker] at hk
    exact (h.accepted k id dir hk hid).trans_le hfresh
  · intro k hk
    rw [hlive] at hk
    -- the worker is looked at through the registers it shares
    rcases h.serves k hk with ⟨haccepted, happlied, hactiveDir, hsettled⟩
    refine ⟨?_, ?_, ?_, ?_⟩
    · rw [hsettle]
      exact haccepted
    · rw [hsettle]
      exact happlied
    · rw [hsettle, hactive]
      exact hactiveDir
    · rw [hsettle, hstatus]
      exact hsettled
  · rw [hpreparation, hlive, hsettle]
    exact h.starting

lemma Kept.forget (hle : ∀ y, loose'.count y ≤ loose.count y) : Kept loose' w where
  __ := h
  holders := by
    refine h.holders.mono ?_ le_rfl
    intro y
    have hy := hle y
    unfold Attrs.holders
    omega

lemma Kept.forgetAll : Kept [] w :=
  h.forget fun y => by simp

lemma Kept.inUse_cases (hx : w.inUse x = true) :
    w.d.activeDir = some x ∨ w.d.settle.bind (·.planDir) = some x := by
  unfold inUse at hx
  split at hx
  · cases hx
  · rename_i k hk
    have hserves := h.serves k hk
    simp only [Bool.or_eq_true, decide_eq_true_eq] at hx
    rcases hx with hairing | haccepted
    · by_cases happlied : ∃ s, w.d.settle = some s ∧ k.airingId = some s.reloadId
      · rcases happlied with ⟨s, hs, hid⟩
        right
        rw [hs]
        exact (hserves.applied s hs hid).symm.trans hairing
      · have hnot : ∀ s, w.d.settle = some s → k.airingId ≠ some s.reloadId :=
          fun s hs hid => happlied ⟨s, hs, hid⟩
        rcases hserves.active hnot with hnone | hactive
        · rw [hairing] at hnone
          cases hnone
        · exact .inl (hactive.symm.trans hairing)
    · rcases bind_eq_some_iff.mp haccepted with ⟨⟨id, dir⟩, hpair, hdir⟩
      rcases hserves.accepted id dir hpair with ⟨s, hs, _, hplan⟩
      right
      rw [hs]
      exact hplan.trans hdir

lemma Kept.not_inUse
    (hx : held w.d.activeDir x + held (w.d.settle.bind (·.planDir)) x < w.d.holders loose x) :
    w.inUse x = false := by
  by_contra huse
  have honce := h.holders.once x
  have hpos : 0 < held w.d.activeDir x + held (w.d.settle.bind (·.planDir)) x := by
    rcases h.inUse_cases (by simpa using huse) with hactive | hsettle
    · rw [hactive, held_self]
      omega
    · rw [hsettle, held_self]
      omega
  omega

lemma Kept.loose_not_inUse (hx : x ∈ loose) : w.inUse x = false := by
  apply h.not_inUse
  have hcount := List.count_pos_iff.mpr hx
  unfold Attrs.holders
  omega

omit h

lemma World.inUse_of_no_live (h : w.live = none) : w.inUse x = false := by
  unfold inUse
  rw [h]

include h

lemma Kept.release (hx : w.inUse x = false) : Kept loose (w.release x) :=
  h.of_eq rfl rfl rfl (by simp [World.release, hx]) le_rfl

lemma Kept.releaseOpt {dir : Option Dir}
    (hdir : ∀ y, dir = some y → w.inUse y = false) : Kept loose (w.releaseOpt dir) := by
  cases dir with
  | none => exact h
  | some y => exact h.release (hdir y rfl)

lemma Kept.make {dir : Option Dir} (hdir : dir = none ∨ dir = some w.fresh) :
    Kept (dir.toList ++ loose) { w with fresh := w.fresh + 1 } := by
  have hstays : Kept loose { w with fresh := w.fresh + 1 } :=
    h.of_eq rfl rfl rfl rfl (Nat.le_succ _)
  exact { hstays with holders := h.holders.made_one hdir }

omit h

/-! ### The worker moves -/

variable (hk : w.worker = some k)
include hk

lemma World.live_eq :
    w.live = if k.alive = true ∧ w.d.process = some k.proc then some k else none := by
  unfold live
  rw [hk, filter_some]
  simp only [Bool.and_eq_true, decide_eq_true_eq]

include h

lemma Kept.settles {k' : Worker} {id : ℕ}
    {result : ReloadResult} (halive : k'.alive = k.alive) (hproc : k'.proc = k.proc)
    (hid : id < w.fresh) (haccepted : k'.accepted = none)
    (hairing : ∀ id, k'.airingId = some id → id < w.fresh)
    (hserves : w.live = some k →
      Serves { w with worker := some k', status := some (id, result) } k') :
    Kept loose { w with worker := some k', status := some (id, result) } := by
  have hlive : live { w with worker := some k', status := some (id, result) } =
      if k.alive = true ∧ w.d.process = some k.proc then some k' else none := by
    rw [live_eq rfl, halive, hproc]
  have hbefore := live_eq hk
  refine ⟨h.clean, h.holders, h.process, ?_, ?_, ?_, ?_, ?_⟩
  · intro id' result' hstatus
    cases hstatus
    exact hid
  · intro k'' id' hk'' hairingId
    cases hk''
    exact hairing id' hairingId
  · intro k'' id' dir hk'' haccepted'
    cases hk''
    rw [haccepted] at haccepted'
    cases haccepted'
  · intro k'' hk''
    rw [hlive] at hk''
    split at hk''
    · rename_i hup
      cases hk''
      rw [if_pos hup] at hbefore
      exact hserves hbefore
    · cases hk''
  · -- a suspended start still finds no worker
    intro pending r hpending hr
    rcases h.starting pending r hpending hr with ⟨hnone, hsettle⟩
    refine ⟨?_, hsettle⟩
    rw [hbefore] at hnone
    rw [hlive]
    split at hnone
    · cases hnone
    · rename_i hdown
      rw [if_neg hdown]

lemma Kept.applies {id : ℕ} {dir : Option Dir} (haccepted : k.accepted = some (id, dir)) :
    Kept loose { w with
      worker := some { k with airing := dir, airingId := some id, accepted := none }
      status := some (id, .applied) } := by
  have hid := h.accepted k id dir hk haccepted
  refine h.settles hk rfl rfl hid rfl ?_ ?_
  · intro id' hid'
    cases hid'
    exact hid
  · intro hlive
    rcases (h.serves k hlive).accepted id dir haccepted with ⟨s, hs, hsid, hsdir⟩
    have hsame : ∀ s', w.d.settle = some s' → s' = s := by
      intro s' hs'
      rw [hs] at hs'
      exact (some.inj hs').symm
    refine ⟨?_, ?_, ?_, ?_⟩
    · intro id' dir' hnone
      cases hnone
    · intro s' hs' _
      rw [hsame s' hs']
      exact hsdir.symm
    · intro hother
      exact absurd (congrArg some hsid.symm) (hother s hs)
    · intro s' hs' _
      rw [hsame s' hs', hsid]
      exact ⟨rfl, rfl⟩

lemma Kept.aborts {id : ℕ} {dir : Option Dir} (haccepted : k.accepted = some (id, dir)) :
    Kept loose { w with
      worker := some { k with accepted := none }
      status := some (id, .aborted) } := by
  refine h.settles hk rfl rfl (h.accepted k id dir hk haccepted) rfl
    (fun id' => h.airing k id' hk) ?_
  intro hlive
  have hserves := h.serves k hlive
  refine ⟨?_, hserves.applied, hserves.active, ?_⟩
  · intro id' dir' hnone
    cases hnone
  · intro s _ hstatus
    cases hstatus

lemma Kept.exits : Kept loose { w with worker := some { k with alive := false } } := by
  have hlive : live { w with worker := some { k with alive := false } } = none := by
    rw [live_eq rfl]
    simp
  refine ⟨h.clean, h.holders, h.process, h.status, ?_, ?_, ?_, ?_⟩
  · intro k' id hk'
    cases hk'
    exact h.airing k id hk
  · intro k' id dir hk'
    cases hk'
    exact h.accepted k id dir hk
  · intro k' hk'
    rw [hlive] at hk'
    cases hk'
  · intro pending r hpending hr
    exact ⟨hlive, (h.starting pending r hpending hr).2⟩

omit hk

lemma Kept.move (m : WorkerMove) : Kept loose (w.move m) := by
  unfold World.move
  split
  · exact h
  · rename_i k hk
    split
    · rename_i id dir haccepted
      exact h.applies hk haccepted
    · rename_i id dir haccepted
      exact h.aborts hk haccepted
    · exact h.exits hk
    · exact h

omit h

lemma steady_kept (loose : List Dir) : Steady (Kept loose) where
  setD := fun hd h => h.of_eq (holding_of_custody hd) rfl rfl rfl le_rfl
  move := fun _ h => h.move _
  row := fun _ h => h.of_eq rfl rfl rfl rfl le_rfl
  fresh := fun h => h.of_eq rfl rfl rfl rfl (Nat.le_succ _)
  terminated := fun _ h => h.of_eq rfl rfl rfl rfl le_rfl

/-! ### The daemon moves directories -/

include h

/-- The restart plan and the preparation change hands; what the worker depends on stays. -/
lemma Kept.rearrange {d : Attrs} (hprocess : d.process = w.d.process)
    (hsettle : d.settle = w.d.settle) (hactive : d.activeDir = w.d.activeDir)
    (hholders : ∀ y, d.holders loose' y ≤ w.d.holders loose y)
    (hstart : ∀ pending r, d.preparation = some pending → pending.resume = .start r →
      w.live = none ∧ w.d.settle = none) : Kept loose' (w.setD d) := by
  have hlive : (w.setD d).live = w.live := live_congr rfl hprocess
  refine ⟨h.clean, h.holders.mono hholders le_rfl, ?_, h.status, h.airing, h.accepted, ?_, ?_⟩
  · intro p hp
    exact h.process p (hprocess.symm.trans hp)
  · intro k hk
    rw [hlive] at hk
    rcases h.serves k hk with ⟨haccepted, happlied, hactiveDir, hsettled⟩
    refine ⟨?_, ?_, ?_, ?_⟩
    · rw [setD_d, hsettle]
      exact haccepted
    · rw [setD_d, hsettle]
      exact happlied
    · rw [setD_d, hsettle, hactive]
      exact hactiveDir
    · rw [setD_d, hsettle]
      exact hsettled
  · intro pending r hpending hr
    rw [hlive, setD_d, hsettle]
    exact hstart pending r hpending hr

lemma Kept.unattended {d : Attrs} (hprocess : ∀ p, d.process = some p → p < w.fresh)
    (hlive : (w.setD d).live = none) (hpreparation : d.preparation = w.d.preparation)
    (hsettle : w.d.settle = none → d.settle = none)
    (hholders : ∀ y, d.holders loose' y ≤ w.d.holders loose y) : Kept loose' (w.setD d) := by
  refine ⟨h.clean, h.holders.mono hholders le_rfl, hprocess, h.status, h.airing, h.accepted, ?_, ?_⟩
  · intro k hk
    rw [hlive] at hk
    cases hk
  · intro pending r hpending hr
    have hpending : w.d.preparation = some pending := hpreparation.symm.trans hpending
    exact ⟨hlive, hsettle (h.starting pending r hpending hr).2⟩

/-- A settlement is dropped that the worker neither airs nor may apply. -/
lemma Kept.dropSettle
    (hdrop : ∀ s, w.d.settle = some s → w.mayAir s.reloadId = false) : Kept loose w.dropSettle := by
  unfold World.dropSettle
  split
  · exact h
  · rename_i s hs
    have hidle := hdrop s hs
    have hairs : ∀ k, w.live = some k →
        k.airingId ≠ some s.reloadId ∧ ∀ id dir, k.accepted = some (id, dir) → id ≠ s.reloadId := by
      intro k hk
      unfold mayAir at hidle
      rw [hk] at hidle
      simp only [Bool.or_eq_false_iff, decide_eq_false_iff_not] at hidle
      refine ⟨hidle.1, ?_⟩
      intro id dir haccepted hid
      apply hidle.2
      rw [haccepted, ← hid]
      rfl
    have hactive : ∀ k, w.live = some k → k.airing = none ∨ k.airing = w.d.activeDir := by
      intro k hk
      apply (h.serves k hk).active
      intro s' hs'
      rw [hs] at hs'
      cases hs'
      exact (hairs k hk).1
    have hdropped : Kept loose (w.setD
        { w.d with settle := none, discardedReloadId := some s.reloadId }) := by
      refine ⟨h.clean, h.holders.mono ?_ le_rfl, h.process, h.status, h.airing, h.accepted, ?_, ?_⟩
      · intro y
        unfold Attrs.holders
        simp
      · intro k hk
        have hk : w.live = some k := hk
        refine ⟨?_, ?_, fun _ => hactive k hk, ?_⟩
        · intro id dir haccepted
          rcases (h.serves k hk).accepted id dir haccepted with ⟨s', hs', hid, _⟩
          rw [hs] at hs'
          cases hs'
          exact absurd hid.symm ((hairs k hk).2 id dir haccepted)
        · intro s' hs'
          cases hs'
        · intro s' hs'
          cases hs'
      · intro pending r hpending hr
        exact ⟨(h.starting pending r hpending hr).1, rfl⟩
    apply hdropped.releaseOpt
    intro y hy
    by_contra huse
    -- in use, it would be the active plan's as well
    have hother : w.d.activeDir = some y := by
      rcases hdropped.inUse_cases (by simpa using huse) with hactive | hnone
      · exact hactive
      · cases hnone
    have honce := h.holders.once y
    unfold Attrs.holders at honce
    rw [hother, hs, bind_some, hy, held_self] at honce
    omega

lemma Kept.cancelPreparation : Kept loose w.cancelPreparation := by
  unfold World.cancelPreparation
  split
  · exact h
  · rename_i pending hpending
    have hcancelled : Kept loose (w.setD { w.d with preparation := none }) := by
      refine h.rearrange rfl rfl rfl ?_ ?_
      · intro y
        unfold Attrs.holders
        simp
      · intro pending r hnone
        cases hnone
    apply hcancelled.releaseOpt
    intro y hy
    have huse : (w.setD { w.d with preparation := none }).inUse y = w.inUse y := rfl
    rw [huse]
    apply h.not_inUse
    unfold Attrs.holders
    rw [hpending, bind_some, hy, held_self]
    omega

end Kept

/-! ## Rules -/

/-- What holds after a program: `K` of what it returns, or `E` when it raises. -/
def Post {α : Type} (K : α → World → Prop) (E : World → Prop) : Except Fault α → World → Prop
  | .ok a, w => K a w
  | .error _, w => E w

def Ends {α : Type} (q : Promises) (J : World → Prop) (p : DaemonM α) (K : α → World → Prop)
    (E : World → Prop) : Prop :=
  ∀ w, J w → p.wp (machine q) (Post K E) w

section Rules

variable {q : Promises} {α β : Type} {J J' E E' : World → Prop} {K K' : α → World → Prop}
  {p : DaemonM α} {f : α → DaemonM β} {L : β → World → Prop}

lemma Ends.mono (h : Ends q J p K E) (hJ : ∀ w, J' w → J w) (hK : ∀ a w, K a w → K' a w)
    (hE : ∀ w, E w → E' w) : Ends q J' p K' E' := by
  intro w hw
  refine wp_mono ?_ (h w (hJ w hw))
  intro r w' hr
  cases r with
  | ok a => exact hK a w' hr
  | error e => exact hE w' hr

lemma Ends.bind (hp : Ends q J p K E) (hf : ∀ a, Ends q (K a) (f a) L E) :
    Ends q J (p >>= f) L E := by
  intro w hw
  exact wp_seq (hp w hw) (fun a w' hw' => hf a w' hw') fun _ _ hE => hE

lemma ends_pure {a : α} (h : ∀ w, J w → K a w) : Ends q J (pure a : DaemonM α) K E := h

lemma ends_raise {e : Fault} (h : ∀ w, J w → E w) : Ends q J (Prog.raise e : DaemonM α) K E := h

lemma Ends.ite {c : Prop} [Decidable c] {p' : DaemonM α} (hp : Ends q J p K E)
    (hp' : Ends q J p' K E) : Ends q J (if c then p else p') K E := by
  intro w hw
  exact wp_ite (fun _ => hp w hw) fun _ => hp' w hw

lemma Ends.of_keeps (hp : Preserves q J p) (hE : ∀ w, J w → E w) : Ends q J p (fun _ => J) E := by
  intro w hw
  refine wp_mono ?_ (keeps_iff.mp hp w hw)
  intro r w' hw'
  cases r with
  | ok a => exact hw'
  | error e => exact hE w' hw'

lemma Ends.leads (h : Ends q J p (fun _ => E) E) : p.Leads (machine q) J E fun _ => True := by
  intro w hw
  refine wp_mono ?_ (h w hw)
  intro r w' hr
  cases r with
  | ok a | error e => exact ⟨hr, fun _ _ => trivial⟩

lemma Ends.of_leads (h : p.Leads (machine q) J E fun _ => True) : Ends q J p (fun _ => E) E := by
  intro w hw
  refine wp_mono ?_ (h w hw)
  intro r w' hr
  cases r with
  | ok a | error e => exact hr.1

lemma Ends.before (hJ : Steady J) (hp : IsPlain p) (hE : ∀ w, J w → E w)
    (hf : ∀ a, Ends q J (f a) L E) : Ends q J (p >>= f) L E :=
  (Ends.of_keeps (hJ.keeps hp) hE).bind hf

lemma Ends.before_giving {χ : α → Prop} (hJ : Steady J) (hp : IsPlain p) (hχ : p.Gives χ)
    (hE : ∀ w, J w → E w) (hf : ∀ a, χ a → Ends q J (f a) L E) : Ends q J (p >>= f) L E := by
  intro w hw
  have hkept := keeps_iff.mp (hJ.keeps hp (q := q)) w hw
  refine wp_seq (hχ.wp hkept) ?_ ?_
  · intro a w' h
    exact hf a (h.2 a rfl) w' h.1
  · intro e w' h
    exact hE w' h.1

lemma Ends.releaseOnError {dir : Option Dir} (hp : Ends q J p K E)
    (hrelease : ∀ w, E w → E (w.releaseOpt dir)) : Ends q J (releaseOnError dir p) K E := by
  intro w hw
  rw [Daemon.releaseOnError, wp_bind, wp_attempt]
  refine wp_mono ?_ (hp w hw)
  intro r w' hr
  cases r with
  | ok a => exact hr
  | error e =>
    show (releasePreparedPlanDir dir >>= fun _ => Prog.raise e : DaemonM α).wp (machine q) _ w'
    rw [wp_bind, wp_releasePreparedPlanDir]
    exact hrelease w' hr

/-- The handlers of `_start_steps`. -/
lemma Ends.startGuarded {otherwise : α} (hE : Steady E) (hp : Ends q J p K E)
    (hotherwise : ∀ w, E w → K otherwise w) : Ends q J (startGuarded otherwise p) K E := by
  intro w hw
  rw [Daemon.startGuarded, wp_bind, wp_attempt]
  refine wp_mono ?_ (hp w hw)
  intro r w' hr
  cases r with
  | ok a => exact hr
  | error e =>
    refine Ends.before hE tame_writeState.plain (fun _ => id) (fun _ => ?_) w' hr
    refine Ends.before hE tame_assist.plain (fun _ => id) fun _ => ?_
    refine .before hE (plain_modify fun _ => rfl) (fun _ => id) fun _ => ?_
    exact .ite (ends_raise fun _ => id) (ends_pure hotherwise)

lemma Steady.and {J K : World → Prop} (hJ : Steady J) (hK : Steady K) :
    Steady fun w => J w ∧ K w where
  setD := fun hd h => ⟨hJ.setD hd h.1, hK.setD hd h.2⟩
  move := fun hm h => ⟨hJ.move hm h.1, hK.move hm h.2⟩
  row := fun row h => ⟨hJ.row row h.1, hK.row row h.2⟩
  fresh := fun h => ⟨hJ.fresh h.1, hK.fresh h.2⟩
  terminated := fun p h => ⟨hJ.terminated p h.1, hK.terminated p h.2⟩

end Rules

/-! ## A channel without a worker -/

def Unprepared (loose : List Dir) (w : World) : Prop :=
  Kept loose w ∧ w.d.preparation = none

/-- Nothing is being prepared, nor is there a worker, -/
def Down (loose : List Dir) (w : World) : Prop :=
  Unprepared loose w ∧ w.live = none

/-- nor a pending settlement. -/
def Cleared (loose : List Dir) (w : World) : Prop :=
  Down loose w ∧ w.d.settle = none

section Down

variable {q : Promises} {loose : List Dir} {w : World}

lemma live_none_move (h : w.live = none) {m : WorkerMove} : (w.move m).live = none := by
  unfold move
  split
  · exact h
  · rename_i k hk
    rw [live_eq hk] at h
    have hdown : ¬ (k.alive = true ∧ w.d.process = some k.proc) := by
      intro hup
      rw [if_pos hup] at h
      cases h
    split
    · rw [live_eq rfl]
      exact if_neg hdown
    · rw [live_eq rfl]
      exact if_neg hdown
    · rw [live_eq rfl]
      simp
    · rw [live_eq hk]
      exact if_neg hdown

lemma steady_custody {β : Type} (get : Custody → β) (b : β) :
    Steady fun w => get w.d.custody = b := by
  refine ⟨?_, ?_, fun _ h => h, fun h => h, fun _ h => h⟩
  · intro w d hd h
    rw [setD_d, hd]
    exact h
  · intro w m _ h
    rw [move_d]
    exact h

lemma steady_live_none : Steady fun w => w.live = none := by
  refine ⟨?_, fun _ h => live_none_move h, fun _ h => h, fun h => h, fun _ h => h⟩
  intro w d hd h
  have hlive : (w.setD d).live = w.live := live_congr rfl (congrArg Custody.process hd)
  rw [hlive]
  exact h

lemma steady_unprepared {loose : List Dir} : Steady (Unprepared loose) :=
  (steady_kept loose).and (steady_custody Custody.preparation none)

lemma steady_down (loose : List Dir) : Steady (Down loose) :=
  steady_unprepared.and steady_live_none

lemma steady_cleared {loose : List Dir} : Steady (Cleared loose) :=
  (steady_down loose).and (steady_custody Custody.settle none)

lemma Down.releaseOpt (h : Down loose w) (dir : Option Dir) : Down loose (w.releaseOpt dir) := by
  cases dir with
  | none => exact h
  | some x => exact ⟨⟨h.1.1.release (inUse_of_no_live h.2), h.1.2⟩, h.2⟩

lemma Cleared.releaseOpt (h : Cleared loose w) (dir : Option Dir) :
    Cleared loose (w.releaseOpt dir) := by
  refine ⟨h.1.releaseOpt dir, ?_⟩
  rw [releaseOpt_d]
  exact h.2

lemma Cleared.kept (h : Cleared loose w) : Kept loose w := h.1.1.1

lemma Cleared.make (h : Cleared loose w) {dir : Option Dir}
    (hdir : dir = none ∨ dir = some w.fresh) :
    Cleared (dir.toList ++ loose) { w with fresh := w.fresh + 1 } :=
  ⟨⟨⟨h.kept.make hdir, h.1.1.2⟩, h.1.2⟩, h.2⟩

lemma cleared_release {loose : List Dir} {dir : Option Dir} :
    Preserves q (Cleared loose) (releasePreparedPlanDir dir) := by
  rw [Preserves, keeps_iff]
  intro w hw
  rw [wp_releasePreparedPlanDir]
  exact hw.releaseOpt dir

lemma cleared_plain {α : Type} {p : DaemonM α} (hp : IsPlain p) {loose : List Dir} :
    Preserves q (Cleared loose) p :=
  steady_cleared.keeps hp

lemma Down.empty (h : Down loose w) {d : Attrs} (hprocess : d.process = w.d.process)
    (hpreparation : d.preparation = w.d.preparation) (hsettle : w.d.settle = none → d.settle = none)
    (hholders : ∀ y, d.holders loose y ≤ w.d.holders loose y) : Down loose (w.setD d) := by
  have hsame : (w.setD d).live = w.live := live_congr rfl hprocess
  have hlive : (w.setD d).live = none := hsame.trans h.2
  refine ⟨⟨h.1.1.unattended ?_ hlive hpreparation hsettle hholders, ?_⟩, hlive⟩
  · intro p hp
    exact h.1.1.process p (hprocess.symm.trans hp)
  · exact hpreparation.trans h.1.2

lemma Down.dropSettle (h : Down loose w) : Cleared loose w.dropSettle := by
  have hidle : ∀ s, w.d.settle = some s → w.mayAir s.reloadId = false := by
    intro s _
    unfold mayAir
    rw [h.2]
  have hkept := h.1.1.dropSettle hidle
  have hlive : w.dropSettle.live = w.live := by
    refine live_congr ?_ ?_
    · unfold World.dropSettle
      split <;> simp
    · rw [dropSettle_d]
  refine ⟨⟨⟨hkept, ?_⟩, hlive.trans h.2⟩, ?_⟩
  · rw [dropSettle_d]
    exact h.1.2
  · rw [dropSettle_d]

lemma cleared_discardActive (loose : List Dir) :
    Preserves q (Cleared loose) discardActivePreparedPlanDir := by
  rw [Preserves, keeps_iff]
  intro w hw
  simp only [discardActivePreparedPlanDir, wp_bind, wp_self, bindPost_ok, wp_modify,
    wp_releasePreparedPlanDir]
  refine Cleared.releaseOpt (w := w.setD { w.d with activeDir := none }) ⟨?_, hw.2⟩ _
  refine hw.1.empty rfl rfl id ?_
  intro y
  unfold holders
  simp

lemma down_dropHeldRestartPlan {prepared : Option ReusePreparedPlan} :
    Preserves q (Down loose) (dropHeldRestartPlan prepared) := by
  rw [Preserves, keeps_iff]
  intro w hw
  have hempty : Down loose (w.setD { w.d with restartPlan := none }) := by
    refine hw.empty rfl rfl id ?_
    intro y
    unfold holders
    simp
  simp only [dropHeldRestartPlan, wp_bind, wp_self, bindPost_ok, wp_modify, wp_if, wp_pure,
    releasePreparedRestartPlan, wp_releasePreparedPlanDir]
  exact ⟨fun _ => hempty.releaseOpt _, fun _ => hempty⟩

end Down

/-! ## Starts -/

/-- The directories a start brings with it. -/
def ReusePreparedPlan.dirs (prepared : Option ReusePreparedPlan) : List Dir :=
  (prepared.bind (·.report.planDir)).toList

section Starts

variable {q : Promises} (setup : Setup) {loose : List Dir} (prepared : Option ReusePreparedPlan)

lemma liveProcess_ends {E : World → Prop} :
    Ends q (Unprepared loose) liveProcess
      (fun live w => Unprepared loose w ∧ (live = none → w.live = none)) E := by
  intro w hw
  simp only [liveProcess, wp_bind, wp_self, bindPost_ok]
  cases hprocess : w.d.process with
  | none =>
    refine ⟨hw, fun _ => ?_⟩
    unfold live
    rw [hprocess]
    cases w.worker <;> simp
  | some p =>
    simp only [wp_bind, wp_processPoll, bindPost_ok, wp_pure]
    intro m hm _ code hcode
    refine ⟨steady_unprepared.move hm hw, fun hgone => ?_⟩
    -- the poll saw an exit code
    have hdead : (w.move m).runs p = false := by
      rw [← hcode]
      cases hnone : code.isNone with
      | false => rfl
      | true =>
        rw [if_pos hnone] at hgone
        cases hgone
    have hprocess' : (w.move m).d.process = some p := by
      rw [move_d]
      exact hprocess
    unfold live
    rw [hprocess']
    unfold runs at hdead
    cases hworker : (w.move m).worker with
    | none => rfl
    | some k =>
      rw [hworker] at hdead
      rw [filter_some, if_neg]
      simp only [any_some, Bool.and_eq_false_iff, decide_eq_false_iff_not] at hdead
      simp only [some.injEq, Bool.and_eq_true, decide_eq_true_eq, not_and]
      intro halive hproc
      rcases hdead with hdead | hdead
      · rw [halive] at hdead
        cases hdead
      · exact hdead hproc.symm

lemma clearForStart_ends (hloose : ∀ x, prepared.bind (·.report.planDir) = some x → x ∈ loose) :
    Ends q (Unprepared loose) (clearForStart prepared)
      (fun config w => match config with
        | none => Kept loose w
        | some _ => Cleared loose w) (Kept loose) := by
  have hkept : ∀ w, Unprepared loose w → Kept loose w := fun _ h => h.1
  have hkept' : ∀ w, Cleared loose w → Kept loose w := fun _ h => h.kept
  refine .before steady_unprepared tame_getConfig.plain hkept fun config => ?_
  cases config with
  | none => exact ends_raise hkept
  | some config =>
    refine .ite (ends_raise hkept) ?_
    refine .before steady_unprepared tame_assist.plain hkept fun _ => ?_
    refine .bind liveProcess_ends fun live => ?_
    intro w hw
    -- a worker that still lives ends the start, and the held plan is released
    refine wp_if.mpr ⟨fun _ => ?_, fun hgone => ?_⟩
    · simp only [releasePreparedRestartPlan, wp_bind, wp_releasePreparedPlanDir, bindPost_ok,
        wp_pure]
      refine hw.1.1.releaseOpt ?_
      exact fun x hx => hw.1.1.loose_not_inUse (hloose x hx)
    · have hlive : live = none := by simpa using hgone
      have hdown : Down loose w := ⟨hw.1, hw.2 hlive⟩
      refine (?_ : Ends q (Down loose) _ _ (Kept loose)) w hdown
      refine .before (steady_down loose) (plain_modify fun _ => rfl) (fun _ h => h.1.1) fun _ => ?_
      refine .bind (.of_keeps down_dropHeldRestartPlan fun _ h => h.1.1) fun _ => ?_
      have hdrop : Ends q (Down loose) (call (.dropSettle .restarting))
          (fun _ => Cleared loose) (Kept loose) := by
        intro w hw
        rw [wp_dropSettle]
        exact fun _ => hw.dropSettle
      refine hdrop.bind fun _ => ?_
      refine .bind (.of_keeps (cleared_discardActive loose) hkept') fun _ => ?_
      refine .before steady_cleared tame_readState.plain hkept' fun _ => ?_
      refine .before steady_cleared tame_assist.plain hkept' fun _ => ?_
      exact ends_pure fun _ h => h

lemma resolveStart_cleared (a : StartArgs) :
    Preserves q (Cleared loose) (resolveStart setup a) := by
  have hslate : ∀ handoff, Preserves q (Cleared loose) (resolveSlate handoff) :=
    fun handoff => cleared_plain tame_resolveSlate.plain
  refine .ite (hslate _) ?_
  refine (cleared_plain (tame_captionReadiness setup).plain).bind fun answer => ?_
  cases answer with
  | refused requiresFallbackSlate =>
    refine .ite (keeps_raise trivial) (.ite ?_ (hslate _))
    exact (cleared_plain tame_nothingToStart.plain).bind fun _ =>
      cleared_release.bind fun _ => keeps_pure
  | ready =>
    dsimp only
    split
    · exact keeps_pure
    · refine (cleared_plain tame_self.plain).bind fun d => .ite (hslate _) ?_
      refine (cleared_plain (uses_attempt (resolving_nextSourcePlan setup).plain)).bind
        fun answer => ?_
      split
      · exact keeps_pure
      · exact .ite (hslate _) (cleared_plain tame_nothingToStart.plain)
      · exact .ite (hslate _) (keeps_raise trivial)
      · exact keeps_raise trivial

lemma announceStart_cleared {plan : StartPlan} :
    Preserves q (Cleared loose) (announceStart prepared plan) :=
  .ite cleared_release (cleared_plain tame_writeState.plain)

/-- What a start is suspended with: its own prepared plan, or none. -/
def StartsOn (prepared : Option ReusePreparedPlan) : Steps → Prop
  | .finished _ => True
  | .goesOn resume => ∃ r, resume = .start r ∧ (r.reuse = none ∨ r.reuse = prepared)
  | .yields _ supplied resume => (∃ r, resume = .start r) ∧
      (supplied.bind (·.planDir) = none ∨
        supplied.bind (·.planDir) = prepared.bind (·.report.planDir))

lemma yieldStart_startsOn (plan : StartPlan) (r : StartResume) (hreuse : r.reuse = none)
    (d : Attrs) : StartsOn prepared (yieldStart setup prepared plan r d) := by
  unfold yieldStart
  split
  · rename_i report hheld
    have hprepared : prepared = some report := by
      cases hslate : plan.usingFallbackSlate with
      | true =>
        rw [hslate] at hheld
        cases hheld
      | false =>
        rw [hslate] at hheld
        exact hheld
    subst hprepared
    split
    · exact ⟨⟨_, rfl⟩, .inr rfl⟩
    · exact ⟨_, rfl, .inr rfl⟩
  · split
    · split
      · exact ⟨⟨_, rfl⟩, .inl rfl⟩
      · exact ⟨_, rfl, .inl hreuse⟩
    · exact ⟨⟨_, rfl⟩, .inl rfl⟩

def StartCleared (loose : List Dir) : Steps → World → Prop
  | .finished _, w => Kept loose w
  | .goesOn _, w => Cleared loose w
  | .yields _ _ _, w => Cleared loose w

lemma startSteps_ends {a : StartArgs} {startedAt : ℚ}
    (hloose : ∀ x, a.preparedReload.bind (·.report.planDir) = some x → x ∈ loose) :
    Ends q (Unprepared loose) (startSteps setup a startedAt)
      (fun steps w => StartCleared loose steps w ∧ StartsOn a.preparedReload steps)
      (Kept loose) := by
  have hkept : ∀ w, Cleared loose w → Kept loose w := fun _ h => h.kept
  refine .startGuarded (steady_kept loose) ?_ fun w h => ⟨h, trivial⟩
  refine .bind (clearForStart_ends a.preparedReload hloose) fun config => ?_
  cases config with
  | none => exact ends_pure fun w h => ⟨h, trivial⟩
  | some config =>
    -- the plan, the tail floor, the row, and what is yielded at last
    refine .bind (.of_keeps (resolveStart_cleared setup a) hkept) fun plan => ?_
    cases plan with
    | none => exact ends_pure fun w h => ⟨h.kept, trivial⟩
    | some plan =>
      refine .ite (ends_raise hkept) ?_
      refine .before steady_cleared (tame_applyTailFloor setup a).plain hkept fun floored => ?_
      refine .bind (.of_keeps (announceStart_cleared a.preparedReload) hkept) fun _ => ?_
      refine .before steady_cleared tame_self.plain hkept fun d => ?_
      refine ends_pure fun w h => ?_
      have hstarts := yieldStart_startsOn setup a.preparedReload floored.1
        { config := config, previousState := a.previousState,
          sourcePlan := floored.1.sourcePlan,
          usingFallbackSlate := floored.1.usingFallbackSlate,
          slateFirstHandoff := floored.1.slateFirstHandoff, reuse := none, conforms := false,
          firstProgramRemainingSeconds := floored.2,
          planResolutionStartedAt := startedAt } rfl d
      refine ⟨?_, hstarts⟩
      revert hstarts
      generalize yieldStart setup a.preparedReload floored.1 _ d = steps
      intro _
      cases steps with
      | finished outcome => exact h.kept
      | goesOn resume | yields plan supplied resume => exact h

/-! ### The launch -/

lemma held_le_count {dir : Option Dir} (h : ∀ x, dir = some x → x ∈ loose) (y : Dir) :
    held dir y ≤ loose.count y := by
  unfold held
  split
  · rename_i hy
    exact List.count_pos_iff.mpr (h y hy)
  · exact Nat.zero_le _

/-- The directory that comes back from the `yield` of a start. -/
def sentDir (r : StartResume) : Sent → Option Dir
  | none => r.reuse.bind (·.report.planDir)
  | some (.ok report) => report.planDir
  | some (.error _) => none

lemma gives_receiveStart (r : StartResume) (sent : Sent) :
    (receiveStart setup r sent).Gives fun p =>
      p.planDir = none ∨ p.planDir = sentDir r sent := by
  unfold receiveStart
  split
  · exact gives_pure (.inr rfl)
  · rename_i hreuse
    exact gives_pure (.inr (by simp [sentDir, hreuse]))
  · exact gives_ite (gives_pure (.inr rfl)) (gives_pure (.inl rfl))
  · exact gives_pure (.inl rfl)
  · exact gives_ite (gives_bind fun _ => gives_bind fun _ => gives_pure (.inl rfl)) gives_raise

/-- The encoder has just been started, and is not tracked yet. -/
def Fired (loose : List Dir) (p : Prepared) (up : Launched) (w : World) : Prop :=
  ∃ w₀ dir, Cleared loose w₀ ∧ w = w₀.launched w₀.fresh dir ∧ up.process = w₀.fresh ∧
    dir = if up.usingFallbackSlate && !p.usingFallbackSlate then none else p.planDir

lemma launch_ends {plan : SourcePlan} {dir : Option Dir} {K : Except Fault Proc → World → Prop}
    {E : World → Prop} (hok : ∀ w, Cleared loose w → K (.ok w.fresh) (w.launched w.fresh dir))
    (herror : ∀ fault w, Cleared loose w → K (.error fault) w) :
    Ends q (Cleared loose) (call (.launch plan dir)) K E := by
  intro w hw
  rw [wp_call]
  intro x hx _
  cases x with
  | ok p =>
    have hp : p = w.fresh := by simpa [legal] using hx
    subst hp
    exact hok w hw
  | error fault => exact herror fault w hw

/-- A launch that fired, or failed and left nothing. -/
def Tried (loose : List Dir) (p : Prepared) (plan : SourcePlan) (slate : Bool) :
    Except Fault Proc → World → Prop
  | .ok process => Fired loose p ⟨plan, slate, process⟩
  | .error _ => Cleared loose

lemma launchEncoder_ends (p : Prepared) :
    Ends q (Cleared loose) (launchEncoder setup p) (Fired loose p) (Cleared loose) := by
  refine .bind (launch_ends (K := Tried loose p p.sourcePlan p.usingFallbackSlate) ?_
    fun _ _ h => h) fun started => ?_
  · intro w hw
    refine ⟨w, _, hw, rfl, rfl, ?_⟩
    simp
  · cases started with
    | ok process => exact ends_pure fun _ h => h
    | error fault =>
      intro w hw
      refine wp_if.mpr ⟨fun hslate => ?_, fun _ => hw⟩
      have hprogram : p.usingFallbackSlate = false := by
        simp only [Bool.and_eq_true, Bool.not_eq_true'] at hslate
        exact hslate.2
      refine (?_ : Ends q (Cleared loose) _ _ (Cleared loose)) w hw
      refine .before steady_cleared tame_fallbackPlan.plain (fun _ => id) fun slate => ?_
      refine .before steady_cleared tame_writeState.plain (fun _ => id) fun _ => ?_
      refine .before steady_cleared tame_assist.plain (fun _ => id) fun _ => ?_
      refine .bind (launch_ends (K := Tried loose p slate true) ?_ fun _ _ h => h) fun again => ?_
      · intro w hw
        refine ⟨w, _, hw, rfl, rfl, ?_⟩
        simp [hprogram]
      · cases again with
        | ok process => exact ends_pure fun _ h => h
        | error fault => exact ends_raise fun _ h => h

lemma Cleared.tracked {w₀ : World} (h : Cleared loose w₀) {dir : Option Dir} {d : Attrs}
    (hprocess : d.process = some w₀.fresh) (hsettle : d.settle = none)
    (hpreparation : d.preparation = none) (hdir : dir = none ∨ dir = d.activeDir)
    (hholders : ∀ y, d.holders [] y ≤ w₀.d.holders loose y) :
    Kept [] ((w₀.launched w₀.fresh dir).setD d) := by
  have hlive : ((w₀.launched w₀.fresh dir).setD d).live =
      some ⟨w₀.fresh, true, dir, none, none⟩ := by
    rw [live_eq rfl]
    exact if_pos ⟨rfl, hprocess⟩
  have hlt : w₀.fresh < w₀.fresh + 1 := Nat.lt_succ_self _
  refine ⟨h.kept.clean, h.kept.holders.mono hholders (Nat.le_succ _), ?_, ?_, ?_, ?_, ?_, ?_⟩
  · intro p hp
    have hsame : some w₀.fresh = some p := hprocess.symm.trans hp
    rw [← some.inj hsame]
    exact hlt
  · intro id result hstatus
    exact (h.kept.status id result hstatus).trans hlt
  · intro k id hk hid
    cases hk
    cases hid
  · intro k id dir' hk haccepted
    cases hk
    cases haccepted
  · intro k hk
    rw [hlive] at hk
    cases hk
    -- the new worker has accepted nothing, and nothing is pending
    refine ⟨?_, ?_, fun _ => hdir, ?_⟩
    · intro id dir' haccepted
      cases haccepted
    · intro s hs
      rw [setD_d, hsettle] at hs
      cases hs
    · intro s hs
      rw [setD_d, hsettle] at hs
      cases hs
  · intro pending r hpending
    rw [setD_d, hpreparation] at hpending
    cases hpending

/-- What is left of `bringUp` once the encoder has been started. -/
lemma track_ends {p : Prepared} (hloose : ∀ x, p.planDir = some x → x ∈ loose)
    {up : Launched} {w : World} (hw : Fired loose p up w) (now : ℚ) {E : World → Prop} :
    (bindPlanDir p up).wp (machine q) (Post (fun _ => Kept []) E)
      (w.setD { w.d with process := some up.process, startedAt := some now,
                         onAirConfirmedAt := none }) := by
  rcases hw with ⟨w₀, dir, hcleared, rfl, hprocess, hdir⟩
  have hless := held_le_count hloose
  refine wp_if.mpr ⟨fun hslate => ?_, fun hprogram => ?_⟩
  · -- the slate airs no file: the directory is released
    rw [wp_releasePreparedPlanDir]
    rw [if_pos hslate] at hdir
    subst hdir
    refine Kept.releaseOpt ?_ ?_
    · refine hcleared.tracked (congrArg some hprocess) hcleared.2 hcleared.1.1.2 (.inl rfl) ?_
      intro y
      unfold holders
      simp [launched]
    · intro y _
      unfold inUse
      rw [live_eq rfl, hprocess]
      split
      · rfl
      · rename_i k hk
        rw [if_pos ⟨rfl, rfl⟩] at hk
        cases hk
        simp
  · -- a program's directory becomes the active one
    rw [if_neg hprogram] at hdir
    subst hdir
    refine wp_if.mpr ⟨fun _ => ?_, fun hnone => ?_⟩
    · rw [wp_modify]
      refine hcleared.tracked (congrArg some hprocess) hcleared.2 hcleared.1.1.2 (.inr rfl) ?_
      intro y
      have hy := hless y
      unfold holders
      simp only [setD_d, launched, List.count_nil]
      omega
    · have hnone : p.planDir = none := by simpa using hnone
      refine hcleared.tracked (congrArg some hprocess) hcleared.2 hcleared.1.1.2 (.inl hnone) ?_
      intro y
      unfold holders
      simp [launched]

lemma bringUp_ends (previousState : Option EgressState) {p : Prepared}
    (hloose : ∀ x, p.planDir = some x → x ∈ loose) :
    Ends q (Cleared loose) (bringUp setup previousState p) (fun _ => Kept []) (Cleared loose) := by
  refine .before steady_cleared tame_writeState.plain (fun _ => id) fun _ => ?_
  refine .before steady_cleared tame_assist.plain (fun _ => id) fun _ => ?_
  refine .before steady_cleared tame_announceTransition.plain (fun _ => id) fun _ => ?_
  refine .before steady_cleared tame_writeState.plain (fun _ => id) fun _ => ?_
  refine .before steady_cleared tame_assist.plain (fun _ => id) fun _ => ?_
  refine (launchEncoder_ends setup p).bind fun up => ?_
  intro w hw
  rw [wp_bind, wp_monotonic]
  intro now _
  rw [bindPost_ok, wp_bind, wp_modify, bindPost_ok]
  refine wp_seq (track_ends hloose hw now) (fun _ w' hw' => ?_) fun _ _ h => h
  exact hw'

/-! ### The start as a whole -/

lemma recordStart_ends (hstore : q.storeWorks = true) (r : StartResume) (up : Launched)
    {E : World → Prop} : Ends q (Kept []) (recordStart r up) (fun _ => Kept []) E := by
  intro w hw
  simp only [recordStart, wp_bind, wp_appendProofEvent, bindPost_ok, wp_assist, wp_writeState,
    recordDispatchedPlan, wp_modify, appendHealth, wp_pure, hstore, Bool.true_eq_false,
    false_implies, and_true]
  exact hw.of_eq rfl rfl rfl rfl (Nat.le_succ _)

lemma startFinish_ends (hstore : q.storeWorks = true) {r : StartResume} {sent : Sent}
    (hloose : ∀ x, sentDir r sent = some x → x ∈ loose) :
    Ends q (Cleared loose) (startFinish setup r sent) (fun _ => Kept []) (Kept loose) := by
  have hkept : ∀ w, Cleared loose w → Kept loose w := fun _ h => h.kept
  refine .startGuarded (steady_kept loose) ?_ fun _ h => h.forgetAll
  refine .before_giving steady_cleared (tame_receiveStart setup r).plain
    (gives_receiveStart setup r sent) hkept fun p hp => ?_
  have hplan : ∀ x, p.planDir = some x → x ∈ loose := by
    intro x hx
    rcases hp with hnone | hsent
    · rw [hnone] at hx
      cases hx
    · exact hloose x (hsent.symm.trans hx)
  refine .before steady_cleared (tame_startExpired r p).plain hkept fun expired => ?_
  refine .ite ?_ ?_
  · refine .bind (.of_keeps cleared_release hkept) fun _ => ?_
    exact .ite (ends_pure fun _ h => h.kept.forgetAll) (ends_raise hkept)
  · have hup : Ends q (Cleared loose) (releaseOnError p.planDir (bringUp setup r.previousState p))
        (fun _ => Kept []) (Kept loose) := by
      have hbring := (bringUp_ends (q := q) setup r.previousState hplan).releaseOnError
        (fun _ h => h.releaseOpt p.planDir)
      exact hbring.mono (fun _ => id) (fun _ _ => id) hkept
    exact hup.bind fun up => recordStart_ends hstore r up

lemma Kept.suspend {w : World} (h : Kept loose w) {pending : Preparation}
    (hsupplied : ∀ y, held (pending.suppliedReport.bind (·.planDir)) y ≤ loose.count y)
    (hstart : ∀ r, pending.resume = .start r → w.live = none ∧ w.d.settle = none) :
    Kept [] (w.setD { w.d with preparation := some pending }) := by
  refine h.rearrange rfl rfl rfl ?_ ?_
  · intro y
    have hy := hsupplied y
    unfold Attrs.holders
    simp only [List.count_nil, bind_some]
    omega
  · intro pending' r hpending hr
    cases hpending
    exact hstart r hr

lemma submit_ends (hstore : q.storeWorks = true) {plan : SourcePlan} {supplied : Option Report}
    {resume : Resume} {slateFirst : Bool} {J E : World → Prop} (hJ : ∀ w, J w → Kept loose w)
    (hsupplied : ∀ y, held (supplied.bind (·.planDir)) y ≤ loose.count y)
    (hstart : ∀ w r, J w → resume = .start r → w.live = none ∧ w.d.settle = none) :
    Ends q J (do
      let ticket : ℕ ← call (.submit plan)
      let config ← getConfig
      modify fun d => { d with
        preparation := some ⟨resume, ticket, d.process, config, slateFirst, supplied⟩ }
      return Outcome.pending) (fun outcome w => outcome = .pending ∧ Kept [] w) E := by
  intro w hw
  simp only [wp_bind, wp_call, bindPost_ok, wp_getConfig, wp_modify, wp_pure, next, hstore,
    Bool.true_eq_false, false_implies, and_true]
  intro ticket _ _
  have hfresh : Kept loose { w with fresh := w.fresh + 1 } :=
    (hJ w hw).of_eq rfl rfl rfl rfl (Nat.le_succ _)
  exact ⟨rfl, hfresh.suspend hsupplied fun r hr => hstart w r hw hr⟩

lemma prepare_ends {plan : SourcePlan} {J : World → Prop}
    {K : Except Fault Report → World → Prop} {E : World → Prop}
    (hok : ∀ w report, J w → (report.planDir = none ∨ report.planDir = some w.fresh) →
      K (.ok report) { w with fresh := w.fresh + 1 })
    (herror : ∀ w fault, J w → K (.error fault) w) : Ends q J (call (.prepare plan)) K E := by
  intro w hw
  rw [wp_call]
  intro x hx _
  cases x with
  | ok report =>
    refine hok w report hw ?_
    simp only [legal, Report.isMadeFrom, Bool.and_eq_true, Bool.or_eq_true, decide_eq_true_eq] at hx
    exact hx.2
  | error fault => exact herror w fault hw

lemma driveStart_ends (hstore : q.storeWorks = true) (a : StartArgs) (startedAt : ℚ)
    (hloose : ∀ x, a.preparedReload.bind (·.report.planDir) = some x → x ∈ loose) :
    Ends q (Unprepared loose) (drive (startSteps setup a startedAt) (resumeWith setup) false)
      (fun _ => Kept []) (Kept loose) := by
  have hkept : ∀ w, Unprepared loose w → Kept loose w := fun _ h => h.1
  refine .before steady_unprepared tame_self.plain hkept fun d => ?_
  refine .ite (ends_pure fun _ h => h.1.forgetAll) ?_
  refine (startSteps_ends setup hloose).bind fun steps => ?_
  cases steps with
  | finished outcome => exact ends_pure fun _ h => h.1.forgetAll
  | goesOn resume =>
    intro w hw
    rcases hw with ⟨hcleared, r, rfl, hreuse⟩
    refine startFinish_ends setup hstore ?_ w hcleared
    intro x hx
    rcases hreuse with hnone | hprepared
    · rw [sentDir, hnone] at hx
      cases hx
    · rw [sentDir, hprepared] at hx
      exact hloose x hx
  | yields plan supplied resume =>
    -- the media is prepared now, or handed to the executor
    intro w hw
    rcases hw with ⟨hcleared, ⟨r, rfl⟩, hsupplied⟩
    have hsupplied : ∀ x, supplied.bind (·.planDir) = some x → x ∈ loose := by
      intro x hx
      rcases hsupplied with hnone | hprepared
      · rw [hnone] at hx
        cases hx
      · exact hloose x (hprepared.symm.trans hx)
    refine (?_ : Ends q (Cleared loose) _ _ (Kept loose)) w hcleared
    refine .before steady_cleared tame_self.plain (fun _ h => h.kept) fun d => ?_
    refine .ite ?_ ?_
    · refine (submit_ends hstore (fun _ h => h.kept)
        (held_le_count hsupplied) ?_).mono (fun _ => id) (fun _ _ h => h.2) (fun _ => id)
      exact fun _ _ h _ => ⟨h.1.2, h.2⟩
    · cases supplied with
      | some report => exact startFinish_ends setup hstore hsupplied
      | none =>
        refine .bind (prepare_ends
          (K := fun sent w => Cleared ((sentDir r (some sent)).toList ++ loose) w) ?_ ?_)
          fun sent => ?_
        · intro w report hw hdir
          exact hw.make hdir
        · intro w fault hw
          exact hw
        · -- a start that fails gives up the directory that was made
          refine (startFinish_ends setup hstore ?_).mono (fun _ => id) (fun _ _ => id) ?_
          · intro x hx
            rw [hx]
            simp
          · intro w hw
            refine hw.forget ?_
            intro y
            rw [List.count_append]
            omega

/-- A start keeps the media in use, over the start and the reload it may go on with. -/
lemma startWith_leads (hstore : q.storeWorks = true) {start : StartArgs → DaemonM Unit}
    (hstart : ∀ a : StartArgs, a.preparedReload = none →
      (start a).Leads (machine q) (Kept []) (Kept []) fun _ => True)
    (hhandOff : (handOffSlateFirstProgram setup start).Leads (machine q) (Kept []) (Kept [])
      fun _ => True) (a : StartArgs) :
    (startWith setup start a).Leads (machine q) (Kept (ReusePreparedPlan.dirs a.preparedReload))
      (Kept []) fun _ => True := by
  have hloose : ∀ x, a.preparedReload.bind (·.report.planDir) = some x →
      x ∈ ReusePreparedPlan.dirs a.preparedReload := by
    intro x hx
    unfold ReusePreparedPlan.dirs
    rw [hx]
    simp
  have hrelease : ∀ w, Kept (ReusePreparedPlan.dirs a.preparedReload) w →
      Kept (ReusePreparedPlan.dirs a.preparedReload)
        (w.releaseOpt (a.preparedReload.bind (·.report.planDir))) :=
    fun w hw => hw.releaseOpt fun x hx => hw.loose_not_inUse (hloose x hx)
  apply Ends.leads
  intro w hw
  rw [startWith, wp_bind, wp_self, bindPost_ok]
  refine wp_if.mpr ⟨fun _ => ?_, fun hnone => ?_⟩
  · -- a preparation is under way: the start gives its own plan up
    rw [releasePreparedRestartPlan, wp_releasePreparedPlanDir]
    exact (hrelease w hw).forgetAll
  · have hunprepared : Unprepared (ReusePreparedPlan.dirs a.preparedReload) w :=
      ⟨hw, by simpa using hnone⟩
    refine (?_ : Ends q (Unprepared _) _ _ (Kept [])) w hunprepared
    refine .before steady_unprepared tame_resolutionStart.plain
      (fun _ h => h.1.forgetAll)
      fun startedAt => ?_
    have hdrive := ((driveStart_ends setup hstore a startedAt hloose).releaseOnError hrelease).mono
      (fun _ => id) (fun _ _ => id) fun _ h => h.forgetAll
    refine hdrive.bind fun outcome => ?_
    cases outcome with
    | startExpired => exact .of_leads (hstart _ rfl)
    | slateFirst => exact .of_leads hhandOff
    | _ => exact ends_pure fun _ => id

end Starts

/-! ## Reloads -/

/-- No settlement is dropped that the worker airs or may still apply. -/
lemma not_mayAir_of_allows {q : Promises} {w : World} {reason : DropReason}
    (hdrops : q.dropsSettled = true) (h : q.allows w (.dropSettle reason) () = true) :
    ∀ s, w.d.settle = some s → w.mayAir s.reloadId = false := by
  intro s hs
  simpa [Promises.allows, hdrops, hs] using h

namespace World

@[simp] lemma dropSettle_worker (w : World) : w.dropSettle.worker = w.worker := by
  unfold dropSettle
  split <;> simp

@[simp] lemma dropSettle_status (w : World) : w.dropSettle.status = w.status := by
  unfold dropSettle
  split
  · rfl
  · rename_i s _
    cases s.planDir <;> rfl

@[simp] lemma dropSettle_fresh (w : World) : w.dropSettle.fresh = w.fresh := by
  unfold dropSettle
  split
  · rfl
  · rename_i s _
    cases s.planDir <;> rfl

/-- The newest reload that the worker has accepted. -/
def accepting (w : World) (request : Option (ℕ × Option Dir)) : World :=
  { w with worker := w.worker.map fun k => { k with accepted := request } }

lemma live_accepting (w : World) (request : Option (ℕ × Option Dir)) :
    (w.accepting request).live = w.live.map fun k => { k with accepted := request } := by
  unfold live accepting
  cases w.worker with
  | none => rfl
  | some k =>
    simp only [map_some, filter_some]
    split <;> rfl

lemma inUse_accepting {w : World} {id : ℕ} {dir : Option Dir} {d : Attrs} {x : Dir}
    (hprocess : d.process = w.d.process)
    (h : ((w.accepting (some (id, dir))).setD d).inUse x = true) :
    dir = some x ∨ ∃ k, w.live = some k ∧ k.airing = some x := by
  have hlive : ((w.accepting (some (id, dir))).setD d).live =
      w.live.map fun k => { k with accepted := some (id, dir) } := by
    rw [← live_accepting]
    exact live_congr rfl hprocess
  unfold inUse at h
  rw [hlive] at h
  cases hk : w.live with
  | none =>
    rw [hk] at h
    cases h
  | some k =>
    rw [hk] at h
    simp only [map_some, bind_some, Bool.or_eq_true, decide_eq_true_eq] at h
    rcases h with hairing | hdir
    · exact .inr ⟨k, rfl, hairing⟩
    · exact .inl hdir

end World

section Dispatch

variable {loose : List Dir} {w : World}

lemma Kept.withdraw (h : Kept loose w) : Kept loose (w.accepting none) := by
  refine ⟨h.clean, h.holders, h.process, h.status, ?_, ?_, ?_, ?_⟩
  · intro k id hk hid
    rcases map_eq_some_iff.mp hk with ⟨k₀, hk₀, rfl⟩
    exact h.airing k₀ id hk₀ hid
  · intro k id dir hk haccepted
    rcases map_eq_some_iff.mp hk with ⟨k₀, _, rfl⟩
    cases haccepted
  · intro k hk
    rw [live_accepting] at hk
    rcases map_eq_some_iff.mp hk with ⟨k₀, hk₀, rfl⟩
    have hserves := h.serves k₀ hk₀
    refine ⟨?_, hserves.applied, hserves.active, ?_⟩
    · intro id dir haccepted
      cases haccepted
    · intro s hs hstatus
      exact ⟨(hserves.settled s hs hstatus).1, rfl⟩
  · intro pending r hpending hr
    rcases h.starting pending r hpending hr with ⟨hlive, hsettle⟩
    rw [live_accepting, hlive]
    exact ⟨rfl, hsettle⟩

/-- The worker takes a new reload, and the daemon waits for it to settle. -/
lemma Kept.await (h : Kept loose w) (hsettle : w.d.settle = none) (hlive : w.live ≠ none)
    {s : Settlement} (hid : s.reloadId = w.fresh) (hplan : ∀ x, s.planDir = some x → x ∈ loose) :
    Kept [] ((World.accepting { w with fresh := w.fresh + 1 } (some (w.fresh, s.planDir))).setD
      { w.d with settle := some s }) := by
  have hlt : w.fresh < w.fresh + 1 := Nat.lt_succ_self _
  refine ⟨h.clean, h.holders.mono ?_ (Nat.le_succ _), ?_, ?_, ?_, ?_, ?_, ?_⟩
  · intro y
    have hy := held_le_count hplan y
    unfold Attrs.holders
    simp only [setD_d, hsettle, List.count_nil, bind_some, bind_none, held_none]
    omega
  · exact fun p hp => (h.process p hp).trans hlt
  · exact fun id result hstatus => (h.status id result hstatus).trans hlt
  · intro k id hk hairing
    rcases map_eq_some_iff.mp hk with ⟨k₀, hk₀, rfl⟩
    exact (h.airing k₀ id hk₀ hairing).trans hlt
  · intro k id dir hk haccepted
    rcases map_eq_some_iff.mp hk with ⟨k₀, _, rfl⟩
    cases haccepted
    exact hlt
  · intro k hk
    have hk : (accepting w (some (w.fresh, s.planDir))).live = some k := hk
    rw [live_accepting] at hk
    rcases map_eq_some_iff.mp hk with ⟨k₀, hk₀, rfl⟩
    refine ⟨?_, ?_, ?_, ?_⟩
    · intro id dir haccepted
      cases haccepted
      exact ⟨s, rfl, hid, rfl⟩
    · -- no worker airs an id that is new
      intro s' hs' hairing
      cases hs'
      have hold := h.airing k₀ s.reloadId (worker_of_live hk₀).1 hairing
      rw [hid] at hold
      exact absurd hold (lt_irrefl _)
    · intro _
      apply (h.serves k₀ hk₀).active
      intro s' hs'
      rw [hsettle] at hs'
      cases hs'
    · intro s' hs' hstatus
      cases hs'
      have hold := h.status s.reloadId .applied hstatus
      rw [hid] at hold
      exact absurd hold (lt_irrefl _)
  · intro pending r hpending hr
    exact absurd (h.starting pending r hpending hr).1 hlive

/-- The settlement that a newer reload replaces takes no media in use along. -/
lemma Kept.supersede_clean (h : Kept loose w) {id : ℕ} {dir : Option Dir}
    (hdir : ∀ x, dir = some x → x ∈ loose)
    (hdrop : ∀ s, w.d.settle = some s → (w.accepting (some (id, dir))).mayAir s.reloadId = false) :
    (w.accepting (some (id, dir))).dropSettle.releasedInUse = false := by
  unfold World.dropSettle
  split
  · exact h.clean
  · rename_i s hs
    have hs : w.d.settle = some s := hs
    cases hplan : s.planDir with
    | none => exact h.clean
    | some x =>
      have honce := h.holders.once x
      unfold Attrs.holders at honce
      rw [hs, bind_some, hplan, held_self] at honce
      show (w.releasedInUse || inUse _ x) = false
      rw [h.clean, Bool.false_or, Bool.eq_false_iff]
      intro huse
      rcases inUse_accepting rfl huse with hnew | ⟨k, hk, hairing⟩
      · have hcount := List.count_pos_iff.mpr (hdir x hnew)
        omega
      · have hother : k.airingId ≠ some s.reloadId := by
          have hidle := hdrop s hs
          unfold mayAir at hidle
          rw [live_accepting, hk] at hidle
          simp only [map_some, Bool.or_eq_false_iff, decide_eq_false_iff_not] at hidle
          exact hidle.1
        have hactive : k.airing = none ∨ k.airing = w.d.activeDir := by
          apply (h.serves k hk).active
          intro s' hs'
          rw [hs] at hs'
          cases hs'
          exact hother
        -- it airs the active directory, which another register holds
        rcases hactive with hnone | hactive
        · rw [hairing] at hnone
          cases hnone
        · rw [← hactive, hairing, held_self] at honce
          omega

lemma Kept.supersede (w' : World) (s : Settlement) (h : Kept loose w) (hlive : w.live ≠ none)
    (hid : s.reloadId = w.fresh) (hplan : ∀ x, s.planDir = some x → x ∈ loose)
    (hworker : w'.worker = w.worker) (hd : w'.d = w.d) (hstatus : w'.status = w.status)
    (hclean : w'.releasedInUse = w.releasedInUse) (hfresh : w'.fresh = w.fresh + 1)
    (hdrop : ∀ s', w'.d.settle = some s' →
      (w'.accepting (some (w.fresh, s.planDir))).mayAir s'.reloadId = false) {d : Attrs}
    (hholding : d.holding =
      { (w'.accepting (some (w.fresh, s.planDir))).dropSettle.d with settle := some s }.holding) :
    Kept [] ((w'.accepting (some (w.fresh, s.planDir))).dropSettle.setD d) := by
  have hlive' : w'.live = w.live := live_congr hworker (by rw [hd])
  have hkept' : Kept loose w' :=
    h.of_eq (by rw [hd]) hworker hstatus hclean (by rw [hfresh]; exact Nat.le_succ _)
  -- what was pending before can be dropped: the worker does not air it
  have hidle : ∀ s', (w.accepting none).d.settle = some s' →
      (w.accepting none).mayAir s'.reloadId = false := by
    intro s' hs'
    have hnew := hdrop s' (by rw [hd]; exact hs')
    unfold mayAir at hnew ⊢
    rw [live_accepting, hlive'] at hnew
    rw [live_accepting]
    cases hk : w.live with
    | none => rfl
    | some k =>
      rw [hk] at hnew
      simp only [map_some, Bool.or_eq_false_iff, decide_eq_false_iff_not] at hnew
      simpa using hnew.1
  have hbase := h.withdraw.dropSettle hidle
  have hbaseLive : (w.accepting none).dropSettle.live = (w.accepting none).live :=
    live_congr (dropSettle_worker _) (by rw [dropSettle_d])
  have hawait := hbase.await (by rw [dropSettle_d])
    (by
      rw [hbaseLive, live_accepting]
      simpa using hlive)
    (by
      rw [dropSettle_fresh]
      exact hid) hplan
  refine hawait.of_eq ?_ ?_ ?_ ?_ ?_
  · rw [setD_d, setD_d, hholding, dropSettle_d, dropSettle_d]
    show holding { w'.d with settle := some s } = holding { w.d with settle := some s }
    rw [hd]
  · simp [accepting, hworker, map_map, Function.comp_def]
  · simp [accepting, hstatus]
  · have hnone : (w'.accepting (some (w.fresh, s.planDir))).dropSettle.releasedInUse = false :=
      hkept'.supersede_clean hplan hdrop
    exact hnone.trans hbase.clean.symm
  · simp [accepting, hfresh]

end Dispatch

section Reloads

variable {q : Promises} (setup : Setup) {loose : List Dir}

lemma dropSettle_keeps (hdrops : q.dropsSettled = true) {reason : DropReason} :
    Preserves q (Kept loose) (call (.dropSettle reason)) := by
  rw [Preserves, keeps_iff]
  intro w hw
  rw [wp_dropSettle]
  exact fun hallows => hw.dropSettle (not_mayAir_of_allows hdrops hallows)

/-- The directory of a plan that is handed on. -/
def Outcome.dirs : Outcome → List Dir
  | .reuse plan => plan.report.planDir.toList
  | _ => []

lemma dispatchReload_ends (hdrops : q.dropsSettled = true) (r : ReloadResume) (plan : SourcePlan)
    {dir : Option Dir} (hdir : ∀ x, dir = some x → x ∈ loose) {deferred : Bool} :
    Ends q (Kept loose) (dispatchReload r plan dir deferred)
      (fun outcome => Kept outcome.dirs) (Kept []) := by
  intro w hw
  rw [dispatchReload, wp_bind, wp_call]
  intro id hfresh _
  have hid : id = w.fresh := by simpa [legal] using hfresh
  subst hid
  have hnext : Kept loose { w with fresh := w.fresh + 1 } :=
    hw.of_eq rfl rfl rfl rfl (Nat.le_succ _)
  rw [bindPost_ok]
  rw [wp_bind, wp_call]
  intro armed hlegal _
  rw [bindPost_ok]
  have hhanded : ∀ req, Kept loose (handed { w with fresh := w.fresh + 1 } req) :=
    fun req => hnext.of_eq rfl rfl rfl rfl le_rfl
  rcases armed with e | _ | _
  · exact (hhanded _).forgetAll
  · refine (?_ : Ends q (Kept loose) _ _ (Kept [])) _ (hhanded _)
    exact .before (steady_kept loose) (tame_reloadDeclined r).plain (fun _ h => h.forgetAll)
      fun _ => ends_pure fun _ h => h.forgetAll
  · have hlive : w.live ≠ none := by
      have hsome : w.live.isSome = true := hlegal
      exact isSome_iff_ne_none.mp hsome
    simp only [awaitSettlement, wp_bind, wp_dropSettle, bindPost_ok, wp_modify, wp_monotonic,
      wp_utcNow, wp_pure, setD_setD, setD_d]
    intro hallows now _ unix
    have hdrop := not_mayAir_of_allows hdrops hallows
    let req : ReloadRequest :=
      ⟨w.fresh, plan, r.sourcePlan, dir, deferred, r.scheduledStartAt⟩
    exact Kept.supersede (handed { w with fresh := w.fresh + 1 } req)
      (settlementOf r req now unix) hw hlive rfl hdir rfl rfl rfl rfl rfl hdrop rfl

/-- The directory that comes back from the `yield` of a reload. -/
def reportDirs : Sent → List Dir
  | some (.ok report) => report.planDir.toList
  | _ => []

lemma gives_receiveReload (r : ReloadResume) (sent : Sent) :
    (receiveReload r sent).Gives fun received => ∀ plan report, received = some (plan,
      some report) →
      sent = some (.ok report) := by
  unfold receiveReload
  split
  · exact gives_pure fun _ _ h => by cases h
  · refine gives_ite (gives_pure ?_) (gives_pure fun _ _ h => by cases h)
    intro plan report h
    cases h
    rfl
  · exact gives_ite (gives_bind fun _ => gives_pure fun _ _ h => by cases h) gives_raise

lemma reloadFinish_ends (hdrops : q.dropsSettled = true) (r : ReloadResume) (sent : Sent) :
    Ends q (Kept (reportDirs sent)) (reloadFinish r sent) (fun outcome => Kept outcome.dirs)
      (Kept []) := by
  have hforget : ∀ w, Kept (reportDirs sent) w → Kept [] w := fun _ h => h.forgetAll
  refine .before_giving (steady_kept _) (tame_receiveReload r).plain
    (gives_receiveReload r sent) hforget fun received hreceived => ?_
  match received, hreceived with
  | none, _ => exact ends_pure hforget
  | some (plan, report), hreceived =>
    have hdir : ∀ x, report.bind (·.planDir) = some x → x ∈ reportDirs sent := by
      intro x hx
      rcases bind_eq_some_iff.mp hx with ⟨report', rfl, hplan⟩
      rw [hreceived plan report' rfl, reportDirs, hplan]
      simp
    refine .before (steady_kept _) tame_missedStart.plain hforget fun late => ?_
    refine .ite ?_ ?_
    · intro w hw
      rw [wp_bind, wp_releasePreparedPlanDir]
      exact (hw.releaseOpt fun x hx => hw.loose_not_inUse (hdir x hx)).forgetAll
    · refine .before (steady_kept _) tame_assist.plain hforget fun _ => ?_
      refine .before (steady_kept _) tame_self.plain hforget fun d => ?_
      refine .before (steady_kept _) (plain_call trivial) hforget fun now => ?_
      refine .ite ?_ (dispatchReload_ends hdrops r plan hdir)
      cases report with
      | none => exact ends_pure hforget
      | some report =>
        refine ends_pure fun w hw => ?_
        rw [hreceived plan report rfl] at hw
        exact hw

/-- A reload brings no directory of its own. -/
def ReloadsOn : Steps → Prop
  | .finished outcome => outcome.dirs = []
  | .goesOn resume => ∃ r, resume = .reload r
  | .yields _ supplied resume => (∃ r, resume = .reload r) ∧ supplied.bind (·.planDir) = none

lemma gives_reloadSteps_on (state : StateRow) (process : Proc) (a : ReloadArgs) :
    (reloadSteps setup state process a).Gives ReloadsOn := by
  refine gives_reloadSteps_of setup state a rfl rfl fun r d _ => ?_
  unfold yieldReload
  split
  · exact ⟨_, rfl⟩
  · split
    · exact ⟨⟨_, rfl⟩, rfl⟩
    · split
      · exact ⟨⟨_, rfl⟩, rfl⟩
      · exact ⟨_, rfl⟩

lemma driveReload_ends (hstore : q.storeWorks = true) (hdrops : q.dropsSettled = true)
    (state : StateRow) (process : Proc) (a : ReloadArgs) {slateFirst : Bool} :
    Ends q (Kept []) (drive (reloadSteps setup state process a) (resumeWith setup) slateFirst)
      (fun outcome => Kept outcome.dirs) (Kept []) := by
  refine .before (steady_kept []) tame_self.plain (fun _ => id) fun d => ?_
  refine .ite (ends_pure fun _ => id) ?_
  refine .before_giving (steady_kept []) (resolving_reloadSteps setup state process a).plain
    (gives_reloadSteps_on setup state process a) (fun _ => id) fun steps hsteps => ?_
  cases steps with
  | finished outcome =>
    refine ends_pure fun w hw => ?_
    have hnone : outcome.dirs = [] := hsteps
    rw [hnone]
    exact hw
  | goesOn resume =>
    rcases hsteps with ⟨r, rfl⟩
    exact reloadFinish_ends hdrops r none
  | yields plan supplied resume =>
    rcases hsteps with ⟨⟨r, rfl⟩, hsupplied⟩
    refine .before (steady_kept []) tame_self.plain (fun _ => id) fun d => ?_
    refine .ite ?_ ?_
    · -- in the background: the executor takes it over
      have hkept : ∀ w, Kept [] w → Kept [] w := fun _ => id
      refine (submit_ends hstore hkept ?_ ?_).mono hkept ?_ hkept
      · intro y
        rw [hsupplied, held_none]
        exact Nat.zero_le _
      · intro w r' _ hr
        cases hr
      · rintro outcome w ⟨rfl, hw⟩
        exact hw
    · cases supplied with
      | some report =>
        have hnone : report.planDir = none := hsupplied
        refine (reloadFinish_ends hdrops r (some (.ok report))).mono ?_ (fun _ _ => id)
          (fun _ => id)
        intro w hw
        rw [reportDirs, hnone]
        exact hw
      | none =>
        refine .bind (prepare_ends ?_
          fun _ _ h => h) fun sent => reloadFinish_ends hdrops r (some sent)
        intro w report hw hdir
        have hmade := hw.make hdir
        rw [List.append_nil] at hmade
        exact hmade

/-! ### Falling back to a restart -/

lemma Kept.discardRestartPlan {w : World} (h : Kept loose w) :
    Kept loose ((w.setD { w.d with restartPlan := none }).releaseOpt
      (w.d.restartPlan.bind (·.report.planDir))) := by
  have hdropped : Kept loose (w.setD { w.d with restartPlan := none }) := by
    refine h.rearrange rfl rfl rfl ?_ h.starting
    intro y
    unfold Attrs.holders
    simp
  apply hdropped.releaseOpt
  intro y hy
  have huse : (w.setD { w.d with restartPlan := none }).inUse y = w.inUse y := rfl
  rw [huse]
  apply h.not_inUse
  unfold Attrs.holders
  rw [hy, held_self]
  omega

lemma discardPreparedRestartPlan_keeps : Preserves q (Kept loose) discardPreparedRestartPlan := by
  rw [Preserves, keeps_iff]
  intro w hw
  simp only [discardPreparedRestartPlan, wp_bind, wp_self, bindPost_ok, wp_modify,
    releasePreparedRestartPlan, wp_releasePreparedPlanDir]
  exact hw.discardRestartPlan

lemma stashIfPrepared_leads {prepared : Option ReusePreparedPlan} :
    (stashIfPrepared prepared).Leads (machine q) (Kept (ReusePreparedPlan.dirs prepared))
      (Kept []) fun _ => True := by
  apply Ends.leads
  intro w hw
  cases prepared with
  | none => exact hw
  | some plan =>
    simp only [stashIfPrepared, stashPreparedRestartPlan, discardPreparedRestartPlan, wp_bind,
      wp_self, bindPost_ok, wp_modify, releasePreparedRestartPlan, wp_releasePreparedPlanDir]
    have hplan : ∀ x, plan.report.planDir = some x →
        x ∈ ReusePreparedPlan.dirs (some plan) := by
      intro x hx
      unfold ReusePreparedPlan.dirs
      rw [bind_some, hx]
      simp
    refine hw.discardRestartPlan.rearrange rfl rfl rfl ?_ hw.discardRestartPlan.starting
    intro y
    have hy := held_le_count hplan y
    unfold holders
    simp only [releaseOpt_d, setD_d, List.count_nil, bind_some, bind_none, held_none]
    omega

lemma fallBack_leads (hdrops : q.dropsSettled = true) (failed : Bool)
    (prepared : Option ReusePreparedPlan) (planEndAt : Option Instant) :
    (fallBackToRestartReload failed prepared planEndAt).Leads (machine q)
      (Kept (ReusePreparedPlan.dirs prepared)) (Kept []) fun _ => True := by
  refine Keeps.bindLeads (dropSettle_keeps hdrops) (fun _ h => h.forgetAll) fun _ => ?_
  refine Leads.bindKeeps stashIfPrepared_leads fun _ => ?_
  refine ((steady_kept []).keeps tame_readState.plain).bind fun state => ?_
  refine ((steady_kept []).keeps tame_self.plain).bind fun d => ?_
  refine ((steady_kept []).keeps tame_armPendingReload.plain).bind fun _ => ?_
  exact (steady_kept []).keeps tame_announceRestart.plain

lemma cancelPreparation_keeps : Preserves q (Kept loose) (call .cancelPreparation) := by
  rw [Preserves, keeps_iff]
  intro w hw
  rw [wp_cancelPreparation]
  exact hw.cancelPreparation

lemma fallBack_keeps (hdrops : q.dropsSettled = true) {failed : Bool} {planEndAt : Option Instant} :
    Preserves q (Kept []) (fallBackToRestartReload failed none planEndAt) :=
  fallBack_leads hdrops failed none planEndAt

variable (hstore : q.storeWorks = true) (hdrops : q.dropsSettled = true)
include hstore hdrops

lemma tryContentReload_keeps
    {state : StateRow} {process : Proc} {a : ReloadArgs} {slateFirst : Bool} :
    Preserves q (Kept []) (tryContentReload setup state process a slateFirst) := by
  refine cancelPreparation_keeps.bind fun _ => Ends.leads ?_
  refine (driveReload_ends setup hstore hdrops state process a).bind fun outcome => ?_
  cases outcome with
  | reuse plan =>
    exact (Ends.of_leads (fallBack_leads hdrops false (some plan) none)).bind fun _ =>
      ends_pure fun _ => id
  | _ => exact ends_pure fun _ => id

lemma requestReloadWith_keeps {start : StartArgs → DaemonM Unit}
    (hstart : ∀ a : StartArgs, a.preparedReload = none → Preserves q (Kept []) (start a))
    (a : RequestArgs) : Preserves q (Kept []) (requestReloadWith setup start a) := by
  have hplain : ∀ {α : Type} {p : DaemonM α}, IsPlain p →
      Preserves q (Kept []) p := fun hp => (steady_kept []).keeps hp
  have hmark : ∀ force,
      Preserves q (Kept []) (call (.mark (.requested force))) := by
    intro force
    rw [Preserves, keeps_iff]
    intro w hw
    rw [wp_mark]
    exact fun _ => hw
  refine cancelPreparation_keeps.bind fun _ => ?_
  refine (hplain tame_takeRolloverRecord.plain).bind fun recorded => ?_
  refine (hmark _).bind fun _ => (hplain tame_readState.plain).bind fun state => ?_
  refine (hplain tame_liveProcess.plain).bind fun live => ?_
  cases live with
  | none => exact hstart _ rfl
  | some p =>
    dsimp only
    split
    · exact fallBack_keeps hdrops
    · refine (hplain (tame_scheduledStart setup).plain).bind fun _ => ?_
      refine (tryContentReload_keeps setup hstore hdrops).bind fun armed => ?_
      exact .ite keeps_pure (fallBack_keeps hdrops)

lemma handOff_keeps {start : StartArgs → DaemonM Unit}
    (hstart : ∀ a : StartArgs, a.preparedReload = none → Preserves q (Kept []) (start a)) :
    Preserves q (Kept []) (handOffSlateFirstProgram setup start) :=
  ((steady_kept []).keeps tame_liveProcess.plain).bind fun _ =>
    .ite (requestReloadWith_keeps setup hstore hdrops hstart _) keeps_pure

lemma startUpTo_leads (n : ℕ) :
    ∀ a : StartArgs, (startUpTo setup n a).Leads (machine q)
      (Kept (ReusePreparedPlan.dirs a.preparedReload)) (Kept []) fun _ => True := by
  induction n with
  | zero =>
    intro a w hw
    rw [startUpTo, wp_bind, wp_call]
    exact nofun
  | succ n ih =>
    have hplain : ∀ a : StartArgs, a.preparedReload = none →
        Preserves q (Kept []) (startUpTo setup n a) := by
      intro a hnone
      have hstart := ih a
      rw [hnone] at hstart
      exact hstart
    exact startWith_leads setup hstore hplain (handOff_keeps setup hstore hdrops hplain)

lemma start_leads (a : StartArgs) : (start setup a).Leads (machine q)
      (Kept (ReusePreparedPlan.dirs a.preparedReload)) (Kept []) fun _ => True :=
  Keeps.bindLeads ((steady_kept _).keeps (plain_call (o := .rounds) trivial))
    (fun _ h => h.forgetAll)
    fun n => startUpTo_leads setup hstore hdrops n a

lemma startUpTo_keeps (n : ℕ) (a : StartArgs) (hnone : a.preparedReload = none) :
    Preserves q (Kept []) (startUpTo setup n a) := by
  have hstart := startUpTo_leads setup hstore hdrops n a
  rw [hnone] at hstart
  exact hstart

lemma start_keeps {a : StartArgs} (hnone : a.preparedReload = none) :
    Preserves q (Kept []) (start setup a) := by
  have hstart := start_leads setup hstore hdrops a
  rw [hnone] at hstart
  exact hstart

lemma requestReload_keeps (a : RequestArgs) : Preserves q (Kept []) (requestReload setup a) :=
  ((steady_kept []).keeps (plain_call (o := .rounds) trivial)).bind fun n =>
    requestReloadWith_keeps setup hstore hdrops (startUpTo_keeps setup hstore hdrops n) a

end Reloads

/-! ## The end of a worker -/

def Untracked (loose : List Dir) (w : World) : Prop :=
  Kept loose w ∧ w.live = none

section Ends

variable {q : Promises} (setup : Setup) {loose : List Dir} {w : World}

lemma steady_untracked (loose : List Dir) : Steady (Untracked loose) :=
  (steady_kept loose).and steady_live_none

lemma modify_keeps {f : Attrs → Attrs} (hf : ∀ d, (f d).holding = d.holding) :
    Preserves q (Kept loose) (modify f) := by
  rw [Preserves, keeps_iff]
  intro w hw
  rw [wp_modify]
  exact hw.of_eq (hf w.d) rfl rfl rfl le_rfl

lemma Kept.untrack (h : Kept loose w) {d : Attrs} (hprocess : d.process = none)
    (hholding : d.holding = { w.d with process := none }.holding) : Untracked loose (w.setD d) := by
  simp only [holding, Holding.mk.injEq] at hholding
  rcases hholding with ⟨_, hpreparation, hsettle, hactive, hrestart⟩
  have hlive : (w.setD d).live = none := by
    unfold live
    rw [setD_d, hprocess]
    cases (w.setD d).worker <;> simp
  refine ⟨h.unattended ?_ hlive hpreparation (fun hnone => hsettle.trans hnone) ?_, hlive⟩
  · intro p hp
    rw [hprocess] at hp
    cases hp
  · intro y
    unfold Attrs.holders
    rw [hactive, hsettle, hrestart, hpreparation]

lemma untracked_dropSettle (hdrops : q.dropsSettled = true) {reason : DropReason} :
    Preserves q (Untracked loose) (call (.dropSettle reason)) := by
  rw [Preserves, keeps_iff]
  intro w hw
  rw [wp_dropSettle]
  intro hallows
  have hlive : w.dropSettle.live = w.live := live_congr (dropSettle_worker w) (by rw [dropSettle_d])
  exact ⟨hw.1.dropSettle (not_mayAir_of_allows hdrops hallows), hlive.trans hw.2⟩

lemma untracked_discardActive : Preserves q (Untracked loose) discardActivePreparedPlanDir := by
  rw [Preserves, keeps_iff]
  intro w hw
  simp only [discardActivePreparedPlanDir, wp_bind, wp_self, bindPost_ok, wp_modify,
    wp_releasePreparedPlanDir]
  have hdropped : Kept loose (w.setD { w.d with activeDir := none }) := by
    refine hw.1.unattended hw.1.process hw.2 rfl id ?_
    intro y
    unfold holders
    simp
  refine ⟨hdropped.releaseOpt fun y _ => inUse_of_no_live hw.2, ?_⟩
  cases w.d.activeDir with
  | none | some y => exact hw.2

lemma untrack_leads {α : Type} {f : Attrs → Attrs} {p : DaemonM α}
    (hprocess : ∀ d, (f d).process = none)
    (hholding : ∀ d, (f d).holding = { d with process := none }.holding)
    (hp : Preserves q (Untracked []) p) : Preserves q (Kept []) (modify f >>= fun _ => p) := by
  have huntracked : (modify f).Leads (machine q) (Kept []) (Untracked []) fun _ => True := by
    intro w hw
    rw [wp_modify]
    exact ⟨hw.untrack (hprocess w.d) (hholding w.d), fun _ _ => trivial⟩
  exact huntracked.bind (fun _ h => h.1) fun _ => hp.leads fun _ h => h.1

lemma Steady.seq {J : World → Prop} (hJ : Steady J) {α β : Type} {p : DaemonM α} {f : α → DaemonM β}
    (hp : IsPlain p) (hf : ∀ a, Preserves q J (f a)) : Preserves q J (p >>= f) :=
  (hJ.keeps hp).bind hf

lemma clearExited_keeps (hdrops : q.dropsSettled = true) : Preserves q (Kept []) clearExited := by
  refine (steady_kept []).seq tame_self.plain fun d => ?_
  refine untrack_leads (fun _ => rfl) (fun _ => rfl) ?_
  refine (steady_untracked []).seq tame_hasPendingTerminalCommand.plain fun queued => ?_
  refine (steady_untracked []).seq tame_readState.plain fun _ => ?_
  refine (steady_untracked []).seq (plain_modify fun _ => rfl) fun _ => ?_
  exact (untracked_dropSettle hdrops).bind fun _ =>
    untracked_discardActive.bind fun _ => keeps_pure

lemma untracked_discardRestartPlan : Preserves q (Untracked loose) discardPreparedRestartPlan := by
  rw [Preserves, keeps_iff]
  intro w hw
  simp only [discardPreparedRestartPlan, wp_bind, wp_self, bindPost_ok, wp_modify,
    releasePreparedRestartPlan, wp_releasePreparedPlanDir]
  refine ⟨hw.1.discardRestartPlan, ?_⟩
  cases w.d.restartPlan.bind (·.report.planDir) with
  | none | some y => exact hw.2

lemma clearQualityRecovery_keeps : Preserves q (Kept loose) clearQualityRecovery := by
  rw [Preserves, keeps_iff]
  intro w hw
  apply wp_clearQualityRecovery
  exact fun _ _ => hw.of_eq rfl rfl rfl rfl le_rfl

lemma clearForStop_keeps (hdrops : q.dropsSettled = true) : Preserves q (Kept []) clearForStop := by
  refine cancelPreparation_keeps.bind fun _ => clearQualityRecovery_keeps.bind fun _ => ?_
  refine (steady_kept []).seq tame_self.plain fun d => ?_
  refine untrack_leads (fun _ => rfl) (fun _ => rfl) ?_
  refine (steady_untracked []).seq plain_resetRestartTracking fun _ => ?_
  refine (steady_untracked []).seq (plain_modify fun _ => rfl) fun _ => ?_
  exact (untracked_dropSettle hdrops).bind fun _ => untracked_discardRestartPlan.bind fun _ =>
    untracked_discardActive.bind fun _ => keeps_pure

/-- The held restart plan goes into the start it was held for. -/
lemma restartPinned_keeps (hstore : q.storeWorks = true) (hdrops : q.dropsSettled = true)
    (pin : Pin) : Preserves q (Kept []) (restartPinned setup pin) := by
  refine (steady_kept []).seq tame_writeState.plain fun _ => ?_
  intro w hw
  rw [wp_bind, wp_self, bindPost_ok, wp_bind, wp_modify, bindPost_ok]
  refine start_leads setup hstore hdrops _ _ ?_
  refine hw.rearrange rfl rfl rfl ?_ hw.starting
  intro y
  have hcount : (ReusePreparedPlan.dirs w.d.restartPlan).count y =
      held (w.d.restartPlan.bind (·.report.planDir)) y := by
    unfold ReusePreparedPlan.dirs held
    cases w.d.restartPlan.bind (·.report.planDir) with
    | none => simp
    | some x => simp [List.count_singleton]
  unfold holders
  simp only [hcount, List.count_nil, bind_none, held_none]
  omega

end Ends

/-! ## Settling -/

section Settling

variable {q : Promises} (setup : Setup) {w : World} {pending : Settlement}

/-- The live worker has applied the reload, and accepted no other. -/
def HasApplied (id : ℕ) (w : World) : Prop :=
  ∀ k, w.live = some k → k.airingId = some id ∧ k.accepted = none

lemma HasApplied.move {id : ℕ} (h : HasApplied id w) (m : WorkerMove) :
    HasApplied id (w.move m) := by
  unfold World.move
  split
  · exact h
  · rename_i k hk
    split
    · rename_i id' dir haccepted
      intro k' hk'
      have hlive := live_eq hk
      rw [live_eq rfl] at hk'
      split at hk'
      · rename_i hup
        rw [if_pos hup] at hlive
        -- it has applied everything that it accepted
        rw [(h k hlive).2] at haccepted
        cases haccepted
      · cases hk'
    · rename_i id' dir haccepted
      intro k' hk'
      have hlive := live_eq hk
      rw [live_eq rfl] at hk'
      split at hk'
      · rename_i hup
        rw [if_pos hup] at hlive
        rw [(h k hlive).2] at haccepted
        cases haccepted
      · cases hk'
    · -- an exit leaves no live worker
      intro k' hk'
      rw [live_eq rfl] at hk'
      simp at hk'
    · exact h

lemma Kept.commit (h : Kept [] w) (hpending : w.d.settle = some pending)
    (happlied : HasApplied pending.reloadId w) {w' : World}
    (hholding : w'.d.holding = { w.d with settle := none, activeDir := pending.planDir }.holding)
    (hworker : w'.worker = w.worker) (hstatus : w'.status = w.status)
    (hclean : w'.releasedInUse = false) (hfresh : w.fresh ≤ w'.fresh) : Kept [] w' := by
  have hbase : Kept [] (w.setD { w.d with settle := none, activeDir := pending.planDir }) := by
    refine ⟨h.clean, h.holders.mono ?_ le_rfl, h.process, h.status, h.airing, h.accepted, ?_, ?_⟩
    · intro y
      unfold Attrs.holders
      simp only [setD_d, hpending, bind_some, bind_none, held_none]
      omega
    · intro k hk
      have hk : w.live = some k := hk
      rcases happlied k hk with ⟨hairing, haccepted⟩
      refine ⟨?_, ?_, ?_, ?_⟩
      · intro id dir hsome
        rw [haccepted] at hsome
        cases hsome
      · intro s hs
        cases hs
      · exact fun _ => .inr ((h.serves k hk).applied pending hpending hairing)
      · intro s hs
        cases hs
    · intro start r hstart hr
      exact ⟨(h.starting start r hstart hr).1, rfl⟩
  exact hbase.of_eq hholding hworker hstatus (hclean.trans h.clean.symm) hfresh

lemma Kept.old_not_inUse (h : Kept [] w) (w' : World) (hpending : w.d.settle = some pending)
    (happlied : HasApplied pending.reloadId w) (hworker : w'.worker = w.worker)
    (hprocess : w'.d.process = w.d.process) {y : Dir} (hy : w.d.activeDir = some y) :
    w'.inUse y = false := by
  rw [Bool.eq_false_iff]
  intro huse
  unfold inUse at huse
  rw [live_congr hworker hprocess] at huse
  cases hk : w.live with
  | none =>
    rw [hk] at huse
    cases huse
  | some k =>
    rw [hk] at huse
    rcases happlied k hk with ⟨hairing, haccepted⟩
    have hplan := (h.serves k hk).applied pending hpending hairing
    simp only [haccepted, bind_none, Bool.or_eq_true, decide_eq_true_eq,
      reduceCtorEq, or_false] at huse
    have honce := h.holders.once y
    unfold Attrs.holders at honce
    rw [hy, hpending, bind_some, ← hplan, huse, held_self] at honce
    omega

/-- The end of `_commit_reload_settlement`, where the directories change hands. -/
lemma Kept.activate (h : Kept [] w) (w' : World) (hpending : w.d.settle = some pending)
    (happlied : HasApplied pending.reloadId w)
    (hholding : w'.d.holding = { w.d with settle := none }.holding)
    (hworker : w'.worker = w.worker) (hstatus : w'.status = w.status)
    (hclean : w'.releasedInUse = w.releasedInUse) (hfresh : w.fresh ≤ w'.fresh) :
    (do
      let d ← self
      modify fun d => { d with activeDir := none }
      releasePreparedPlanDir d.activeDir
      if pending.planDir.isSome then modify fun d => { d with activeDir := pending.planDir }
      : DaemonM Unit).wp (machine q) (fun _ => Kept []) w' := by
  simp only [holding, Holding.mk.injEq] at hholding
  rcases hholding with ⟨hprocess, hpreparation, hsettle, hactive, hrestart⟩
  -- the directory that is released is that of the replaced plan
  have hreleased : ∀ dir : Option Dir, dir = w.d.activeDir → ∀ d, d.process = w.d.process →
      ((w'.setD d).releaseOpt dir).releasedInUse = false := by
    intro dir hdir d hd
    cases dir with
    | none => exact hclean.trans h.clean
    | some y =>
      show (w'.releasedInUse || inUse _ y) = false
      rw [hclean, h.clean, Bool.false_or]
      exact h.old_not_inUse (w'.setD d) hpending happlied hworker hd hdir.symm
  have hstays : ∀ dir : Option Dir, ∀ d, ((w'.setD d).releaseOpt dir).status = w.status ∧
      ((w'.setD d).releaseOpt dir).fresh = w'.fresh := by
    intro dir d
    cases dir with
    | none | some y => exact ⟨hstatus, rfl⟩
  simp only [wp_bind, wp_self, bindPost_ok, wp_modify, wp_releasePreparedPlanDir, wp_if, wp_pure,
    releaseOpt_d, setD_d]
  constructor
  · intro _
    refine h.commit hpending happlied ?_ ?_ (hstays _ _).1 (hreleased _ hactive _ hprocess)
      (hfresh.trans (hstays _ _).2.ge)
    · simp [holding, hprocess, hpreparation, hsettle, hrestart]
    · simpa using hworker
  · intro hnone
    have hnone : pending.planDir = none := by simpa using hnone
    refine h.commit hpending happlied ?_ ?_ (hstays _ _).1 (hreleased _ hactive _ hprocess)
      (hfresh.trans (hstays _ _).2.ge)
    · simp [holding, hprocess, hpreparation, hsettle, hrestart, hnone]
    · simpa using hworker

lemma commit_keeps (hstore : q.storeWorks = true) (h : Kept [] w)
    (hpending : w.d.settle = some pending) (happlied : HasApplied pending.reloadId w) :
    (commitReloadSettlement pending).wp (machine q) (fun _ => Kept [])
      (w.setD { w.d with settle := none }) := by
  have hactivate := fun w' => h.activate (q := q) w' hpending happlied
  simp only [commitReloadSettlement, proveTransition, wp_bind, wp_if, wp_appendProofEvent,
    bindPost_ok, wp_pure, hstore, Bool.true_eq_false, false_implies, and_true, wp_writeState,
    recordDispatchedPlan, wp_modify, appendHealth, wp_assist]
  constructor
  · intro _
    exact hactivate _ rfl rfl rfl rfl ((Nat.le_succ _).trans (Nat.le_succ _))
  · intro _
    exact hactivate _ rfl rfl rfl rfl (Nat.le_succ _)

lemma settle_keeps (hstore : q.storeWorks = true) (hdrops : q.dropsSettled = true)
    (h : Kept [] w) (hpending : w.d.settle = some pending) {result : ReloadResult}
    (hresult : result = .applied → w.status = some (pending.reloadId, .applied)) :
    (settle setup pending result).wp (machine q) (fun _ => Kept []) w := by
  have hfall : ∀ reason failed planEndAt, Preserves q (Kept []) (do
      call (.dropSettle reason)
      fallBackToRestartReload failed none planEndAt : DaemonM Unit) :=
    fun reason failed planEndAt =>
      (dropSettle_keeps hdrops).bind fun _ => fallBack_keeps hdrops
  cases result with
  | applied =>
    have happlied : HasApplied pending.reloadId w :=
      fun k hk => (h.serves k hk).settled pending hpending (hresult rfl)
    simp only [settle, wp_bind, wp_processPoll, bindPost_ok]
    intro m _ _ code _
    have hmoved : (w.move m).d.settle = some pending := by
      rw [move_d]
      exact hpending
    -- if the worker is gone by now the applied plan is dropped
    refine wp_if.mpr ⟨fun _ => ?_, fun _ => ?_⟩
    · exact keeps_iff.mp (hfall _ _ _) _ (h.move m)
    · rw [wp_bind, wp_mark]
      intro _
      rw [bindPost_ok, wp_bind, wp_modify, bindPost_ok]
      refine commit_keeps hstore ((h.move m).of_eq rfl rfl rfl rfl le_rfl) hmoved ?_
      exact happlied.move m
  | unrecognized => exact keeps_iff.mp (hfall _ _ _) w h
  | aborted =>
    have hretry : Preserves q (Kept []) (retryAbortedBoundaryReload setup pending) := by
      unfold retryAbortedBoundaryReload
      split
      · exact keeps_pure
      · refine (steady_kept []).seq tame_self.plain fun d => .ite keeps_pure ?_
        refine (dropSettle_keeps hdrops).bind fun _ => ?_
        refine (steady_kept []).seq (plain_modify fun _ => rfl) fun _ => ?_
        exact (requestReload_keeps setup hstore hdrops _).bind fun _ => keeps_pure
    have haborted : Preserves q (Kept []) (settle setup pending .aborted) := by
      refine (steady_kept []).seq tame_beforeSwitch.plain fun early => ?_
      refine .ite (dropSettle_keeps hdrops) (hretry.bind fun retried => ?_)
      exact .ite keeps_pure (hfall _ _ _)
    exact keeps_iff.mp haborted w h

lemma pollReloadSettlement_keeps (hstore : q.storeWorks = true) (hdrops : q.dropsSettled = true) :
    Preserves q (Kept []) (pollReloadSettlement setup) := by
  rw [Preserves, keeps_iff]
  intro w hw
  rw [pollReloadSettlement, wp_bind, wp_self, bindPost_ok]
  cases hpending : w.d.settle with
  | none =>
    have hplain : IsPlain (if w.d.discardedReloadId.isSome then do
        let status : Option (ℕ × ReloadResult) ← call .reloadStatus
        if status.map Prod.fst = w.d.discardedReloadId then
          modify fun d => { d with discardedReloadId := none }
        else
          return ()
      else
        return () : DaemonM Unit) := by
      refine uses_ite (uses_ask trivial fun status => ?_) plain_pure
      exact uses_ite (plain_modify fun _ => rfl) plain_pure
    exact keeps_iff.mp ((steady_kept []).keeps hplain) w hw
  | some pending =>
    simp only [wp_bind, wp_call, bindPost_ok]
    intro m _ _ status hstatus _
    have hmoved : (w.move m).d.settle = some pending := by
      rw [move_d]
      exact hpending
    cases hfound : status.filter fun s => decide (s.1 = pending.reloadId) with
    | some found =>
      -- the status is about the pending reload
      have hfilter := filter_eq_some_iff.mp hfound
      rcases found with ⟨id, result⟩
      have hid : id = pending.reloadId := by simpa using hfilter.2
      subst hid
      refine settle_keeps setup hstore hdrops (hw.move m) hmoved ?_
      intro happlied
      rw [hfilter.1, happlied] at hstatus
      simp only [legal, Bool.or_eq_true, decide_eq_true_eq, reduceCtorEq, false_or] at hstatus
      exact hstatus
    | none =>
      -- no word of it: at its deadline the reload is dropped
      have hlate : Prog.Keeps (machine q) (Kept []) (fun _ => True) (do
          let now : ℚ ← call .monotonic
          if pendingReloadSettleDeadlineSeconds + pending.scheduledWaitSeconds
              ≤ now - pending.since
          then
            call (.dropSettle .deadline)
            fallBackToRestartReload false none pending.rolloverPlanEndAt
          else
            return () : DaemonM Unit) := by
        refine (steady_kept []).seq (plain_call trivial) fun now => ?_
        exact .ite ((dropSettle_keeps hdrops).bind fun _ => fallBack_keeps hdrops) keeps_pure
      have hkept := keeps_iff.mp hlate (w.move m) (hw.move m)
      exact hkept

end Settling

/-! ## Preparations -/

section Preparations

variable {q : Promises} (setup : Setup) {w : World} {pending : Preparation}

/-- What the future has made, beside what the preparation already holds. -/
def madeDirs (pending : Preparation) (sent : Except Fault Report) : List Dir :=
  if pending.suppliedReport.isSome then [] else reportDirs (some sent)

/-- The future is done: a supplied report comes back as it is. -/
structure Arrived (pending : Preparation) (sent : Except Fault Report) (w : World) : Prop where
  kept : Kept (madeDirs pending sent) w
  preparation : w.d.preparation = some pending
  supplied : ∀ report supplied, pending.suppliedReport = some supplied → sent = .ok report →
    report = supplied

lemma steady_arrived (pending : Preparation) (sent : Except Fault Report) :
    Steady (Arrived pending sent) := by
  have hkept := steady_kept (madeDirs pending sent)
  refine ⟨?_, ?_, ?_, ?_, ?_⟩
  · intro w d hd h
    refine ⟨hkept.setD hd h.kept, ?_, h.supplied⟩
    rw [setD_d, ← h.preparation]
    exact congrArg Custody.preparation hd
  · intro w m hm h
    refine ⟨hkept.move hm h.kept, ?_, h.supplied⟩
    rw [move_d]
    exact h.preparation
  · exact fun row h => ⟨hkept.row row h.kept, h.preparation, h.supplied⟩
  · exact fun h => ⟨hkept.fresh h.kept, h.preparation, h.supplied⟩
  · exact fun p h => ⟨hkept.terminated p h.kept, h.preparation, h.supplied⟩

lemma count_toList (dir : Option Dir) (y : Dir) : dir.toList.count y = held dir y := by
  unfold held
  cases dir with
  | none => simp
  | some x => simp [List.count_singleton]

/-- The preparation is taken: its directory is the running code's. -/
lemma Arrived.taken {sent : Except Fault Report} (h : Arrived pending sent w) :
    Kept (reportDirs (some sent)) (w.setD { w.d with preparation := none }) := by
  refine h.kept.rearrange rfl rfl rfl ?_ ?_
  · intro y
    unfold holders
    simp only [h.preparation, bind_some, bind_none, held_none]
    cases hsupplied : pending.suppliedReport with
    | none =>
      simp only [madeDirs, hsupplied, isSome_none, Bool.false_eq_true, if_false]
      omega
    | some supplied =>
      simp only [madeDirs, hsupplied, isSome_some, if_true, List.count_nil, bind_some]
      cases sent with
      | error fault =>
        simp only [reportDirs, List.count_nil]
        omega
      | ok report =>
        rw [h.supplied report supplied hsupplied rfl, reportDirs, count_toList]
        omega
  · intro pending r hnone
    cases hnone

lemma futureDone_ends :
    Ends q (fun w => Kept [] w ∧ w.d.preparation = some pending)
      (call (.futureDone pending.ticket pending.resume.sourcePlan pending.suppliedReport))
      (fun answer w => match answer with
        | none => Kept [] w
        | some sent => Arrived pending sent w) (Kept []) := by
  intro w hw
  rw [wp_call]
  intro answer hlegal _
  rcases hw with ⟨hkept, hpreparation⟩
  have hdirs : ∀ sent, madeDirs pending sent =
      if pending.suppliedReport.isSome then [] else reportDirs (some sent) := fun _ => rfl
  match hsupplied : pending.suppliedReport, answer, hlegal with
  | none, none, _ | some _, none, _ => exact hkept
  | none, some (.error fault), _ =>
    refine ⟨?_, hpreparation, ?_⟩
    · rw [hdirs, hsupplied]
      exact hkept
    · intro report supplied hsome
      rw [hsupplied] at hsome
      cases hsome
  | none, some (.ok report), hlegal =>
    have hdir : report.planDir = none ∨ report.planDir = some w.fresh := by
      simp only [legal, Report.isMadeFrom, Bool.and_eq_true, Bool.or_eq_true,
        decide_eq_true_eq] at hlegal
      exact hlegal.2
    have hmade := hkept.make hdir
    rw [List.append_nil] at hmade
    refine ⟨?_, hpreparation, ?_⟩
    · rw [hdirs, hsupplied]
      exact hmade
    · intro report supplied hsome
      rw [hsupplied] at hsome
      cases hsome
  | some supplied, some sent, hlegal =>
    -- a supplied report makes no directory of its own
    refine ⟨?_, hpreparation, ?_⟩
    · rw [hdirs, hsupplied]
      exact hkept
    · intro report supplied' hsome hok
      rw [hsupplied] at hsome
      cases hsome
      subst hok
      simpa only [legal, decide_eq_true_eq] using hlegal

lemma gives_startFinish (r : StartResume) {sent : Sent} :
    (startFinish setup r sent).Gives fun outcome => outcome.dirs = [] := by
  have hrecord : ∀ up, (recordStart r up).Gives fun outcome => outcome.dirs = [] := by
    intro up
    refine gives_bind fun _ => gives_bind fun _ => gives_bind fun _ => gives_bind fun _ =>
      gives_bind fun _ => gives_pure ?_
    split <;> rfl
  refine gives_startGuarded rfl ?_
  refine gives_bind fun p => gives_bind fun expired => gives_ite ?_ ?_
  · exact gives_bind fun _ => gives_ite (gives_pure rfl) gives_raise
  · exact gives_bind fun up => hrecord up

lemma Ends.giving {α : Type} {p : DaemonM α} {χ : α → Prop} {J E : World → Prop}
    {K : α → World → Prop} (h : Ends q J p K E) (hp : p.Gives χ) :
    Ends q J p (fun a w => K a w ∧ χ a) E := by
  intro w hw
  refine wp_mono ?_ (hp.wp (h w hw))
  intro r w' hr
  cases r with
  | ok a => exact ⟨hr.1, hr.2 a rfl⟩
  | error e => exact hr.1

/-- The preparation is taken, and so the channel of a start is clear. -/
def Taken (resume : Resume) (sent : Except Fault Report) (w : World) : Prop :=
  Unprepared (reportDirs (some sent)) w ∧
    ∀ r, resume = .start r → w.live = none ∧ w.d.settle = none

lemma Arrived.resumes {sent : Except Fault Report} (h : Arrived pending sent w) :
    Taken pending.resume sent (w.setD { w.d with preparation := none }) :=
  ⟨⟨h.taken, rfl⟩, fun r hr => h.kept.starting pending r h.preparation hr⟩

variable (hstore : q.storeWorks = true) (hdrops : q.dropsSettled = true)
include hstore hdrops

lemma resumeWith_ends {resume : Resume} (sent : Except Fault Report) :
    Ends q (Taken resume sent) (resumeWith setup resume (some sent))
      (fun outcome => Kept outcome.dirs) (Kept []) := by
  cases resume with
  | reload r =>
    exact (reloadFinish_ends hdrops r (some sent)).mono (fun _ h => h.1.1) (fun _ _ => id)
      fun _ => id
  | start r =>
    have hloose : ∀ x, sentDir r (some sent) = some x → x ∈ reportDirs (some sent) := by
      intro x hx
      cases sent with
      | error fault => cases hx
      | ok report =>
        have hdir : report.planDir = some x := hx
        rw [reportDirs, hdir]
        simp
    have hfinish := (startFinish_ends setup hstore hloose).giving (gives_startFinish setup r)
    refine hfinish.mono ?_ ?_ fun _ h => h.forgetAll
    · intro w hw
      exact ⟨⟨hw.1, (hw.2 r rfl).1⟩, (hw.2 r rfl).2⟩
    · rintro outcome w ⟨hw, hdirs⟩
      rw [hdirs]
      exact hw

lemma preparationDone_ends (pending : Preparation) (sent : Except Fault Report) :
    Ends q (Arrived pending sent) (preparationDone setup pending sent) (fun _ => Kept [])
      (Kept []) := by
  have hpure : Ends q (Kept []) (pure () : DaemonM Unit) (fun _ => Kept []) (Kept []) :=
    ends_pure fun _ => id
  -- the preparation is taken out, and then resumed
  refine .bind (K := fun _ => Taken pending.resume sent) ?_ fun _ => ?_
  · intro w hw
    rw [wp_modify]
    exact hw.resumes
  refine (resumeWith_ends setup hstore hdrops sent).bind fun outcome => ?_
  cases outcome with
  | reuse plan => exact .of_leads (fallBack_leads hdrops false (some plan) none)
  | none | pending | accepted => exact hpure
  | declined =>
    cases pending.resume with
    | start r => exact hpure
    | reload r => exact .ite hpure (.of_leads (fallBack_keeps hdrops))
  | startExpired =>
    cases pending.resume with
    | start r => exact .of_leads (start_keeps setup hstore hdrops rfl)
    | reload r => exact hpure
  | slateFirst =>
    cases pending.resume with
    | start r =>
      refine .before (steady_kept []) (plain_call trivial) (fun _ => id) fun n => ?_
      exact .of_leads (handOff_keeps setup hstore hdrops (startUpTo_keeps setup hstore hdrops n))
    | reload r => exact hpure

lemma pollPreparation_keeps : Preserves q (Kept []) (pollPreparation setup) := by
  apply Ends.leads
  intro w hw
  rw [pollPreparation, wp_bind, wp_self, bindPost_ok]
  cases hpreparation : w.d.preparation with
  | none => exact hw
  | some pending =>
    refine (?_ : Ends q (fun w => Kept [] w ∧ w.d.preparation = some pending) _ _ (Kept [])) w
      ⟨hw, hpreparation⟩
    refine futureDone_ends.bind fun answer => ?_
    cases answer with
    | none => exact ends_pure fun _ => id
    | some sent =>
      refine .before (steady_arrived pending sent) tame_isStale.plain
        (fun _ h => h.kept.forgetAll) fun stale => .ite ?_ ?_
      · refine .bind ?_ fun _ =>
          .of_leads (requestReload_keeps setup hstore hdrops _)
        exact (Ends.of_leads cancelPreparation_keeps).mono (fun _ h => h.kept.forgetAll)
          (fun _ _ => id) fun _ => id
      · exact preparationDone_ends setup hstore hdrops pending sent

end Preparations

/-! ## Runs -/

section Runs

variable {q : Promises} {setup : Setup}

lemma reloadOrSwap_keeps (hstore : q.storeWorks = true) (hdrops : q.dropsSettled = true) :
    Preserves q (Kept []) (reloadOrSwap setup) := by
  refine .ite ?_ (requestReload_keeps setup hstore hdrops _)
  exact (steady_kept []).seq (plain_call trivial) fun answer =>
    (steady_kept []).keeps (uses_orRaise answer)

lemma carried_kept (hstore : q.storeWorks = true) (hdrops : q.dropsSettled = true) :
    Carried setup q (Kept []) where
  plain hp := (steady_kept []).keeps hp
  reissued := by
    rw [Preserves, keeps_iff]
    intro w hw
    rw [wp_mark]
    exact fun _ => hw.of_eq rfl rfl rfl rfl le_rfl
  configure config := by
    rw [Preserves, keeps_iff]
    intro w hw
    rw [wp_configure]
    exact hw.of_eq rfl rfl rfl rfl le_rfl
  cancelPreparation := cancelPreparation_keeps
  start a hnone := start_keeps setup hstore hdrops hnone
  requestReload a := requestReload_keeps setup hstore hdrops a
  restartPinned pin := restartPinned_keeps setup hstore hdrops pin
  clearExited := clearExited_keeps hdrops
  clearForStop := clearForStop_keeps hdrops
  discardPreparedRestartPlan := discardPreparedRestartPlan_keeps
  pollReloadSettlement := pollReloadSettlement_keeps setup hstore hdrops
  pollPreparation := pollPreparation_keeps setup hstore hdrops
  -- a request sets its flag, and is a reload or a swap
  requestLiveTakeover plan := by
    refine .ite (keeps_raise trivial) (.bind (modify_keeps ?_) fun _ => ?_)
    · exact fun _ => rfl
    · exact requestReload_keeps setup hstore hdrops _
  requestLiveHandback := by
    refine .bind (modify_keeps ?_) fun _ => ?_
    · exact fun _ => rfl
    · refine (steady_kept []).seq (plain_call trivial) fun now => ?_
      exact requestReload_keeps setup hstore hdrops _
  requestFallbackSlate reason := by
    refine .ite (keeps_raise trivial) (.bind (modify_keeps ?_) fun _ => ?_)
    · exact fun _ => rfl
    · exact reloadOrSwap_keeps hstore hdrops
  requestSlateExit := by
    refine .bind (modify_keeps ?_) fun _ => ?_
    · exact fun _ => rfl
    · exact reloadOrSwap_keeps hstore hdrops
  clearQualityRecovery := clearQualityRecovery_keeps

lemma kept_boot (config : Option Config) (row : Option StateRow) :
    Kept [] (World.boot config row) := by
  have hholders : ∀ x, (boot config row).d.holders [] x = 0 := by
    intro x
    simp [holders, boot]
  refine ⟨rfl, ⟨?_, ?_⟩, ?_, ?_, ?_, ?_, ?_, ?_⟩
  · intro x
    rw [hholders]
    exact Nat.zero_le 1
  · intro x hx
    rw [hholders] at hx
    exact absurd hx (lt_irrefl 0)
  · intro p hp
    cases hp
  · intro id result hstatus
    cases hstatus
  · intro k id hk
    cases hk
  · intro k id dir hk
    cases hk
  · intro k hk
    cases hk
  · intro pending r hpending
    cases hpending

end Runs

/-- In every run, what the live worker airs or may still air is in
`live_prepared_plan_dirs`, and no such directory is released. -/
theorem media_in_use_kept (setup : Setup) (config : Option Config) (row : Option StateRow)
    {es : List Event} {w : World}
    (hrun : Run setup (machine { storeWorks := true, dropsSettled := true }) (fun _ _ => True)
      (.boot config row) es w) :
    w.releasedInUse = false ∧ ∀ dir, w.inUse dir = true → dir ∈ w.d.livePreparedPlanDirs := by
  have hkept : Kept [] w := (carried_kept rfl rfl).run hrun (kept_boot config row)
  refine ⟨hkept.clean, ?_⟩
  intro dir hdir
  rcases hkept.inUse_cases hdir with hactive | hsettle
  · simp [livePreparedPlanDirs, hactive]
  · rcases bind_eq_some_iff.mp hsettle with ⟨pending, hpending, hplan⟩
    simp [livePreparedPlanDirs, hpending, hplan]

namespace Gov

/-- The worker applies what it has accepted, before the daemon looks. -/
def applying : Env := { scheduled with move := .applies }

/-- A program is on air, and a reload of it has been accepted. -/
def reloadTaken (rest : List (Event × Env)) : List (Event × Env) :=
  (.command operatorStart, scheduled) :: (.command operatorReload, scheduled) :: rest

/-- The reload is applied and settled, and a second one is requested. -/
def settledThenReloaded : List (Event × Env) :=
  reloadTaken [(.worker, applying), (.pollReloadSettlement, scheduled),
    (.command operatorReload, scheduled)]

/-- The second reload comes before the daemon has seen that the first was applied. -/
def reloadedUnseen : List (Event × Env) :=
  reloadTaken [(.worker, applying), (.command operatorReload, scheduled)]

end Gov

open Gov in
/-- Settled in time: the worker airs the first reload's directory and has accepted the
second's, and both are protected. -/
theorem media_in_use_kept_gov :
    let w := play preparing boot settledThenReloaded { storeWorks := true, dropsSettled := true }
    w.releasedInUse = false ∧ 3 ∈ w.d.livePreparedPlanDirs ∧ 7 ∈ w.d.livePreparedPlanDirs := by
  have hrun := run_of_play preparing (q := { storeWorks := true, dropsSettled := true })
    (P := fun _ _ => True) (w := boot) settledThenReloaded (fun _ _ _ => trivial)
    (by decide +kernel)
  have hkept := media_in_use_kept preparing _ _ hrun
  exact ⟨hkept.1, hkept.2 3 (by decide +kernel), hkept.2 7 (by decide +kernel)⟩

open Gov in
/-- Superseded unseen: the daemon releases the directory the worker is airing. -/
theorem superseded_reload_loses_media :
    ¬ ∀ (setup : Setup) (config : Option Config) (row : Option StateRow) (es : List Event)
      (w : World), Run setup (machine { storeWorks := true }) (fun _ _ => True)
        (.boot config row) es w →
      w.releasedInUse = false ∧
        ∀ dir, w.inUse dir = true → dir ∈ w.d.livePreparedPlanDirs := by
  intro h
  have hrun := run_of_play preparing (q := { storeWorks := true }) (P := fun _ _ => True)
    (w := boot) reloadedUnseen (fun _ _ _ => trivial) (by decide +kernel)
  have hreleased := (h preparing _ _ _ _ hrun).1
  revert hreleased
  decide +kernel

end Daemon

end CivicCast.Egress
