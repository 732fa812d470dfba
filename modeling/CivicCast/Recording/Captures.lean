import CivicCast.Recording.Service

/-! # The capture of a job, and the calls that are at it

The stored state of a job and its capture are changed one after the other, in an order that is
each call's own. What a call has done of its part and has still to do is its `Place`; the job
with its capture is a `Hold`. `Move` is all that one step of a call can do with the two.

`Accounted` is what makes a job that is over be without a capture in the end: whatever it has
left in the pipeline then, a cancellation has still to stop (`Accounted.move`). It needs an
`arm_job` that does not bring back what a stop has removed (`Armable`), and ends that are written
behind the pipeline's back while nothing can be launched (`Unlaunched`).
-/

namespace CivicCast.Recording

open Function

/-- Nothing leaves this state. -/
def JobState.isOver : JobState → Bool
  | done => true
  | failed => true
  | skipped => true
  | _ => false

/-- How far a call has come with the job. -/
inductive Place where
  /-- It has nothing in hand. -/
  | out
  /-- A start that has yet to read the job. -/
  | reading
  /-- The transition to `arming` is committed, the pipeline is to arm. -/
  | arming
  /-- The job was read as arming, the pipeline is to start. -/
  | starting
  /-- The pipeline was left without the capture, the end is to be written. -/
  | disarmed
  /-- A cancellation at the jobs that were listed as arming. -/
  | prearmed
  /-- The job is skipped, its capture is to be stopped. -/
  | cancelled
deriving DecidableEq

/-- A job and its capture. -/
structure Hold where
  state : JobState
  /-- The capture that the pipeline has, and whether it was started. -/
  capture : Option Bool
  /-- A process was launched, and nothing has ended it or found it ended. -/
  running : Bool
deriving DecidableEq

section Moves

variable {T : Type} (places : T → Place) (t : T) (h : Hold)

/-- The pipeline may arm: the job still waits for it and no stop is about to end it, or the job
is over and nobody will start the capture, or somebody will stop it. -/
def Armable : Prop :=
  (h.state = .arming ∧ ∀ t, places t ≠ .disarmed) ∨
    (h.state.isOver = true ∧ ((∀ t, places t ≠ .starting) ∨ ∃ t, places t = .cancelled))

/-- The job has no capture, or one that is not started and that no other call is to start. -/
def Unlaunched : Prop :=
  h.capture = none ∨ (h.capture = some false ∧ ∀ t', t' ≠ t → places t' ≠ .starting)

instance [Fintype T] : Decidable (Armable places h) :=
  inferInstanceAs (Decidable (_ ∨ _))

instance [Fintype T] [DecidableEq T] : Decidable (Unlaunched places t h) :=
  inferInstanceAs (Decidable (_ ∨ _))

/-- What one step of a call does: the place it comes to, and the hold it leaves. -/
inductive Move : Place → Hold → Prop where
  | still : Move (places t) h
  | read (hplace : places t = .reading) (hstate : h.state = .arming) : Move .starting h
  | leave (hplace : places t = .reading ∨ places t = .starting ∨ places t = .disarmed) : Move .out h
  | list (hplace : places t = .out) : Move .prearmed h
  | commit (hplace : places t = .out) (hstate : h.state = .scheduled) :
      Move .arming { h with state := .arming }
  | arm (hplace : places t = .arming) (harmable : Armable places h) :
      Move .out { h with capture := some (h.capture.getD false) }
  | armRaised (hplace : places t = .arming) (hcapture : h.capture = none) : Move .disarmed h
  | launch (hplace : places t = .starting) (hcapture : h.capture.isSome = true) :
      Move .out { h with capture := some true, running := true }
  | launchFailed (hplace : places t = .starting) (hcapture : h.capture = some false) :
      Move .out { h with capture := none }
  | exited (hplace : places t = .starting) (hcapture : h.capture = some true) :
      Move .out { h with running := false }
  | dropout (running : Bool) (hcapture : h.capture = some true) :
      Move (places t) { h with running := running }
  | take (hplace : places t = .out) : Move .disarmed { h with capture := none, running := false }
  | miss (hplace : places t = .out) (hcapture : h.capture ≠ some true) :
      Move .disarmed { h with capture := none }
  | stop (hplace : places t = .cancelled) :
      Move .prearmed { h with capture := none, running := false }
  | advance {s : JobState} (hplace : places t = .out) (hs : s = .recording ∨ s = .finalizing)
      (hstate : h.state.isOver = false) : Move .out { h with state := s }
  | close {s : JobState} (hplace : places t = .disarmed) (hs : s.isOver = true) :
      Move .out { h with state := s }
  | skip (hplace : places t = .prearmed) : Move .cancelled { h with state := .skipped }
  | quit {s : JobState} (hplace : places t = .out ∨ places t = .starting) (hs : s.isOver = true)
      (hquiet : h.state.isOver = false → Unlaunched places t h) : Move .out { h with state := s }

variable {places t h} in
lemma Move.of_eq {p p' : Place} {h₁ h₂ : Hold} (hmove : Move places t h p' h₂) (hp : p = p')
    (hh : h₁ = h₂) : Move places t h p h₁ := by
  rw [hp, hh]
  exact hmove

variable {places t h} in
lemma Move.of_still {p : Place} (hp : p = places t) : Move places t h p h :=
  Move.still.of_eq hp rfl

/-- The job is armed once, what a job that is over has of a capture is stopped by a cancellation
that is on its way, and nobody is about to end a job that has a capture. -/
structure Accounted : Prop where
  fresh : h.state = .scheduled → h.capture = none ∧ ∀ t, places t ≠ .arming
  once : ∀ t t', places t = .arming → places t' = .arming → t = t'
  unarmed : ∀ t, places t = .arming → h.capture = none
  ended : h.capture ≠ some true → h.running = false
  skipped : ∀ t, places t = .cancelled → h.state.isOver = true
  armed : h.capture = some false → h.state.isOver = true →
    (∀ t, places t ≠ .starting) ∨ ∃ t, places t = .cancelled
  started : h.capture = some true → h.state.isOver = true → ∃ t, places t = .cancelled
  live : h.capture ≠ none → h.state.isOver = false → ∀ t, places t ≠ .disarmed

end Moves

section Accounted

variable {T : Type} [DecidableEq T] {places : T → Place} {t : T} {h : Hold} {p : Place} {h' : Hold}

section Update

variable {q : Place} {t' : T}

lemma place_of_update (hp : p ≠ q) (hplace : update places t p t' = q) :
    places t' = q ∧ t' ≠ t := by
  by_cases ht : t' = t
  · subst ht
    rw [update_self] at hplace
    exact absurd hplace hp
  · rw [update_of_ne ht] at hplace
    exact ⟨hplace, ht⟩

lemma nobody_update (hp : p ≠ q) (hothers : ∀ t', t' ≠ t → places t' ≠ q) :
    ∀ t', update places t p t' ≠ q := by
  intro t' hplace
  have ⟨hold, hne⟩ := place_of_update hp hplace
  exact hothers t' hne hold

lemma somebody_update (ht : places t ≠ q) (hsome : ∃ t', places t' = q) :
    ∃ t', update places t p t' = q := by
  obtain ⟨t', ht'⟩ := hsome
  refine ⟨t', ?_⟩
  rw [update_of_ne ?_]
  · exact ht'
  · rintro rfl
    exact ht ht'

end Update

namespace Accounted

variable (hkept : Accounted places h)
include hkept

lemma once_update (hp : p ≠ .arming) (t₁ t₂ : T) (h₁ : update places t p t₁ = .arming)
    (h₂ : update places t p t₂ = .arming) : t₁ = t₂ :=
  hkept.once t₁ t₂ (place_of_update hp h₁).1 (place_of_update hp h₂).1

lemma relabel (hp : p ≠ .arming) (hcancelled : p ≠ .cancelled) (ht : places t ≠ .cancelled)
    (hstarting : p = .starting → h.state.isOver = false)
    (hdisarmed : p = .disarmed → h.capture = none) : Accounted (update places t p) h where
  fresh := fun hstate =>
    ⟨(hkept.fresh hstate).1, nobody_update hp fun t' _ => (hkept.fresh hstate).2 t'⟩
  once := hkept.once_update hp
  unarmed := fun t' ht' => hkept.unarmed t' (place_of_update hp ht').1
  ended := hkept.ended
  skipped := fun t' ht' => hkept.skipped t' (place_of_update hcancelled ht').1
  armed := by
    intro hcapture hover
    rcases hkept.armed hcapture hover with hnobody | hsomebody
    · refine .inl (nobody_update ?_ fun t' _ => hnobody t')
      intro hp
      have hopen := hstarting hp
      rw [hover] at hopen
      cases hopen
    · exact .inr (somebody_update ht hsomebody)
  started := fun hcapture hover => somebody_update ht (hkept.started hcapture hover)
  live := fun hcapture hopen => nobody_update (fun hp => hcapture (hdisarmed hp))
    fun t' _ => hkept.live hcapture hopen t'

lemma drop {running : Bool} (hp : p ≠ .arming) (hcancelled : p ≠ .cancelled)
    (hrunning : running = false) :
    Accounted (update places t p) { h with capture := none, running := running } where
  fresh := fun hstate => ⟨rfl, nobody_update hp fun t' _ => (hkept.fresh hstate).2 t'⟩
  once := hkept.once_update hp
  unarmed := fun _ _ => rfl
  ended := fun _ => hrunning
  skipped := fun t' ht' => hkept.skipped t' (place_of_update hcancelled ht').1
  armed := nofun
  started := nofun
  live := fun hcapture => absurd rfl hcapture

omit [DecidableEq T] in
lemma rerun (running : Bool) (hcapture : h.capture = some true) :
    Accounted places { h with running := running } where
  __ := hkept
  ended := fun hnot => absurd hcapture hnot

lemma commit (hstate : h.state = .scheduled) :
    Accounted (update places t .arming) { h with state := .arming } := by
  obtain ⟨hnone, hnobody⟩ := hkept.fresh hstate
  -- it was scheduled, so nobody has armed it and nobody has skipped it
  have hself : ∀ t', update places t .arming t' = .arming → t' = t := by
    intro t' ht'
    by_contra hne
    rw [update_of_ne hne] at ht'
    exact hnobody t' ht'
  constructor
  · intro hscheduled
    cases hscheduled
  · intro t₁ t₂ h₁ h₂
    rw [hself t₁ h₁, hself t₂ h₂]
  · exact fun _ _ => hnone
  · exact hkept.ended
  · intro t' ht'
    have hover := hkept.skipped t' (place_of_update (by decide) ht').1
    rw [hstate] at hover
    cases hover
  · intro hcapture
    rw [hnone] at hcapture
    cases hcapture
  · intro hcapture
    rw [hnone] at hcapture
    cases hcapture
  · exact fun hcapture => absurd hnone hcapture

lemma arm (hplace : places t = .arming) (harmable : Armable places h) :
    Accounted (update places t .out)
      { h with capture := some (h.capture.getD false) } := by
  have hnone := hkept.unarmed t hplace
  rw [hnone]
  constructor
  · intro hstate
    exact absurd hplace ((hkept.fresh hstate).2 t)
  · exact hkept.once_update (by decide)
  · intro t' ht'
    have ⟨harming, hne⟩ := place_of_update (by decide) ht'
    exact absurd (hkept.once t' t harming hplace) hne
  · exact fun _ => hkept.ended (by rw [hnone]; decide)
  · exact fun t' ht' => hkept.skipped t' (place_of_update (by decide) ht').1
  · intro _ hover
    rcases harmable with ⟨hstate, -⟩ | ⟨-, hnobody | hsomebody⟩
    · have hover : h.state.isOver = true := hover
      rw [hstate] at hover
      cases hover
    · exact .inl (nobody_update (by decide) fun t' _ => hnobody t')
    · exact .inr (somebody_update (by rw [hplace]; decide) hsomebody)
  · intro hcapture
    cases hcapture
  · intro _ hopen
    rcases harmable with ⟨-, hnobody⟩ | ⟨hover, -⟩
    · exact nobody_update (by decide) fun t' _ => hnobody t'
    · exact absurd (hover.symm.trans hopen) (by decide)

/-- The pipeline starts: if the job is over, somebody was to stop an armed capture that this
call was about to start. -/
lemma launch (hplace : places t = .starting) (hcapture : h.capture.isSome = true) :
    Accounted (update places t .out) { h with capture := some true, running := true } := by
  have hsome : h.capture ≠ none := Option.isSome_iff_ne_none.mp hcapture
  have hcancelled : places t ≠ .cancelled := by
    rw [hplace]
    decide
  constructor
  · intro hstate
    exact absurd (hkept.fresh hstate).1 hsome
  · exact hkept.once_update (by decide)
  · intro t' ht'
    exact absurd (hkept.unarmed t' (place_of_update (by decide) ht').1) hsome
  · exact fun hnot => absurd rfl hnot
  · exact fun t' ht' => hkept.skipped t' (place_of_update (by decide) ht').1
  · intro hfalse
    cases hfalse
  · intro _ hover
    refine somebody_update hcancelled ?_
    -- the job is over: whoever is to stop the capture is still at it
    cases hstarted : h.capture with
    | none => exact absurd hstarted hsome
    | some started =>
      cases started with
      | true => exact hkept.started hstarted hover
      | false =>
        rcases hkept.armed hstarted hover with hnobody | hsomebody
        · exact absurd hplace (hnobody t)
        · exact hsomebody
  · intro _ hopen
    exact nobody_update (by decide) fun t' _ => hkept.live hsome hopen t'

omit [DecidableEq T] in
lemma advance {s : JobState} (hs : s = .recording ∨ s = .finalizing)
    (hstate : h.state.isOver = false) : Accounted places { h with state := s } := by
  have hopen : s ≠ .scheduled ∧ s.isOver = false := by
    rcases hs with rfl | rfl <;> decide
  constructor
  · exact fun hscheduled => absurd hscheduled hopen.1
  · exact hkept.once
  · exact hkept.unarmed
  · exact hkept.ended
  · intro t' ht'
    have hover := hkept.skipped t' ht'
    rw [hstate] at hover
    cases hover
  · intro _ hover
    exact absurd (hover.symm.trans hopen.2) (by decide)
  · intro _ hover
    exact absurd (hover.symm.trans hopen.2) (by decide)
  · exact fun hcapture _ => hkept.live hcapture hstate

lemma finish {s : JobState} (hs : s.isOver = true) (ht : places t ≠ .cancelled)
    (hopen : h.state.isOver = false → Unlaunched places t h) :
    Accounted (update places t .out) { h with state := s } := by
  constructor
  · intro hscheduled
    have hscheduled : s = .scheduled := hscheduled
    rw [hscheduled] at hs
    cases hs
  · exact hkept.once_update (by decide)
  · exact fun t' ht' => hkept.unarmed t' (place_of_update (by decide) ht').1
  · exact hkept.ended
  · exact fun _ _ => hs
  · -- armed only: whoever was to disarm it still is
    intro hcapture _
    have hcapture : h.capture = some false := hcapture
    cases hover : h.state.isOver with
    | true =>
      rcases hkept.armed hcapture hover with hnobody | hsomebody
      · exact .inl (nobody_update (by decide) fun t' _ => hnobody t')
      · exact .inr (somebody_update ht hsomebody)
    | false =>
      rcases hopen hover with hnone | ⟨-, hothers⟩
      · rw [hcapture] at hnone
        cases hnone
      · exact .inl (nobody_update (by decide) hothers)
  · -- started: whoever was to stop it still is
    intro hcapture _
    have hcapture : h.capture = some true := hcapture
    cases hover : h.state.isOver with
    | true => exact somebody_update ht (hkept.started hcapture hover)
    | false =>
      rcases hopen hover with hnone | ⟨hfalse, -⟩
      · rw [hcapture] at hnone
        cases hnone
      · rw [hcapture] at hfalse
        cases hfalse
  · exact fun _ hlive => absurd (hs.symm.trans hlive) (by decide)

lemma skip : Accounted (update places t .cancelled) { h with state := .skipped } where
  fresh := nofun
  once := hkept.once_update (by decide)
  unarmed := fun t' ht' => hkept.unarmed t' (place_of_update (by decide) ht').1
  ended := hkept.ended
  skipped := fun _ _ => rfl
  armed := fun _ _ => .inr ⟨t, update_self ..⟩
  started := fun _ _ => ⟨t, update_self ..⟩
  live := nofun

lemma move (hmove : Move places t h p h') : Accounted (update places t p) h' := by
  cases hmove with
  | still =>
    rw [update_eq_self]
    exact hkept
  | read hplace hstate =>
    refine hkept.relabel (by decide) (by decide) (by rw [hplace]; decide) ?_ nofun
    intro _
    rw [hstate]
    rfl
  | leave hplace =>
    refine hkept.relabel (by decide) (by decide) ?_ nofun nofun
    rcases hplace with hplace | hplace | hplace <;> rw [hplace] <;> decide
  | list hplace =>
    exact hkept.relabel (by decide) (by decide) (by rw [hplace]; decide) nofun
      nofun
  | commit hplace hstate => exact hkept.commit hstate
  | arm hplace harmable => exact hkept.arm hplace harmable
  | armRaised hplace hcapture =>
    exact hkept.relabel (by decide) (by decide) (by rw [hplace]; decide) nofun
      fun _ => hcapture
  | launch hplace hcapture => exact hkept.launch hplace hcapture
  | launchFailed hplace hcapture =>
    exact hkept.drop (by decide) (by decide) (hkept.ended (by rw [hcapture]; decide))
  | exited hplace hcapture =>
    have hleft : Accounted (update places t .out) h :=
      hkept.relabel (by decide) (by decide) (by rw [hplace]; decide) nofun
        nofun
    exact hleft.rerun false hcapture
  | dropout running hcapture =>
    rw [update_eq_self]
    exact hkept.rerun running hcapture
  | take hplace => exact hkept.drop (by decide) (by decide) rfl
  | miss hplace hcapture => exact hkept.drop (by decide) (by decide) (hkept.ended hcapture)
  | stop hplace => exact hkept.drop (by decide) (by decide) rfl
  | advance hplace hs hstate =>
    rw [← hplace, update_eq_self]
    exact hkept.advance hs hstate
  | close hplace hs =>
    refine hkept.finish hs (by rw [hplace]; decide) ?_
    -- whoever is about to write the end has left no capture
    intro hopen
    by_contra hquiet
    have hcapture : h.capture ≠ none := fun hnone => hquiet (.inl hnone)
    exact hkept.live hcapture hopen t hplace
  | skip hplace => exact hkept.skip
  | quit hplace hs hquiet =>
    refine hkept.finish hs ?_ hquiet
    rcases hplace with hplace | hplace <;> rw [hplace] <;> decide

omit [DecidableEq T] in
/-- Once nobody is at it any more, the capture of a job that is over does not run. -/
lemma not_running (hover : h.state.isOver = true) (hnobody : ∀ t, places t ≠ .cancelled) :
    h.running = false := by
  refine hkept.ended ?_
  intro hcapture
  obtain ⟨t, ht⟩ := hkept.started hcapture hover
  exact hnobody t ht

end Accounted

end Accounted

end CivicCast.Recording
