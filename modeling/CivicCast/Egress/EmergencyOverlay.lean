import CivicCast.Lib.Runs

/-! # Emergency graphics

After every health sample of a channel on air, `sync_emergency_overlay` asks for the emergency
presentation of the channel, renders it, and has the worker show it. An acknowledgement may be
lost, so the strategy keeps the candidate that is not accepted yet, whether it was sent, and the
images that it owns; before an image is deleted, the worker confirms that nothing is shown.

`Overlay` is what the strategy keeps for one channel, with what the worker applied last.
`emergency_follows` is about every run in which no call drops a candidate and then fails to
render while a presentation counts as accepted that is not on the worker any more.
-/

namespace CivicCast.Egress.Emergency

-- `P` is what the provider returns, and what the key is the JSON of.
variable {P : Type} [DecidableEq P]

/-! ## One call -/

/-- What a presentation was rendered to. An image is the random part of its file name. -/
structure Payload (P : Type) where
  presentation : P
  image : ℕ
deriving DecidableEq

/-- The maps of the strategy for one channel, and the payload the worker applied last. The random
parts from `unused` on are not in use. -/
structure Overlay (P : Type) where
  key : Option (Option P)
  pending : Option (Option P × Option (Payload P))
  pendingSent : Bool
  images : List ℕ
  worker : Option (Payload P)
  unused : ℕ
deriving DecidableEq

/-- A send is applied and acknowledged, applied with the acknowledgement lost, or lost itself. -/
inductive Send where
  | acknowledged
  | unacknowledged
  | lost
deriving DecidableEq

/-- What a call finds. `stuck` are the images that are still there after it: the deletion failed,
or did not come about because another one failed. -/
structure Given (P : Type) where
  enabled : Bool
  presentation : Option P
  renders : Bool
  stuck : ℕ → Bool
  clear : Send
  present : Send

/-- How a call ended (`none` is that it raised), and what it deleted, each image with what the
worker had applied last. -/
structure Outcome (P : Type) where
  returned : Option Bool
  deleted : List (ℕ × Option (Payload P))
deriving DecidableEq

/-- The candidate was never sent, and it is of another presentation. -/
def Overlay.superseded (s : Overlay P) (presentation : Option P) : Bool :=
  s.pending.any (fun pending => pending.1 ≠ presentation) && !s.pendingSent

def Overlay.candidate (s : Overlay P) : Option ℕ :=
  s.pending.bind fun pending => pending.2.map Payload.image

/-- The candidate is retired before a different one is allocated; `none` is the early return. -/
def Overlay.dropCandidate (s : Overlay P) (m : Given P) : Option (Overlay P × List ℕ) :=
  if s.superseded m.presentation then
    match s.candidate with
    | none => some ({ s with pending := none }, [])
    | some image =>
      if m.stuck image then none
      else some ({ s with pending := none, images := s.images.filter (· ≠ image) }, [image])
  else some (s, [])

/-- The candidate for the presentation: the one at hand, or a new one. `none` is that rendering
raised. -/
def Overlay.allocate (s : Overlay P) (m : Given P) : Option (Overlay P × Option (Payload P)) :=
  match s.pending.filter (fun pending => pending.1 = m.presentation) with
  | some pending => some (s, pending.2)
  | none =>
    match m.presentation with
    | none => some ({ s with pending := some (none, none), pendingSent := false }, none)
    | some p =>
      if m.renders then
        some
          ({ s with
              pending := some (some p, some ⟨p, s.unused⟩)
              pendingSent := false
              images := s.images ++ [s.unused]
              unused := s.unused + 1 },
            some ⟨p, s.unused⟩)
      else none

/-- What the worker has applied after a send. -/
def Send.apply (send : Send) (payload before : Option (Payload P)) : Option (Payload P) :=
  match send with
  | .acknowledged | .unacknowledged => payload
  | .lost => before

/-- The images that are not the candidate's. -/
def Overlay.retired (s : Overlay P) (payload : Option (Payload P)) : List ℕ :=
  s.images.filter fun image => payload.map Payload.image ≠ some image

def Overlay.accept (s : Overlay P) (presentation : Option P) : Overlay P :=
  { s with key := some presentation, pending := none, pendingSent := false }

/-- The payload is sent, or there is none to send. -/
def Overlay.finish (s : Overlay P) (m : Given P) (payload : Option (Payload P))
    (deleted : List (ℕ × Option (Payload P))) : Overlay P × Outcome P :=
  match payload with
  | none => (s.accept m.presentation, ⟨some true, deleted⟩)
  | some p =>
    let sent := { s with pendingSent := true, worker := m.present.apply (some p) s.worker }
    if m.present = .acknowledged then (sent.accept m.presentation, ⟨some true, deleted⟩)
    else (sent, ⟨some false, deleted⟩)

/-- The worker is made to show nothing before images are deleted. -/
def Overlay.retire (s : Overlay P) (m : Given P) (payload : Option (Payload P))
    (deleted : List (ℕ × Option (Payload P))) : Overlay P × Outcome P :=
  if s.retired payload = [] ∧ payload.isSome then s.finish m payload deleted
  else
    let cleared := { s with worker := m.clear.apply none s.worker }
    if m.clear = .acknowledged then
      let gone := (s.retired payload).filter fun image => !m.stuck image
      let unlinked := { cleared with key := none, images := s.images.filter (· ∉ gone) }
      let deleted := deleted ++ gone.map fun image => (image, unlinked.worker)
      if (s.retired payload).any m.stuck then (unlinked, ⟨some false, deleted⟩)
      else unlinked.finish m payload deleted
    else (cleared, ⟨some false, deleted⟩)

/-- `sync_emergency_overlay`. -/
def Overlay.sync (s : Overlay P) (m : Given P) : Overlay P × Outcome P :=
  if !m.enabled then (s, ⟨some false, []⟩)
  else if s.pending.isNone && s.key = some m.presentation then (s, ⟨some true, []⟩)
  else
    match s.dropCandidate m with
    | none => (s, ⟨some false, []⟩)
    | some (dropped, images) =>
      let deleted := images.map fun image => (image, s.worker)
      match dropped.allocate m with
      | none => (dropped, ⟨none, deleted⟩)
      | some (allocated, payload) => allocated.retire m payload deleted

/-! ## Runs -/

/-- A channel, with the presentation that the last call was given and how it ended. -/
structure Air (P : Type) where
  overlay : Overlay P
  last : Option (Option P × Outcome P)
deriving DecidableEq

inductive Act (P : Type) where
  | sync (m : Given P)
  /-- `start` of the strategy, which may fail before there is a new worker. -/
  | start (launched : Bool)

def Air.act (s : Air P) : Act P → Air P
  | .sync m => ⟨(s.overlay.sync m).1, some (m.presentation, (s.overlay.sync m).2)⟩
  | .start launched =>
    ⟨{ s.overlay with key := none, worker := if launched then none else s.overlay.worker }, none⟩

def nothing : Air P := ⟨⟨none, none, false, [], none, 0⟩, none⟩

/-- What the worker applied last was rendered from the presentation. -/
def Overlay.Shows (s : Overlay P) (presentation : Option P) : Prop :=
  s.worker.map Payload.presentation = presentation

instance (s : Overlay P) (presentation : Option P) : Decidable (s.Shows presentation) :=
  inferInstanceAs (Decidable (_ = _))

/-- No image that the worker shows was deleted, and a call that returned true has put its
presentation on the worker. -/
def Air.Follows (s : Air P) : Prop :=
  ∀ presentation outcome, s.last = some (presentation, outcome) →
    (∀ d ∈ outcome.deleted, d.2.map Payload.image ≠ some d.1) ∧
    (outcome.returned = some true → s.overlay.Shows presentation)

/-- A call that drops a candidate and then fails to render finds the presentation that counts as
accepted, if there is one, on the worker. -/
def Air.Settled (s : Air P) : Act P → Prop
  | .sync m =>
    m.enabled = true → s.overlay.superseded m.presentation = true →
      s.overlay.candidate.any m.stuck = false → m.presentation.isSome = true → m.renders = false →
      ∀ presentation, s.overlay.key = some presentation → s.overlay.Shows presentation
  | .start _ => True

/-! ## The stages of a call -/

/-- The candidate was rendered from its presentation, and the worker does not show it if it was
never sent. What is shown and what is to be shown have names in use. -/
structure Overlay.Kept (s : Overlay P) : Prop where
  rendered : ∀ presentation payload, s.pending = some (presentation, payload) →
    payload.map Payload.presentation = presentation
  unsent : s.pendingSent = false → ∀ image, s.candidate = some image →
    s.worker.map Payload.image ≠ some image
  shown : ∀ payload, s.worker = some payload → payload.image < s.unused
  pending : ∀ image, s.candidate = some image → image < s.unused

/-- With no candidate, the presentation that counts as accepted is on the worker. -/
structure Overlay.Sound (s : Overlay P) : Prop extends s.Kept where
  accepted : s.pending = none → ∀ presentation, s.key = some presentation → s.Shows presentation

section Stages

variable {s s' : Overlay P} {m : Given P} {payload : Option (Payload P)} {images : List ℕ}
  {deleted : List (ℕ × Option (Payload P))} {deleted' : List (ℕ × Option (Payload P))}

omit [DecidableEq P] in
lemma Overlay.Kept.of_none (h : s.Kept) :
    Overlay.Kept { s with pending := none, images := images } where
  rendered _ _ hsome := nomatch hsome
  unsent _ _ hsome := nomatch hsome
  shown := h.shown
  pending _ hsome := nomatch hsome

/-- A candidate that was never sent goes, and the worker does not show it. -/
lemma dropCandidate_spec (h : s.Kept) (hdrop : s.dropCandidate m = some (s', images)) :
    s'.Kept ∧ s'.key = s.key ∧ s'.worker = s.worker ∧
      (∀ image ∈ images, s.worker.map Payload.image ≠ some image) ∧
      (s' = s ∨ s.superseded m.presentation = true ∧ s.candidate.any m.stuck = false) := by
  unfold Overlay.dropCandidate at hdrop
  split at hdrop
  · rename_i hsuperseded
    have hunsent : s.pendingSent = false := by
      simp only [Overlay.superseded, Bool.and_eq_true, Bool.not_eq_true'] at hsuperseded
      exact hsuperseded.2
    split at hdrop
    · rename_i hnone
      cases hdrop
      refine ⟨h.of_none, rfl, rfl, ?_, .inr ⟨hsuperseded, ?_⟩⟩
      · intro image himage
        cases himage
      · rw [hnone]
        rfl
    · -- the candidate's image goes too, as it was never sent
      rename_i image hsome
      split at hdrop
      · cases hdrop
      · rename_i hfree
        cases hdrop
        refine ⟨h.of_none, rfl, rfl, ?_, .inr ⟨hsuperseded, ?_⟩⟩
        · intro image' himage'
          rw [List.mem_singleton.mp himage']
          exact h.unsent hunsent image hsome
        · rw [hsome]
          simpa using hfree
  · cases hdrop
    refine ⟨h, rfl, rfl, ?_, .inl rfl⟩
    intro image himage
    cases himage

lemma allocate_spec (h : s.Kept) (halloc : s.allocate m = some (s', payload)) :
    s'.Kept ∧ s'.pending = some (m.presentation, payload) ∧ s'.worker = s.worker := by
  unfold Overlay.allocate at halloc
  split at halloc
  · rename_i pending hpending
    cases halloc
    rcases Option.filter_eq_some_iff.mp hpending with ⟨hsome, hsame⟩
    refine ⟨h, ?_, rfl⟩
    rw [hsome, ← of_decide_eq_true hsame]
  · split at halloc
    · rename_i hnone
      cases halloc
      refine ⟨⟨?_, ?_, h.shown, ?_⟩, by rw [hnone], rfl⟩
      · intro presentation payload hsome
        cases hsome
        rfl
      · intro _ image himage
        cases himage
      · intro image himage
        cases himage
    · rename_i p hp
      split at halloc
      · cases halloc
        refine ⟨⟨?_, ?_, ?_, ?_⟩, by rw [hp], rfl⟩
        · intro presentation payload hsome
          cases hsome
          rfl
        · -- the new image has a name that was not in use
          intro _ image himage hshown
          cases himage
          rcases Option.map_eq_some_iff.mp hshown with ⟨payload, hworker, himage⟩
          have hlt := h.shown payload hworker
          rw [himage] at hlt
          exact Nat.lt_irrefl _ hlt
        · intro payload hworker
          exact Nat.lt_succ_of_lt (h.shown payload hworker)
        · intro image himage
          cases himage
          exact Nat.lt_succ_self _
      · cases halloc

lemma allocate_eq_none (h : s.allocate m = none) :
    m.presentation.isSome = true ∧ m.renders = false := by
  unfold Overlay.allocate at h
  split at h
  · cases h
  · split at h
    · cases h
    · rename_i p hp
      split at h
      · cases h
      · rename_i hrenders
        exact ⟨by rw [hp]; rfl, by simpa using hrenders⟩

/-- How a call goes on that has a candidate: the state is sound, what is deleted from here on is
deleted while nothing is shown, and true is returned with the presentation on the worker. -/
structure Ends (m : Given P) (deleted : List (ℕ × Option (Payload P)))
    (r : Overlay P × Outcome P) : Prop where
  sound : r.1.Sound
  deleted : ∀ d ∈ r.2.deleted, d ∈ deleted ∨ d.2 = none
  shows : r.2.returned = some true → r.1.Shows m.presentation

omit [DecidableEq P] in
lemma ends_of_pending (h : s.Kept) (hpending : s.pending = some (m.presentation, payload))
    (hdeleted : ∀ d ∈ deleted', d ∈ deleted ∨ d.2 = none) :
    Ends m deleted (s, ⟨some false, deleted'⟩) := by
  refine ⟨⟨h, ?_⟩, hdeleted, ?_⟩
  · intro hnone
    rw [show s.pending = none from hnone] at hpending
    cases hpending
  · intro hfalse
    cases hfalse

omit [DecidableEq P] in
lemma Overlay.Kept.accept (h : s.Kept) (hshows : s.Shows m.presentation) :
    (s.accept m.presentation).Sound where
  rendered _ _ hsome := nomatch hsome
  unsent _ _ hsome := nomatch hsome
  shown := h.shown
  pending _ hsome := nomatch hsome
  accepted _ presentation hkey := by
    cases hkey
    exact hshows

omit [DecidableEq P] in
lemma finish_ends (h : s.Kept) (hpending : s.pending = some (m.presentation, payload))
    (hempty : payload = none → s.worker = none)
    (hdeleted : ∀ d ∈ deleted', d ∈ deleted ∨ d.2 = none) :
    Ends m deleted (s.finish m payload deleted') := by
  have hrendered := h.rendered _ _ hpending
  unfold Overlay.finish
  split
  · have hshows : s.Shows m.presentation := by
      rw [Overlay.Shows, hempty rfl]
      exact hrendered
    exact ⟨h.accept hshows, hdeleted, fun _ => hshows⟩
  · rename_i p
    have himage : s.candidate = some p.image := by
      rw [Overlay.candidate, hpending]
      rfl
    -- the candidate is marked as sent whatever becomes of it
    have hsent : Overlay.Kept { s with
        pendingSent := true, worker := m.present.apply (some p) s.worker } := by
      refine ⟨h.rendered, fun hfalse => (nomatch hfalse), ?_, h.pending⟩
      intro payload hworker
      cases hpresent : m.present with
      | acknowledged | unacknowledged =>
        rw [hpresent] at hworker
        cases hworker
        exact h.pending _ himage
      | lost =>
        rw [hpresent] at hworker
        exact h.shown payload hworker
    split
    · rename_i hack
      have hshows : Overlay.Shows { s with
          pendingSent := true, worker := m.present.apply (some p) s.worker } m.presentation := by
        rw [hack]
        exact hrendered
      exact ⟨hsent.accept hshows, hdeleted, fun _ => hshows⟩
    · exact ends_of_pending hsent hpending hdeleted

omit [DecidableEq P] in
lemma Overlay.Kept.clear (h : s.Kept) :
    Overlay.Kept { s with worker := m.clear.apply none s.worker } := by
  cases hclear : m.clear with
  | lost => exact h
  | acknowledged | unacknowledged =>
    refine ⟨h.rendered, ?_, ?_, h.pending⟩
    · intro _ image _ hnone
      cases hnone
    · intro payload hnone
      cases hnone

omit [DecidableEq P] in
lemma retire_ends (h : s.Kept) (hpending : s.pending = some (m.presentation, payload)) :
    Ends m deleted (s.retire m payload deleted) := by
  unfold Overlay.retire
  split
  · rename_i hshort
    apply finish_ends h hpending
    · intro hnone
      rw [hnone] at hshort
      cases hshort.2
    · exact fun d hd => .inl hd
  · have hclear := @Overlay.Kept.clear _ s m h
    split
    · rename_i hack
      have hempty : m.clear.apply none s.worker = none := by rw [hack]; rfl
      have hkept : ∀ images, Overlay.Kept { s with
          worker := m.clear.apply none s.worker, key := none, images := images } :=
        fun images => ⟨hclear.rendered, hclear.unsent, hclear.shown, hclear.pending⟩
      -- what the loop deletes, it deletes with nothing on the worker
      have hdeleted : ∀ gone : List ℕ, ∀ d ∈ deleted ++ gone.map fun image =>
          (image, m.clear.apply none s.worker), d ∈ deleted ∨ d.2 = none := by
        intro gone d hd
        rcases List.mem_append.mp hd with hold | hnew
        · exact .inl hold
        · rcases List.mem_map.mp hnew with ⟨image, -, rfl⟩
          exact .inr hempty
      split
      · exact ends_of_pending (hkept _) hpending (hdeleted _)
      · exact finish_ends (hkept _) hpending (fun _ => hempty) (hdeleted _)
    · exact ends_of_pending hclear hpending fun d hd => .inl hd

end Stages

/-! ## What a run keeps -/

section Run

variable {s : Air P}

/-- The state is sound, and the last call followed the decision. -/
def Air.Good (s : Air P) : Prop := s.overlay.Sound ∧ s.Follows

lemma Air.Good.sync (h : s.Good) (m : Given P) (hok : s.Settled (.sync m)) :
    (s.act (.sync m)).Good := by
  have hsound := h.1
  -- it is enough to look at the one call
  suffices hcall : (s.overlay.sync m).1.Sound ∧
      (∀ d ∈ (s.overlay.sync m).2.deleted, d.2.map Payload.image ≠ some d.1) ∧
      ((s.overlay.sync m).2.returned = some true →
        (s.overlay.sync m).1.Shows m.presentation) by
    refine ⟨hcall.1, ?_⟩
    intro presentation outcome hlast
    cases hlast
    exact hcall.2
  unfold Overlay.sync
  split
  · exact ⟨hsound, fun d hd => (nomatch hd), fun hfalse => (nomatch hfalse)⟩
  · rename_i henabled
    split
    · rename_i hsame
      simp only [Bool.and_eq_true, Option.isNone_iff_eq_none, decide_eq_true_eq] at hsame
      exact ⟨hsound, fun d hd => (nomatch hd), fun _ => hsound.accepted hsame.1 _ hsame.2⟩
    · split
      · exact ⟨hsound, fun d hd => (nomatch hd), fun hfalse => (nomatch hfalse)⟩
      · rename_i dropped images hdrop
        rcases dropCandidate_spec hsound.toKept hdrop with
          ⟨hkept, hkey, hworker, himages, hwhy⟩
        have hdeleted : ∀ d ∈ images.map fun image => (image, s.overlay.worker),
            d.2.map Payload.image ≠ some d.1 := by
          intro d hd
          rcases List.mem_map.mp hd with ⟨image, hmem, rfl⟩
          exact himages image hmem
        split
        · -- rendering raised, and the candidate may be gone
          rename_i hraised
          refine ⟨⟨hkept, ?_⟩, hdeleted, fun hfalse => (nomatch hfalse)⟩
          rcases allocate_eq_none hraised with ⟨hsome, hrenders⟩
          rcases hwhy with rfl | ⟨hsuperseded, hfree⟩
          · exact hsound.accepted
          · intro _ presentation hpresentation
            rw [hkey] at hpresentation
            rw [Overlay.Shows, hworker]
            exact hok (by simpa using henabled) hsuperseded hfree hsome hrenders presentation
              hpresentation
        · rename_i allocated payload halloc
          rcases allocate_spec hkept halloc with ⟨hkept', hpending, -⟩
          have hends := @retire_ends _ allocated m payload
            (images.map fun image => (image, s.overlay.worker)) hkept' hpending
          refine ⟨hends.sound, ?_, hends.shows⟩
          intro d hd
          rcases hends.deleted d hd with hold | hnone
          · exact hdeleted d hold
          · rw [hnone]
            exact nofun

omit [DecidableEq P] in
/-- A new worker shows nothing, and nothing counts as accepted. -/
lemma Overlay.Sound.start {s : Overlay P} (h : s.Sound) (launched : Bool) :
    Overlay.Sound { s with key := none, worker := if launched then none else s.worker } := by
  cases launched with
  | false => exact ⟨⟨h.rendered, h.unsent, h.shown, h.pending⟩, nofun⟩
  | true =>
    refine ⟨⟨h.rendered, ?_, ?_, h.pending⟩, nofun⟩
    · intro _ image _ hnone
      cases hnone
    · intro payload hnone
      cases hnone

end Run

/-- In every run in which a call that drops a candidate and fails to render finds the presentation
that counts as accepted on the worker: no image that the worker shows is deleted, and a call that
returns true has put the presentation of its provider on the worker. -/
theorem emergency_follows {s : Air P}
    (h : Lib.Runs.Reached Air.act Air.Settled (nothing : Air P) s) : s.Follows := by
  have hgood : s.Good := by
    apply h.invariant
    · refine ⟨⟨⟨?_, ?_, ?_, ?_⟩, ?_⟩, ?_⟩
      · exact nofun
      · exact nofun
      · exact nofun
      · exact nofun
      · exact nofun
      · exact nofun
    · intro s a hs hok
      cases a with
      | sync m => exact hs.sync m hok
      | start launched => exact ⟨hs.1.start launched, nofun⟩
  exact hgood.2

/-! ## A warning that is cleared unnoticed -/

def smooth (presentation : Option ℕ) : Given ℕ :=
  ⟨true, presentation, true, fun _ => false, .acknowledged, .acknowledged⟩

/-- The worker takes the first warning off the air, but its acknowledgement is lost. -/
def clearedUnnoticed : List (Act ℕ) :=
  [.sync (smooth (some 1)), .sync { smooth (some 2) with clear := .unacknowledged }]

/-- The second warning is tried again. -/
def triedAgain : List (Act ℕ) := clearedUnnoticed ++ [.sync (smooth (some 2))]

/-- The first warning is to be shown again, and the call that renders it fails. -/
def backToTheFirst : List (Act ℕ) :=
  clearedUnnoticed ++ [.sync { smooth (some 1) with renders := false }, .sync (smooth (some 1))]

theorem follows_after_retry :
    (triedAgain.foldl Air.act nothing).last = some (some 2, ⟨some true, [(0, none)]⟩) ∧
      (triedAgain.foldl Air.act nothing).Follows := by
  constructor
  · decide
  · apply emergency_follows
    apply Lib.Runs.reached_of_meets
    refine ⟨?_, ?_, ?_, trivial⟩
    · intro _ hsuperseded
      exact absurd hsuperseded (by decide)
    · intro _ hsuperseded
      exact absurd hsuperseded (by decide)
    · intro _ hsuperseded
      exact absurd hsuperseded (by decide)

/-- The call returns true for the first warning, and the worker shows nothing. -/
theorem accepted_but_not_shown :
    (backToTheFirst.foldl Air.act nothing).last = some (some 1, ⟨some true, []⟩) ∧
      (backToTheFirst.foldl Air.act nothing).overlay.worker = none ∧
      ¬ (backToTheFirst.foldl Air.act nothing).Follows := by
  have hlast : (backToTheFirst.foldl Air.act nothing).last = some (some 1, ⟨some true, []⟩) := by
    decide
  have hworker : (backToTheFirst.foldl Air.act nothing).overlay.worker = none := by decide
  refine ⟨hlast, hworker, ?_⟩
  intro hfollows
  have hshows := (hfollows _ _ hlast).2 rfl
  rw [Overlay.Shows, hworker] at hshows
  cases hshows

end CivicCast.Egress.Emergency
