import CivicCast.Lib.Runs

/-!
# The guest limit of a contribution room

`resolve_invite` counts the active guests of the room, consumes the invite's token and creates the
session, each in a transaction of its own. Two calls that count before either of them has created
its session are both let in (`over_the_limit`). `limit_kept` is about every run in which a call
counts only while no other call of the room stands between its count and its session.
-/

namespace CivicCast.Live.GuestLimit

open Lib List Function

structure Invite where
  publicComment : Bool
  termsAgreed : Bool
  hasViewUrl : Bool
  expiresAt : ℚ
  consumed : Bool

/-- The store call that a `resolve_invite` has made last. -/
inductive Phase where
  | begun | invited | admitted | counted | consumed
  deriving DecidableEq

/-- The room, and the tokens of the calls that are in each phase. `guests` are the active sessions
that were there, `sessions` the tokens of those that calls created. -/
structure Desk (T : Type) where
  joinable : Bool
  maxGuests : ℕ
  guests : ℕ
  sessions : List T
  invites : T → Option Invite
  calls : Phase → List T

inductive Act (T : Type) where
  | call (token : T)
  /-- A call in this phase makes its next store call, when the clock says `now`. -/
  | next (phase : Phase) (token : T) (now : ℚ)

namespace Desk

variable {T : Type} [DecidableEq T]

/-- `len(active)`. -/
def active (s : Desk T) : ℕ := s.guests + s.sessions.length

def leave (s : Desk T) (phase : Phase) (token : T) : Desk T :=
  { s with calls := update s.calls phase ((s.calls phase).erase token) }

def enter (s : Desk T) (phase : Phase) (token : T) : Desk T :=
  { s with calls := update s.calls phase (token :: s.calls phase) }

/-- `_require_live_invite`, and the guard of `consume_invite_token`. -/
def live (s : Desk T) (token : T) (now : ℚ) : Bool :=
  (s.invites token).any fun invite => now < invite.expiresAt && !invite.consumed

def consume (s : Desk T) (token : T) : Desk T :=
  { s with
    invites := update s.invites token
      ((s.invites token).map fun invite => { invite with consumed := true }) }

/-- `resolve_invite`, one store call at a time. A call that is refused, or is to show the terms
first, is over. -/
def act (s : Desk T) : Act T → Desk T
  | .call token => s.enter .begun token
  | .next phase token now =>
    if token ∉ s.calls phase then s
    else
      let rest := s.leave phase token
      match phase with
      | .begun => if s.live token now then rest.enter .invited token else rest
      | .invited =>
        if !s.joinable ||
            (s.invites token).any fun invite => invite.publicComment && !invite.termsAgreed then
          rest
        else rest.enter .admitted token
      | .admitted =>
        if s.maxGuests ≤ s.active || !(s.invites token).any (·.hasViewUrl) then rest
        else rest.enter .counted token
      | .counted => if s.live token now then (rest.consume token).enter .consumed token else rest
      | .consumed => { rest with sessions := token :: s.sessions }

/-- The calls that were let in and have no session yet. -/
def inside (s : Desk T) : ℕ := (s.calls .counted).length + (s.calls .consumed).length

/-- A call counts only while no other one is inside. -/
def Alone (s : Desk T) : Act T → Bool
  | .next .admitted _ _ => s.inside = 0
  | _ => true

def taken (s : Desk T) (token : T) : Bool := (s.invites token).any (·.consumed)

/-- The sessions of a token, and the calls that have consumed it and will create one. -/
def granted (s : Desk T) (token : T) : ℕ :=
  s.sessions.count token + (s.calls .consumed).count token

/-- What holds between the store calls, for a desk that began as `s₀`. -/
structure Inv (s₀ s : Desk T) : Prop where
  room : s.maxGuests = s₀.maxGuests
  limit : s.active + s.inside ≤ s₀.maxGuests
  grants : ∀ token, s.granted token = if s.taken token && !s₀.taken token then 1 else 0
  kept : ∀ token, s₀.taken token = true → s.taken token = true

variable {s₀ s : Desk T} {token : T} {now : ℚ}

/-- Nothing changes but that calls leave, or are let in where there is room for them. -/
lemma Inv.of_calls (h : Inv s₀ s) {s' : Desk T} (hroom : s'.maxGuests = s.maxGuests)
    (hactive : s'.active = s.active) (hinvites : s'.invites = s.invites)
    (hsessions : s'.sessions = s.sessions) (hconsumed : s'.calls .consumed = s.calls .consumed)
    (hinside : s.active + s'.inside ≤ s.maxGuests ∨ s'.inside ≤ s.inside) : Inv s₀ s' := by
  have hlimit := h.limit
  have hsame := h.room
  refine ⟨hroom.trans h.room, ?_, fun other => ?_, fun other hother => ?_⟩
  · rw [hactive]
    omega
  · have hgrants := h.grants other
    unfold granted taken at *
    rwa [hinvites, hsessions, hconsumed]
  · have hkept := h.kept other hother
    unfold taken at *
    rwa [hinvites]

omit [DecidableEq T] in
lemma live_free (h : s.live token now = true) : s.taken token = false := by
  unfold live taken at *
  cases hinvite : s.invites token <;> simp_all

lemma taken_consume (h : s.live token now = true) (other : T) :
    (s.consume token).taken other = (s.taken other || decide (token = other)) := by
  unfold live at h
  unfold taken consume
  by_cases hother : other = token
  · cases hinvite : s.invites other <;> simp_all
  · simp [hother, Ne.symm hother]

lemma Inv.consume (h : Inv s₀ s) (hmem : token ∈ s.calls .counted)
    (hlive : s.live token now = true) :
    Inv s₀ (((s.leave .counted token).consume token).enter .consumed token) := by
  have hfresh : s₀.taken token = false := by
    rw [← Bool.not_eq_true]
    intro htaken
    exact Bool.noConfusion ((h.kept token htaken).symm.trans (live_free hlive))
  have htaken (other : T) : (((s.leave .counted token).consume token).enter .consumed token).taken
      other = (s.taken other || decide (token = other)) := taken_consume hlive other
  refine ⟨h.room, ?_, fun other => ?_, fun other hother => ?_⟩
  · have hlimit := h.limit
    have hpos := length_pos_of_mem hmem
    simp only [active, inside, enter, Desk.consume, leave, update] at hlimit ⊢
    simp [length_erase_of_mem hmem]
    omega
  · have hgrants := h.grants other
    rw [htaken]
    simp only [granted, enter, Desk.consume, leave, update] at hgrants ⊢
    by_cases hother : token = other
    · subst hother
      simp_all [live_free hlive]
    · simp_all
  · rw [htaken, h.kept other hother, Bool.true_or]

lemma Inv.create (h : Inv s₀ s) (hmem : token ∈ s.calls .consumed) :
    Inv s₀ { s.leave .consumed token with sessions := token :: s.sessions } := by
  refine ⟨h.room, ?_, fun other => ?_, h.kept⟩
  · have hlimit := h.limit
    have hpos := length_pos_of_mem hmem
    simp only [active, inside, leave, update] at hlimit ⊢
    simp [length_erase_of_mem hmem]
    omega
  · have hpos := count_pos_iff.mpr hmem
    refine Eq.trans ?_ (h.grants other)
    simp only [granted, leave, update, count_cons]
    by_cases hother : token = other
    · subst hother
      simp [count_erase_self]
      omega
    · simp [hother, count_erase_of_ne (Ne.symm hother)]

lemma Inv.act (h : Inv s₀ s) (a : Act T) (ha : s.Alone a = true) : Inv s₀ (s.act a) := by
  cases a with
  | call token => exact h.of_calls rfl rfl rfl rfl rfl (.inr le_rfl)
  | next phase token now =>
    by_cases hmem : token ∈ s.calls phase
    swap
    · rw [Desk.act, if_pos hmem]
      exact h
    simp only [Desk.act, hmem, not_true_eq_false, if_false]
    have hrest : phase ≠ .consumed → Inv s₀ (s.leave phase token) := by
      intro hphase
      refine h.of_calls rfl rfl rfl rfl ?_ (.inr ?_)
      · simp [leave, Ne.symm hphase]
      · cases phase <;> simp_all [inside, leave, update]
    cases phase with
    | begun =>
      dsimp only
      split_ifs
      · exact (hrest (by decide)).of_calls rfl rfl rfl rfl rfl (.inr le_rfl)
      · exact hrest (by decide)
    | invited =>
      dsimp only
      split_ifs
      · exact hrest (by decide)
      · exact (hrest (by decide)).of_calls rfl rfl rfl rfl rfl (.inr le_rfl)
    | admitted =>
      dsimp only
      split_ifs with hfull
      · exact hrest (by decide)
      · -- nobody else is inside, so there is room for this one
        refine (hrest (by decide)).of_calls rfl rfl rfl rfl rfl (.inl ?_)
        have hnone : s.inside = 0 := by simpa [Alone] using ha
        simp only [Bool.or_eq_true, decide_eq_true_eq, not_or, not_le] at hfull
        change s.active + ((s.calls .counted).length + 1 + (s.calls .consumed).length) ≤ s.maxGuests
        unfold inside at hnone
        omega
    | counted =>
      dsimp only
      split_ifs with hlive
      · exact h.consume hmem hlive
      · exact hrest (by decide)
    | consumed => exact h.create hmem

/-- From a room within its limit, in every run in which calls count alone, the room stays within
its limit, and a token that was consumed has one session or one call that will create it. -/
theorem limit_kept (h : Runs.Reached act (fun s a => s.Alone a = true) s₀ s)
    (hcalls : ∀ phase, s₀.calls phase = []) (hsessions : s₀.sessions = [])
    (hlimit : s₀.guests ≤ s₀.maxGuests) :
    s.active ≤ s.maxGuests ∧
      ∀ token, s₀.taken token = false → s.taken token = true → s.granted token = 1 := by
  have hinv : Inv s₀ s := by
    refine h.invariant ⟨rfl, ?_, fun token => ?_, fun _ => id⟩ fun _ a h ha => h.act a ha
    · simpa [active, inside, hcalls, hsessions] using hlimit
    · simp [granted, hcalls, hsessions]
  refine ⟨?_, fun token hbefore hafter => ?_⟩
  · have := hinv.limit
    rw [hinv.room]
    omega
  · rw [hinv.grants, hbefore, hafter]
    rfl

/-! ## One session for an invite -/

/-- A token that was taken gives no session, and no token gives more than one. -/
def Single (s₀ s : Desk T) : Prop :=
  ∀ token, s.granted token + (s₀.taken token).toNat ≤ (s.taken token).toNat

lemma Single.consume (h : Single s₀ s) (hlive : s.live token now = true) :
    Single s₀ (((s.leave .counted token).consume token).enter .consumed token) := by
  intro other
  have hother := h other
  have htaken : (((s.leave .counted token).consume token).enter .consumed token).taken other =
      (s.taken other || decide (token = other)) := taken_consume hlive other
  rw [htaken]
  simp only [granted, enter, Desk.consume, leave, update] at hother ⊢
  by_cases hsame : token = other
  · subst hsame
    simp_all [live_free hlive]
  · simp_all

lemma granted_create (hmem : token ∈ s.calls .consumed) (other : T) :
    granted { s.leave .consumed token with sessions := token :: s.sessions } other =
      s.granted other := by
  have hpos := count_pos_iff.mpr hmem
  simp only [granted, leave, update, count_cons]
  by_cases hsame : token = other
  · subst hsame
    simp [count_erase_self]
    omega
  · simp [hsame, count_erase_of_ne (Ne.symm hsame)]

lemma Single.act (h : Single s₀ s) (a : Act T) : Single s₀ (s.act a) := by
  cases a with
  | call token => exact h
  | next phase token now =>
    by_cases hmem : token ∈ s.calls phase
    swap
    · rw [Desk.act, if_pos hmem]
      exact h
    simp only [Desk.act, hmem, not_true_eq_false, if_false]
    cases phase with
    | begun | invited | admitted =>
      dsimp only
      split_ifs <;> exact h
    | counted =>
      dsimp only
      split_ifs with hlive
      · exact h.consume hlive
      · exact h
    | consumed =>
      intro other
      rw [granted_create hmem]
      exact h other

/-- In every interleaving, whether calls count alone or not, an invite gives one session at most,
and none if its token was consumed before. -/
theorem one_session_for_an_invite (h : Runs.Reached act (fun _ _ => True) s₀ s)
    (hcalls : ∀ phase, s₀.calls phase = []) (hsessions : s₀.sessions = []) (token : T) :
    s.sessions.count token + (s₀.taken token).toNat ≤ 1 := by
  have hsingle : Single s₀ s := by
    refine h.invariant ?_ fun _ a h _ => h.act a
    intro token
    simp [granted, hcalls, hsessions]
  have htoken := hsingle token
  have hle := (s.taken token).toNat_le
  unfold granted at htoken
  omega

end Desk

/-- A room for one guest, with an invite for each number. -/
def studio : Desk ℕ where
  joinable := true
  maxGuests := 1
  guests := 0
  sessions := []
  invites _ := some ⟨false, true, true, 10, false⟩
  calls _ := []

/-- A call up to its count, and the rest of it. -/
def counts (token : ℕ) : List (Act ℕ) :=
  [.call token, .next .begun token 0, .next .invited token 0, .next .admitted token 0]

def joins (token : ℕ) : List (Act ℕ) := [.next .counted token 0, .next .consumed token 0]

/-- Two calls with one invite, both of which have counted. -/
theorem invite_used_twice :
    ((counts 0 ++ counts 0 ++ joins 0 ++ joins 0).foldl Desk.act studio).sessions.count 0 +
      (studio.taken 0).toNat ≤ 1 :=
  Desk.one_session_for_an_invite (Runs.reached_of_meets (by simp [Runs.Meets, counts, joins]))
    (fun _ => rfl) rfl 0

theorem second_guest_refused :
    ((counts 0 ++ joins 0 ++ counts 1 ++ joins 1).foldl Desk.act studio).sessions = [0] ∧
      ((counts 0 ++ joins 0 ++ counts 1 ++ joins 1).foldl Desk.act studio).active ≤ 1 :=
  ⟨by decide +kernel, (Desk.limit_kept (Runs.reached_of_meets (by decide +kernel)) (fun _ => rfl)
    rfl (by decide)).1⟩

/-- Both calls count before either creates its session. -/
theorem over_the_limit :
    ¬∀ s₀ s : Desk ℕ, Runs.Reached Desk.act (fun _ _ => True) s₀ s →
      (∀ phase, s₀.calls phase = []) → s₀.sessions = [] → s₀.guests ≤ s₀.maxGuests →
      s.active ≤ s.maxGuests := by
  intro h
  have hover := h studio ((counts 0 ++ counts 1 ++ joins 0 ++ joins 1).foldl Desk.act studio)
    (Runs.reached_of_meets (by decide +kernel)) (fun _ => rfl) rfl (by decide)
  exact absurd hover (by decide +kernel)

end CivicCast.Live.GuestLimit
