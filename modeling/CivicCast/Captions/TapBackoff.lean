import Mathlib

/-! # The backoff of the caption tap

An overload takes a channel one rung up and pauses it, twice as long on every rung up to a longest
pause. The pause is computed before it is cut down to the longest, and from the 1025th rung on its
factor is more than a float holds, so the overload raises and opens no pause.
-/

namespace CivicCast.Captions

open List

structure CaptionBackoffPolicy where
  baseSeconds : ℚ
  maxSeconds : ℚ
  recoveryScans : ℕ
  recoveryWindows : ℕ
  base_pos : 0 < baseSeconds
  base_le_max : baseSeconds ≤ maxSeconds
  scans_pos : 0 < recoveryScans
  windows_pos : 0 < recoveryWindows

structure ChannelBackoffState where
  consecutiveOverloads : ℕ := 0
  healthyScans : ℕ := 0
  pausedUntil : ℚ := 0
  pauseSeconds : ℚ := 0
  deriving DecidableEq

/-- What a call returns, `raised` being the OverflowError. -/
inductive Answer
  | raised
  | state (state : ChannelBackoffState)
  | unchanged
  | steppedDown
  | released
  | done
  deriving DecidableEq

variable (p : CaptionBackoffPolicy)

/-- `min(base * 2 ** exponent, max)` in exact seconds: from 2 ** 1024 on no float holds the
factor. -/
def CaptionBackoffPolicy.delay (exponent : ℤ) : Option ℚ :=
  if 1024 ≤ exponent then none else some (min (p.baseSeconds * 2 ^ exponent) p.maxSeconds)

/-- `record_overload`, on the channel's entry in the states. -/
def recordOverload (entry : Option ChannelBackoffState) (now : ℚ) :
    Option ChannelBackoffState × Answer :=
  let state := entry.getD {}
  let state := { state with
    consecutiveOverloads := state.consecutiveOverloads + 1
    healthyScans := 0 }
  match p.delay (state.consecutiveOverloads - 1) with
  | none => (some state, .raised)
  | some delay =>
    let state := { state with pauseSeconds := delay, pausedUntil := now + delay }
    (some state, .state state)

def recordWithinCapacity (entry : Option ChannelBackoffState) (now : ℚ) :
    Option ChannelBackoffState × Answer :=
  match entry with
  | none => (none, .unchanged)
  | some state =>
    if now < state.pausedUntil then (entry, .unchanged)
    else if state.healthyScans + 1 < p.recoveryScans * p.recoveryWindows then
      (some { state with healthyScans := state.healthyScans + 1 }, .unchanged)
    else
      match state.consecutiveOverloads with
      | 0 => (none, .released)
      | rung + 1 =>
        let state := { state with consecutiveOverloads := rung, healthyScans := 0 }
        match p.delay (rung - 1) with
        | none => (some state, .raised)
        | some delay => (some { state with pauseSeconds := delay }, .steppedDown)

inductive Call
  | recordOverload
  | recordWithinCapacity
  | forget
  deriving DecidableEq

/-- A call, and the clock at it. -/
structure Event where
  call : Call
  now : ℚ

def step (entry : Option ChannelBackoffState) (e : Event) :
    Option ChannelBackoffState × Answer :=
  match e.call with
  | .recordOverload => recordOverload p entry e.now
  | .recordWithinCapacity => recordWithinCapacity p entry e.now
  | .forget => (none, .done)

/-- The channel's entry after a history, the latest call first. -/
def entryAfter : List Event → Option ChannelBackoffState
  | [] => none
  | e :: before => (step p (entryAfter before) e).1

/-- The rung the channel is on: without an entry, the lowest. -/
def rung (entry : Option ChannelBackoffState) : ℕ := (entry.getD {}).consecutiveOverloads

/-- The last `n` calls were scans within capacity, each outside of a pause, on one rung. -/
def Spell (r : ℕ) : ℕ → List Event → Prop
  | 0, _ => True
  | _ + 1, [] => False
  | n + 1, e :: before => e.call = .recordWithinCapacity ∧
      (∃ state ∈ entryAfter p before, state.consecutiveOverloads = r ∧ state.pausedUntil ≤ e.now) ∧
      Spell r n before

/-- The law of the ladder for one call: an overload opens the pause of the next rung; a rung is left
downwards, and the entry released from the lowest, at the end of a full spell on it. -/
structure Lawful (e : Event) (before : List Event) : Prop where
  overload : e.call = .recordOverload → ∃ state, step p (entryAfter p before) e =
    (some state, .state state) ∧ state.consecutiveOverloads = rung (entryAfter p before) + 1 ∧
    state.pauseSeconds = min (p.baseSeconds * 2 ^ rung (entryAfter p before)) p.maxSeconds ∧
    state.pausedUntil = e.now + state.pauseSeconds
  rises : e.call ≠ .recordOverload →
    rung (entryAfter p (e :: before)) ≤ rung (entryAfter p before)
  falls : e.call ≠ .forget → rung (entryAfter p (e :: before)) < rung (entryAfter p before) →
    rung (entryAfter p (e :: before)) + 1 = rung (entryAfter p before) ∧
    Spell p (rung (entryAfter p before)) (p.recoveryScans * p.recoveryWindows) (e :: before)
  releases : e.call ≠ .forget → (entryAfter p before).isSome →
    entryAfter p (e :: before) = none → rung (entryAfter p before) = 0 ∧
      Spell p 0 (p.recoveryScans * p.recoveryWindows) (e :: before)

/-- The scans of an entry are the spell that goes on. -/
def Ongoing (events : List Event) (state : ChannelBackoffState) : Prop :=
  Spell p state.consecutiveOverloads state.healthyScans events ∧
    (0 < state.healthyScans → ∃ e ∈ events.head?, state.pausedUntil ≤ e.now)

def Counted (events : List Event) : Prop := ∀ state ∈ entryAfter p events, Ongoing p events state

variable {e : Event} {before events : List Event} {now : ℚ} {r : ℕ}
  {entry : Option ChannelBackoffState} {state : ChannelBackoffState}

/-- What a scan within capacity leaves of an entry. -/
inductive Scanned (state : ChannelBackoffState) (now : ℚ) : Option ChannelBackoffState → Prop
  | paused (hpaused : now < state.pausedUntil) : Scanned state now (some state)
  | counted (hfree : state.pausedUntil ≤ now) :
      Scanned state now (some { state with healthyScans := state.healthyScans + 1 })
  | left (hfree : state.pausedUntil ≤ now)
      (hfull : p.recoveryScans * p.recoveryWindows ≤ state.healthyScans + 1)
      (hrung : state.consecutiveOverloads = 0) : Scanned state now none
  | down (hfree : state.pausedUntil ≤ now)
      (hfull : p.recoveryScans * p.recoveryWindows ≤ state.healthyScans + 1)
      (state' : ChannelBackoffState)
      (hrung : state.consecutiveOverloads = state'.consecutiveOverloads + 1)
      (hscans : state'.healthyScans = 0) : Scanned state now (some state')

lemma recordWithinCapacity_scanned (state : ChannelBackoffState) (now : ℚ) :
    Scanned p state now (recordWithinCapacity p (some state) now).1 := by
  unfold recordWithinCapacity
  dsimp only
  split_ifs with hpaused hshort
  · exact .paused hpaused
  · exact .counted (not_lt.mp hpaused)
  · split
    · exact .left (not_lt.mp hpaused) (not_lt.mp hshort) ‹_›
    · split <;> exact .down (not_lt.mp hpaused) (not_lt.mp hshort) _ ‹_› rfl

lemma recordOverload_entry (entry : Option ChannelBackoffState) (now : ℚ) :
    ∃ state, (recordOverload p entry now).1 = some state ∧
    state.consecutiveOverloads = rung entry + 1 ∧ state.healthyScans = 0 := by
  unfold recordOverload
  dsimp only
  split <;> exact ⟨_, rfl, rfl, rfl⟩

variable {p}

/-- From the 1025th rung on there is no pause. -/
lemma delay_rung (n : ℕ) : p.delay ((n + 1 : ℕ) - 1) =
    if 1024 ≤ n then none else some (min (p.baseSeconds * 2 ^ n) p.maxSeconds) := by
  have hexponent : ((n + 1 : ℕ) : ℤ) - 1 = n := by simp
  simp only [CaptionBackoffPolicy.delay, hexponent, zpow_natCast, Nat.ofNat_le_cast]

/-- An overload returns below the 1025th rung, with the pause it has opened. -/
lemma recordOverload_returns (hlow : rung entry < 1024) : ∃ state, recordOverload p entry now =
    (some state, .state state) ∧ state.consecutiveOverloads = rung entry + 1 ∧
    state.pauseSeconds = min (p.baseSeconds * 2 ^ rung entry) p.maxSeconds ∧
    state.pausedUntil = now + state.pauseSeconds := by
  unfold rung at hlow ⊢
  simp only [recordOverload, delay_rung, if_neg (not_le.mpr hlow)]
  exact ⟨_, rfl, rfl, rfl, rfl⟩

lemma recordOverload_raises {n : ℚ} (hhigh : 1024 ≤ rung entry) :
    (recordOverload p entry n).2 = .raised := by
  unfold rung at hhigh
  simp only [recordOverload, delay_rung, if_pos hhigh]

lemma Spell.mono {m n : ℕ} (h : Spell p r m events) (hle : n ≤ m) : Spell p r n events := by
  induction n generalizing m events with
  | zero => trivial
  | succ n ih =>
    obtain ⟨m, rfl⟩ := Nat.exists_eq_add_of_le' (Nat.zero_lt_of_lt hle)
    cases events with
    | nil => exact h
    | cons e before => exact ⟨h.1, h.2.1, ih h.2.2 (Nat.le_of_succ_le_succ hle)⟩

lemma Counted.scan (h : Counted p before) (hcall : e.call = .recordWithinCapacity)
    (hstate : entryAfter p before = some state) (hfree : state.pausedUntil ≤ e.now) :
    Spell p state.consecutiveOverloads (state.healthyScans + 1) (e :: before) :=
  ⟨hcall, ⟨state, hstate, rfl, hfree⟩, (h state hstate).1⟩

lemma counted_of_clock (hclock : events.Pairwise fun later earlier => earlier.now ≤ later.now) :
    Counted p events := by
  induction events with
  | nil => intro state h; cases h
  | cons e before ih =>
    obtain ⟨hlast, hbefore⟩ := pairwise_cons.mp hclock
    intro state hstate
    -- a count of zero promises nothing
    have hnone (hzero : state.healthyScans = 0) : Ongoing p (e :: before) state := by
      rw [Ongoing, hzero]
      exact ⟨trivial, fun h => absurd h (lt_irrefl _)⟩
    cases hcall : e.call with
    | forget => simp [entryAfter, step, hcall] at hstate
    | recordOverload =>
      obtain ⟨state', heq, -, hzero⟩ := recordOverload_entry p (entryAfter p before) e.now
      simp only [entryAfter, step, hcall, heq] at hstate
      cases hstate
      exact hnone hzero
    | recordWithinCapacity =>
      cases hentry : entryAfter p before with
      | none => simp [entryAfter, step, hcall, hentry, recordWithinCapacity] at hstate
      | some old =>
        have hscanned := recordWithinCapacity_scanned p old e.now
        simp only [entryAfter, step, hcall, hentry] at hstate
        rw [hstate] at hscanned
        cases hscanned with
        | paused hpaused =>
          refine hnone (Nat.eq_zero_of_not_pos fun hpos => ?_)
          obtain ⟨last, hmem, hfree⟩ := (ih hbefore state hentry).2 hpos
          exact absurd (hfree.trans (hlast last (mem_of_mem_head? hmem))) (not_le.mpr hpaused)
        | counted hfree => exact ⟨(ih hbefore).scan hcall hentry hfree, fun _ => ⟨e, rfl, hfree⟩⟩
        | down _ _ _ _ hzero => exact hnone hzero

/-- A call on a counted history keeps the law, an overload below the 1025th rung. -/
lemma Counted.lawful (h : Counted p before)
    (hlow : e.call = .recordOverload → rung (entryAfter p before) < 1024) : Lawful p e before := by
  cases hcall : e.call with
  | forget =>
    have hnone : entryAfter p (e :: before) = none := by simp [entryAfter, step, hcall]
    constructor
    · simp [hcall]
    · simp [hnone, rung]
    -- the rest is about other calls
    all_goals exact fun hne => absurd hcall hne
  | recordOverload =>
    obtain ⟨state, heq, hrung, hopened⟩ := recordOverload_returns (p := p) (hlow hcall)
    have hstep : step p (entryAfter p before) e = (some state, .state state) := by
      rw [step, hcall, ← heq]
    have hentry : entryAfter p (e :: before) = some state := by rw [entryAfter, hstep]
    have hrises : rung (some state) = rung (entryAfter p before) + 1 := hrung
    constructor
    · exact fun _ => ⟨state, hstep, hrung, hopened⟩
    · exact fun hne => absurd hcall hne
    · intro _ hfalls
      rw [hentry, hrises] at hfalls
      omega
    · intro _ _ hnone
      rw [hentry] at hnone
      cases hnone
  | recordWithinCapacity =>
    have hstep : entryAfter p (e :: before) =
        (recordWithinCapacity p (entryAfter p before) e.now).1 := by rw [entryAfter, step, hcall]
    cases hentry : entryAfter p before with
    | none =>
      have hnone : entryAfter p (e :: before) = none := by rw [hstep, hentry, recordWithinCapacity]
      constructor <;> simp [hcall, hentry, hnone]
    | some state =>
      have hscanned := recordWithinCapacity_scanned p state e.now
      rw [← hentry, ← hstep] at hscanned
      have hspell (hfree : state.pausedUntil ≤ e.now)
          (hfull : p.recoveryScans * p.recoveryWindows ≤ state.healthyScans + 1) :=
        (h.scan hcall hentry hfree).mono hfull
      refine ⟨fun hover => ?_, ?_, ?_, ?_⟩
      · rw [hcall] at hover
        cases hover
      all_goals
        rw [hentry]
        generalize entryAfter p (e :: before) = after at hscanned
      · cases hscanned with
        | down _ _ _ hrung _ => exact fun _ => (Nat.le_succ _).trans_eq hrung.symm
        | _ => simp [rung]
      · -- only a full spell outside of a pause takes a rung off
        cases hscanned with
        | down hfree hfull _ hrung _ => exact fun _ _ => ⟨hrung.symm, hspell hfree hfull⟩
        | left _ _ hrung => exact fun _ hfalls => absurd hfalls (by simp [rung, hrung])
        | _ => exact fun _ hfalls => absurd hfalls (lt_irrefl _)
      · intro _ _ hnone
        subst hnone
        cases hscanned with
        | left hfree hfull hrung => exact ⟨hrung, hrung ▸ hspell hfree hfull⟩

lemma rung_le_length : rung (entryAfter p events) ≤ events.length := by
  induction events with
  | nil => exact le_rfl
  | cons e before ih =>
    rw [length_cons]
    refine le_trans ?_ (Nat.succ_le_succ ih)
    cases hcall : e.call with
    | forget => simp [entryAfter, step, hcall, rung]
    | recordOverload =>
      -- an overload rises one rung
      obtain ⟨state, heq, hrung, -⟩ := recordOverload_entry p (entryAfter p before) e.now
      simp only [entryAfter, step, hcall, heq]
      exact hrung.le
    | recordWithinCapacity =>
      -- a scan within capacity rises none
      cases hentry : entryAfter p before with
      | none => simp [entryAfter, step, hcall, hentry, recordWithinCapacity]
      | some state =>
        have hscanned := recordWithinCapacity_scanned p state e.now
        simp only [entryAfter, step, hcall, hentry]
        generalize (recordWithinCapacity p (some state) e.now).1 = after at hscanned
        cases hscanned with
        | down _ _ _ hrung _ =>
          simp only [rung, Option.getD_some]
          omega
        | _ => simp [rung]

/-- The ladder is kept in a history exactly if no overload comes from the 1024th rung or above. -/
theorem ladder_lawful_iff (p : CaptionBackoffPolicy) (events : List Event)
    (hclock : events.Pairwise fun later earlier => earlier.now ≤ later.now) :
    (∀ e before, e :: before <:+ events → Lawful p e before) ↔
      ∀ e before, e :: before <:+ events → e.call = .recordOverload →
        rung (entryAfter p before) < 1024 := by
  constructor
  · intro h e before hsuffix hcall
    obtain ⟨state, hstep, -⟩ := (h e before hsuffix).overload hcall
    by_contra hhigh
    rw [step, hcall] at hstep
    have hraised := recordOverload_raises (p := p) (n := e.now) (not_lt.mp hhigh)
    simp [hstep] at hraised
  · intro h e before hsuffix
    have hbefore := (hclock.sublist hsuffix.sublist).sublist (sublist_cons_self _ _)
    exact (counted_of_clock hbefore).lawful (h e before hsuffix)

/-- The shipped policy. -/
def shipped : CaptionBackoffPolicy := ⟨120, 900, 3, 3, by decide, by decide, by decide, by decide⟩

/-- Two overloads, and nine scans within capacity from the end of the pause on. -/
def recovered : List Event :=
  (List.range 9).reverse.map (fun k => ⟨.recordWithinCapacity, 300 + 30 * k⟩) ++
    [⟨.recordOverload, 60⟩, ⟨.recordOverload, 0⟩]

/-- The channel climbs to the second rung and comes down to the first. -/
theorem ladder_lawful_recovered :
    (∀ e before, e :: before <:+ recovered → Lawful shipped e before) ∧
      rung (entryAfter shipped (recovered.drop 1)) = 2 ∧
      entryAfter shipped recovered = some ⟨1, 0, 300, 120⟩ := by
  refine ⟨(ladder_lawful_iff shipped recovered (by decide +kernel)).mpr ?_, by decide +kernel,
    by decide +kernel⟩
  intro e before hsuffix _
  have hlength := hsuffix.length_le
  have hrung : rung (entryAfter shipped before) ≤ before.length := rung_le_length
  simp only [recovered, length_cons, length_append, length_map, length_reverse, length_range,
    length_nil] at hlength
  omega

end CivicCast.Captions
