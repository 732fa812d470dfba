import CivicCast.Lib.Runs

/-!
# The worker of the nightly backup

`StationBackupService.start_worker` looks at the clock every half minute and makes the backup of
the day once its scheduled time has come. A failed attempt records when the next one is due, a
quarter of an hour later and then an hour later; a day sees at most three.

Attempts are gated by the day and by the time of the day, and the recorded time is looked at on
the day of the failed attempt only. `retried_on_time_iff` says when the next attempt is made at
the recorded time all the same: where the pass that is to make it is on the day of the attempt
that failed, or where the schedule would have had it made there anyway.
-/

namespace CivicCast.Backup.Nightly

/-- Microseconds of UTC. -/
abbrev Instant : Type := ℤ

def microsecondsPerMinute : ℤ := 60000000

def dayOf (t : Instant) : ℤ := t / (1440 * microsecondsPerMinute)

/-- Whole minutes since midnight. -/
def minuteOfDay (t : Instant) : ℤ := t / microsecondsPerMinute % 1440

structure BackupSchedule where
  enabled : Bool
  hourUtc : ℤ
  minuteUtc : ℤ
deriving DecidableEq

/-- `now.hour` and `now.minute` against the schedule. -/
def BackupSchedule.scheduled (schedule : BackupSchedule) (now : Instant) : Bool :=
  let hour := minuteOfDay now / 60
  let minute := minuteOfDay now % 60
  schedule.hourUtc < hour || (hour = schedule.hourUtc && schedule.minuteUtc ≤ minute)

/-- What `start_worker` keeps in `_state`. -/
structure State where
  lastSuccessDay : Option ℤ
  lastAttemptDay : Option ℤ
  attemptCount : ℕ
  nextAttemptAt : Option Instant
deriving DecidableEq

def State.fresh : State := ⟨none, none, 0, none⟩

def maxScheduledAttempts : ℕ := 3

/-- `_SCHEDULED_RETRY_DELAYS_SECONDS`, by the number of the attempt. -/
def retryDelay (attempt : ℕ) : ℤ :=
  if attempt = 1 then 15 * microsecondsPerMinute else 60 * microsecondsPerMinute

/-- A pass of the loop: the clock, and when `create_backup` raises if it is called and does. -/
structure Pass where
  now : Instant
  raisedAt : Option Instant
deriving DecidableEq

namespace State

variable (schedule : BackupSchedule) (s : State)

def attempts (day : ℤ) : ℕ := if s.lastAttemptDay = some day then s.attemptCount else 0

def due (now : Instant) : Bool :=
  schedule.enabled && schedule.scheduled now && s.lastSuccessDay ≠ some (dayOf now) &&
    s.attempts (dayOf now) < maxScheduledAttempts &&
    !(s.lastAttemptDay = some (dayOf now) && s.nextAttemptAt.any (now < ·))

def attempted (p : Pass) : State where
  lastSuccessDay := if p.raisedAt = none then some (dayOf p.now) else s.lastSuccessDay
  lastAttemptDay := some (dayOf p.now)
  attemptCount := s.attempts (dayOf p.now) + 1
  nextAttemptAt :=
    if s.attempts (dayOf p.now) + 1 < maxScheduledAttempts then
      p.raisedAt.map (· + retryDelay (s.attempts (dayOf p.now) + 1))
    else none

/-- None of the passes makes an attempt. -/
def Waits (passes : List Pass) : Prop := ∀ p ∈ passes, s.due schedule p.now = false

end State

/-- The state, the days of the attempts so far, and the time of the last pass. -/
structure Run where
  state : State
  days : List ℤ
  clock : Instant

def Run.pass (schedule : BackupSchedule) (r : Run) (p : Pass) : Run :=
  if r.state.due schedule p.now then ⟨r.state.attempted p, dayOf p.now :: r.days, p.now⟩
  else { r with clock := p.now }

def InOrder (passes : List Pass) : Prop := passes.Pairwise fun a b => a.now ≤ b.now

instance (passes : List Pass) : Decidable (InOrder passes) :=
  inferInstanceAs (Decidable (List.Pairwise _ passes))

/-- Passes in the order of their times, on a station that never made a backup. -/
abbrev Reached (schedule : BackupSchedule) (start : Instant) : Run → Prop :=
  Lib.Runs.Reached (Run.pass schedule) (fun r p => r.clock ≤ p.now) ⟨.fresh, [], start⟩

section Passes

variable {schedule : BackupSchedule} {r : Run} {p q : Pass}

lemma dayOf_mono {a b : Instant} (h : a ≤ b) : dayOf a ≤ dayOf b :=
  Int.ediv_le_ediv (by decide) h

/-- Nothing is known of days to come, and the attempts of today are counted. -/
structure Run.Inv (r : Run) : Prop where
  attempt : ∀ d, r.state.lastAttemptDay = some d → d ≤ dayOf r.clock
  success : ∀ d, r.state.lastSuccessDay = some d → d ≤ dayOf r.clock
  counted : ∀ d, dayOf r.clock ≤ d → r.days.count d = r.state.attempts d
  few : ∀ d, r.days.count d ≤ maxScheduledAttempts

lemma Run.Inv.pass (h : r.Inv) (hle : r.clock ≤ p.now) : (r.pass schedule p).Inv := by
  have hday := dayOf_mono hle
  unfold Run.pass
  split
  · rename_i hdue
    have htoday := h.counted (dayOf p.now) hday
    have hfew : r.state.attempts (dayOf p.now) < maxScheduledAttempts := by
      simp only [State.due, Bool.and_eq_true, decide_eq_true_eq] at hdue
      exact hdue.1.2
    constructor
    · rintro d ⟨⟩
      exact le_rfl
    · intro d hd
      simp only [State.attempted] at hd
      split at hd
      · cases hd
        exact le_rfl
      · exact (h.success d hd).trans hday
    · intro d hd
      change dayOf p.now ≤ d at hd
      by_cases hsame : d = dayOf p.now
      · subst hsame
        simp [State.attempts, State.attempted, htoday]
      · -- a day after today
        have hnone : r.state.attempts d = 0 := by
          refine if_neg fun hlast => ?_
          have := h.attempt d hlast
          omega
        have hold := h.counted d (hday.trans hd)
        simp only [State.attempts, State.attempted, Option.some.injEq, List.count_cons]
        simp [Ne.symm hsame, hold, hnone]
    · intro d
      by_cases hsame : d = dayOf p.now
      · subst hsame
        rw [List.count_cons_self]
        omega
      · rw [List.count_cons_of_ne (Ne.symm hsame)]
        exact h.few d
  · constructor
    · exact fun d hd => (h.attempt d hd).trans hday
    · exact fun d hd => (h.success d hd).trans hday
    · exact fun d hd => h.counted d (hday.trans hd)
    · exact h.few

lemma Reached.inv {start : Instant} (h : Reached schedule start r) : r.Inv := by
  refine h.invariant ⟨?_, ?_, fun _ _ => rfl, fun _ => Nat.zero_le _⟩ fun _ _ hinv hle =>
    hinv.pass hle
  · rintro d ⟨⟩
  · rintro d ⟨⟩

lemma scheduled_mono {a b : ℤ} (hle : a ≤ b) (hday : dayOf a = dayOf b)
    (h : schedule.scheduled a = true) : schedule.scheduled b = true := by
  have hmono : minuteOfDay a ≤ minuteOfDay b := by
    unfold dayOf microsecondsPerMinute at hday
    unfold minuteOfDay microsecondsPerMinute
    omega
  simp only [BackupSchedule.scheduled, Bool.or_eq_true, Bool.and_eq_true, decide_eq_true_eq] at h ⊢
  omega

/-- After a failed attempt that is not the third of its day, on that day and later. -/
lemma Run.Inv.due_attempted_iff (h : r.Inv) (hp : r.clock ≤ p.now)
    (hdue : r.state.due schedule p.now = true) {retryAt now : Instant}
    (hretry : (r.state.attempted p).nextAttemptAt = some retryAt) (hle : p.now ≤ now) :
    (r.state.attempted p).due schedule now = true ↔
      schedule.scheduled now = true ∧ (dayOf p.now = dayOf now → retryAt ≤ now) := by
  have hmore : r.state.attempts (dayOf p.now) + 1 < maxScheduledAttempts := by
    by_contra hthird
    simp [State.attempted, hthird] at hretry
  have hsuccess : (r.state.attempted p).lastSuccessDay = r.state.lastSuccessDay := by
    refine if_neg fun hnone => ?_
    simp [State.attempted, hnone] at hretry
  have hcount : (r.state.attempted p).attempts (dayOf now) < maxScheduledAttempts := by
    show (if _ then r.state.attempts (dayOf p.now) + 1 else 0) < _
    split
    · exact hmore
    · decide
  simp only [State.due, Bool.and_eq_true, decide_eq_true_eq] at hdue
  -- the last success is from before today, so it is not of `now` either
  have hnot : r.state.lastSuccessDay ≠ some (dayOf now) := by
    intro hlast
    have := h.success _ hlast
    have := dayOf_mono hp
    have := dayOf_mono hle
    have hsame : dayOf now = dayOf p.now := by omega
    exact hdue.1.1.2 (hsame ▸ hlast)
  have hday : (r.state.attempted p).lastAttemptDay = some (dayOf p.now) := rfl
  unfold State.due
  rw [hretry, hsuccess, hday]
  simp [hdue.1.1.1.1, hcount, imp_iff_not_or, hnot]

/-- A day sees three attempts at most; and a failed attempt is made again by the first pass at or
after the recorded time exactly if that pass is on the day of the attempt, or the schedule has it
made there and by none of the passes before. -/
theorem retried_on_time_iff {start : Instant} (h : Reached schedule start r) :
    (∀ day, r.days.count day ≤ maxScheduledAttempts) ∧
      ∀ p q between, r.clock ≤ p.now → InOrder (p :: between ++ [q]) →
        r.state.due schedule p.now = true → ∀ retryAt,
        (r.pass schedule p).state.nextAttemptAt = some retryAt →
        (∀ k ∈ between, k.now < retryAt) → retryAt ≤ q.now →
        ((r.pass schedule p).state.Waits schedule between ∧
            (r.pass schedule p).state.due schedule q.now = true ↔
          dayOf p.now = dayOf q.now ∨ schedule.scheduled q.now = true ∧
            ∀ k ∈ between, dayOf p.now = dayOf k.now ∨ schedule.scheduled k.now = false) := by
  refine ⟨h.inv.few, ?_⟩
  intro p q between hclock horder hdue retryAt hretry hwait hq
  rw [InOrder, List.cons_append, List.pairwise_cons, List.pairwise_append] at horder
  rcases horder with ⟨hlater, -, -, hlast⟩
  have hstate : (r.pass schedule p).state = r.state.attempted p := by
    rw [Run.pass, if_pos hdue]
  rw [hstate] at hretry ⊢
  have hiff := @Run.Inv.due_attempted_iff schedule r p h.inv hclock hdue retryAt
  have hqle : p.now ≤ q.now := hlater q (by simp)
  have hkle : ∀ k ∈ between, p.now ≤ k.now := fun k hk => hlater k (by simp [hk])
  -- a pass in between makes an attempt on a later day only
  have hbusy : ∀ k ∈ between, (r.state.attempted p).due schedule k.now = false ↔
      dayOf p.now = dayOf k.now ∨ schedule.scheduled k.now = false := by
    intro k hk
    have hsoon := not_le.mpr (hwait k hk)
    rw [← Bool.not_eq_true, hiff hretry (hkle k hk), ← Bool.not_eq_true]
    tauto
  rw [hiff hretry hqle]
  constructor
  · rintro ⟨hwaits, hon, -⟩
    exact .inr ⟨hon, fun k hk => (hbusy k hk).mp (hwaits k hk)⟩
  · rintro (hday | ⟨hon, hidle⟩)
    · have hon : schedule.scheduled p.now = true := by
        simp only [State.due, Bool.and_eq_true] at hdue
        exact hdue.1.1.1.2
      refine ⟨fun k hk => (hbusy k hk).mpr (.inl ?_), scheduled_mono hqle hday hon, fun _ => hq⟩
      have := dayOf_mono (hkle k hk)
      have := dayOf_mono (hlast k hk q List.mem_cons_self)
      omega
    · exact ⟨fun k hk => (hbusy k hk).mpr (hidle k hk), hon, fun _ => hq⟩

end Passes

/-! ## Ten to midnight -/

def at2350 : BackupSchedule := ⟨true, 23, 50⟩

/-- A pass this many half minutes after the epoch, whose backup fails at once. -/
def failingAt (halfMinute : ℕ) : Pass := ⟨halfMinute * 30000000, some (halfMinute * 30000000)⟩

/-- The passes of the next quarter of an hour wait. -/
theorem retried_within_the_day :
    (Run.pass ⟨true, 3, 10⟩ ⟨.fresh, [], 0⟩ (failingAt 380)).state.Waits ⟨true, 3, 10⟩
        ((List.range' 381 29).map failingAt) ∧
      (Run.pass ⟨true, 3, 10⟩ ⟨.fresh, [], 0⟩ (failingAt 380)).state.due ⟨true, 3, 10⟩
        (failingAt 410).now = true :=
  ((retried_on_time_iff .start).2 (failingAt 380) (failingAt 410)
    ((List.range' 381 29).map failingAt) (by decide) (by decide +kernel) (by decide) _ rfl
    (by decide +kernel) (by decide)).mpr (.inl (by decide))

/-- The attempt at 23:50 is to be made again at 00:05, and nothing is scheduled then: neither that
pass nor one before it makes the attempt. -/
theorem not_retried_after_midnight :
    (Run.pass at2350 ⟨.fresh, [], 0⟩ (failingAt 2860)).state.nextAttemptAt =
        some (failingAt 2890).now ∧
      (Run.pass at2350 ⟨.fresh, [], 0⟩ (failingAt 2860)).state.Waits at2350
        ((List.range' 2861 30).map failingAt) := by
  unfold State.Waits
  decide

end CivicCast.Backup.Nightly
