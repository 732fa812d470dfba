import CivicCast.Underwriting.Store

/-!
# The trafficking compiler

`TraffickingCompiler.compile_for_date` fills the break slots of a day: for every slot the active
flights are narrowed by channel, spot, daypart and daily cap, and the one with the fewest
placements is taken. Caps and fairness go by the stored placements, counted once at the start of a
run, and by the choices of the run itself.

A second run counts the placements of the first one as placements of others. It repeats the first
one if and only if, with the counts as the first run left them, every flight it chose is still
below its cap and still the fairest of the eligible ones, and every slot it left open has no
eligible flight below its cap (`idempotent_iff`).
-/

namespace CivicCast.Underwriting

open Lib Reporting List Function

structure CandidateBreakSlot where
  channelId : String
  scheduledAt : Instant
  scheduleItemId : String
  deriving DecidableEq

inductive SkipReason where
  | noActiveFlightForChannel
  | allEligibleFlightsAtCap
  | allEligibleFlightsOutsideDaypart
  | noEligibleAfterFilters
  deriving DecidableEq

structure SkippedSlot where
  candidate : CandidateBreakSlot
  reason : SkipReason
  deriving DecidableEq

structure CompileResult where
  forDate : Day
  placements : List SpotPlacement
  skipped : List SkippedSlot
  deriving DecidableEq

structure ScheduleBlock where
  daysOfWeek : List ℤ
  startMinute : ℤ
  endMinute : ℤ

/-- `_local_minute_and_dow`. The epoch began on a Thursday. -/
def localMinuteAndDow (scheduledAt : Instant) (localTzOffsetMinutes : ℤ) : ℤ × ℤ :=
  let wall := scheduledAt + localTzOffsetMinutes * 60000000
  (wall / 60000000 % 1440, (wall / dayMicros + 3) % 7)

/-- The arguments of the compiler. -/
structure TraffickingCompiler where
  daypartResolver : Option (String → Option ScheduleBlock)
  requireFccAck : Bool

def daypartInWindow (cfg : TraffickingCompiler) (localTzOffsetMinutes : ℤ)
    (scheduledAt : Instant) (f : SpotFlight) : Bool :=
  match f.daypartBlockId, cfg.daypartResolver with
  | none, _ => true
  | some _, none => true
  | some blockId, some resolve =>
    match resolve blockId with
    | none => false
    | some block =>
      let (minute, dow) := localMinuteAndDow scheduledAt localTzOffsetMinutes
      dow ∈ block.daysOfWeek && block.startMinute ≤ minute && minute < block.endMinute

/-! ## Picking a flight -/

/-- The counts of placements by flight, of the day and of all time. -/
structure Tally where
  perDay : String → ℕ
  lifetime : String → ℕ

def Tally.add (t : Tally) (flightId : String) : Tally where
  perDay := update t.perDay flightId (t.perDay flightId + 1)
  lifetime := update t.lifetime flightId (t.lifetime flightId + 1)

/-- What a run reads before its first slot. -/
structure Setup where
  activeFlights : List SpotFlight
  spotByFlight : SpotFlight → Option UnderwritingSpot
  localTzOffsetMinutes : ℤ

section Pick

variable (cfg : TraffickingCompiler) (env : Setup)

/-- The spot is there, and attested where the station asks for it. -/
def spotPasses (f : SpotFlight) : Bool :=
  (env.spotByFlight f).any fun spot => !cfg.requireFccAck || spot.fccCompliantAck

def belowCap (t : Tally) (f : SpotFlight) : Bool :=
  f.frequencyCapPerDay.all fun cap => t.perDay f.flightId < cap

/-- The keys of the picker, compared in their order. -/
def FairnessKey : Type := ℕ ×ₗ ℤ ×ₗ String

instance : LinearOrder FairnessKey := inferInstanceAs (LinearOrder (ℕ ×ₗ ℤ ×ₗ String))

def fairness (t : Tally) (f : SpotFlight) : FairnessKey :=
  toLex (t.lifetime f.flightId, toLex (f.createdAt, f.flightId))

def pickLeastAired (t : Tally) (candidates : List SpotFlight) : Option SpotFlight :=
  candidates.argmin (fairness t)

def pickFlight (t : Tally) (c : CandidateBreakSlot) : Except SkipReason SpotFlight :=
  let onChannel := env.activeFlights.filter fun f => c.channelId ∈ f.channels
  if onChannel.isEmpty then .error .noActiveFlightForChannel
  else
    let afterSpot := onChannel.filter (spotPasses cfg env)
    if afterSpot.isEmpty then .error .noEligibleAfterFilters
    else
      let inDaypart := daypartInWindow cfg env.localTzOffsetMinutes c.scheduledAt
      let afterDaypart := afterSpot.filter inDaypart
      if afterDaypart.isEmpty then
        if afterSpot.any fun f => !inDaypart f then .error .allEligibleFlightsOutsideDaypart
        else .error .noEligibleAfterFilters
      else
        let afterCap := afterDaypart.filter (belowCap t)
        match pickLeastAired t afterCap with
        | some f => .ok f
        -- `if not after_cap`
        | none =>
          if afterDaypart.any fun f => !belowCap t f then .error .allEligibleFlightsAtCap
          else .error .noEligibleAfterFilters

/-- The flight passes the filters that do not look at the counts. -/
def eligible (c : CandidateBreakSlot) (f : SpotFlight) : Bool :=
  c.channelId ∈ f.channels && spotPasses cfg env f &&
    daypartInWindow cfg env.localTzOffsetMinutes c.scheduledAt f

end Pick

/-! ## A run -/

def placementIdOf (scheduleItemId : String) : String := "pl-" ++ scheduleItemId

/-- The placement of a flight in a slot; `none` is the `ValidationError` of an id that is too
long. -/
def makePlacement (createdAt : Instant) (c : CandidateBreakSlot) (f : SpotFlight) :
    Option SpotPlacement :=
  if (placementIdOf c.scheduleItemId).length ≤ 120 then
    some
      { placementId := placementIdOf c.scheduleItemId
        flightId := f.flightId
        channelId := c.channelId
        scheduledAt := c.scheduledAt
        scheduleItemId := c.scheduleItemId
        createdAt := createdAt }
  else none

section Compile

variable (cfg : TraffickingCompiler) (env : Setup) (clock : CandidateBreakSlot → Instant)

/-- The row that `record_placement` gives back. -/
def Store.persisted (s : Store) (p : SpotPlacement) : SpotPlacement :=
  (s.placements.get p.placementId).getD p

/-- The loop of `_compile_locked`. -/
def compileLoop : Tally → Store → List CandidateBreakSlot →
    Option (List SpotPlacement × List SkippedSlot × Store)
  | _, s, [] => some ([], [], s)
  | t, s, c :: cs =>
    match pickFlight cfg env t c with
    | .error reason =>
      (compileLoop t s cs).map fun r => (r.1, ⟨c, reason⟩ :: r.2.1, r.2.2)
    | .ok f =>
      match makePlacement (clock c) c f with
      | none => none
      | some p =>
        let s' := s.recordPlacement p
        (compileLoop (t.add f.flightId) s' cs).map fun r => (s'.persisted p :: r.1, r.2.1, r.2.2)

end Compile

def utcDayWindow (forDate : Day) : Instant × Instant := (dayStart forDate, dayStart (forDate + 1))

def tallyOf (s : Store) (forDate : Day) : Tally where
  perDay := s.countPlacementsByFlight (some (utcDayWindow forDate))
  lifetime := s.countPlacementsByFlight none

def setupOf (s : Store) (forDate : Day) (localTzOffsetMinutes : ℤ) : Setup where
  activeFlights := s.listFlights forDate
  spotByFlight f := s.getSpot f.spotId
  localTzOffsetMinutes := localTzOffsetMinutes

/-- `compile_for_date`; `none` where it raises. -/
def compileForDate (cfg : TraffickingCompiler) (clock : CandidateBreakSlot → Instant) (s : Store)
    (forDate : Day) (candidates : List CandidateBreakSlot) (localTzOffsetMinutes : ℤ) :
    Option (CompileResult × Store) :=
  if candidates.isEmpty then some (⟨forDate, [], []⟩, s)
  else
    (compileLoop cfg (setupOf s forDate localTzOffsetMinutes) clock (tallyOf s forDate) s
      candidates).map fun r => (⟨forDate, r.1, r.2.1⟩, r.2.2)

/-! ## What the picker chooses -/

section Chosen

variable {cfg : TraffickingCompiler} {env : Setup} {t : Tally} {c : CandidateBreakSlot}
  {f : SpotFlight} {reason : SkipReason}

/-- The flights among which the cap and the fairness decide. -/
def pool (cfg : TraffickingCompiler) (env : Setup) (c : CandidateBreakSlot) : List SpotFlight :=
  env.activeFlights.filter (eligible cfg env c)

/-- Why a slot is left open, which the counts do not change. -/
def reasonOf (cfg : TraffickingCompiler) (env : Setup) (c : CandidateBreakSlot) : SkipReason :=
  let onChannel := env.activeFlights.filter fun f => c.channelId ∈ f.channels
  if onChannel.isEmpty then .noActiveFlightForChannel
  else if (onChannel.filter (spotPasses cfg env)).isEmpty then .noEligibleAfterFilters
  else if (pool cfg env c).isEmpty then .allEligibleFlightsOutsideDaypart
  else .allEligibleFlightsAtCap

lemma pool_eq : pool cfg env c =
    ((env.activeFlights.filter fun f => c.channelId ∈ f.channels).filter
      (spotPasses cfg env)).filter
      (daypartInWindow cfg env.localTzOffsetMinutes c.scheduledAt) := by
  rw [pool, filter_filter, filter_filter]
  apply filter_congr
  intro f _
  unfold eligible
  cases decide (c.channelId ∈ f.channels) <;> cases spotPasses cfg env f <;>
    cases daypartInWindow cfg env.localTzOffsetMinutes c.scheduledAt f <;> rfl

lemma any_not_of_filter_nil {α : Type} {p : α → Bool} {l : List α} (hne : l.isEmpty = false)
    (h : (l.filter p).isEmpty = true) : (l.any fun a => !p a) = true := by
  cases l with
  | nil => cases hne
  | cons a l =>
    rw [List.isEmpty_iff, List.filter_eq_nil_iff] at h
    have ha := h a mem_cons_self
    rw [any_cons]
    simp [ha]

/-- The picker takes the fairest flight of the pool that is below its cap. -/
lemma pickFlight_eq : pickFlight cfg env t c =
    match pickLeastAired t ((pool cfg env c).filter (belowCap t)) with
    | some f => .ok f
    | none => .error (reasonOf cfg env c) := by
  unfold pickFlight reasonOf
  dsimp only
  rw [pool_eq]
  generalize hchannel : (env.activeFlights.filter fun f => c.channelId ∈ f.channels) = onChannel
  -- each filter that leaves nothing is a reason of its own
  cases hon : onChannel.isEmpty with
  | true =>
    rw [isEmpty_iff.mp hon]
    rfl
  | false =>
    generalize hspot : onChannel.filter (spotPasses cfg env) = afterSpot
    cases hafter : afterSpot.isEmpty with
    | true =>
      rw [isEmpty_iff.mp hafter]
      rfl
    | false =>
      generalize hdaypart : afterSpot.filter (daypartInWindow cfg env.localTzOffsetMinutes
        c.scheduledAt) = afterDaypart
      cases hempty : afterDaypart.isEmpty with
      | true =>
        rw [if_pos (any_not_of_filter_nil hafter (hdaypart ▸ hempty)), isEmpty_iff.mp hempty]
        rfl
      | false =>
        cases hpick : pickLeastAired t (afterDaypart.filter (belowCap t)) with
        | some f => rfl
        | none =>
          have hnone : (afterDaypart.filter (belowCap t)).isEmpty = true :=
            isEmpty_iff.mpr (argmin_eq_none.mp hpick)
          simp only [if_pos (any_not_of_filter_nil hempty hnone)]
          rfl

/-- With the counts `t`, the flight is below its cap and before every other one in fairness. -/
structure Fits (cfg : TraffickingCompiler) (env : Setup) (t : Tally) (c : CandidateBreakSlot)
    (f : SpotFlight) : Prop where
  below : belowCap t f = true
  fairest : ∀ g ∈ env.activeFlights, eligible cfg env c g = true → belowCap t g = true →
    fairness t f ≤ fairness t g

lemma mem_pool : f ∈ pool cfg env c ↔ f ∈ env.activeFlights ∧ eligible cfg env c f = true :=
  mem_filter

lemma fairness_inj {g : SpotFlight} (h : fairness t f = fairness t g) :
    f.flightId = g.flightId := by
  have hpair := toLex.injective h
  have hinner := toLex.injective (Prod.mk.inj hpair).2
  exact (Prod.mk.inj hinner).2

lemma of_pick_ok (h : pickFlight cfg env t c = .ok f) :
    f ∈ pool cfg env c ∧ Fits cfg env t c f := by
  rw [pickFlight_eq] at h
  split at h
  · rename_i g hpick
    cases h
    have hmem : f ∈ (pool cfg env c).filter (belowCap t) := argmin_mem hpick
    rw [mem_filter] at hmem
    refine ⟨hmem.1, hmem.2, ?_⟩
    intro g hg hel hbelow
    exact le_of_mem_argmin (mem_filter.mpr ⟨mem_pool.mpr ⟨hg, hel⟩, hbelow⟩) hpick
  · cases h

lemma pick_ok_of_fits
    (hunique : ∀ f ∈ env.activeFlights, ∀ g ∈ env.activeFlights, f.flightId = g.flightId → f = g)
    (hf : f ∈ pool cfg env c) (hfits : Fits cfg env t c f) : pickFlight cfg env t c = .ok f := by
  rw [pickFlight_eq]
  have hmem : f ∈ (pool cfg env c).filter (belowCap t) := mem_filter.mpr ⟨hf, hfits.below⟩
  cases hpick : pickLeastAired t ((pool cfg env c).filter (belowCap t)) with
  | none =>
    rw [argmin_eq_none.mp hpick] at hmem
    cases hmem
  | some g =>
    have hg : g ∈ (pool cfg env c).filter (belowCap t) := argmin_mem hpick
    rw [mem_filter, mem_pool] at hg
    have hle : fairness t g ≤ fairness t f := le_of_mem_argmin hmem hpick
    have hge : fairness t f ≤ fairness t g := hfits.fairest g hg.1.1 hg.1.2 hg.2
    have hsame := hunique g hg.1.1 f (mem_pool.mp hf).1 (fairness_inj (le_antisymm hle hge))
    rw [hsame]

lemma pick_error_iff : pickFlight cfg env t c = .error reason ↔
    reason = reasonOf cfg env c ∧
      ∀ g ∈ env.activeFlights, eligible cfg env c g = true → belowCap t g = false := by
  rw [pickFlight_eq]
  cases hpick : pickLeastAired t ((pool cfg env c).filter (belowCap t)) with
  | none =>
    have hnil := argmin_eq_none.mp hpick
    rw [filter_eq_nil_iff] at hnil
    simp only [Except.error.injEq]
    constructor
    · intro h
      refine ⟨h.symm, ?_⟩
      intro g hg hel
      simpa using hnil g (mem_pool.mpr ⟨hg, hel⟩)
    · exact fun h => h.1.symm
  | some g =>
    have hg : g ∈ (pool cfg env c).filter (belowCap t) := argmin_mem hpick
    rw [mem_filter, mem_pool] at hg
    simp only [reduceCtorEq, false_iff]
    rintro ⟨_, hall⟩
    rw [hall g hg.1.1 hg.1.2] at hg
    cases hg.2

end Chosen

/-! ## The plan of a run -/

section Plan

variable (cfg : TraffickingCompiler) (env : Setup)

/-- The choice for a slot: a flight, or the reason why there is none. -/
abbrev Choice : Type := Except SkipReason SpotFlight

/-- The choices of a run, which leave the store out of account. -/
def plan : Tally → List CandidateBreakSlot → List Choice
  | _, [] => []
  | t, c :: cs =>
    match pickFlight cfg env t c with
    | .ok f => .ok f :: plan (t.add f.flightId) cs
    | .error reason => .error reason :: plan t cs

abbrev planned (t : Tally) (cs : List CandidateBreakSlot) : List (CandidateBreakSlot × Choice) :=
  cs.zip (plan cfg env t cs)

/-- With the counts `t`, and the choices of the list itself, every choice would be made again: a
flight fits, and a slot that was left open has no eligible flight below its cap. -/
def Repeats : Tally → List (CandidateBreakSlot × Choice) → Prop
  | _, [] => True
  | t, (c, .ok f) :: rest => Fits cfg env t c f ∧ Repeats (t.add f.flightId) rest
  | t, (c, .error _) :: rest =>
    (∀ g ∈ env.activeFlights, eligible cfg env c g = true → belowCap t g = false) ∧ Repeats t rest

variable {cfg env} {cs : List CandidateBreakSlot}

/-- No two active flights share an id. -/
def UniqueFlights (env : Setup) : Prop :=
  ∀ f ∈ env.activeFlights, ∀ g ∈ env.activeFlights, f.flightId = g.flightId → f = g

lemma plan_eq_iff (hunique : UniqueFlights env) :
    ∀ {t t' : Tally}, plan cfg env t' cs = plan cfg env t cs ↔
      Repeats cfg env t' (planned cfg env t cs) := by
  induction cs with
  | nil =>
    intro t t'
    exact ⟨fun _ => trivial, fun _ => rfl⟩
  | cons c cs ih =>
    intro t t'
    cases hfirst : pickFlight cfg env t c with
    | ok f =>
      obtain ⟨hpool, _⟩ := of_pick_ok hfirst
      simp only [planned, plan, hfirst, zip_cons_cons, Repeats]
      constructor
      · intro h
        cases hsecond : pickFlight cfg env t' c with
        | ok g =>
          rw [hsecond] at h
          simp only [cons.injEq, Except.ok.injEq] at h
          obtain ⟨rfl, hrest⟩ := h
          exact ⟨(of_pick_ok hsecond).2, ih.mp hrest⟩
        | error reason =>
          -- no flight fits the slot, for the same reason
          rw [hsecond] at h
          simp at h
      · rintro ⟨hfits, hrest⟩
        rw [pick_ok_of_fits hunique hpool hfits]
        simp only [cons.injEq, true_and]
        exact ih.mpr hrest
    | error reason =>
      obtain ⟨hreason, _⟩ := pick_error_iff.mp hfirst
      simp only [planned, plan, hfirst, zip_cons_cons, Repeats]
      constructor
      · intro h
        cases hsecond : pickFlight cfg env t' c with
        | ok g =>
          rw [hsecond] at h
          simp at h
        | error reason' =>
          rw [hsecond] at h
          simp only [cons.injEq, Except.error.injEq] at h
          exact ⟨(pick_error_iff.mp hsecond).2, ih.mp h.2⟩
      · rintro ⟨hcapped, hrest⟩
        rw [pick_error_iff.mpr ⟨hreason, hcapped⟩]
        simp only [cons.injEq, true_and]
        exact ih.mpr hrest

lemma mem_active_of_plan {f : SpotFlight} :
    ∀ {t : Tally}, .ok f ∈ plan cfg env t cs → f ∈ env.activeFlights := by
  induction cs with
  | nil => intro t h; cases h
  | cons c cs ih =>
    intro t h
    cases hpick : pickFlight cfg env t c with
    | ok g =>
      simp only [plan, hpick, mem_cons, Except.ok.injEq] at h
      rcases h with rfl | h
      · exact (mem_pool.mp (of_pick_ok hpick).1).1
      · exact ih h
    | error reason =>
      simp only [plan, hpick, mem_cons, reduceCtorEq, false_or] at h
      exact ih h

lemma length_plan (cs : List CandidateBreakSlot) : ∀ t, (plan cfg env t cs).length = cs.length := by
  induction cs with
  | nil => intro t; rfl
  | cons c cs ih =>
    intro t
    rw [plan]
    split
    · rw [length_cons, length_cons, ih]
    · rw [length_cons, length_cons, ih]

end Plan

/-! ## What a run writes -/

section Writes

/-- The slots that a list of choices leaves open. -/
def skippedOf (choices : List (CandidateBreakSlot × Choice)) : List SkippedSlot :=
  choices.filterMap fun
    | (c, .error reason) => some ⟨c, reason⟩
    | (_, .ok _) => none

/-- The ids of the placements and their flights. -/
def placedOf (choices : List (CandidateBreakSlot × Choice)) : List (String × String) :=
  choices.filterMap fun
    | (c, .ok f) => some (placementIdOf c.scheduleItemId, f.flightId)
    | (_, .error _) => none

/-- The stored rows of the slots that were filled. -/
def storedOf (s : Store) (choices : List (CandidateBreakSlot × Choice)) : List SpotPlacement :=
  choices.filterMap fun
    | (c, .ok _) => s.placements.get (placementIdOf c.scheduleItemId)
    | (_, .error _) => none

/-- The row is the placement of the flight in the slot. -/
structure PlacedRow (c : CandidateBreakSlot) (f : SpotFlight) (row : SpotPlacement) : Prop where
  placementId : row.placementId = placementIdOf c.scheduleItemId
  flightId : row.flightId = f.flightId
  channelId : row.channelId = c.channelId
  scheduledAt : row.scheduledAt = c.scheduledAt
  scheduleItemId : row.scheduleItemId = c.scheduleItemId

lemma placementIdOf_inj {a b : String} : placementIdOf a = placementIdOf b ↔ a = b := by
  constructor
  · intro h
    have hlist : ("pl-" ++ a).toList = ("pl-" ++ b).toList := congrArg String.toList h
    rw [String.toList_append, String.toList_append] at hlist
    exact String.toList_inj.mp (append_cancel_left hlist)
  · rintro rfl
    rfl

variable {createdAt : Instant} {c : CandidateBreakSlot} {f : SpotFlight} {p : SpotPlacement}
  {s : Store}

lemma makePlacement_placed (h : makePlacement createdAt c f = some p) : PlacedRow c f p := by
  unfold makePlacement at h
  split at h
  · cases h
    exact ⟨rfl, rfl, rfl, rfl, rfl⟩
  · cases h

lemma length_of_makePlacement (h : makePlacement createdAt c f = some p) :
    (placementIdOf c.scheduleItemId).length ≤ 120 := by
  unfold makePlacement at h
  split at h
  · assumption
  · cases h

lemma makePlacement_of_length (createdAt : Instant) (f : SpotFlight)
    (h : (placementIdOf c.scheduleItemId).length ≤ 120) :
    ∃ p, makePlacement createdAt c f = some p := by
  rw [makePlacement, if_pos h]
  exact ⟨_, rfl⟩

lemma get_recordPlacement_self (s : Store) (p : SpotPlacement) :
    ∃ row, (s.recordPlacement p).placements.get p.placementId = some row ∧
      row = { p with createdAt := row.createdAt } := by
  unfold Store.recordPlacement
  rw [Table.get_upsert_self]
  cases hget : Table.get s.placements p.placementId with
  | none => exact ⟨p, rfl, rfl⟩
  | some old =>
    have hkey : old.placementId = p.placementId := Table.key_of_get hget
    exact ⟨_, rfl, by simp [hkey]⟩

lemma get_recordPlacement_of_ne {id : String} (h : id ≠ p.placementId) :
    (s.recordPlacement p).placements.get id = s.placements.get id :=
  Table.get_upsert_of_ne h

lemma recordPlacement_eq_self {row : SpotPlacement} (hmake : makePlacement createdAt c f = some p)
    (hget : s.placements.get (placementIdOf c.scheduleItemId) = some row)
    (hrow : PlacedRow c f row) : s.recordPlacement p = s := by
  have hp := makePlacement_placed hmake
  have hsame : s.placements.upsert p
      (fun row => { p with placementId := row.placementId, createdAt := row.createdAt })
      (fun _ => rfl) = s.placements := by
    apply Table.upsert_eq_self
    · rw [hp.placementId]
      exact hget
    · cases row
      cases p
      simp only [SpotPlacement.mk.injEq]
      exact ⟨trivial, hp.flightId.trans hrow.flightId.symm, hp.channelId.trans hrow.channelId.symm,
        hp.scheduledAt.trans hrow.scheduledAt.symm,
        hp.scheduleItemId.trans hrow.scheduleItemId.symm, trivial⟩
  unfold Store.recordPlacement
  rw [hsame]

end Writes

/-! ## The loop follows the plan -/

section Follows

/-- Every slot that was filled has its placement in the store. -/
def Stored (s : Store) (choices : List (CandidateBreakSlot × Choice)) : Prop :=
  ∀ c f, (c, .ok f) ∈ choices → (placementIdOf c.scheduleItemId).length ≤ 120 ∧
    ∃ row, s.placements.get (placementIdOf c.scheduleItemId) = some row ∧ PlacedRow c f row

/-- What a loop over the slots `cs` has done to the store `s`. -/
structure Followed (s s' : Store) (cs : List CandidateBreakSlot)
    (choices : List (CandidateBreakSlot × Choice)) : Prop where
  stored : Stored s' choices
  spots : s'.spots = s.spots
  flights : s'.flights = s.flights
  others : ∀ id, (∀ c ∈ cs, id ≠ placementIdOf c.scheduleItemId) →
    s'.placements.get id = s.placements.get id

variable {cfg : TraffickingCompiler} {env : Setup} {clock : CandidateBreakSlot → Instant}
  {s : Store} {row : SpotPlacement} {cs : List CandidateBreakSlot}

lemma persisted_recordPlacement {p : SpotPlacement}
    (h : (s.recordPlacement p).placements.get p.placementId = some row) :
    (s.recordPlacement p).persisted p = row := by
  rw [Store.persisted, h, Option.getD_some]

lemma storedOf_cons {c : CandidateBreakSlot} {f : SpotFlight}
    {rest : List (CandidateBreakSlot × Choice)}
    (h : s.placements.get (placementIdOf c.scheduleItemId) = some row) :
    storedOf s ((c, .ok f) :: rest) = row :: storedOf s rest := by
  rw [storedOf, filterMap_cons]
  simp only [h]
  rfl

/-- A loop that ends has made the choices of the plan, and each is in the store. -/
lemma compileLoop_followed :
    ∀ {t : Tally} {s s' : Store} {placements : List SpotPlacement} {skipped : List SkippedSlot},
      (cs.map (·.scheduleItemId)).Nodup →
      compileLoop cfg env clock t s cs = some (placements, skipped, s') →
      Followed s s' cs (planned cfg env t cs) ∧
        placements = storedOf s' (planned cfg env t cs) ∧
        skipped = skippedOf (planned cfg env t cs) := by
  induction cs with
  | nil =>
    intro t s s' placements skipped _ h
    cases h
    exact ⟨⟨nofun, rfl, rfl, fun id _ => rfl⟩, rfl, rfl⟩
  | cons c cs ih =>
    intro t s s' placements skipped hnodup h
    rw [map_cons, nodup_cons] at hnodup
    obtain ⟨hfresh, hnodup⟩ := hnodup
    rw [compileLoop] at h
    cases hpick : pickFlight cfg env t c with
    | error reason =>
      rw [hpick] at h
      obtain ⟨⟨ps, sk, s''⟩, hloop, heq⟩ := Option.map_eq_some_iff.mp h
      cases heq
      obtain ⟨hfollowed, hps, hsk⟩ := ih hnodup hloop
      have hplanned : planned cfg env t (c :: cs) =
          (c, .error reason) :: planned cfg env t cs := by
        rw [planned, plan, hpick, zip_cons_cons]
      rw [hplanned]
      refine ⟨⟨?_, hfollowed.spots, hfollowed.flights, ?_⟩, hps, ?_⟩
      · intro c' f hmem
        rcases mem_cons.mp hmem with hhead | htail
        · cases hhead
        · exact hfollowed.stored c' f htail
      · intro id hid
        exact hfollowed.others id fun c' hc' => hid c' (mem_cons_of_mem c hc')
      · rw [hsk]
        rfl
    | ok f =>
      rw [hpick] at h
      simp only at h
      cases hmake : makePlacement (clock c) c f with
      | none =>
        rw [hmake] at h
        cases h
      | some p =>
        rw [hmake] at h
        obtain ⟨⟨ps, sk, s''⟩, hloop, heq⟩ := Option.map_eq_some_iff.mp h
        cases heq
        obtain ⟨hfollowed, hps, hsk⟩ := ih hnodup hloop
        have hplaced := makePlacement_placed hmake
        have hplanned : planned cfg env t (c :: cs) =
            (c, .ok f) :: planned cfg env (t.add f.flightId) cs := by
          rw [planned, plan, hpick, zip_cons_cons]
        -- the later slots have other ids, so the row of this one stays
        have hothers : ∀ c' ∈ cs,
            placementIdOf c.scheduleItemId ≠ placementIdOf c'.scheduleItemId := by
          intro c' hc' heq
          apply hfresh
          rw [placementIdOf_inj.mp heq]
          exact mem_map_of_mem hc'
        obtain ⟨row, hrow, hsame⟩ := get_recordPlacement_self s p
        have hkept : s''.placements.get (placementIdOf c.scheduleItemId) = some row := by
          rw [hfollowed.others _ hothers, ← hplaced.placementId]
          exact hrow
        have hplacedRow : PlacedRow c f row := by
          rw [hsame]
          exact ⟨hplaced.placementId, hplaced.flightId, hplaced.channelId,
            hplaced.scheduledAt, hplaced.scheduleItemId⟩
        rw [hplanned]
        refine ⟨⟨?_, hfollowed.spots, hfollowed.flights, ?_⟩, ?_, hsk⟩
        · intro c' f' hmem
          rcases mem_cons.mp hmem with hhead | htail
          · cases hhead
            exact ⟨length_of_makePlacement hmake, row, hkept, hplacedRow⟩
          · exact hfollowed.stored c' f' htail
        · intro id hid
          rw [hfollowed.others id fun c' hc' => hid c' (mem_cons_of_mem c hc')]
          apply get_recordPlacement_of_ne
          rw [hplaced.placementId]
          exact hid c mem_cons_self
        · rw [persisted_recordPlacement hrow, hps, storedOf_cons hkept]

/-- A loop that finds its placements in the store leaves them as they are. -/
lemma compileLoop_of_stored (clock : CandidateBreakSlot → Instant) :
    ∀ {t : Tally}, Stored s (planned cfg env t cs) →
      compileLoop cfg env clock t s cs =
        some (storedOf s (planned cfg env t cs), skippedOf (planned cfg env t cs), s) := by
  induction cs with
  | nil =>
    intro t _
    rfl
  | cons c cs ih =>
    intro t hstored
    rw [compileLoop]
    cases hpick : pickFlight cfg env t c with
    | error reason =>
      have hplanned : planned cfg env t (c :: cs) =
          (c, .error reason) :: planned cfg env t cs := by
        rw [planned, plan, hpick, zip_cons_cons]
      rw [hplanned] at hstored ⊢
      simp only [ih fun c' f h => hstored c' f (mem_cons_of_mem _ h)]
      rfl
    | ok f =>
      have hplanned : planned cfg env t (c :: cs) =
          (c, .ok f) :: planned cfg env (t.add f.flightId) cs := by
        rw [planned, plan, hpick, zip_cons_cons]
      rw [hplanned] at hstored ⊢
      -- the upsert finds the row as it would leave it
      obtain ⟨hlength, row, hget, hrow⟩ := hstored c f mem_cons_self
      obtain ⟨p, hmake⟩ := makePlacement_of_length (clock c) f hlength
      have hsame := recordPlacement_eq_self hmake hget hrow
      have hpersisted : s.persisted p = row := by
        rw [Store.persisted, (makePlacement_placed hmake).placementId, hget, Option.getD_some]
      simp only [hmake, hsame, hpersisted,
        ih fun c' f' h => hstored c' f' (mem_cons_of_mem _ h), Option.map_some]
      rw [storedOf_cons hget]
      rfl

end Follows

/-! ## The plan can be read off the result -/

section ReadOff

variable {s : Store} {choices : List (CandidateBreakSlot × Choice)} {cs : List CandidateBreakSlot}

lemma placedOf_eq (hstored : Stored s choices) :
    placedOf choices = (storedOf s choices).map fun row => (row.placementId, row.flightId) := by
  induction choices with
  | nil => rfl
  | cons choice rest ih =>
    have hrest := ih fun c f h => hstored c f (mem_cons_of_mem choice h)
    obtain ⟨c, choice⟩ := choice
    cases choice with
    | error reason => exact hrest
    | ok f =>
      obtain ⟨-, row, hget, hrow⟩ := hstored c f mem_cons_self
      rw [storedOf_cons hget, map_cons, hrow.placementId, hrow.flightId, ← hrest]
      rfl

lemma candidate_of_mem_skippedOf {slot : SkippedSlot} (h : slot ∈ skippedOf choices) :
    slot.candidate ∈ choices.map Prod.fst := by
  obtain ⟨⟨c, choice⟩, hmem, hsome⟩ := mem_filterMap.mp h
  cases choice with
  | ok f => cases hsome
  | error reason =>
    cases hsome
    exact mem_map_of_mem hmem

lemma fst_of_mem_zip {p : List Choice} {c : CandidateBreakSlot}
    (h : c ∈ (cs.zip p).map Prod.fst) : c ∈ cs := by
  obtain ⟨⟨c', choice⟩, hmem, rfl⟩ := mem_map.mp h
  exact (of_mem_zip hmem).1

/-- Two lists of choices for the same slots that leave the same slots open for the same reasons,
and place the same flights, are the same. -/
lemma choices_inj {active : List SpotFlight}
    (hunique : ∀ f ∈ active, ∀ g ∈ active, f.flightId = g.flightId → f = g) :
    ∀ {p q : List Choice}, (cs.map (·.scheduleItemId)).Nodup → p.length = cs.length →
      q.length = cs.length → (∀ f, .ok f ∈ p → f ∈ active) → (∀ f, .ok f ∈ q → f ∈ active) →
      placedOf (cs.zip p) = placedOf (cs.zip q) → skippedOf (cs.zip p) = skippedOf (cs.zip q) →
      p = q := by
  induction cs with
  | nil =>
    intro p q _ hp hq _ _ _ _
    rw [length_eq_zero_iff.mp hp, length_eq_zero_iff.mp hq]
  | cons c cs ih =>
    intro p q hnodup hp hq hpa hqa hplaced hskipped
    rw [map_cons, nodup_cons] at hnodup
    obtain ⟨a, p, rfl⟩ := exists_cons_of_length_eq_add_one hp
    obtain ⟨b, q, rfl⟩ := exists_cons_of_length_eq_add_one hq
    have hcs : c ∉ cs := fun h => hnodup.1 (mem_map_of_mem h)
    have htail := fun hpl hsk => ih hnodup.2 (Nat.succ_injective hp) (Nat.succ_injective hq)
      (fun f h => hpa f (mem_cons_of_mem a h))
      (fun f h => hqa f (mem_cons_of_mem b h)) hpl hsk
    -- an open slot comes first in one list of open slots and is in none of the other's
    cases a with
    | ok f =>
      cases b with
      | ok g =>
        have hcons := cons.inj hplaced
        have hsame : f = g := hunique f (hpa f mem_cons_self) g
          (hqa g mem_cons_self) (Prod.mk.inj hcons.1).2
        rw [hsame, htail hcons.2 hskipped]
      | error reason =>
        have hmem : (⟨c, reason⟩ : SkippedSlot) ∈ skippedOf (cs.zip p) := by
          have hhead : (⟨c, reason⟩ : SkippedSlot) ∈
              skippedOf ((c :: cs).zip (.error reason :: q)) := mem_cons_self
          rw [← hskipped] at hhead
          exact hhead
        exact absurd (fst_of_mem_zip (candidate_of_mem_skippedOf hmem)) hcs
    | error reason =>
      cases b with
      | ok g =>
        have hmem : (⟨c, reason⟩ : SkippedSlot) ∈ skippedOf (cs.zip q) := by
          have hhead : (⟨c, reason⟩ : SkippedSlot) ∈
              skippedOf ((c :: cs).zip (.error reason :: p)) := mem_cons_self
          rw [hskipped] at hhead
          exact hhead
        exact absurd (fst_of_mem_zip (candidate_of_mem_skippedOf hmem)) hcs
      | error reason' =>
        have hcons := cons.inj hskipped
        cases hcons.1
        rw [htail hplaced hcons.2]

end ReadOff

/-! ## The second run -/

lemma uniqueFlights_setupOf (s : Store) (forDate : Day) (localTzOffsetMinutes : ℤ) :
    UniqueFlights (setupOf s forDate localTzOffsetMinutes) := by
  intro f hf g hg h
  have hrows : ∀ f ∈ s.listFlights forDate, f ∈ s.flights.rows := by
    intro f hf
    rw [Store.listFlights, mem_insertionSort] at hf
    exact (mem_filter.mp hf).1
  exact Table.eq_of_key_eq (hrows f hf) (hrows g hg) h

section SecondRun

variable {cfg : TraffickingCompiler} {clock clock' : CandidateBreakSlot → Instant}
  {s s' s₁ : Store} {day : Day} {offset : ℤ} {cs : List CandidateBreakSlot} {r : CompileResult}

/-- A run is its loop; with no slots the loop does nothing. -/
lemma compileForDate_eq : compileForDate cfg clock s day cs offset =
    (compileLoop cfg (setupOf s day offset) clock (tallyOf s day) s cs).map
      fun r => (⟨day, r.1, r.2.1⟩, r.2.2) := by
  unfold compileForDate
  split
  · rename_i h
    rw [isEmpty_iff.mp h]
    rfl
  · rfl

lemma compileForDate_followed (hnodup : (cs.map (·.scheduleItemId)).Nodup)
    (h : compileForDate cfg clock s day cs offset = some (r, s')) :
    Followed s s' cs (planned cfg (setupOf s day offset) (tallyOf s day) cs) ∧
      r.placements = storedOf s' (planned cfg (setupOf s day offset) (tallyOf s day) cs) ∧
      r.skipped = skippedOf (planned cfg (setupOf s day offset) (tallyOf s day) cs) := by
  rw [compileForDate_eq] at h
  obtain ⟨⟨ps, sk, s''⟩, hloop, heq⟩ := Option.map_eq_some_iff.mp h
  cases heq
  exact compileLoop_followed hnodup hloop

/-- A run does not touch what it reads apart from the counts. -/
lemma setupOf_eq (hspots : s'.spots = s.spots) (hflights : s'.flights = s.flights) :
    setupOf s' day offset = setupOf s day offset := by
  unfold setupOf Store.listFlights Store.getSpot
  rw [hspots, hflights]

/-- A second run over the same slots gives the same result and leaves the placements alone if and
only if the choices of the first one would be made again with the counts that it left. -/
theorem idempotent_iff (hnodup : (cs.map (·.scheduleItemId)).Nodup)
    (hfirst : compileForDate cfg clock s day cs offset = some (r, s₁)) :
    (∃ s₂, compileForDate cfg clock' s₁ day cs offset = some (r, s₂) ∧
        s₂.placements.rows = s₁.placements.rows) ↔
      Repeats cfg (setupOf s day offset) (tallyOf s₁ day)
        (planned cfg (setupOf s day offset) (tallyOf s day) cs) := by
  obtain ⟨hfollowed, hplacements, hskipped⟩ := compileForDate_followed hnodup hfirst
  have hsetup : setupOf s₁ day offset = setupOf s day offset :=
    setupOf_eq hfollowed.spots hfollowed.flights
  rw [← plan_eq_iff (uniqueFlights_setupOf s day offset)]
  constructor
  · rintro ⟨s₂, hsecond, -⟩
    obtain ⟨hfollowed', hplacements', hskipped'⟩ := compileForDate_followed hnodup hsecond
    rw [hsetup] at hfollowed' hplacements' hskipped'
    apply choices_inj (uniqueFlights_setupOf s day offset) hnodup (length_plan cs _)
      (length_plan cs _) (fun f h => mem_active_of_plan h) (fun f h => mem_active_of_plan h)
    · rw [placedOf_eq hfollowed'.stored, placedOf_eq hfollowed.stored, ← hplacements',
        ← hplacements]
    · rw [← hskipped', ← hskipped]
  · -- the second run finds every placement in the store
    intro hplan
    have hplanned : planned cfg (setupOf s day offset) (tallyOf s₁ day) cs =
        planned cfg (setupOf s day offset) (tallyOf s day) cs := by
      rw [planned, planned, hplan]
    have hloop := compileLoop_of_stored clock' (hplanned ▸ hfollowed.stored)
    refine ⟨s₁, ?_, rfl⟩
    rw [compileForDate_eq, hsetup, hloop, hplanned, ← hplacements, ← hskipped]
    have hdate : r.forDate = day := by
      rw [compileForDate_eq] at hfirst
      obtain ⟨x, -, heq⟩ := Option.map_eq_some_iff.mp hfirst
      rw [← (Prod.mk.inj heq).1]
    rw [Option.map_some, ← hdate]

end SecondRun

/-! ## A day that is run twice -/

def morning : SpotFlight where
  flightId := "flight-a"
  spotId := "spot"
  startDate := 0
  endDate := 30
  frequencyCapPerDay := none
  daypartBlockId := none
  channels := ["gov"]
  createdAt := 0

def evening : SpotFlight := { morning with flightId := "flight-b", createdAt := 1 }

def spot : UnderwritingSpot := ⟨"spot", "station", "bakery", "asset", true⟩

def station (flights : Table SpotFlight String SpotFlight.flightId) : Store where
  spots := ⟨[spot], by decide⟩
  flights := flights
  placements := Table.empty

def quiet : TraffickingCompiler := ⟨none, false⟩

def breakSlot : CandidateBreakSlot := ⟨"gov", dayStart 3, "item"⟩

def placed (flight : SpotFlight) : SpotPlacement where
  placementId := "pl-item"
  flightId := flight.flightId
  channelId := "gov"
  scheduledAt := dayStart 3
  scheduleItemId := "item"
  createdAt := 0

def twoFlights : Store := station ⟨[morning, evening], by decide⟩

def after (s : Store) (flight : SpotFlight) : Store :=
  { s with placements := ⟨[placed flight], by simp⟩ }

/-- A flight of another channel. -/
def schools : SpotFlight :=
  { morning with flightId := "flight-c", channels := ["edu"], createdAt := 2 }

def lessonSlot : CandidateBreakSlot := ⟨"edu", dayStart 3, "lesson"⟩

def lessonPlaced : SpotPlacement :=
  { placed schools with
    placementId := "pl-lesson", channelId := "edu", scheduleItemId := "lesson" }

def twoChannels : Store := station ⟨[morning, schools], by decide⟩

def bothPlaced : Store :=
  { twoChannels with placements := ⟨[placed morning, lessonPlaced], by decide⟩ }

/-- Each slot has its flight, which the second run gives it again. -/
theorem two_channels_repeat :
    compileForDate quiet (fun _ => 0) twoChannels 3 [breakSlot, lessonSlot] 0 =
      some (⟨3, [placed morning, lessonPlaced], []⟩, bothPlaced) ∧
    ∃ s₂, compileForDate quiet (fun _ => 1) bothPlaced 3 [breakSlot, lessonSlot] 0 =
      some (⟨3, [placed morning, lessonPlaced], []⟩, s₂) ∧
      s₂.placements.rows = bothPlaced.placements.rows := by
  have hfirst : compileForDate quiet (fun _ => 0) twoChannels 3 [breakSlot, lessonSlot] 0 =
      some (⟨3, [placed morning, lessonPlaced], []⟩, bothPlaced) := by rfl
  refine ⟨hfirst, (idempotent_iff (by decide) hfirst).mpr ?_⟩
  -- the flight of the other channel is not eligible
  have hactive : ∀ g ∈ (setupOf twoChannels 3 0).activeFlights, g = morning ∨ g = schools := by
    decide
  refine ⟨⟨rfl, ?_⟩, ⟨rfl, ?_⟩, trivial⟩
  all_goals
    intro g hg heligible _
    rcases hactive g hg with rfl | rfl
  · rfl
  · revert heligible
    decide
  · revert heligible
    decide
  · rfl

/-- The first run gives the slot to one flight, and the second one to the other. -/
theorem two_flights_alternate :
    ∃ r s₁, compileForDate quiet (fun _ => 0) twoFlights 3 [breakSlot] 0 = some (r, s₁) ∧
      ¬ ∃ s₂, compileForDate quiet (fun _ => 1) s₁ 3 [breakSlot] 0 = some (r, s₂) ∧
        s₂.placements.rows = s₁.placements.rows := by
  refine ⟨⟨3, [placed morning], []⟩, after twoFlights morning, by rfl, ?_⟩
  have hsecond : compileForDate quiet (fun _ => 1) (after twoFlights morning) 3 [breakSlot] 0 =
      some (⟨3, [placed evening], []⟩, after twoFlights evening) := by rfl
  rintro ⟨s₂, h, -⟩
  rw [hsecond] at h
  have hresult := congrArg CompileResult.placements (Prod.mk.inj (Option.some.inj h)).1
  revert hresult
  decide

end CivicCast.Underwriting
