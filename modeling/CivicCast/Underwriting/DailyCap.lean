import CivicCast.Lib.Runs
import CivicCast.Underwriting.Trafficking

/-! # The daily cap under concurrent compiles

`compile_for_date` counts the stored placements of the day once, and then places slot after slot
by that count and its own choices. A lock per station and date is to keep two callers of one
process from counting the same day, but it belongs to the compiler, and the application builds a
compiler for every request: the lock of a request is free whenever the request gets to it.

`Office` is the store with the requests in flight, and every call of the store is a step of its
own. `caps_hold` is about every run in which no request places a flight with a cap that another
request for that day has placed since the first one counted.
-/

namespace CivicCast.Underwriting

open Lib Reporting List Function Option

/-! ## Requests in flight -/

/-- The arguments of a request, with the compiler that was resolved for it. Its slots are on the
day that it compiles. -/
structure Request where
  cfg : TraffickingCompiler
  forDate : Day
  candidates : List CandidateBreakSlot
  localTzOffsetMinutes : ℤ
  clock : CandidateBreakSlot → Instant
  onDay : ∀ c ∈ candidates,
    (utcDayWindow forDate).1 ≤ c.scheduledAt ∧ c.scheduledAt < (utcDayWindow forDate).2

/-- How far a request is: it waits for the lock, it holds it and is to count the day, it has
counted the day, it places its slots, and it is over. -/
inductive Phase where
  | waiting
  | counting
  | counted (perDay : String → ℕ)
  | placing (t : Tally) (left : List CandidateBreakSlot)
  | over

/-- A request with the number of its compiler, and the flights that others have placed on its
day since it counted. -/
structure Call where
  compiler : ℕ
  request : Request
  phase : Phase
  touched : List String

structure Office where
  store : Store
  calls : List Call

inductive Act where
  | call (r : Request)
  | enter (i : ℕ)
  | countDay (i : ℕ)
  | countLifetime (i : ℕ)
  | slot (i : ℕ)

/-- The request is inside `with self._lock_for(for_date)`. -/
def Call.holds (c : Call) : Bool :=
  match c.phase with
  | .counting | .counted _ | .placing _ _ => true
  | .waiting | .over => false

def Office.locked (o : Office) (compiler : ℕ) (forDate : Day) : Bool :=
  o.calls.any fun c => c.holds && c.compiler = compiler && c.request.forDate = forDate

/-- The choice for a slot, with what the request reads before its first slot. -/
def Office.pick (o : Office) (r : Request) (t : Tally) (c : CandidateBreakSlot) : Choice :=
  pickFlight r.cfg (setupOf o.store r.forDate r.localTzOffsetMinutes) t c

def Office.setPhase (o : Office) (i : ℕ) (phase : Phase) : Office :=
  { o with calls := o.calls.modify i fun c => { c with phase := phase } }

/-- What `record_placement` of the request `i` is for a request of the same day. -/
def Call.touch (forDate : Day) (flightId : String) (c : Call) : Call :=
  if c.request.forDate = forDate then { c with touched := flightId :: c.touched } else c

/-- One slot of `_compile_locked`. -/
def Office.place (o : Office) (i : ℕ) (r : Request) (t : Tally) (c : CandidateBreakSlot)
    (left : List CandidateBreakSlot) : Office :=
  match o.pick r t c with
  | .error _ => o.setPhase i (.placing t left)
  | .ok f =>
    match makePlacement (r.clock c) c f with
    -- the `ValidationError` ends the request
    | none => o.setPhase i .over
    | some p =>
      { store := o.store.recordPlacement p
        calls := o.calls.mapIdx fun j d =>
          if j = i then { d with phase := .placing (t.add f.flightId) left }
          else d.touch r.forDate f.flightId }

def Office.act (o : Office) : Act → Office
  -- `_resolve_trafficking_compiler`: every request has a compiler, and locks, of its own
  | .call r => { o with calls := o.calls ++ [⟨o.calls.length, r, .waiting, []⟩] }
  | .enter i =>
    match o.calls[i]? with
    | none => o
    | some d =>
      match d.phase with
      | .waiting =>
        if d.request.candidates.isEmpty then o.setPhase i .over
        else if o.locked d.compiler d.request.forDate then o
        else o.setPhase i .counting
      | _ => o
  | .countDay i =>
    match o.calls[i]? with
    | none => o
    | some d =>
      match d.phase with
      | .counting =>
        let perDay := (tallyOf o.store d.request.forDate).perDay
        { o with
          calls := o.calls.modify i fun d => { d with phase := .counted perDay, touched := [] } }
      | _ => o
  | .countLifetime i =>
    match o.calls[i]? with
    | none => o
    | some d =>
      match d.phase with
      | .counted perDay =>
        let lifetime := (tallyOf o.store d.request.forDate).lifetime
        o.setPhase i (.placing ⟨perDay, lifetime⟩ d.request.candidates)
      | _ => o
  | .slot i =>
    match o.calls[i]? with
    | none => o
    | some d =>
      match d.phase with
      | .placing t (c :: left) => o.place i d.request t c left
      | .placing _ [] => o.setPhase i .over
      | _ => o

def Store.onDay (s : Store) (flightId : String) (day : Day) : ℕ :=
  s.countPlacementsByFlight (some (utcDayWindow day)) flightId

/-- A flight with a cap is placed only while no other request has placed it on that day since
this one counted. -/
def Office.Unshared (o : Office) : Act → Bool
  | .slot i =>
    match o.calls[i]? with
    | none => true
    | some d =>
      match d.phase with
      | .placing t (c :: _) =>
        match o.pick d.request t c with
        | .ok f => f.frequencyCapPerDay.isNone || !d.touched.contains f.flightId
        | .error _ => true
      | _ => true
  | _ => true

/-! ## The counts of the store -/

section Counts

variable {s : Store} {p : SpotPlacement} {flightId : String} {day day' : Day}

def SpotPlacement.isOn (flightId : String) (day : Day) (p : SpotPlacement) : Bool :=
  p.flightId = flightId && Store.inWindow (utcDayWindow day).1 (utcDayWindow day).2 p

/-- A placement counts once at most, for its own flight and day. -/
lemma onDay_recordPlacement_le (s : Store) (p : SpotPlacement) (flightId : String) (day : Day) :
    (s.recordPlacement p).onDay flightId day ≤
      s.onDay flightId day + (if p.isOn flightId day then 1 else 0) :=
  Table.countP_upsert_le (fun h => h) fun _ h => h

lemma onDay_recordPlacement_of_not (h : p.isOn flightId day = false) :
    (s.recordPlacement p).onDay flightId day ≤ s.onDay flightId day := by
  have hle := onDay_recordPlacement_le s p flightId day
  rw [h, if_neg Bool.false_ne_true, Nat.add_zero] at hle
  exact hle

lemma day_unique {x a b : ℤ} (ha : a * dayMicros ≤ x ∧ x < (a + 1) * dayMicros)
    (hb : b * dayMicros ≤ x ∧ x < (b + 1) * dayMicros) : a = b := by
  unfold dayMicros at ha hb
  omega

lemma day_eq_of_inWindow (h : Store.inWindow (utcDayWindow day).1 (utcDayWindow day).2 p = true)
    (h' : (utcDayWindow day').1 ≤ p.scheduledAt ∧ p.scheduledAt < (utcDayWindow day').2) :
    day = day' := by
  simp only [Store.inWindow, Bool.and_eq_true, decide_eq_true_eq] at h
  exact day_unique h h'

end Counts

/-! ## A count is stale only for what others have placed -/

def Phase.perDay : Phase → Option (String → ℕ)
  | .counted perDay => some perDay
  | .placing t _ => some t.perDay
  | .waiting | .counting | .over => none

/-- The request counts all the placements of the day, other than of flights that others have
placed; and the slots that are left are its own. -/
structure Call.Sound (s : Store) (c : Call) : Prop where
  counted : ∀ perDay, c.phase.perDay = some perDay →
    ∀ flightId, flightId ∉ c.touched → s.onDay flightId c.request.forDate ≤ perDay flightId
  left : ∀ t left, c.phase = .placing t left → ∀ slot ∈ left, slot ∈ c.request.candidates

def Office.Sound (o : Office) : Prop :=
  ∀ (j : ℕ) (c : Call), o.calls[j]? = some c → c.Sound o.store

section Steps

variable {o : Office} {i : ℕ} {r : Request} {t : Tally} {c : CandidateBreakSlot} {d : Call}
  {left : List CandidateBreakSlot} {f : SpotFlight} {p : SpotPlacement} {phase : Phase}

lemma Office.Sound.modify (h : o.Sound) {g : Call → Call} (hi : o.calls[i]? = some d)
    (hd : (g d).Sound o.store) : Office.Sound { o with calls := o.calls.modify i g } := by
  intro j d' hj
  rw [getElem?_modify] at hj
  rcases map_eq_some_iff.mp hj with ⟨old, hold, rfl⟩
  by_cases hij : i = j
  · subst hij
    have hsame : old = d := some.inj (hold.symm.trans hi)
    rw [if_pos rfl, hsame]
    exact hd
  · rw [if_neg hij]
    exact h j old hold

lemma Office.Sound.setPhase (h : o.Sound) (hi : o.calls[i]? = some d)
    (hcount : ∀ perDay, phase.perDay = some perDay → d.phase.perDay = some perDay)
    (hleft : ∀ t left, phase = .placing t left → ∀ slot ∈ left, slot ∈ d.request.candidates) :
    (o.setPhase i phase).Sound := by
  apply h.modify hi
  constructor
  · intro perDay hperDay
    exact (h i d hi).counted perDay (hcount perDay hperDay)
  · exact hleft

lemma Office.Sound.over (h : o.Sound) (hi : o.calls[i]? = some d) : (o.setPhase i .over).Sound := by
  apply h.setPhase hi
  · intro perDay hnone
    cases hnone
  · intro t left hover
    cases hover

lemma isOn_makePlacement (hmake : makePlacement (r.clock c) c f = some p)
    (hc : c ∈ r.candidates) {flightId : String} {day : Day} :
    p.isOn flightId day = true ↔ flightId = f.flightId ∧ day = r.forDate := by
  have hplaced := makePlacement_placed hmake
  have hday := r.onDay c hc
  rw [← hplaced.scheduledAt] at hday
  constructor
  · intro h
    simp only [SpotPlacement.isOn, Bool.and_eq_true, decide_eq_true_eq] at h
    exact ⟨h.1.symm.trans hplaced.flightId, day_eq_of_inWindow h.2 hday⟩
  · rintro ⟨rfl, rfl⟩
    simp only [SpotPlacement.isOn, Store.inWindow, Bool.and_eq_true, decide_eq_true_eq]
    exact ⟨hplaced.flightId, hday⟩

/-- A placement of another request on the day: its flight is touched, and no other count is
stale. -/
lemma Call.Sound.touch {s : Store} (h : d.Sound s) (hmake : makePlacement (r.clock c) c f = some p)
    (hc : c ∈ r.candidates) : (d.touch r.forDate f.flightId).Sound (s.recordPlacement p) := by
  have hkept : ∀ flightId, ¬ (flightId = f.flightId ∧ d.request.forDate = r.forDate) →
      (s.recordPlacement p).onDay flightId d.request.forDate ≤
        s.onDay flightId d.request.forDate := by
    intro flightId hnot
    apply onDay_recordPlacement_of_not
    rw [← Bool.not_eq_true, isOn_makePlacement hmake hc]
    exact hnot
  unfold Call.touch
  split
  · constructor
    · intro perDay hperDay flightId huntouched
      rw [mem_cons, not_or] at huntouched
      have hle := hkept flightId fun heq => huntouched.1 heq.1
      exact le_trans hle (h.counted perDay hperDay flightId huntouched.2)
    · exact h.left
  · rename_i hother
    constructor
    · intro perDay hperDay flightId huntouched
      have hle := hkept flightId fun heq => hother heq.2
      exact le_trans hle (h.counted perDay hperDay flightId huntouched)
    · exact h.left

lemma Call.Sound.add {s : Store} (h : d.Sound s) (hphase : d.phase = .placing t (c :: left))
    (hmake : makePlacement (d.request.clock c) c f = some p) :
    Call.Sound (s.recordPlacement p) { d with phase := .placing (t.add f.flightId) left } := by
  have hslots := h.left t (c :: left) hphase
  have hon := @isOn_makePlacement d.request c f p hmake (hslots c mem_cons_self)
  constructor
  · intro perDay hperDay flightId huntouched
    cases hperDay
    have hcounted := h.counted t.perDay (by rw [hphase]; rfl) flightId huntouched
    have hle := onDay_recordPlacement_le s p flightId d.request.forDate
    by_cases hflight : flightId = f.flightId
    · rw [if_pos (hon.mpr ⟨hflight, rfl⟩)] at hle
      rw [hflight] at hle hcounted ⊢
      have hadd : (t.add f.flightId).perDay f.flightId = t.perDay f.flightId + 1 :=
        update_self f.flightId _ t.perDay
      rw [hadd]
      exact le_trans hle (Nat.add_le_add_right hcounted 1)
    · rw [if_neg fun heq => hflight (hon.mp heq).1, Nat.add_zero] at hle
      have hadd : (t.add f.flightId).perDay flightId = t.perDay flightId :=
        update_of_ne hflight _ t.perDay
      rw [hadd]
      exact le_trans hle hcounted
  · intro t' left' hplacing
    cases hplacing
    intro slot hslot
    exact hslots slot (mem_cons_of_mem c hslot)

lemma Office.Sound.place (h : o.Sound) (hi : o.calls[i]? = some d)
    (hphase : d.phase = .placing t (c :: left)) : (o.place i d.request t c left).Sound := by
  have hslots := (h i d hi).left t (c :: left) hphase
  unfold Office.place
  split
  · apply h.setPhase hi
    · intro perDay hperDay
      rw [hphase]
      exact hperDay
    · intro t' left' hplacing
      cases hplacing
      intro slot hslot
      exact hslots slot (mem_cons_of_mem c hslot)
  · split
    · exact h.over hi
    · rename_i p hmake
      intro j d' hj
      rw [getElem?_mapIdx] at hj
      rcases map_eq_some_iff.mp hj with ⟨old, hold, rfl⟩
      by_cases hij : j = i
      · subst hij
        have hsame : old = d := some.inj (hold.symm.trans hi)
        rw [if_pos rfl, hsame]
        exact (h j d hi).add hphase hmake
      · rw [if_neg hij]
        exact (h j old hold).touch hmake (hslots c mem_cons_self)

lemma Office.Sound.act (h : o.Sound) (a : Act) : (o.act a).Sound := by
  cases a with
  | call r =>
    intro j d hj
    show d.Sound o.store
    rw [Office.act, getElem?_append] at hj
    split at hj
    · exact h j d hj
    · -- the new request has counted nothing yet
      have hnew := mem_singleton.mp (mem_of_getElem? hj)
      rw [hnew]
      constructor
      · intro perDay hnone
        cases hnone
      · intro t left hwaiting
        cases hwaiting
  | enter i =>
    unfold Office.act
    dsimp only
    split
    · exact h
    · rename_i d hi
      split
      · split
        · exact h.over hi
        · split
          · exact h
          · apply h.setPhase hi
            · intro perDay hnone
              cases hnone
            · intro t left hcounting
              cases hcounting
      · exact h
  | countDay i =>
    unfold Office.act
    dsimp only
    split
    · exact h
    · rename_i d hi
      split
      · apply h.modify hi
        constructor
        · intro perDay hperDay flightId _
          cases hperDay
          exact le_refl _
        · intro t left hcounted
          cases hcounted
      · exact h
  | countLifetime i =>
    unfold Office.act
    dsimp only
    split
    · exact h
    · rename_i d hi
      split
      · rename_i perDay hphase
        apply h.setPhase hi
        · intro perDay' hperDay
          rw [hphase]
          exact hperDay
        · intro t left hplacing
          cases hplacing
          exact fun slot hslot => hslot
      · exact h
  | slot i =>
    unfold Office.act
    dsimp only
    split
    · exact h
    · rename_i d hi
      split
      · rename_i t c left hphase
        exact h.place hi hphase
      · exact h.over hi
      · exact h

/-- What a step can do: nothing, start a request, change a request that keeps its compiler, or
place a slot. -/
lemma act_cases (o : Office) (a : Act) :
    o.act a = o ∨ (∃ r, a = .call r) ∨
      (∃ i g, (∀ d : Call, (g d).compiler = d.compiler) ∧
        o.act a = { o with calls := o.calls.modify i g }) ∨
      ∃ i d t c left, a = .slot i ∧ o.calls[i]? = some d ∧ d.phase = .placing t (c :: left) ∧
        o.act a = o.place i d.request t c left := by
  have hphase : ∀ i phase, ∃ i' g, (∀ d : Call, (g d).compiler = d.compiler) ∧
      o.setPhase i phase = { o with calls := o.calls.modify i' g } :=
    fun i phase => ⟨i, fun d => { d with phase := phase }, fun _ => rfl, rfl⟩
  cases a with
  | call r => exact .inr (.inl ⟨r, rfl⟩)
  | enter i =>
    simp only [Office.act]
    split
    · exact .inl rfl
    · split
      · split
        · exact .inr (.inr (.inl (hphase _ _)))
        · split
          · exact .inl rfl
          · exact .inr (.inr (.inl (hphase _ _)))
      · exact .inl rfl
  | countDay i =>
    simp only [Office.act]
    split
    · exact .inl rfl
    · split
      · rename_i d _ _ _
        right; right; left
        exact ⟨i, fun d' => ⟨d'.compiler, d'.request,
          .counted (tallyOf o.store d.request.forDate).perDay, []⟩, fun _ => rfl, rfl⟩
      · exact .inl rfl
  | countLifetime i =>
    simp only [Office.act]
    split
    · exact .inl rfl
    · split
      · exact .inr (.inr (.inl (hphase _ _)))
      · exact .inl rfl
  | slot i =>
    -- the only step that may place
    simp only [Office.act]
    split
    · exact .inl rfl
    · rename_i d hi
      split
      · rename_i t c left hplacing
        exact .inr (.inr (.inr ⟨i, d, t, c, left, rfl, hi, hplacing, rfl⟩))
      · exact .inr (.inr (.inl (hphase _ _)))
      · exact .inl rfl

/-! ## The cap -/

/-- A step changes the placements by recording one, and nothing else of the store. -/
lemma store_act (o : Office) (a : Act) :
    (o.act a).store = o.store ∨
      ∃ i d t c left f p, a = .slot i ∧ o.calls[i]? = some d ∧
        d.phase = .placing t (c :: left) ∧ o.pick d.request t c = .ok f ∧
        makePlacement (d.request.clock c) c f = some p ∧
        (o.act a).store = o.store.recordPlacement p := by
  rcases act_cases o a with hsame | ⟨r, rfl⟩ | ⟨i, g, -, hmodify⟩ |
    ⟨i, d, t, c, left, ha, hi, hphase, hplace⟩
  · rw [hsame]
    exact .inl rfl
  · exact .inl rfl
  · rw [hmodify]
    exact .inl rfl
  · rw [hplace, Office.place]
    split
    · exact .inl rfl
    · rename_i f hpick
      split
      · exact .inl rfl
      · rename_i p hmake
        exact .inr ⟨i, d, t, c, left, f, p, ha, hi, hphase, hpick, hmake, rfl⟩

/-- The flights of the store are the ones from the start, and each cap that was kept is kept. -/
structure Office.Capped (s₀ : Store) (o : Office) : Prop where
  sound : o.Sound
  flights : o.store.flights = s₀.flights
  cap : ∀ f ∈ s₀.flights.rows, ∀ cap, f.frequencyCapPerDay = some cap →
    ∀ day, s₀.onDay f.flightId day ≤ cap → o.store.onDay f.flightId day ≤ cap

/-- The flight of a slot is below its cap, as far as the request has counted. -/
lemma of_pick (h : o.pick r t c = .ok f) :
    f ∈ o.store.flights.rows ∧
      ∀ cap, f.frequencyCapPerDay = some cap → t.perDay f.flightId < cap := by
  obtain ⟨hpool, hfits⟩ := of_pick_ok h
  constructor
  · have hactive := (mem_pool.mp hpool).1
    have hlisted : f ∈ o.store.listFlights r.forDate := hactive
    rw [Store.listFlights, mem_insertionSort] at hlisted
    exact (mem_filter.mp hlisted).1
  · intro cap hcap
    have hbelow := hfits.below
    simp only [belowCap, hcap, all_some, decide_eq_true_eq] at hbelow
    exact hbelow

lemma unshared_slot (h : o.Unshared (.slot i) = true) (hi : o.calls[i]? = some d)
    (hphase : d.phase = .placing t (c :: left)) (hpick : o.pick d.request t c = .ok f) {cap : ℕ}
    (hcap : f.frequencyCapPerDay = some cap) : f.flightId ∉ d.touched := by
  simp only [Office.Unshared, hi, hphase, hpick, hcap] at h
  simpa using h

lemma Office.Capped.act {s₀ : Store} (h : o.Capped s₀) (a : Act)
    (hok : o.Unshared a = true) : (o.act a).Capped s₀ := by
  rcases store_act o a with hstore | ⟨i, d, t, c, left, f, p, rfl, hi, hphase, hpick, hmake, hstore⟩
  · exact ⟨h.sound.act a, hstore ▸ h.flights, hstore ▸ h.cap⟩
  refine ⟨h.sound.act _, hstore ▸ h.flights, ?_⟩
  intro g hg cap hcap day hbefore
  have hkept := h.cap g hg cap hcap day hbefore
  rw [hstore]
  have hsound := h.sound i d hi
  have hslot := hsound.left t (c :: left) hphase c mem_cons_self
  by_cases hon : p.isOn g.flightId day = true
  · rcases (isOn_makePlacement hmake hslot).mp hon with ⟨hflight, rfl⟩
    rcases of_pick hpick with ⟨hf, hbelow⟩
    rw [h.flights] at hf
    have hsame : f = g := Table.eq_of_key_eq hf hg hflight.symm
    rw [hsame] at hpick hbelow
    -- nobody else has placed the flight, so the count that is below the cap is not stale
    have huntouched := unshared_slot hok hi hphase hpick hcap
    have hcounted := hsound.counted t.perDay (by rw [hphase]; rfl) g.flightId huntouched
    have hlt := hbelow cap hcap
    have hle := onDay_recordPlacement_le o.store p g.flightId d.request.forDate
    rw [if_pos hon] at hle
    omega
  · exact le_trans (onDay_recordPlacement_of_not (Bool.not_eq_true _ ▸ hon)) hkept

end Steps

/-- In every run of requests in which no flight with a cap is placed by a count that another
request has made stale, no cap that was kept is exceeded. -/
theorem caps_hold {s₀ : Store} {o : Office}
    (h : Runs.Reached Office.act (fun o a => o.Unshared a = true) ⟨s₀, []⟩ o)
    {f : SpotFlight} (hf : f ∈ s₀.flights.rows) {cap : ℕ} (hcap : f.frequencyCapPerDay = some cap)
    {day : Day} (hbefore : s₀.onDay f.flightId day ≤ cap) :
    o.store.onDay f.flightId day ≤ cap := by
  have hcapped : o.Capped s₀ := by
    apply h.invariant
    · refine ⟨?_, rfl, ?_⟩
      · intro j c hnone
        cases hnone
      · intro f _ cap _ day hle
        exact hle
    · intro o a hcapped hok
      exact hcapped.act a hok
  exact hcapped.cap f hf cap hcap day hbefore

/-! ## Two requests for one day -/

/-- One spot a day. -/
def onceDaily : SpotFlight := { morning with frequencyCapPerDay := some 1 }

def cappedStation : Store := station ⟨[onceDaily], by decide⟩

/-- A request for one slot at midnight of a day. -/
def slotRequest (scheduleItemId : String) : Request where
  cfg := quiet
  forDate := 3
  candidates := [⟨"gov", dayStart 3, scheduleItemId⟩]
  localTzOffsetMinutes := 0
  clock _ := 0
  onDay c hc := by
    have hslot := List.mem_singleton.mp hc
    rw [hslot]
    show dayStart 3 ≤ dayStart 3 ∧ dayStart 3 < dayStart 4
    decide

/-- The calls of the store that the request `i` makes. -/
def inFull (i : ℕ) : List Act := [.enter i, .countDay i, .countLifetime i, .slot i, .slot i]

def inTurn : List Act :=
  [Act.call (slotRequest "item"), .call (slotRequest "other")] ++ inFull 0 ++ inFull 1

/-- Both requests count before either of them places its slot. -/
def atOnce : List Act :=
  [.call (slotRequest "item"), .call (slotRequest "other"), .enter 0, .enter 1, .countDay 0,
    .countDay 1, .countLifetime 0, .countLifetime 1, .slot 0, .slot 1]

theorem caps_hold_in_turn :
    (inTurn.foldl Office.act ⟨cappedStation, []⟩).store.placements.rows.length = 1 ∧
      (inTurn.foldl Office.act ⟨cappedStation, []⟩).store.onDay "flight-a" 3 ≤ 1 := by
  constructor
  · decide +kernel
  · have hmeets : Runs.Meets Office.act (fun o a => o.Unshared a = true) ⟨cappedStation, []⟩
        inTurn := by decide +kernel
    have hmem : onceDaily ∈ cappedStation.flights.rows := mem_singleton.mpr rfl
    exact caps_hold (Runs.reached_of_meets hmeets) hmem rfl (by decide +kernel)

/-- The flight is to air once a day, and both requests place it. -/
theorem at_once_over_cap :
    onceDaily ∈ cappedStation.flights.rows ∧ onceDaily.frequencyCapPerDay = some 1 ∧
      cappedStation.onDay onceDaily.flightId 3 = 0 ∧
      Runs.Reached Office.act (fun _ _ => True) ⟨cappedStation, []⟩
        (atOnce.foldl Office.act ⟨cappedStation, []⟩) ∧
      (atOnce.foldl Office.act ⟨cappedStation, []⟩).store.onDay onceDaily.flightId 3 = 2 := by
  have hmeets : Runs.Meets Office.act (fun _ _ => True) ⟨cappedStation, []⟩ atOnce := by
    decide +kernel
  refine ⟨mem_singleton.mpr rfl, rfl, rfl, Runs.reached_of_meets hmeets, ?_⟩
  decide +kernel

end CivicCast.Underwriting
