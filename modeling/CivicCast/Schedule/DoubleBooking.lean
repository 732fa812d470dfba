import CivicCast.Schedule.AutoSchedule
import CivicCast.Lib.Booking

/-!
# Double booking

The planner checks each slot against what is on the channel, and then writes an item that is as
long as the picked asset, not as the slot. An asset that runs past the end of its slot is checked
against nothing there: not against the items that follow, nor are the later slots of the rule
checked against it, since the planner counts it as its slot.

`never_double_books_iff` says that this is all that can go wrong: the items a compile adds keep
clear of every other item exactly if each of them, when it is placed, has nothing in the way past
its slot and nothing of the same rule in its slot.
-/

namespace CivicCast.Schedule

open Lib Egress List Option

/-! ## Air time -/

/-- The time an item takes on its channel: none if it is cancelled or has no end. -/
def ItemRow.span (i : ItemRow) : Set ℤ :=
  match i.state, i.scheduledAtEnd with
  | .cancelled, _ => ∅
  | _, some e => Set.Ico i.scheduledAt e
  | _, none => ∅

/-- The two items do not take the same time of one channel. -/
def ItemRow.Apart (x y : ItemRow) : Prop := x.channelId = y.channelId → Disjoint x.span y.span

lemma ItemRow.Apart.symm {x y : ItemRow} (h : x.Apart y) : y.Apart x :=
  fun hchannel => (h hchannel.symm).symm

/-- Every added item keeps clear of every other item. -/
def NeverDoubleBooks (items added : List ItemRow) : Prop := Joins ItemRow.Apart items added

/-! ## The condition -/

/-- Past the end of the slot, until the asset ends, nothing is in the way; and nothing that the
rule has placed before lasts into the slot. -/
structure FillFits (channelId : Text) (items placed : List ItemRow) (slot : SlotWindow)
    (duration : ℤ) : Prop where
  past : ∀ y ∈ items ++ placed, y.channelId = channelId →
    Disjoint (Set.Ico slot.endsAt.utc (slot.startsAt.utc + microseconds duration)) y.span
  slot : ∀ y ∈ placed, Disjoint (Set.Ico slot.startsAt.utc slot.endsAt.utc) y.span

variable (st : Station)

/-- The slots of a rule, one after the other: each that is filled fits what was there before it. -/
def PlanFits (items : List ItemRow) (p : RulePlan) (occupied : List (Stamp × Stamp))
    (runExcluded : List Text) (placed : List ItemRow) : List SlotWindow → Prop
  | [] => True
  | slot :: slots =>
    match resolveSlot st p occupied runExcluded slot with
    | .fill assetId _ duration =>
      FillFits p.rule.channelId items placed slot duration ∧
        PlanFits items p (occupied ++ [(slot.startsAt, slot.endsAt)])
          (if 0 < p.rule.repeatPreventionDays then runExcluded ++ [assetId] else runExcluded)
          (placed ++ [fillItem p.rule slot.startsAt assetId duration]) slots
    | _ => PlanFits items p occupied runExcluded placed slots

def RuleFits (items : List ItemRow) (rule : AutoScheduleRule) : Prop :=
  match st.searches rule.savedSearchId, st.blocks rule.scheduleBlockId with
  | some query, some block =>
    match (ruleSlots st rule block).head?, (ruleSlots st rule block).getLast? with
    | some first, some last =>
      PlanFits st items (rulePlan st items rule query block first last)
        (seedOccupied items rule.channelId first.startsAt.utc last.endsAt.utc) [] []
        (ruleSlots st rule block)
    | _, _ => True
  | _, _ => True

/-- Every rule's slots fit, rule after rule. -/
def CompileFits (db : Database) : List AutoScheduleRule → Prop
  | [] => True
  | rule :: rules => RuleFits st db.items rule ∧ CompileFits (compileRule st db rule).1 rules

/-! ## Slots in their order -/

section Slots

variable {tz : Zone} {block : ScheduleBlock} {day : ℤ} {slot : SlotWindow}

/-- The slot of a day starts at the block's minute of the day, and ends after that, by the same
minute of the next day. -/
structure SlotOf (tz : Zone) (block : ScheduleBlock) (day : ℤ) (slot : SlotWindow) : Prop where
  starts : resolveWallClock tz.toZoneInfo (wallMicroseconds day block.startMinute) =
    some slot.startsAt.utc
  ends : ∃ wall, resolveWallClock tz.toZoneInfo wall = some slot.endsAt.utc ∧
    wallMicroseconds day block.startMinute < wall ∧
    wall ≤ wallMicroseconds (day + 1) block.startMinute

lemma wallClock_utc {minute : ℕ} {stamp : Stamp} (h : wallClock tz day minute = some stamp) :
    resolveWallClock tz.toZoneInfo (wallMicroseconds day minute) = some stamp.utc := by
  obtain ⟨utc, hutc, rfl⟩ := map_eq_some_iff.mp h
  exact hutc

lemma slotEnd_spec {stamp : Stamp} (h : slotEnd tz block day = some stamp) :
    ∃ wall, resolveWallClock tz.toZoneInfo wall = some stamp.utc ∧
      wallMicroseconds day block.startMinute < wall ∧
      wall ≤ wallMicroseconds (day + 1) block.startMinute := by
  have hstart := block.startMinute_lt
  have hle := block.endMinute_le
  unfold slotEnd at h
  -- past midnight, at midnight, or on the same day
  split_ifs at h
  all_goals
    refine ⟨_, wallClock_utc h, ?_, ?_⟩
    all_goals
      simp only [wallMicroseconds, microseconds, dayMicroseconds]
      omega

lemma daySlot_spec (h : daySlot tz block day = some slot) : SlotOf tz block day slot := by
  unfold daySlot at h
  split_ifs at h
  split at h
  · rename_i startsAt endsAt hstarts hends
    cases h
    exact ⟨wallClock_utc hstarts, slotEnd_spec hends⟩
  · cases h

lemma SlotOf.lt (h : SlotOf tz block day slot) : slot.startsAt.utc < slot.endsAt.utc := by
  obtain ⟨wall, hends, hlt, _⟩ := h.ends
  exact tz.ordered h.starts hends hlt

lemma SlotOf.le {day' : ℤ} {slot' : SlotWindow} (h : SlotOf tz block day slot)
    (h' : SlotOf tz block day' slot') (hday : day < day') :
    slot.endsAt.utc ≤ slot'.startsAt.utc := by
  obtain ⟨wall, hends, _, hle⟩ := h.ends
  have hwall : wall ≤ wallMicroseconds day' block.startMinute := by
    refine hle.trans ?_
    simp only [wallMicroseconds, dayMicroseconds]
    omega
  rcases hwall.lt_or_eq with hlt | rfl
  · exact (tz.ordered hends h'.starts hlt).le
  · exact (some.inj (hends.symm.trans h'.starts)).le

/-- One after the other, each of them of some length. -/
structure Chronological (slots : List SlotWindow) : Prop where
  ordered : slots.Pairwise fun a b => a.endsAt.utc ≤ b.startsAt.utc
  proper : ∀ slot ∈ slots, slot.startsAt.utc < slot.endsAt.utc

lemma expandBlockSlots_chronological {tz : Zone} {block : ScheduleBlock} {startDate : ℤ}
    {numDays : ℕ} : Chronological (expandBlockSlots tz block startDate numDays) := by
  unfold expandBlockSlots
  split_ifs
  · exact ⟨.nil, nofun⟩
  constructor
  · rw [pairwise_filterMap]
    refine pairwise_lt_range.imp ?_
    intro i j hlt a ha b hb
    exact (daySlot_spec ha).le (daySlot_spec hb) (by omega)
  · intro slot hslot
    obtain ⟨offset, _, hoffset⟩ := mem_filterMap.mp hslot
    exact (daySlot_spec hoffset).lt

lemma Chronological.tail {slots : List SlotWindow} (h : Chronological (slot :: slots)) :
    Chronological slots :=
  ⟨h.ordered.tail, fun s hs => h.proper s (mem_cons_of_mem _ hs)⟩

lemma Chronological.horizon {slots : List SlotWindow} {first last : SlotWindow}
    (h : Chronological slots) (hfirst : slots.head? = some first)
    (hlast : slots.getLast? = some last) (hslot : slot ∈ slots) :
    first.startsAt.utc ≤ slot.startsAt.utc ∧ slot.endsAt.utc ≤ last.endsAt.utc := by
  constructor
  · obtain ⟨rest, rfl⟩ := head?_eq_some_iff.mp hfirst
    rcases mem_cons.mp hslot with rfl | hrest
    · exact le_refl _
    · have hle := rel_of_pairwise_cons h.ordered hrest
      have hlt := h.proper first mem_cons_self
      omega
  · obtain ⟨before, rfl⟩ := getLast?_eq_some_iff.mp hlast
    rcases mem_append.mp hslot with hbefore | hrest
    · have hle := (pairwise_append.mp h.ordered).2.2 slot hbefore last (by simp)
      have hlt := h.proper last (by simp)
      omega
    · rw [mem_singleton.mp hrest]

end Slots

/-! ## What the planner's check promises -/

section Check

variable {items : List ItemRow} {occupied : List (Stamp × Stamp)} {channelId : Text}
  {slot : SlotWindow}

/-- Where the planner finds a slot free, the channel's items are out of it. -/
def Guards (items : List ItemRow) (channelId : Text) (occupied : List (Stamp × Stamp))
    (slot : SlotWindow) : Prop :=
  overlaps occupied slot.startsAt slot.endsAt = false → ∀ y ∈ items, y.channelId = channelId →
    Disjoint (Set.Ico slot.startsAt.utc slot.endsAt.utc) y.span

lemma Guards.append (h : Guards items channelId occupied slot) (more : List (Stamp × Stamp)) :
    Guards items channelId (occupied ++ more) slot := by
  intro hfree
  simp only [overlaps, any_append, Bool.or_eq_false_iff] at hfree
  exact h hfree.1

lemma disjoint_Ico_of_not_overlap {a b s e : ℤ} (h : ¬(s < b ∧ a < e)) :
    Disjoint (Set.Ico a b) (Set.Ico s e) := by
  rw [Set.Ico_disjoint_Ico]
  omega

lemma ItemRow.span_cases (y : ItemRow) (hchannel : y.channelId = channelId) :
    y.span = ∅ ∨ ∃ e, y.busy channelId = some (y.scheduledAt, e) ∧
      y.span = Set.Ico y.scheduledAt e := by
  unfold ItemRow.span ItemRow.busy
  cases hstate : y.state <;> cases hend : y.scheduledAtEnd <;> simp [hchannel]

lemma seedOccupied_guards {horizonStart horizonEnd : ℤ}
    (hstart : horizonStart ≤ slot.startsAt.utc) (hend : slot.endsAt.utc ≤ horizonEnd) :
    Guards items channelId (seedOccupied items channelId horizonStart horizonEnd) slot := by
  intro hfree y hy hchannel
  rcases y.span_cases hchannel with hempty | ⟨e, hbusy, hspan⟩
  · rw [hempty]
    exact Set.disjoint_empty _
  rw [hspan]
  apply disjoint_Ico_of_not_overlap
  rintro ⟨hbefore, hafter⟩
  -- an item that reaches into the slot reaches into the horizon, and was seeded
  have hseed : (⟨y.scheduledAt, none⟩, ⟨e, none⟩) ∈
      seedOccupied items channelId horizonStart horizonEnd := by
    refine mem_map.mpr ⟨(y.scheduledAt, e), mem_filter.mpr ⟨?_, ?_⟩, rfl⟩
    · exact mem_filterMap.mpr ⟨y, hy, hbusy⟩
    · simp only [Bool.and_eq_true, decide_eq_true_eq]
      omega
  have hany := any_eq_false.mp hfree _ hseed
  simp [Stamp.before, hbefore, hafter] at hany

end Check

/-! ## One slot -/

section Fill

variable {rule : AutoScheduleRule} {items placed : List ItemRow} {slot : SlotWindow}
  {assetId : Text} {duration : ℤ}

/-- The items a rule has placed: on its channel, and started by now. -/
def Placed (rule : AutoScheduleRule) (placed : List ItemRow) (slots : List SlotWindow) : Prop :=
  ∀ y ∈ placed, y.channelId = rule.channelId ∧
    (∃ e, y.span = Set.Ico y.scheduledAt e) ∧ ∀ slot ∈ slots, y.scheduledAt ≤ slot.startsAt.utc

lemma apart_iff_fits (hslot : slot.startsAt.utc < slot.endsAt.utc) (hduration : 0 < duration)
    (hfree : ∀ y ∈ items, y.channelId = rule.channelId →
      Disjoint (Set.Ico slot.startsAt.utc slot.endsAt.utc) y.span)
    (hplaced : Placed rule placed [slot]) :
    (∀ y ∈ items ++ placed, (fillItem rule slot.startsAt assetId duration).Apart y) ↔
      FillFits rule.channelId items placed slot duration := by
  have hlater : slot.startsAt.utc < slot.startsAt.utc + microseconds duration := by
    simp only [microseconds]
    omega
  have hspan : (fillItem rule slot.startsAt assetId duration).span =
      Set.Ico slot.startsAt.utc (slot.startsAt.utc + microseconds duration) := rfl
  constructor
  · intro h
    constructor
    · intro y hy hchannel
      have hapart := h y hy hchannel.symm
      rw [hspan] at hapart
      -- before the run the slot is free; what the rule placed may run over
      rcases mem_append.mp hy with hitem | hown
      · exact (disjoint_Ico_iff_tail hslot.le (hfree y hitem hchannel)).mp hapart
      · obtain ⟨_, ⟨e, he⟩, hstarted⟩ := hplaced y hown
        rw [he] at hapart ⊢
        exact ((disjoint_Ico_iff_split hlater (hstarted slot (by simp)) hslot).mp hapart).2
    · intro y hown
      obtain ⟨hchannel, ⟨e, he⟩, hstarted⟩ := hplaced y hown
      have hapart := h y (mem_append_right _ hown) hchannel.symm
      rw [hspan, he] at hapart
      rw [he]
      exact ((disjoint_Ico_iff_split hlater (hstarted slot (by simp)) hslot).mp hapart).1
  · intro h y hy hchannel
    rw [hspan]
    have hpast := h.past y hy hchannel.symm
    rcases mem_append.mp hy with hitem | hown
    · exact (disjoint_Ico_iff_tail hslot.le (hfree y hitem hchannel.symm)).mpr hpast
    · exact (disjoint_Ico_iff_tail hslot.le (h.slot y hown)).mpr hpast

end Fill

/-! ## A rule, and a compile -/

variable {st}

lemma pickAsset_eligible {query : AssetQuery} {strategy : PickStrategy} {draw : ℕ}
    {excluded : List Text} {asset : Asset}
    (h : pickAsset st.assets query strategy draw excluded = some asset) :
    asset.assetId ∉ excluded := by
  have hsorted : ∀ {cmp}, asset ∈ sortAssets cmp
      (st.assets.filter fun a => query.matches_ a && a.assetId ∉ excluded) →
      asset.assetId ∉ excluded := by
    intro cmp hmem
    have hbase := of_mem_filter ((perm_insertionSort _ _).mem_iff.mp hmem)
    simp only [Bool.and_eq_true, decide_eq_true_eq] at hbase
    exact hbase.2
  cases strategy with
  | topResult | newest => exact hsorted (mem_of_mem_head? h)
  | randomResult => exact hsorted (mem_of_mem_take (mem_of_getElem? h))

/-- A slot is filled only where the planner finds it free, with an asset of some length that is
not excluded. -/
lemma resolveSlot_fill {p : RulePlan} {occupied : List (Stamp × Stamp)} {runExcluded : List Text}
    {slot : SlotWindow} {assetId title : Text} {duration : ℤ}
    (h : resolveSlot st p occupied runExcluded slot = .fill assetId title duration) :
    overlaps occupied slot.startsAt slot.endsAt = false ∧ 0 < duration ∧
      assetId ∉ p.recent ++ runExcluded := by
  unfold resolveSlot at h
  split_ifs at h with hoccupied
  simp only [Bool.or_eq_true, not_or, Bool.not_eq_true] at hoccupied
  refine ⟨hoccupied.2, ?_⟩
  split at h
  · cases h
  · rename_i asset hpick
    split at h
    · cases h
    · split_ifs at h with hplayable
      cases h
      simp only [minDurationSeconds] at hplayable
      exact ⟨by omega, pickAsset_eligible hpick⟩

lemma Placed.tail {rule : AutoScheduleRule} {placed : List ItemRow} {slot : SlotWindow}
    {slots : List SlotWindow} (h : Placed rule placed (slot :: slots)) :
    Placed rule placed slots := by
  intro y hy
  obtain ⟨hchannel, hspan, hstarted⟩ := h y hy
  exact ⟨hchannel, hspan, fun s hs => hstarted s (mem_cons_of_mem _ hs)⟩

lemma Placed.fill {rule : AutoScheduleRule} {placed : List ItemRow} {slot : SlotWindow}
    {slots : List SlotWindow} (h : Placed rule placed (slot :: slots))
    (hchron : Chronological (slot :: slots)) (assetId : Text) (duration : ℤ) :
    Placed rule (placed ++ [fillItem rule slot.startsAt assetId duration]) slots := by
  intro y hy
  rcases mem_append.mp hy with hy | hy
  · exact h.tail y hy
  · rw [mem_singleton.mp hy]
    refine ⟨rfl, ⟨_, rfl⟩, fun s hs => ?_⟩
    have hlt := hchron.proper slot mem_cons_self
    have hle := rel_of_pairwise_cons hchron.ordered hs
    exact hlt.le.trans hle

/-- What a plan adds keeps clear exactly if every slot of it fits. The induction goes over the
slots, with what the rule has placed on the way. -/
lemma planLoop_joins_iff (st : Station) {items placed : List ItemRow} (p : RulePlan)
    {occupied : List (Stamp × Stamp)} (runExcluded : List Text) {slots : List SlotWindow}
    (hchron : Chronological slots)
    (hguards : ∀ slot ∈ slots, Guards items p.rule.channelId occupied slot)
    (hplaced : Placed p.rule placed slots) :
    Joins ItemRow.Apart (items ++ placed)
        ((planLoop st p occupied runExcluded slots).filterMap (·.item p.rule)) ↔
      PlanFits st items p occupied runExcluded placed slots := by
  induction slots generalizing occupied runExcluded placed with
  | nil => exact ⟨fun _ => trivial, fun _ => joins_nil⟩
  | cons slot slots ih =>
    have hrest : ∀ s ∈ slots, Guards items p.rule.channelId occupied s :=
      fun s hs => hguards s (mem_cons_of_mem _ hs)
    unfold planLoop PlanFits
    cases haction : resolveSlot st p occupied runExcluded slot with
    | fill assetId title duration =>
      -- the new item joins those that the later slots meet
      obtain ⟨hfree, hduration, _⟩ := resolveSlot_fill haction
      have hitem : SlotDecision.item p.rule
          ⟨slot.startsAt, slot.endsAt, .fill assetId title duration⟩ =
          some (fillItem p.rule slot.startsAt assetId duration) := rfl
      simp only [filterMap_cons, hitem]
      rw [joins_cons fun _ _ => ItemRow.Apart.symm, append_assoc,
        ih _ hchron.tail (fun s hs => (hrest s hs).append _) (hplaced.fill hchron _ _),
        apart_iff_fits (hchron.proper slot mem_cons_self) hduration
          (hguards slot mem_cons_self hfree)]
      intro y hy
      obtain ⟨hchannel, hspan, hstarted⟩ := hplaced y hy
      exact ⟨hchannel, hspan, fun s hs =>
        hstarted s (mem_singleton.mp hs ▸ mem_cons_self)⟩
    | occupied | noAsset | unplayable assetId title => exact ih _ hchron.tail hrest hplaced.tail

lemma compileRule_joins_iff (st : Station) (db : Database) (rule : AutoScheduleRule) :
    ∃ added, (compileRule st db rule).1.items = db.items ++ added ∧
      (NeverDoubleBooks db.items added ↔ RuleFits st db.items rule) := by
  unfold compileRule RuleFits
  cases hsearch : st.searches rule.savedSearchId with
  | none => exact ⟨[], by simp, fun _ => trivial, fun _ => joins_nil⟩
  | some query =>
    cases hblock : st.blocks rule.scheduleBlockId with
    | none => exact ⟨[], by simp, fun _ => trivial, fun _ => joins_nil⟩
    | some block =>
      refine ⟨_, rfl, ?_⟩
      simp only [planRuleSlots]
      cases hfirst : (ruleSlots st rule block).head? with
      | none => exact ⟨fun _ => trivial, fun _ => joins_nil⟩
      | some first =>
        cases hlast : (ruleSlots st rule block).getLast? with
        | none => exact ⟨fun _ => trivial, fun _ => joins_nil⟩
        | some last =>
          -- the horizon goes from the first slot to the last one
          have hchron : Chronological (ruleSlots st rule block) := expandBlockSlots_chronological
          have hguards : ∀ slot ∈ ruleSlots st rule block,
              Guards db.items rule.channelId (seedOccupied db.items rule.channelId
                first.startsAt.utc last.endsAt.utc) slot := by
            intro slot hslot
            obtain ⟨hstart, hend⟩ := hchron.horizon hfirst hlast hslot
            exact seedOccupied_guards hstart hend
          have hnone : Placed rule [] (ruleSlots st rule block) := by
            simp [Placed]
          have hjoins := planLoop_joins_iff st
            (rulePlan st db.items rule query block first last) [] hchron hguards hnone
          rw [append_nil] at hjoins
          exact hjoins

lemma compileLoop_joins_iff (st : Station) {rules : List AutoScheduleRule} (db : Database) :
    ∃ added, (compileLoop st db rules).1.items = db.items ++ added ∧
      (NeverDoubleBooks db.items added ↔ CompileFits st db rules) := by
  induction rules generalizing db with
  | nil => exact ⟨[], by simp [compileLoop], fun _ => trivial, fun _ => joins_nil⟩
  | cons rule rules ih =>
    obtain ⟨added, hitems, hiff⟩ := compileRule_joins_iff st db rule
    obtain ⟨more, hmore, hiff'⟩ := ih (compileRule st db rule).1
    refine ⟨added ++ more, ?_, ?_⟩
    · rw [← append_assoc, ← hitems]
      exact hmore
    · rw [hitems] at hiff'
      rw [NeverDoubleBooks, joins_append fun _ _ => ItemRow.Apart.symm]
      exact and_congr hiff hiff'

/-- The items a compile adds keep clear of every other item exactly if every slot that is filled
fits: past its end, until the picked asset ends, the channel is free, and nothing that the rule
has placed before lasts into it. -/
theorem never_double_books_iff (st : Station) (db : Database) :
    ∃ added, (compileRules st db).1.items = db.items ++ added ∧
      (NeverDoubleBooks db.items added ↔ CompileFits st db db.listAutoScheduleRules) :=
  compileLoop_joins_iff st db

/-! ## A long meeting -/

namespace Gov

def meeting : Asset :=
  ⟨"council".toList, "Council".toList, none, .validated, some 7200, some 0, []⟩

/-- Thursdays, ten to eleven. -/
def morning : ScheduleBlock where
  startMinute := 600
  endMinute := 660
  daysOfWeek := [3]
  activeFrom := none
  activeUntil := none
  enabled := true
  startMinute_lt := by decide
  endMinute_pos := by decide
  endMinute_le := by decide

def rule : AutoScheduleRule :=
  ⟨"asr".toList, "ss".toList, "gov".toList, "sb".toList, .newest, 14, 0, 100, true, none⟩

def station : Station where
  assets := [meeting]
  searches := fun _ => some {}
  blocks := fun _ => some morning
  tz := utc
  now := 0
  draw := fun _ _ => 0

/-- A program that an operator has put at eleven, for an hour. -/
def elevenOClock : ItemRow where
  assetId := "news".toList
  channelId := "gov".toList
  mode := .premiere
  state := .scheduled
  scheduledAt := microseconds 39600
  scheduledAtEnd := some (microseconds 43200)
  durationSeconds := some 3600
  notes := none

def database : Database := ⟨[elevenOClock], [rule]⟩

/-- The two Thursdays of the window. -/
def meetings : List ItemRow :=
  [fillItem rule ⟨microseconds 36000, some (microseconds 36000)⟩ "council".toList 7200,
    fillItem rule ⟨microseconds 640800, some (microseconds 640800)⟩ "council".toList 7200]

end Gov

open Gov in
/-- The two hours of council placed at ten run into the program at eleven. -/
theorem long_meeting_double_books :
    ¬ ∀ (st : Station) (db : Database) (added : List ItemRow),
      (compileRules st db).1.items = db.items ++ added → NeverDoubleBooks db.items added := by
  intro h
  have hadded : (compileRules station database).1.items = database.items ++ meetings := by
    decide +kernel
  have hapart := (h station database meetings hadded).2 _ mem_cons_self elevenOClock
    mem_cons_self rfl
  have hmeeting : microseconds 39600 ∈ Set.Ico (microseconds 36000) (microseconds 43200) := by
    constructor <;> decide
  have hprogram : microseconds 39600 ∈ Set.Ico (microseconds 39600) (microseconds 43200) := by
    constructor <;> decide
  exact Set.disjoint_left.mp hapart hmeeting hprogram

end CivicCast.Schedule
