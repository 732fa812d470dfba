import CivicCast.Egress.SourcePlan

/-!
# Segments and the schedule

A plan airs consecutive items, from the one that is open now or the one that is due within the
absorb window. Each segment stays inside its slot and its media (`Within`). A segment ends at most
one tolerance before its slot does, and the next item starts at most one tolerance after the latest
slot end so far; so each further item may come two tolerances earlier (`Due`).
-/

namespace CivicCast.Egress

open Lib List Option

variable {lib : MediaLibrary} {o : PlanOptions} {item : ScheduleItem} {asset : StaffAssetRow}
  {segment : EgressSourceSegment} {offset : ℚ} {maxSeconds : Option ℚ}
  {items : List ScheduleItem} {now : ℤ} {channelId : Text}

/-! ## One segment -/

/-- The segment of an item from an offset on, inside the slot and the media. -/
structure EgressSourceSegment.Within (segment : EgressSourceSegment) (lib : MediaLibrary)
    (maxSeconds : Option ℚ) (item : ScheduleItem) (asset : StaffAssetRow) (offset : ℚ) :
    Prop where
  positive : 0 < segment.durationSeconds
  slot : ∀ d ∈ item.durationSeconds, segment.durationSeconds ≤ d - offset
  horizon : ∀ m ∈ maxSeconds, segment.durationSeconds ≤ m
  start : segment.inpointSeconds.getD 0 = asset.trimInSeconds.getD 0 + offset
  trimOut : ∀ out ∈ asset.trimOutSeconds,
    segment.inpointSeconds.getD 0 + segment.durationSeconds ≤ out
  measured : ∀ e ∈ lib.mediaEnd (lib.expanduser (asset.filePath.getD [])),
    segment.inpointSeconds.getD 0 + segment.durationSeconds ≤ e
  row : ¬ RowOverridden asset.trimInSeconds asset.trimOutSeconds
      (lib.mediaEnd (lib.expanduser (asset.filePath.getD []))) →
    ∀ d ∈ asset.durationSeconds, segment.inpointSeconds.getD 0 + segment.durationSeconds ≤ d
  outpoint : segment.outpointSeconds = asset.trimOutSeconds.map fun _ =>
    segment.inpointSeconds.getD 0 + segment.durationSeconds
  occurrence : segment.scheduleOccurrenceId = item.id ∧
    segment.scheduleOccurrenceStart = item.scheduledAt

lemma segmentOf_within (hnonneg : 0 ≤ offset) (hleft : offset < airtime lib item asset)
    (hmax : ∀ m ∈ maxSeconds, 0 < m) :
    (segmentFor lib item asset offset maxSeconds).Within lib maxSeconds item asset offset := by
  generalize hs : segmentFor lib item asset offset maxSeconds = s
  have hstart : s.inpointSeconds.getD 0 = asset.trimInSeconds.getD 0 + offset := by
    rw [← hs]
    exact inpoint_getD _ hnonneg
  -- the offset is taken off the airtime only where there is one
  have hremaining : (if 0 < offset then airtime lib item asset - offset
      else airtime lib item asset) = airtime lib item asset - offset := by
    split_ifs with hpos
    · rfl
    · linarith
  have hduration : s.durationSeconds = maxSeconds.elim (airtime lib item asset - offset)
      (min (airtime lib item asset - offset)) := by
    rw [← hs, ← hremaining]
    cases maxSeconds <;> rfl
  have hle : s.durationSeconds ≤ airtime lib item asset - offset := by
    rw [hduration]
    cases maxSeconds with
    | none => exact le_refl _
    | some m => exact min_le_left _ _
  have hout : ∀ out ∈ asset.trimOutSeconds,
      s.inpointSeconds.getD 0 + s.durationSeconds ≤ out := by
    intro out hout
    have hwindow : airtime lib item asset ≤ out - _ := segmentDuration_le (.inl hout)
    linarith
  refine ⟨?_, ?_, ?_, hstart, hout, ?_, ?_, ?_, ?_⟩
  · rw [hduration]
    cases maxSeconds with
    | none => exact sub_pos.mpr hleft
    | some m => exact lt_min (sub_pos.mpr hleft) (hmax m rfl)
  · intro d hd
    have hslot : airtime lib item asset ≤ d := by
      unfold airtime segmentDuration
      rw [hd]
      dsimp only
      split
      · exact le_refl _
      · exact min_le_left _ _
    linarith
  · intro m hm
    rw [hduration, mem_def.mp hm]
    exact min_le_right _ _
  · intro e he
    have hwindow : airtime lib item asset ≤ e - _ := segmentDuration_le (.inr (.inl he))
    linarith
  · intro hrow d hd
    have hwindow : airtime lib item asset ≤ d - _ :=
      segmentDuration_le (.inr (.inr ⟨hrow, d, hd, rfl⟩))
    linarith
  · have houtpoint : s.outpointSeconds = asset.trimOutSeconds.map fun out =>
        min out (s.inpointSeconds.getD 0 + s.durationSeconds) := by
      rw [← hs]
      rfl
    rw [houtpoint]
    exact map_congr fun out hmem => min_eq_right (hout out hmem)
  · rw [← hs]
    exact ⟨rfl, rfl⟩

lemma segmentFromItem_within (hnonneg : 0 ≤ offset) (hmax : ∀ m ∈ maxSeconds, 0 < m)
    (h : segmentFromItem lib item offset maxSeconds = .ok (some segment)) :
    ∃ asset, lib.assetResolver item.assetId = some asset ∧
      segment.Within lib maxSeconds item asset offset := by
  unfold segmentFromItem at h
  split at h
  · cases h
  · rename_i asset hasset
    dsimp only at h
    split_ifs at h with hstate hpath hfile hpositive hexhausted hover
    · cases h
    · cases h
    · have hleft : offset < airtime lib item asset := by
        by_contra hle
        refine hover ⟨lt_of_le_of_ne hnonneg ?_, not_lt.mp hle⟩
        rintro rfl
        exact hpositive (not_lt.mp hle)
      unfold EgressSourceSegment.validated at h
      split_ifs at h with hfields horder
      · cases h
      · cases h
      · cases h
        exact ⟨asset, hasset, segmentOf_within hnonneg hleft hmax⟩

/-! ## The loop -/

section Loop

variable {b : PlanBuild} {base : ℚ} {segments before : List EgressSourceSegment}

/-- The item is due at this point of a plan that starts at `base`, give or take two tolerances for
each item before it. -/
structure Due (o : PlanOptions) (base : ℚ) (b : PlanBuild) (offset : ℚ) (item : ScheduleItem) :
    Prop where
  start : totalSeconds item.scheduledAt + offset ≤
    base + b.builtSeconds + 2 * b.built.length * totalSeconds o.gapTolerance
  cursor : totalSeconds b.cursorEnd ≤ max (totalSeconds item.endsAt)
    (base + b.builtSeconds + (2 * b.built.length - 1) * totalSeconds o.gapTolerance)

lemma totalSeconds_le {a b : ℤ} : totalSeconds a ≤ totalSeconds b ↔ a ≤ b := by
  unfold totalSeconds
  rw [div_le_div_iff_of_pos_right (by norm_num), Int.cast_le]

lemma totalSeconds_add (a b : ℤ) : totalSeconds (a + b) = totalSeconds a + totalSeconds b := by
  unfold totalSeconds
  push_cast
  ring

lemma Due.next (h : Due o base b offset item) (htol : 0 ≤ o.gapTolerance)
    (hwithin : segment.Within lib maxSeconds item asset offset) (hnonneg : 0 ≤ offset)
    (hsome : item.durationSeconds.isSome)
    (hcovers : coversSlot item segment offset (totalSeconds o.gapTolerance) = true)
    {next : ScheduleItem}
    (hnext : next.scheduledAt ≤ (b.push item segment).cursorEnd + o.gapTolerance) :
    Due o base (b.push item segment) 0 next := by
  obtain ⟨d, hd⟩ := isSome_iff_exists.mp hsome
  have hpositive := hwithin.positive
  have hslot : (0 : ℚ) < d := by linarith [hwithin.slot d hd]
  have htolerance := totalSeconds_nonneg.mpr htol
  have hends : totalSeconds item.endsAt = totalSeconds item.scheduledAt + d := by
    rw [ScheduleItem.endsAt, totalSeconds_add, hd]
    simp [totalSeconds, microseconds]
  -- the segment ends at most one tolerance before its slot does
  have hfills : (d : ℚ) ≤ offset + segment.durationSeconds + totalSeconds o.gapTolerance := by
    unfold coversSlot at hcovers
    rw [hd] at hcovers
    exact of_decide_eq_true hcovers
  have hpush : (b.push item segment).cursorEnd = max b.cursorEnd item.endsAt := by
    have hne : ¬ d = 0 := by
      rintro rfl
      simp at hslot
    simp [PlanBuild.push, ScheduleItem.endsAt, hd, hne]
  have hcursor : totalSeconds (b.push item segment).cursorEnd ≤
      base + (b.builtSeconds + segment.durationSeconds) +
        (2 * (b.built.length + 1) - 1) * totalSeconds o.gapTolerance := by
    have hstart := h.start
    rw [hpush]
    rcases max_choice b.cursorEnd item.endsAt with hmax | hmax
    · rw [hmax]
      rcases le_max_iff.mp h.cursor with hle | hle <;> linarith
    · rw [hmax]
      linarith
  have hlength : ((b.push item segment).built.length : ℚ) = b.built.length + 1 := by
    simp [PlanBuild.push]
  have hbuilt : (b.push item segment).builtSeconds = b.builtSeconds + segment.durationSeconds := rfl
  have hdue := totalSeconds_le.mpr hnext
  rw [totalSeconds_add] at hdue
  constructor
  · rw [hlength, hbuilt]
    linarith
  · rw [hlength, hbuilt]
    exact hcursor.trans (le_max_right _ _)

/-- The segment airs `item` at this place of a plan that starts at `base`, after `before`. -/
def AirsAt (lib : MediaLibrary) (o : PlanOptions) (base : ℚ) (before : List EgressSourceSegment)
    (item : ScheduleItem) (offset : ℚ) (segment : EgressSourceSegment) : Prop :=
  (∃ asset, lib.assetResolver item.assetId = some asset ∧
      segment.Within lib o.maxSegmentSeconds item asset offset) ∧
    totalSeconds item.scheduledAt ≤ base + (before.map (·.durationSeconds)).sum +
      2 * before.length * totalSeconds o.gapTolerance

/-- The segments air consecutive items, the first of them from an offset on. -/
def Follows (lib : MediaLibrary) (o : PlanOptions) (base : ℚ) (before : List EgressSourceSegment)
    (items : List ScheduleItem) (offset : ℚ) (segments : List EgressSourceSegment) : Prop :=
  ∀ k segment, segments[k]? = some segment → ∃ item, items[k]? = some item ∧
    AirsAt lib o base (before ++ segments.take k) item (if k = 0 then offset else 0) segment

lemma follows_nil : Follows lib o base before items offset [] := by
  simp [Follows]

lemma AirsAt.cons {rest : List ScheduleItem} (hfirst : AirsAt lib o base before item offset segment)
    (h : Follows lib o base (before ++ [segment]) rest 0 segments) :
    Follows lib o base before (item :: rest) offset (segment :: segments) := by
  rintro (_ | k) s hs
  · cases hs
    exact ⟨item, rfl, by simpa using hfirst⟩
  · obtain ⟨found, hfound, hairs⟩ := h k s hs
    exact ⟨found, hfound, by simpa using hairs⟩

/-- The item that a plan starts with, how much of it is over, and how early it may start. -/
inductive Chosen (gapAbsorbSeconds : ℚ) (items : List ScheduleItem) (now : ℤ) :
    ℕ → ℚ → ℚ → Prop where
  | current {index : ℕ} {item : ScheduleItem} (hindex : currentItemIndex items now = some index)
      (hitem : items[index]? = some item) :
      Chosen gapAbsorbSeconds items now index (elapsedSeconds now item) 0
  | absorbed {index : ℕ} (hindex : gapAbsorbCandidateIndex items now
      (currentItemIndex items now) gapAbsorbSeconds = some index) :
      Chosen gapAbsorbSeconds items now index 0 gapAbsorbSeconds

variable (hmax : ∀ m ∈ o.maxSegmentSeconds, 0 < m) (htol : 0 ≤ o.gapTolerance)
  (hsome : ∀ i ∈ items, i.durationSeconds.isSome)
include hmax htol hsome

/-- The loop airs its items one after the other, each when it is due. The induction goes over the
items; what is built stays. -/
lemma planLoop_follows
    (h : planLoop lib o items offset b = .ok segments) (hnonneg : 0 ≤ offset)
    (hbuilt : b.builtSeconds = (b.built.map (·.durationSeconds)).sum)
    (hcap : b.built.length < o.segmentCap)
    (hdue : ∀ item ∈ items.head?,
      ¬ (b.built ≠ [] ∧ b.cursorEnd + o.gapTolerance < item.scheduledAt) →
        Due o base b offset item) :
    segments.length ≤ o.segmentCap ∧
      ∃ new, segments = b.built ++ new ∧ Follows lib o base b.built items offset new := by
  induction items generalizing offset b with
  | nil =>
    cases h
    exact ⟨hcap.le, [], by simp, follows_nil⟩
  | cons item rest ih =>
    unfold planLoop at h
    split_ifs at h with hgap
    · cases h
      exact ⟨hcap.le, [], by simp, follows_nil⟩
    · split at h
      · cases h
      · cases h
        exact ⟨hcap.le, [], by simp, follows_nil⟩
      · rename_i segment hsegment
        obtain ⟨asset, hasset, hwithin⟩ := segmentFromItem_within hnonneg hmax hsegment
        have hnow := hdue item rfl hgap
        have hfirst : AirsAt lib o base b.built item offset segment := by
          refine ⟨⟨asset, hasset, hwithin⟩, ?_⟩
          rw [← hbuilt]
          linarith [hnow.start]
        have hpushed : (b.push item segment).built = b.built ++ [segment] := rfl
        have hlength : ((b.push item segment).built.length : ℤ) = b.built.length + 1 := by
          simp [hpushed]
        -- the plan ends with this segment, or goes on after it
        have hrest : segments.length ≤ o.segmentCap ∧
            ∃ new, segments = (b.push item segment).built ++ new ∧
              Follows lib o base (b.push item segment).built rest 0 new := by
          dsimp only at h
          split_ifs at h with hfull hshort henough
          · cases h
            exact ⟨by omega, [], by simp, follows_nil⟩
          · cases h
            exact ⟨by omega, [], by simp, follows_nil⟩
          · cases h
            exact ⟨by omega, [], by simp, follows_nil⟩
          · refine ih (fun i hi => hsome i (mem_cons_of_mem _ hi)) h le_rfl ?_ (not_le.mp hfull) ?_
            · simp [PlanBuild.push, hbuilt]
            · intro next _ hnext
              refine hnow.next htol hwithin hnonneg (hsome item mem_cons_self)
                (by simpa using hshort) ?_
              by_contra hlate
              exact hnext ⟨by simp [hpushed], not_le.mp hlate⟩
        obtain ⟨hle, new, rfl, hfollows⟩ := hrest
        exact ⟨hle, segment :: new, by simp [hpushed], hfirst.cons hfollows⟩

lemma planFrom_follows (hcap : 0 < o.segmentCap) {index : ℕ}
    (hitem : items[index]? = some item) (hnonneg : 0 ≤ offset)
    (hbase : totalSeconds item.scheduledAt + offset ≤ base)
    (h : planFrom lib o items index offset = .ok segments) :
    segments.length ≤ o.segmentCap ∧
      Follows lib o base [] (items.drop index) offset segments := by
  rcases List.getElem?_eq_some_iff.mp hitem with ⟨hlt, rfl⟩
  unfold planFrom at h
  rw [drop_eq_getElem_cons hlt] at h ⊢
  have hfollows := planLoop_follows hmax htol
    (fun i hi => hsome i (mem_of_mem_drop (drop_eq_getElem_cons hlt ▸ hi))) h hnonneg
    rfl hcap (by
      rintro _ ⟨⟩ _
      exact ⟨by simpa using hbase, le_max_left _ _⟩)
  simpa using hfollows

lemma planSegments_follows (hcap : 0 < o.segmentCap)
    (h : planSegments lib o items now = .ok segments) (hne : segments ≠ []) :
    segments.length ≤ o.segmentCap ∧ ∃ index offset early,
      Chosen o.gapAbsorbSeconds items now index offset early ∧
      Follows lib o (totalSeconds now + early) [] (items.drop index) offset segments := by
  unfold planSegments at h
  dsimp only at h
  cases hcurrent : currentSegments lib o items now (currentItemIndex items now) with
  | error e =>
    rw [hcurrent] at h
    cases h
  | ok current =>
    rw [hcurrent] at h
    simp only [bind, Except.bind] at h
    by_cases hnone : current = []
    · -- nothing is left of the open item: the plan is that of the absorbed one
      split at h
      · cases h
        exact absurd hnone hne
      · rename_i index hindex
        rw [if_pos hnone] at h
        obtain ⟨item, hitem, hdue⟩ := gapAbsorbCandidateIndex_getElem hindex
        have hstart := totalSeconds_add (item.scheduledAt - now) now
        rw [sub_add_cancel] at hstart
        have hbase : totalSeconds item.scheduledAt + 0 ≤ totalSeconds now + o.gapAbsorbSeconds := by
          linarith
        have hfollows := planFrom_follows hmax htol hsome hcap hitem le_rfl hbase h
        exact ⟨hfollows.1, index, 0, _, .absorbed hindex, hfollows.2⟩
    · have hsame : segments = current := by
        split at h
        · exact (Except.ok.inj h).symm
        · rw [if_neg hnone] at h
          exact (Except.ok.inj h).symm
      subst hsame
      cases hindex : currentItemIndex items now with
      | none =>
        rw [hindex] at hcurrent
        cases hcurrent
        exact absurd rfl hne
      | some index =>
        obtain ⟨item, hitem⟩ := currentItemIndex_getElem hindex
        have hcovers := of_mem_filter (currentItemIndex_covers hindex hitem)
        rw [hindex] at hcurrent
        simp only [currentSegments, hitem] at hcurrent
        have hopen := (ScheduleItem.covers_iff.mp hcovers).1
        have helapsed := totalSeconds_add (now - item.scheduledAt) item.scheduledAt
        rw [sub_add_cancel] at helapsed
        have hnow : totalSeconds item.scheduledAt + elapsedSeconds now item ≤
            totalSeconds now + 0 := by
          rw [elapsedSeconds, max_eq_right (totalSeconds_nonneg.mpr (by omega))]
          linarith
        have hfollows := planFrom_follows hmax htol hsome hcap hitem
          elapsedSeconds_nonneg hnow hcurrent
        exact ⟨hfollows.1, index, _, 0, .current hindex hitem, hfollows.2⟩

end Loop

/-! ## Plans -/

lemma isSome_of_playable (h : item.playable channelId = true) : item.durationSeconds.isSome := by
  simp only [ScheduleItem.playable, decide_eq_true_eq] at h
  exact h.2.2.2

lemma playableItems_isSome {channelId : Text} {scheduleItems : List ScheduleItem} {loop : Bool}
    {now : ℤ} : ∀ i ∈ playableItems channelId scheduleItems loop now, i.durationSeconds.isSome := by
  intro i hi
  by_cases hloop : loop = true ∧
      sortItems (scheduleItems.filter (ScheduleItem.playable channelId)) ≠ []
  · rcases hloop with ⟨rfl, hne⟩
    obtain ⟨first, rest, -, hrows, hcycle⟩ := playableItems_loop hne
    rw [hcycle, shiftIntoCycle] at hi
    split_ifs at hi
    · exact isSome_of_playable (hrows i hi).2
    · obtain ⟨row, hrow, rfl⟩ := mem_map.mp hi
      have hplayable := (hrows row hrow).2
      exact isSome_of_playable hplayable
  · rw [playableItems_once hloop] at hi
    exact isSome_of_playable (of_mem_filter ((sortItems_perm _).mem_iff.mp hi))

lemma plan_follows {scheduleItems : List ScheduleItem} {options : PlanOptions}
    {plan : EgressSourcePlan}
    (h : buildSourcePlanFromSchedule channelId scheduleItems lib now options = .ok (some plan)) :
    plan.segments.length ≤ min options.segmentCap 12 ∧ ∃ index offset early,
      Chosen options.gapAbsorbSeconds
        (playableItems channelId scheduleItems options.loopSchedule now) now index offset early ∧
      Follows lib options (totalSeconds now + early) []
        ((playableItems channelId scheduleItems options.loopSchedule now).drop index) offset
        plan.segments := by
  obtain ⟨o, hchecked, hplanned⟩ := bind_ok h
  obtain ⟨segments, hsegments, hmade⟩ := bind_ok hplanned
  have hoptions : o = { options with
      maxSegments := min options.maxSegments maxPlaylistSubchains
      segmentCap := min options.segmentCap maxPlaylistSubchains } ∧
      0 ≤ o.gapTolerance ∧ 0 < o.segmentCap := by
    unfold PlanOptions.checked at hchecked
    split_ifs at hchecked with h1 h2 h3 h4 h5 h6
    cases hchecked
    refine ⟨rfl, not_lt.mp h3, lt_min (by omega) (by decide)⟩
  have hmax := (PlanOptions.checked_ok hchecked).1
  obtain ⟨rfl, htol, hcap⟩ := hoptions
  split_ifs at hmade with hnone
  · cases hmade
  · obtain ⟨_, hvalid, hplan⟩ := bind_ok hmade
    unfold EgressSourcePlan.validated at hvalid
    split_ifs at hvalid
    cases hvalid
    cases hplan
    exact planSegments_follows hmax htol playableItems_isSome hcap hsegments hnone

/-- A plan airs consecutive items from the chosen one on, at most twelve, and each of them no
earlier than two tolerances for every item before it, and the absorbed gap. -/
theorem bounded_early_start {channelId : Text} {scheduleItems : List ScheduleItem}
    {options : PlanOptions} {plan : EgressSourcePlan}
    (h : buildSourcePlanFromSchedule channelId scheduleItems lib now options = .ok (some plan)) :
    plan.segments.length ≤ min options.segmentCap 12 ∧ ∃ index offset early,
      Chosen options.gapAbsorbSeconds
        (playableItems channelId scheduleItems options.loopSchedule now) now index offset early ∧
      ∀ k segment, plan.segments[k]? = some segment → ∃ item,
        (playableItems channelId scheduleItems options.loopSchedule now)[index + k]? = some item ∧
        segment.scheduleOccurrenceId = item.id ∧
        segment.scheduleOccurrenceStart = item.scheduledAt ∧
        totalSeconds item.scheduledAt - 2 * k * totalSeconds options.gapTolerance - early ≤
          totalSeconds now + ((plan.segments.take k).map (·.durationSeconds)).sum := by
  obtain ⟨hlength, index, offset, early, hchosen, hfollows⟩ := plan_follows h
  refine ⟨hlength, index, offset, early, hchosen, fun k segment hsegment => ?_⟩
  obtain ⟨item, hitem, ⟨asset, -, hwithin⟩, hearly⟩ := hfollows k segment hsegment
  rw [getElem?_drop] at hitem
  refine ⟨item, hitem, hwithin.occurrence.1, hwithin.occurrence.2, ?_⟩
  have hk : min k plan.segments.length = k :=
    min_eq_left (List.getElem?_eq_some_iff.mp hsegment).1.le
  rw [nil_append, length_take, hk] at hearly
  linarith

/-- A clip of ten seconds in a slot of eleven, and the next item a second after that. -/
def shortSlot : ScheduleItem := { shortRow with durationSeconds := some 11 }

def nextSlot : ScheduleItem := { longRow with scheduledAt := microseconds 12 }

/-- Both items; the second one airs from the tenth second on, two seconds early. -/
def twoSlotPlan : EgressSourcePlan :=
  ⟨"ch".toList,
    [⟨"Short".toList, "clip.ts".toList, 10, some 10, "short".toList, "a".toList, 0, none, none,
        none⟩,
      ⟨"Long".toList, "clip.ts".toList, 90, some 90, "long".toList, "b".toList, 12000000, none,
        none, none⟩]⟩

theorem bounded_early_start_two_slots :
    buildSourcePlanFromSchedule "ch".toList [shortSlot, nextSlot] twoClips 0 {} =
        .ok (some twoSlotPlan) ∧
      ∃ index offset early, Chosen 0 [shortSlot, nextSlot] 0 index offset early ∧
        ∀ k segment, twoSlotPlan.segments[k]? = some segment → ∃ item,
          [shortSlot, nextSlot][index + k]? = some item ∧
          totalSeconds item.scheduledAt - 2 * k * 1 - early ≤
            totalSeconds 0 + ((twoSlotPlan.segments.take k).map (·.durationSeconds)).sum := by
  have hplan : buildSourcePlanFromSchedule "ch".toList [shortSlot, nextSlot] twoClips 0 {} =
      .ok (some twoSlotPlan) := by decide +kernel
  obtain ⟨-, index, offset, early, hchosen, hairs⟩ := bounded_early_start hplan
  have hitems :
      playableItems "ch".toList [shortSlot, nextSlot] false 0 = [shortSlot, nextSlot] := by
    decide +kernel
  have htolerance : totalSeconds (microseconds 1) = 1 := by
    norm_num [totalSeconds, microseconds]
  rw [hitems] at hchosen
  refine ⟨hplan, index, offset, early, hchosen, fun k segment hsegment => ?_⟩
  obtain ⟨item, hitem, -, -, hearly⟩ := hairs k segment hsegment
  rw [hitems] at hitem
  rw [htolerance] at hearly
  exact ⟨item, hitem, hearly⟩

/-! ## Trims -/

def StaffAssetRow.Inverted (asset : StaffAssetRow) : Prop :=
  ∃ i ∈ asset.trimInSeconds, ∃ out ∈ asset.trimOutSeconds, out ≤ i

/-- An inverted trim raises, unless the file ends before it begins. -/
lemma inverted_raises_iff (hasset : lib.assetResolver item.assetId = some asset)
    (hinverted : asset.Inverted) :
    (∃ e, segmentFromItem lib item offset maxSeconds = .error e) ↔
      (asset.state.playable = true → asset.filePath.getD [] ≠ [] →
        lib.isFile (lib.expanduser (asset.filePath.getD [])) = true →
        ∀ e ∈ lib.mediaEnd (lib.expanduser (asset.filePath.getD [])),
          asset.trimInSeconds.getD 0 < e) := by
  obtain ⟨i, hi, out, hout, hle⟩ := hinverted
  have hnone : airtime lib item asset ≤ 0 := by
    have hwindow : airtime lib item asset ≤ out - asset.trimInSeconds.getD 0 :=
      segmentDuration_le (.inl hout)
    rw [mem_def.mp hi, getD_some] at hwindow
    linarith
  unfold segmentFromItem
  rw [hasset]
  dsimp only
  split_ifs with hstate hpath hfile hpositive hexhausted hover
  · simp [hstate]
  · simp [hpath]
  · simp [hfile]
  · obtain ⟨e, he, hends⟩ := hexhausted
    simp only [Bool.not_eq_false] at hstate hfile
    refine iff_of_false nofun fun h => absurd (h hstate hpath hfile e he) (not_lt.mpr hends)
  · refine iff_of_true ⟨_, rfl⟩ fun _ _ _ e he => ?_
    by_contra hends
    exact hexhausted ⟨e, he, not_lt.mp hends⟩
  · exact absurd hnone hpositive
  · exact absurd hnone hpositive

/-- Every segment of every plan stays inside its slot and its media; and every inverted trim raises
exactly if no file with such a trim is measured to end at its in-point or before. -/
theorem segment_windows_iff (lib : MediaLibrary) (options : PlanOptions) :
    ((∀ channelId scheduleItems now plan,
        buildSourcePlanFromSchedule channelId scheduleItems lib now options = .ok (some plan) →
        ∃ index offset early, Chosen options.gapAbsorbSeconds
            (playableItems channelId scheduleItems options.loopSchedule now) now index offset
            early ∧
          ∀ k segment, plan.segments[k]? = some segment → ∃ item asset,
            (playableItems channelId scheduleItems options.loopSchedule now)[index + k]? =
              some item ∧
            lib.assetResolver item.assetId = some asset ∧
            segment.Within lib options.maxSegmentSeconds item asset
              (if k = 0 then offset else 0)) ∧
      ∀ item asset offset, lib.assetResolver item.assetId = some asset → asset.Inverted →
        ∃ e, segmentFromItem lib item offset options.maxSegmentSeconds = .error e) ↔
    ∀ id asset, lib.assetResolver id = some asset → asset.Inverted →
      asset.state.playable = true → asset.filePath.getD [] ≠ [] →
      lib.isFile (lib.expanduser (asset.filePath.getD [])) = true →
      ∀ e ∈ lib.mediaEnd (lib.expanduser (asset.filePath.getD [])),
        asset.trimInSeconds.getD 0 < e := by
  constructor
  · intro h id asset hasset hinverted
    have hitem : lib.assetResolver ({ longRow with assetId := id } : ScheduleItem).assetId =
        some asset := hasset
    exact (inverted_raises_iff hitem hinverted).mp (h.2 _ _ 0 hitem hinverted)
  · intro h
    refine ⟨fun channelId scheduleItems now plan hplan => ?_, fun item asset offset hasset hinv =>
      (inverted_raises_iff hasset hinv).mpr (h _ _ hasset hinv)⟩
    obtain ⟨-, index, offset, early, hchosen, hfollows⟩ := plan_follows hplan
    refine ⟨index, offset, early, hchosen, fun k segment hsegment => ?_⟩
    obtain ⟨item, hitem, ⟨asset, hasset, hwithin⟩, -⟩ := hfollows k segment hsegment
    rw [getElem?_drop] at hitem
    exact ⟨item, asset, hitem, hasset, hwithin⟩

/-- From two minutes to ten seconds, in a file of one minute. -/
def invertedClip : MediaLibrary where
  assetResolver _ := some { clip "Long".toList 600 with
    trimInSeconds := some 120, trimOutSeconds := some 10 }
  expanduser p := p
  isFile _ := true
  mediaDurationResolver := some fun _ => some 60

theorem inverted_trim_goes_to_slate :
    buildSourcePlanFromSchedule "ch".toList [longRow] invertedClip (microseconds 50) {} =
        .ok none ∧
      ¬ ∀ (lib : MediaLibrary) (item : ScheduleItem) (asset : StaffAssetRow) (offset : ℚ),
        lib.assetResolver item.assetId = some asset → asset.Inverted →
        ∃ e, segmentFromItem lib item offset none = .error e := by
  refine ⟨by decide +kernel, fun h => ?_⟩
  obtain ⟨e, he⟩ := h invertedClip longRow _ 0 rfl ⟨120, rfl, 10, rfl, by norm_num⟩
  have hnone : segmentFromItem invertedClip longRow 0 none = .ok none := by decide +kernel
  rw [hnone] at he
  cases he

end CivicCast.Egress
