import CivicCast.Egress.Schedule

/-! # The source plan

`build_source_plan_from_schedule`: the plan starts at the row that covers the
instant, joined in progress; when that row has nothing left to air, the row due
within the absorb window of the instant is taken whole instead; otherwise there
is no plan and the channel goes to slate.

Only the first covering row is ever joined in progress. A second covering row
with media left is taken only when it started inside the absorb window
(`plan_of_covering_item`).
-/

namespace CivicCast.Egress

open Lib List ScheduleItem

/-! ## Assets and segments -/

inductive AssetState where
  | pendingIngest
  | ingesting
  | validated
  | rejected
  | recorded
deriving DecidableEq

/-- `_PLAYABLE_ASSET_STATES`. -/
def AssetState.playable : AssetState → Bool
  | .validated | .recorded => true
  | .pendingIngest | .ingesting | .rejected => false

/-- `StaffAssetRow`, as far as the plan reads it. -/
structure StaffAssetRow where
  title : Text
  state : AssetState
  filePath : Option Text
  durationSeconds : Option ℤ
  trimInSeconds : Option ℚ
  trimOutSeconds : Option ℚ
deriving DecidableEq

/-- What the plan asks of the station: the asset row of an id, the expanded
path, whether a file is there, and how long the media in it really is. -/
structure MediaLibrary where
  assetResolver : Text → Option StaffAssetRow
  expanduser : Text → Text
  isFile : Text → Bool
  mediaDurationResolver : Option (Text → Option ℚ)

/-- `EgressSourceSegment` of a scheduled program. -/
structure EgressSourceSegment where
  label : Text
  path : Text
  durationSeconds : ℚ
  playableDurationSeconds : Option ℚ
  sourceRef : Text
  scheduleOccurrenceId : Text
  scheduleOccurrenceStart : ℤ
  sourceOffsetSeconds : Option ℚ
  inpointSeconds : Option ℚ
  outpointSeconds : Option ℚ
deriving DecidableEq

structure EgressSourcePlan where
  channelId : Text
  segments : List EgressSourceSegment
deriving DecidableEq

/-- The fields the models refuse a value for. -/
inductive PlanField where
  | label
  | path
  | durationSeconds
  | playableDurationSeconds
  | sourceRef
  | scheduleOccurrenceId
  | sourceOffsetSeconds
  | inpointSeconds
  | outpointSeconds
  | trimOrder
  | channelId
  | segments
deriving DecidableEq

inductive PlanError where
  /-- `ValueError` of the arguments. -/
  | maxSegments
  | minPlanSeconds
  | gapTolerance
  | maxSegmentSeconds
  | gapAbsorbSeconds
  | segmentCap
  /-- `SourcePrepareError` of one scheduled asset. -/
  | notInLibrary (assetId : Text)
  | notReady (assetId : Text) (state : AssetState)
  | noFilePath (assetId : Text)
  | fileMissing (assetId : Text) (path : Text)
  | invalidTrim (assetId : Text)
  /-- `ValidationError` of the models. -/
  | invalid (fields : List PlanField)
deriving DecidableEq

namespace EgressSourceSegment

/-- The field limits of the model. -/
def fieldErrors (s : EgressSourceSegment) : List PlanField :=
  (if 1 ≤ s.label.length ∧ s.label.length ≤ 200 then [] else [PlanField.label]) ++
  (if 1 ≤ s.path.length ∧ s.path.length ≤ 1000 then [] else [PlanField.path]) ++
  (if 0 < s.durationSeconds then [] else [PlanField.durationSeconds]) ++
  (if ∀ d ∈ s.playableDurationSeconds, 0 < d then [] else [PlanField.playableDurationSeconds]) ++
  (if s.sourceRef.length ≤ 200 then [] else [PlanField.sourceRef]) ++
  (if s.scheduleOccurrenceId.length ≤ 80 then [] else [PlanField.scheduleOccurrenceId]) ++
  (if ∀ d ∈ s.sourceOffsetSeconds, 0 ≤ d then [] else [PlanField.sourceOffsetSeconds]) ++
  (if ∀ d ∈ s.inpointSeconds, 0 ≤ d then [] else [PlanField.inpointSeconds]) ++
  (if ∀ d ∈ s.outpointSeconds, 0 < d then [] else [PlanField.outpointSeconds])

/-- `_trim_points_are_ordered`, which runs once every field is accepted. -/
def orderErrors (s : EgressSourceSegment) : List PlanField :=
  if ∀ i ∈ s.inpointSeconds, ∀ o ∈ s.outpointSeconds, i < o then [] else [.trimOrder]

/-- Building the model from its values. -/
def validated (s : EgressSourceSegment) : Except PlanError EgressSourceSegment :=
  if s.fieldErrors ≠ [] then .error (.invalid s.fieldErrors)
  else if s.orderErrors ≠ [] then .error (.invalid s.orderErrors)
  else .ok s

end EgressSourceSegment

namespace EgressSourcePlan

def fieldErrors (p : EgressSourcePlan) : List PlanField :=
  (if 1 ≤ p.channelId.length ∧ p.channelId.length ≤ 80 then [] else [.channelId]) ++
  (if 1 ≤ p.segments.length then [] else [.segments])

def validated (p : EgressSourcePlan) : Except PlanError EgressSourcePlan :=
  if p.fieldErrors ≠ [] then .error (.invalid p.fieldErrors) else .ok p

end EgressSourcePlan

/-- `timedelta.total_seconds()`. -/
def totalSeconds (us : ℤ) : ℚ := us / 1000000

/-- `timedelta(seconds=x)` of a float, to the nearest microsecond. -/
def timedeltaSeconds (seconds : ℚ) : ℤ := roundHalfEven (seconds * 1000000)

/-! ## One item -/

def playableDuration (asset : StaffAssetRow) (inpoint outpoint mediaEnd : Option ℚ) : Option ℚ :=
  let rowEnd : Option ℚ :=
    match inpoint, outpoint, mediaEnd with
    | none, none, some e => some e
    | some _, some o, _ => some o
    | _, _, _ =>
      match asset.durationSeconds, outpoint with
      | some d, some o => some (min (d : ℚ) o)
      | some d, none => some (d : ℚ)
      | none, some o => some o
      | none, none => none
  let realEnd : Option ℚ :=
    -- the measured end of the file caps whatever the row promises
    match mediaEnd, rowEnd with
    | some e, none => some e
    | some e, some r => some (min r e)
    | none, r => r
  realEnd.map fun e => e - inpoint.getD 0

def segmentDuration (item : ScheduleItem) (asset : StaffAssetRow)
    (inpoint outpoint mediaEnd : Option ℚ) : ℚ :=
  let playable := playableDuration asset inpoint outpoint mediaEnd
  match item.durationSeconds with
  | none => playable.getD 0
  | some slot =>
    match playable with
    | none => slot
    | some p => min (slot : ℚ) p

/-- `asset.title or item.asset_title or item.asset_id`. -/
def segmentLabel (item : ScheduleItem) (asset : StaffAssetRow) : Text :=
  if asset.title ≠ [] then asset.title
  else if item.assetTitle.getD [] ≠ [] then item.assetTitle.getD []
  else item.assetId

/-- `media_duration_resolver(path)`, or `None` without a resolver. -/
def MediaLibrary.mediaEnd (lib : MediaLibrary) (path : Text) : Option ℚ :=
  lib.mediaDurationResolver.bind fun resolve => resolve path

/-- The segment of an item whose media window has been checked. -/
def segmentOf (item : ScheduleItem) (asset : StaffAssetRow) (path : Text)
    (mediaEnd : Option ℚ) (elapsedSeconds : ℚ) (maxDurationSeconds : Option ℚ) :
    EgressSourceSegment :=
  let duration := segmentDuration item asset asset.trimInSeconds asset.trimOutSeconds mediaEnd
  let playable := playableDuration asset asset.trimInSeconds asset.trimOutSeconds mediaEnd
  let inpoint := if 0 < elapsedSeconds then some (asset.trimInSeconds.getD 0 + elapsedSeconds)
    else asset.trimInSeconds
  let remaining := if 0 < elapsedSeconds then duration - elapsedSeconds else duration
  let clipped := match maxDurationSeconds with
    | none => remaining
    | some m => min remaining m
  { label := segmentLabel item asset
    path := path
    durationSeconds := clipped
    playableDurationSeconds := playable.filter fun p => 0 < p
    sourceRef := item.assetId
    scheduleOccurrenceId := item.id
    scheduleOccurrenceStart := item.scheduledAt
    sourceOffsetSeconds := inpoint
    inpointSeconds := inpoint
    outpointSeconds := asset.trimOutSeconds.map fun o => min o (inpoint.getD 0 + clipped) }

/-- `_segment_from_item`: `none` is an item that has fully aired. -/
def segmentFromItem (lib : MediaLibrary) (item : ScheduleItem) (elapsedSeconds : ℚ)
    (maxDurationSeconds : Option ℚ) : Except PlanError (Option EgressSourceSegment) :=
  match lib.assetResolver item.assetId with
  | none => .error (.notInLibrary item.assetId)
  | some asset =>
    if asset.state.playable = false then .error (.notReady item.assetId asset.state)
    else if asset.filePath.getD [] = [] then .error (.noFilePath item.assetId)
    else
      let path := lib.expanduser (asset.filePath.getD [])
      if lib.isFile path = false then .error (.fileMissing item.assetId path)
      else
        let mediaEnd := lib.mediaEnd path
        let duration :=
          segmentDuration item asset asset.trimInSeconds asset.trimOutSeconds mediaEnd
        if duration ≤ 0 then
          -- the file itself ends at or before the in-point: exhausted
          if ∃ e ∈ mediaEnd, e ≤ asset.trimInSeconds.getD 0 then .ok none
          else .error (.invalidTrim item.assetId)
        else if 0 < elapsedSeconds ∧ duration ≤ elapsedSeconds then .ok none
        else
          (segmentOf item asset path mediaEnd elapsedSeconds
            maxDurationSeconds).validated.map some

def coversSlot (item : ScheduleItem) (segment : EgressSourceSegment)
    (elapsedSeconds toleranceSeconds : ℚ) : Bool :=
  match item.durationSeconds with
  | none => true
  | some slot => (slot : ℚ) ≤ elapsedSeconds + segment.durationSeconds + toleranceSeconds

/-! ## The plan -/

def maxPlaylistSubchains : ℤ := 12

/-- The arguments of `build_source_plan_from_schedule` that bound a plan. -/
structure PlanOptions where
  maxSegments : ℤ := 8
  minPlanSeconds : ℚ := 0
  segmentCap : ℤ := maxPlaylistSubchains
  gapTolerance : ℤ := microseconds 1
  loopSchedule : Bool := false
  maxSegmentSeconds : Option ℚ := none
  gapAbsorbSeconds : ℚ := 0

/-- The checks at the top of `build_source_plan_from_schedule`, in order, and
the clamp to the pipeline's shape. -/
def PlanOptions.checked (o : PlanOptions) : Except PlanError PlanOptions :=
  if o.maxSegments ≤ 0 then .error .maxSegments
  else if o.minPlanSeconds < 0 then .error .minPlanSeconds
  else if o.gapTolerance < 0 then .error .gapTolerance
  else if ∃ m ∈ o.maxSegmentSeconds, m ≤ 0 then .error .maxSegmentSeconds
  else if o.gapAbsorbSeconds < 0 then .error .gapAbsorbSeconds
  else if o.segmentCap < o.maxSegments then .error .segmentCap
  else .ok { o with
    maxSegments := min o.maxSegments maxPlaylistSubchains
    segmentCap := min o.segmentCap maxPlaylistSubchains }

/-- The accumulators of `_plan_from`. -/
structure PlanBuild where
  built : List EgressSourceSegment
  builtSeconds : ℚ
  cursorEnd : ℤ

/-- `built.append(segment)` and what follows it. -/
def PlanBuild.push (b : PlanBuild) (item : ScheduleItem) (segment : EgressSourceSegment) :
    PlanBuild where
  built := b.built ++ [segment]
  builtSeconds := b.builtSeconds + segment.durationSeconds
  cursorEnd := max b.cursorEnd (item.scheduledAt +
    (if item.durationSeconds.getD 0 = 0 then timedeltaSeconds segment.durationSeconds
      else microseconds (item.durationSeconds.getD 0)))

/-- The `for` of `_plan_from`; only the start item has an elapsed part. -/
def planLoop (lib : MediaLibrary) (o : PlanOptions) :
    List ScheduleItem → ℚ → PlanBuild → Except PlanError (List EgressSourceSegment)
  | [], _, b => .ok b.built
  | item :: rest, elapsed, b =>
    if b.built ≠ [] ∧ b.cursorEnd + o.gapTolerance < item.scheduledAt then .ok b.built
    else
      match segmentFromItem lib item elapsed o.maxSegmentSeconds with
      | .error e => .error e
      | .ok none => .ok b.built
      -- an aired item ends the plan; it does not skip to the next one
      | .ok (some segment) =>
        let b' := b.push item segment
        if o.segmentCap ≤ b'.built.length then .ok b'.built
        else if coversSlot item segment elapsed (totalSeconds o.gapTolerance) = false then
          .ok b'.built
        else if o.maxSegments ≤ b'.built.length ∧ o.minPlanSeconds ≤ b'.builtSeconds then
          .ok b'.built
        else planLoop lib o rest 0 b'

def planFrom (lib : MediaLibrary) (o : PlanOptions) (items : List ScheduleItem)
    (startIndex : ℕ) (startElapsed : ℚ) : Except PlanError (List EgressSourceSegment) :=
  match items.drop startIndex with
  | [] => .ok []
  | startItem :: rest =>
    planLoop lib o (startItem :: rest) startElapsed
      { built := [], builtSeconds := 0, cursorEnd := startItem.endsAt }

/-- The `for` of `_gap_absorb_candidate_index`. -/
def gapAbsorbScan (currentTime : ℤ) (gapAbsorbSeconds : ℚ) : List ScheduleItem → ℕ → Option ℕ
  | [], _ => none
  | item :: rest, index =>
    let delta := totalSeconds (item.scheduledAt - currentTime)
    -- the items are sorted: everything later is further away
    if gapAbsorbSeconds < delta then none
    else if delta < -gapAbsorbSeconds then
      gapAbsorbScan currentTime gapAbsorbSeconds rest (index + 1)
    -- it started in the window, but its slot is over
    else if delta < 0 ∧ item.endsAt ≤ currentTime then
      gapAbsorbScan currentTime gapAbsorbSeconds rest (index + 1)
    else some index

def gapAbsorbCandidateIndex (items : List ScheduleItem) (currentTime : ℤ)
    (currentIndex : Option ℕ) (gapAbsorbSeconds : ℚ) : Option ℕ :=
  if gapAbsorbSeconds ≤ 0 then none
  else if items.all (fun i => currentTime < i.scheduledAt) then none
  else
    let startIndex := match currentIndex with
      | none => 0
      | some i => i + 1
    gapAbsorbScan currentTime gapAbsorbSeconds (items.drop startIndex) startIndex

/-- The seconds of an item that have gone by, at least zero. -/
def elapsedSeconds (currentTime : ℤ) (item : ScheduleItem) : ℚ :=
  max 0 (totalSeconds (currentTime - item.scheduledAt))

/-- The segments of the current item's plan, if there is a current item. -/
def currentSegments (lib : MediaLibrary) (o : PlanOptions) (items : List ScheduleItem)
    (currentTime : ℤ) : Option ℕ → Except PlanError (List EgressSourceSegment)
  | none => .ok []
  | some index =>
    planFrom lib o items index (match items[index]? with
      | none => 0
      | some item => elapsedSeconds currentTime item)

/-- The body of `build_source_plan_from_schedule` on its playable items. -/
def planSegments (lib : MediaLibrary) (o : PlanOptions) (items : List ScheduleItem)
    (currentTime : ℤ) : Except PlanError (List EgressSourceSegment) := do
  let currentIndex := currentItemIndex items currentTime
  let segments ← currentSegments lib o items currentTime currentIndex
  match gapAbsorbCandidateIndex items currentTime currentIndex o.gapAbsorbSeconds with
  | none => .ok segments
  -- an absorbed item starts from its beginning, late as it may be
  | some index => if segments = [] then planFrom lib o items index 0 else .ok segments

/-- `build_source_plan_from_schedule`: `none` is slate. -/
def buildSourcePlanFromSchedule (channelId : Text) (scheduleItems : List ScheduleItem)
    (lib : MediaLibrary) (now : ℤ) (options : PlanOptions) :
    Except PlanError (Option EgressSourcePlan) := do
  let o ← options.checked
  let segments ← planSegments lib o (playableItems channelId scheduleItems o.loopSchedule now) now
  if segments = [] then .ok none
  else
    let plan ← EgressSourcePlan.validated { channelId := channelId, segments := segments }
    .ok (some plan)

/-! ## Items that resolve -/

def airtime (lib : MediaLibrary) (item : ScheduleItem) (asset : StaffAssetRow) : ℚ :=
  segmentDuration item asset asset.trimInSeconds asset.trimOutSeconds
    (lib.mediaEnd (lib.expanduser (asset.filePath.getD [])))

abbrev segmentFor (lib : MediaLibrary) (item : ScheduleItem) (asset : StaffAssetRow) (elapsed : ℚ)
    (maxDuration : Option ℚ) : EgressSourceSegment :=
  let path := lib.expanduser (asset.filePath.getD [])
  segmentOf item asset path (lib.mediaEnd path) elapsed maxDuration

/-- `asset` is a playable asset of the item with its file in place, a trim
window that is valid for egress, and values the segment model accepts. -/
structure ResolvesTo (lib : MediaLibrary) (item : ScheduleItem) (asset : StaffAssetRow) :
    Prop where
  found : lib.assetResolver item.assetId = some asset
  state : asset.state.playable = true
  filePath : asset.filePath.getD [] ≠ []
  file : lib.isFile (lib.expanduser (asset.filePath.getD [])) = true
  trimIn : ∀ d ∈ asset.trimInSeconds, 0 ≤ d
  trim : 0 < airtime lib item asset ∨
    ∃ e ∈ lib.mediaEnd (lib.expanduser (asset.filePath.getD [])), e ≤ asset.trimInSeconds.getD 0
  label : 1 ≤ (segmentLabel item asset).length ∧ (segmentLabel item asset).length ≤ 200
  path : 1 ≤ (lib.expanduser (asset.filePath.getD [])).length ∧
    (lib.expanduser (asset.filePath.getD [])).length ≤ 1000
  sourceRef : item.assetId.length ≤ 200
  occurrence : item.id.length ≤ 80

def Resolves (lib : MediaLibrary) (item : ScheduleItem) : Prop :=
  ∃ asset, ResolvesTo lib item asset

variable {item : ScheduleItem} {lib : MediaLibrary} {maxDuration : Option ℚ} {elapsed : ℚ}
  {asset : StaffAssetRow} {now : ℤ} {items : List ScheduleItem}

/-- The length that the row has does not count: both trims are set, or neither is and the file
was measured. -/
def RowOverridden (inpoint outpoint mediaEnd : Option ℚ) : Prop :=
  (inpoint.isSome ∧ outpoint.isSome) ∨ (inpoint = none ∧ outpoint = none ∧ mediaEnd.isSome)

/-- The airtime ends at the out-point or before, at the measured end of the file or before, and
at the end that the row has or before, unless that is overridden. -/
lemma segmentDuration_le {inpoint outpoint mediaEnd : Option ℚ} {bound : ℚ}
    (h : outpoint = some bound ∨ mediaEnd = some bound ∨
      ¬ RowOverridden inpoint outpoint mediaEnd ∧
        ∃ d : ℤ, asset.durationSeconds = some d ∧ d = bound) :
    segmentDuration item asset inpoint outpoint mediaEnd ≤ bound - inpoint.getD 0 := by
  have hplayable : ∃ p, playableDuration asset inpoint outpoint mediaEnd = some p ∧
      p ≤ bound - inpoint.getD 0 := by
    unfold playableDuration
    rcases h with rfl | rfl | ⟨hrow, d, hd, rfl⟩
    · rcases inpoint with _ | i <;> rcases mediaEnd with _ | e <;>
        rcases asset.durationSeconds with _ | d <;>
        simp
    · rcases inpoint with _ | i <;> rcases outpoint with _ | out <;>
        rcases asset.durationSeconds with _ | d <;>
        simp
    · unfold RowOverridden at hrow
      rcases inpoint with _ | i <;> rcases outpoint with _ | out <;>
        rcases mediaEnd with _ | e <;> simp [hd] at hrow ⊢
  rcases hplayable with ⟨p, hp, hle⟩
  unfold segmentDuration
  rw [hp]
  cases item.durationSeconds with
  | none => exact hle
  | some slot => exact le_trans (min_le_right _ _) hle

/-- Where an item joined in progress starts in its media. -/
lemma inpoint_getD (trimIn : Option ℚ) (hnonneg : 0 ≤ elapsed) :
    (if 0 < elapsed then some (trimIn.getD 0 + elapsed) else trimIn).getD 0 =
      trimIn.getD 0 + elapsed := by
  by_cases hpos : 0 < elapsed
  · rw [if_pos hpos, Option.getD_some]
  · have hzero : elapsed = 0 := by linarith
    rw [if_neg hpos, hzero, add_zero]

lemma inpoint_nonneg {trimIn : Option ℚ} (htrim : ∀ d ∈ trimIn, 0 ≤ d) (elapsed : ℚ) :
    ∀ d ∈ (if 0 < elapsed then some (trimIn.getD 0 + elapsed) else trimIn), 0 ≤ d := by
  have hgetD : 0 ≤ trimIn.getD 0 := by
    cases trimIn with
    | none => exact le_refl _
    | some d => exact htrim d rfl
  intro d hd
  by_cases hpos : 0 < elapsed
  · rw [if_pos hpos, Option.mem_some_iff] at hd
    linarith
  · rw [if_neg hpos] at hd
    exact htrim d hd

/-- What the model asks of the numbers of a segment. -/
structure EgressSourceSegment.InOrder (s : EgressSourceSegment) : Prop where
  duration : 0 < s.durationSeconds
  playable : ∀ d ∈ s.playableDurationSeconds, 0 < d
  offset : s.sourceOffsetSeconds = s.inpointSeconds
  inpoint : ∀ d ∈ s.inpointSeconds, 0 ≤ d
  outpoint : ∀ o ∈ s.outpointSeconds, s.inpointSeconds.getD 0 < o

lemma segmentOf_inOrder (h : ResolvesTo lib item asset) (hnonneg : 0 ≤ elapsed)
    (hleft : elapsed < airtime lib item asset) (hmax : ∀ m ∈ maxDuration, 0 < m) :
    (segmentFor lib item asset elapsed maxDuration).InOrder := by
  have hremaining : 0 < if 0 < elapsed then airtime lib item asset - elapsed
      else airtime lib item asset := by
    split_ifs <;> linarith
  have hclipped : 0 < match maxDuration with
      | none => if 0 < elapsed then airtime lib item asset - elapsed else airtime lib item asset
      | some m => min (if 0 < elapsed then airtime lib item asset - elapsed
          else airtime lib item asset) m := by
    cases maxDuration with
    | none => exact hremaining
    | some m => exact lt_min hremaining (hmax m rfl)
  constructor
  · exact hclipped
  · intro d hd
    have hfilter := (Option.mem_filter_iff.mp hd).2
    exact of_decide_eq_true hfilter
  · rfl
  · exact inpoint_nonneg h.trimIn elapsed
  · -- the out-point is the earlier of the trim's and the end of the airtime
    intro o ho
    rcases Option.map_eq_some_iff.mp ho with ⟨out, hout, rfl⟩
    have hwindow : airtime lib item asset ≤ out - asset.trimInSeconds.getD 0 :=
      segmentDuration_le (.inl hout)
    have hstart := inpoint_getD asset.trimInSeconds hnonneg
    refine lt_min ?_ (lt_add_of_pos_right _ hclipped)
    rw [show (segmentOf item asset _ _ elapsed maxDuration).inpointSeconds.getD 0 = _ from hstart]
    linarith

/-- The segment of an item with media left passes the model's checks. -/
lemma segmentOf_validated (h : ResolvesTo lib item asset) (hnonneg : 0 ≤ elapsed)
    (hleft : elapsed < airtime lib item asset) (hmax : ∀ m ∈ maxDuration, 0 < m) :
    (segmentFor lib item asset elapsed maxDuration).validated =
      .ok (segmentFor lib item asset elapsed maxDuration) := by
  have horder := segmentOf_inOrder h hnonneg hleft hmax
  -- from here on only the order of its numbers and its texts matter
  generalize hs : segmentFor lib item asset elapsed maxDuration = s at horder ⊢
  have hlabel : s.label = segmentLabel item asset := by rw [← hs]; rfl
  have hpath : s.path = lib.expanduser (asset.filePath.getD []) := by rw [← hs]; rfl
  have hsource : s.sourceRef = item.assetId := by rw [← hs]; rfl
  have hid : s.scheduleOccurrenceId = item.id := by rw [← hs]; rfl
  have hin : 0 ≤ s.inpointSeconds.getD 0 := by
    cases hi : s.inpointSeconds with
    | none => exact le_refl _
    | some d => exact horder.inpoint d hi
  have hout : ∀ o ∈ s.outpointSeconds, 0 < o := by
    intro o ho
    exact lt_of_le_of_lt hin (horder.outpoint o ho)
  have hfields : s.fieldErrors = [] := by
    unfold EgressSourceSegment.fieldErrors
    rw [hlabel, hpath, hsource, hid, horder.offset, if_pos h.label, if_pos h.path,
      if_pos horder.duration, if_pos horder.playable, if_pos h.sourceRef, if_pos h.occurrence,
      if_pos horder.inpoint, if_pos horder.inpoint, if_pos hout]
    rfl
  have htrim : s.orderErrors = [] := by
    unfold EgressSourceSegment.orderErrors
    rw [if_pos]
    intro i hi o ho
    have hlt := horder.outpoint o ho
    rw [Option.mem_def.mp hi] at hlt
    exact hlt
  unfold EgressSourceSegment.validated
  rw [hfields, htrim]
  rfl

/-- The item has media left at this offset. -/
def Airs (lib : MediaLibrary) (maxDuration : Option ℚ) (item : ScheduleItem) (elapsed : ℚ) :
    Prop :=
  ∃ segment, segmentFromItem lib item elapsed maxDuration = .ok (some segment)

/-- A resolved item raises nothing; it has media left until its airtime is
over. -/
lemma segmentFromItem_spec
    (h : ResolvesTo lib item asset) (hnonneg : 0 ≤ elapsed) (hmax : ∀ m ∈ maxDuration, 0 < m) :
    (elapsed < airtime lib item asset → Airs lib maxDuration item elapsed) ∧
    (airtime lib item asset ≤ elapsed →
      segmentFromItem lib item elapsed maxDuration = .ok none) := by
  have hstate : ¬ asset.state.playable = false := by simp [h.state]
  have hfile : ¬ lib.isFile (lib.expanduser (asset.filePath.getD [])) = false := by simp [h.file]
  have hbody : segmentFromItem lib item elapsed maxDuration =
      if airtime lib item asset ≤ 0 then
        if ∃ e ∈ lib.mediaEnd (lib.expanduser (asset.filePath.getD [])),
          e ≤ asset.trimInSeconds.getD 0 then .ok none
        else .error (.invalidTrim item.assetId)
      else if 0 < elapsed ∧ airtime lib item asset ≤ elapsed then .ok none
      else (segmentFor lib item asset elapsed maxDuration).validated.map some := by
    unfold segmentFromItem
    rw [h.found]
    dsimp only
    rw [if_neg hstate, if_neg h.filePath, if_neg hfile]
    rfl
  rw [Airs, hbody]
  constructor
  · intro hleft
    rw [if_neg (by linarith), if_neg (by intro hover; linarith [hover.2]),
      segmentOf_validated h hnonneg hleft hmax]
    exact ⟨_, rfl⟩
  · intro hover
    by_cases hpos : airtime lib item asset ≤ 0
    · -- no airtime at all: the file ends before the in-point
      rcases h.trim with htrim | htrim
      · linarith
      · rw [if_pos hpos, if_pos htrim]
    · rw [if_neg hpos, if_pos ⟨by linarith, hover⟩]

lemma segmentFromItem_ok (h : Resolves lib item) (hnonneg : 0 ≤ elapsed)
    (hmax : ∀ m ∈ maxDuration, 0 < m) :
    Airs lib maxDuration item elapsed ∨
      segmentFromItem lib item elapsed maxDuration = .ok none := by
  rcases h with ⟨asset, hasset⟩
  have hspec := segmentFromItem_spec hasset hnonneg hmax
  rcases lt_or_ge elapsed (airtime lib item asset) with hleft | hover
  · exact .inl (hspec.1 hleft)
  · exact .inr (hspec.2 hover)

lemma Airs.from_start (hairs : Airs lib maxDuration item elapsed) (h : Resolves lib item)
    (hnonneg : 0 ≤ elapsed) (hmax : ∀ m ∈ maxDuration, 0 < m) : Airs lib maxDuration item 0 := by
  rcases h with ⟨asset, hasset⟩
  have hspec := segmentFromItem_spec hasset hnonneg hmax
  rcases lt_or_ge elapsed (airtime lib item asset) with hleft | hover
  · exact (segmentFromItem_spec hasset (le_refl 0) hmax).1 (by linarith)
  · rcases hairs with ⟨segment, hsegment⟩
    rw [hspec.2 hover] at hsegment
    cases hsegment

/-! ## Plans of resolved items -/

section Plans

variable {lib : MediaLibrary} {o : PlanOptions}

variable {items : List ScheduleItem} {index : ℕ} {now : ℤ}

variable (hmax : ∀ m ∈ o.maxSegmentSeconds, 0 < m)
include hmax

lemma planLoop_ok (items : List ScheduleItem) :
    ∀ elapsed b, 0 ≤ elapsed → (∀ i ∈ items, Resolves lib i) →
      ∃ segments, planLoop lib o items elapsed b = .ok segments ∧
        (b.built ≠ [] → segments ≠ []) := by
  induction items with
  | nil =>
    intro elapsed b _ _
    exact ⟨b.built, rfl, id⟩
  | cons item rest ih =>
    intro elapsed b hnonneg hresolve
    have hstop : ∃ segments, Except.ok b.built = Except.ok (ε := PlanError) segments ∧
        (b.built ≠ [] → segments ≠ []) := ⟨b.built, rfl, id⟩
    unfold planLoop
    -- a gap after something built ends the plan
    by_cases hgap : b.built ≠ [] ∧ b.cursorEnd + o.gapTolerance < item.scheduledAt
    · rw [if_pos hgap]
      exact hstop
    · rw [if_neg hgap]
      rcases segmentFromItem_ok (hresolve item mem_cons_self) hnonneg hmax with
        ⟨segment, hsegment⟩ | hnone
      · rw [hsegment]
        dsimp only
        have hpush : (b.push item segment).built ≠ [] := by simp [PlanBuild.push]
        split_ifs
        · exact ⟨_, rfl, fun _ => hpush⟩
        · exact ⟨_, rfl, fun _ => hpush⟩
        · exact ⟨_, rfl, fun _ => hpush⟩
        · obtain ⟨segments, hsegments, hkeeps⟩ := ih 0 (b.push item segment) (le_refl 0)
            (fun i hi => hresolve i (mem_cons_of_mem _ hi))
          exact ⟨segments, hsegments, fun _ => hkeeps hpush⟩
      · rw [hnone]
        exact hstop

/-- A plan is empty exactly when its start item has no media left. -/
lemma planFrom_ok (hresolve : ∀ i ∈ items, Resolves lib i)
    (hitem : items[index]? = some item) (hnonneg : 0 ≤ elapsed) :
    ∃ segments, planFrom lib o items index elapsed = .ok segments ∧
      (segments ≠ [] ↔ Airs lib o.maxSegmentSeconds item elapsed) := by
  rcases List.getElem?_eq_some_iff.mp hitem with ⟨hlt, rfl⟩
  have hdrop := drop_eq_getElem_cons hlt
  have hrest : ∀ i ∈ items.drop (index + 1), Resolves lib i := by
    intro i hi
    exact hresolve i (mem_of_mem_drop hi)
  unfold planFrom
  rw [hdrop]
  dsimp only
  unfold planLoop
  rw [if_neg (by simp)]
  rcases segmentFromItem_ok (hresolve _ (getElem_mem hlt)) hnonneg hmax with
    ⟨segment, hsegment⟩ | hnone
  · have hairs : Airs lib o.maxSegmentSeconds items[index] elapsed := ⟨segment, hsegment⟩
    rw [hsegment]
    dsimp only
    -- the caps end the plan after this segment, or the loop goes on
    split_ifs
    · exact ⟨_, rfl, by simp [PlanBuild.push, hairs]⟩
    · exact ⟨_, rfl, by simp [PlanBuild.push, hairs]⟩
    · exact ⟨_, rfl, by simp [PlanBuild.push, hairs]⟩
    · obtain ⟨segments, hsegments, hkeeps⟩ := planLoop_ok hmax (items.drop (index + 1)) 0
        (PlanBuild.push ⟨[], 0, items[index].endsAt⟩ items[index] segment) (le_refl 0) hrest
      refine ⟨segments, hsegments, ?_⟩
      have hne := hkeeps (by simp [PlanBuild.push])
      exact iff_of_true hne hairs
  · rw [hnone]
    refine ⟨[], rfl, iff_of_false (by simp) ?_⟩
    rintro ⟨segment, hsegment⟩
    rw [hnone] at hsegment
    cases hsegment

omit hmax

lemma elapsedSeconds_nonneg {now : ℤ} {item : ScheduleItem} : 0 ≤ elapsedSeconds now item :=
  le_max_left _ _

lemma currentItemIndex_getElem
    (h : currentItemIndex items now = some index) : ∃ item, items[index]? = some item := by
  rcases findIdx?_eq_some_iff_getElem.mp h with ⟨hlt, -, -⟩
  exact ⟨_, getElem?_eq_getElem hlt⟩

lemma gapAbsorbScan_getElem {gap : ℚ} {items : List ScheduleItem} :
    ∀ {index k}, gapAbsorbScan now gap items index = some k →
      ∃ j item, k = index + j ∧ items[j]? = some item ∧
        totalSeconds (item.scheduledAt - now) ≤ gap := by
  induction items with
  | nil =>
    intro index k h
    cases h
  | cons item rest ih =>
    intro index k h
    have hnext : gapAbsorbScan now gap rest (index + 1) = some k →
        ∃ j found, k = index + j ∧ (item :: rest)[j]? = some found ∧
          totalSeconds (found.scheduledAt - now) ≤ gap := by
      intro hrest
      rcases ih hrest with ⟨j, found, hk, hfound, hdue⟩
      exact ⟨j + 1, found, by omega, by simpa using hfound, hdue⟩
    unfold gapAbsorbScan at h
    dsimp only at h
    split_ifs at h with hlater
    · exact hnext h
    · exact hnext h
    · cases h
      exact ⟨0, item, rfl, rfl, not_lt.mp hlater⟩

lemma gapAbsorbCandidateIndex_getElem {current : Option ℕ} {gap : ℚ}
    (h : gapAbsorbCandidateIndex items now current gap = some index) :
    ∃ item, items[index]? = some item ∧ totalSeconds (item.scheduledAt - now) ≤ gap := by
  unfold gapAbsorbCandidateIndex at h
  split_ifs at h
  rcases gapAbsorbScan_getElem h with ⟨j, item, rfl, hitem, hdue⟩
  rw [getElem?_drop] at hitem
  exact ⟨item, hitem, hdue⟩

lemma exists_item_iff {o : Option ℕ} (ho : o = some index) (hitem : items[index]? = some item)
    {P : ScheduleItem → Prop} : (∃ i x, o = some i ∧ items[i]? = some x ∧ P x) ↔ P item := by
  constructor
  · rintro ⟨i, x, hi, hx, hP⟩
    rw [ho] at hi
    cases hi
    rw [hitem] at hx
    cases hx
    exact hP
  · intro hP
    exact ⟨index, item, ho, hitem, hP⟩

include hmax

/-- The plan of the current item: empty unless that item has media left. -/
lemma currentSegments_ok (hresolve : ∀ i ∈ items, Resolves lib i) (now : ℤ) :
    ∃ segments, currentSegments lib o items now (currentItemIndex items now) = .ok segments ∧
      (segments ≠ [] ↔ ∃ index item, currentItemIndex items now = some index ∧
        items[index]? = some item ∧
        Airs lib o.maxSegmentSeconds item (elapsedSeconds now item)) := by
  cases hcurrent : currentItemIndex items now with
  | none => exact ⟨[], rfl, iff_of_false (by simp) (by rintro ⟨_, _, h, -⟩; cases h)⟩
  | some index =>
    rcases currentItemIndex_getElem hcurrent with ⟨item, hitem⟩
    obtain ⟨segments, hsegments, hairs⟩ := planFrom_ok hmax hresolve hitem elapsedSeconds_nonneg
    unfold currentSegments
    dsimp only
    rw [hitem]
    refine ⟨segments, hsegments, ?_⟩
    rw [exists_item_iff rfl hitem (P := fun item => Airs lib o.maxSegmentSeconds item
      (elapsedSeconds now item))]
    exact hairs

/-- What the plan of an instant starts with: the current item joined in
progress, or else the absorbed item from its beginning. -/
lemma planSegments_ok (hresolve : ∀ i ∈ items, Resolves lib i) (now : ℤ) :
    ∃ segments, planSegments lib o items now = .ok segments ∧
      (segments ≠ [] ↔
        (∃ index item, currentItemIndex items now = some index ∧ items[index]? = some item ∧
          Airs lib o.maxSegmentSeconds item (elapsedSeconds now item)) ∨
        (∃ index item, gapAbsorbCandidateIndex items now (currentItemIndex items now)
          o.gapAbsorbSeconds = some index ∧ items[index]? = some item ∧
          Airs lib o.maxSegmentSeconds item 0)) := by
  rcases currentSegments_ok hmax hresolve now with ⟨segments, hsegments, hcurrent⟩
  unfold planSegments
  dsimp only
  rw [hsegments]
  change ∃ r, (match gapAbsorbCandidateIndex items now (currentItemIndex items now)
      o.gapAbsorbSeconds with
    | none => Except.ok segments
    | some index => if segments = [] then planFrom lib o items index 0 else .ok segments) =
      .ok r ∧ _
  cases hcandidate : gapAbsorbCandidateIndex items now (currentItemIndex items now)
      o.gapAbsorbSeconds with
  | none =>
    refine ⟨segments, rfl, ?_⟩
    rw [hcurrent]
    simp
  | some index =>
    rcases gapAbsorbCandidateIndex_getElem hcandidate with ⟨item, hitem, -⟩
    rcases planFrom_ok hmax hresolve hitem (le_refl 0) with ⟨absorbed, habsorbed, hairs⟩
    rw [exists_item_iff rfl hitem, ← hcurrent, ← hairs]
    -- the candidate is only asked where the current item airs nothing
    by_cases hempty : segments = []
    · refine ⟨absorbed, ?_, ?_⟩
      · dsimp only
        rw [if_pos hempty, habsorbed]
      · simp [hempty]
    · refine ⟨segments, ?_, ?_⟩
      · dsimp only
        rw [if_neg hempty]
      · simp [hempty]

end Plans

/-! ## No slate while an item has media left -/

lemma PlanOptions.checked_ok {options o : PlanOptions} (h : options.checked = .ok o) :
    (∀ m ∈ o.maxSegmentSeconds, 0 < m) ∧ o.maxSegmentSeconds = options.maxSegmentSeconds ∧
      o.gapAbsorbSeconds = options.gapAbsorbSeconds ∧ o.loopSchedule = options.loopSchedule := by
  unfold PlanOptions.checked at h
  split_ifs at h with h1 h2 h3 h4 h5 h6
  cases h
  refine ⟨?_, rfl, rfl, rfl⟩
  intro m hm
  by_contra hle
  exact h4 ⟨m, hm, not_lt.mp hle⟩

lemma playableItems_sorted (channelId : Text) (items : List ScheduleItem) (loop : Bool)
    (now : ℤ) : (playableItems channelId items loop now).Pairwise
      fun a b => a.scheduledAt ≤ b.scheduledAt := by
  by_cases hloop : loop = true ∧ sortItems (items.filter (playable channelId)) ≠ []
  · -- a cycle is a sorted pass, shifted as a whole
    rcases hloop with ⟨rfl, hne⟩
    rcases playableItems_loop hne with ⟨first, rest, hsorted, -, hplayable⟩
    have hstarts := hsorted.imp start_le_of_key
    rw [hplayable]
    unfold shiftIntoCycle
    dsimp only
    split_ifs
    · exact hstarts
    · rw [pairwise_map]
      refine hstarts.imp ?_
      intro a b hab
      rw [scheduledAt_shift, scheduledAt_shift]
      omega
  · rw [playableItems_once hloop]
    exact (sortItems_sorted _).imp start_le_of_key

/-- The item started at most `gap` seconds before `now` and its slot has not
closed since. -/
def JustStarted (now : ℤ) (gap : ℚ) (item : ScheduleItem) : Prop :=
  item.scheduledAt ≤ now ∧ totalSeconds (now - item.scheduledAt) ≤ gap ∧
    (item.scheduledAt < now → now < item.endsAt)

lemma totalSeconds_neg (a b : ℤ) : totalSeconds (a - b) = - totalSeconds (b - a) := by
  unfold totalSeconds
  push_cast
  ring

lemma totalSeconds_nonneg {us : ℤ} : 0 ≤ totalSeconds us ↔ 0 ≤ us := by
  unfold totalSeconds
  rw [le_div_iff₀ (by norm_num), zero_mul]
  exact Int.cast_nonneg_iff

/-- With a just-started item ahead, the scan stops at one. -/
lemma gapAbsorbScan_finds {gap : ℚ} (hitem : JustStarted now gap item) (items : List ScheduleItem) :
    ∀ index, items.Pairwise (fun a b => a.scheduledAt ≤ b.scheduledAt) → item ∈ items →
      ∃ j other, gapAbsorbScan now gap items index = some (index + j) ∧
        items[j]? = some other ∧ JustStarted now gap other := by
  rcases hitem with ⟨hstarted, hwithin, hopen⟩
  have hgap : 0 ≤ gap := le_trans (totalSeconds_nonneg.mpr (by omega)) hwithin
  induction items with
  | nil =>
    intro index _ hmem
    cases hmem
  | cons first rest ih =>
    intro index hsorted hmem
    have hfirst : first.scheduledAt ≤ item.scheduledAt := by
      rcases mem_cons.mp hmem with rfl | hrest
      · exact le_refl _
      · exact rel_of_pairwise_cons hsorted hrest
    have hnext : first ≠ item → ∃ j other,
        gapAbsorbScan now gap rest (index + 1) = some (index + j) ∧
          (first :: rest)[j]? = some other ∧ JustStarted now gap other := by
      intro hne
      have hrest : item ∈ rest := by
        rcases mem_cons.mp hmem with rfl | hrest
        · exact absurd rfl hne
        · exact hrest
      obtain ⟨j, other, hscan, hother, hjust⟩ :=
        ih (index + 1) (List.Pairwise.of_cons hsorted) hrest
      exact ⟨j + 1, other, by rw [hscan]; congr 1; omega, by simpa using hother, hjust⟩
    have hdelta : totalSeconds (first.scheduledAt - now) ≤ 0 := by
      rw [totalSeconds_neg, neg_nonpos, totalSeconds_nonneg]
      omega
    unfold gapAbsorbScan
    rw [if_neg (by linarith)]
    by_cases hold : totalSeconds (first.scheduledAt - now) < -gap
    · -- started too long ago, which `item` has not
      rw [if_pos hold]
      apply hnext
      rintro rfl
      rw [totalSeconds_neg] at hold
      linarith
    · rw [if_neg hold]
      by_cases hclosed : totalSeconds (first.scheduledAt - now) < 0 ∧ first.endsAt ≤ now
      · -- over already, which `item` is not
        rw [if_pos hclosed]
        apply hnext
        rintro rfl
        have hlt : first.scheduledAt < now := by
          by_contra hge
          have := totalSeconds_nonneg.mpr (show 0 ≤ first.scheduledAt - now by omega)
          linarith [hclosed.1]
        have := hopen hlt
        omega
      · rw [if_neg hclosed]
        refine ⟨0, first, rfl, rfl, by omega, ?_, ?_⟩
        · rw [totalSeconds_neg]
          linarith
        · intro hlt
          by_contra hend
          apply hclosed
          refine ⟨?_, by omega⟩
          rw [totalSeconds_neg, neg_lt_zero]
          by_contra hnonpos
          have hzero : 0 ≤ totalSeconds (first.scheduledAt - now) := by
            rw [totalSeconds_neg]
            linarith
          have := totalSeconds_nonneg.mp hzero
          omega

lemma current_of_first (hfirst : items.find? (ScheduleItem.covers now) = some item)
    (hairs : Airs lib maxDuration item (elapsedSeconds now item)) :
    ∃ index item, currentItemIndex items now = some index ∧ items[index]? = some item ∧
      Airs lib maxDuration item (elapsedSeconds now item) := by
  rcases find?_eq_some_iff_getElem.mp hfirst with ⟨hcovers, index, hlt, hget, hbefore⟩
  refine ⟨index, item, ?_, ?_, hairs⟩
  · refine findIdx?_eq_some_iff_getElem.mpr ⟨hlt, ?_, ?_⟩
    · rw [hget]
      exact hcovers
    · intro j hj
      simpa using hbefore j hj
  · rw [getElem?_eq_getElem hlt, hget]

/-- An open item that started inside the window is reached, if not as the
current item, then by the absorb scan. -/
lemma current_or_absorbed {gap : ℚ}
    (hsorted : items.Pairwise fun a b => a.scheduledAt ≤ b.scheduledAt) (hitem : item ∈ items)
    (hcovers : item.covers now = true)
    (hairs : Airs lib maxDuration item (elapsedSeconds now item)) (hgap : 0 < gap)
    (hwithin : totalSeconds (now - item.scheduledAt) ≤ gap)
    (hwhole : Airs lib maxDuration item 0)
    (hothers : ∀ other ∈ items, other ≠ item → JustStarted now gap other →
      Airs lib maxDuration other 0) :
    (∃ index item, currentItemIndex items now = some index ∧ items[index]? = some item ∧
      Airs lib maxDuration item (elapsedSeconds now item)) ∨
    (∃ index item, gapAbsorbCandidateIndex items now (currentItemIndex items now) gap =
      some index ∧ items[index]? = some item ∧ Airs lib maxDuration item 0) := by
  rcases covers_iff.mp hcovers with ⟨hstart, hend⟩
  rcases getElem_of_mem hitem with ⟨k, hk, rfl⟩
  cases hcurrent : currentItemIndex items now with
  | none =>
    have hnone := findIdx?_eq_none_iff.mp hcurrent _ hitem
    rw [hcovers] at hnone
    cases hnone
  | some index =>
    rcases findIdx?_eq_some_iff_getElem.mp hcurrent with ⟨hlt, -, hbefore⟩
    -- the current item is the first open one, so ours is it or comes later
    have hle : index ≤ k := by
      by_contra hlt'
      exact hbefore k (by omega) hcovers
    rcases Nat.lt_or_eq_of_le hle with hafter | rfl
    · right
      -- behind the current item: the absorb scan gets to it or stops at another one
      have hmem : items[k] ∈ items.drop (index + 1) := by
        rw [mem_drop_iff_getElem]
        exact ⟨k - (index + 1), by omega, by congr 1; omega⟩
      have hjust : JustStarted now gap items[k] := ⟨hstart, hwithin, fun _ => hend⟩
      obtain ⟨j, other, hscan, hother, hdue⟩ := gapAbsorbScan_finds hjust
        (items.drop (index + 1)) (index + 1) (hsorted.sublist (drop_sublist _ _)) hmem
      rw [getElem?_drop] at hother
      have hairs' : Airs lib maxDuration other 0 := by
        by_cases hsame : other = items[k]
        · rw [hsame]
          exact hwhole
        · exact hothers other (mem_of_getElem? hother) hsame hdue
      refine ⟨index + 1 + j, other, ?_, hother, hairs'⟩
      have hlog : ¬ items.all (fun i => now < i.scheduledAt) = true := by
        rw [all_eq_true]
        intro hall
        have := of_decide_eq_true (hall _ hitem)
        omega
      unfold gapAbsorbCandidateIndex
      rw [if_neg (not_le.mpr hgap), if_neg hlog, hscan]
    · left
      exact ⟨index, items[index], rfl, getElem?_eq_getElem hk, hairs⟩

lemma EgressSourcePlan.validated_ok {channelId : Text} {segments : List EgressSourceSegment}
    (hchannel : 1 ≤ channelId.length ∧ channelId.length ≤ 80) (hne : segments ≠ []) :
    EgressSourcePlan.validated { channelId := channelId, segments := segments } =
      .ok { channelId := channelId, segments := segments } := by
  have hlength : 1 ≤ segments.length := length_pos_iff.mpr hne
  unfold EgressSourcePlan.validated EgressSourcePlan.fieldErrors
  rw [if_pos hchannel, if_pos hlength]
  rfl

/-- While a playable item with media left is open, there is a plan if it is the
first open item, or if it started inside the absorb window and every other item
that did has media from its in-point on. -/
theorem plan_of_covering_item {channelId : Text} {options o : PlanOptions}
    (hoptions : options.checked = .ok o)
    (hchannel : 1 ≤ channelId.length ∧ channelId.length ≤ 80)
    (hresolve : ∀ i ∈ playableItems channelId items options.loopSchedule now, Resolves lib i)
    (hitem : item ∈ playableItems channelId items options.loopSchedule now)
    (hcovers : item.covers now = true)
    (hairs : Airs lib options.maxSegmentSeconds item (elapsedSeconds now item))
    (hwhere : (playableItems channelId items options.loopSchedule now).find?
        (ScheduleItem.covers now) = some item ∨
      (0 < options.gapAbsorbSeconds ∧
        totalSeconds (now - item.scheduledAt) ≤ options.gapAbsorbSeconds ∧
        ∀ other ∈ playableItems channelId items options.loopSchedule now, other ≠ item →
          JustStarted now options.gapAbsorbSeconds other →
            Airs lib options.maxSegmentSeconds other 0)) :
    ∃ plan, buildSourcePlanFromSchedule channelId items lib now options = .ok (some plan) := by
  rcases PlanOptions.checked_ok hoptions with ⟨hmax, hsegment, habsorb, hloop⟩
  have hsorted := playableItems_sorted channelId items options.loopSchedule now
  rw [← hloop] at hresolve hitem hwhere hsorted
  rw [← habsorb, ← hsegment] at hwhere
  rw [← hsegment] at hairs
  rcases planSegments_ok hmax hresolve now with ⟨segments, hsegments, hne⟩
  have hfound : segments ≠ [] := by
    rw [hne]
    rcases hwhere with hfirst | ⟨hgap, hwithin, hothers⟩
    · exact .inl (current_of_first hfirst hairs)
    · have hwhole :=
        hairs.from_start (hresolve item hitem) elapsedSeconds_nonneg hmax
      exact current_or_absorbed hsorted hitem hcovers hairs hgap hwithin hwhole hothers
  unfold buildSourcePlanFromSchedule
  rw [hoptions]
  change ∃ plan, (do
    let segments ← planSegments lib o (playableItems channelId items o.loopSchedule now) now
    if segments = [] then .ok none
    else
      let plan ← EgressSourcePlan.validated { channelId := channelId, segments := segments }
      .ok (some plan)) = .ok (some plan)
  rw [hsegments]
  change ∃ plan, (if segments = [] then .ok none
    else do
      let plan ← EgressSourcePlan.validated { channelId := channelId, segments := segments }
      .ok (some plan)) = .ok (some plan)
  rw [if_neg hfound, EgressSourcePlan.validated_ok hchannel hfound]
  exact ⟨_, rfl⟩

/-! Two rows open together: the first has ten seconds of media, the second
ninety. -/

def shortRow : ScheduleItem :=
  { id := "a".toList, channelId := "ch".toList, scheduledAt := 0, durationSeconds := some 100,
    assetId := "short".toList }

def longRow : ScheduleItem :=
  { id := "b".toList, channelId := "ch".toList, scheduledAt := microseconds 5,
    durationSeconds := some 95, assetId := "long".toList }

def clip (title : Text) (seconds : ℤ) : StaffAssetRow :=
  { title := title, state := .validated, filePath := some "clip.ts".toList,
    durationSeconds := some seconds, trimInSeconds := none, trimOutSeconds := none }

def twoClips : MediaLibrary where
  assetResolver id :=
    if id = "short".toList then some (clip "Short".toList 10)
    else if id = "long".toList then some (clip "Long".toList 90) else none
  expanduser p := p
  isFile _ := true
  mediaDurationResolver := none

lemma shortRow_resolves : ResolvesTo twoClips shortRow (clip "Short".toList 10) := by
  constructor <;> decide +kernel

lemma longRow_resolves : ResolvesTo twoClips longRow (clip "Long".toList 90) := by
  constructor <;> decide +kernel

lemma twoRows_playable :
    playableItems "ch".toList [shortRow, longRow] false (microseconds 50) =
      [shortRow, longRow] := by
  decide +kernel

lemma longRow_playable :
    longRow ∈ playableItems "ch".toList [shortRow, longRow] false (microseconds 50) := by
  rw [twoRows_playable]
  exact mem_cons_of_mem _ mem_cons_self

lemma twoRows_resolve :
    ∀ i ∈ playableItems "ch".toList [shortRow, longRow] false (microseconds 50),
      Resolves twoClips i := by
  rw [twoRows_playable]
  intro i hi
  simp only [mem_cons, not_mem_nil, or_false] at hi
  rcases hi with rfl | rfl
  · exact ⟨_, shortRow_resolves⟩
  · exact ⟨_, longRow_resolves⟩

/-- Fifty seconds in, forty-five into the second row, with room for that in the
absorb window. -/
theorem plan_of_covering_item_absorbed :
    ∃ plan, buildSourcePlanFromSchedule "ch".toList [shortRow, longRow] twoClips
      (microseconds 50) { gapAbsorbSeconds := 60 } = .ok (some plan) := by
  have hmax : ∀ m ∈ (none : Option ℚ), 0 < m := by simp
  have hairs : Airs twoClips none longRow (elapsedSeconds (microseconds 50) longRow) :=
    (segmentFromItem_spec longRow_resolves (by decide +kernel) hmax).1 (by decide +kernel)
  refine plan_of_covering_item rfl (by decide) twoRows_resolve longRow_playable (by decide) hairs
    (.inr ⟨by decide +kernel, by decide +kernel, ?_⟩)
  · rw [show playableItems "ch".toList [shortRow, longRow] _ _ = _ from twoRows_playable]
    intro other hother _ _
    simp only [mem_cons, not_mem_nil, or_false] at hother
    rcases hother with rfl | rfl
    · exact (segmentFromItem_spec shortRow_resolves (le_refl 0) hmax).1 (by decide +kernel)
    · exact (segmentFromItem_spec longRow_resolves (le_refl 0) hmax).1 (by decide +kernel)

/-- With the absorb window the station wires in, the same instant goes to slate
although the second row has half its media left. -/
theorem slate_while_item_has_media :
    ¬ ∀ (channelId : Text) (items : List ScheduleItem) (lib : MediaLibrary) (now : ℤ)
      (options o : PlanOptions), options.checked = .ok o →
      1 ≤ channelId.length ∧ channelId.length ≤ 80 →
      (∀ i ∈ playableItems channelId items options.loopSchedule now, Resolves lib i) →
      (∃ item ∈ playableItems channelId items options.loopSchedule now,
        item.covers now = true ∧
          Airs lib options.maxSegmentSeconds item (elapsedSeconds now item)) →
      ∃ plan, buildSourcePlanFromSchedule channelId items lib now options = .ok (some plan) := by
  intro h
  have hmax : ∀ m ∈ (none : Option ℚ), 0 < m := by simp
  have hairs : Airs twoClips none longRow (elapsedSeconds (microseconds 50) longRow) :=
    (segmentFromItem_spec longRow_resolves (by decide +kernel) hmax).1 (by decide +kernel)
  obtain ⟨plan, hplan⟩ := h "ch".toList [shortRow, longRow] twoClips (microseconds 50)
    { gapAbsorbSeconds := 30 } _ rfl (by decide) twoRows_resolve
    ⟨longRow, longRow_playable, by decide, hairs⟩
  have hslate : buildSourcePlanFromSchedule "ch".toList [shortRow, longRow] twoClips
      (microseconds 50) { gapAbsorbSeconds := 30 } = .ok none := by
    decide +kernel
  rw [hslate] at hplan
  cases hplan

end CivicCast.Egress
