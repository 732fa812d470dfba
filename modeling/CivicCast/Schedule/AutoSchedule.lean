import CivicCast.Egress.SourcePlan

/-!
# The auto-schedule compiler

`compile_rules` turns every enabled rule into `schedule_items`: the daypart block of the rule is
expanded into slots over its rolling window, each slot that is not occupied gets the asset that the
rule's saved search picks, and the item is written at the start of the slot, as long as the asset.

Instants are microseconds in UTC and days are numbered from 1970-01-01. A datetime in the
station's zone also carries its wall clock: two of these are compared by wall clock, as
`datetime` does. The database is SQLite's, which has no exclusion constraint, so that every
insert succeeds. A note that a compile has written is kept as what `json.loads` makes of it.
-/

namespace CivicCast.Schedule

open Lib Egress

/-! ## Wall clocks -/

def dayMicroseconds : ℤ := 86400000000

/-- `tzinfo`: the offset of a wall clock, for each `fold`, and the wall clock of an instant. -/
structure ZoneInfo where
  utcoffset : ℤ → Bool → ℤ
  wallClock : ℤ → ℤ

/-- `resolve_wall_clock`: the earlier instant that shows the wall clock. -/
def resolveWallClock (tz : ZoneInfo) (naive : ℤ) : Option ℤ :=
  let first := naive - tz.utcoffset naive false
  let second := naive - tz.utcoffset naive true
  match decide (tz.wallClock first = naive), decide (tz.wallClock second = naive) with
  | true, true => some (if first ≤ second then first else second)
  | true, false => some first
  | false, true => some second
  | false, false => none

/-- A zone in which a later wall clock is a later instant. -/
structure Zone extends ZoneInfo where
  ordered : ∀ {m n a b : ℤ}, resolveWallClock toZoneInfo m = some a →
    resolveWallClock toZoneInfo n = some b → m < n → a < b

/-- An aware `datetime`: in the station's zone, or in UTC (`wall = none`). -/
structure Stamp where
  utc : ℤ
  wall : Option ℤ
  deriving DecidableEq

namespace Stamp

/-- `a < b`. -/
def before (a b : Stamp) : Bool :=
  match a.wall, b.wall with
  | some x, some y => x < y
  | _, _ => a.utc < b.utc

def date (a : Stamp) : ℤ := a.wall.getD a.utc / dayMicroseconds

end Stamp

/-- `.astimezone(tz).date()`. -/
def localDate (tz : Zone) (instant : ℤ) : ℤ := tz.wallClock instant / dayMicroseconds

/-- `date.weekday()`; 1970-01-01 was a Thursday. -/
def weekday (day : ℤ) : ℤ := (day + 3) % 7

/-! ## Dayparts -/

structure ScheduleBlock where
  startMinute : ℕ
  endMinute : ℕ
  daysOfWeek : List ℤ
  activeFrom : Option ℤ
  activeUntil : Option ℤ
  enabled : Bool
  startMinute_lt : startMinute < 1440
  endMinute_pos : 0 < endMinute
  endMinute_le : endMinute ≤ 1440

structure SlotWindow where
  startsAt : Stamp
  endsAt : Stamp
  deriving DecidableEq

/-- The wall clock of a minute of a day. -/
def wallMicroseconds (day : ℤ) (minuteOfDay : ℕ) : ℤ :=
  day * dayMicroseconds + microseconds (60 * minuteOfDay)

def wallClock (tz : Zone) (day : ℤ) (minuteOfDay : ℕ) : Option Stamp :=
  (resolveWallClock tz.toZoneInfo (wallMicroseconds day minuteOfDay)).map fun utc =>
    ⟨utc, some (wallMicroseconds day minuteOfDay)⟩

def slotEnd (tz : Zone) (block : ScheduleBlock) (day : ℤ) : Option Stamp :=
  if block.endMinute ≤ block.startMinute then wallClock tz (day + 1) block.endMinute
  else if block.endMinute = 24 * 60 then wallClock tz (day + 1) 0
  else wallClock tz day block.endMinute

def daySlot (tz : Zone) (block : ScheduleBlock) (day : ℤ) : Option SlotWindow :=
  if weekday day ∉ block.daysOfWeek || block.activeFrom.any (day < ·)
      || block.activeUntil.any (· < day) then none
  else
    match wallClock tz day block.startMinute, slotEnd tz block day with
    | some startsAt, some endsAt => some ⟨startsAt, endsAt⟩
    | _, _ => none

def expandBlockSlots (tz : Zone) (block : ScheduleBlock) (startDate : ℤ) (numDays : ℕ) :
    List SlotWindow :=
  if !block.enabled || block.daysOfWeek.isEmpty then []
  else (List.range numDays).filterMap fun (offset : ℕ) => daySlot tz block (startDate + offset)

/-! ## Saved searches -/

inductive CustomFieldOp where
  | eq
  | numRange
  | dateRange
  deriving DecidableEq

structure CustomFieldPredicate where
  key : Text
  op : CustomFieldOp
  value : Option Text
  numMin : Option ℚ
  numMax : Option ℚ
  dateMin : Option ℤ
  dateMax : Option ℤ
  deriving DecidableEq

/-- A row of `custom_field_values` with the definition it is joined to. -/
structure CustomFieldValue where
  key : Text
  searchable : Bool
  value : Text
  valueNum : Option ℚ
  valueDate : Option ℤ
  deriving DecidableEq

structure Asset where
  assetId : Text
  title : Text
  meetingBody : Option Text
  state : AssetState
  durationSeconds : Option ℤ
  publishedAt : Option ℤ
  customFields : List CustomFieldValue
  deriving DecidableEq

inductive OrderBy where
  | publishedAt
  | title
  | durationSeconds
  deriving DecidableEq

structure AssetQuery where
  meetingBody : Option Text := none
  titleContains : Option Text := none
  states : List AssetState := []
  minDurationSeconds : Option ℤ := none
  maxDurationSeconds : Option ℤ := none
  publishedAfter : Option ℤ := none
  publishedBefore : Option ℤ := none
  customFields : List CustomFieldPredicate := []
  orderBy : OrderBy := .publishedAt
  orderDesc : Bool := true
  deriving DecidableEq

/-- A bound that is set holds of a column that is not null. -/
def bounded {α : Type} (bound column : Option α) (holds : α → α → Bool) : Bool :=
  bound.all fun b => column.any (holds b)

/-- `_custom_field_exists`. -/
def CustomFieldPredicate.exists_ (pred : CustomFieldPredicate) (asset : Asset) : Bool :=
  asset.customFields.any fun v => v.key = pred.key && v.searchable &&
    match pred.op with
    | .eq => pred.value = some v.value
    | .numRange => bounded pred.numMin v.valueNum (· ≤ ·) && bounded pred.numMax v.valueNum (· ≥ ·)
    | .dateRange =>
      bounded pred.dateMin v.valueDate (· ≤ ·) && bounded pred.dateMax v.valueDate (· ≥ ·)

/-- `lower()` of SQLite. -/
def asciiLower (t : Text) : Text := t.map Char.toLower

/-- `_apply_filters`. -/
def AssetQuery.matches_ (query : AssetQuery) (asset : Asset) : Bool :=
  query.meetingBody.all (fun body => asset.meetingBody = some body) &&
  query.titleContains.all (fun term =>
    (asciiLower asset.title).tails.any (asciiLower term).isPrefixOf) &&
  (query.states.isEmpty || asset.state ∈ query.states) &&
  bounded query.minDurationSeconds asset.durationSeconds (· ≤ ·) &&
  bounded query.maxDurationSeconds asset.durationSeconds (· ≥ ·) &&
  bounded query.publishedAfter asset.publishedAt (· ≤ ·) &&
  bounded query.publishedBefore asset.publishedAt (fun bound at_ => at_ < bound) &&
  query.customFields.all (·.exists_ asset)

def compareText : Text → Text → Ordering
  | [], [] => .eq
  | [], _ :: _ => .lt
  | _ :: _, [] => .gt
  | a :: as, b :: bs => (compare a.toNat b.toNat).then (compareText as bs)

/-- One `ORDER BY` column, with `NULLS LAST`. -/
def compareColumn {α : Type} (cmp : α → α → Ordering) (desc : Bool) :
    Option α → Option α → Ordering
  | none, none => .eq
  | none, some _ => .gt
  | some _, none => .lt
  | some a, some b => if desc then cmp b a else cmp a b

/-- `_apply_query_order`, with the tie-break on `asset_id`. -/
def AssetQuery.compare_ (query : AssetQuery) (a b : Asset) : Ordering :=
  let column := match query.orderBy with
    | .publishedAt => compareColumn compare query.orderDesc a.publishedAt b.publishedAt
    | .title => compareColumn compareText query.orderDesc (some a.title) (some b.title)
    | .durationSeconds => compareColumn compare query.orderDesc a.durationSeconds b.durationSeconds
  column.then (compareText a.assetId b.assetId)

inductive PickStrategy where
  | topResult
  | randomResult
  | newest
  deriving DecidableEq

def maxResultLimit : ℕ := 1000

/-- `ORDER BY`. -/
def sortAssets (cmp : Asset → Asset → Ordering) (assets : List Asset) : List Asset :=
  assets.insertionSort fun a b => (cmp a b).isLE

/-- `pick_asset`; `draw` is what the generator makes of the length of its list. -/
def pickAsset (assets : List Asset) (query : AssetQuery) (strategy : PickStrategy) (draw : ℕ)
    (excluded : List Text) : Option Asset :=
  let base := assets.filter fun a => query.matches_ a && a.assetId ∉ excluded
  match strategy with
  | .topResult => (sortAssets query.compare_ base).head?
  | .newest =>
    (sortAssets (fun a b => (compareColumn compare true a.publishedAt b.publishedAt).then
      (compareText a.assetId b.assetId)) base).head?
  | .randomResult =>
    let candidates := (sortAssets query.compare_ base).take maxResultLimit
    candidates[draw % candidates.length]?

/-! ## Rules and items -/

structure AutoScheduleRule where
  ruleId : Text
  savedSearchId : Text
  channelId : Text
  scheduleBlockId : Text
  pickStrategy : PickStrategy
  rollingWindowDays : ℕ
  repeatPreventionDays : ℕ
  priority : ℕ
  enabled : Bool
  lastMaterializedAt : Option ℤ
  deriving DecidableEq

/-- `notes`: what a compile has written about its item, or anything else. -/
inductive Note where
  | provenance (ruleId : Text) (day : ℤ)
  | text (t : Text)
  deriving DecidableEq

/-- A row of `schedule_items`. -/
structure ItemRow where
  assetId : Text
  channelId : Text
  mode : ScheduleMode
  state : ScheduleState
  scheduledAt : ℤ
  scheduledAtEnd : Option ℤ
  durationSeconds : Option ℤ
  notes : Option Note
  deriving DecidableEq

/-- What a compile reads and does not change. -/
structure Station where
  assets : List Asset
  searches : Text → Option AssetQuery
  blocks : Text → Option ScheduleBlock
  tz : Zone
  now : ℤ
  /-- What the generator draws for a slot of a rule. -/
  draw : Text → ℤ → ℕ

structure Database where
  items : List ItemRow
  rules : List AutoScheduleRule

def minDurationSeconds : ℤ := 1
def maxDurationSeconds : ℤ := 1209600
def maxCompileRules : ℕ := 500

/-- `list_auto_schedule_rules(enabled_only=True, limit=_MAX_COMPILE_RULES)`. -/
def Database.listAutoScheduleRules (db : Database) : List AutoScheduleRule :=
  ((db.rules.filter (·.enabled)).insertionSort fun a b =>
    (((compareText a.channelId b.channelId).then (compare a.priority b.priority)).then
      (compareText a.ruleId b.ruleId)).isLE).take maxCompileRules

/-! ## Occupancy -/

def overlaps (intervals : List (Stamp × Stamp)) (start end_ : Stamp) : Bool :=
  intervals.any fun i => i.1.before end_ && start.before i.2

/-- The item keeps its channel busy: it is not cancelled, and it has an end. -/
def ItemRow.busy (i : ItemRow) (channelId : Text) : Option (ℤ × ℤ) :=
  if i.channelId = channelId ∧ i.state ≠ .cancelled then i.scheduledAtEnd.map (i.scheduledAt, ·)
  else none

def seedOccupied (items : List ItemRow) (channelId : Text) (horizonStart horizonEnd : ℤ) :
    List (Stamp × Stamp) :=
  ((items.filterMap (·.busy channelId)).filter fun b => b.1 < horizonEnd && horizonStart < b.2).map
    fun b => (⟨b.1, none⟩, ⟨b.2, none⟩)

def provenanceDays (tz : Zone) (items : List ItemRow) (rule : AutoScheduleRule) : List ℤ :=
  items.filterMap fun i =>
    match i.notes with
    | some (.provenance ruleId day) =>
      if i.channelId = rule.channelId ∧ ruleId = rule.ruleId then
        some (if day ≤ localDate tz i.scheduledAt then localDate tz i.scheduledAt else day)
      else none
    | _ => none

/-- The zone in which a wall clock is the instant. -/
def utc : Zone where
  utcoffset := fun _ _ => 0
  wallClock := id
  ordered := by
    intro m n a b hm hn hlt
    simp only [resolveWallClock, id, sub_zero, decide_true, le_refl, if_true] at hm hn
    cases hm
    cases hn
    exact hlt

/-- The days of the items that an earlier release wrote, in UTC and without a note. -/
def legacyDays (tz : Zone) (items : List ItemRow) (rule : AutoScheduleRule)
    (block : ScheduleBlock) : List ℤ :=
  match rule.lastMaterializedAt with
  | none => []
  | some last =>
    let expected := (expandBlockSlots utc block (localDate utc last) rule.rollingWindowDays).map
      (·.startsAt.utc)
    (items.filter fun i => i.channelId = rule.channelId && i.notes = none && i.state = .published &&
        i.scheduledAt ∈ expected).map fun i =>
      if localDate utc i.scheduledAt ≤ localDate tz i.scheduledAt then localDate tz i.scheduledAt
      else localDate utc i.scheduledAt

def protectedThrough (tz : Zone) (items : List ItemRow) (rule : AutoScheduleRule)
    (block : ScheduleBlock) : Option ℤ :=
  (provenanceDays tz items rule ++ legacyDays tz items rule block).foldl
    (fun latest day => some (latest.elim day fun l => if l ≤ day then day else l)) none

/-- `(a + delta).astimezone(UTC)`: the wall clock is moved, and `fold` is lost. -/
def Stamp.shift (tz : Zone) (a : Stamp) (delta : ℤ) : ℤ :=
  let naive := a.wall.getD a.utc + delta
  naive - tz.utcoffset naive false

def repeatPreventionAssetIds (tz : Zone) (items : List ItemRow) (channelId : Text)
    (windowStart windowEnd : Stamp) (repeatPreventionDays : ℕ) : List Text :=
  if repeatPreventionDays = 0 then []
  else
    let margin := repeatPreventionDays * dayMicroseconds
    (items.filter fun i => i.channelId = channelId &&
      windowStart.shift tz (-margin) ≤ i.scheduledAt &&
      i.scheduledAt < windowEnd.shift tz margin && i.state ≠ .cancelled).map (·.assetId)

/-! ## Planning a rule -/

inductive SlotAction where
  | fill (assetId title : Text) (durationSeconds : ℤ)
  | occupied
  | noAsset
  | unplayable (assetId title : Text)
  deriving DecidableEq

structure SlotDecision where
  startsAt : Stamp
  endsAt : Stamp
  action : SlotAction
  deriving DecidableEq

/-- What the planner knows of a rule before its slots. -/
structure RulePlan where
  rule : AutoScheduleRule
  query : AssetQuery
  protectedThrough : Option ℤ
  recent : List Text

variable (st : Station)

def resolveSlot (p : RulePlan) (occupied : List (Stamp × Stamp)) (runExcluded : List Text)
    (slot : SlotWindow) : SlotAction :=
  if p.protectedThrough.any (slot.startsAt.date ≤ ·) || overlaps occupied slot.startsAt slot.endsAt
  then .occupied
  else
    match pickAsset st.assets p.query p.rule.pickStrategy
        (st.draw p.rule.ruleId slot.startsAt.utc) (p.recent ++ runExcluded) with
    | none => .noAsset
    | some asset =>
      match asset.durationSeconds with
      | none => .unplayable asset.assetId asset.title
      | some duration =>
        if minDurationSeconds ≤ duration ∧ duration ≤ maxDurationSeconds then
          .fill asset.assetId asset.title duration
        else .unplayable asset.assetId asset.title

/-- The loop of `plan_rule_slots`. -/
def planLoop (p : RulePlan) (occupied : List (Stamp × Stamp)) (runExcluded : List Text) :
    List SlotWindow → List SlotDecision
  | [] => []
  | slot :: slots =>
    let action := resolveSlot st p occupied runExcluded slot
    ⟨slot.startsAt, slot.endsAt, action⟩ ::
      match action with
      | .fill assetId _ _ =>
        planLoop p (occupied ++ [(slot.startsAt, slot.endsAt)])
          (if 0 < p.rule.repeatPreventionDays then runExcluded ++ [assetId] else runExcluded) slots
      | _ => planLoop p occupied runExcluded slots

def ruleSlots (rule : AutoScheduleRule) (block : ScheduleBlock) : List SlotWindow :=
  expandBlockSlots st.tz block (localDate st.tz st.now) rule.rollingWindowDays

/-- What a rule starts from, over the horizon from its first slot to its last. -/
def rulePlan (items : List ItemRow) (rule : AutoScheduleRule) (query : AssetQuery)
    (block : ScheduleBlock) (first last : SlotWindow) : RulePlan where
  rule := rule
  query := query
  protectedThrough := protectedThrough st.tz items rule block
  recent := repeatPreventionAssetIds st.tz items rule.channelId first.startsAt last.endsAt
    rule.repeatPreventionDays

def planRuleSlots (items : List ItemRow) (rule : AutoScheduleRule) (query : AssetQuery)
    (block : ScheduleBlock) : List SlotDecision :=
  let slots := ruleSlots st rule block
  match slots.head?, slots.getLast? with
  | some first, some last =>
    planLoop st (rulePlan st items rule query block first last)
      (seedOccupied items rule.channelId first.startsAt.utc last.endsAt.utc) [] slots
  | _, _ => []

/-! ## Writing -/

def fillItem (rule : AutoScheduleRule) (startsAt : Stamp) (assetId : Text) (duration : ℤ) :
    ItemRow where
  assetId := assetId
  channelId := rule.channelId
  mode := .premiere
  state := .published
  scheduledAt := startsAt.utc
  scheduledAtEnd := some (startsAt.utc + microseconds duration)
  durationSeconds := some duration
  notes := some (.provenance rule.ruleId startsAt.date)

def SlotDecision.item (rule : AutoScheduleRule) (d : SlotDecision) : Option ItemRow :=
  match d.action with
  | .fill assetId _ duration => some (fillItem rule d.startsAt assetId duration)
  | _ => none

structure RuleMaterializeResult where
  ruleId : Text
  channelId : Text
  slotsConsidered : ℕ := 0
  filled : List (ℤ × Text) := []
  skippedOccupied : ℕ := 0
  skippedNoAsset : ℕ := 0
  skippedUnplayable : ℕ := 0
  missingDependency : Bool := false
  deriving DecidableEq

/-- `_materialize_rule`: the items it adds, and what it reports. -/
def materializeRule (items : List ItemRow) (rule : AutoScheduleRule) (query : AssetQuery)
    (block : ScheduleBlock) : List ItemRow × RuleMaterializeResult :=
  let decisions := planRuleSlots st items rule query block
  let added := decisions.filterMap (·.item rule)
  (added,
    { ruleId := rule.ruleId
      channelId := rule.channelId
      slotsConsidered := decisions.length
      filled := added.map fun i => (i.scheduledAt, i.assetId)
      skippedOccupied := decisions.countP (·.action = .occupied)
      skippedNoAsset := decisions.countP (·.action = .noAsset)
      skippedUnplayable := decisions.countP fun d => d.action matches .unplayable _ _ })

/-- `upsert_auto_schedule_rule` of a rule that is there. -/
def Database.upsertRule (db : Database) (rule : AutoScheduleRule) : Database :=
  { db with rules := db.rules.map fun r => if r.ruleId = rule.ruleId then rule else r }

def compileRule (db : Database) (rule : AutoScheduleRule) : Database × RuleMaterializeResult :=
  match st.searches rule.savedSearchId, st.blocks rule.scheduleBlockId with
  | some query, some block =>
    let (added, result) := materializeRule st db.items rule query block
    let stamped := { rule with lastMaterializedAt := some st.now }
    ({ db with items := db.items ++ added }.upsertRule stamped, result)
  | _, _ => (db, { ruleId := rule.ruleId, channelId := rule.channelId, missingDependency := true })

/-- The loop of `_compile_rules`. -/
def compileLoop (db : Database) :
    List AutoScheduleRule → Database × List RuleMaterializeResult
  | [] => (db, [])
  | rule :: rules =>
    let (db, result) := compileRule st db rule
    let (db, results) := compileLoop db rules
    (db, result :: results)

def compileRules (db : Database) : Database × List RuleMaterializeResult :=
  compileLoop st db db.listAutoScheduleRules

end CivicCast.Schedule
