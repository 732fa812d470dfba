import CivicCast.Egress.SourcePlan

/-!
# The missing-media list

`list_missing_media` joins the items of its horizon with their assets and lists those that are not
ready. It looks at items in state `scheduled`; what playout takes is `published`, by the
Commit-to-Air gate. So it lists no item that will air: the list is right about these exactly if
there is nothing to say about them (`missing_media_listed_iff`).
-/

namespace CivicCast.Schedule.MissingMedia

open Lib Egress Option

inductive FileStatus where
  | ok
  | missing
  | relinked
  deriving DecidableEq

/-- A row of `assets`: what the playout reads of it, and what the integrity scan wrote. -/
structure AssetRow extends StaffAssetRow where
  fileStatus : FileStatus
  deriving DecidableEq

structure Database where
  items : List ScheduleItem
  assets : Text → Option AssetRow
  ids : (items.map (·.id)).Nodup

inductive Reason where
  | gone
  | notReady (state : AssetState)
  | fileMissing
  deriving DecidableEq

def reason : Option AssetRow → Option Reason
  | none => some .gone
  | some asset =>
    if ¬ (asset.state = .validated ∨ asset.state = .recorded) then some (.notReady asset.state)
    else if asset.fileStatus = .missing then some .fileMissing
    else none

structure MissingMediaRow where
  scheduleId : Text
  assetId : Text
  assetTitle : Text
  channelId : Text
  scheduledStart : ℤ
  /-- `none` is `"unknown"`. -/
  assetState : Option AssetState
  reason : Reason
  deriving DecidableEq

/-- `_playable_items` has a place for the item on its own channel. -/
def WillAir (db : Database) (item : ScheduleItem) : Prop :=
  item ∈ playableItems item.channelId db.items false 0

/-- The row is missing, its state is not playable, or its file is marked missing. -/
def Refused (db : Database) (item : ScheduleItem) : Prop :=
  ∀ asset ∈ db.assets item.assetId, asset.state.playable = false ∨ asset.fileStatus = .missing

section List

variable (db : Database) (now : ℤ) (horizonDays : ℕ)

def InHorizon (item : ScheduleItem) : Prop :=
  now ≤ item.scheduledAt ∧ item.scheduledAt ≤ now + microseconds (86400 * horizonDays)

instance (item : ScheduleItem) : Decidable (InHorizon now horizonDays item) :=
  inferInstanceAs (Decidable (_ ∧ _))

def missingRow (item : ScheduleItem) : Option MissingMediaRow :=
  let asset := db.assets item.assetId
  (reason asset).map fun reason =>
    { scheduleId := item.id
      assetId := item.assetId
      assetTitle := (asset.map (·.title)).getD item.assetId
      channelId := item.channelId
      scheduledStart := item.scheduledAt
      assetState := asset.map (·.state)
      reason := reason }

def listMissingMedia : List MissingMediaRow :=
  (db.items.filter fun item => item.state = .scheduled ∧ InHorizon now horizonDays item).filterMap
    (missingRow db)

end List

variable {db : Database} {now : ℤ} {horizonDays : ℕ} {item : ScheduleItem}

lemma WillAir.published (h : WillAir db item) : item ∈ db.items ∧ item.state = .published := by
  have hmem := (sortItems_perm _).mem_iff.mp h
  have hplayable := List.of_mem_filter hmem
  simp only [ScheduleItem.playable, decide_eq_true_eq] at hplayable
  exact ⟨List.mem_of_mem_filter hmem, hplayable.2.1⟩

lemma listed_scheduled {row : MissingMediaRow} (h : row ∈ listMissingMedia db now horizonDays) :
    ∃ item ∈ db.items, item.state = .scheduled ∧ item.id = row.scheduleId := by
  obtain ⟨item, hitem, hrow⟩ := List.mem_filterMap.mp h
  obtain ⟨reason, _, rfl⟩ := map_eq_some_iff.mp hrow
  have hscheduled := List.of_mem_filter hitem
  rw [decide_eq_true_eq] at hscheduled
  exact ⟨item, List.mem_of_mem_filter hitem, hscheduled.1, rfl⟩

/-- `_segment_from_item` raises for such an asset, where the marks of the files are right. -/
lemma Refused.raises (h : Refused db item) {lib : MediaLibrary}
    (hrows : ∀ id, lib.assetResolver id = (db.assets id).map (·.toStaffAssetRow))
    (hmarks : ∀ id, ∀ asset ∈ db.assets id, asset.fileStatus = .missing →
      lib.isFile (lib.expanduser (asset.filePath.getD [])) = false) (elapsed : ℚ)
    (maxDuration : Option ℚ) : ∃ e, segmentFromItem lib item elapsed maxDuration = .error e := by
  unfold segmentFromItem
  rw [hrows]
  cases hasset : db.assets item.assetId with
  | none => exact ⟨_, rfl⟩
  | some asset =>
    dsimp only [map_some]
    split_ifs with hstate hpath hfile
    · exact ⟨_, rfl⟩
    · exact ⟨_, rfl⟩
    · exact ⟨_, rfl⟩
    all_goals
      rcases h asset hasset with hunready | hmissing
      · exact absurd hunready hstate
      · exact absurd (hmarks _ asset hasset hmissing) hfile

lemma WillAir.unlisted (h : WillAir db item) :
    ∀ row ∈ listMissingMedia db now horizonDays, row.scheduleId ≠ item.id := by
  intro row hrow hid
  obtain ⟨hitem, hpublished⟩ := h.published
  obtain ⟨other, hother, hscheduled, hotherId⟩ := listed_scheduled hrow
  have hsame := List.inj_on_of_nodup_map db.ids hother hitem (hotherId.trans hid)
  rw [hsame, hpublished] at hscheduled
  cases hscheduled

/-- The items of the horizon that will air and whose asset is not ready are in the list exactly if
there are none. -/
theorem missing_media_listed_iff (db : Database) (now : ℤ) (horizonDays : ℕ) :
    (∀ item ∈ db.items, InHorizon now horizonDays item → WillAir db item →
        Refused db item →
        ∃ row ∈ listMissingMedia db now horizonDays, row.scheduleId = item.id) ↔
      ∀ item ∈ db.items, InHorizon now horizonDays item → WillAir db item →
        ¬ Refused db item := by
  constructor
  · intro hlisted item hitem hhorizon hair hrefused
    obtain ⟨row, hrow, hid⟩ := hlisted item hitem hhorizon hair hrefused
    exact hair.unlisted row hrow hid
  · intro hready item hitem hhorizon hair hrefused
    exact absurd hrefused (hready item hitem hhorizon hair)

/-- One committed program, whose asset has been deleted. -/
def deletedAsset : Database where
  items :=
    [{ id := "i".toList, channelId := "gov".toList, scheduledAt := 0, durationSeconds := some 60 }]
  assets := fun _ => none
  ids := by simp

theorem deleted_asset_unlisted : ¬ ∀ (db : Database) (now : ℤ) (horizonDays : ℕ), ∀ item ∈ db.items,
    InHorizon now horizonDays item → WillAir db item → Refused db item →
      ∃ row ∈ listMissingMedia db now horizonDays, row.scheduleId = item.id := by
  intro h
  obtain ⟨row, hrow, _⟩ := h deletedAsset 0 7 _ List.mem_cons_self (by decide)
    (List.mem_cons_self) nofun
  cases hrow

end CivicCast.Schedule.MissingMedia
