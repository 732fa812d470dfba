import CivicCast.Reporting.Shares

/-! # The staff and the public as-run report

Both reports list the same rows of the ledger. The staff report then gives every row its
airtime in the window in place of the stored duration, and the public report shows the stored
one. `reports_agree_iff` says on which ledgers they tell the same: where no listed row is open,
cut off by the window or overtaken by a later row, or where the duration stored of such a row
happens to be what is left of it.
-/

namespace CivicCast.Reporting

/-! ## The queries -/

def onChannel (channelId : Option String) (row : AsRunLogEntry) : Bool :=
  channelId.all fun channel => row.channelId = channel

/-- `list_as_run` over a window, without a `source_kind`. -/
def ReportingStore.listAsRun (ledger : Ledger) (stationId : String) (channelId : Option String)
    (fromTs toTs now : Instant) : List AsRunLogEntry :=
  (ledger.rows.filter fun row =>
    row.stationId = stationId && (!openAiring row || row.actualStart < now) &&
      onChannel channelId row &&
      ((!openAiring row && fromTs < row.actualEnd) ||
        (openAiring row && row.actualStart < now && fromTs < now)) &&
      row.actualStart < toTs).insertionSort
    fun a b => a.actualStart < b.actualStart ∨
      (a.actualStart = b.actualStart ∧ a.entryId ≤ b.entryId)

namespace ReportingService

structure AsRunReportRow where
  entry : AsRunLogEntry
  category : Option String
deriving DecidableEq

structure AsRunReport where
  stationId : String
  fromTs : Instant
  toTs : Instant
  channelId : Option String
  fieldKey : Option String
  rows : List AsRunReportRow
deriving DecidableEq

/-- The airtimes the staff report reads in a query of its own, by entry id. -/
def airtimes (d : Dialect) (ledger : Ledger) (stationId : String) (channelId : Option String)
    (fromTs toTs now : Instant) : List (String × Int) :=
  (ledger.rows.filter fun row =>
    row.stationId = stationId && row.actualStart < toTs &&
      ((!openAiring row && fromTs < row.actualEnd) ||
        (openAiring row && row.actualStart < now && fromTs < now)) &&
      onChannel channelId row).map fun row =>
    (row.entryId, windowAirtime d ledger.rows fromTs toTs now row)

/-- The category of an entry: the value of the field for its asset. -/
def categoryFor (fields : CustomFields) (fieldKey : Option String) (entry : AsRunLogEntry) :
    Option String :=
  fieldKey.bind fun key => (fields.fieldId key).bind fun fieldId =>
    entry.assetId.bind fun assetId => fields.value assetId fieldId

/-- `as_run_report`; `none` is a `KeyError`, where an entry has no airtime. -/
def asRunReport (d : Dialect) (fields : CustomFields) (ledger : Ledger) (stationId : String)
    (channelId fieldKey : Option String) (fromTs toTs now : Instant) : Option AsRunReport := do
  let entries := ReportingStore.listAsRun ledger stationId channelId fromTs toTs now
  let timed ← entries.mapM fun entry =>
    ((airtimes d ledger stationId channelId fromTs toTs now).lookup entry.entryId).map
      fun airtime => { entry with durationS := airtime }
  return {
    stationId := stationId
    fromTs := fromTs
    toTs := toTs
    channelId := channelId
    fieldKey := fieldKey
    rows := timed.map fun entry =>
      { entry := entry, category := categoryFor fields fieldKey entry } }

structure PublicAsRunLogEntry where
  entryId : String
  stationId : String
  channelId : String
  scheduleItemId : Option String
  assetId : Option String
  scheduledStart : Option Instant
  actualStart : Instant
  actualEnd : Instant
  durationS : Int
  sourceKind : SourceKind
deriving DecidableEq

structure PublicAsRunReportRow where
  entry : PublicAsRunLogEntry
  category : Option String
deriving DecidableEq

structure PublicAsRunReport where
  stationId : String
  fromTs : Instant
  toTs : Instant
  channelId : Option String
  rows : List PublicAsRunReportRow
deriving DecidableEq

def publicEntry (entry : AsRunLogEntry) : PublicAsRunLogEntry where
  entryId := entry.entryId
  stationId := entry.stationId
  channelId := entry.channelId
  scheduleItemId := entry.scheduleItemId
  assetId := entry.assetId
  scheduledStart := entry.scheduledStart
  actualStart := entry.actualStart
  actualEnd := entry.actualEnd
  durationS := entry.durationS
  sourceKind := entry.sourceKind

def publicAsRunReport (ledger : Ledger) (stationId : String) (channelId : Option String)
    (fromTs toTs now : Instant) : PublicAsRunReport where
  stationId := stationId
  fromTs := fromTs
  toTs := toTs
  channelId := channelId
  rows := (ReportingStore.listAsRun ledger stationId channelId fromTs toTs now).map fun entry =>
    { entry := publicEntry entry, category := none }

end ReportingService

open ReportingService List

/-! ## What the reports agree on -/

/-- What a staff report shows of the public shape. -/
def publicView (report : AsRunReport) : PublicAsRunReport where
  stationId := report.stationId
  fromTs := report.fromTs
  toTs := report.toTs
  channelId := report.channelId
  rows := report.rows.map fun row => { entry := publicEntry row.entry, category := row.category }

/-- The staff report is made, and shows in the public shape what the public one does. -/
def ReportsAgree (d : Dialect) (fields : CustomFields) (ledger : Ledger) (stationId : String)
    (channelId : Option String) (fromTs toTs now : Instant) : Prop :=
  (asRunReport d fields ledger stationId channelId none fromTs toTs now).map publicView =
    some (publicAsRunReport ledger stationId channelId fromTs toTs now)

/-- The row is closed and lies in the window, and no row that follows begins before it
ends. -/
def Uncut (rows : List AsRunLogEntry) (fromTs toTs : Instant) (row : AsRunLogEntry) : Prop :=
  openAiring row = false ∧ fromTs ≤ row.actualStart ∧ row.actualStart < row.actualEnd ∧
    row.actualEnd ≤ toTs ∧
    ∀ later ∈ rows, follows row later = true → row.actualEnd ≤ later.actualStart

/-- The duration stored of a row is that of its share, as the database counts seconds. -/
def StoredAsShared (d : Dialect) (rows : List AsRunLogEntry) (fromTs toTs now : Instant)
    (row : AsRunLogEntry) : Prop :=
  ∃ lo hi, lo ≤ hi ∧ share rows fromTs toTs now row = Set.Ico lo hi ∧
    row.durationS = d.seconds (hi - lo)

section Rows

variable {d : Dialect} {fields : CustomFields} {ledger : Ledger} {rows : List AsRunLogEntry}
  {row : AsRunLogEntry} {stationId : String} {channelId : Option String}
  {fromTs toTs now : Instant}

/-- A row that is not cut keeps the air as long as recorded. -/
lemma share_of_uncut (h : Uncut rows fromTs toTs row) :
    share rows fromTs toTs now row = Set.Ico row.actualStart row.actualEnd := by
  rcases h with ⟨hclosed, hfrom, _, hto, hnext⟩
  ext t
  show (t ∈ Set.Ico fromTs toTs ∧ _) ↔ _
  rw [ending, hclosed, Set.mem_Ico, Set.mem_Ico]
  constructor
  · rintro ⟨_, hbegun, hends, _⟩
    exact ⟨hbegun, hends⟩
  · rintro ⟨hbegun, hends⟩
    refine ⟨⟨hfrom.trans hbegun, lt_of_lt_of_le hends hto⟩, hbegun, hends, ?_⟩
    intro later hlater hfollows
    exact lt_of_lt_of_le hends (hnext later hlater hfollows)

lemma uncut_of_share {lo hi : Instant} (hlt : lo < hi)
    (hshare : share rows fromTs toTs now row = Set.Ico lo hi) (hwhole : ¬ CutOff row lo hi) :
    Uncut rows fromTs toTs row := by
  rcases share_ends hlt hshare with ⟨hlo, hhi⟩
  simp only [CutOff, not_or, not_ne_iff] at hwhole
  rcases hwhole with ⟨hclosed, rfl, rfl⟩
  refine ⟨by simpa using hclosed, max_eq_left_iff.mp hlo, hlt, ?_, ?_⟩
  · rw [← hhi]
    exact windowEnd_le_to
  · intro later hlater hfollows
    rw [← hhi]
    exact windowEnd_le_later hlater hfollows

lemma seconds_zero (d : Dialect) : d.seconds 0 = 0 := by
  cases d <;> decide

/-- The duration stored of a row is its airtime exactly where the row is not cut, or its
duration happens to be that of its share. -/
lemma windowAirtime_eq_stored_iff : windowAirtime d rows fromTs toTs now row = row.durationS ↔
    Uncut rows fromTs toTs row ∨ StoredAsShared d rows fromTs toTs now row := by
  rcases exists_share rows fromTs toTs now row with ⟨lo, hi, hle, hshare⟩
  have hstored : StoredAsShared d rows fromTs toTs now row ↔
      row.durationS = d.seconds (hi - lo) := by
    constructor
    · rintro ⟨lo', hi', hle', hshare', hduration⟩
      rw [hshare] at hshare'
      rw [hduration]
      rcases lt_or_eq_of_le hle with hlt | rfl
      · rcases (Set.Ico_eq_Ico_iff (.inl hlt)).mp hshare' with ⟨rfl, rfl⟩
        rfl
      · rcases lt_or_eq_of_le hle' with hlt' | rfl
        · rcases (Set.Ico_eq_Ico_iff (.inr hlt')).mp hshare' with ⟨rfl, rfl⟩
          rfl
        · rw [sub_self, sub_self]
    · intro h
      exact ⟨lo, hi, hle, hshare, h⟩
  rw [hstored]
  rcases lt_or_eq_of_le hle with hlt | rfl
  · by_cases hcut : CutOff row lo hi
    · rw [windowAirtime_of_cutOff hlt hshare hcut]
      -- a row with its full share is not cut off
      have hnot : ¬ Uncut rows fromTs toTs row := by
        intro huncut
        rw [share_of_uncut huncut] at hshare
        rcases (Set.Ico_eq_Ico_iff (.inr hlt)).mp hshare with ⟨rfl, rfl⟩
        rcases hcut with hopen | hstart | hend
        · rw [huncut.1] at hopen
          cases hopen
        · exact hstart rfl
        · exact hend rfl
      rw [or_iff_right hnot]
      exact eq_comm
    · rw [windowAirtime_of_whole hlt hshare hcut]
      exact iff_of_true rfl (.inl (uncut_of_share hlt hshare hcut))
  · -- the share is empty
    have hnot : ¬ Uncut rows fromTs toTs row := by
      intro huncut
      rw [share_of_uncut huncut, Set.Ico_self, Set.Ico_eq_empty_iff] at hshare
      exact hshare huncut.2.2.1
    rw [windowAirtime_of_empty hshare, or_iff_right hnot, sub_self, seconds_zero]
    exact eq_comm

/-! ## The reports -/

lemma lookup_map_of_mem {α β : Type} {κ : Type} [BEq κ] [LawfulBEq κ] {key : α → κ}
    {value : α → β} {as : List α} {a : α} (hkeys : (as.map key).Nodup) (ha : a ∈ as) :
    (as.map fun a => (key a, value a)).lookup (key a) = some (value a) := by
  induction as with
  | nil => cases ha
  | cons b rest ih =>
    rw [map_cons, nodup_cons] at hkeys
    rcases mem_cons.mp ha with rfl | hrest
    · simp
    · have hne : key a ≠ key b := by
        intro heq
        exact hkeys.1 (heq ▸ mem_map_of_mem hrest)
      rw [map_cons, lookup_cons, beq_eq_false_iff_ne.mpr hne]
      exact ih hkeys.2 hrest

/-- The second query finds the airtime of every entry of the first. -/
lemma airtimes_lookup
    (h : row ∈ ReportingStore.listAsRun ledger stationId channelId fromTs toTs now) :
    (airtimes d ledger stationId channelId fromTs toTs now).lookup row.entryId =
      some (windowAirtime d ledger.rows fromTs toTs now row) := by
  unfold ReportingStore.listAsRun at h
  rw [mem_insertionSort, mem_filter] at h
  rcases h with ⟨hmem, hlisted⟩
  apply lookup_map_of_mem
  · exact ledger.nodup.sublist (filter_sublist.map _)
  · apply mem_filter.mpr
    refine ⟨hmem, ?_⟩
    simp only [Bool.and_eq_true] at hlisted ⊢
    tauto

lemma mapM_eq_some_map {α β : Type} {f : α → Option β} {g : α → β} {as : List α}
    (h : ∀ a ∈ as, f a = some (g a)) : as.mapM f = some (as.map g) := by
  induction as with
  | nil => rfl
  | cons a rest ih =>
    rw [mapM_cons, h a mem_cons_self, ih fun b hb => h b (mem_cons_of_mem _ hb)]
    rfl

/-- The staff report is always made: the listed entries, each with its airtime. -/
lemma asRunReport_eq (d : Dialect) (fields : CustomFields) (ledger : Ledger)
    (stationId : String) (channelId fieldKey : Option String) (fromTs toTs now : Instant) :
    asRunReport d fields ledger stationId channelId fieldKey fromTs toTs now =
      some {
        stationId := stationId
        fromTs := fromTs
        toTs := toTs
        channelId := channelId
        fieldKey := fieldKey
        rows := (ReportingStore.listAsRun ledger stationId channelId fromTs toTs now).map
          fun entry =>
            { entry := { entry with
                durationS := windowAirtime d ledger.rows fromTs toTs now entry }
              category := categoryFor fields fieldKey entry } } := by
  have htimed : (ReportingStore.listAsRun ledger stationId channelId fromTs toTs now).mapM
      (fun entry => ((airtimes d ledger stationId channelId fromTs toTs now).lookup
        entry.entryId).map fun airtime => { entry with durationS := airtime }) =
      some ((ReportingStore.listAsRun ledger stationId channelId fromTs toTs now).map
        fun entry => { entry with
          durationS := windowAirtime d ledger.rows fromTs toTs now entry }) := by
    apply mapM_eq_some_map
    intro entry hentry
    rw [airtimes_lookup hentry]
    rfl
  unfold asRunReport
  dsimp only
  rw [htimed]
  simp only [Option.bind_eq_bind, Option.bind_some, Option.pure_def, map_map]
  rfl

/-- The reports agree exactly where every listed row is closed, lies in the window and is
not overtaken, or has in the ledger the duration of its share. -/
theorem reports_agree_iff (d : Dialect) (fields : CustomFields) (ledger : Ledger)
    (stationId : String) (channelId : Option String) (fromTs toTs now : Instant) :
    ReportsAgree d fields ledger stationId channelId fromTs toTs now ↔
      ∀ row ∈ ReportingStore.listAsRun ledger stationId channelId fromTs toTs now,
        Uncut ledger.rows fromTs toTs row ∨
          StoredAsShared d ledger.rows fromTs toTs now row := by
  have hrow : ∀ row : AsRunLogEntry,
      publicEntry { row with durationS := windowAirtime d ledger.rows fromTs toTs now row } =
          publicEntry row ↔
        Uncut ledger.rows fromTs toTs row ∨
          StoredAsShared d ledger.rows fromTs toTs now row := by
    intro row
    rw [← windowAirtime_eq_stored_iff]
    constructor
    · intro h
      exact congrArg PublicAsRunLogEntry.durationS h
    · intro h
      rw [h]
  unfold ReportsAgree
  rw [asRunReport_eq, Option.map_some, Option.some_inj]
  simp only [publicView, publicAsRunReport, PublicAsRunReport.mk.injEq, map_map, true_and]
  rw [map_inj_left]
  apply forall₂_congr
  intro row _
  rw [← hrow]
  simp only [Function.comp, PublicAsRunReportRow.mk.injEq, categoryFor, Option.bind_none, and_true]

end Rows

/-! ## An open row -/

/-- A program that has been on air for a minute. -/
def onAirNow : Ledger where
  rows := [airedProgram "a" 0 0]
  nodup := by decide

def noFields : CustomFields where
  fieldId := fun _ => none
  value := fun _ _ => none

/-- The staff report gives it the minute, and the public one nothing. -/
theorem onAirNow_reports_differ :
    ¬ ∀ (d : Dialect) (fields : CustomFields) (ledger : Ledger) (stationId : String)
      (channelId : Option String) (fromTs toTs now : Instant),
      ReportsAgree d fields ledger stationId channelId fromTs toTs now := by
  intro h
  have hagree := h .postgresql noFields onAirNow "station" none 0 3600000000 60000000
  have hdiffer : (asRunReport .postgresql noFields onAirNow "station" none none
      0 3600000000 60000000).map publicView ≠
        some (publicAsRunReport onAirNow "station" none 0 3600000000 60000000) := by
    decide +kernel
  exact hdiffer hagree

end CivicCast.Reporting
