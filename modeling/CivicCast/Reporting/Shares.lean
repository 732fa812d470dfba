import CivicCast.Reporting.Airtime
import CivicCast.Lib.Packing

/-! # What a row's airtime is a share of

At any instant at most one row of a channel has the air: of the rows that have begun, the
last one, if it has not ended. `share` is the time of the window a row has the air. The shares
of a channel's rows are disjoint intervals of the window (`share_eq`, `shares_disjoint`), so
seconds that are no more than those of the shares add up to no more than the window.

`counted_once_iff` says when the airtimes of a report are the whole seconds of the shares. On
Postgres they always are. SQLite rounds the seconds of a row that is open or cut off, and
gives a second too many to one whose share ends in half a second or more.
-/

namespace CivicCast.Reporting

open List

open Books (wholeSeconds)

/-! ## Shares -/

/-- The end of a row: what was recorded, or now if it looks open. -/
def ending (now : Instant) (row : AsRunLogEntry) : Instant :=
  if openAiring row then now else row.actualEnd

/-- The instants of the window at which the row has the air: it has begun and has not
ended, and no row that follows has begun. -/
def share (rows : List AsRunLogEntry) (fromTs toTs now : Instant) (row : AsRunLogEntry) :
    Set Instant :=
  { t | t ∈ Set.Ico fromTs toTs ∧ row.actualStart ≤ t ∧ t < ending now row ∧
    ∀ later ∈ rows, follows row later = true → t < later.actualStart }

def channelRows (ledger : Ledger) (stationId channelId : String) : List AsRunLogEntry :=
  ledger.rows.filter fun row => row.stationId = stationId && row.channelId = channelId

/-- No instant of the window is counted twice: the airtime of every row is the whole
seconds of its share, the shares are disjoint intervals of the window, and what is reported
adds up to no more than the window. -/
structure CountedOnce (d : Dialect) (ledger : Ledger) (stationId channelId : String)
    (fromTs toTs now : Instant) : Prop where
  whole : ∀ row ∈ channelRows ledger stationId channelId, ∃ lo hi, lo ≤ hi ∧
    share ledger.rows fromTs toTs now row = Set.Ico lo hi ∧
    windowAirtime d ledger.rows fromTs toTs now row = wholeSeconds (hi - lo)
  inside : ∀ row ∈ channelRows ledger stationId channelId,
    share ledger.rows fromTs toTs now row ⊆ Set.Ico fromTs toTs
  disjoint : (channelRows ledger stationId channelId).Pairwise fun row other =>
    Disjoint (share ledger.rows fromTs toTs now row) (share ledger.rows fromTs toTs now other)
  total : ((channelRows ledger stationId channelId).map
    (windowAirtime d ledger.rows fromTs toTs now)).sum ≤ wholeSeconds (toTs - fromTs)
  shows : ((showsReport d ledger.rows stationId (some channelId) fromTs toTs now).map
    ShowsReportRow.totalAirtimeS).sum ≤ wholeSeconds (toTs - fromTs)

/-- The row is open, or its share is not all that was recorded of it. -/
def CutOff (row : AsRunLogEntry) (lo hi : Instant) : Prop :=
  openAiring row = true ∨ lo ≠ row.actualStart ∨ hi ≠ row.actualEnd

/-- The row is open or cut off, and its share is at least half a second longer than its
whole seconds. -/
def RoundsUp (rows : List AsRunLogEntry) (fromTs toTs now : Instant) (row : AsRunLogEntry) :
    Prop :=
  ∃ lo hi, lo < hi ∧ share rows fromTs toTs now row = Set.Ico lo hi ∧ CutOff row lo hi ∧
    500000 ≤ (hi - lo) % 1000000

section Shares

variable {d : Dialect} {ledger : Ledger} {rows : List AsRunLogEntry} {row other : AsRunLogEntry}
  {stationId channelId : String} {fromTs toTs now : Instant} {lo hi t : Instant}

lemma nextStart_mem {start : Instant} (h : nextStart rows row = some start) :
    ∃ later ∈ rows, follows row later = true ∧ later.actualStart = start := by
  have hmem := (min?_eq_some_iff.mp h).1
  rcases mem_map.mp hmem with ⟨later, hlater, hstart⟩
  rcases mem_filter.mp hlater with ⟨hrows, hfollows⟩
  exact ⟨later, hrows, hfollows, hstart⟩

/-- An instant is before the end of the row in the window iff it is before all three of
what may end it. -/
lemma lt_windowEnd_iff : t < windowEnd rows toTs now row ↔
    t < toTs ∧ t < ending now row ∧
      ∀ later ∈ rows, follows row later = true → t < later.actualStart := by
  have hended : t < toTs → (t < recordedEnd toTs now row ↔ t < ending now row) := by
    intro ht
    unfold recordedEnd ending
    split
    · simp [ht]
    · exact .rfl
  constructor
  · intro h
    have hto : t < toTs := h.trans_le windowEnd_le_to
    refine ⟨hto, (hended hto).mp (h.trans_le (windowEnd_le_recorded rows toTs now row)), ?_⟩
    intro later hlater hfollows
    exact h.trans_le (windowEnd_le_later hlater hfollows)
  · rintro ⟨hto, hend, hnext⟩
    rw [windowEnd_eq]
    apply lt_min hto
    cases hstart : nextStart rows row with
    | none => exact (hended hto).mpr hend
    | some start =>
      rcases nextStart_mem hstart with ⟨later, hlater, hfollows, heq⟩
      apply lt_min
      · rw [← heq]
        exact hnext later hlater hfollows
      · exact (hended hto).mpr hend

lemma share_eq : share rows fromTs toTs now row =
    Set.Ico (max row.actualStart fromTs) (windowEnd rows toTs now row) := by
  ext t
  rw [Set.mem_Ico, lt_windowEnd_iff, max_le_iff]
  show (t ∈ Set.Ico fromTs toTs ∧ _) ↔ _
  rw [Set.mem_Ico]
  tauto

lemma follows_total (hrow : row ∈ channelRows ledger stationId channelId)
    (hother : other ∈ channelRows ledger stationId channelId) (hne : row ≠ other) :
    follows row other = true ∨ follows other row = true := by
  rcases mem_filter.mp hrow with ⟨hmem, hchannel⟩
  rcases mem_filter.mp hother with ⟨hmem', hchannel'⟩
  have hids : row.entryId ≠ other.entryId := by
    intro heq
    exact hne (Lib.Table.eq_of_key_eq hmem hmem' heq)
  have hlt : row.entryId < other.entryId ∨ other.entryId < row.entryId := by
    by_contra hneither
    rcases not_or.mp hneither with ⟨hnot, hnot'⟩
    exact hids (String.le_antisymm (String.not_lt.mp hnot') (String.not_lt.mp hnot))
  simp only [Bool.and_eq_true, decide_eq_true_eq] at hchannel hchannel'
  simp only [follows, hchannel, hchannel', Bool.and_eq_true, Bool.or_eq_true, decide_eq_true_eq,
    true_and]
  rcases lt_trichotomy row.actualStart other.actualStart with h | h | h
  · exact .inl (.inl h)
  · rcases hlt with hid | hid
    · exact .inl (.inr ⟨h.symm, hid⟩)
    · exact .inr (.inr ⟨h, hid⟩)
  · exact .inr (.inl h)

lemma share_disjoint_of_follows (hother : other ∈ rows) (h : follows row other = true) :
    Disjoint (share rows fromTs toTs now row) (share rows fromTs toTs now other) := by
  rw [Set.disjoint_left]
  rintro t ⟨_, _, _, hbefore⟩ ⟨_, hbegun, _⟩
  exact absurd (hbefore other hother h) (not_lt.mpr hbegun)

lemma shares_disjoint {ledger : Ledger} (stationId channelId : String) (fromTs toTs now : Instant) :
    (channelRows ledger stationId channelId).Pairwise fun row other => Disjoint
      (share ledger.rows fromTs toTs now row) (share ledger.rows fromTs toTs now other) := by
  have hnodup : (channelRows ledger stationId channelId).Nodup :=
    (List.Nodup.of_map _ ledger.nodup).filter _
  refine List.Pairwise.imp_of_mem ?_ hnodup
  intro row other hrow hother hne
  rcases follows_total hrow hother hne with h | h
  · exact share_disjoint_of_follows (mem_filter.mp hother).1 h
  · exact (share_disjoint_of_follows (mem_filter.mp hrow).1 h).symm

/-! ## The seconds of a share -/

lemma share_ends (hlt : lo < hi) (h : share rows fromTs toTs now row = Set.Ico lo hi) :
    max row.actualStart fromTs = lo ∧ windowEnd rows toTs now row = hi := by
  rw [share_eq] at h
  exact (Set.Ico_eq_Ico_iff (.inr hlt)).mp h

lemma exists_share (rows : List AsRunLogEntry) (fromTs toTs now : Instant)
    (row : AsRunLogEntry) : ∃ lo hi, lo ≤ hi ∧ share rows fromTs toTs now row = Set.Ico lo hi := by
  rw [share_eq]
  rcases le_total (max row.actualStart fromTs) (windowEnd rows toTs now row) with hle | hge
  · exact ⟨_, _, hle, rfl⟩
  · refine ⟨0, 0, le_refl 0, ?_⟩
    rw [Set.Ico_eq_empty (not_lt.mpr hge), Set.Ico_self]

lemma windowAirtime_of_empty (h : share rows fromTs toTs now row = Set.Ico t t) :
    windowAirtime d rows fromTs toTs now row = 0 := by
  rw [share_eq, Set.Ico_self, Set.Ico_eq_empty_iff] at h
  rw [windowAirtime_eq, if_pos (not_lt.mp h)]

/-- The seconds of a row that is open or cut off are those the dialect counts. -/
lemma windowAirtime_of_cutOff (hlt : lo < hi)
    (hshare : share rows fromTs toTs now row = Set.Ico lo hi) (hcut : CutOff row lo hi) :
    windowAirtime d rows fromTs toTs now row = d.seconds (hi - lo) := by
  rcases share_ends hlt hshare with ⟨hlo, hhi⟩
  rw [windowAirtime_eq, hlo, hhi, if_neg (not_le.mpr hlt), if_neg]
  rintro ⟨hclosed, hfrom, hend⟩
  rcases hcut with hopen | hstart | hstop
  · exact hclosed hopen
  · exact hstart (hlo ▸ max_eq_left hfrom)
  · exact hstop hend

lemma windowAirtime_of_whole (hlt : lo < hi)
    (hshare : share rows fromTs toTs now row = Set.Ico lo hi) (hwhole : ¬ CutOff row lo hi) :
    windowAirtime d rows fromTs toTs now row = row.durationS := by
  rcases share_ends hlt hshare with ⟨hlo, hhi⟩
  simp only [CutOff, not_or, not_ne_iff] at hwhole
  rcases hwhole with ⟨hclosed, hstart, hend⟩
  rw [windowAirtime_eq, hlo, hhi, if_neg (not_le.mpr hlt), if_pos]
  refine ⟨hclosed, ?_, hend⟩
  rw [← hstart, ← hlo]
  exact le_max_right _ _

lemma seconds_sqlite_eq_iff {micros : Int} :
    Dialect.sqlite.seconds micros = wholeSeconds micros ↔ micros % 1000000 < 500000 := by
  unfold Dialect.seconds wholeSeconds
  dsimp only
  omega

/-- The airtime of a row is the whole seconds of its share unless SQLite rounds them up. -/
lemma windowAirtime_whole_iff
    (hduration : row.durationS = wholeSeconds (row.actualEnd - row.actualStart)) :
    (∃ lo hi, lo ≤ hi ∧ share rows fromTs toTs now row = Set.Ico lo hi ∧
        windowAirtime d rows fromTs toTs now row = wholeSeconds (hi - lo)) ↔
      d = .postgresql ∨ ¬ RoundsUp rows fromTs toTs now row := by
  constructor
  · rintro ⟨lo, hi, _, hshare, hairtime⟩
    cases d with
    | postgresql => exact .inl rfl
    | sqlite =>
      right
      rintro ⟨lo', hi', hlt, hshare', hcut, hfraction⟩
      rcases share_ends hlt hshare' with ⟨hlo, hhi⟩
      rw [hshare'] at hshare
      rcases (Set.Ico_eq_Ico_iff (.inl hlt)).mp hshare with ⟨rfl, rfl⟩
      rw [windowAirtime_of_cutOff hlt hshare' hcut, seconds_sqlite_eq_iff] at hairtime
      exact absurd hairtime (not_lt.mpr hfraction)
  · intro h
    rcases exists_share rows fromTs toTs now row with ⟨lo, hi, hle, hshare⟩
    refine ⟨lo, hi, hle, hshare, ?_⟩
    rcases lt_or_eq_of_le hle with hlt | rfl
    · by_cases hcut : CutOff row lo hi
      · rw [windowAirtime_of_cutOff hlt hshare hcut]
        cases d with
        | postgresql => rfl
        | sqlite =>
          rw [seconds_sqlite_eq_iff]
          -- SQLite rounds up from half a second on
          by_contra hfraction
          rcases h with h | hround
          · cases h
          · exact hround ⟨lo, hi, hlt, hshare, hcut, not_lt.mp hfraction⟩
      · rw [windowAirtime_of_whole hlt hshare hcut, hduration]
        simp only [CutOff, not_or, not_ne_iff] at hcut
        rw [hcut.2.1, hcut.2.2]
    · rw [windowAirtime_of_empty hshare, sub_self]
      rfl

/-! ## The window -/

lemma sum_airtime_le (hwindow : fromTs ≤ toTs)
    (hwhole : ∀ row ∈ channelRows ledger stationId channelId, ∃ lo hi, lo ≤ hi ∧
      share ledger.rows fromTs toTs now row = Set.Ico lo hi ∧
      windowAirtime d ledger.rows fromTs toTs now row = wholeSeconds (hi - lo)) :
    ((channelRows ledger stationId channelId).map
      (windowAirtime d ledger.rows fromTs toTs now)).sum ≤ wholeSeconds (toTs - fromTs) := by
  choose! lo hi hle hshare hairtime using hwhole
  have hinside : ∀ row ∈ channelRows ledger stationId channelId,
      Set.Ico (lo row) (hi row) ⊆ Set.Ico fromTs toTs := by
    intro row hrow
    rw [← hshare row hrow]
    rintro t ⟨ht, _⟩
    exact ht
  have hdisjoint : (channelRows ledger stationId channelId).Pairwise fun row other =>
      Disjoint (Set.Ico (lo row) (hi row)) (Set.Ico (lo other) (hi other)) := by
    refine List.Pairwise.imp_of_mem ?_ (shares_disjoint stationId channelId fromTs toTs now)
    intro row other hrow hother h
    rw [← hshare row hrow, ← hshare other hother]
    exact h
  have hpacked := Lib.Packing.sum_length_le hwindow hle hinside hdisjoint
  -- every row has at most as many seconds as its share is long
  have hseconds : ((channelRows ledger stationId channelId).map
      (windowAirtime d ledger.rows fromTs toTs now)).sum * 1000000 ≤
        ((channelRows ledger stationId channelId).map fun row => hi row - lo row).sum := by
    rw [← sum_map_mul_right]
    apply sum_le_sum
    intro row hrow
    rw [hairtime row hrow]
    exact Int.ediv_mul_le _ (by decide)
  exact Int.le_ediv_of_mul_le (by decide) (hseconds.trans hpacked)

lemma windowAirtime_nonneg_of_whole
    (hwhole : ∃ lo hi, lo ≤ hi ∧ share rows fromTs toTs now row = Set.Ico lo hi ∧
      windowAirtime d rows fromTs toTs now row = wholeSeconds (hi - lo)) :
    0 ≤ windowAirtime d rows fromTs toTs now row := by
  rcases hwhole with ⟨lo, hi, hle, _, hairtime⟩
  rw [hairtime]
  exact wholeSeconds_nonneg (sub_nonneg.mpr hle)

lemma sum_shows_le
    (hnonneg : ∀ row ∈ channelRows ledger stationId channelId,
      0 ≤ windowAirtime d ledger.rows fromTs toTs now row) :
    ((showsReport d ledger.rows stationId (some channelId) fromTs toTs now).map
        ShowsReportRow.totalAirtimeS).sum ≤
      ((channelRows ledger stationId channelId).map
        (windowAirtime d ledger.rows fromTs toTs now)).sum := by
  unfold showsReport
  rw [((perm_insertionSort _ _).map _).sum_eq, map_map]
  have hshows : ((selected ledger.rows stationId (some channelId) fromTs toTs now).filter
      fun row => row.assetId.isSome) =
      (channelRows ledger stationId channelId).filter fun row =>
        row.assetId.isSome && overlapsWindow ledger.rows fromTs toTs now row := by
    unfold selected channelRows
    rw [filter_filter, filter_filter]
    apply filter_congr
    intro row _
    cases row.assetId.isSome <;> cases overlapsWindow ledger.rows fromTs toTs now row <;> simp
  refine (le_of_eq Lib.sum_groupBy).trans ?_
  rw [hshows]
  exact Lib.sum_filter_le hnonneg

/-- A channel's airtime is counted once exactly where the database is Postgres, or no row
that is open or cut off has half a second or more beyond its whole seconds. -/
theorem counted_once_iff (d : Dialect) (ledger : Ledger) (stationId channelId : String)
    (fromTs toTs now : Instant) (hwindow : fromTs ≤ toTs)
    (hduration : ∀ row ∈ ledger.rows,
      row.durationS = wholeSeconds (row.actualEnd - row.actualStart)) :
    CountedOnce d ledger stationId channelId fromTs toTs now ↔
      d = .postgresql ∨ ∀ row ∈ channelRows ledger stationId channelId,
        ¬ RoundsUp ledger.rows fromTs toTs now row := by
  have hrow : ∀ row ∈ channelRows ledger stationId channelId,
      row.durationS = wholeSeconds (row.actualEnd - row.actualStart) :=
    fun row h => hduration row (mem_filter.mp h).1
  constructor
  · intro h
    cases d with
    | postgresql => exact .inl rfl
    | sqlite =>
      right
      intro row hmem
      have hwhole := (windowAirtime_whole_iff (hrow row hmem)).mp (h.whole row hmem)
      rcases hwhole with heq | hround
      · cases heq
      · exact hround
  · -- then the shares are disjoint intervals of the window
    intro h
    have hwhole : ∀ row ∈ channelRows ledger stationId channelId, ∃ lo hi, lo ≤ hi ∧
        share ledger.rows fromTs toTs now row = Set.Ico lo hi ∧
        windowAirtime d ledger.rows fromTs toTs now row = wholeSeconds (hi - lo) := by
      intro row hmem
      apply (windowAirtime_whole_iff (hrow row hmem)).mpr
      exact h.imp_right fun hall => hall row hmem
    have htotal := sum_airtime_le hwindow hwhole
    have hshows := sum_shows_le fun row hmem => windowAirtime_nonneg_of_whole (hwhole row hmem)
    exact ⟨hwhole, fun row _ t ht => ht.1, shares_disjoint stationId channelId
      fromTs toTs now, htotal, hshows.trans htotal⟩

end Shares

/-! ## Three programs cut short -/

/-- A row of the channel. -/
def airedProgram (entryId : String) (actualStart actualEnd : Instant) : AsRunLogEntry where
  entryId := entryId
  stationId := "station"
  channelId := "gov"
  scheduleItemId := none
  assetId := some "council"
  scheduledStart := none
  actualStart := actualStart
  actualEnd := actualEnd
  durationS := wholeSeconds (actualEnd - actualStart)
  sourceKind := .program
  verified := true
  createdAt := 0
  updatedAt := 0

/-- Three programs in two seconds: each of the first two is cut off by the next after 0.6
seconds, and the third is open. -/
def cutShort : Ledger where
  rows := [airedProgram "a" 0 10000000, airedProgram "b" 600000 10000000,
    airedProgram "c" 1200000 1200000]
  nodup := by decide

lemma cutShort_durations : ∀ row ∈ cutShort.rows,
    row.durationS = wholeSeconds (row.actualEnd - row.actualStart) := by
  decide

/-- On SQLite each of the three is given a second of the two. -/
theorem cutShort_counted_twice :
    ¬ ∀ (d : Dialect) (ledger : Ledger) (stationId channelId : String)
      (fromTs toTs now : Instant), fromTs ≤ toTs →
      (∀ row ∈ ledger.rows, row.durationS = wholeSeconds (row.actualEnd - row.actualStart)) →
      CountedOnce d ledger stationId channelId fromTs toTs now := by
  intro h
  have htotal := (h .sqlite cutShort "station" "gov" 0 2000000 2000000 (by decide)
    cutShort_durations).total
  have hsum : ((channelRows cutShort "station" "gov").map
      (windowAirtime .sqlite cutShort.rows 0 2000000 2000000)).sum = 3 := by
    decide +kernel
  rw [hsum] at htotal
  exact absurd htotal (by decide)

/-- Postgres gives them none. -/
theorem counted_once_cutShort :
    CountedOnce .postgresql cutShort "station" "gov" 0 2000000 2000000 ∧
      ((channelRows cutShort "station" "gov").map
        (windowAirtime .postgresql cutShort.rows 0 2000000 2000000)).sum = 0 := by
  constructor
  · exact (counted_once_iff .postgresql cutShort "station" "gov" 0 2000000 2000000 (by decide)
      cutShort_durations).mpr (.inl rfl)
  · decide +kernel

end CivicCast.Reporting
