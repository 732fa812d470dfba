import CivicCast.Reporting.Recorder

/-! # Airtime in the reports

The Shows report and the Hours-by-Category report sum, over the rows that overlap
the window, the airtime of each row inside it. Whether a row is still open is read
off its stored values: its duration is zero and its end is its start. An open row
lasts until now, and every row ends where a later row of its channel starts, the
entry id deciding between rows with one start.

`no_phantom_airtime` bounds what the reports give to a channel by the time the
channel was on air, along every run in which no row that looks open is left behind:
no process ends while a row is open, and no row is closed at the instant it was
opened, or beside a row with the same start that a report puts after it.
-/

namespace CivicCast.Reporting

open List Function

open Books (wholeSeconds)

/-! ## The queries -/

/-- The database behind the session. -/
inductive Dialect where
  | postgresql
  | sqlite
deriving DecidableEq

/-- Seconds between two instants: SQLite's are rounded to the nearest. -/
def Dialect.seconds (d : Dialect) (micros : Int) : Int :=
  match d with
  | postgresql => wholeSeconds micros
  | sqlite => wholeSeconds (micros + 500000)

def openAiring (row : AsRunLogEntry) : Bool :=
  row.durationS = 0 && row.actualEnd = row.actualStart

/-- `later` comes after `row` on the same channel of the same station. -/
def follows (row later : AsRunLogEntry) : Bool :=
  later.stationId = row.stationId && later.channelId = row.channelId &&
    (row.actualStart < later.actualStart ||
      (later.actualStart = row.actualStart && row.entryId < later.entryId))

def nextStart (rows : List AsRunLogEntry) (row : AsRunLogEntry) : Option Instant :=
  ((rows.filter (follows row)).map AsRunLogEntry.actualStart).min?

def windowEnd (rows : List AsRunLogEntry) (toTs now : Instant) (row : AsRunLogEntry) : Instant :=
  let recordedEnd := if openAiring row then min now toTs else row.actualEnd
  let cappedEnd :=
    match nextStart rows row with
    | some start => if start < recordedEnd then start else recordedEnd
    | none => recordedEnd
  if toTs < cappedEnd then toTs else cappedEnd

def windowAirtime (d : Dialect) (rows : List AsRunLogEntry) (fromTs toTs now : Instant)
    (row : AsRunLogEntry) : Int :=
  let start := if row.actualStart < fromTs then fromTs else row.actualStart
  let stop := windowEnd rows toTs now row
  if stop ≤ start then 0
  else if ¬ openAiring row ∧ fromTs ≤ row.actualStart ∧ stop = row.actualEnd then row.durationS
  else d.seconds (stop - start)

def overlapsWindow (rows : List AsRunLogEntry) (fromTs toTs now : Instant)
    (row : AsRunLogEntry) : Bool :=
  row.actualStart < toTs && fromTs < windowEnd rows toTs now row &&
    (!openAiring row || row.actualStart < now)

/-- The rows a report of one station, and of one channel if given, selects. -/
def selected (rows : List AsRunLogEntry) (stationId : String) (channelId : Option String)
    (fromTs toTs now : Instant) : List AsRunLogEntry :=
  rows.filter fun row =>
    row.stationId = stationId && overlapsWindow rows fromTs toTs now row &&
      channelId.all fun channel => row.channelId = channel

structure ShowsReportRow where
  assetId : String
  playCount : Nat
  inProgressCount : Nat
  totalAirtimeS : Int
  firstAired : Option Instant
  lastAired : Option Instant
deriving DecidableEq

/-- `shows_report`: rows without an asset are no shows. -/
def showsReport (d : Dialect) (rows : List AsRunLogEntry) (stationId : String)
    (channelId : Option String) (fromTs toTs now : Instant) : List ShowsReportRow :=
  let shows := (selected rows stationId channelId fromTs toTs now).filter fun row =>
    row.assetId.isSome
  ((Lib.groupBy (fun row => row.assetId.getD "") shows).map fun (assetId, plays) =>
    { assetId := assetId
      playCount := plays.length
      inProgressCount := (plays.filter openAiring).length
      totalAirtimeS := (plays.map (windowAirtime d rows fromTs toTs now)).sum
      firstAired := (plays.map AsRunLogEntry.actualStart).min?
      lastAired := (plays.map AsRunLogEntry.actualStart).max? }).insertionSort
    fun a b => b.totalAirtimeS < a.totalAirtimeS ∨
      (a.totalAirtimeS = b.totalAirtimeS ∧ a.assetId ≤ b.assetId)

/-- The custom fields of the station: the field under a key, and its value for an
asset. -/
structure CustomFields where
  fieldId : String → Option String
  value : String → String → Option String

def uncategorizedLabel : String := "(uncategorized)"

structure HoursByCategoryRow where
  category : String
  totalSeconds : Int
  entryCount : Nat
  inProgressCount : Nat
deriving DecidableEq

structure HoursByCategoryReport where
  fieldNotFound : Bool
  rows : List HoursByCategoryRow
deriving DecidableEq

/-- The joined value of the field, or the bucket for rows that have none. -/
def categoryOf (fields : CustomFields) (fieldId : String) (row : AsRunLogEntry) : String :=
  (row.assetId.bind fun assetId => fields.value assetId fieldId).getD uncategorizedLabel

def hoursByCategory (d : Dialect) (fields : CustomFields) (rows : List AsRunLogEntry)
    (stationId fieldKey : String) (channelId : Option String) (fromTs toTs now : Instant) :
    HoursByCategoryReport :=
  match fields.fieldId fieldKey with
  | none => { fieldNotFound := true, rows := [] }
  | some fieldId =>
    { fieldNotFound := false
      rows := ((Lib.groupBy (categoryOf fields fieldId)
          (selected rows stationId channelId fromTs toTs now)).map fun (category, airings) =>
        { category := category
          totalSeconds := (airings.map (windowAirtime d rows fromTs toTs now)).sum
          entryCount := airings.length
          inProgressCount := (airings.filter openAiring).length }).insertionSort
        fun a b =>
          (a.category ≠ uncategorizedLabel ∧ b.category = uncategorizedLabel) ∨
          ((a.category = uncategorizedLabel ↔ b.category = uncategorizedLabel) ∧
            (b.totalSeconds < a.totalSeconds ∨
              (a.totalSeconds = b.totalSeconds ∧ a.category ≤ b.category))) }

/-! ## What the reports count -/

/-- How long the span lies inside the window, in microseconds. -/
def Span.within (s : Span) (fromTs toTs now : Instant) : Int :=
  max 0 (min (s.stop.getD now) toTs - max s.start fromTs)

/-- The seconds a channel was on air inside the window, each span rounded down. -/
def onAirSeconds (spans : List Span) (channelId : String) (fromTs toTs now : Instant) : Int :=
  ((spans.filter fun s => s.channelId = channelId).map fun s =>
    wholeSeconds (s.within fromTs toTs now)).sum

/-- The reports give a channel no more than the time it was on air. -/
def NoPhantom (d : Dialect) (stationId : String) (w : Station) : Prop :=
  ∀ (fields : CustomFields) (fieldKey channelId : String) (fromTs toTs now : Instant),
    ((showsReport d w.books.ledger.rows stationId (some channelId) fromTs toTs now).map
      ShowsReportRow.totalAirtimeS).sum ≤ onAirSeconds w.spans channelId fromTs toTs now ∧
    ((hoursByCategory d fields w.books.ledger.rows stationId fieldKey (some channelId)
      fromTs toTs now).rows.map HoursByCategoryRow.totalSeconds).sum ≤
        onAirSeconds w.spans channelId fromTs toTs now

/-- The open row of the channel can be closed at `t` without looking open
afterwards, and no row with its start looks open in its place. -/
def ClosesWell (w : Station) (channelId : String) (t : Instant) : Prop :=
  ∀ entryId start, w.books.recorder.opened channelId = some (entryId, start) →
    start < t ∧ ∀ row ∈ w.books.ledger.rows, row.channelId = channelId →
      row.actualStart = start → row.entryId ≤ entryId

/-- The events that leave no row behind which looks open and is not. -/
def Clean (stationId : String) (w : Station) : AirEvent → Prop
  | .transition d c =>
    w.books.recorder.continues c = false →
      Books.validEntry (Books.newEntry stationId d c) = false →
        ClosesWell w c.channelId c.actualStart
  | .closeOpen _ channelId actualEnd => ClosesWell w channelId actualEnd
  | .processEnd _ => ∀ channelId, w.books.recorder.opened channelId = none

/-! ## One row in the window -/

section Rows

variable {d : Dialect} {rows : List AsRunLogEntry} {row later : AsRunLogEntry}
  {fromTs toTs now : Instant}

lemma wholeSeconds_mono {a b : Int} (h : a ≤ b) : wholeSeconds a ≤ wholeSeconds b :=
  Int.ediv_le_ediv (by decide) h

lemma wholeSeconds_nonneg {a : Int} (h : 0 ≤ a) : 0 ≤ wholeSeconds a :=
  Int.ediv_nonneg h (by decide)

lemma nextStart_le (h : later ∈ rows) (hfollows : follows row later = true) :
    ∃ start, nextStart rows row = some start ∧ start ≤ later.actualStart := by
  have hmem : later.actualStart ∈ (rows.filter (follows row)).map AsRunLogEntry.actualStart :=
    mem_map.mpr ⟨later, mem_filter.mpr ⟨h, hfollows⟩, rfl⟩
  cases hmin : nextStart rows row with
  | none =>
    have hnil := min?_eq_none_iff.mp hmin
    rw [hnil] at hmem
    cases hmem
  | some start => exact ⟨start, rfl, (min?_eq_some_iff.mp hmin).2 _ hmem⟩

/-- The end of a row as recorded, or now if it looks open. -/
def recordedEnd (toTs now : Instant) (row : AsRunLogEntry) : Instant :=
  if openAiring row then min now toTs else row.actualEnd

/-- The end of a row in the window is the first of three: the window's end, the
recorded end and the start of a row that follows. -/
lemma windowEnd_eq : windowEnd rows toTs now row = min toTs
    ((nextStart rows row).elim (recordedEnd toTs now row) fun start =>
      min start (recordedEnd toTs now row)) := by
  unfold windowEnd
  rw [← recordedEnd]
  cases nextStart rows row with
  | none | some start =>
    grind

lemma windowEnd_le_to : windowEnd rows toTs now row ≤ toTs := by
  rw [windowEnd_eq]
  exact min_le_left _ _

lemma windowEnd_le_recorded (rows : List AsRunLogEntry) (toTs now : Instant)
    (row : AsRunLogEntry) : windowEnd rows toTs now row ≤ recordedEnd toTs now row := by
  rw [windowEnd_eq]
  cases nextStart rows row with
  | none => exact min_le_right _ _
  | some start => exact (min_le_right _ _).trans (min_le_right _ _)

lemma windowEnd_le_later (h : later ∈ rows) (hfollows : follows row later = true) :
    windowEnd rows toTs now row ≤ later.actualStart := by
  rcases nextStart_le h hfollows with ⟨start, hstart, hle⟩
  rw [windowEnd_eq, hstart]
  exact (min_le_right _ _).trans ((min_le_left _ _).trans hle)

lemma windowAirtime_eq : windowAirtime d rows fromTs toTs now row =
    if windowEnd rows toTs now row ≤ max row.actualStart fromTs then 0
    else if ¬ openAiring row ∧ fromTs ≤ row.actualStart ∧
        windowEnd rows toTs now row = row.actualEnd then row.durationS
    else d.seconds (windowEnd rows toTs now row - max row.actualStart fromTs) := by
  have hstart : (if row.actualStart < fromTs then fromTs else row.actualStart) =
      max row.actualStart fromTs := by
    grind
  unfold windowAirtime
  rw [hstart]

variable (hduration : openAiring row = false →
  row.durationS = wholeSeconds (row.actualEnd - row.actualStart))
include hduration

/-- The seconds of a row, wherever they are taken from, are those between its start
and its end in the window. -/
lemma windowAirtime_le {stop : Instant} (hstop : windowEnd rows toTs now row ≤ stop) :
    windowAirtime .postgresql rows fromTs toTs now row ≤
      wholeSeconds (max 0 (min stop toTs - max row.actualStart fromTs)) := by
  have hbefore : windowEnd rows toTs now row ≤ min stop toTs := le_min hstop windowEnd_le_to
  rw [windowAirtime_eq]
  split
  · exact wholeSeconds_nonneg (le_max_left _ _)
  · split
    · rename_i hwhole
      rcases hwhole with ⟨hopen, hfrom, hend⟩
      rw [hduration (by simpa using hopen), ← hend, max_eq_left hfrom]
      apply wholeSeconds_mono
      exact (sub_le_sub_right hbefore _).trans (le_max_right _ _)
    · apply wholeSeconds_mono
      exact (sub_le_sub_right hbefore _).trans (le_max_right _ _)

lemma windowAirtime_nonneg (hend : row.actualStart ≤ row.actualEnd) :
    0 ≤ windowAirtime .postgresql rows fromTs toTs now row := by
  rw [windowAirtime_eq]
  split
  · exact le_refl (0 : Int)
  · rename_i hlong
    split
    · rename_i hwhole
      rw [hduration (by simpa using hwhole.1)]
      exact wholeSeconds_nonneg (sub_nonneg.mpr hend)
    · exact wholeSeconds_nonneg (sub_nonneg.mpr (le_of_lt (not_le.mp hlong)))

omit hduration

/-- Of the rows with one start, only the last one has airtime. -/
lemma not_follows_of_airtime_pos (h : later ∈ rows)
    (hpos : 0 < windowAirtime d rows fromTs toTs now row)
    (hstart : later.actualStart = row.actualStart) : follows row later = false := by
  by_contra hfollows
  have hend : windowEnd rows toTs now row ≤ row.actualStart := by
    rw [← hstart]
    exact windowEnd_le_later h (by simpa using hfollows)
  rw [windowAirtime_eq, if_pos (hend.trans (le_max_left _ _))] at hpos
  exact lt_irrefl _ hpos

end Rows

/-! ## What the ledger says and what was on air -/

def Finished (spans : List Span) (row : AsRunLogEntry) : Prop :=
  row.actualStart ≤ row.actualEnd ∧
    row.durationS = wholeSeconds (row.actualEnd - row.actualStart) ∧
    { channelId := row.channelId, start := row.actualStart, stop := some row.actualEnd } ∈ spans

/-- No row of the channel with the same start follows. -/
def LastAt (rows : List AsRunLogEntry) (row : AsRunLogEntry) : Prop :=
  ∀ other ∈ rows, other.channelId = row.channelId → other.actualStart = row.actualStart →
    other.entryId ≤ row.entryId

/-- A span with the row's start lasted until another row of the channel began. -/
def Superseded (spans : List Span) (rows : List AsRunLogEntry) (row : AsRunLogEntry) : Prop :=
  ∃ stop, { channelId := row.channelId, start := row.actualStart, stop := some stop } ∈ spans ∧
    ∃ later ∈ rows, later.channelId = row.channelId ∧ row.actualStart < later.actualStart ∧
      later.actualStart ≤ stop

/-- The open rows are on air, and the others were closed when their spans ended. -/
structure Kept (stationId : String) (w : Station) : Prop where
  station : ∀ row ∈ w.books.ledger.rows, row.stationId = stationId
  opened : ∀ channelId entryId start,
    w.books.recorder.opened channelId = some (entryId, start) → start ≤ w.clock ∧
      (∃ row ∈ w.books.ledger.rows, row.entryId = entryId ∧ row.channelId = channelId ∧
        row.actualStart = start ∧ openAiring row = true) ∧
      { channelId := channelId, start := start, stop := none } ∈ w.spans
  closed : ∀ row ∈ w.books.ledger.rows,
    (w.books.recorder.opened row.channelId = some (row.entryId, row.actualStart) ∧
      openAiring row = true) ∨ Finished w.spans row

/-- Where the report takes a row to last, the channel was on air: the row's start is
that of the open row, or of a span that lasted until the next row. -/
def Covered (w : Station) : Prop :=
  ∀ row ∈ w.books.ledger.rows, openAiring row = true → LastAt w.books.ledger.rows row →
    (∃ entryId, w.books.recorder.opened row.channelId = some (entryId, row.actualStart)) ∨
      Superseded w.spans w.books.ledger.rows row

section Bound

variable {stationId channelId : String} {w : Station} {row : AsRunLogEntry}
  {fromTs toTs now : Instant}

variable (h : Kept stationId w)
include h

lemma Kept.duration (hrow : row ∈ w.books.ledger.rows) :
    row.actualStart ≤ row.actualEnd ∧ (openAiring row = false →
      row.durationS = wholeSeconds (row.actualEnd - row.actualStart)) := by
  rcases h.closed row hrow with ⟨_, hopen⟩ | ⟨hend, hduration, _⟩
  · have hend : row.actualEnd = row.actualStart := by
      simp [openAiring] at hopen
      exact hopen.2
    refine ⟨le_of_eq hend.symm, fun hclosed => ?_⟩
    rw [hopen] at hclosed
    cases hclosed
  · exact ⟨hend, fun _ => hduration⟩

lemma Kept.lastAt (hrow : row ∈ w.books.ledger.rows)
    (hpos : 0 < windowAirtime .postgresql w.books.ledger.rows fromTs toTs now row) :
    LastAt w.books.ledger.rows row := by
  intro other hother hchannel hstart
  have hnot := not_follows_of_airtime_pos hother hpos hstart
  have hstation : other.stationId = row.stationId :=
    (h.station other hother).trans (h.station row hrow).symm
  apply String.not_lt.mp
  intro hlater
  have hfollows : follows row other = true := by
    unfold follows
    rw [decide_eq_true hstation, decide_eq_true hchannel, decide_eq_true hstart,
      decide_eq_true hlater]
    simp
  rw [hnot] at hfollows
  cases hfollows

lemma airtime_within (hcovered : Covered w) (hrow : row ∈ w.books.ledger.rows)
    (hpos : 0 < windowAirtime .postgresql w.books.ledger.rows fromTs toTs now row) :
    ∃ span ∈ w.spans, span.channelId = row.channelId ∧ span.start = row.actualStart ∧
      windowAirtime .postgresql w.books.ledger.rows fromTs toTs now row ≤
        wholeSeconds (span.within fromTs toTs now) := by
  have hduration := (h.duration hrow).2
  cases hopen : openAiring row with
  | false =>
    rcases h.closed row hrow with ⟨_, hopened⟩ | ⟨_, _, hspan⟩
    · rw [hopen] at hopened
      cases hopened
    · refine ⟨_, hspan, rfl, rfl, windowAirtime_le hduration ?_⟩
      have hend := windowEnd_le_recorded w.books.ledger.rows toTs now row
      rw [recordedEnd, hopen] at hend
      exact hend
  | true =>
    rcases hcovered row hrow hopen (h.lastAt hrow hpos) with ⟨entryId, hopened⟩ | hsuperseded
    · refine ⟨_, (h.opened _ _ _ hopened).2.2, rfl, rfl, windowAirtime_le hduration ?_⟩
      have hend := windowEnd_le_recorded w.books.ledger.rows toTs now row
      rw [recordedEnd, hopen] at hend
      exact hend.trans (min_le_left _ _)
    · rcases hsuperseded with ⟨stop, hspan, later, hlater, hchannel, hafter, hbefore⟩
      refine ⟨_, hspan, rfl, rfl, windowAirtime_le hduration ?_⟩
      have hfollows : follows row later = true := by
        have hstation : later.stationId = row.stationId :=
          (h.station later hlater).trans (h.station row hrow).symm
        simp [follows, hstation, hchannel, hafter]
      exact (windowEnd_le_later hlater hfollows).trans hbefore

lemma channel_airtime_le (hcovered : Covered w) :
    ((w.books.ledger.rows.filter fun row => row.channelId = channelId).map
      (windowAirtime .postgresql w.books.ledger.rows fromTs toTs now)).sum ≤
        onAirSeconds w.spans channelId fromTs toTs now := by
  have hkeyed := @Lib.sum_le_sum_of_keyed AsRunLogEntry Span Instant AsRunLogEntry.actualStart
    (windowAirtime .postgresql w.books.ledger.rows fromTs toTs now) _
    (fun span => wholeSeconds (span.within fromTs toTs now)) Span.start
    (w.books.ledger.rows.filter fun row => row.channelId = channelId)
    (w.spans.filter fun span => span.channelId = channelId)
  apply hkeyed
  · intro span _
    exact wholeSeconds_nonneg (le_max_left _ _)
  · intro row hrow hpos
    rcases mem_filter.mp hrow with ⟨hrow, hchannel⟩
    rcases airtime_within h hcovered hrow hpos with ⟨span, hspan, hsame, hstart, hle⟩
    refine ⟨span, mem_filter.mpr ⟨hspan, ?_⟩, hstart, hle⟩
    rw [hsame]
    exact hchannel
  · have hnodup : (w.books.ledger.rows.filter fun row => row.channelId = channelId).Nodup :=
      (List.Nodup.of_map _ w.books.ledger.nodup).filter _
    refine List.Pairwise.imp_of_mem ?_ hnodup
    intro a b ha hb hne hposa hposb hstart
    rcases mem_filter.mp ha with ⟨ha, hchannela⟩
    rcases mem_filter.mp hb with ⟨hb, hchannelb⟩
    have hchannel : a.channelId = b.channelId := by
      rw [of_decide_eq_true hchannela, of_decide_eq_true hchannelb]
    have hle := h.lastAt ha hposa b hb hchannel.symm hstart.symm
    have hge := h.lastAt hb hposb a ha hchannel hstart
    exact hne (Lib.Table.eq_of_key_eq ha hb (String.le_antisymm hge hle))

lemma selected_airtime_le (hcovered : Covered w) (p : AsRunLogEntry → Bool) :
    (((selected w.books.ledger.rows stationId (some channelId) fromTs toTs now).filter p).map
      (windowAirtime .postgresql w.books.ledger.rows fromTs toTs now)).sum ≤
        onAirSeconds w.spans channelId fromTs toTs now := by
  refine le_trans ?_ (channel_airtime_le h hcovered)
  have hselected :
      (selected w.books.ledger.rows stationId (some channelId) fromTs toTs now).filter p =
      (w.books.ledger.rows.filter fun row => row.channelId = channelId).filter fun row =>
        p row && (row.stationId = stationId &&
          overlapsWindow w.books.ledger.rows fromTs toTs now row) := by
    unfold selected
    rw [filter_filter, filter_filter]
    apply filter_congr
    intro row _
    cases p row <;> simp
  rw [hselected]
  apply Lib.sum_filter_le
  intro row hrow
  have hduration := h.duration (mem_filter.mp hrow).1
  exact windowAirtime_nonneg hduration.2 hduration.1

/-- A ledger that agrees with what was on air gives a channel no more than that. -/
lemma noPhantom_of_covered (hcovered : Covered w) : NoPhantom .postgresql stationId w := by
  intro fields fieldKey channelId fromTs toTs now
  constructor
  · unfold showsReport
    rw [((perm_insertionSort _ _).map _).sum_eq, map_map]
    refine le_trans (le_of_eq ?_) (selected_airtime_le h hcovered fun row => row.assetId.isSome)
    exact Lib.sum_groupBy
  · unfold hoursByCategory
    cases fields.fieldId fieldKey with
    | none =>
      apply sum_nonneg
      intro x hx
      rcases mem_map.mp hx with ⟨span, _, rfl⟩
      exact wholeSeconds_nonneg (le_max_left _ _)
    | some fieldId =>
      rw [((perm_insertionSort _ _).map _).sum_eq, map_map]
      refine le_trans (le_of_eq ?_) (selected_airtime_le h hcovered fun _ => true)
      rw [filter_true]
      exact Lib.sum_groupBy

end Bound

/-! ## A row is closed -/

section Spans

variable {spans : List Span} {channelId : String} {start t : Instant} {p : String → Bool}

lemma mem_endAt_of_stopped {stop : Instant}
    (h : { channelId := channelId, start := start, stop := some stop } ∈ spans) :
    { channelId := channelId, start := start, stop := some stop } ∈ spans.map (Span.endAt p t) :=
  mem_map.mpr ⟨_, h, by simp [Span.endAt]⟩

lemma mem_endAt_of_other {stop : Option Instant} (hp : p channelId = false)
    (h : { channelId := channelId, start := start, stop := stop } ∈ spans) :
    { channelId := channelId, start := start, stop := stop } ∈ spans.map (Span.endAt p t) :=
  mem_map.mpr ⟨_, h, by simp [Span.endAt, hp]⟩

lemma mem_endAt_of_running (hp : p channelId = true)
    (h : { channelId := channelId, start := start, stop := none } ∈ spans) :
    { channelId := channelId, start := start, stop := some t } ∈ spans.map (Span.endAt p t) :=
  mem_map.mpr ⟨_, h, by simp [Span.endAt, hp]⟩

end Spans

/-- What `close_entry` does to each row. -/
def closeRow (now : Instant) (entryId : String) (actualEnd : Instant) (durationS : Int)
    (row : AsRunLogEntry) : AsRunLogEntry :=
  if row.entryId = entryId then
    if row.durationS = 0 then
      { row with actualEnd := actualEnd, durationS := durationS, updatedAt := now }
    else row
  else row

lemma closeEntry_rows (now : Instant) (entryId : String) (actualEnd : Instant) (durationS : Int)
    (l : Ledger) : (l.closeEntry now entryId actualEnd durationS).rows =
      l.rows.map (closeRow now entryId actualEnd durationS) := rfl

/-- One airing, whatever is recorded of its end. -/
structure SameAiring (row held : AsRunLogEntry) : Prop where
  entryId : row.entryId = held.entryId
  stationId : row.stationId = held.stationId
  channelId : row.channelId = held.channelId
  actualStart : row.actualStart = held.actualStart

lemma SameAiring.refl (row : AsRunLogEntry) : SameAiring row row := ⟨rfl, rfl, rfl, rfl⟩

variable {now t : Instant} {entryId channelId : String}

lemma sameAiring_closeRow {actualEnd : Instant} {durationS : Int} {row : AsRunLogEntry} :
    SameAiring (closeRow now entryId actualEnd durationS row) row := by
  unfold closeRow
  split
  · split <;> exact ⟨rfl, rfl, rfl, rfl⟩
  · exact .refl row

/-- The station after the open row of the channel was closed. -/
def Station.shut (w : Station) (now : Instant) (channelId : String) (t : Instant) : Station where
  books := w.books.closeLocked now channelId t
  spans := w.spans.map (Span.endAt (fun channel => channel = channelId) t)
  clock := t

lemma closeLocked_of_opened {b : Books} {start : Instant}
    (h : b.recorder.opened channelId = some (entryId, start)) (hstart : start ≤ t) :
    (b.closeLocked now channelId t).recorder.opened =
        update b.recorder.opened channelId none ∧
      (b.closeLocked now channelId t).ledger =
        b.ledger.closeEntry now entryId t (wholeSeconds (t - start)) := by
  unfold Books.closeLocked
  rw [h]
  dsimp only
  split
  · rename_i hle
    have heq : t = start := le_antisymm hle hstart
    subst heq
    rw [sub_self]
    exact ⟨rfl, rfl⟩
  · exact ⟨rfl, rfl⟩

lemma closeLocked_of_closed {b : Books}
    (h : b.recorder.opened channelId = none) : b.closeLocked now channelId t = b := by
  unfold Books.closeLocked
  rw [h]

section Shut

variable {stationId channelId : String} {w : Station} {row held : AsRunLogEntry} {now t : Instant}

variable (h : Kept stationId w)
include h

variable (ht : w.clock ≤ t)
include ht

lemma Kept.shut_opened :
    (w.shut now channelId t).books.recorder.opened =
      update w.books.recorder.opened channelId none := by
  show (w.books.closeLocked now channelId t).recorder.opened = _
  cases hopen : w.books.recorder.opened channelId with
  | none =>
    rw [closeLocked_of_closed hopen, ← hopen]
    exact (update_eq_self _ _).symm
  | some held =>
    obtain ⟨entryId, start⟩ := held
    exact (closeLocked_of_opened hopen ((h.opened _ _ _ hopen).1.trans ht)).1

lemma Kept.shut_row (hrow : row ∈ (w.shut now channelId t).books.ledger.rows) :
    ∃ held ∈ w.books.ledger.rows, SameAiring row held ∧
      ((w.books.recorder.opened channelId ≠ some (held.entryId, held.actualStart) ∧ row = held) ∨
        (w.books.recorder.opened channelId = some (held.entryId, held.actualStart) ∧
          held.channelId = channelId ∧ openAiring held = true ∧ row.actualEnd = t ∧
          row.durationS = wholeSeconds (t - held.actualStart))) := by
  have hrow : row ∈ (w.books.closeLocked now channelId t).ledger.rows := hrow
  cases hopen : w.books.recorder.opened channelId with
  | none =>
    rw [closeLocked_of_closed hopen] at hrow
    exact ⟨row, hrow, .refl row, .inl ⟨by simp, rfl⟩⟩
  | some open_ =>
    obtain ⟨entryId, start⟩ := open_
    rcases h.opened _ _ _ hopen with ⟨hstart, ⟨first, hfirst, hid, hchannel, hbegan, hairing⟩, _⟩
    rw [(closeLocked_of_opened hopen (hstart.trans ht)).2, closeEntry_rows] at hrow
    rcases mem_map.mp hrow with ⟨held, hheld, rfl⟩
    refine ⟨held, hheld, sameAiring_closeRow, ?_⟩
    -- only the row with the open entry's id is closed
    by_cases hkey : held.entryId = entryId
    · have heq : held = first := Lib.Table.eq_of_key_eq hheld hfirst (hkey.trans hid.symm)
      subst heq
      right
      have hzero : held.durationS = 0 := by
        simp [openAiring] at hairing
        exact hairing.1
      refine ⟨by rw [hid, hbegan], hchannel, hairing, ?_, ?_⟩
      · simp [closeRow, hkey, hzero]
      · simp [closeRow, hkey, hzero, hbegan]
    · left
      refine ⟨?_, by simp [closeRow, hkey]⟩
      intro hsame
      have hsame := Option.some.inj hsame
      exact hkey (congrArg Prod.fst hsame).symm

variable (channelId now) in
lemma Kept.shut_mem (hheld : held ∈ w.books.ledger.rows) :
    ∃ row ∈ (w.shut now channelId t).books.ledger.rows, SameAiring row held ∧
      (held.channelId ≠ channelId → row = held) := by
  show ∃ row ∈ (w.books.closeLocked now channelId t).ledger.rows, _
  cases hopen : w.books.recorder.opened channelId with
  | none =>
    rw [closeLocked_of_closed hopen]
    exact ⟨held, hheld, .refl held, fun _ => rfl⟩
  | some open_ =>
    obtain ⟨entryId, start⟩ := open_
    rcases h.opened _ _ _ hopen with ⟨hstart, ⟨first, hfirst, hid, hchannel, _⟩, _⟩
    rw [(closeLocked_of_opened hopen (hstart.trans ht)).2, closeEntry_rows]
    refine ⟨_, mem_map.mpr ⟨held, hheld, rfl⟩, sameAiring_closeRow, ?_⟩
    intro hother
    have hkey : held.entryId ≠ entryId := by
      intro hkey
      have heq : held = first := Lib.Table.eq_of_key_eq hheld hfirst (hkey.trans hid.symm)
      rw [heq] at hother
      exact hother hchannel
    simp [closeRow, hkey]

variable (channelId now) in
lemma Kept.shut : Kept stationId (w.shut now channelId t) where
  station := by
    intro row hrow
    rcases h.shut_row ht hrow with ⟨held, hheld, hsame, _⟩
    rw [hsame.stationId]
    exact h.station held hheld
  opened := by
    intro channel entryId start hopen
    rw [h.shut_opened ht] at hopen
    -- the channel has no open entry any more; on another one all stays
    by_cases hchannel : channel = channelId
    · subst hchannel
      rw [update_self] at hopen
      cases hopen
    · rw [update_of_ne hchannel] at hopen
      rcases h.opened _ _ _ hopen with ⟨hstart, ⟨held, hheld, hid, hon, hbegan, hairing⟩, hspan⟩
      rcases h.shut_mem channelId now ht hheld with ⟨row, hrow, _, hother⟩
      have hrow' : row = held := hother (by rw [hon]; exact hchannel)
      subst hrow'
      refine ⟨hstart.trans ht, ⟨row, hrow, hid, hon, hbegan, hairing⟩, ?_⟩
      exact mem_endAt_of_other (by simp [hchannel]) hspan
  closed := by
    intro row hrow
    rcases h.shut_row ht hrow with
      ⟨held, hheld, hsame, ⟨hnot, rfl⟩ | ⟨hopen, hchannel, hairing, hend, hduration⟩⟩
    · -- the row is not the open one of the channel
      rcases h.closed row hheld with ⟨hopen, hairing⟩ | ⟨hle, hduration, hspan⟩
      · left
        refine ⟨?_, hairing⟩
        have hother : row.channelId ≠ channelId := by
          rintro rfl
          exact hnot hopen
        rw [h.shut_opened ht, update_of_ne hother]
        exact hopen
      · right
        exact ⟨hle, hduration, mem_endAt_of_stopped hspan⟩
    · right
      have hopened := h.opened _ _ _ hopen
      refine ⟨?_, ?_, ?_⟩
      · rw [hend, hsame.actualStart]
        exact hopened.1.trans ht
      · rw [hend, hsame.actualStart]
        exact hduration
      · rw [hend, hsame.actualStart, hsame.channelId, hchannel]
        exact mem_endAt_of_running (by simp) hopened.2.2

lemma Superseded.shut (hsame : SameAiring row held)
    (hsuperseded : Superseded w.spans w.books.ledger.rows held) :
    Superseded (w.shut now channelId t).spans (w.shut now channelId t).books.ledger.rows row := by
  rcases hsuperseded with ⟨stop, hspan, later, hlater, hchannel, hafter, hbefore⟩
  rcases h.shut_mem channelId now ht hlater with ⟨later', hlater', hairing, _⟩
  refine ⟨stop, ?_, later', hlater', ?_, ?_, ?_⟩
  · rw [hsame.channelId, hsame.actualStart]
    exact mem_endAt_of_stopped hspan
  · rw [hairing.channelId, hsame.channelId]
    exact hchannel
  · rw [hairing.actualStart, hsame.actualStart]
    exact hafter
  · rw [hairing.actualStart]
    exact hbefore

omit ht

/-- After the close a row that looks open and is the last with its start is covered as
before, or its start is that of the row that was closed. -/
lemma Kept.shut_covered_cases (hcovered : Covered w) (ht : w.clock ≤ t)
    (hrow : row ∈ (w.shut now channelId t).books.ledger.rows) (hairing : openAiring row = true)
    (hlast : LastAt (w.shut now channelId t).books.ledger.rows row) :
    (∃ entryId, (w.shut now channelId t).books.recorder.opened row.channelId =
        some (entryId, row.actualStart)) ∨
      Superseded (w.shut now channelId t).spans (w.shut now channelId t).books.ledger.rows row ∨
      (row.channelId = channelId ∧ ∃ entryId,
        w.books.recorder.opened channelId = some (entryId, row.actualStart) ∧
          (row.entryId = entryId → row.actualStart = t)) := by
  rcases h.shut_row ht hrow with ⟨held, hheld, hsame, hcases⟩
  have hlooks : openAiring held = true := by
    rcases hcases with ⟨_, rfl⟩ | ⟨_, _, hheldAiring, _⟩
    · exact hairing
    · exact hheldAiring
  have hlastHeld : LastAt w.books.ledger.rows held := by
    intro other hother hchannel hstart
    rcases h.shut_mem channelId now ht hother with ⟨other', hother', hsame', _⟩
    have hle := hlast other' hother' (by rw [hsame'.channelId, hsame.channelId, hchannel])
      (by rw [hsame'.actualStart, hsame.actualStart, hstart])
    rwa [hsame'.entryId, hsame.entryId] at hle
  rcases hcovered held hheld hlooks hlastHeld with ⟨entryId, hopen⟩ | hsuperseded
  · -- the recorder has the row open: it is closed now, or is another channel's
    by_cases hchannel : held.channelId = channelId
    · right
      right
      rw [hchannel] at hopen
      refine ⟨hsame.channelId.trans hchannel, entryId, ?_, ?_⟩
      · rw [hsame.actualStart]
        exact hopen
      · intro hid
        rw [hsame.entryId] at hid
        rcases hcases with ⟨hnot, _⟩ | ⟨_, _, _, hend, _⟩
        · exact absurd (hid ▸ hopen) hnot
        · simp [openAiring] at hairing
          rw [← hairing.2, hend]
    · left
      refine ⟨entryId, ?_⟩
      rw [h.shut_opened ht, hsame.channelId, update_of_ne hchannel, hsame.actualStart]
      exact hopen
  · right
    left
    exact hsuperseded.shut h ht hsame

omit h

lemma Covered.shut (hcovered : Covered w) (h : Kept stationId w) (ht : w.clock ≤ t)
    (hcloses : ClosesWell w channelId t) : Covered (w.shut now channelId t) := by
  intro row hrow hairing hlast
  rcases h.shut_covered_cases hcovered ht hrow hairing hlast with
    hopen | hsuperseded | ⟨hchannel, entryId, hopen, hclosed⟩
  · exact .inl hopen
  · exact .inr hsuperseded
  · rcases hcloses _ _ hopen with ⟨hlater, hgreatest⟩
    rcases h.opened _ _ _ hopen with ⟨_, ⟨first, hfirst, hid, hon, hbegan, _⟩, _⟩
    rcases h.shut_mem channelId now ht hfirst with ⟨first', hfirst', hsame, _⟩
    rcases h.shut_row ht hrow with ⟨held, hheld, hsameRow, _⟩
    have hge := hlast first' hfirst' (by rw [hsame.channelId, hon, hchannel])
      (by rw [hsame.actualStart, hbegan])
    have hle := hgreatest held hheld (hsameRow.channelId.symm.trans hchannel)
      hsameRow.actualStart.symm
    rw [hsame.entryId, hid] at hge
    rw [← hsameRow.entryId] at hle
    have hstart := hclosed (String.le_antisymm hle hge)
    rw [hstart] at hlater
    exact absurd hlater (lt_irrefl _)

end Shut

/-! ## A run -/

section Steps

variable {stationId : String} {w : Station} {d : Draw} {c : Transition}

lemma Kept.more_spans (h : Kept stationId w) (span : Span) :
    Kept stationId { w with spans := span :: w.spans } where
  station := h.station
  opened := by
    intro channelId entryId start hopen
    rcases h.opened _ _ _ hopen with ⟨hstart, hrow, hspan⟩
    exact ⟨hstart, hrow, mem_cons_of_mem _ hspan⟩
  closed := by
    intro row hrow
    rcases h.closed row hrow with hopen | ⟨hle, hduration, hspan⟩
    · exact .inl hopen
    · exact .inr ⟨hle, hduration, mem_cons_of_mem _ hspan⟩

lemma Superseded.mono {spans spans' : List Span} {rows rows' : List AsRunLogEntry}
    {row : AsRunLogEntry} (h : Superseded spans rows row) (hspans : spans ⊆ spans')
    (hrows : rows ⊆ rows') : Superseded spans' rows' row := by
  rcases h with ⟨stop, hspan, later, hlater, hrest⟩
  exact ⟨stop, hspans hspan, later, hrows hlater, hrest⟩

lemma Covered.more_spans (h : Covered w) (span : Span) :
    Covered { w with spans := span :: w.spans } := by
  intro row hrow hairing hlast
  rcases h row hrow hairing hlast with hopen | hsuperseded
  · exact .inl hopen
  · exact .inr (hsuperseded.mono (subset_cons_self _ _) fun _ hx => hx)

lemma appendAsRun_rows {now : Instant} {entry : AsRunLogEntry} {l : Ledger}
    (h : l.get entry.entryId = none) :
    (l.appendAsRun now entry).rows = l.rows ++ [{ entry with updatedAt := now }] := by
  unfold Ledger.appendAsRun Lib.Table.upsert
  rw [dif_pos h]
  rfl

/-- The station after a transition that is recorded: the open row is closed, and a new
one opened. -/
def Station.recorded (stationId : String) (w : Station) (d : Draw) (c : Transition) : Station where
  books := (w.shut d.now c.channelId c.actualStart).books.openRow stationId d c
  spans := { channelId := c.channelId, start := c.actualStart, stop := none } ::
    (w.shut d.now c.channelId c.actualStart).spans
  clock := c.actualStart

lemma recorded_opened (stationId : String) (w : Station) (d : Draw) (c : Transition) :
    (w.recorded stationId d c).books.recorder.opened =
      update (w.shut d.now c.channelId c.actualStart).books.recorder.opened c.channelId
        (some (d.entryId, c.actualStart)) := rfl

lemma Kept.recorded_rows (h : Kept stationId w) (ht : w.clock ≤ c.actualStart)
    (hfresh : w.books.ledger.get d.entryId = none) :
    (w.recorded stationId d c).books.ledger.rows =
      (w.shut d.now c.channelId c.actualStart).books.ledger.rows ++
        [Books.newEntry stationId d c] := by
  have hnew : (w.shut d.now c.channelId c.actualStart).books.ledger.get
      (Books.newEntry stationId d c).entryId = none := by
    rw [Lib.Table.get_eq_none_iff]
    intro row hrow
    rcases h.shut_row ht hrow with ⟨held, hheld, hsame, _⟩
    rw [hsame.entryId]
    exact Lib.Table.get_eq_none_iff.mp hfresh held hheld
  exact appendAsRun_rows hnew

lemma Kept.recorded (h : Kept stationId w) (ht : w.clock ≤ c.actualStart)
    (hfresh : w.books.ledger.get d.entryId = none) : Kept stationId (w.recorded stationId d c) := by
  have hshut := h.shut c.channelId d.now ht
  have hrows := h.recorded_rows ht hfresh
  have hclosed : (w.shut d.now c.channelId c.actualStart).books.recorder.opened c.channelId =
      none := by
    rw [h.shut_opened ht, update_self]
  constructor
  · intro row hrow
    rw [hrows] at hrow
    rcases mem_append.mp hrow with hold | hnew
    · exact hshut.station row hold
    · rw [mem_singleton.mp hnew]
      rfl
  · intro channelId entryId start hopen
    rw [hrows]
    by_cases hchannel : channelId = c.channelId
    · subst hchannel
      rw [recorded_opened, update_self] at hopen
      cases hopen
      refine ⟨le_rfl, ⟨_, mem_append_right _ (mem_singleton_self _), rfl, rfl, rfl, ?_⟩,
        mem_cons_self⟩
      simp [openAiring, Books.newEntry]
    · rw [recorded_opened, update_of_ne hchannel] at hopen
      rcases hshut.opened _ _ _ hopen with ⟨hstart, ⟨row, hrow, hrest⟩, hspan⟩
      exact ⟨hstart, ⟨row, mem_append_left _ hrow, hrest⟩, mem_cons_of_mem _ hspan⟩
  · intro row hrow
    rw [hrows] at hrow
    rcases mem_append.mp hrow with hold | hnew
    · rcases hshut.closed row hold with ⟨hopen, hairing⟩ | ⟨hle, hduration, hspan⟩
      · left
        refine ⟨?_, hairing⟩
        -- an open row is of another channel: this one was just closed
        have hother : row.channelId ≠ c.channelId := by
          intro heq
          rw [heq, hclosed] at hopen
          cases hopen
        rw [recorded_opened, update_of_ne hother]
        exact hopen
      · exact .inr ⟨hle, hduration, mem_cons_of_mem _ hspan⟩
    · left
      rw [mem_singleton.mp hnew]
      refine ⟨?_, by simp [openAiring, Books.newEntry]⟩
      rw [recorded_opened]
      exact update_self ..

/-- A recorded transition covers what the row before it left open. -/
lemma Covered.recorded (hcovered : Covered w) (h : Kept stationId w) (ht : w.clock ≤ c.actualStart)
    (hfresh : w.books.ledger.get d.entryId = none) : Covered (w.recorded stationId d c) := by
  have hrows := h.recorded_rows ht hfresh
  have hopened : (w.recorded stationId d c).books.recorder.opened c.channelId =
      some (d.entryId, c.actualStart) := by
    rw [recorded_opened, update_self]
  intro row hrow hairing hlast
  rw [hrows] at hrow hlast ⊢
  rcases mem_append.mp hrow with hold | hnew
  · have hlastOld : LastAt (w.shut d.now c.channelId c.actualStart).books.ledger.rows row :=
      fun other hother => hlast other (mem_append_left _ hother)
    rcases h.shut_covered_cases hcovered ht hold hairing hlastOld with
      ⟨entryId, hopen⟩ | hsuperseded | ⟨hchannel, entryId, hopen, _⟩
    · left
      refine ⟨entryId, ?_⟩
      have hother : row.channelId ≠ c.channelId := by
        intro heq
        rw [heq, h.shut_opened ht, update_self] at hopen
        cases hopen
      rw [recorded_opened, update_of_ne hother]
      exact hopen
    · right
      exact hsuperseded.mono (subset_cons_self _ _) (subset_append_left _ _)
    · -- the row that was shut: the new one starts later, or at the same time
      rcases h.opened _ _ _ hopen with ⟨hstart, _, hspan⟩
      rcases lt_or_eq_of_le (hstart.trans ht) with hbefore | hsame
      · right
        refine ⟨c.actualStart, mem_cons_of_mem _ ?_, Books.newEntry stationId d c,
          mem_append_right _ (mem_singleton_self _), hchannel.symm, hbefore, le_rfl⟩
        rw [hchannel]
        exact mem_endAt_of_running (by simp) hspan
      · left
        exact ⟨d.entryId, by rw [hchannel, hsame]; exact hopened⟩
  · left
    rw [mem_singleton.mp hnew]
    exact ⟨d.entryId, hopened⟩

/-- A transition in three cases: it continues what is open, it is recorded, or its ids
fail validation after the open row was closed. -/
lemma step_transition (stationId : String) (w : Station) (d : Draw) (c : Transition) :
    w.step stationId (.transition d c) =
      if w.books.recorder.continues c then
        { w with
          books := { w.books with recorder := { w.books.recorder with
            offset := update w.books.recorder.offset c.channelId c.sourceOffsetSeconds } }
          clock := c.actualStart }
      else if Books.validEntry (Books.newEntry stationId d c) then w.recorded stationId d c
      else
        { w.shut d.now c.channelId c.actualStart with
          spans := { channelId := c.channelId, start := c.actualStart, stop := none } ::
            (w.shut d.now c.channelId c.actualStart).spans } := by
  show Station.mk _ _ _ = _
  unfold Books.recordTransition
  by_cases hcontinues : w.books.recorder.continues c = true
  · simp only [hcontinues, if_true]
  · by_cases hvalid : Books.validEntry (Books.newEntry stationId d c) = true
    · simp only [hcontinues, hvalid, if_true]
      rfl
    · simp only [hcontinues, hvalid]
      rfl

/-- The ledger agrees with what was on air. -/
def Sound (stationId : String) (w : Station) : Prop := Kept stationId w ∧ Covered w

lemma sound_opening {stationId : String} (clock : Instant) :
    Sound stationId (Station.opening clock) := by
  refine ⟨⟨?_, ?_, ?_⟩, ?_⟩
  · intro row hrow
    cases hrow
  · intro channelId entryId start hopen
    cases hopen
  · intro row hrow
    cases hrow
  · intro row hrow
    cases hrow

lemma Sound.processEnd (h : Sound stationId w) {t : Instant}
    (hclean : ∀ channelId, w.books.recorder.opened channelId = none) :
    Sound stationId (w.step stationId (.processEnd t)) := by
  rcases h with ⟨hkept, hcovered⟩
  refine ⟨⟨hkept.station, ?_, ?_⟩, ?_⟩
  · intro channelId entryId start hopen
    cases hopen
  · intro row hrow
    rcases hkept.closed row hrow with ⟨hopen, _⟩ | ⟨hle, hduration, hspan⟩
    · rw [hclean] at hopen
      cases hopen
    · exact .inr ⟨hle, hduration, mem_endAt_of_stopped hspan⟩
  · intro row hrow hairing hlast
    rcases hcovered row hrow hairing hlast with ⟨entryId, hopen⟩ | ⟨stop, hspan, hlater⟩
    · rw [hclean] at hopen
      cases hopen
    · exact .inr ⟨stop, mem_endAt_of_stopped hspan, hlater⟩

lemma Sound.transition (h : Sound stationId w) (hadmits : w.Admits (.transition d c))
    (hclean : Clean stationId w (.transition d c)) :
    Sound stationId (w.step stationId (.transition d c)) := by
  rcases h with ⟨hkept, hcovered⟩
  rcases hadmits with ⟨htime, hfresh⟩
  have htime : w.clock ≤ c.actualStart := htime
  rw [step_transition]
  split
  · refine ⟨⟨hkept.station, ?_, hkept.closed⟩, hcovered⟩
    intro channelId entryId start hopen
    rcases hkept.opened _ _ _ hopen with ⟨hstart, hrest⟩
    exact ⟨hstart.trans htime, hrest⟩
  · rename_i hnew
    split
    · exact ⟨hkept.recorded htime hfresh, hcovered.recorded hkept htime hfresh⟩
    · rename_i hinvalid
      have hcloses := hclean (by simpa using hnew) (by simpa using hinvalid)
      exact ⟨(hkept.shut _ _ htime).more_spans _, (hcovered.shut hkept htime hcloses).more_spans _⟩

lemma Sound.step (h : Sound stationId w) {e : AirEvent} (hadmits : w.Admits e)
    (hclean : Clean stationId w e) : Sound stationId (w.step stationId e) := by
  cases e with
  | transition d c => exact h.transition hadmits hclean
  | closeOpen now channelId actualEnd =>
    exact ⟨h.1.shut _ _ hadmits.1, h.2.shut h.1 hadmits.1 hclean⟩
  | processEnd t => exact h.processEnd hclean

/-- Along every run of clean events the reports give no channel more airtime than it
had. -/
theorem no_phantom_airtime (stationId : String) (clock : Instant) (w : Station)
    (h : Station.Run stationId (Clean stationId) (.opening clock) w) :
    NoPhantom .postgresql stationId w := by
  have hsound : Sound stationId w := by
    induction h with
    | refl => exact sound_opening clock
    | step _ e hadmits hclean ih => exact ih.step hadmits hclean
  exact noPhantom_of_covered hsound.1 hsound.2

def programAt (t : Instant) : Transition where
  channelId := "gov"
  sourceKind := .program
  assetId := some "council"
  actualStart := t
  scheduleItemId := none
  sourceOffsetSeconds := none
  scheduleOccurrenceStart := none

def drawing (entryId : String) : Draw where
  entryId := entryId
  now := 0
  plannedStart := none
  trafficked := false

/-- Two programs of ten seconds each. -/
def twoPrograms : Station :=
  ((Station.opening 0).step "station" (.transition (drawing "asrun-1") (programAt 0))).step
    "station" (.transition (drawing "asrun-2") (programAt 10000000))

def offAir : Station := twoPrograms.step "station" (.closeOpen 0 "gov" 20000000)

/-- A report of the whole minute gives them the twenty seconds they had. -/
theorem no_phantom_airtime_two_programs :
    NoPhantom .postgresql "station" offAir ∧
      onAirSeconds offAir.spans "gov" 0 60000000 60000000 = 20 ∧
      ((showsReport .postgresql offAir.books.ledger.rows "station" (some "gov")
        0 60000000 60000000).map ShowsReportRow.totalAirtimeS).sum = 20 := by
  refine ⟨no_phantom_airtime "station" 0 offAir ?_, by decide +kernel, by decide +kernel⟩
  have hvalid : Books.validEntry (Books.newEntry "station" (drawing "asrun-1") (programAt 0)) ∧
      Books.validEntry (Books.newEntry "station" (drawing "asrun-2") (programAt 10000000)) := by
    decide +kernel
  have hfirst : Station.Run "station" (Clean "station") (.opening 0)
      ((Station.opening 0).step "station" (.transition (drawing "asrun-1") (programAt 0))) := by
    refine Station.Run.refl.step _ ⟨le_rfl, rfl⟩ ?_
    intro _ hinvalid
    rw [hvalid.1] at hinvalid
    cases hinvalid
  have hsecond : Station.Run "station" (Clean "station") (.opening 0) twoPrograms := by
    refine hfirst.step _ ⟨by decide, by decide +kernel⟩ ?_
    intro _ hinvalid
    rw [hvalid.2] at hinvalid
    cases hinvalid
  have hopened : twoPrograms.books.recorder.opened "gov" = some ("asrun-2", 10000000) := by
    decide +kernel
  refine hsecond.step _ ⟨by decide, trivial⟩ ?_
  intro entryId start hopen
  rw [hopened] at hopen
  cases hopen
  refine ⟨by decide, ?_⟩
  decide +kernel

/-- A program that leaves the air at the instant it went on. -/
def glimpse : Station :=
  ((Station.opening 0).step "station" (.transition (drawing "asrun-1") (programAt 0))).step
    "station" (.closeOpen 0 "gov" 0)

/-- Ten seconds later a report gives it the ten seconds. -/
theorem glimpse_has_airtime :
    ¬ ∀ (stationId : String) (clock : Instant) (w : Station),
      Station.Run stationId (fun _ _ => True) (.opening clock) w →
        NoPhantom .postgresql stationId w := by
  intro h
  have hrun : Station.Run "station" (fun _ _ => True) (.opening 0) glimpse := by
    refine (Station.Run.refl.step _ ?_ trivial).step _ ?_ trivial
    · exact ⟨le_rfl, rfl⟩
    · exact ⟨le_rfl, trivial⟩
  have hshows := (h "station" 0 glimpse hrun ⟨fun _ => none, fun _ _ => none⟩ "" "gov"
    0 60000000 10000000).1
  have hreported : ((showsReport .postgresql glimpse.books.ledger.rows "station" (some "gov")
      0 60000000 10000000).map ShowsReportRow.totalAirtimeS).sum = 10 := by
    decide +kernel
  have hair : onAirSeconds glimpse.spans "gov" 0 60000000 10000000 = 0 := by
    decide +kernel
  rw [hreported, hair] at hshows
  exact absurd hshows (by decide)

end Steps

end CivicCast.Reporting
