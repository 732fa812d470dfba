import CivicCast.Lib.Python

/-! # HLS playlists

What the manifest publisher reads in a playlist: the segments with their
durations, and the program dates. A `Window` is a playlist that was accepted:
its names are local segment names, no name comes twice and every duration is
positive.

Aligning the program dates rewrites or drops date lines and nothing else, so it
keeps the window (`alignProgramDates_window`).
-/

namespace CivicCast.Egress

open Lib List Text Option

/-- The bytes of a file, decoded; `none` is not UTF-8. -/
abbrev Data : Type := Option Text

/-! ## Segments -/

/-- `_HLS_SEGMENT_NAME.fullmatch`: `seg`, nine digits, `.ts`. -/
def isSegmentName (t : Text) : Bool :=
  t.length = 15 ∧ t.take 3 = "seg".toList ∧
    ((t.drop 3).take 9).all (fun c => (Text.digit c).isSome) ∧ t.drop 12 = ".ts".toList

/-- `int(name[3:12])`. -/
def segmentNumber (name : Text) : ℕ :=
  Text.digitsValue (((name.drop 3).take 9).filterMap Text.digit)

/-- The segments of an accepted playlist with their `EXTINF` durations. -/
structure Window where
  entries : List (Text × ℚ)
  named : ∀ e ∈ entries, isSegmentName e.1 = true
  distinct : (entries.map Prod.fst).Nodup
  positive : ∀ e ∈ entries, 0 < e.2
deriving DecidableEq

namespace Window

def empty : Window := ⟨[], by simp, by simp, by simp⟩

def names (w : Window) : List Text := w.entries.map Prod.fst

/-- `sum(segments.values())`. -/
def lifetime (w : Window) : ℚ := (w.entries.map Prod.snd).sum

/-- `max(segments.values(), default=0.0)`; durations are positive. -/
def longest (w : Window) : ℚ := (w.entries.map Prod.snd).foldl max 0

/-- `durations[line] = pending_duration`. -/
def add (w : Window) (name : Text) (duration : ℚ) (hname : isSegmentName name = true)
    (hnew : name ∉ w.names) (hpos : 0 < duration) : Window where
  entries := w.entries ++ [(name, duration)]
  named := by
    intro e he
    rcases List.mem_append.mp he with he | he
    · exact w.named e he
    · rw [List.mem_singleton.mp he]
      exact hname
  distinct := by
    rw [List.map_append, List.nodup_append]
    refine ⟨w.distinct, by simp, ?_⟩
    intro a ha b hb hab
    have hb' : b = name := by simpa using hb
    rw [hab, hb'] at ha
    exact hnew ha
  positive := by
    intro e he
    rcases List.mem_append.mp he with he | he
    · exact w.positive e he
    · rw [List.mem_singleton.mp he]
      exact hpos

end Window

/-- The loop state of `_playlist_segment_durations`. -/
structure PlaylistScan where
  durations : Window
  pending : Option { d : ℚ // 0 < d }

/-- The duration of an `#EXTINF:` line. -/
def extinfDuration (line : Text) : Option { d : ℚ // 0 < d } :=
  match Text.float ((line.drop "#EXTINF:".length).takeWhile fun c => c ≠ ',') with
  | some (.finite d) => if h : 0 < d then some ⟨d, h⟩ else none
  | some (.infinite _) | some .nan | none => none

/-- One stripped line. A segment name has no separator, so the check that it is
its own `Path.name` is part of the pattern. -/
def PlaylistScan.stepLine (s : PlaylistScan) (line : Text) : Option PlaylistScan :=
  if line = [] then some s
  else if "#EXTINF:".toList.isPrefixOf line then
    match s.pending with
    | some _ => none
    -- two durations in a row, or a segment without one, is malformed
    | none => (extinfDuration line).map fun d => { s with pending := some d }
  else if ['#'].isPrefixOf line then some s
  else
    match s.pending with
    | none => none
    | some d =>
      if h : isSegmentName line = true ∧ line ∉ s.durations.names then
        some { durations := s.durations.add line d.1 h.1 h.2 d.2, pending := none }
      else none

def PlaylistScan.step (s : PlaylistScan) (rawLine : Text) : Option PlaylistScan :=
  s.stepLine (Text.strip rawLine)

def scanPlaylist (lines : List Text) : Option PlaylistScan :=
  lines.foldlM PlaylistScan.step { durations := .empty, pending := none }

def windowOfLines : List Text → Option Window
  | [] => none
  | first :: rest =>
    if Text.strip first ≠ "#EXTM3U".toList then none
    else
      match scanPlaylist rest with
      | none => none
      | some s => if s.pending.isSome then none else some s.durations

/-- `_playlist_segment_durations`: `none` is malformed. -/
def playlistSegmentDurations (data : Data) : Option Window :=
  data.bind fun text => windowOfLines (Text.splitLines text)

/-! ## Program dates -/

/-- What `datetime` makes of a date text: its instant (a naive date outside the
platform's range has none) and whether it carries an offset. -/
structure Stamp where
  timestamp : Option ℚ
  aware : Bool

/-- The `datetime` calls of the publisher: `fromisoformat`, and the UTC
`isoformat` of an instant, which stays on one line and is refused out of
range. -/
structure DateLibrary where
  fromisoformat : Text → Option Stamp
  isoformat : ℚ → Option Text
  isoformat_oneLine : ∀ t s, isoformat t = some s → Text.OneLine s

def datePrefix : Text := "#EXT-X-PROGRAM-DATE-TIME:".toList

abbrev Dates : Type := AList fun _ : Text => Text

/-- The loop of `_playlist_program_dates`. -/
def programDatesOfLines (lib : DateLibrary) : List Text → Option Text → Dates → Option Dates
  | [], _, dates => some dates
  | line :: rest, pending, dates =>
    if datePrefix.isPrefixOf line then
      match lib.fromisoformat (Text.afterColon line) with
      | none => none
      | some stamp =>
        programDatesOfLines lib rest
          (if stamp.aware then some (Text.afterColon line) else none) dates
    else if isSegmentName line then
      match pending with
      | none => programDatesOfLines lib rest none dates
      | some value => programDatesOfLines lib rest none (dates.insert line value)
    else programDatesOfLines lib rest pending dates

/-- `_playlist_program_dates`: empty when anything in it cannot be read. -/
def playlistProgramDates (lib : DateLibrary) (data : Data) : Dates :=
  match data with
  | none => ∅
  | some text => (programDatesOfLines lib (Text.splitLines text) none ∅).getD ∅

/-- The dates are values one can put back in a line. -/
def Dates.OneLine (dates : Dates) : Prop := ∀ name value, dates.lookup name = some value →
  Text.OneLine value

lemma Dates.oneLine_empty : Dates.OneLine ∅ := by
  intro name value h
  rw [AList.lookup_empty] at h
  cases h

lemma programDatesOfLines_oneLine (lib : DateLibrary) {lines : List Text} :
    ∀ pending dates result, (∀ line ∈ lines, Text.OneLine line) →
      (∀ value ∈ pending, Text.OneLine value) → Dates.OneLine dates →
      programDatesOfLines lib lines pending dates = some result → Dates.OneLine result := by
  induction lines with
  | nil =>
    intro pending dates result _ _ hdates h
    cases h
    exact hdates
  | cons line rest ih =>
    intro pending dates result hlines hpending hdates h
    have hrest : ∀ l ∈ rest, Text.OneLine l := fun l hl => hlines l (mem_cons_of_mem _ hl)
    have hline := hlines line mem_cons_self
    unfold programDatesOfLines at h
    by_cases hdate : datePrefix.isPrefixOf line = true
    · rw [if_pos hdate] at h
      cases hstamp : lib.fromisoformat (afterColon line) with
      | none =>
        rw [hstamp] at h
        cases h
      | some stamp =>
        rw [hstamp] at h
        refine ih _ _ _ hrest ?_ hdates h
        intro value hvalue
        split_ifs at hvalue
        · cases hvalue
          exact hline.afterColon
        · cases hvalue
    · rw [if_neg hdate] at h
      by_cases hname : isSegmentName line = true
      · rw [if_pos hname] at h
        cases pending with
        | none => exact ih _ _ _ hrest (by simp) hdates h
        | some value =>
          refine ih _ _ _ hrest (by simp) ?_ h
          -- the new entry is the pending date, the others were there
          intro name' value' hlookup
          by_cases hsame : name' = line
          · rw [hsame, AList.lookup_insert] at hlookup
            cases hlookup
            exact hpending value rfl
          · rw [AList.lookup_insert_ne hsame] at hlookup
            exact hdates name' value' hlookup
      · rw [if_neg hname] at h
        exact ih _ _ _ hrest hpending hdates h

lemma playlistProgramDates_oneLine (lib : DateLibrary) {data : Data} :
    Dates.OneLine (playlistProgramDates lib data) := by
  unfold playlistProgramDates
  cases data with
  | none => exact Dates.oneLine_empty
  | some text =>
    dsimp only
    cases hdates : programDatesOfLines lib (splitLines text) none ∅ with
    | none => exact Dates.oneLine_empty
    | some dates =>
      exact programDatesOfLines_oneLine lib _ _ _ (splitLines_oneLine text) (by simp)
        Dates.oneLine_empty hdates

/-! ## Aligning the dates -/

def tsClockWrapSeconds : ℚ := 2 ^ 33 / 90000

/-- What the media clock gives: a generation, a native time and its UTC. -/
structure Anchor where
  generation : Option ℤ
  native : ℚ
  utc : ℚ
deriving DecidableEq

/-- The calibration state of the publisher. -/
structure DateState where
  epochCorrections : AList fun _ : Text => ℚ := ∅
  segmentEpochs : AList fun _ : Text => Text := ∅
  currentEpoch : Text := "initial".toList
  anchor : Option Anchor := none
  probedSegments : List Text := []

/-- The entries of a dict that pass a test. -/
def keepEntries {β : Type} (p : Text → β → Bool) (d : AList fun _ : Text => β) :
    AList fun _ : Text => β where
  entries := d.entries.filter fun e => p e.1 e.2
  nodupKeys := d.nodupKeys.sublist List.filter_sublist

/-- A new anchor drops the calibration. -/
def DateState.anchored (d : DateState) (anchor : Option Anchor) : DateState :=
  if anchor = d.anchor then d else { anchor := anchor }

/-- What stays fixed while the lines of a playlist are calibrated. -/
structure Calibration where
  lib : DateLibrary
  anchor : Option Anchor
  priorSegmentNames : List Text
  dates : Dates
  /-- The first video timestamp of a segment, where there is a finite one. -/
  probe : Text → Option ℚ

/-- The loop state of the calibration. -/
structure CalibrationScan where
  state : DateState
  corrections : AList fun _ : Text => Option ℚ := ∅
  discontinuity : Bool := false

/-- Probe a segment of an epoch that has no correction yet; an error carries
the state reached. -/
def Calibration.probeEpoch (c : Calibration) (d : DateState) (line : Text) :
    Except DateState DateState :=
  match c.anchor, c.dates.lookup line with
  | some anchor, some date =>
    if d.epochCorrections.lookup d.currentEpoch = none ∧ line ∉ c.priorSegmentNames ∧
        line ∉ d.probedSegments then
      let probed := { d with probedSegments := line :: d.probedSegments }
      match c.probe line with
      | none => .ok probed
      | some pts =>
        match (c.lib.fromisoformat date).bind Stamp.timestamp with
        | none => .error probed
        | some rawDate =>
          let delta := pts - anchor.native
          -- the transport clock wraps: take the turn closest to the playlist's own date
          let wrapped := delta +
            roundHalfEven ((rawDate - anchor.utc - delta) / tsClockWrapSeconds) *
              tsClockWrapSeconds
          .ok { probed with epochCorrections :=
            probed.epochCorrections.insert d.currentEpoch (anchor.utc + wrapped - rawDate) }
    else .ok d
  | _, _ => .ok d

def Calibration.step (c : Calibration) (s : CalibrationScan) (line : Text) :
    Except DateState CalibrationScan :=
  if line = "#EXT-X-DISCONTINUITY".toList then .ok { s with discontinuity := true }
  else if isSegmentName line then
    let epoch :=
      -- a segment right after a discontinuity opens an epoch of its own name
      if line ∉ c.priorSegmentNames ∧ s.discontinuity then line
      else (s.state.segmentEpochs.lookup line).getD s.state.currentEpoch
    let d := { s.state with
      currentEpoch := epoch
      segmentEpochs := s.state.segmentEpochs.insert line epoch }
    (c.probeEpoch d line).map fun d => {
      state := d
      corrections := s.corrections.insert line (d.epochCorrections.lookup epoch)
      discontinuity := false }
  else .ok s

/-- The calibration after the lines that were seen. -/
def CalibrationScan.settled (s : CalibrationScan) : DateState :=
  let epochs := keepEntries (fun name _ => (s.corrections.lookup name).isSome) s.state.segmentEpochs
  { s.state with
    segmentEpochs := epochs
    epochCorrections := keepEntries (fun epoch _ => epochs.entries.any fun e => e.2 = epoch)
      s.state.epochCorrections
    probedSegments := s.state.probedSegments.filter fun name => (s.corrections.lookup name).isSome }

/-- What becomes of a date line before `following`: kept, replaced, or dropped
(`some none`); `none` is an instant out of range. -/
def alignedDate (c : Calibration) (programDates : Dates)
    (corrections : AList fun _ : Text => Option ℚ) (line : Text) (following : List Text) :
    Option (Option Text) :=
  let name := (following.find? fun value => ¬ ['#'].isPrefixOf value).getD []
  match programDates.lookup name with
  | some prior => some (some (datePrefix ++ prior))
  | none =>
    if name ∈ c.priorSegmentNames then some (some line)
    else
      match (corrections.lookup name).join with
      | none => some none
      | some correction =>
        match (c.lib.fromisoformat (Text.afterColon line)).bind Stamp.timestamp with
        | none => none
        | some stamp =>
          (c.lib.isoformat (stamp + correction)).map fun date => some (datePrefix ++ date)

def alignedLines (c : Calibration) (programDates : Dates)
    (corrections : AList fun _ : Text => Option ℚ) : List Text → Option (List Text)
  | [] => some []
  | line :: rest =>
    if datePrefix.isPrefixOf line then
      match alignedDate c programDates corrections line rest with
      | none => none
      | some none => alignedLines c programDates corrections rest
      | some (some dated) => (alignedLines c programDates corrections rest).map (dated :: ·)
    else (alignedLines c programDates corrections rest).map (line :: ·)

/-- `_align_program_dates` with a media clock; no data is an exception. -/
def alignProgramDates (lib : DateLibrary) (priorSegmentNames : List Text) (programDates : Dates)
    (anchor : Option Anchor) (probe : Text → Option ℚ) (d : DateState) (data : Data) :
    DateState × Option Data :=
  let d := d.anchored anchor
  let dates := playlistProgramDates lib data
  match data with
  | none => (d, some data)
  | some text =>
    if dates = ∅ then (d, some data)
    else
      let c : Calibration := { lib, anchor, priorSegmentNames, dates, probe }
      match (Text.splitLines text).foldlM c.step { state := d } with
      | .error d => (d, none)
      | .ok s =>
        match alignedLines c programDates s.corrections (Text.splitLines text) with
        | none => (s.settled, none)
        | some lines => (s.settled, some (some (Text.unlines lines)))

/-! ## Alignment keeps the window -/

lemma step_date (s : PlaylistScan) (v : Text) : s.step (datePrefix ++ v) = some s := by
  rcases strip_append (p := datePrefix) (by decide) (by decide) (by decide) v with ⟨w, hw⟩
  rw [PlaylistScan.step, hw]
  rfl

lemma scan_date {line : Text} (h : datePrefix.isPrefixOf line = true) (s : PlaylistScan)
    (lines : List Text) :
    (line :: lines).foldlM PlaylistScan.step s = lines.foldlM PlaylistScan.step s := by
  rcases isPrefixOf_iff_prefix.mp h with ⟨v, rfl⟩
  rw [foldlM_cons, step_date]
  rfl

lemma datePrefix_isPrefixOf {v : Text} : datePrefix.isPrefixOf (datePrefix ++ v) = true :=
  isPrefixOf_iff_prefix.mpr (prefix_append _ _)

section Aligned

variable {c : Calibration} {programDates : Dates} {corrections : AList fun _ : Text => Option ℚ}
  {line dated : Text} {following : List Text}

lemma alignedDate_isDate (hline : datePrefix.isPrefixOf line = true)
    (h : alignedDate c programDates corrections line following = some (some dated)) :
    datePrefix.isPrefixOf dated = true := by
  unfold alignedDate at h
  dsimp only at h
  split at h
  · cases h
    exact datePrefix_isPrefixOf
  · split_ifs at h with hprior
    · cases h
      exact hline
    · split at h
      · cases h
      · split at h
        · cases h
        · rcases map_eq_some_iff.mp h with ⟨date, -, hdate⟩
          cases hdate
          exact datePrefix_isPrefixOf

lemma alignedDate_oneLine (hline : Text.OneLine line) (hdates : programDates.OneLine)
    (h : alignedDate c programDates corrections line following = some (some dated)) :
    Text.OneLine dated := by
  have hprefix : datePrefix.all (fun x => !isLineBreak x) = true := by decide
  have happend : ∀ v, Text.OneLine v → Text.OneLine (datePrefix ++ v) := by
    intro v hv x hx
    rcases mem_append.mp hx with hx | hx
    · simpa using all_eq_true.mp hprefix x hx
    · exact hv x hx
  unfold alignedDate at h
  dsimp only at h
  split at h
  · rename_i prior hprior
    cases h
    exact happend _ (hdates _ _ hprior)
  · split_ifs at h with hprior
    · cases h
      exact hline
    · split at h
      · cases h
      · split at h
        · cases h
        · rcases map_eq_some_iff.mp h with ⟨date, hdate, hdated⟩
          cases hdated
          exact happend _ (c.lib.isoformat_oneLine _ _ hdate)

lemma alignedLines_scan {lines : List Text} : ∀ result (s : PlaylistScan),
    alignedLines c programDates corrections lines = some result →
      result.foldlM PlaylistScan.step s = lines.foldlM PlaylistScan.step s := by
  induction lines with
  | nil =>
    intro result s h
    cases h
    rfl
  | cons line rest ih =>
    intro result s h
    unfold alignedLines at h
    by_cases hdate : datePrefix.isPrefixOf line = true
    · rw [if_pos hdate] at h
      rw [scan_date hdate]
      cases haligned : alignedDate c programDates corrections line rest with
      | none =>
        rw [haligned] at h
        cases h
      | some dated? =>
        rw [haligned] at h
        cases dated? with
        -- a date line that is dropped
        | none => exact ih result s h
        | some dated =>
          -- a date line that is rewritten
          rcases map_eq_some_iff.mp h with ⟨others, hothers, rfl⟩
          rw [scan_date (alignedDate_isDate hdate haligned)]
          exact ih others s hothers
    · rw [if_neg hdate] at h
      rcases map_eq_some_iff.mp h with ⟨others, hothers, rfl⟩
      rw [foldlM_cons, foldlM_cons]
      cases hstep : s.step line with
      | none => rfl
      | some s' => exact ih others s' hothers

lemma alignedLines_oneLine (hdates : programDates.OneLine) {lines : List Text} :
    ∀ result, (∀ line ∈ lines, Text.OneLine line) →
      alignedLines c programDates corrections lines = some result →
      ∀ line ∈ result, Text.OneLine line := by
  induction lines with
  | nil =>
    intro result _ h
    cases h
    simp
  | cons line rest ih =>
    intro result hlines h
    have hrest : ∀ l ∈ rest, Text.OneLine l := fun l hl => hlines l (mem_cons_of_mem _ hl)
    have hline := hlines line mem_cons_self
    have hcons : ∀ first, Text.OneLine first →
        (alignedLines c programDates corrections rest).map (first :: ·) = some result →
        ∀ l ∈ result, Text.OneLine l := by
      intro first hfirst hmap
      rcases map_eq_some_iff.mp hmap with ⟨others, hothers, rfl⟩
      intro l hl
      rcases mem_cons.mp hl with rfl | hl
      · exact hfirst
      · exact ih others hrest hothers l hl
    unfold alignedLines at h
    -- a date line is dropped, or written anew; any other line stays
    by_cases hdate : datePrefix.isPrefixOf line = true
    · rw [if_pos hdate] at h
      cases haligned : alignedDate c programDates corrections line rest with
      | none =>
        rw [haligned] at h
        cases h
      | some dated? =>
        rw [haligned] at h
        cases dated? with
        | none => exact ih result hrest h
        | some dated => exact hcons dated (alignedDate_oneLine hline hdates haligned) h
    · rw [if_neg hdate] at h
      exact hcons line hline h

end Aligned

lemma header_not_date {first : Text} (h : Text.strip first = "#EXTM3U".toList) :
    datePrefix.isPrefixOf first = false := by
  by_contra hdate
  rcases isPrefixOf_iff_prefix.mp ((Bool.not_eq_false _).mp hdate) with ⟨v, rfl⟩
  rcases strip_append (p := datePrefix) (by decide) (by decide) (by decide) v with ⟨w, hw⟩
  rw [hw] at h
  have hchar := congrArg (fun t : Text => t.drop 4) h
  cases hchar

lemma alignProgramDates_window {lib : DateLibrary} {prior : List Text} {programDates : Dates}
    (hdates : programDates.OneLine) {anchor : Option Anchor} {probe : Text → Option ℚ}
    {d : DateState} {data aligned : Data} {w : Window}
    (hwindow : playlistSegmentDurations data = some w)
    (h : (alignProgramDates lib prior programDates anchor probe d data).2 = some aligned) :
    playlistSegmentDurations aligned = some w := by
  unfold alignProgramDates at h
  cases data with
  | none =>
    cases h
    exact hwindow
  | some text =>
    dsimp only at h
    split_ifs at h with hempty
    · cases h
      exact hwindow
    · split at h
      · cases h
      · split at h
        · cases h
        · rename_i lines hlines
          cases h
          have hwindow' : windowOfLines (splitLines text) = some w := hwindow
          cases hsplit : splitLines text with
          | nil =>
            rw [hsplit] at hwindow'
            cases hwindow'
          | cons first rest =>
            have hone := splitLines_oneLine text
            rw [hsplit] at hwindow' hlines hone
            rw [windowOfLines] at hwindow'
            split_ifs at hwindow' with hheader
            rw [not_ne_iff] at hheader
            -- the header is kept, the rest scans alike
            have hresult := alignedLines_oneLine hdates _ hone hlines
            unfold alignedLines at hlines
            rw [header_not_date hheader] at hlines
            rcases map_eq_some_iff.mp hlines with ⟨others, hothers, rfl⟩
            change windowOfLines (splitLines (unlines (first :: others))) = some w
            rw [splitLines_unlines (cons_ne_nil _ _) hresult]
            rw [windowOfLines, scanPlaylist, if_neg (not_ne_iff.mpr hheader),
              alignedLines_scan _ _ hothers]
            exact hwindow'

end CivicCast.Egress
