import CivicCast.Lib.Python

/-! # The segmented caption track

The cues of a track are cut into segments of one length, as many as the last cue in the order of the
starts needs. A cue that starts before it may end after it, and is cut off there.
-/

namespace CivicCast.Captions

open Lib List

/-- A cue in exact seconds. -/
structure CaptionCue where
  cueId : Text
  startSeconds : ℚ
  endSeconds : ℚ
  text : Text
  nonneg : 0 ≤ startSeconds
  ordered : startSeconds < endSeconds
  deriving DecidableEq

/-- The key of the sort: start, end and id. -/
def CaptionCue.key (cue : CaptionCue) : ℚ ×ₗ ℚ ×ₗ Text :=
  toLex (cue.startSeconds, toLex (cue.endSeconds, cue.cueId))

def sortCues (cues : List CaptionCue) : List CaptionCue :=
  cues.insertionSort fun a b => a.key ≤ b.key

/-- A number with leading zeros. -/
def padded (width : ℕ) (n : ℤ) : Text :=
  let digits := (toString n).toList
  replicate (width - digits.length) '0' ++ digits

def formatWebvttTimestamp (seconds : ℚ) : Text :=
  let totalMs := roundHalfEven (seconds * 1000)
  padded 2 (totalMs / 3600000) ++ ":".toList ++ padded 2 (totalMs % 3600000 / 60000) ++
    ":".toList ++ padded 2 (totalMs % 60000 / 1000) ++ ".".toList ++ padded 3 (totalMs % 1000)

/-- `html.escape` without the quotes. -/
def escape (t : Text) : Text := t.flatMap fun c =>
  if c = '&' then "&amp;".toList
  else if c = '<' then "&lt;".toList
  else if c = '>' then "&gt;".toList
  else [c]

def cueLines (cue : CaptionCue) : List Text :=
  [cue.cueId,
    formatWebvttTimestamp cue.startSeconds ++ " --> ".toList ++
      formatWebvttTimestamp cue.endSeconds,
    escape cue.text, []]

/-- `render_webvtt`, line by line. -/
def renderWebvtt (cues : List CaptionCue) : List Text :=
  ["WEBVTT".toList, []] ++ (sortCues cues).flatMap cueLines

/-- A segment file. -/
structure CaptionSegment where
  name : Text
  lines : List Text

/-- The files of a track: its segments and the lines of its playlist. -/
structure CaptionHlsTrackOutput where
  segments : List CaptionSegment
  playlist : List Text

/-- The number of segments: those up to the end of the last cue, and one at least. -/
def segmentCount (cues : List CaptionCue) (segmentDuration : ℤ) : ℕ :=
  match cues.getLast? with
  | none => 0
  | some last => (max 0 (⌈last.endSeconds / segmentDuration⌉ - 1) + 1).toNat

/-- The segment with one number: what is shown during it. -/
def segmentAt (cues : List CaptionCue) (segmentDuration : ℤ) (index : ℕ) : CaptionSegment :=
  let segmentStart : ℚ := index * segmentDuration
  let segmentEnd := segmentStart + segmentDuration
  let segmentCues := cues.filter fun cue =>
    cue.startSeconds < segmentEnd ∧ segmentStart < cue.endSeconds
  ⟨"seg".toList ++ padded 3 index ++ ".vtt".toList, renderWebvtt segmentCues⟩

/-- `write_hls_caption_track`; `none` is its ValueError. -/
def writeHlsCaptionTrack (track : List CaptionCue) (segmentDuration : ℤ) :
    Option CaptionHlsTrackOutput :=
  if segmentDuration ≤ 0 then none
  else
    let cues := sortCues track
    let duration := (toString segmentDuration).toList
    let segments := (range (segmentCount cues segmentDuration)).map (segmentAt cues segmentDuration)
    some
      { segments
        playlist :=
          ["#EXTM3U".toList, "#EXT-X-VERSION:3".toList, "#EXT-X-TARGETDURATION:".toList ++ duration,
            "#EXT-X-MEDIA-SEQUENCE:0".toList, "#EXT-X-PLAYLIST-TYPE:VOD".toList] ++
          (segments.flatMap fun segment =>
            ["#EXTINF:".toList ++ duration ++ ".000,".toList, segment.name]) ++
          ["#EXT-X-ENDLIST".toList] }

/-- The segments are numbered from zero on, and every instant of every cue has its segment in the
playlist, with the cue in it. -/
structure CaptionHlsTrackOutput.Covers (out : CaptionHlsTrackOutput) (track : List CaptionCue)
    (d : ℤ) : Prop where
  numbered : out.segments.map (·.name) =
    (range out.segments.length).map fun index : ℕ => "seg".toList ++ padded 3 index ++ ".vtt".toList
  covered : ∀ cue ∈ track, ∀ t : ℚ, cue.startSeconds ≤ t → t < cue.endSeconds →
    ∀ i : ℕ, i * d ≤ t → t < (i + 1) * d → ∃ segment, out.segments[i]? = some segment ∧
      segment.name ∈ out.playlist ∧ cueLines cue <:+: segment.lines

variable {track : List CaptionCue} {d : ℤ} {out : CaptionHlsTrackOutput} {cue : CaptionCue}

lemma mem_sortCues : cue ∈ sortCues track ↔ cue ∈ track := mem_insertionSort _

lemma cueLines_renderWebvtt (h : cue ∈ track) : cueLines cue <:+: renderWebvtt track := by
  have hlines : cueLines cue ∈ (sortCues track).map cueLines :=
    mem_map.mpr ⟨cue, mem_sortCues.mpr h, rfl⟩
  rw [renderWebvtt, flatMap_def]
  exact (infix_of_mem_flatten hlines).trans (suffix_append _ _).isInfix

/-- A segment that is there has every cue that is shown during it. -/
lemma covered_iff (hd : 0 < d) (h : writeHlsCaptionTrack track d = some out) (hcue : cue ∈ track)
    {t : ℚ} (hstart : cue.startSeconds ≤ t) (hend : t < cue.endSeconds) {i : ℕ}
    (hfrom : i * d ≤ t) (hto : t < (i + 1) * d) :
    (∃ segment, out.segments[i]? = some segment ∧ segment.name ∈ out.playlist ∧
      cueLines cue <:+: segment.lines) ↔ i < segmentCount (sortCues track) d := by
  rw [writeHlsCaptionTrack, if_neg (not_le.mpr hd)] at h
  cases h
  constructor
  · rintro ⟨segment, hsegment, -⟩
    simpa using (List.getElem?_eq_some_iff.mp hsegment).1
  · intro hi
    refine ⟨segmentAt (sortCues track) d i, ?_, ?_, cueLines_renderWebvtt ?_⟩
    · rw [getElem?_map, getElem?_range hi, Option.map_some]
    · have hmem := mem_map_of_mem (f := segmentAt (sortCues track) d) (mem_range.mpr hi)
      refine mem_append_left _ (mem_append_right _ (mem_flatMap.mpr ⟨_, hmem, ?_⟩))
      exact mem_cons_of_mem _ mem_cons_self
    · refine mem_filter.mpr ⟨mem_sortCues.mpr hcue, ?_⟩
      rw [decide_eq_true_eq]
      constructor <;> linarith

lemma segmentCount_eq {last : CaptionCue} (hlast : (sortCues track).getLast? = some last) :
    (segmentCount (sortCues track) d : ℤ) = max 1 ⌈last.endSeconds / d⌉ := by
  simp only [segmentCount, hlast]
  omega

/-- A track is covered exactly if none of its cues ends after the segments that the last of them in
the order of the starts needs. -/
theorem track_covers_iff (track : List CaptionCue) (d : ℤ) :
    (∀ out, writeHlsCaptionTrack track d = some out → out.Covers track d) ↔
      (0 < d → ∀ last ∈ (sortCues track).getLast?, ∀ cue ∈ track,
        cue.endSeconds ≤ d * max 1 ⌈last.endSeconds / d⌉) := by
  constructor
  · intro h hd last hlast cue hcue
    by_contra! hlate
    have hpos : (0 : ℚ) < d := by exact_mod_cast hd
    have hcount : ((max 1 ⌈last.endSeconds / d⌉ : ℤ) : ℚ) = segmentCount (sortCues track) d := by
      rw [← segmentCount_eq hlast, Int.cast_natCast]
    rw [hcount] at hlate
    obtain ⟨out, hout⟩ : ∃ out, writeHlsCaptionTrack track d = some out := by
      simp [writeHlsCaptionTrack, not_le.mpr hd]
    -- the first instant after the segments at which the cue is shown
    obtain ⟨t, hstart, hafter, hend⟩ : ∃ t, cue.startSeconds ≤ t ∧
        d * segmentCount (sortCues track) d ≤ t ∧ t < cue.endSeconds :=
      ⟨_, le_max_left .., le_max_right .., max_lt cue.ordered hlate⟩
    obtain ⟨i, hfrom, hto⟩ : ∃ i : ℕ, i * d ≤ t ∧ t < (i + 1) * d := by
      refine ⟨⌊t / d⌋₊, ?_, ?_⟩
      · exact (le_div_iff₀ hpos).mp (Nat.floor_le (div_nonneg (cue.nonneg.trans hstart) hpos.le))
      · exact (div_lt_iff₀ hpos).mp (Nat.lt_floor_add_one _)
    have hi := (covered_iff hd hout hcue hstart hend hfrom hto).mp
      ((h out hout).covered cue hcue t hstart hend i hfrom hto)
    have hle : ((i + 1 : ℕ) : ℚ) ≤ segmentCount (sortCues track) d := by exact_mod_cast hi
    push_cast at hle
    nlinarith
  · intro h out hout
    have hd : 0 < d := by
      by_contra hd
      simp [writeHlsCaptionTrack, not_lt.mp hd] at hout
    refine ⟨?_, fun cue hcue t hstart hend i hfrom hto => ?_⟩
    · rw [writeHlsCaptionTrack, if_neg (not_le.mpr hd)] at hout
      cases hout
      rw [map_map, length_map, length_range]
      rfl
    · refine (covered_iff hd hout hcue hstart hend hfrom hto).mpr ?_
      obtain ⟨last, hlast⟩ : ∃ last, (sortCues track).getLast? = some last := by
        rw [← Option.isSome_iff_exists, getLast?_isSome]
        exact ne_nil_of_mem (mem_sortCues.mpr hcue)
      have hlate := h hd last hlast cue hcue
      rw [← segmentCount_eq hlast, Int.cast_natCast, mul_comm] at hlate
      have hpos : (0 : ℚ) < d := by exact_mod_cast hd
      exact_mod_cast lt_of_mul_lt_mul_right ((hfrom.trans_lt hend).trans_le hlate) hpos.le

/-- A cue of ten seconds, and one of a second within it. -/
def longCue : CaptionCue :=
  ⟨"long".toList, 0, 10, "We convene.".toList, le_rfl, by decide +kernel⟩

def shortCue : CaptionCue := ⟨"short".toList, 1, 2, "Aye.".toList, by decide, by decide +kernel⟩

/-- Of the long cue only the first segment is written. -/
theorem long_cue_cut_off : ∃ out, writeHlsCaptionTrack [longCue, shortCue] 2 = some out ∧
    out.segments.length = 1 ∧ ¬ out.Covers [longCue, shortCue] 2 := by
  refine ⟨_, rfl, by decide +kernel, fun h => ?_⟩
  obtain ⟨segment, hsegment, -⟩ := h.covered longCue mem_cons_self 5 (by decide +kernel)
    (by decide +kernel) 2 (by norm_num) (by norm_num)
  have hlength := (List.getElem?_eq_some_iff.mp hsegment).1
  revert hlength
  decide +kernel

end CivicCast.Captions
