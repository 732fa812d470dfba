import CivicCast.Egress.HlsPlaylist

/-! # The manifest publisher

`_ManifestPublisher`: it detaches the muxer's staging playlist, mirrors it onto
the advertised manifest, and prunes the segments that no client can still ask
for.

A tick meets a world it does not control: the muxer may have written anything
or nothing, reads, writes and unlinks may fail, files come and go. All of that
is the `Tick`. A run keeps, beside the publisher, the manifests that were served
with the time each came, newest first.

The manifest is written in place, so a write that fails may have changed the
served file, while the publisher takes it for the one it had
(`torn_manifest_loses_segment`). The results are about runs in which a write that
fails has not begun (`Tick.Whole`).

The publisher's map of deadlines is right about that history: a name that was
last advertised by a manifest since replaced has a deadline no earlier than its
clients' grace, or the grace is over (`Airing.Inv`). Pruning looks at the map
only, so it spares every client (`pruning_spares_clients`).
-/

namespace CivicCast.Egress

open Lib List Function Option

/-! ## The publisher -/

/-- `_retired_until`. -/
abbrev Deadlines : Type := Text → Option ℚ

namespace Deadlines

/-- `d[name] = max(d.get(name, 0.0), until)`. -/
def raise (d : Deadlines) (name : Text) (deadline : ℚ) : Deadlines :=
  update d name (some (max ((d name).getD 0) deadline))

/-- `d.pop(name, None)`. -/
def drop (d : Deadlines) (name : Text) : Deadlines := update d name none

/-- The loop of `_remember_retired_window`. -/
def retireEntries (d : Deadlines) (now lifetime : ℚ) (excepted : List Text) :
    List (Text × ℚ) → Deadlines
  | [] => d
  | (name, duration) :: rest =>
    retireEntries (if name ∈ excepted then d else d.raise name (now + lifetime + duration)) now
      lifetime excepted rest

/-- `_remember_retired_window`. -/
def retireWindow (d : Deadlines) (w : Window) (now : ℚ) (excepted : List Text) : Deadlines :=
  d.retireEntries now w.lifetime excepted w.entries

/-- The deadline of every listed segment file outside `active`. -/
def retireFiles (d : Deadlines) (listing active : List Text) (deadline : ℚ) : Deadlines :=
  (listing.filter fun name => isSegmentName name ∧ name ∉ active).foldl
    (fun d name => d.raise name deadline) d

end Deadlines

structure Publisher where
  hasMediaClock : Bool
  priorSegmentNames : List Text
  dates : DateState
  programDates : Dates
  publishedSegments : Option Window
  stagingSegments : Option Window
  pendingData : Option Data
  /-- `_snapshot_path`, as what the owned file holds. -/
  snapshot : Option Data
  snapshotLoaded : Bool
  snapshotPublish : Bool
  retiredUntil : Deadlines

/-! ## One tick -/

/-- How `_claim_playlist_snapshot` ends: no staging file, a rename that fails,
or the file detached. -/
inductive Claim where
  | absent
  | locked
  | claimed (data : Data)

/-- What a capture meets. -/
structure Capture where
  releaseBefore : Bool
  claim : Claim
  read : Bool
  releaseAfter : Bool

/-- How an attempt to write the served file ends. A torn one fails after it has begun, and
leaves in the file the first bytes of the new manifest, and those of the old one after them. -/
inductive Attempt where
  | written
  | missing
  | denied
  | torn (left : Data)
deriving DecidableEq

/-- How the attempts of `_write_manifest` end: in place, with a new file, and by a rename. -/
structure ManifestWrite where
  inPlace : Attempt
  create : Attempt
  replace : Bool

/-- `_write_manifest`: whether the manifest landed. -/
def ManifestWrite.landed (w : ManifestWrite) : Bool :=
  match w.inPlace, w.create with
  | .written, _ | .missing, .written => true
  | _, _ => w.replace

/-- What the attempts have left in the served file, where one of them was torn. -/
def ManifestWrite.torn (w : ManifestWrite) : Option Data :=
  match w.inPlace, w.create with
  | .torn left, _ | .missing, .torn left => some left
  | _, _ => none

inductive Unlink where
  | removed
  | missing
  | locked
deriving DecidableEq

/-- What one `_publish_once` meets; a listing is what a glob gave before it
ended or failed. -/
structure Tick where
  capture : Capture
  isFile : Text → Bool
  anchor : Option Anchor
  probe : Text → Option ℚ
  write : ManifestWrite
  landedAt : ℚ
  retireListing : List Text
  retiredAt : ℚ
  pruneIsFile : Text → Bool
  pruneListing : List Text
  unlink : Text → Unlink
  prunedAt : ℚ

/-- What one `_publish_once` did: what it left in the served file, where it wrote
there, and the segments it unlinked. -/
structure Report where
  served : Option Data := none
  unlinked : List Text := []

namespace Publisher

def readSnapshot (p : Publisher) (data : Data) (c : Capture) : Publisher :=
  if c.read = false then p
  else { p with
    stagingSegments := playlistSegmentDurations data
    pendingData := if p.snapshotPublish then some data else p.pendingData
    snapshotLoaded := true
    snapshot := if c.releaseAfter then none else some data }

def captureStagingWindow (p : Publisher) (publish : Bool) (c : Capture) : Publisher :=
  if p.snapshotLoaded ∧ p.snapshot.isSome ∧ c.releaseBefore = false then p
  else
    match if p.snapshotLoaded then none else p.snapshot with
    | some data => p.readSnapshot data c
    | none =>
      match c.claim with
      | .absent | .locked => { p with snapshot := none }
      | .claimed data =>
        -- no pruning before this window is read
        readSnapshot { p with
          snapshot := some data
          snapshotLoaded := false
          snapshotPublish := publish
          stagingSegments := none } data c

def rememberRetiredSegments (p : Publisher) (current : Window) (t : Tick) : Publisher :=
  let retired := match p.publishedSegments with
    -- what the last manifest named is unknown: every file outside the new one gets its grace
    | none => p.retiredUntil.retireFiles t.retireListing current.names
        (t.retiredAt + (current.lifetime + current.longest))
    | some previous => p.retiredUntil.retireWindow previous t.retiredAt current.names
  { p with retiredUntil := current.names.foldl Deadlines.drop retired }

/-- The loop body of `_prune_segments`. -/
def pruneFile (published staging : Window) (oldest : ℕ) (t : Tick)
    (state : Deadlines × List Text) (name : Text) : Deadlines × List Text :=
  let (retired, unlinked) := state
  if isSegmentName name = false ∨ name ∈ published.names ∨ name ∈ staging.names then state
  else if ∃ deadline ∈ retired name, t.prunedAt < deadline then state
  -- the encoder may still be writing it, or about to list it
  else if oldest ≤ segmentNumber name then state
  else
    match t.unlink name with
    | .removed => (retired.drop name, unlinked ++ [name])
    | .missing => (retired.drop name, unlinked)
    | .locked => state

/-- `min(staged_sequences)`. -/
def oldestStaged (first : Text) (rest : List Text) : ℕ :=
  rest.foldl (fun n name => min n (segmentNumber name)) (segmentNumber first)

/-- `_prune_segments`, as the deadlines it leaves and the files it unlinks. -/
def pruneSegments (p : Publisher) (t : Tick) : Deadlines × List Text :=
  match p.publishedSegments, p.stagingSegments with
  | some published, some staging =>
    -- a staged window with a file missing is not trusted to bound the prune
    if ∃ name ∈ staging.names, t.pruneIsFile name = false then (p.retiredUntil, [])
    else
      match staging.names with
      | [] => (p.retiredUntil, [])
      | first :: rest =>
        t.pruneListing.foldl (pruneFile published staging (oldestStaged first rest) t)
          (p.retiredUntil, [])
  | _, _ => (p.retiredUntil, [])

def pruned (p : Publisher) (t : Tick) (served : Option Data) : Publisher × Report :=
  ({ p with retiredUntil := (p.pruneSegments t).1 },
    { served := served, unlinked := (p.pruneSegments t).2 })

/-- `_align_program_dates`. -/
def align (lib : DateLibrary) (p : Publisher) (t : Tick) (data : Data) : DateState × Option Data :=
  if p.hasMediaClock then
    alignProgramDates lib p.priorSegmentNames p.programDates t.anchor t.probe p.dates data
  else (p.dates, some data)

def withDates (p : Publisher) (dates : DateState) : Publisher := { p with dates := dates }

/-- What a manifest that landed leaves in the publisher. -/
def advertise (lib : DateLibrary) (p : Publisher) (segments : Window) (aligned : Data)
    (t : Tick) : Publisher :=
  { p.rememberRetiredSegments segments t with
    publishedSegments := some segments
    programDates := playlistProgramDates lib aligned
    pendingData := none }

/-- A window all of whose files are there, with its data aligned. -/
def publish (lib : DateLibrary) (p : Publisher) (segments : Window) (aligned : Data) (t : Tick) :
    Publisher × Report :=
  -- the publisher keeps its window, whatever the write has done to the file
  if t.write.landed = false then p.pruned t t.write.torn
  else (p.advertise lib segments aligned t).pruned t (some aligned)

def publishOnce (lib : DateLibrary) (p : Publisher) (t : Tick) : Publisher × Report :=
  let p := p.captureStagingWindow true t.capture
  match p.pendingData with
  | none => p.pruned t none
  | some data =>
    match p.stagingSegments with
    | none => (p, {})
    | some segments =>
      -- no manifest may name a file that is not there yet; the tick ends unpruned
      if ∃ name ∈ segments.names, t.isFile name = false then (p, {})
      else
        let p' := p.withDates (p.align lib t data).1
        match (p.align lib t data).2 with
        | none => (p', {})
        | some aligned => p'.publish lib segments aligned t

end Publisher

/-! ## Starting -/

/-- `_ClearedHlsWindow`, as far as the publisher reads it; the dates were read
in a playlist. -/
structure ClearedHlsWindow where
  publishedSegments : Window
  retiredSegmentNames : List Text
  retiredGrace : ℚ
  programDates : Dates
  oneLine : programDates.OneLine

/-- How the advertised manifest is found. -/
inductive Found where
  | missing
  | unreadable (data : Data)
  | read (data : Data)

/-- What `__init__` meets. The manifest is read twice, first for its dates. -/
structure Start where
  hasMediaClock : Bool
  manifestDates : Option Data
  manifest : Found
  previousWindow : Option ClearedHlsWindow
  windowAt : ℚ
  capture : Capture
  orphanListing : List Text
  orphansAt : ℚ

namespace Start

/-- `_read_published_segments`. -/
def publishedSegments (s : Start) : Option Window :=
  match s.manifest with
  | .missing => some .empty
  | .unreadable _ => none
  | .read data => playlistSegmentDurations data

/-- The program dates of the manifest over those of the cleared window. -/
def programDates (lib : DateLibrary) (s : Start) : Dates :=
  let own : Dates := (s.manifestDates.map (playlistProgramDates lib)).getD ∅
  match s.previousWindow with
  | none => own
  | some w => own ∪ w.programDates

/-- The deadlines a cleared window leaves behind. -/
def retiredUntil (s : Start) : Deadlines :=
  match s.previousWindow with
  | none => fun _ => none
  | some w =>
    w.retiredSegmentNames.foldl (fun d name => d.raise name (s.windowAt + w.retiredGrace))
      (Deadlines.retireWindow (fun _ => none) w.publishedSegments s.windowAt [])

/-- `__init__` up to the first capture. -/
def opened (lib : DateLibrary) (s : Start) : Publisher where
  hasMediaClock := s.hasMediaClock
  priorSegmentNames := (s.publishedSegments.map Window.names).getD [] ++
    (s.previousWindow.map fun w => w.publishedSegments.names).getD []
  dates := {}
  programDates := s.programDates lib
  publishedSegments := s.publishedSegments
  stagingSegments := some .empty
  pendingData := none
  snapshot := none
  snapshotLoaded := false
  snapshotPublish := false
  retiredUntil := s.retiredUntil

def rememberExistingOrphans (s : Start) (p : Publisher) : Publisher :=
  match p.publishedSegments, p.stagingSegments with
  | some published, some staging =>
    let grace := max (published.lifetime + published.longest) (staging.lifetime + staging.longest)
    let active := published.names ++ staging.names
    { p with retiredUntil :=
        p.retiredUntil.retireFiles s.orphanListing active (s.orphansAt + grace) }
  | _, _ => p

/-- `__init__`. -/
def publisher (lib : DateLibrary) (s : Start) : Publisher :=
  s.rememberExistingOrphans ((s.opened lib).captureStagingWindow false s.capture)

/-- The manifest that is on disk, readable or not. -/
def found (s : Start) : Option Data :=
  match s.manifest with
  | .missing => none
  | .unreadable data | .read data => some data

end Start

/-! ## Runs -/

/-- A publisher with the manifest it found, those that were served since (newest
first, with the time each came), and the last clock reading. -/
@[ext] structure Airing where
  publisher : Publisher
  found : Option Data
  advertised : List (Data × ℚ)
  clock : ℚ

namespace Airing

/-- The manifest a client gets. -/
def current (r : Airing) : Option Data :=
  match r.advertised with
  | [] => r.found
  | m :: _ => some m.1

def start (lib : DateLibrary) (s : Start) : Airing where
  publisher := s.publisher lib
  found := s.found
  advertised := []
  clock := s.orphansAt

def step (lib : DateLibrary) (r : Airing) (t : Tick) : Airing where
  publisher := (r.publisher.publishOnce lib t).1
  found := r.found
  advertised := match (r.publisher.publishOnce lib t).2.served with
    | none => r.advertised
    | some data => (data, t.landedAt) :: r.advertised
  clock := t.prunedAt

end Airing

/-- The clock readings of a tick do not go back. -/
structure Tick.After (t : Tick) (clock : ℚ) : Prop where
  landed : clock ≤ t.landedAt
  retired : t.landedAt ≤ t.retiredAt
  pruned : t.retiredAt ≤ t.prunedAt

/-- A write that fails has not begun to change the served file. -/
def Tick.Whole (t : Tick) : Prop := t.write.landed = false → t.write.torn = none

/-- The states of a run: a start, then any ticks that are `ok` while the clock does not go
back. -/
inductive Airing.Reachable (lib : DateLibrary) (ok : Tick → Prop) : Airing → Prop where
  | start (s : Start) : Reachable lib ok (Airing.start lib s)
  | step {r : Airing} {t : Tick} : Reachable lib ok r → t.After r.clock → ok t →
      Reachable lib ok (r.step lib t)

def Names (data : Data) (name : Text) : Prop :=
  ∃ w, playlistSegmentDurations data = some w ∧ name ∈ w.names

/-- The last manifest of the history to name the segment is one with this
window; it gave the segment this duration, and was replaced at this time. -/
structure LastNamed (advertised : List (Data × ℚ)) (name : Text) (w : Window)
    (duration replacedAt : ℚ) : Prop where
  split : ∃ newer next data landedAt older,
    advertised = newer ++ (next, replacedAt) :: (data, landedAt) :: older ∧
    playlistSegmentDurations data = some w ∧ (name, duration) ∈ w.entries ∧
    ¬ Names next name ∧ ∀ m ∈ newer, ¬ Names m.1 name

/-- A segment that this tick unlinks is in neither the served manifest nor the captured
window, is numbered below every staged segment, and if a served manifest ever named it, the
last one to do so was replaced long enough ago for it to play out and the segment after it.
And what the tick leaves in the served file is well formed and names files that are there. -/
def Airing.Spares (lib : DateLibrary) (r : Airing) (t : Tick) : Prop :=
  (∀ name ∈ (r.publisher.publishOnce lib t).2.unlinked,
    (∀ data, (r.step lib t).current = some data → ¬ Names data name) ∧
    (∃ staged, (r.step lib t).publisher.stagingSegments = some staged ∧
      name ∉ staged.names ∧ ∀ other ∈ staged.names, segmentNumber name < segmentNumber other) ∧
    ∀ m ∈ (r.step lib t).advertised, Names m.1 name → ∃ w duration replacedAt,
      LastNamed (r.step lib t).advertised name w duration replacedAt ∧
        replacedAt + w.lifetime + duration ≤ t.prunedAt) ∧
  ∀ data, (r.publisher.publishOnce lib t).2.served = some data →
    ∃ w, playlistSegmentDurations data = some w ∧ ∀ name ∈ w.names, t.isFile name = true

/-! ## Deadlines -/

namespace Deadlines

/-- The deadline of `name` is at least `bound`. -/
def Covers (d : Deadlines) (name : Text) (bound : ℚ) : Prop := ∃ deadline ∈ d name, bound ≤ deadline

lemma raise_covers {d : Deadlines} {name : Text} {deadline : ℚ} :
    (d.raise name deadline).Covers name deadline := by
  refine ⟨max ((d name).getD 0) deadline, ?_, le_max_right _ _⟩
  unfold raise
  rw [update_self]
  rfl

variable {name : Text} {bound lifetime : ℚ} {d : Deadlines} {excepted : List Text}

lemma Covers.raise (h : d.Covers name bound)
    (other : Text) (deadline : ℚ) : (d.raise other deadline).Covers name bound := by
  rcases h with ⟨old, hold, hle⟩
  by_cases hsame : name = other
  · subst hsame
    refine ⟨max ((d name).getD 0) deadline, ?_, ?_⟩
    · unfold Deadlines.raise
      rw [update_self]
      rfl
    · rw [mem_def.mp hold, getD_some]
      exact le_trans hle (le_max_left _ _)
  · refine ⟨old, ?_, hle⟩
    unfold Deadlines.raise
    rw [update_of_ne hsame]
    exact hold

lemma Covers.retireEntries {now : ℚ}
    (entries : List (Text × ℚ)) : ∀ {d : Deadlines}, d.Covers name bound →
      (d.retireEntries now lifetime excepted entries).Covers name bound := by
  induction entries with
  | nil =>
    intro d h
    exact h
  | cons e rest ih =>
    intro d h
    rcases e with ⟨other, duration⟩
    apply ih
    split_ifs
    · exact h
    · exact h.raise _ _

/-- Retiring a window gives each of its names, but for the excepted, its
grace. -/
lemma retireEntries_covers {duration now : ℚ}
    (hname : name ∉ excepted) {entries : List (Text × ℚ)} : ∀ d : Deadlines,
      (name, duration) ∈ entries →
      (d.retireEntries now lifetime excepted entries).Covers name (now + lifetime + duration) := by
  induction entries with
  | nil =>
    intro d h
    cases h
  | cons e rest ih =>
    intro d h
    rcases mem_cons.mp h with rfl | hrest
    · unfold retireEntries
      rw [if_neg hname]
      exact raise_covers.retireEntries rest
    · rcases e with ⟨other, otherDuration⟩
      exact ih _ hrest

lemma Covers.foldl_raise {deadline : ℚ} (names : List Text) :
    ∀ {d : Deadlines}, d.Covers name bound →
      (names.foldl (fun d name => d.raise name deadline) d).Covers name bound := by
  induction names with
  | nil =>
    intro d h
    exact h
  | cons other rest ih =>
    intro d h
    exact ih (h.raise _ _)

lemma Covers.drop {other : Text} (h : d.Covers name bound)
    (hne : name ≠ other) : (d.drop other).Covers name bound := by
  rcases h with ⟨old, hold, hle⟩
  refine ⟨old, ?_, hle⟩
  unfold Deadlines.drop
  rw [update_of_ne hne]
  exact hold

lemma Covers.foldl_drop {names : List Text} :
    ∀ {d : Deadlines}, name ∉ names → d.Covers name bound →
      (names.foldl Deadlines.drop d).Covers name bound := by
  induction names with
  | nil =>
    intro d _ h
    exact h
  | cons other rest ih =>
    intro d hname h
    rw [mem_cons, not_or] at hname
    exact ih hname.2 (h.drop hname.1)

end Deadlines

/-! ## Pruning -/

/-- What the prune loop has done from the deadlines `d` on. -/
structure PruneInv (d : Deadlines) (published staging : Window) (oldest : ℕ) (now : ℚ)
    (state : Deadlines × List Text) : Prop where
  kept : ∀ name, state.1 name = d name ∨
    (state.1 name = none ∧ ∀ deadline ∈ d name, deadline ≤ now)
  gone : ∀ name ∈ state.2, name ∉ published.names ∧ name ∉ staging.names ∧
    segmentNumber name < oldest ∧ ∀ deadline ∈ d name, deadline ≤ now

variable {t : Tick} {p : Publisher} {name : Text} {d : Deadlines} {published staging : Window}
  {oldest : ℕ}

lemma PruneInv.pruneFile
    {state : Deadlines × List Text} (h : PruneInv d published staging oldest t.prunedAt state)
    (name : Text) : PruneInv d published staging oldest t.prunedAt
      (Publisher.pruneFile published staging oldest t state name) := by
  rcases state with ⟨retired, unlinked⟩
  unfold Publisher.pruneFile
  dsimp only
  split_ifs with hactive hgrace hnew
  · exact h
  · exact h
  · exact h
  · rw [not_or, not_or] at hactive
    have hexpired : ∀ deadline ∈ d name, deadline ≤ t.prunedAt := by
      -- the loop has not moved this deadline, or it was over when it did
      rcases h.kept name with hsame | ⟨-, hle⟩
      · intro deadline hdeadline
        by_contra hlt
        rw [← hsame] at hdeadline
        exact hgrace ⟨deadline, hdeadline, not_le.mp hlt⟩
      · exact hle
    have hdrop : ∀ other, (retired.drop name) other = d other ∨
        ((retired.drop name) other = none ∧ ∀ deadline ∈ d other, deadline ≤ t.prunedAt) := by
      intro other
      unfold Deadlines.drop
      by_cases hsame : other = name
      · subst hsame
        exact .inr ⟨update_self .., hexpired⟩
      · rw [update_of_ne hsame]
        exact h.kept other
    cases t.unlink name with
    | removed =>
      refine ⟨hdrop, ?_⟩
      intro other hother
      rcases mem_append.mp hother with hother | hother
      · exact h.gone other hother
      · rw [mem_singleton.mp hother]
        exact ⟨hactive.2.1, hactive.2.2, not_le.mp hnew, hexpired⟩
    | missing => exact ⟨hdrop, h.gone⟩
    | locked => exact h

lemma PruneInv.foldl (listing : List Text) : ∀ {state : Deadlines × List Text},
      PruneInv d published staging oldest t.prunedAt state →
      PruneInv d published staging oldest t.prunedAt
        (listing.foldl (Publisher.pruneFile published staging oldest t) state) := by
  induction listing with
  | nil =>
    intro state h
    exact h
  | cons name rest ih =>
    intro state h
    exact ih (h.pruneFile name)

lemma oldestStaged_le (first : Text) (rest : List Text) :
    ∀ name ∈ first :: rest, Publisher.oldestStaged first rest ≤ segmentNumber name := by
  have hfold : ∀ (names : List Text) (n : ℕ),
      names.foldl (fun n name => min n (segmentNumber name)) n ≤ n ∧
      ∀ name ∈ names, names.foldl (fun n name => min n (segmentNumber name)) n ≤
        segmentNumber name := by
    intro names
    induction names with
    | nil =>
      intro n
      exact ⟨le_refl n, by simp⟩
    | cons other names ih =>
      intro n
      rcases ih (min n (segmentNumber other)) with ⟨hn, hnames⟩
      rw [foldl_cons]
      refine ⟨le_trans hn (min_le_left _ _), ?_⟩
      intro name hname
      rcases mem_cons.mp hname with rfl | hname
      · exact le_trans hn (min_le_right _ _)
      · exact hnames name hname
  intro name hname
  rcases hfold rest (segmentNumber first) with ⟨hfirst, hrest⟩
  rcases mem_cons.mp hname with rfl | hname
  · exact hfirst
  · exact hrest name hname

lemma pruneSegments_kept (p : Publisher) (t : Tick) (name : Text) :
    (p.pruneSegments t).1 name = p.retiredUntil name ∨
      ((p.pruneSegments t).1 name = none ∧
        ∀ deadline ∈ p.retiredUntil name, deadline ≤ t.prunedAt) := by
  unfold Publisher.pruneSegments
  split
  · rename_i published staging _ _
    split_ifs
    · exact .inl rfl
    · split
      · exact .inl rfl
      · rename_i first rest _
        have hinv : PruneInv p.retiredUntil published staging
            (Publisher.oldestStaged first rest) t.prunedAt (p.retiredUntil, []) :=
          ⟨fun _ => .inl rfl, by simp⟩
        exact (hinv.foldl t.pruneListing).kept name
  · exact .inl rfl

/-- What is unlinked is outside both windows, below the staged numbers, and its
deadline is over. -/
lemma pruneSegments_unlinked (h : name ∈ (p.pruneSegments t).2) :
    ∃ published staging, p.publishedSegments = some published ∧
      p.stagingSegments = some staging ∧ name ∉ published.names ∧ name ∉ staging.names ∧
      (∀ other ∈ staging.names, segmentNumber name < segmentNumber other) ∧
      ∀ deadline ∈ p.retiredUntil name, deadline ≤ t.prunedAt := by
  unfold Publisher.pruneSegments at h
  split at h
  · rename_i published staging hpublished hstaging
    split_ifs at h
    · cases h
    · split at h
      · cases h
      · rename_i first rest hnames
        have hinv : PruneInv p.retiredUntil published staging
            (Publisher.oldestStaged first rest) t.prunedAt (p.retiredUntil, []) :=
          ⟨fun _ => .inl rfl, by simp⟩
        rcases (hinv.foldl t.pruneListing).gone name h with ⟨hpub, hstage, hbelow, hover⟩
        refine ⟨published, staging, hpublished, hstaging, hpub, hstage, ?_, hover⟩
        intro other hother
        rw [hnames] at hother
        exact lt_of_lt_of_le hbelow (oldestStaged_le first rest other hother)
  · cases h

/-! ## Captures and ticks -/

/-- The captured window is that of the pending data, and only a capture meant
for publication leaves any. -/
structure Publisher.Synced (p : Publisher) : Prop where
  pending : ∀ data w, p.pendingData = some data → p.stagingSegments = some w →
    playlistSegmentDurations data = some w
  quiet : p.snapshotPublish = false → p.pendingData = none

lemma Publisher.Synced.readSnapshot (h : p.Synced) (data : Data) (c : Capture) :
    (p.readSnapshot data c).Synced := by
  unfold Publisher.readSnapshot
  by_cases hread : c.read = false
  · rw [if_pos hread]
    exact h
  · rw [if_neg hread]
    constructor
    · intro data' w hdata hw
      by_cases hpublish : p.snapshotPublish = true
      · rw [if_pos hpublish] at hdata
        cases hdata
        exact hw
      · rw [if_neg hpublish, h.quiet (by simpa using hpublish)] at hdata
        cases hdata
    · intro hquiet
      rw [show p.snapshotPublish = false from hquiet]
      exact h.quiet hquiet

lemma Publisher.Synced.capture (h : p.Synced) (publish : Bool)
    (hpublish : publish = false → p.pendingData = none) (c : Capture) :
    (p.captureStagingWindow publish c).Synced := by
  unfold Publisher.captureStagingWindow
  by_cases hheld : p.snapshotLoaded ∧ p.snapshot.isSome ∧ c.releaseBefore = false
  · rw [if_pos hheld]
    exact h
  · rw [if_neg hheld]
    split
    · exact h.readSnapshot _ c
    · split
      · exact ⟨h.pending, h.quiet⟩
      · exact ⟨h.pending, h.quiet⟩
      · -- a new window: nothing is staged until it is read
        refine Publisher.Synced.readSnapshot ⟨?_, hpublish⟩ _ c
        intro data' w _ hw
        cases hw

/-- A capture leaves what was advertised, the dates and the deadlines alone. -/
structure Publisher.SamePast (p q : Publisher) : Prop where
  published : q.publishedSegments = p.publishedSegments
  programDates : q.programDates = p.programDates
  retired : q.retiredUntil = p.retiredUntil

lemma Publisher.samePast_capture (p : Publisher) (publish : Bool) (c : Capture) :
    p.SamePast (p.captureStagingWindow publish c) := by
  have hread : ∀ (q : Publisher) (data : Data), p.SamePast q →
      p.SamePast (q.readSnapshot data c) := by
    intro q data hq
    unfold Publisher.readSnapshot
    split_ifs
    all_goals exact ⟨hq.published, hq.programDates, hq.retired⟩
  unfold Publisher.captureStagingWindow
  split_ifs
  · exact ⟨rfl, rfl, rfl⟩
  all_goals
    split
    · exact hread _ _ ⟨rfl, rfl, rfl⟩
    · split
      · exact ⟨rfl, rfl, rfl⟩
      · exact ⟨rfl, rfl, rfl⟩
      · exact hread _ _ ⟨rfl, rfl, rfl⟩

/-- Everything a tick can do that does not tear the manifest, from the publisher `q` after
its capture: stop there, prune, or advertise the captured window and prune. -/
lemma publishOnce_cases (lib : DateLibrary) (p : Publisher) {t : Tick} (hwhole : t.Whole) :
    ∃ dates, let q := (p.captureStagingWindow true t.capture).withDates dates
    p.publishOnce lib t = (q, {}) ∨ p.publishOnce lib t = q.pruned t none ∨
      ∃ data segments aligned, q.pendingData = some data ∧ q.stagingSegments = some segments ∧
        (∀ name ∈ segments.names, t.isFile name = true) ∧
        ((p.captureStagingWindow true t.capture).align lib t data).2 = some aligned ∧
        p.publishOnce lib t = (q.advertise lib segments aligned t).pruned t (some aligned) := by
  unfold Publisher.publishOnce
  generalize p.captureStagingWindow true t.capture = q
  dsimp only
  cases hpending : q.pendingData with
  | none => exact ⟨q.dates, .inr (.inl rfl)⟩
  | some data =>
    cases hstaging : q.stagingSegments with
    | none => exact ⟨q.dates, .inl rfl⟩
    | some segments =>
      dsimp only
      by_cases hfiles : ∃ name ∈ segments.names, t.isFile name = false
      · rw [if_pos hfiles]
        exact ⟨q.dates, .inl rfl⟩
      · rw [if_neg hfiles]
        refine ⟨(q.align lib t data).1, ?_⟩
        cases haligned : (q.align lib t data).2 with
        | none => exact .inl rfl
        | some aligned =>
          dsimp only
          unfold Publisher.publish
          -- a write that fails whole leaves what is served, and the tick prunes
          by_cases hwrite : t.write.landed = false
          · rw [if_pos hwrite, hwhole hwrite]
            exact .inr (.inl rfl)
          · rw [if_neg hwrite]
            refine .inr (.inr ⟨data, segments, aligned, hpending, hstaging, ?_, haligned, rfl⟩)
            intro name hname
            by_contra hmissing
            exact hfiles ⟨name, hname, by simpa using hmissing⟩

/-! ## The invariant -/

/-- The publisher knows what is advertised, and its deadlines are right about
every manifest that was replaced. -/
structure Airing.Inv (r : Airing) : Prop where
  synced : r.publisher.Synced
  dates : r.publisher.programDates.OneLine
  current : ∀ w, r.publisher.publishedSegments = some w →
    ∀ data, r.current = some data → playlistSegmentDurations data = some w
  landed : r.advertised ≠ [] → r.publisher.publishedSegments ≠ none
  grace : ∀ name w duration replacedAt, LastNamed r.advertised name w duration replacedAt →
    r.publisher.retiredUntil.Covers name (replacedAt + w.lifetime + duration) ∨
      replacedAt + w.lifetime + duration ≤ r.clock

lemma Dates.OneLine.union {a b : Dates} (ha : a.OneLine) (hb : b.OneLine) :
    Dates.OneLine (a ∪ b) := by
  intro name value h
  by_cases hmem : name ∈ a
  · rw [AList.lookup_union_left hmem] at h
    exact ha name value h
  · rw [AList.lookup_union_right hmem] at h
    exact hb name value h

lemma Start.programDates_oneLine (lib : DateLibrary) (s : Start) :
    (s.programDates lib).OneLine := by
  have hown : Dates.OneLine ((s.manifestDates.map (playlistProgramDates lib)).getD ∅) := by
    cases s.manifestDates with
    | none => exact Dates.oneLine_empty
    | some data => exact playlistProgramDates_oneLine lib
  unfold Start.programDates
  cases s.previousWindow with
  | none => exact hown
  | some w => exact hown.union w.oneLine

/-- A starting publisher is in order: nothing was advertised yet. -/
lemma Airing.inv_start (lib : DateLibrary) (s : Start) : (Airing.start lib s).Inv := by
  have hopened : (s.opened lib).Synced := by
    constructor
    · intro data w h
      cases h
    · intro _
      rfl
  have hpast := (s.opened lib).samePast_capture false s.capture
  have hsynced := hopened.capture false (fun _ => rfl) s.capture
  generalize hq : (s.opened lib).captureStagingWindow false s.capture = q at hpast hsynced
  -- remembering the orphans only moves deadlines
  have horphans : q.SamePast { s.rememberExistingOrphans q with retiredUntil := q.retiredUntil } ∧
      (s.rememberExistingOrphans q).Synced := by
    unfold Start.rememberExistingOrphans
    split
    · exact ⟨⟨rfl, rfl, rfl⟩, ⟨hsynced.pending, hsynced.quiet⟩⟩
    · exact ⟨⟨rfl, rfl, rfl⟩, hsynced⟩
  have hpublished : (s.publisher lib).publishedSegments = s.publishedSegments := by
    unfold Start.publisher
    rw [hq]
    exact horphans.1.published.trans hpast.published
  have hdates : (s.publisher lib).programDates = s.programDates lib := by
    unfold Start.publisher
    rw [hq]
    exact horphans.1.programDates.trans hpast.programDates
  constructor
  · change (s.publisher lib).Synced
    unfold Start.publisher
    rw [hq]
    exact horphans.2
  · change (s.publisher lib).programDates.OneLine
    rw [hdates]
    exact s.programDates_oneLine lib
  · intro w hw data hdata
    change (s.publisher lib).publishedSegments = some w at hw
    change s.found = some data at hdata
    rw [hpublished] at hw
    unfold Start.publishedSegments at hw
    unfold Start.found at hdata
    cases hmanifest : s.manifest with
    | missing =>
      rw [hmanifest] at hdata
      cases hdata
    | unreadable _ =>
      rw [hmanifest] at hw
      cases hw
    | read found =>
      rw [hmanifest] at hw hdata
      cases hdata
      exact hw
  · intro h
    exact absurd rfl h
  · rintro name w duration replacedAt ⟨newer, next, data, landedAt, older, hsplit, -⟩
    change [] = _ at hsplit
    simp at hsplit

lemma LastNamed.of_cons {data : Data} {landedAt : ℚ} {advertised : List (Data × ℚ)} {w : Window}
    {duration replacedAt : ℚ}
    (h : LastNamed ((data, landedAt) :: advertised) name w duration replacedAt) :
    ¬ Names data name ∧ ((replacedAt = landedAt ∧ (name, duration) ∈ w.entries ∧
      ∃ m rest, advertised = m :: rest ∧ playlistSegmentDurations m.1 = some w) ∨
      LastNamed advertised name w duration replacedAt) := by
  rcases h with ⟨newer, next, data', landedAt', older, hsplit, hwindow, hentry, hnext, hnewer⟩
  cases newer with
  | nil =>
    cases hsplit
    exact ⟨hnext, .inl ⟨rfl, hentry, _, _, rfl, hwindow⟩⟩
  | cons m newer =>
    cases hsplit
    refine ⟨hnewer _ mem_cons_self, .inr ⟨newer, next, data', landedAt', older, rfl,
      hwindow, hentry, hnext, ?_⟩⟩
    intro m hm
    exact hnewer m (mem_cons_of_mem _ hm)

section Tick

variable (lib : DateLibrary) {r : Airing} {t : Tick}

lemma Airing.Inv.captured (h : r.Inv) (c : Capture) (dates : DateState) :
    Airing.Inv { r with
      publisher := (r.publisher.captureStagingWindow true c).withDates dates } := by
  have hpast := r.publisher.samePast_capture true c
  have hsynced := h.synced.capture true (by simp) c
  constructor
  · exact ⟨hsynced.pending, hsynced.quiet⟩
  · change (r.publisher.captureStagingWindow true c).programDates.OneLine
    rw [hpast.programDates]
    exact h.dates
  · intro w hw
    change (r.publisher.captureStagingWindow true c).publishedSegments = some w at hw
    rw [hpast.published] at hw
    exact h.current w hw
  · intro hne
    change (r.publisher.captureStagingWindow true c).publishedSegments ≠ none
    rw [hpast.published]
    exact h.landed hne
  · intro name w duration replacedAt hlast
    change (r.publisher.captureStagingWindow true c).retiredUntil.Covers _ _ ∨ _
    rw [hpast.retired]
    exact h.grace name w duration replacedAt hlast

lemma Airing.Inv.later (h : r.Inv) {clock : ℚ} (hclock : r.clock ≤ clock) :
    Airing.Inv { r with clock := clock } := by
  refine ⟨h.synced, h.dates, h.current, h.landed, ?_⟩
  intro name w duration replacedAt hlast
  rcases h.grace name w duration replacedAt hlast with hcovers | hover
  · exact .inl hcovers
  · exact .inr (le_trans hover hclock)

/-- Pruning drops a deadline only when the grace it stands for is over. -/
lemma Airing.Inv.pruned (h : r.Inv) (hclock : r.clock ≤ t.prunedAt) (served : Option Data) :
    Airing.Inv { r with publisher := (r.publisher.pruned t served).1, clock := t.prunedAt } := by
  refine ⟨⟨h.synced.pending, h.synced.quiet⟩, h.dates, h.current, h.landed, ?_⟩
  intro name w duration replacedAt hlast
  change Deadlines.Covers (r.publisher.pruneSegments t).1 _ _ ∨ _
  rcases h.grace name w duration replacedAt hlast with ⟨deadline, hdeadline, hle⟩ | hover
  · rcases pruneSegments_kept r.publisher t name with hsame | ⟨-, hexpired⟩
    · left
      refine ⟨deadline, ?_, hle⟩
      rw [hsame]
      exact hdeadline
    · exact .inr (le_trans hle (hexpired deadline hdeadline))
  · exact .inr (le_trans hover hclock)

/-- Retiring the replaced window, then clearing the names of the new one,
covers the names that are not in the new one. -/
lemma rememberRetired_covers {p : Publisher} {current : Window} {name : Text}
    (hname : name ∉ current.names) {bound : ℚ}
    (h : p.retiredUntil.Covers name bound ∨ ∃ previous duration,
      p.publishedSegments = some previous ∧ (name, duration) ∈ previous.entries ∧
      bound ≤ t.retiredAt + previous.lifetime + duration) :
    (p.rememberRetiredSegments current t).retiredUntil.Covers name bound := by
  refine Deadlines.Covers.foldl_drop hname ?_
  rcases h with hcovers | ⟨previous, duration, hprevious, hentry, hle⟩
  · cases p.publishedSegments with
    | none => exact hcovers.foldl_raise _
    | some previous => exact hcovers.retireEntries _
  · rw [hprevious]
    obtain ⟨deadline, hdeadline, hbound⟩ :=
      Deadlines.retireEntries_covers hname p.retiredUntil hentry
    exact ⟨deadline, hdeadline, le_trans hle hbound⟩

lemma Airing.Inv.advertised (h : r.Inv) (ht : t.After r.clock) {segments : Window}
    {aligned : Data} (hwindow : playlistSegmentDurations aligned = some segments) :
    Airing.Inv { r with
      publisher := r.publisher.advertise lib segments aligned t
      advertised := (aligned, t.landedAt) :: r.advertised } := by
  constructor
  · constructor
    · intro data w hdata
      cases hdata
    · intro _
      rfl
  · exact playlistProgramDates_oneLine lib
  · intro w hw data hdata
    cases hw
    cases hdata
    exact hwindow
  · intro _ hnone
    cases hnone
  · intro name w duration replacedAt hlast
    rcases hlast.of_cons with ⟨hnot, hcases⟩
    have hname : name ∉ segments.names := fun hmem => hnot ⟨segments, hwindow, hmem⟩
    rcases hcases with ⟨rfl, hentry, m, rest, hadvertised, hm⟩ | hold
    · -- the manifest just replaced
      left
      apply rememberRetired_covers hname
      right
      obtain ⟨previous, hprevious⟩ := ne_none_iff_exists'.mp
        (h.landed (by rw [hadvertised]; exact cons_ne_nil _ _))
      -- the publisher's window is that of the manifest just replaced
      have hsame := h.current previous hprevious m.1 (by rw [Airing.current, hadvertised])
      rw [hm] at hsame
      cases hsame
      refine ⟨w, duration, hprevious, hentry, ?_⟩
      have := ht.retired
      linarith
    · rcases h.grace name w duration replacedAt hold with hcovers | hover
      · exact .inl (rememberRetired_covers hname (.inl hcovers))
      · exact .inr hover

lemma Airing.Inv.before_prune (h : r.Inv) (ht : t.After r.clock) (hwhole : t.Whole) :
    ∃ q : Airing, q.Inv ∧ q.clock ≤ t.prunedAt ∧ q.found = r.found ∧
      q.advertised = (r.step lib t).advertised ∧
      (r.publisher.publishOnce lib t = (q.publisher, {}) ∨
        ∃ served, r.publisher.publishOnce lib t = q.publisher.pruned t served) ∧
      ∀ data, (r.publisher.publishOnce lib t).2.served = some data →
        ∃ w, playlistSegmentDurations data = some w ∧ ∀ name ∈ w.names, t.isFile name = true := by
  have hclock : r.clock ≤ t.prunedAt := le_trans ht.landed (le_trans ht.retired ht.pruned)
  rcases publishOnce_cases lib r.publisher hwhole with ⟨dates, hcases⟩
  have hcaptured := h.captured t.capture dates
  rcases hcases with hidle | hprune |
    ⟨data, segments, aligned, hdata, hstaged, hfiles, halign, hland⟩
  · refine ⟨_, hcaptured, hclock, rfl, ?_, .inl hidle, ?_⟩
    · rw [Airing.step, hidle]
    · intro data hserved
      rw [hidle] at hserved
      cases hserved
  · refine ⟨_, hcaptured, hclock, rfl, ?_, .inr ⟨none, hprune⟩, ?_⟩
    · rw [Airing.step, hprune]
      rfl
    · intro data hserved
      rw [hprune] at hserved
      cases hserved
  · -- the manifest lands: it names the staged segments
    have hpending := hcaptured.synced.pending data segments hdata hstaged
    have hwindow : playlistSegmentDurations aligned = some segments := by
      unfold Publisher.align at halign
      split_ifs at halign
      · exact alignProgramDates_window hcaptured.dates hpending halign
      · cases halign
        exact hpending
    refine ⟨_, hcaptured.advertised lib ht hwindow, hclock, rfl, ?_, .inr ⟨_, hland⟩, ?_⟩
    · rw [Airing.step, hland]
      rfl
    · intro data' hserved
      rw [hland] at hserved
      cases hserved
      exact ⟨segments, hwindow, hfiles⟩

lemma Airing.Inv.step (h : r.Inv) (ht : t.After r.clock) (hwhole : t.Whole) :
    (r.step lib t).Inv := by
  rcases h.before_prune lib ht hwhole with ⟨q, hq, hclock, hfound, hadvertised, hcases, -⟩
  rcases hcases with hidle | ⟨served, hprune⟩
  · have hstep : { q with clock := t.prunedAt } = r.step lib t :=
      Airing.ext (congrArg Prod.fst hidle).symm hfound hadvertised rfl
    rw [← hstep]
    exact hq.later hclock
  · have hstep : { q with publisher := (q.publisher.pruned t served).1, clock := t.prunedAt } =
        r.step lib t :=
      Airing.ext (congrArg Prod.fst hprune).symm hfound hadvertised rfl
    rw [← hstep]
    exact hq.pruned hclock served

end Tick

lemma Airing.Reachable.inv {lib : DateLibrary} {r : Airing} (h : r.Reachable lib Tick.Whole) :
    r.Inv := by
  induction h with
  | start s => exact Airing.inv_start lib s
  | step _ ht hwhole ih => exact ih.step lib ht hwhole

lemma Airing.current_of_head {r : Airing} {m : Data × ℚ} (h : r.advertised.head? = some m) :
    r.current = some m.1 := by
  unfold Airing.current
  cases hlist : r.advertised with
  | nil =>
    rw [hlist] at h
    cases h
  | cons first rest =>
    rw [hlist] at h
    cases h
    rfl

/-- A name that some manifest had and the newest has not was last named by one
that is replaced. -/
lemma exists_lastNamed {advertised : List (Data × ℚ)} :
    (∀ m, advertised.head? = some m → ¬ Names m.1 name) →
      ∀ m ∈ advertised, Names m.1 name →
        ∃ w duration replacedAt, LastNamed advertised name w duration replacedAt := by
  induction advertised with
  | nil =>
    intro _ m hm
    cases hm
  | cons next rest ih =>
    intro hhead m hm hnames
    have hnext : ¬ Names next.1 name := hhead next rfl
    have hrest : m ∈ rest := by
      rcases mem_cons.mp hm with rfl | hrest
      · exact absurd hnames hnext
      · exact hrest
    cases rest with
    | nil => cases hrest
    | cons second older =>
      -- the second manifest names it last, or an older one does
      by_cases hsecond : Names second.1 name
      · rcases hsecond with ⟨w, hw, hmem⟩
        rcases mem_map.mp hmem with ⟨⟨_, duration⟩, hentry, rfl⟩
        exact ⟨w, duration, next.2, [], next.1, second.1, second.2, older, rfl, hw, hentry,
          hnext, by simp⟩
      · have hhead' : ∀ m, (second :: older).head? = some m → ¬ Names m.1 name := by
          intro m hm
          cases hm
          exact hsecond
        obtain ⟨w, duration, replacedAt, newer, next', data, landedAt, older', hsplit, hw,
          hentry, hnot, hnewer⟩ := ih hhead' m hrest hnames
        refine ⟨w, duration, replacedAt, next :: newer, next', data, landedAt, older', ?_, hw,
          hentry, hnot, ?_⟩
        · rw [hsplit]
          rfl
        · intro m hm
          rcases mem_cons.mp hm with rfl | hm
          · exact hnext
          · exact hnewer m hm

/-- In every run in which no write that fails has begun to change the served file, every tick
spares the clients. -/
theorem pruning_spares_clients {lib : DateLibrary} {r : Airing}
    (hreach : r.Reachable lib Tick.Whole) {t : Tick} (ht : t.After r.clock) (hwhole : t.Whole) :
    r.Spares lib t := by
  rcases hreach.inv.before_prune lib ht hwhole with
    ⟨q, hq, hclock, hfound, hadvertised, hcases, hserved⟩
  refine ⟨?_, hserved⟩
  intro name hname
  rcases hcases with hidle | ⟨served, hprune⟩
  · rw [hidle] at hname
    cases hname
  · rw [hprune] at hname
    obtain ⟨published, staged, hpublished, hstaged, hpub, hstage, hbelow, hexpired⟩ :=
      pruneSegments_unlinked hname
    have hcurrent : ∀ data, (r.step lib t).current = some data → ¬ Names data name := by
      intro data hdata
      have hdata' : q.current = some data := by
        rw [← hdata]
        unfold Airing.current
        rw [hadvertised, hfound]
        rfl
      rintro ⟨w, hw, hmem⟩
      rw [hq.current published hpublished data hdata'] at hw
      cases hw
      exact hpub hmem
    refine ⟨hcurrent, ⟨staged, ?_, hstage, hbelow⟩, ?_⟩
    · change (r.publisher.publishOnce lib t).1.stagingSegments = some staged
      rw [hprune]
      exact hstaged
    · -- the deadline of its last naming is over
      intro m hm hnames
      have hhead : ∀ m, (r.step lib t).advertised.head? = some m → ¬ Names m.1 name :=
        fun m hm => hcurrent m.1 (Airing.current_of_head hm)
      rcases exists_lastNamed hhead m hm hnames with ⟨w, duration, replacedAt, hlast⟩
      refine ⟨w, duration, replacedAt, hlast, ?_⟩
      rw [← hadvertised] at hlast
      rcases hq.grace name w duration replacedAt hlast with ⟨deadline, hdeadline, hle⟩ | hover
      · exact le_trans hle (hexpired deadline hdeadline)
      · exact le_trans hover hclock

/-! A run of three ticks: a window, its successor, and a quiet tick once the
first segment's grace is over. -/

def undated : DateLibrary where
  fromisoformat _ := none
  isoformat _ := none
  isoformat_oneLine := by
    intro _ _ h
    cases h

def oneSegment (name : Text) : Data :=
  some ("#EXTM3U\n#EXTINF:2.0,\n".toList ++ name ++ ['\n'])

def firstSegment : Text := "seg000000001.ts".toList

def secondSegment : Text := "seg000000002.ts".toList

def thirdSegment : Text := "seg000000003.ts".toList

def tickWriting (write : ManifestWrite) (claim : Claim) (time : ℚ) : Tick where
  capture := { releaseBefore := true, claim := claim, read := true, releaseAfter := true }
  isFile _ := true
  anchor := none
  probe _ := none
  write := write
  landedAt := time
  retireListing := []
  retiredAt := time
  pruneIsFile _ := true
  pruneListing := [firstSegment, secondSegment]
  unlink _ := .removed
  prunedAt := time

def smoothTick : Claim → ℚ → Tick := tickWriting ⟨.missing, .written, true⟩

def freshStart : Start where
  hasMediaClock := false
  manifestDates := none
  manifest := .missing
  previousWindow := none
  windowAt := 0
  capture := { releaseBefore := true, claim := .absent, read := true, releaseAfter := true }
  orphanListing := []
  orphansAt := 0

def oneWindow : Airing :=
  (Airing.start undated freshStart).step undated
    (smoothTick (.claimed (oneSegment firstSegment)) 1)

def twoWindows : Airing :=
  oneWindow.step undated (smoothTick (.claimed (oneSegment secondSegment)) 3)

lemma after_tickWriting {write : ManifestWrite} {claim : Claim} {clock time : ℚ}
    (h : clock ≤ time) : (tickWriting write claim time).After clock :=
  ⟨h, le_refl _, le_refl _⟩

/-- The first segment, advertised alone until 3, is unlinked at 7. -/
theorem pruning_spares_clients_third_tick :
    (twoWindows.publisher.publishOnce undated (smoothTick .absent 7)).2.unlinked =
      [firstSegment] ∧
    twoWindows.Spares undated (smoothTick .absent 7) := by
  have hwhole : ∀ claim time, (smoothTick claim time).Whole := by
    intro claim time h
    cases h
  have hreach : twoWindows.Reachable undated Tick.Whole :=
    .step (.step (.start _) (after_tickWriting (by decide +kernel)) (hwhole _ _))
      (after_tickWriting (by decide +kernel)) (hwhole _ _)
  exact ⟨by decide +kernel,
    pruning_spares_clients hreach (after_tickWriting (by decide +kernel)) (hwhole _ _)⟩

/-- The second window is in the file when `truncate` fails, and the rename fails as well. -/
def tornWindow : Airing :=
  oneWindow.step undated (tickWriting ⟨.torn (oneSegment secondSegment), .denied, false⟩
    (.claimed (oneSegment secondSegment)) 3)

/-- The next write does not begin: the served manifest still names the second segment, which
is in neither window of the publisher. -/
def lockedTick : Tick :=
  tickWriting ⟨.denied, .denied, false⟩ (.claimed (oneSegment thirdSegment)) 5

theorem torn_manifest_loses_segment :
    ¬ ∀ (r : Airing) (t : Tick), r.Reachable undated (fun _ => True) → t.After r.clock →
      r.Spares undated t := by
  intro h
  have hreach : tornWindow.Reachable undated fun _ => True :=
    .step (.step (.start _) (after_tickWriting (by decide +kernel)) trivial)
      (after_tickWriting (by decide +kernel)) trivial
  have hspares := (h tornWindow lockedTick hreach (after_tickWriting (by decide +kernel))).1
  have hgone : secondSegment ∈
      (tornWindow.publisher.publishOnce undated lockedTick).2.unlinked := by decide +kernel
  have hnamed : (playlistSegmentDurations (oneSegment secondSegment)).map Window.names =
      some [secondSegment] := by decide +kernel
  obtain ⟨w, hw, hnames⟩ := Option.map_eq_some_iff.mp hnamed
  refine (hspares secondSegment hgone).1 (oneSegment secondSegment) (by decide +kernel) ⟨w, hw, ?_⟩
  rw [hnames]
  exact mem_cons_self

end CivicCast.Egress
