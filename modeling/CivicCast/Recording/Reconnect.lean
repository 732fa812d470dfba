import CivicCast.Lib.Python

/-! # Reconnects of a capture

A poll of `check_dropout` finds the process of a capture dead, or its file not growing any more,
and launches another one with a file of its own for what is left of the window. When the capture
is stopped, the closed files and the current one are merged.

`Capture` is one capture from the time it is armed, with what was launched for it and what was
handed to the merge. `capture_whole` is about any polls, deaths, stalls and failed launches: a
capture that was started still has all its files when it is stopped, and the merge gets them.
-/

namespace CivicCast.Recording

open List Option

open Lib (Text)

/-! ## The pipeline -/

/-- The part of the pipeline that a capture goes by: the file name of the job, and the two
limits. -/
structure CaptureSettings where
  safeFilename : Text
  stallPollsBeforeDropout : ℕ
  maxReconnectAttempts : ℕ

/-- `_segment_path`, in the directory of the capture. -/
def segmentPath (safeFilename : Text) (segment : ℕ) : Text :=
  let suffix := if segment = 0 then [] else "-seg".toList ++ Nat.toDigits 10 segment
  safeFilename ++ suffix ++ ".ts".toList

/-- `_ActiveCapture`, with the streak of stalled polls. `handle` is that a process was started. -/
structure ActiveCapture where
  handle : Bool
  outputPath : Text
  segments : List Text
  lastKnownSize : ℕ
  stallStreak : ℕ
  reconnectAttempts : ℕ
  exhausted : Bool
  captureDeadline : Option ℚ
deriving DecidableEq

/-- A launch that succeeded: its file, the reading of the clock it went by, and the duration it
was given. -/
structure Launch where
  path : Text
  reading : ℚ
  duration : Option ℚ
deriving DecidableEq

/-- What a poll finds: two readings of the clock, whether the process has exited and how large
its file is, and whether it can be closed, the next file be deleted and a process be launched. -/
structure Poll where
  first : ℚ
  exited : Bool
  size : ℕ
  terminates : Bool
  unlinks : Bool
  second : ℚ
  launches : Bool
deriving DecidableEq

/-- What a poll comes to. `reconnected` is `none` where no dropout was detected; `raised` where it
did not return. -/
structure Checked where
  active : ActiveCapture
  unlinked : List Text
  launch : Option Launch
  reconnected : Option Bool
  raised : Bool
deriving DecidableEq

variable (cfg : CaptureSettings)

def quiet (a : ActiveCapture) : Checked := ⟨a, [], none, none, false⟩

/-- A dropout is confirmed: the process is closed, and another one launched if there is a reason
to. -/
def reconnect (a : ActiveCapture) (p : Poll) : Checked :=
  if !p.terminates then ⟨a, [], none, none, true⟩
  else
    let a := { a with stallStreak := 0 }
    if cfg.maxReconnectAttempts ≤ a.reconnectAttempts then
      ⟨{ a with exhausted := true }, [], none, some false, false⟩
    else
      let nextOutput := segmentPath cfg.safeFilename (a.segments.length + 1)
      let remaining := a.captureDeadline.map fun deadline => max 0 (deadline - p.second)
      if !p.unlinks then ⟨a, [], none, none, true⟩
      else if remaining.any fun seconds => seconds ≤ 0 then
        ⟨{ a with exhausted := true }, [nextOutput], none, some false, false⟩
      else if !p.launches then
        ⟨{ a with exhausted := true }, [nextOutput], none, some false, false⟩
      else
        ⟨{ a with
            segments := a.segments ++ [a.outputPath]
            reconnectAttempts := a.reconnectAttempts + 1
            outputPath := nextOutput
            lastKnownSize := 0 },
          [nextOutput], some ⟨nextOutput, p.second, remaining⟩, some true, false⟩

def checkDropout (a : ActiveCapture) (p : Poll) : Checked :=
  if a.exhausted then quiet a
  else if a.captureDeadline.any fun deadline => deadline ≤ p.first then
    quiet { a with exhausted := true }
  else if !a.handle then quiet a
  else if p.exited then reconnect cfg a p
  else if a.lastKnownSize < p.size then quiet { a with lastKnownSize := p.size, stallStreak := 0 }
  else
    let a := { a with stallStreak := a.stallStreak + 1 }
    if a.stallStreak < cfg.stallPollsBeforeDropout then quiet a else reconnect cfg a p

/-- The files of `_finalize_segments`, by their sizes when the capture has ended. -/
def finalizeSegments (a : ActiveCapture) (size : Text → ℕ) : List Text :=
  (a.segments ++ [a.outputPath]).filter fun path => 0 < size path

/-! ## One capture -/

/-- A capture, what was launched for it, the deadline fixed at its start, the launched files that
were deleted, and what was handed to the merge, with the sizes of the files. -/
structure Capture where
  active : Option ActiveCapture
  launched : List Launch
  deadline : Option ℚ
  deleted : List Text
  merged : Option ((Text → ℕ) × List Text)

inductive CaptureAct where
  /-- `start`: whether the process is launched, the reading of the clock after that, and whether
  the process is still there. -/
  | start (duration : Option ℚ) (launches : Bool) (reading : ℚ) (alive : Bool)
  | poll (p : Poll)
  | stop (terminates : Bool) (size : Text → ℕ)

/-- `arm`. -/
def armed : Capture where
  active := some ⟨false, segmentPath cfg.safeFilename 0, [], 0, 0, 0, false, none⟩
  launched := []
  deadline := none
  deleted := []
  merged := none

/-- `start` of a capture that is armed. A capture that was started is left as it is, whether its
process runs or not. -/
def Capture.start (s : Capture) (a : ActiveCapture) (duration : Option ℚ) (launches : Bool)
    (reading : ℚ) (alive : Bool) : Capture :=
  if a.handle then s
  else if duration.any fun seconds => seconds ≤ 0 then s
  else if !launches then { s with active := none }
  else
    let deadline := duration.map fun seconds => reading + seconds
    { s with
      active := if alive then some { a with handle := true, captureDeadline := deadline } else none
      launched := s.launched ++ [⟨a.outputPath, reading, duration⟩]
      deadline := deadline }

def Capture.act (s : Capture) : CaptureAct → Capture
  | .start duration launches reading alive =>
    match s.active with
    | none => s
    | some a => s.start a duration launches reading alive
  | .poll p =>
    match s.active with
    | none => s
    | some a =>
      let checked := checkDropout cfg a p
      { s with
        active := some checked.active
        launched := s.launched ++ checked.launch.toList
        deleted := s.deleted ++ checked.unlinked.filter fun path =>
          path ∈ s.launched.map Launch.path }
  | .stop terminates size =>
    match s.active with
    | none => s
    | some a =>
      { s with
        active := none
        merged := if a.handle && terminates then some (size, finalizeSegments a size)
          else s.merged }

def Capture.after (acts : List CaptureAct) : Capture := acts.foldl (Capture.act cfg) (armed cfg)

/-- A start among these has launched its process and found it alive, and no stop came after it.
A start that fails to do so ends the capture; one with no time left does not. -/
def Started (started : Bool) : List CaptureAct → Bool
  | [] => started
  | .start duration launches _ alive :: acts =>
    if started then Started true acts
    else if duration.any fun seconds => seconds ≤ 0 then Started false acts
    else launches && alive && Started true acts
  | .poll _ :: acts => Started started acts
  | .stop _ _ :: _ => false

/-- Nothing is lost or repeated: no two launches have one file, none of these files is deleted,
and the merge gets those that are not empty, in the order of the launches. There are no more
relaunches than allowed, and none is given more than is left until the deadline. -/
structure Capture.Whole (s : Capture) : Prop where
  once : (s.launched.map Launch.path).Nodup
  kept : s.deleted = []
  merged : ∀ size files, s.merged = some (size, files) →
    files = (s.launched.map Launch.path).filter fun path => 0 < size path
  attempts : s.launched.tail.length ≤ cfg.maxReconnectAttempts
  inTime : ∀ launch ∈ s.launched.tail, ∀ deadline, s.deadline = some deadline →
    ∃ seconds, launch.duration = some seconds ∧ launch.reading + seconds ≤ deadline

/-! ## The files of the segments -/

section Paths

lemma toDigits_inj {m n : ℕ} (h : Nat.toDigits 10 m = Nat.toDigits 10 n) : m = n := by
  have hm := Nat.ofDigitChars_toDigits (b := 10) (n := m) (by decide) (by decide)
  have hn := Nat.ofDigitChars_toDigits (b := 10) (n := n) (by decide) (by decide)
  rw [← hm, ← hn, h]

lemma segmentPath_inj {name : Text} {m n : ℕ} (h : segmentPath name m = segmentPath name n) :
    m = n := by
  have hsuffix := append_cancel_left (append_cancel_right h)
  by_cases hm : m = 0
  · by_cases hn : n = 0
    · rw [hm, hn]
    · rw [if_pos hm, if_neg hn] at hsuffix
      cases hsuffix
  · by_cases hn : n = 0
    · rw [if_neg hm, if_pos hn] at hsuffix
      cases hsuffix
    · rw [if_neg hm, if_neg hn] at hsuffix
      exact toDigits_inj (append_cancel_left hsuffix)

/-- The files of the first segments. -/
def segmentPaths (name : Text) (n : ℕ) : List Text := (List.range n).map (segmentPath name)

lemma segmentPaths_nodup (name : Text) (n : ℕ) : (segmentPaths name n).Nodup :=
  nodup_range.map fun _ _ => segmentPath_inj

lemma segmentPaths_succ (name : Text) (n : ℕ) :
    segmentPaths name (n + 1) = segmentPaths name n ++ [segmentPath name n] := by
  rw [segmentPaths, range_succ, map_append]
  rfl

lemma segmentPath_not_mem {name : Text} {n : ℕ} : segmentPath name n ∉ segmentPaths name n := by
  have hnodup := segmentPaths_nodup name (n + 1)
  rw [segmentPaths_succ, nodup_append] at hnodup
  intro hmem
  exact hnodup.2.2 _ hmem _ (mem_singleton.mpr rfl) rfl

end Paths

/-! ## One poll -/

section Polls

variable {cfg} {a : ActiveCapture} {p : Poll}

/-- A poll without a launch: the files, the attempts and the deadline stay. -/
structure SameFiles (a b : ActiveCapture) : Prop where
  handle : b.handle = a.handle
  outputPath : b.outputPath = a.outputPath
  segments : b.segments = a.segments
  reconnectAttempts : b.reconnectAttempts = a.reconnectAttempts
  captureDeadline : b.captureDeadline = a.captureDeadline

def nextOutput (cfg : CaptureSettings) (a : ActiveCapture) : Text :=
  segmentPath cfg.safeFilename (a.segments.length + 1)

/-- A poll that launches: the current file is closed, and the next one takes its place. -/
structure Reconnected (cfg : CaptureSettings) (a b : ActiveCapture) (launch : Launch) : Prop where
  started : a.handle = true
  handle : b.handle = a.handle
  outputPath : b.outputPath = nextOutput cfg a
  segments : b.segments = a.segments ++ [a.outputPath]
  below : a.reconnectAttempts < cfg.maxReconnectAttempts
  reconnectAttempts : b.reconnectAttempts = a.reconnectAttempts + 1
  captureDeadline : b.captureDeadline = a.captureDeadline
  path : launch.path = nextOutput cfg a
  inTime : ∀ deadline, a.captureDeadline = some deadline →
    ∃ seconds, launch.duration = some seconds ∧ launch.reading + seconds ≤ deadline

/-- What a poll can do. -/
def Polled (cfg : CaptureSettings) (a : ActiveCapture) (c : Checked) : Prop :=
  c.unlinked ⊆ [nextOutput cfg a] ∧
    ((c.launch = none ∧ SameFiles a c.active) ∨
      ∃ launch, c.launch = some launch ∧ Reconnected cfg a c.active launch)

lemma polled_quiet {b : ActiveCapture} (h : SameFiles a b) : Polled cfg a (quiet b) :=
  ⟨nil_subset _, .inl ⟨rfl, h⟩⟩

lemma remaining_inTime {deadline second : ℚ} (h : ¬ max 0 (deadline - second) ≤ 0) :
    second + max 0 (deadline - second) ≤ deadline := by
  have hpos : 0 ≤ deadline - second := by
    by_contra hneg
    rw [max_eq_left (le_of_not_ge hneg)] at h
    exact h (le_refl 0)
  rw [max_eq_right hpos, add_sub_cancel]

lemma polled_reconnect (hstarted : a.handle = true) (p : Poll) :
    Polled cfg a (reconnect cfg a p) := by
  unfold reconnect
  split
  · exact ⟨nil_subset _, .inl ⟨rfl, rfl, rfl, rfl, rfl, rfl⟩⟩
  · dsimp only
    split
    · exact ⟨nil_subset _, .inl ⟨rfl, rfl, rfl, rfl, rfl, rfl⟩⟩
    · rename_i hbelow
      split
      · exact ⟨nil_subset _, .inl ⟨rfl, rfl, rfl, rfl, rfl, rfl⟩⟩
      · split
        · exact ⟨List.Subset.refl _, .inl ⟨rfl, rfl, rfl, rfl, rfl, rfl⟩⟩
        · rename_i hleft
          split
          · exact ⟨List.Subset.refl _, .inl ⟨rfl, rfl, rfl, rfl, rfl, rfl⟩⟩
          · refine ⟨List.Subset.refl _, .inr ⟨_, rfl, hstarted, rfl, rfl, rfl,
              Nat.lt_of_not_le hbelow, rfl, rfl, rfl, ?_⟩⟩
            -- the duration is what the second reading leaves of the window
            intro deadline hdeadline
            rw [hdeadline] at hleft ⊢
            refine ⟨_, rfl, remaining_inTime ?_⟩
            simpa using hleft

lemma polled_checkDropout (a : ActiveCapture) (p : Poll) : Polled cfg a (checkDropout cfg a p) := by
  unfold checkDropout
  split
  · exact polled_quiet ⟨rfl, rfl, rfl, rfl, rfl⟩
  · split
    · exact polled_quiet ⟨rfl, rfl, rfl, rfl, rfl⟩
    · split
      · exact polled_quiet ⟨rfl, rfl, rfl, rfl, rfl⟩
      · rename_i hhandle
        have hstarted : a.handle = true := by simpa using hhandle
        split
        · exact polled_reconnect hstarted p
        · split
          · exact polled_quiet ⟨rfl, rfl, rfl, rfl, rfl⟩
          · dsimp only
            split
            · exact polled_quiet ⟨rfl, rfl, rfl, rfl, rfl⟩
            · -- the streak is no part of what a poll is about
              rcases @polled_reconnect cfg { a with stallStreak := a.stallStreak + 1 } hstarted p
                with ⟨hunlinked, hsame | ⟨launch, hlaunch, hrec⟩⟩
              · exact ⟨hunlinked, .inl ⟨hsame.1, hsame.2.1, hsame.2.2, hsame.2.3, hsame.2.4,
                  hsame.2.5⟩⟩
              · exact ⟨hunlinked, .inr ⟨launch, hlaunch, hrec.1, hrec.2, hrec.3, hrec.4, hrec.5,
                  hrec.6, hrec.7, hrec.8, hrec.9⟩⟩

end Polls

/-! ## A whole capture -/

section Run

variable {cfg} {s : Capture} {a : ActiveCapture}

/-- The capture has the files that were launched for it, closed ones and the current one; before
it is started it has none. -/
structure Capture.Holds (cfg : CaptureSettings) (s : Capture) (a : ActiveCapture) : Prop where
  started : a.handle = true → a.segments ++ [a.outputPath] = s.launched.map Launch.path
  armed : a.handle = false → s.launched = [] ∧ a.segments = [] ∧
    a.outputPath = segmentPath cfg.safeFilename 0
  attempts : a.reconnectAttempts = a.segments.length
  deadline : a.captureDeadline = s.deadline

/-- What a capture keeps at every step. -/
structure Capture.Sound (cfg : CaptureSettings) (s : Capture) : Prop extends s.Whole cfg where
  paths : s.launched.map Launch.path = segmentPaths cfg.safeFilename s.launched.length
  holds : ∀ a, s.active = some a → s.Holds cfg a
  unmerged : ∀ a, s.active = some a → s.merged = none

lemma armed_sound : (armed cfg).Sound cfg where
  once := nodup_nil
  kept := rfl
  merged _ _ hnone := nomatch hnone
  attempts := Nat.zero_le _
  inTime _ hmem := nomatch hmem
  paths := rfl
  holds a ha := by
    cases ha
    exact ⟨fun hfalse => (nomatch hfalse), fun _ => ⟨rfl, rfl, rfl⟩, rfl, rfl⟩
  unmerged _ _ := rfl

lemma Capture.Holds.length_launched (h : s.Holds cfg a) (hstarted : a.handle = true) :
    s.launched.length = a.segments.length + 1 := by
  have hlength := congrArg length (h.started hstarted)
  rw [length_append, length_map] at hlength
  exact hlength.symm

variable (h : s.Sound cfg)
include h

lemma Capture.Sound.gone : Capture.Sound cfg { s with active := none } where
  __ := h
  holds _ hnone := nomatch hnone
  unmerged _ hnone := nomatch hnone

lemma Capture.Sound.start (ha : s.active = some a) (duration : Option ℚ) (launches : Bool)
    (reading : ℚ) (alive : Bool) : (s.start a duration launches reading alive).Sound cfg := by
  have hholds := h.holds a ha
  unfold Capture.start
  split
  · exact h
  · rename_i hhandle
    rcases hholds.armed (by simpa using hhandle) with ⟨hnone, hsegments, hpath⟩
    split
    · exact h
    · split
      · exact h.gone
      · -- the launch is the first one
        have hpaths : ∀ first : Launch, first.path = a.outputPath →
            (s.launched ++ [first]).map Launch.path = segmentPaths cfg.safeFilename 1 := by
          intro first hfirst
          rw [hnone, segmentPaths_succ]
          show [first.path] = [] ++ [segmentPath cfg.safeFilename 0]
          rw [hfirst, hpath, nil_append]
        refine ⟨⟨?_, h.kept, ?_, ?_, ?_⟩, ?_, ?_, ?_⟩
        · rw [hpaths _ rfl]
          exact segmentPaths_nodup _ 1
        · intro size files hmerged
          rw [show s.merged = none from h.unmerged a ha] at hmerged
          cases hmerged
        · rw [hnone]
          exact Nat.zero_le _
        · intro launch hmem
          rw [hnone] at hmem
          cases hmem
        · rw [hpaths _ rfl, hnone]
          rfl
        · intro b hb
          cases alive with
          | false => cases hb
          | true =>
            cases hb
            refine ⟨?_, fun hfalse => (nomatch hfalse), hholds.attempts, rfl⟩
            intro _
            rw [hpaths _ rfl, segmentPaths_succ, hsegments, hpath]
            rfl
        · exact fun _ _ => h.unmerged a ha

lemma Capture.Sound.quiet (ha : s.active = some a) {b : ActiveCapture}
    (hsame : SameFiles a b) : Capture.Sound cfg { s with active := some b } where
  __ := h
  holds b' hb' := by
    cases hb'
    have hholds := h.holds a ha
    refine ⟨?_, ?_, ?_, ?_⟩
    · rw [hsame.handle, hsame.segments, hsame.outputPath]
      exact hholds.started
    · rw [hsame.handle, hsame.segments, hsame.outputPath]
      exact hholds.armed
    · rw [hsame.reconnectAttempts, hsame.segments]
      exact hholds.attempts
    · rw [hsame.captureDeadline]
      exact hholds.deadline
  unmerged _ _ := h.unmerged a ha

lemma Capture.Sound.reconnect (ha : s.active = some a) {b : ActiveCapture}
    {launch : Launch} (hrec : Reconnected cfg a b launch) :
    Capture.Sound cfg { s with active := some b, launched := s.launched ++ [launch] } := by
  have hholds := h.holds a ha
  have hstarted := hrec.started
  have hlength := hholds.length_launched hstarted
  have hpath : launch.path = segmentPath cfg.safeFilename s.launched.length := by
    rw [hrec.path, hlength]
    rfl
  have hpaths : (s.launched ++ [launch]).map Launch.path =
      segmentPaths cfg.safeFilename (s.launched.length + 1) := by
    rw [map_append, h.paths, segmentPaths_succ]
    show _ ++ [launch.path] = _
    rw [hpath]
  have htail : (s.launched ++ [launch]).tail = s.launched.tail ++ [launch] := by
    apply tail_append_of_ne_nil
    intro hnil
    rw [hnil] at hlength
    cases hlength
  refine ⟨⟨?_, h.kept, ?_, ?_, ?_⟩, ?_, ?_, ?_⟩
  · rw [hpaths]
    exact segmentPaths_nodup _ _
  · intro size files hmerged
    rw [show s.merged = none from h.unmerged a ha] at hmerged
    cases hmerged
  · have hbelow := hrec.below
    rw [hholds.attempts] at hbelow
    rw [length_tail, length_append, hlength]
    show a.segments.length + 1 + 1 - 1 ≤ _
    omega
  · -- the new launch ends in time, as the older ones do
    intro l hl deadline hdeadline
    rw [htail] at hl
    rcases mem_append.mp hl with hold | hnew
    · exact h.inTime l hold deadline hdeadline
    · rw [mem_singleton.mp hnew]
      exact hrec.inTime deadline (hholds.deadline.trans hdeadline)
  · rw [hpaths, length_append]
    rfl
  · intro b' hb'
    cases hb'
    refine ⟨?_, ?_, ?_, ?_⟩
    · intro _
      rw [hrec.segments, hrec.outputPath, hholds.started hstarted, map_append, ← hrec.path]
      rfl
    · intro hfalse
      rw [hrec.handle, hstarted] at hfalse
      cases hfalse
    · rw [hrec.reconnectAttempts, hrec.segments, length_append, hholds.attempts]
      rfl
    · exact hrec.captureDeadline.trans hholds.deadline
  · exact fun _ _ => h.unmerged a ha

/-- The file that is cleared for a launch is none that was launched. -/
lemma Capture.Holds.nextOutput_not_mem (hholds : s.Holds cfg a) :
    nextOutput cfg a ∉ s.launched.map Launch.path := by
  cases hhandle : a.handle with
  | false =>
    rw [(hholds.armed hhandle).1]
    exact not_mem_nil
  | true =>
    rw [h.paths, hholds.length_launched hhandle]
    exact segmentPath_not_mem

lemma Capture.Sound.poll (p : Poll) : (s.act cfg (.poll p)).Sound cfg := by
  unfold Capture.act
  cases ha : s.active with
  | none => exact h
  | some a =>
    rcases @polled_checkDropout cfg a p with ⟨hunlinked, hcases⟩
    have hnone : (checkDropout cfg a p).unlinked.filter
        (fun path => path ∈ s.launched.map Launch.path) = [] := by
      rw [filter_eq_nil_iff]
      intro path hpath hmem
      rw [mem_singleton.mp (hunlinked hpath)] at hmem
      exact Capture.Holds.nextOutput_not_mem h (h.holds a ha) (of_decide_eq_true hmem)
    dsimp only
    rw [hnone, append_nil]
    rcases hcases with ⟨hlaunch, hsame⟩ | ⟨launch, hlaunch, hrec⟩
    · rw [hlaunch, toList_none, append_nil]
      exact h.quiet ha hsame
    · rw [hlaunch, toList_some]
      exact h.reconnect ha hrec

lemma Capture.Sound.stop (terminates : Bool) (size : Text → ℕ) :
    (s.act cfg (.stop terminates size)).Sound cfg := by
  unfold Capture.act
  cases ha : s.active with
  | none => exact h
  | some a =>
    dsimp only
    split
    · rename_i hended
      rw [Bool.and_eq_true] at hended
      refine ⟨⟨h.once, h.kept, ?_, h.attempts, h.inTime⟩, h.paths, fun _ hnone => (nomatch hnone),
        fun _ hnone => (nomatch hnone)⟩
      intro size' files hmerged
      cases hmerged
      rw [finalizeSegments, (h.holds a ha).started hended.1]
    · exact h.gone

lemma Capture.Sound.act (act : CaptureAct) : (s.act cfg act).Sound cfg := by
  cases act with
  | start duration launches reading alive =>
    unfold Capture.act
    cases ha : s.active with
    | none => exact h
    | some a => exact h.start ha duration launches reading alive
  | poll p => exact h.poll p
  | stop terminates size => exact h.stop terminates size

lemma Capture.Sound.run (acts : List CaptureAct) :
    (acts.foldl (Capture.act cfg) s).Sound cfg := by
  induction acts generalizing s with
  | nil => exact h
  | cons act acts ih => exact ih (h.act act)

end Run

section Stop

variable {cfg : CaptureSettings} {s : Capture}

/-- The capture is there, and whether its process was launched. -/
def Capture.Live (s : Capture) (started : Bool) : Prop :=
  ∃ a, s.active = some a ∧ a.handle = started

lemma Capture.Live.poll {started : Bool} (h : s.Live started) (p : Poll) :
    (s.act cfg (.poll p)).Live started := by
  obtain ⟨a, ha, rfl⟩ := h
  unfold Capture.act
  rw [ha]
  rcases @polled_checkDropout cfg a p with ⟨-, ⟨-, hsame⟩ | ⟨launch, -, hrec⟩⟩
  · exact ⟨_, rfl, hsame.handle⟩
  · exact ⟨_, rfl, hrec.handle⟩

/-- The induction goes over the acts: none but a stop ends a capture that was started, and none
but a failed start one that was not. -/
lemma live_of_started {acts : List CaptureAct} : ∀ {s : Capture} {started : Bool},
    s.Live started → Started started acts = true → (acts.foldl (Capture.act cfg) s).Live true := by
  induction acts with
  | nil =>
    rintro s started h rfl
    exact h
  | cons act acts ih =>
    intro s started h hstarted
    cases act with
    | poll p => exact ih (h.poll p) hstarted
    | stop terminates size => cases hstarted
    | start duration launches reading alive =>
      obtain ⟨a, ha, hhandle⟩ := h
      have hact : s.act cfg (.start duration launches reading alive) =
          s.start a duration launches reading alive := by
        unfold Capture.act
        rw [ha]
      rw [foldl_cons, hact]
      unfold Started at hstarted
      unfold Capture.start
      cases started with
      | true =>
        rw [if_pos hhandle]
        exact ih ⟨a, ha, hhandle⟩ hstarted
      | false =>
        rw [if_neg (by simp [hhandle])]
        by_cases hover : (duration.any fun seconds => seconds ≤ 0) = true
        · -- there is no time left: it may be started again
          rw [if_pos hover]
          rw [if_neg (by simp), if_pos hover] at hstarted
          exact ih ⟨a, ha, hhandle⟩ hstarted
        · rw [if_neg hover]
          rw [if_neg (by simp), if_neg hover, Bool.and_eq_true, Bool.and_eq_true] at hstarted
          obtain ⟨⟨rfl, rfl⟩, hrest⟩ := hstarted
          exact ih ⟨_, rfl, rfl⟩ hrest

lemma Capture.Sound.handed (h : s.Sound cfg) (hlive : s.Live true) (size : Text → ℕ) :
    (s.act cfg (.stop true size)).merged =
      some (size, (s.launched.map Launch.path).filter fun path => 0 < size path) := by
  obtain ⟨a, ha, hhandle⟩ := hlive
  unfold Capture.act
  rw [ha]
  dsimp only
  rw [hhandle, ← (h.holds a ha).started hhandle]
  rfl

end Stop

/-- Whatever the polls of a capture find, and whatever becomes of its processes and launches: no
file that was launched is lost or repeated, there are no more relaunches than allowed, and none
is given a duration that reaches past the deadline fixed at the start. And a capture that was
started and not yet stopped hands its files over when it is. -/
theorem capture_whole (cfg : CaptureSettings) (acts : List CaptureAct) :
    (Capture.after cfg acts).Whole cfg ∧
      (Started false acts = true → ∀ size,
        (Capture.after cfg (acts ++ [.stop true size])).merged =
          some (size, ((Capture.after cfg acts).launched.map Launch.path).filter fun path =>
            0 < size path)) := by
  have hrun : (Capture.after cfg acts).Sound cfg := armed_sound.run acts
  refine ⟨hrun.toWhole, fun hstarted size => ?_⟩
  unfold Capture.after
  rw [foldl_append, foldl_cons, foldl_nil]
  exact hrun.handed (live_of_started ⟨_, rfl, rfl⟩ hstarted) size

namespace Dropout

def settings : CaptureSettings := ⟨"council".toList, 2, 20⟩

/-- The process dies once, and the second file stays empty. -/
def acts : List CaptureAct :=
  [.start (some 60) true 0 true, .poll ⟨10, true, 5, true, true, 10, true⟩]

def size (path : Text) : ℕ := if path = "council.ts".toList then 5 else 0

end Dropout

open Dropout in
theorem capture_whole_dropout :
    (Capture.after settings acts).launched =
        [⟨"council.ts".toList, 0, some 60⟩, ⟨"council-seg1.ts".toList, 10, some 50⟩] ∧
      (Capture.after settings acts).Whole settings ∧
      (Capture.after settings (acts ++ [.stop true size])).merged.map Prod.snd =
        some ["council.ts".toList] := by
  have hwhole := capture_whole settings acts
  refine ⟨by decide +kernel, hwhole.1, ?_⟩
  rw [hwhole.2 (by decide +kernel) size]
  decide +kernel

end CivicCast.Recording
