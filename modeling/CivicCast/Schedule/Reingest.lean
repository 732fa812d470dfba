import Mathlib

/-! # A re-ingest from the watch folder

A watched file that changed is ingested again for the asset that its ledger row names. The
copy goes into the directory of the asset, under the name of the watched file: over what the
first ingest put there. It is removed where its size is not that of the original. A first
ingest, with no asset to spare, is not modelled.
-/

namespace CivicCast.Schedule.Reingest

open Function

/-- What the pipeline raises; the last are those that its caller does not catch. -/
inductive IngestError where
  | unsupportedFormat
  | ffprobeNotFound
  | ffprobe
  | ffmpegNotFound
  | os
  | assetAlreadyExists
  | other
  deriving DecidableEq

/-- `_INGEST_FILE_ERRORS` -/
def IngestError.isFileError (e : IngestError) : Bool := e ≠ .other

/-- The errors that only cost the asset its thumbnail. -/
def IngestError.sparesIngest : IngestError → Bool
  | ffmpegNotFound | ffprobe | os => true
  | _ => false

/-- `re.sub(r"[^A-Za-z0-9._-]", "_", name) or "watch-folder-file"` -/
def safeName (name : List Char) : List Char :=
  if name.isEmpty then "watch-folder-file".toList
  else name.map fun c => if c.isAlphanum || c ∈ ['.', '_', '-'] then c else '_'

/-- The directory of an asset: the resolved path of a name in it, and its thumbnail. -/
structure AssetDir (P : Type) where
  inside : List Char → Except IngestError P
  thumbnail : P

/-- How the steps of an attempt come out, in their order. -/
structure Attempt (P B : Type) where
  /-- `run_ffprobe` and the validation -/
  probed : Except IngestError Unit
  assetDir : String → Except IngestError (AssetDir P)
  /-- What the copy wrote over its destination, if it came so far. -/
  left : Option B
  copied : Except IngestError Unit
  /-- The sizes of the original and of the copy. -/
  sizes : Except IngestError (ℕ × ℕ)
  unlinked : Except IngestError Unit
  hashed : Except IngestError Unit
  /-- What the thumbnail render wrote, if it came so far. -/
  frame : Option B
  rendered : Except IngestError Unit
  stat : Except IngestError Unit
  /-- `apply_replace_source` -/
  stored : Except IngestError Unit

section Pipeline

variable {P B α β : Type} [DecidableEq P]

abbrev Files (P B : Type) : Type := P → Option B

def Files.write (files : Files P B) (path : P) : Option B → Files P B
  | none => files
  | some content => update files path (some content)

/-- The rest of the pipeline after a step, with the files as the step left them. -/
def andThen (files : Files P B) (step : Except IngestError α)
    (rest : α → Except IngestError β × Files P B) : Except IngestError β × Files P B :=
  match step with
  | .error e => (.error e, files)
  | .ok x => rest x

/-- A step whose errors are caught where `caught` holds. -/
def except (caught : IngestError → Bool) (step : Except IngestError Unit) :
    Except IngestError Unit :=
  match step with
  | .error e => if caught e then .ok () else .error e
  | .ok () => .ok ()

/-- Where the copy goes. -/
def Attempt.place (a : Attempt P B) (assetId : String) (sourceName : List Char) :
    Except IngestError (AssetDir P × P) := do
  a.probed
  let assetDir ← a.assetDir assetId
  return (assetDir, ← assetDir.inside (safeName sourceName))

/-- `_run_ingest_pipeline` for a file whose ledger row names an asset -/
def runIngestPipeline (a : Attempt P B) (existingAssetId : String) (sourceName : List Char)
    (files : Files P B) : Except IngestError Unit × Files P B :=
  andThen files (a.place existingAssetId sourceName) fun (assetDir, destPath) =>
  let files := files.write destPath a.left
  andThen files a.copied fun _ =>
  andThen files a.sizes fun sizes =>
  if sizes.1 ≠ sizes.2 then
    andThen files a.unlinked fun _ => (.error .os, update files destPath none)
  else
    andThen files (except (· = .os) a.hashed) fun _ =>
    let files := files.write assetDir.thumbnail a.frame
    andThen files (except IngestError.sparesIngest a.rendered) fun _ =>
    andThen files a.stat fun _ =>
    andThen files a.stored fun _ => (.ok (), files)

inductive Outcome where
  | gone
  | failed
  | reprocessed
  deriving DecidableEq

/-- `_ingest_stable_file`, where the ledger row is still there or not -/
def ingestStableFile (rowThere : Bool) (a : Attempt P B) (existingAssetId : String)
    (sourceName : List Char) (files : Files P B) : Except IngestError Outcome × Files P B :=
  if rowThere then
    match runIngestPipeline a existingAssetId sourceName files with
    | (.ok (), files) => (.ok .reprocessed, files)
    | (.error e, files) => if e.isFileError then (.ok .failed, files) else (.error e, files)
  else (.ok .gone, files)

/-! ## What an attempt leaves of a file -/

/-- The copy is not as long as the original, and is unlinked. -/
def Attempt.Discards (a : Attempt P B) : Prop :=
  ∃ sizes, a.copied = .ok () ∧ a.sizes = .ok sizes ∧ sizes.1 ≠ sizes.2 ∧ a.unlinked = .ok ()

def Attempt.Renders (a : Attempt P B) : Prop :=
  ∃ sizes, a.copied = .ok () ∧ a.sizes = .ok sizes ∧ sizes.1 = sizes.2 ∧
    except (· = .os) a.hashed = .ok () ∧ a.frame.isSome

/-- The last thing that comes to the file, if anything does, is what it held. -/
@[mk_iff]
structure Attempt.Spares (a : Attempt P B) (assetDir : AssetDir P) (destPath file : P) (old : B) :
    Prop where
  copy : ¬ a.Renders ∨ assetDir.thumbnail ≠ file → destPath = file →
    ¬ a.Discards ∧ (a.left = none ∨ a.left = some old)
  thumbnail : a.Renders → assetDir.thumbnail = file → a.frame = some old

variable {a : Attempt P B} {assetId : String} {name : List Char} {files files' : Files P B}
  {file : P} {old : B}

lemma Files.write_apply (path : P) (content : Option B) :
    files.write path content file =
      if path = file then content.or (files file) else files file := by
  cases content with
  | none => simp [Files.write]
  | some content =>
    by_cases hpath : path = file
    · subst hpath
      simp [Files.write]
    · simp [Files.write, update_of_ne (Ne.symm hpath), hpath]

lemma copied_iff (hfile : files file = some old) (destPath : P) :
    files.write destPath a.left file = some old ↔
      (destPath = file → a.left = none ∨ a.left = some old) := by
  rw [Files.write_apply]
  by_cases hdest : destPath = file
  · cases hleft : a.left with
    | none => simp [hdest, hfile]
    | some content => simp [hdest]
  · simp [hdest, hfile]

omit [DecidableEq P] in
@[simp] lemma andThen_ok (x : α) (rest : α → Except IngestError β × Files P B) :
    andThen files (.ok x) rest = rest x := rfl

omit [DecidableEq P] in
@[simp] lemma andThen_error (e : IngestError) (rest : α → Except IngestError β × Files P B) :
    andThen files (.error e) rest = (.error e, files) := rfl

omit [DecidableEq P] in
lemma andThen_files {step : Except IngestError α} {rest : α → Except IngestError β × Files P B}
    (h : ∀ x, (rest x).2 = files) : (andThen files step rest).2 = files := by
  cases step with
  | error e => rfl
  | ok x => exact h x

lemma runIngestPipeline_iff {assetDir : AssetDir P} {destPath : P}
    (hfile : files file = some old) (hplace : a.place assetId name = .ok (assetDir, destPath)) :
    (runIngestPipeline a assetId name files).2 file = some old ↔
      a.Spares assetDir destPath file old := by
  have hcopied := copied_iff (a := a) hfile destPath
  simp only [runIngestPipeline, hplace, andThen_ok]
  rw [Attempt.spares_iff]
  unfold Attempt.Discards Attempt.Renders
  cases a.copied with
  | error e => simpa using hcopied
  | ok _ =>
    cases a.sizes with
    | error e => simpa using hcopied
    | ok sizes =>
      -- a copy of another size is unlinked
      by_cases hsizes : sizes.1 = sizes.2
      · cases except (· = .os) a.hashed with
        | error e => simpa [hsizes] using hcopied
        | ok _ =>
          have hrest : ∀ files : Files P B,
              (andThen files (except IngestError.sparesIngest a.rendered) fun _ =>
                andThen files a.stat fun _ => andThen files a.stored fun _ =>
                  (.ok (), files)).2 = files :=
            fun files => andThen_files fun _ => andThen_files fun _ => andThen_files fun _ => rfl
          simp only [hsizes, ne_eq, not_true_eq_false, if_false, andThen_ok, hrest]
          cases a.frame with
          | none => simpa [Files.write, hsizes] using hcopied
          | some frame =>
            rw [Files.write_apply]
            -- past the copy only the thumbnail is written
            by_cases hthumbnail : assetDir.thumbnail = file
            · simp [hthumbnail, hsizes]
            · simpa [hthumbnail, hsizes] using hcopied
      · cases a.unlinked with
        | error e => simpa [hsizes] using hcopied
        | ok _ =>
          by_cases hpath : destPath = file
          · simp [hsizes, hpath]
          · have hkept := hcopied.mpr fun heq => absurd heq hpath
            simpa [hsizes, hpath, update_of_ne (Ne.symm hpath)] using hkept

lemma files_of_failed {rowThere : Bool}
    (h : ingestStableFile rowThere a assetId name files = (.ok .failed, files')) :
    (runIngestPipeline a assetId name files).2 = files' := by
  unfold ingestStableFile at h
  split at h
  · split at h
    · cases h
    · rename_i e left hrun
      rw [hrun]
      split at h
      · exact (Prod.mk.inj h).2
      · cases h
  · cases h

/-- A failed re-ingest leaves the file of the asset as it was exactly if it never came to the
copy, or the copy and the thumbnail go elsewhere or leave what was there. -/
theorem reingest_intact_iff {rowThere : Bool} (hfile : files file = some old)
    (h : ingestStableFile rowThere a assetId name files = (.ok .failed, files')) :
    files' file = some old ↔ ∀ assetDir destPath, a.place assetId name = .ok (assetDir, destPath) →
      a.Spares assetDir destPath file old := by
  rw [← files_of_failed h]
  cases hplace : a.place assetId name with
  | error e => simp [runIngestPipeline, hplace, hfile]
  | ok place =>
    rw [runIngestPipeline_iff hfile hplace]
    refine ⟨?_, fun hspares => hspares _ _ rfl⟩
    rintro hspares _ _ ⟨⟩
    exact hspares

end Pipeline

/-! ## A recording that is uploaded again -/

/-- The first ingest put it there. -/
def onAir : Files String String :=
  update (fun _ => none) "uploads/council/meeting.mp4" (some "first cut")

/-- The connection drops during the copy. -/
def truncated : Attempt String String where
  probed := .ok ()
  assetDir _ :=
    .ok ⟨fun name => .ok ("uploads/council/" ++ String.ofList name),
      "uploads/council/thumbnail.jpg"⟩
  left := some "second"
  copied := .ok ()
  sizes := .ok (10, 6)
  unlinked := .ok ()
  hashed := .ok ()
  frame := none
  rendered := .ok ()
  stat := .ok ()
  stored := .ok ()

theorem truncated_copy_removes_media :
    ¬ ∀ (a : Attempt String String) (assetId : String) (name : List Char)
      (files files' : Files String String) (file old : String), files file = some old →
      ingestStableFile true a assetId name files = (.ok .failed, files') →
      files' file = some old := by
  intro h
  have hgone := h truncated "council" "meeting.mp4".toList onAir _ "uploads/council/meeting.mp4"
    "first cut" rfl rfl
  revert hgone
  decide +kernel

/-- The copy of a file with another name is cut short, and removed. -/
theorem reingest_intact_renamed : ∃ files',
    ingestStableFile true truncated "council" "minutes.mp4".toList onAir = (.ok .failed, files') ∧
      files' "uploads/council/minutes.mp4" = none ∧
      files' "uploads/council/meeting.mp4" = some "first cut" := by
  have hfile : onAir "uploads/council/meeting.mp4" = some "first cut" := rfl
  let files' := (ingestStableFile true truncated "council" "minutes.mp4".toList onAir).2
  have hfailed : ingestStableFile true truncated "council" "minutes.mp4".toList onAir =
      (.ok .failed, files') := rfl
  refine ⟨files', hfailed, by decide +kernel, (reingest_intact_iff hfile hfailed).mpr ?_⟩
  intro assetDir destPath hplace
  cases hplace
  constructor
  · intro _ hsame
    exact absurd hsame (by decide +kernel)
  · intro _ hsame
    exact absurd hsame (by decide +kernel)

end CivicCast.Schedule.Reingest
