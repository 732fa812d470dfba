import CivicCast.Egress.Preparer
import CivicCast.Lib.Interleave

/-! # The conform cache under concurrent preparations

Any number of threads prepare segments of one asset, or warm its cache entry, over one
set of files: the entry `{key}.ts`, its sidecar `{key}.json`, and the temporary file of
each. A thread's own outputs are its own. Every call on the file system is atomic; an
encode writes its file in two steps, and every tool succeeds.

The key's lock keeps the entry and its temporary file to one thread at a time. Nothing
does that for the sidecar's: a probe-only write and a promotion use the same name, and
one of them can remove the file that the other is about to publish.
`cache_safe_when_apart` is about the runs in which sidecar writes do not overlap;
`probes_fail_each_other` is one in which two of them do.

A thread is checked against a contract over what it alone knows (`contract`), and the
invariant `Agrees` ties all of these to the files.
-/

namespace CivicCast.Egress.Preparer

open Function Option

open Lib (Config Machine Prog)

/-! ## The files of one key -/

/-- A media file; an encode in progress has not completed it. -/
structure MediaFile where
  clip : Clip
  complete : Bool
deriving DecidableEq

structure CacheFiles (T : Type) where
  /-- The thread that holds the key's lock. -/
  holder : Option T
  /-- `{key}.ts.tmp` -/
  scratch : Option MediaFile
  /-- `{key}.ts` -/
  entry : Option MediaFile
  /-- `{key}.json.tmp` -/
  sidecarTmp : Option CacheMeta
  /-- `{key}.json` -/
  sidecar : Option CacheMeta
  /-- The last two are links to one file. -/
  linked : Bool
  /-- A thread's own output, and its temporary file. -/
  draft : T → Option MediaFile
  output : T → Option MediaFile

/-- The asset that the threads work on. -/
structure Asset where
  disk : Disk
  key : Key
  lengthSeconds : ℚ

namespace CacheFiles

variable {T : Type} [DecidableEq T] (asset : Asset) (t : T)

/-- The answers of a call of thread `t`. No tool fails and nothing is cancelled; a ride
may find that it cannot run. `reaped` is whether an eviction pass finds a sidecar's
temporary file more than an hour old. -/
def legal (reaps : Bool) (w : CacheFiles T) : (o : Op) → o.Res → Prop
  | .cancelRequested, requested => requested = false
  | .isFile _, present => present = true
  | .cacheKey path, key =>
    key = some asset.key ∧ asset.disk.assetOf asset.key = asset.disk.resolve path
  | .readCacheMeta _, found => found = w.sidecar
  | .cachedIsFile _, present => present = w.entry.isSome
  | .touchCached _, present => present = w.entry.isSome
  | .probeMediaDuration _, seconds => seconds = some asset.lengthSeconds
  | .checkLoudness _ _ _, result => ∃ loudness, result = some loudness ∧
      loudness.measuredLufs ≠ none
  | .level _ _, pass => pass ≠ .cancelled
  | .measureLoudnorm _ _, pass => pass = .usable
  | .ffmpeg _ _, exit => exit = .succeeded
  | .replaceTmp (.cached _), replaced => replaced = w.scratch.isSome
  | .replaceTmp (.output _), replaced => replaced = (w.draft t).isSome
  | .linkFinished _ _, linked => linked = ((w.output t).isSome && w.scratch.isNone)
  | .replaceMeta _, replaced => replaced = w.sidecarTmp.isSome
  | .linkMeta _, result =>
    result = if w.sidecarTmp = none then .failed
      else if w.sidecar = none then .linked else .fileExists
  | .tryLock _, acquired => acquired = w.holder.isNone
  | .evictCacheOverBudget, reaped => reaped = true → reaps = true
  | _, _ => True

/-- What a call of thread `t` changes. A write goes into the file that is there, and a
rename of one link over the other does nothing. -/
def next (w : CacheFiles T) : (o : Op) → o.Res → CacheFiles T
  | .startFfmpeg encode (.cached _), _ =>
    { w with scratch := some { clip := asset.disk.clip encode, complete := false } }
  | .startFfmpeg encode (.output _), _ =>
    let file := { clip := asset.disk.clip encode, complete := false }
    { w with draft := update w.draft t (some file) }
  | .ffmpeg encode (.cached _), .succeeded =>
    { w with scratch := some { clip := asset.disk.clip encode, complete := true } }
  | .ffmpeg encode (.output _), .succeeded =>
    let file := { clip := asset.disk.clip encode, complete := true }
    { w with draft := update w.draft t (some file) }
  | .unlinkTmp (.cached _), _ => { w with scratch := none }
  | .unlinkTmp (.output _), _ => { w with draft := update w.draft t none }
  | .replaceTmp (.cached _), true => { w with entry := w.scratch, scratch := none }
  | .replaceTmp (.output _), true =>
    { w with
      output := update w.output t (w.draft t)
      draft := update w.draft t none }
  | .linkFinished _ _, true => { w with scratch := w.output t }
  | .writeMetaTmp _ entry, _ =>
    { w with
      sidecarTmp := some entry
      sidecar := if w.linked then some entry else w.sidecar }
  | .replaceMeta _, true =>
    if w.linked then w else { w with sidecar := w.sidecarTmp, sidecarTmp := none }
  | .linkMeta _, .linked => { w with sidecar := w.sidecarTmp, linked := true }
  | .unlinkMetaTmp _, _ => { w with sidecarTmp := none, linked := false }
  | .unlinkMeta _, _ => { w with sidecar := none, linked := false }
  | .evictCacheOverBudget, true => { w with sidecarTmp := none, linked := false }
  | .tryLock _, true => { w with holder := some t }
  | .unlock _, _ => { w with holder := none }
  | _, _ => w

def machine (reaps : Bool) : Machine prepareIface (CacheFiles T) where
  pre := fun _ _ => True
  legal := fun w o x => w.legal asset t reaps o x
  next := fun w o x => w.next asset t o x

end CacheFiles

/-! ## Threads -/

/-- What a thread runs. -/
inductive Task where
  | prepare (segment : EgressSourceSegment) (output : Path)
  | warm (source : Path) (measured : Measured)
  | planWarm (segment : EgressSourceSegment) (scratch : Path)

def Task.code (preparer : SourcePreparer) (asset : Asset) : Task → PrepareM Unit
  | .prepare segment output => do
    let _ ← prepareSegment preparer true segment output
    return ()
  | .warm source measured => warmJob preparer asset.key source measured
  | .planWarm segment scratch => planWarmJob preparer asset.key segment scratch

/-- The length of the asset is known or not. -/
def Knows (asset : Asset) (seconds : Option ℚ) : Prop :=
  ∀ s, seconds = some s → s = asset.lengthSeconds

/-- A warm is queued for the asset, with what a preparation knew of it. -/
def Task.About (asset : Asset) : Task → Prop
  | .prepare _ _ => True
  | .warm source measured => asset.disk.resolve source = asset.disk.assetOf asset.key ∧
      Knows asset measured.mediaDuration
  | .planWarm _ _ => True

/-- The file holds the whole asset, up to the tolerance. -/
structure Whole (asset : Asset) (file : MediaFile) : Prop where
  complete : file.complete = true
  source : file.clip.asset = asset.disk.assetOf asset.key
  start : file.clip.start = 0
  length : ∀ seconds, file.clip.length = some seconds →
    asset.lengthSeconds - fullAssetDurationToleranceSeconds ≤ seconds

/-! ## The contract of a thread -/

/-- Where a thread is in a write of the sidecar. -/
inductive SidecarWrite where
  | idle
  | drafted
  | published
deriving DecidableEq

/-- What a thread knows: its own files, those of the lock while it holds it, and
whether it has promoted a conform. -/
structure Mine where
  holds : Bool
  scratch : Option MediaFile
  draft : Option MediaFile
  output : Option MediaFile
  promoted : Bool
  writing : SidecarWrite
deriving DecidableEq

namespace Mine

variable (asset : Asset)

def allows (g : Mine) : Op → Prop
  | .startFfmpeg _ (.cached _) => g.holds = true
  | .ffmpeg _ (.cached _) => g.holds = true
  | .unlinkTmp (.cached _) => g.holds = true
  | .replaceTmp (.cached _) => g.holds = true ∧ ∃ file, g.scratch = some file ∧ Whole asset file
  | .replaceTmp (.output _) => g.draft ≠ none
  | .linkFinished _ _ => g.holds = true ∧ g.scratch = none ∧
      ∃ file, g.output = some file ∧ Whole asset file
  | .writeMetaTmp _ entry => g.writing = .idle ∧ Knows asset entry.mediaDurationSeconds ∧
      (entry.fullAssetConform = true → g.promoted = true)
  | .replaceMeta _ => g.writing = .drafted
  | .linkMeta _ => g.writing = .drafted
  | .unlinkMetaTmp _ => g.writing = .published
  | .tryLock _ => g.holds = false
  | .unlock _ => g.holds = true ∧ g.scratch = none
  | .unlinkMeta _ => False
  | .scheduleCacheCopyPromotion _ => False
  | .recordWarmFailure _ => False
  | _ => True

def relies (g : Mine) : (o : Op) → o.Res → Prop
  | .cancelRequested, requested => requested = false
  | .isFile _, present => present = true
  | .cacheKey path, key =>
    key = some asset.key ∧ asset.disk.assetOf asset.key = asset.disk.resolve path
  | .readCacheMeta _, found => (∀ entry, found = some entry →
      Knows asset entry.mediaDurationSeconds) ∧ (g.writing = .published → found ≠ none)
  | .cachedIsFile _, present => g.promoted = true → present = true
  | .probeMediaDuration _, seconds => seconds = some asset.lengthSeconds
  | .checkLoudness _ _ _, result => ∃ loudness, result = some loudness ∧
      loudness.measuredLufs ≠ none
  | .level _ _, pass => pass ≠ .cancelled
  | .measureLoudnorm _ _, pass => pass = .usable
  | .ffmpeg _ _, exit => exit = .succeeded
  | .replaceTmp _, replaced => replaced = true
  | .linkFinished _ _, linked => linked = true
  | .replaceMeta _, replaced => replaced = true
  | .linkMeta _, result => result ≠ .failed
  | _, _ => True

def next (g : Mine) : (o : Op) → o.Res → Mine
  | .startFfmpeg encode (.cached _), _ =>
    { g with scratch := some { clip := asset.disk.clip encode, complete := false } }
  | .startFfmpeg encode (.output _), _ =>
    { g with draft := some { clip := asset.disk.clip encode, complete := false } }
  | .ffmpeg encode (.cached _), _ =>
    { g with scratch := some { clip := asset.disk.clip encode, complete := true } }
  | .ffmpeg encode (.output _), _ =>
    { g with draft := some { clip := asset.disk.clip encode, complete := true } }
  | .unlinkTmp (.cached _), _ => { g with scratch := none }
  | .unlinkTmp (.output _), _ => { g with draft := none }
  | .replaceTmp (.cached _), _ => { g with scratch := none, promoted := true }
  | .replaceTmp (.output _), _ => { g with output := g.draft, draft := none }
  | .linkFinished _ _, _ => { g with scratch := g.output }
  | .writeMetaTmp _ _, _ => { g with writing := .drafted }
  | .replaceMeta _, _ => { g with writing := .idle }
  | .linkMeta _, _ => { g with writing := .published }
  | .unlinkMetaTmp _, _ => { g with writing := .idle }
  | .tryLock _, true => { g with holds := true, scratch := none }
  | .unlock _, _ => { g with holds := false }
  | _, _ => g

end Mine

def contract (asset : Asset) : Machine prepareIface Mine where
  pre := fun g o => g.allows asset o
  legal := fun g o x => g.relies asset o x
  next := fun g o x => g.next asset o x

/-- The program returns, with a result and a knowledge that satisfy `Φ`. -/
def Yields {α : Type} (asset : Asset) (p : PrepareM α) (g : Mine) (Φ : α → Mine → Prop) : Prop :=
  p.wp (contract asset) (fun r g' => ∃ a, r = .ok a ∧ Φ a g') g

section Rules

variable {asset : Asset} {g : Mine} {α β : Type} {p : PrepareM α} {Φ Ψ : α → Mine → Prop}

lemma Yields.mono (h : Yields asset p g Φ) (hΦ : ∀ a g', Φ a g' → Ψ a g') : Yields asset p g Ψ := by
  refine Prog.wp_mono ?_ h
  rintro r g' ⟨a, ha, hΦ'⟩
  exact ⟨a, ha, hΦ a g' hΦ'⟩

lemma Yields.bind {f : α → PrepareM β} {Χ : β → Mine → Prop} (hp : Yields asset p g Φ)
    (hf : ∀ a g', Φ a g' → Yields asset (f a) g' Χ) : Yields asset (p >>= f) g Χ := by
  refine Prog.wp_seq hp ?_ ?_
  · rintro a g' ⟨b, hb, hΦ⟩
    cases hb
    exact hf a g' hΦ
  · rintro fault g' ⟨b, hb, _⟩
    cases hb

lemma yields_pure {a : α} (h : Φ a g) : Yields asset (pure a : PrepareM α) g Φ := ⟨a, rfl, h⟩

lemma yields_ask {o : Op} {Φ : o.Res → Mine → Prop} (hallows : g.allows asset o)
    (h : ∀ x, g.relies asset o x → Φ x (g.next asset o x)) : Yields asset (ask o) g Φ :=
  ⟨hallows, fun x hx => ⟨x, rfl, h x hx⟩⟩

lemma Yields.then {f : α → PrepareM β} {m : Mine} {Χ : β → Mine → Prop}
    (hp : Yields asset p g fun _ g₁ => g₁ = m) (hf : ∀ a, Yields asset (f a) m Χ) :
    Yields asset (p >>= f) g Χ :=
  hp.bind fun a _ hg => hg ▸ hf a

lemma yields_seq {o : Op} {f : o.Res → PrepareM α} (hallows : g.allows asset o)
    (hf : ∀ x, g.relies asset o x → Yields asset (f x) (g.next asset o x) Φ) :
    Yields asset (ask o >>= f) g Φ := ⟨hallows, hf⟩

lemma Yields.attempt (h : Yields asset p g Φ) :
    Yields asset p.attempt g fun r g' => ∃ a, r = .ok a ∧ Φ a g' := by
  refine Prog.wp_attempt.mpr (Prog.wp_mono ?_ h)
  rintro r g' ⟨a, rfl, hΦ⟩
  exact ⟨.ok a, rfl, a, rfl, hΦ⟩

lemma Yields.andFinally {q : PrepareM Unit} (hp : Yields asset p g Φ)
    (hq : ∀ a g', Φ a g' → Yields asset q g' fun _ g'' => Ψ a g'') :
    Yields asset (p.andFinally q) g Ψ := by
  refine Prog.wp_andFinally (Prog.wp_mono ?_ hp)
  rintro r g' ⟨a, rfl, hΦ⟩
  refine Prog.wp_mono ?_ (hq a g' hΦ)
  rintro r g'' ⟨_, rfl, hΨ⟩
  exact ⟨a, rfl, hΨ⟩

lemma Yields.ite {c : Prop} [Decidable c] {q : PrepareM α} (hp : c → Yields asset p g Φ)
    (hq : ¬ c → Yields asset q g Φ) : Yields asset (if c then p else q) g Φ :=
  Prog.wp_ite hp hq

end Rules

/-! ## Every thread meets its contract -/

/-- Neither the lock nor a write of the sidecar is under way. -/
structure Mine.Ready (g : Mine) : Prop where
  holds : g.holds = false
  writing : g.writing = .idle

def Mine.encoded (g : Mine) (target : Target) (clip : Clip) : Mine :=
  match target with
  | .cached _ => { g with scratch := some { clip := clip, complete := true } }
  | .output _ => { g with draft := some { clip := clip, complete := true } }

def Mine.MayEncode (g : Mine) : Target → Prop
  | .cached _ => g.holds = true
  | .output _ => True

section Tools

variable {asset : Asset} {g : Mine} {cancellable : Bool}

lemma raiseIfCancelled_yields :
    Yields asset (raiseIfCancelled cancellable) g fun _ g' => g' = g := by
  refine .ite (fun _ => ?_) fun _ => yields_pure rfl
  refine yields_seq trivial ?_
  rintro requested rfl
  exact yields_pure rfl

lemma runFfmpeg_yields (encode : Encode) (target : Target)
    (hmay : g.MayEncode target) : Yields asset (runFfmpeg cancellable encode target) g
      fun done g' => done = true ∧ g' = g.encoded target (asset.disk.clip encode) := by
  refine .bind raiseIfCancelled_yields ?_
  rintro _ g₁ rfl
  refine .bind (Φ := fun _ g₂ => g₂.MayEncode target ∧
    ∀ clip, g₂.encoded target clip = g₁.encoded target clip) (yields_ask ?_ ?_) ?_
  · cases target with
    | cached key => exact hmay
    | output path => trivial
  · intro _ _
    cases target with
    | cached key => exact ⟨hmay, fun _ => rfl⟩
    | output path => exact ⟨trivial, fun _ => rfl⟩
  rintro _ g₂ ⟨hmay₂, hsame⟩
  refine .bind (Φ := fun exit g₃ => exit = .succeeded ∧
    g₃ = g₁.encoded target (asset.disk.clip encode)) (yields_ask ?_ ?_) ?_
  · cases target with
    | cached key => exact hmay₂
    | output path => trivial
  · intro exit hexit
    rw [← hsame]
    cases target with
    | cached key | output path => exact ⟨hexit, rfl⟩
  rintro exit g₃ ⟨rfl, rfl⟩
  refine .bind raiseIfCancelled_yields ?_
  rintro _ g₄ rfl
  exact yields_pure ⟨rfl, rfl⟩

lemma checkLoudness_yields {source : Path} {start : Option ℚ}
    {duration : ℚ} : Yields asset (checkLoudness cancellable source start duration) g
      fun loudness g' => loudness.measuredLufs ≠ none ∧ g' = g := by
  refine .then raiseIfCancelled_yields fun _ => yields_seq trivial ?_
  rintro result ⟨loudness, rfl, hmeasured⟩
  refine .then raiseIfCancelled_yields fun _ => ?_
  exact yields_pure ⟨hmeasured, rfl⟩

lemma measureLoudnormMetadata_yields (source : Path)
    (window : Option Window) : Yields asset (measureLoudnormMetadata cancellable source window) g
      fun method g' => method = .twoPass ∧ g' = g := by
  refine .then raiseIfCancelled_yields fun _ => yields_seq trivial ?_
  rintro pass rfl
  refine .then raiseIfCancelled_yields fun _ => ?_
  exact yields_pure ⟨rfl, rfl⟩

lemma rideConformTmp_yields (source : Path) (window : Option Window)
    {target : Target} (hmay : g.MayEncode target) :
    Yields asset (rideConformTmp cancellable source window target) g fun ridden g' =>
      (ridden = true ∧ g' = g.encoded target (asset.disk.clip (.conform source window))) ∨
      (ridden = false ∧ g' = g) := by
  refine yields_seq trivial fun pass hpass => ?_
  cases pass with
  | cancelled => exact absurd rfl hpass
  | unusable => exact yields_pure (.inr ⟨rfl, rfl⟩)
  | usable =>
    refine .bind (runFfmpeg_yields (.conform source window) target hmay).attempt ?_
    rintro r g₂ ⟨done, rfl, rfl, rfl⟩
    exact yields_pure (.inl ⟨rfl, rfl⟩)

lemma chooseLoudness_yields {source : Path} {window : Option Window}
    {target : Target} (hmay : g.MayEncode target) :
    Yields asset (chooseLoudness cancellable source window target) g fun method g' =>
      (method = .ride ∧ g' = g.encoded target (asset.disk.clip (.conform source window))) ∨
      (method = .twoPass ∧ g' = g) := by
  refine .bind (rideConformTmp_yields source window hmay) ?_
  rintro ridden g₁ (⟨rfl, rfl⟩ | ⟨rfl, rfl⟩)
  · exact yields_pure (.inl ⟨rfl, rfl⟩)
  · exact (measureLoudnormMetadata_yields source window).mono fun _ _ h => .inr h

end Tools

section Cache

variable {asset : Asset} {g : Mine} {key : Key} {source : Path} {loudness : LoudnessGateResult}
  {normalized : Bool} {mediaDuration : Option ℚ} {method : Option LoudnessMethod} {file : MediaFile}
  {preparer : SourcePreparer} {cancellable : Bool}

lemma replaceMeta_yields (hdrafted : g.writing = .drafted) :
    Yields asset (replaceMeta key) g fun _ g' => g' = { g with writing := .idle } := by
  refine yields_seq hdrafted ?_
  rintro replaced rfl
  exact yields_pure rfl

lemma writeCacheMeta_yields {entry : CacheMeta} {onlyIfAbsent : Bool} (hidle : g.writing = .idle)
    (hknows : Knows asset entry.mediaDurationSeconds)
    (hwhole : entry.fullAssetConform = true → g.promoted = true) :
    Yields asset (writeCacheMeta key entry onlyIfAbsent) g fun _ g' => g' = g := by
  have hidle' : { g with writing := .idle } = g := by
    cases g
    cases hidle
    rfl
  refine yields_seq ⟨hidle, hknows, hwhole⟩ fun _ _ => ?_
  refine .ite (fun _ => ?_) fun _ => ?_
  · refine .andFinally (Φ := fun _ g₂ => g₂ = { g with writing := .published }) ?_ ?_
    · refine yields_seq rfl fun result hresult => ?_
      cases result with
      | linked => exact yields_pure rfl
      | failed => exact absurd rfl hresult
      | fileExists =>
        refine yields_seq trivial fun found hfound => ?_
        refine .ite (fun hnone => absurd (isNone_iff_eq_none.mp hnone) (hfound.2 rfl)) ?_
        exact fun _ => yields_pure rfl
    · rintro _ g₂ rfl
      exact yields_ask rfl fun _ _ => hidle'
  · exact (replaceMeta_yields rfl).mono fun _ _ h => h.trans hidle'

lemma promoteConformIntoCache_yields (hholds : g.holds = true)
    (hidle : g.writing = .idle) (hscratch : g.scratch = some file) (hwhole : Whole asset file)
    (hknows : Knows asset mediaDuration) :
    Yields asset (promoteConformIntoCache key loudness normalized mediaDuration method) g
      fun _ g' => g' = { g with scratch := none, promoted := true } := by
  refine .then (m := { g with scratch := none, promoted := true }) ?_ fun _ => ?_
  · refine yields_seq ⟨hholds, file, hscratch, hwhole⟩ ?_
    rintro replaced rfl
    exact yields_pure rfl
  refine .then (writeCacheMeta_yields hidle hknows fun _ => rfl) fun _ => ?_
  refine yields_seq trivial fun _ _ => yields_seq trivial fun kept hkept => ?_
  obtain rfl : kept = true := hkept rfl
  exact yields_pure rfl

lemma whole_conform (hsource : asset.disk.resolve source = asset.disk.assetOf asset.key) :
    Whole asset { clip := asset.disk.clip (.conform source none), complete := true } where
  complete := rfl
  source := hsource
  start := rfl
  length := nofun

lemma conformFullAsset_yields (hholds : g.holds = true) (hidle : g.writing = .idle)
    (hsource : asset.disk.resolve source = asset.disk.assetOf asset.key)
    (hknows : Knows asset mediaDuration) :
    Yields asset (conformFullAsset preparer cancellable key source loudness normalized
      mediaDuration) g fun _ g' => g' = { g with scratch := none, promoted := true } := by
  have hpromote : ∀ method, Yields asset
      (promoteConformIntoCache key loudness normalized mediaDuration method)
      (g.encoded (.cached key) (asset.disk.clip (.conform source none)))
      fun _ g' => g' = { g with scratch := none, promoted := true } := by
    intro method
    exact promoteConformIntoCache_yields hholds hidle rfl (whole_conform hsource) hknows
  have hencode : Yields asset (encodeFullAsset cancellable source key) g fun _ g' =>
      g' = g.encoded (.cached key) (asset.disk.clip (.conform source none)) := by
    refine .bind (runFfmpeg_yields _ (.cached key) hholds).attempt ?_
    rintro r g₁ ⟨done, rfl, rfl, rfl⟩
    exact yields_pure rfl
  refine .ite (fun _ => ?_) fun _ => ?_
  · refine .bind (chooseLoudness_yields hholds) ?_
    rintro method g₁ (⟨rfl, rfl⟩ | ⟨rfl, rfl⟩)
    · exact .then (hpromote _) fun _ => yields_pure rfl
    · exact .then hencode fun _ => .then (hpromote _) fun _ => yields_pure rfl
  · exact .then hencode fun _ => .then (hpromote _) fun _ => yields_pure rfl

lemma tryLock_yields (hready : g.Ready) : Yields asset (ask (.tryLock key)) g fun acquired g' =>
    g'.writing = .idle ∧ g'.output = g.output ∧ g'.draft = g.draft ∧ g'.holds = acquired ∧
      (acquired = true → g'.scratch = none) := by
  refine yields_ask hready.holds ?_
  intro acquired _
  cases acquired with
  | false => exact ⟨hready.writing, rfl, rfl, hready.holds, nofun⟩
  | true => exact ⟨hready.writing, rfl, rfl, rfl, fun _ => rfl⟩

lemma conformFullAssetIntoCache_yields
    (hready : g.Ready) (hsource : asset.disk.resolve source = asset.disk.assetOf asset.key)
    (hknows : Knows asset mediaDuration) :
    Yields asset (conformFullAssetIntoCache preparer cancellable key source loudness normalized
      mediaDuration) g fun _ g' => g'.Ready := by
  refine .bind (tryLock_yields hready) ?_
  rintro acquired g₁ ⟨hidle, _, _, hholds, hscratch⟩
  cases acquired with
  | false => exact yields_pure ⟨hholds, hidle⟩
  | true =>
    refine (conformFullAsset_yields hholds hidle hsource hknows).andFinally ?_
    rintro _ g₂ rfl
    exact yields_ask ⟨hholds, rfl⟩ fun _ _ => ⟨rfl, hidle⟩

lemma promoteFinishedConformIntoCache_yields {output : Path}
    (hready : g.Ready) (houtput : g.output = some file) (hwhole : Whole asset file)
    (hknows : Knows asset mediaDuration) :
    Yields asset (promoteFinishedConformIntoCache key output loudness normalized mediaDuration
      method) g fun _ g' => g'.Ready := by
  refine .bind (tryLock_yields hready) ?_
  rintro acquired g₁ ⟨hidle, houtput₁, _, hholds, hscratch⟩
  cases acquired with
  -- the lock is taken: no promotion
  | false => exact yields_pure ⟨hholds, hidle⟩
  | true =>
    have houtput₁ : g₁.output = some file := houtput₁.trans houtput
    have hlink : Yields asset (linkAndPromote key output loudness normalized mediaDuration
        method) g₁ fun needsCopy g' =>
          needsCopy = false ∧ g' = { g₁ with scratch := none, promoted := true } := by
      refine yields_seq hholds fun _ _ => yields_seq ⟨hholds, rfl, file, houtput₁, hwhole⟩ ?_
      rintro linked rfl
      have hpromoted : Yields asset
          (promoteConformIntoCache key loudness normalized mediaDuration method)
          { g₁ with scratch := g₁.output } fun _ g' =>
            g' = { g₁ with scratch := none, promoted := true } :=
        promoteConformIntoCache_yields hholds hidle houtput₁ hwhole hknows
      exact .then hpromoted fun _ => yields_pure ⟨rfl, rfl⟩
    refine .bind (Φ := fun needsCopy g' => needsCopy = false ∧ g'.Ready) ?_ ?_
    · refine .andFinally (Φ := fun needsCopy g' => needsCopy = false ∧
        g' = { g₁ with scratch := none, promoted := true }) (.bind hlink.attempt ?_) ?_
      · rintro r g₂ ⟨needsCopy, rfl, rfl, rfl⟩
        exact yields_pure ⟨rfl, rfl⟩
      · rintro needsCopy g₂ ⟨hneeds, rfl⟩
        exact yields_ask ⟨hholds, rfl⟩ fun _ _ => ⟨hneeds, rfl, hidle⟩
    · rintro needsCopy g₂ ⟨rfl, hready₂⟩
      exact yields_pure hready₂

end Cache

section Segments

variable {asset : Asset} {g : Mine} {key : Key} {preparer : SourcePreparer} {cancellable : Bool}
  {segment : EgressSourceSegment} {output : Path} {found : Option CacheMeta}

lemma sampleAsset_yields {source : Path} {mediaDuration : Option ℚ} :
    Yields asset (sampleAsset cancellable source mediaDuration) g fun sample g' =>
      sample.1.measuredLufs ≠ none ∧ g' = g := by
  have hcheck : ∀ (start : Option ℚ) (duration : ℚ) (silent : LoudnessGateResult → Bool),
      Yields asset (do
        let loudness ← checkLoudness cancellable source start duration
        return (loudness, silent loudness)) g fun sample g' =>
          sample.1.measuredLufs ≠ none ∧ g' = g := by
    intro start duration silent
    refine .bind checkLoudness_yields ?_
    rintro loudness g₁ ⟨hmeasured, rfl⟩
    exact yields_pure ⟨hmeasured, rfl⟩
  unfold sampleAsset
  split
  · exact hcheck _ _ fun _ => false
  · refine .ite (fun _ => hcheck _ _ fun loudness => loudness.atSilenceFloor) fun _ => ?_
    refine .bind checkLoudness_yields ?_
    rintro first g₁ ⟨hfirst, rfl⟩
    refine .ite (fun _ => ?_) fun _ => yields_pure ⟨hfirst, rfl⟩
    refine .bind checkLoudness_yields ?_
    rintro second g₂ ⟨hsecond, rfl⟩
    exact .ite (fun _ => yields_pure ⟨hsecond, rfl⟩) fun _ => yields_pure ⟨hfirst, rfl⟩

lemma judged_yields {loudness : LoudnessGateResult} {silent : Bool} (mediaDuration : Option ℚ)
    (hmeasured : loudness.measuredLufs ≠ none) :
    Yields asset (judged loudness silent mediaDuration) g fun measured g' =>
      measured.mediaDuration = mediaDuration ∧ g' = g := by
  refine .ite (fun hnone => absurd hnone.2 hmeasured) fun _ => ?_
  exact yields_pure ⟨rfl, rfl⟩

lemma probe_yields : Yields asset (probe cancellable segment) g fun measured g' =>
    Knows asset measured.mediaDuration ∧ g' = g := by
  refine .ite (fun _ => ?_) fun _ => ?_
  · refine .bind checkLoudness_yields ?_
    rintro loudness g₁ ⟨hmeasured, rfl⟩
    refine (judged_yields none hmeasured).mono ?_
    rintro measured g₂ ⟨hnone, rfl⟩
    refine ⟨?_, rfl⟩
    intro seconds hseconds
    rw [hnone] at hseconds
    cases hseconds
  · refine yields_seq trivial ?_
    rintro seconds rfl
    refine .bind sampleAsset_yields ?_
    rintro ⟨loudness, silent⟩ g₂ ⟨hmeasured, rfl⟩
    refine (judged_yields _ hmeasured).mono ?_
    rintro measured g₃ ⟨hsome, rfl⟩
    refine ⟨?_, rfl⟩
    intro seconds hseconds
    rw [hsome] at hseconds
    exact (some.inj hseconds).symm

lemma measure_yields (hready : g.Ready)
    (hfound : ∀ entry, found = some entry → Knows asset entry.mediaDurationSeconds) :
    Yields asset (measure cancellable segment (some key) found) g fun measured g' =>
      Knows asset measured.mediaDuration ∧ g' = g := by
  cases found with
  | some entry => exact yields_pure ⟨hfound entry rfl, rfl⟩
  | none =>
    refine .bind probe_yields ?_
    rintro measured g₁ ⟨hknows, rfl⟩
    refine .then (writeCacheMeta_yields hready.writing hknows nofun) fun _ => ?_
    exact yields_pure ⟨hknows, rfl⟩

lemma encodeWindow_yields : Yields asset (encodeWindow cancellable segment output) g
    fun _ g' => g' = g.encoded (.output output)
      (asset.disk.clip (.conform segment.path (some (window segment)))) := by
  refine .bind (runFfmpeg_yields _ (.output output) trivial).attempt ?_
  rintro r g₁ ⟨done, rfl, rfl, rfl⟩
  exact yields_pure rfl

lemma conformWindow_yields {normalized : Bool} :
    Yields asset (conformWindow preparer cancellable segment output normalized) g fun _ g' =>
      g' = g.encoded (.output output)
        (asset.disk.clip (.conform segment.path (some (window segment)))) := by
  have hencode : ∀ method : Option LoudnessMethod, Yields asset (do
      encodeWindow cancellable segment output
      return method) g fun _ g' => g' = g.encoded (.output output)
        (asset.disk.clip (.conform segment.path (some (window segment)))) := by
    intro method
    exact .then encodeWindow_yields fun _ => yields_pure rfl
  refine .ite (fun _ => ?_) fun _ => hencode none
  refine .bind (chooseLoudness_yields trivial) ?_
  rintro method g₁ (⟨rfl, rfl⟩ | ⟨rfl, rfl⟩)
  · exact yields_pure rfl
  · exact hencode (some .twoPass)

lemma replaceOutput_yields {clip : Clip} :
    Yields asset (replaceTmp (.output output)) (g.encoded (.output output) clip) fun _ g' =>
      g' = { g with draft := none, output := some { clip := clip, complete := true } } := by
  refine yields_seq nofun ?_
  rintro replaced rfl
  exact yields_pure rfl

lemma whole_window (hsource : asset.disk.resolve segment.path = asset.disk.assetOf asset.key)
    {mediaDuration : Option ℚ} (hknows : Knows asset mediaDuration)
    (hfull : isFullAssetConform segment mediaDuration = true) :
    Whole asset {
      clip := asset.disk.clip (.conform segment.path (some (window segment)))
      complete := true } := by
  unfold isFullAssetConform EgressSourceSegment.trimmed at hfull
  simp only [Bool.and_eq_true, Bool.not_eq_true', Bool.or_eq_false_iff, isSome_eq_false_iff,
    isNone_iff_eq_none, any_eq_true, decide_eq_true_eq] at hfull
  rcases hfull with ⟨⟨hinpoint, _⟩, seconds, hseconds, hcovers⟩
  refine ⟨rfl, hsource, ?_, ?_⟩
  · show segment.inpointSeconds.getD 0 = 0
    rw [hinpoint]
    rfl
  · intro length hlength
    cases hlength
    rw [hknows seconds hseconds] at hcovers
    exact hcovers

lemma prepareWindow_yields (hready : g.Ready)
    (hsource : asset.disk.resolve segment.path = asset.disk.assetOf asset.key)
    {measured : Measured} (hknows : Knows asset measured.mediaDuration) :
    Yields asset (prepareWindow preparer cancellable segment output (some key) measured) g
      fun _ g' => g'.Ready := by
  refine .then conformWindow_yields fun method => .then replaceOutput_yields fun _ => ?_
  have hready₂ : Mine.Ready { g with draft := none, output := some {
      clip := asset.disk.clip (.conform segment.path (some (window segment)))
      complete := true } } := ⟨hready.holds, hready.writing⟩
  refine .ite (fun hfull => ?_) fun _ => ?_
  · rw [Bool.and_eq_true] at hfull
    exact .bind (promoteFinishedConformIntoCache_yields hready₂ rfl
      (whole_window hsource hknows hfull.1) hknows) fun _ _ h => yields_pure h
  · exact yields_seq trivial fun _ _ => yields_pure hready₂

lemma emitPreparedFromCache_yields (hready : g.Ready) {loudness : LoudnessGateResult}
    {normalized : Bool} {method : Option LoudnessMethod} :
    Yields asset (emitPreparedFromCache preparer cancellable key segment output loudness normalized
      method) g fun _ g' => g'.Ready := by
  refine .ite (fun _ => yields_pure hready) fun _ => ?_
  refine .bind (runFfmpeg_yields _ (.output output) trivial).attempt ?_
  rintro r g₁ ⟨done, rfl, rfl, rfl⟩
  exact .then replaceOutput_yields fun _ => yields_pure ⟨hready.holds, hready.writing⟩

lemma prepareMiss_yields (hready : g.Ready)
    (hsource : asset.disk.resolve segment.path = asset.disk.assetOf asset.key)
    (hfound : ∀ entry, found = some entry → Knows asset entry.mediaDurationSeconds) :
    Yields asset (prepareMiss preparer cancellable segment output (some key) found) g
      fun _ g' => g'.Ready := by
  refine .bind (measure_yields hready hfound) ?_
  rintro measured g₁ ⟨hknows, rfl⟩
  refine .ite (fun _ => ?_) fun _ => prepareWindow_yields hready hsource hknows
  refine .bind (conformFullAssetIntoCache_yields hready hsource hknows) ?_
  intro populated g₂ hready₂
  refine .ite (fun _ => ?_) fun _ => prepareWindow_yields hready₂ hsource hknows
  exact yields_seq trivial fun entry _ => emitPreparedFromCache_yields hready₂

/-- `_prepare_segment` returns. -/
lemma prepareSegment_yields (hready : g.Ready) :
    Yields asset (prepareSegment preparer cancellable segment output) g fun _ g' => g'.Ready := by
  refine .then raiseIfCancelled_yields fun _ => yields_seq trivial ?_
  rintro present rfl
  refine yields_seq trivial ?_
  rintro found ⟨rfl, hasset⟩
  refine yields_seq trivial ?_
  rintro found ⟨hfound, -⟩
  refine .ite (fun _ => ?_) fun _ => prepareMiss_yields hready hasset.symm hfound
  have hhit : Yields asset (cacheHit asset.key found) g fun _ g' => g' = g := by
    refine yields_seq trivial fun present _ => ?_
    cases found with
    | none => exact yields_pure rfl
    | some entry =>
      refine .ite (fun _ => ?_) fun _ => yields_pure rfl
      exact yields_seq trivial fun touched _ => yields_pure rfl
  refine .then hhit fun hit => ?_
  cases hit with
  | some entry => exact emitPreparedFromCache_yields hready
  | none => exact prepareMiss_yields hready hasset.symm hfound

/-! ### The jobs -/

lemma containingWarm_yields {body : PrepareM Unit} (h : Yields asset body g fun _ g' => g'.Ready) :
    Yields asset (containingWarm key body) g fun _ g' => g'.Ready := by
  refine .bind h.attempt ?_
  rintro r g₁ ⟨_, rfl, hready⟩
  exact yields_pure hready

lemma alreadyPopulated_yields : Yields asset (alreadyPopulated key) g fun _ g' => g' = g := by
  refine yields_seq trivial fun present _ => ?_
  refine yields_seq trivial fun found _ => ?_
  exact yields_pure rfl

lemma Task.code_yields {task : Task} (hready : g.Ready) (habout : task.About asset) :
    Yields asset (task.code preparer asset) g fun _ g' => g'.Ready := by
  cases task with
  | prepare segment output =>
    exact .bind (prepareSegment_yields hready) fun _ _ h => yields_pure h
  | warm source measured =>
    rcases habout with ⟨hsource, hknows⟩
    apply containingWarm_yields
    have hduration : Yields asset (warmDuration source measured.mediaDuration) g
        fun seconds g₁ => Knows asset seconds ∧ g₁ = g := by
      refine .ite (fun _ => yields_pure ⟨hknows, rfl⟩) fun _ => yields_ask trivial ?_
      rintro seconds rfl
      exact ⟨fun _ h => (some.inj h).symm, rfl⟩
    refine .bind hduration ?_
    rintro seconds g₁ ⟨hknows, rfl⟩
    refine .then alreadyPopulated_yields fun populated => ?_
    refine .ite (fun _ => yields_pure hready) fun _ => ?_
    exact .bind (conformFullAssetIntoCache_yields hready hsource hknows) fun _ _ h => yields_pure h
  | planWarm segment scratch =>
    apply containingWarm_yields
    refine .then alreadyPopulated_yields fun populated => ?_
    refine .ite (fun _ => yields_pure hready) fun _ => ?_
    refine yields_seq trivial fun seconds _ => ?_
    split
    · exact yields_pure hready
    · exact .bind (prepareSegment_yields hready) fun _ _ h => yields_pure h

end Segments

/-! ## The invariant -/

section Invariant

variable {T : Type} [DecidableEq T]

/-- The entry holds the whole asset. -/
def CacheFiles.Populated (asset : Asset) (w : CacheFiles T) : Prop :=
  ∃ file, w.entry = some file ∧ Whole asset file

/-- The lock has one holder, and only that thread touches the entry's temporary file. -/
structure LockAgrees (g : T → Mine) (w : CacheFiles T) : Prop where
  holder : ∀ t, (g t).holds = true ↔ w.holder = some t
  scratch : ∀ t, (g t).holds = true → w.scratch = (g t).scratch
  unlocked : w.holder = none → w.scratch = none

structure OutputsAgree (g : T → Mine) (w : CacheFiles T) : Prop where
  draft : ∀ t, w.draft t = (g t).draft
  output : ∀ t, w.output t = (g t).output

/-- One thread at a time writes the sidecar, and its temporary file stays until that
thread is done with it. -/
structure SidecarAgrees (g : T → Mine) (w : CacheFiles T) : Prop where
  writer : ∀ t t', (g t).writing ≠ .idle → (g t').writing ≠ .idle → t = t'
  written : ∀ t, (g t).writing ≠ .idle → w.sidecarTmp ≠ none
  published : ∀ t, (g t).writing = .published → w.sidecar ≠ none
  unlinked : ∀ t, (g t).writing = .drafted → w.linked = false
  idle : (∀ t, (g t).writing = .idle) → w.sidecarTmp = none ∧ w.linked = false

/-- A sidecar that says so comes with the whole asset, and knows the asset's length or
none. -/
structure EntryAgrees (asset : Asset) (g : T → Mine) (w : CacheFiles T) : Prop where
  promoted : ∀ t, (g t).promoted = true → w.Populated asset
  known : ∀ entry, w.sidecar = some entry ∨ w.sidecarTmp = some entry →
    Knows asset entry.mediaDurationSeconds
  flagged : ∀ entry, w.sidecar = some entry ∨ w.sidecarTmp = some entry →
    entry.fullAssetConform = true → w.Populated asset

structure Agrees (asset : Asset) (g : T → Mine) (w : CacheFiles T) : Prop where
  lock : LockAgrees g w
  outputs : OutputsAgree g w
  sidecar : SidecarAgrees g w
  entry : EntryAgrees asset g w

variable {asset : Asset} {g : T → Mine} {w w' : CacheFiles T} {t : T} {m : Mine}
  {file : MediaFile}

/-! ### What a part depends on -/

/-- A field of every thread's knowledge, when one thread's keeps it. -/
lemma update_field {β : Type} (f : Mine → β) (h : f m = f (g t)) (t' : T) :
    f (update g t m t') = f (g t') := by
  by_cases ht : t' = t
  · subst ht
    rw [update_self, h]
  · rw [update_of_ne ht]

lemma LockAgrees.congr (h : LockAgrees g w) (hholds : m.holds = (g t).holds)
    (hscratch : m.scratch = (g t).scratch) (hholder : w'.holder = w.holder)
    (hfile : w'.scratch = w.scratch) : LockAgrees (update g t m) w' where
  holder := by
    intro t'
    rw [update_field Mine.holds hholds, hholder]
    exact h.holder t'
  scratch := by
    intro t'
    rw [update_field Mine.holds hholds, update_field Mine.scratch hscratch, hfile]
    exact h.scratch t'
  unlocked := by
    rw [hholder, hfile]
    exact h.unlocked

lemma OutputsAgree.congr (h : OutputsAgree g w) (hdraft : m.draft = (g t).draft)
    (houtput : m.output = (g t).output) (hdraft' : w'.draft = w.draft)
    (houtput' : w'.output = w.output) : OutputsAgree (update g t m) w' where
  draft := by
    intro t'
    rw [update_field Mine.draft hdraft, hdraft']
    exact h.draft t'
  output := by
    intro t'
    rw [update_field Mine.output houtput, houtput']
    exact h.output t'

lemma SidecarAgrees.congr (h : SidecarAgrees g w) (hwriting : m.writing = (g t).writing)
    (htmp : w'.sidecarTmp = w.sidecarTmp) (hsidecar : w'.sidecar = w.sidecar)
    (hlinked : w'.linked = w.linked) : SidecarAgrees (update g t m) w' where
  writer := by
    intro t₁ t₂
    rw [update_field Mine.writing hwriting, update_field Mine.writing hwriting]
    exact h.writer t₁ t₂
  written := by
    intro t'
    rw [update_field Mine.writing hwriting, htmp]
    exact h.written t'
  published := by
    intro t'
    rw [update_field Mine.writing hwriting, hsidecar]
    exact h.published t'
  unlinked := by
    intro t'
    rw [update_field Mine.writing hwriting, hlinked]
    exact h.unlinked t'
  idle := by
    intro hidle
    rw [htmp, hlinked]
    apply h.idle
    intro t'
    rw [← update_field Mine.writing hwriting]
    exact hidle t'

lemma EntryAgrees.update (h : EntryAgrees asset g w) (hpromoted : m.promoted = (g t).promoted)
    (hentry : w'.entry = w.entry)
    (hsidecars : ∀ entry, w'.sidecar = some entry ∨ w'.sidecarTmp = some entry →
      Knows asset entry.mediaDurationSeconds ∧
        (entry.fullAssetConform = true → w.Populated asset)) :
    EntryAgrees asset (update g t m) w' := by
  have hpopulated : w.Populated asset → w'.Populated asset := by
    unfold CacheFiles.Populated
    rw [hentry]
    exact id
  refine ⟨?_, ?_, ?_⟩
  · intro t'
    rw [update_field Mine.promoted hpromoted]
    exact fun hthread => hpopulated (h.promoted t' hthread)
  · exact fun entry hfound => (hsidecars entry hfound).1
  · exact fun entry hfound hflag => hpopulated ((hsidecars entry hfound).2 hflag)

lemma EntryAgrees.congr (h : EntryAgrees asset g w) (hpromoted : m.promoted = (g t).promoted)
    (hentry : w'.entry = w.entry)
    (hsidecars : ∀ entry, w'.sidecar = some entry ∨ w'.sidecarTmp = some entry →
      w.sidecar = some entry ∨ w.sidecarTmp = some entry) :
    EntryAgrees asset (Function.update g t m) w' := by
  refine h.update hpromoted hentry ?_
  intro entry hfound
  have hold := hsidecars entry hfound
  exact ⟨h.known entry hold, h.flagged entry hold⟩

/-! ### What a call changes -/

/-- The lock is taken; nothing was left in its file. -/
lemma Agrees.acquire (h : Agrees asset g w) (hfree : w.holder = none) :
    Agrees asset (update g t { g t with holds := true, scratch := none })
      { w with holder := some t } where
  lock := by
    have hnobody : ∀ t', (g t').holds ≠ true := by
      intro t' hholds
      have hholder := (h.lock.holder t').mp hholds
      rw [hfree] at hholder
      cases hholder
    refine ⟨?_, ?_, fun hnone => by cases hnone⟩
    · intro t'
      by_cases ht : t' = t
      · subst ht
        simp
      · rw [update_of_ne ht]
        simp [hnobody t', Ne.symm ht]
    · intro t' hholds
      by_cases ht : t' = t
      · subst ht
        rw [update_self]
        exact h.lock.unlocked hfree
      · rw [update_of_ne ht] at hholds
        exact absurd hholds (hnobody t')
  outputs := h.outputs.congr rfl rfl rfl rfl
  sidecar := h.sidecar.congr rfl rfl rfl rfl
  entry := h.entry.congr rfl rfl fun _ h => h

lemma Agrees.release (h : Agrees asset g w) (hholds : (g t).holds = true)
    (hempty : (g t).scratch = none) :
    Agrees asset (update g t { g t with holds := false }) { w with holder := none } where
  lock := by
    have hholder := (h.lock.holder t).mp hholds
    have hothers : ∀ t', t' ≠ t → (g t').holds ≠ true := by
      intro t' ht hholds'
      have hholder' := (h.lock.holder t').mp hholds'
      rw [hholder] at hholder'
      exact ht (some.inj hholder').symm
    refine ⟨?_, ?_, fun _ => (h.lock.scratch t hholds).trans hempty⟩
    · intro t'
      by_cases ht : t' = t
      · subst ht
        simp
      · rw [update_of_ne ht]
        simp [hothers t' ht]
    · intro t' hholds'
      by_cases ht : t' = t
      · subst ht
        rw [update_self] at hholds'
        cases hholds'
      · rw [update_of_ne ht] at hholds'
        exact absurd hholds' (hothers t' ht)
  outputs := h.outputs.congr rfl rfl rfl rfl
  sidecar := h.sidecar.congr rfl rfl rfl rfl
  entry := h.entry.congr rfl rfl fun _ h => h

/-- The holder changes the lock's file, and maybe more of what it alone knows. -/
lemma LockAgrees.scratched {file : Option MediaFile} (h : LockAgrees g w)
    (hholds : (g t).holds = true) (hm : m.holds = true) (hfile : m.scratch = file)
    (hholder : w'.holder = w.holder) (hscratch : w'.scratch = file) :
    LockAgrees (update g t m) w' where
  holder := by
    intro t'
    rw [update_field Mine.holds (hm.trans hholds.symm), hholder]
    exact h.holder t'
  scratch := by
    intro t' hholds'
    rw [update_field Mine.holds (hm.trans hholds.symm)] at hholds'
    have hsame : t' = t := by
      have hone := (h.holder t').mp hholds'
      rw [(h.holder t).mp hholds] at hone
      exact (some.inj hone).symm
    rw [hsame, update_self, hfile, hscratch]
  unlocked := by
    intro hnone
    rw [hholder, (h.holder t).mp hholds] at hnone
    cases hnone

variable (h : Agrees asset g w)
include h

lemma Agrees.scratched (hholds : (g t).holds = true)
    (file : Option MediaFile) : Agrees asset (update g t { g t with scratch := file })
      { w with scratch := file } where
  lock := h.lock.scratched hholds hholds rfl rfl rfl
  outputs := h.outputs.congr rfl rfl rfl rfl
  sidecar := h.sidecar.congr rfl rfl rfl rfl
  entry := h.entry.congr rfl rfl fun _ h => h

lemma Agrees.drafted (file : Option MediaFile) :
    Agrees asset (update g t { g t with draft := file })
      { w with draft := update w.draft t file } where
  lock := h.lock.congr rfl rfl rfl rfl
  outputs := by
    refine ⟨?_, ?_⟩
    · intro t'
      by_cases ht : t' = t
      · subst ht
        simp
      · simp [ht, h.outputs.draft t']
    · intro t'
      have hsame : Mine.output { g t with draft := file } = (g t).output := rfl
      rw [update_field Mine.output hsame]
      exact h.outputs.output t'
  sidecar := h.sidecar.congr rfl rfl rfl rfl
  entry := h.entry.congr rfl rfl fun _ h => h

lemma Agrees.finished :
    Agrees asset (update g t { g t with output := (g t).draft, draft := none })
      { w with
        output := update w.output t (w.draft t)
        draft := update w.draft t none } where
  lock := h.lock.congr rfl rfl rfl rfl
  outputs := by
    refine ⟨?_, ?_⟩
    · intro t'
      by_cases ht : t' = t
      · subst ht
        simp
      · simp [ht, h.outputs.draft t']
    · intro t'
      by_cases ht : t' = t
      · subst ht
        simp [h.outputs.draft t']
      · simp [ht, h.outputs.output t']
  sidecar := h.sidecar.congr rfl rfl rfl rfl
  entry := h.entry.congr rfl rfl fun _ h => h

lemma Agrees.promote (hholds : (g t).holds = true)
    (hscratch : (g t).scratch = some file) (hwhole : Whole asset file) :
    Agrees asset (update g t { g t with scratch := none, promoted := true })
      { w with entry := w.scratch, scratch := none } where
  lock := h.lock.scratched hholds hholds rfl rfl rfl
  outputs := h.outputs.congr rfl rfl rfl rfl
  sidecar := h.sidecar.congr rfl rfl rfl rfl
  entry := by
    have hpopulated : CacheFiles.Populated asset { w with entry := w.scratch, scratch := none } :=
      ⟨file, (h.lock.scratch t hholds).trans hscratch, hwhole⟩
    exact ⟨fun _ _ => hpopulated, h.entry.known, fun _ _ _ => hpopulated⟩

omit h

omit [DecidableEq T] in
lemma SidecarAgrees.others_idle (h : SidecarAgrees g w) (hwriting : (g t).writing ≠ .idle)
    {t' : T} (ht : t' ≠ t) : (g t').writing = .idle := by
  by_contra hbusy
  exact ht (h.writer t' t hbusy hwriting)

lemma SidecarAgrees.end_write (h : SidecarAgrees g w) (hwriting : (g t).writing ≠ .idle)
    (hm : m.writing = .idle) (htmp : w'.sidecarTmp = none) (hlinked : w'.linked = false) :
    SidecarAgrees (update g t m) w' := by
  have hidle : ∀ t', (update g t m t').writing = .idle := by
    intro t'
    by_cases ht : t' = t
    · subst ht
      rw [update_self, hm]
    · rw [update_of_ne ht]
      exact h.others_idle hwriting ht
  refine ⟨?_, ?_, ?_, fun _ _ => hlinked, fun _ => ⟨htmp, hlinked⟩⟩
  · intro t₁ _ hbusy
    exact absurd (hidle t₁) hbusy
  · intro t₁ hbusy
    exact absurd (hidle t₁) hbusy
  · intro t₁ hpublished
    rw [hidle t₁] at hpublished
    cases hpublished

lemma SidecarAgrees.going_on (hothers : ∀ t', t' ≠ t → (g t').writing = .idle)
    (hm : m.writing ≠ .idle) (htmp : w'.sidecarTmp ≠ none)
    (hpublished : m.writing = .published → w'.sidecar ≠ none)
    (hunlinked : m.writing = .drafted → w'.linked = false) :
    SidecarAgrees (update g t m) w' := by
  have honly : ∀ t', (update g t m t').writing ≠ .idle → t' = t := by
    intro t' hbusy
    by_contra ht
    rw [update_of_ne ht] at hbusy
    exact hbusy (hothers t' ht)
  have hself : ∀ {t' : T} {stage : SidecarWrite}, (update g t m t').writing = stage →
      stage ≠ .idle → m.writing = stage := by
    intro t' stage hstage hbusy
    have ht := honly t' (by rw [hstage]; exact hbusy)
    rw [ht, update_self] at hstage
    exact hstage
  refine ⟨?_, fun _ _ => htmp, ?_, ?_, ?_⟩
  · intro t₁ t₂ hbusy₁ hbusy₂
    rw [honly t₁ hbusy₁, honly t₂ hbusy₂]
  · intro t₁ hstage
    exact hpublished (hself hstage (by decide))
  · intro t₁ hstage
    exact hunlinked (hself hstage (by decide))
  · intro hidle
    have hnot := hidle t
    rw [update_self] at hnot
    exact absurd hnot hm

include h

lemma Agrees.begin_write {entry : CacheMeta}
    (hidle : ∀ t', (g t').writing = .idle) (hknows : Knows asset entry.mediaDurationSeconds)
    (hflag : entry.fullAssetConform = true → (g t).promoted = true) :
    Agrees asset (update g t { g t with writing := .drafted })
      { w with
        sidecarTmp := some entry
        sidecar := if w.linked then some entry else w.sidecar } := by
  have hlinked := (h.sidecar.idle hidle).2
  refine ⟨h.lock.congr rfl rfl rfl rfl, h.outputs.congr rfl rfl rfl rfl, ?_, ?_⟩
  · refine SidecarAgrees.going_on (fun t' _ => hidle t') nofun nofun
      nofun fun _ => hlinked
  · have hnew : ∀ found, (if w.linked = true then some entry else w.sidecar) = some found ∨
        some entry = some found → w.sidecar = some found ∨ found = entry := by
      intro found hfound
      rw [hlinked] at hfound
      rcases hfound with hfound | hfound
      · exact .inl hfound
      · exact .inr (some.inj hfound).symm
    refine h.entry.update rfl rfl ?_
    intro found hfound
    rcases hnew found hfound with hold | rfl
    · exact ⟨h.entry.known found (.inl hold), h.entry.flagged found (.inl hold)⟩
    · exact ⟨hknows, fun hfull => h.entry.promoted t (hflag hfull)⟩

lemma Agrees.replace_sidecar (hdrafted : (g t).writing = .drafted) :
    Agrees asset (update g t { g t with writing := .idle })
      (if w.linked then w else { w with sidecar := w.sidecarTmp, sidecarTmp := none }) := by
  have hbusy : (g t).writing ≠ .idle := by
    rw [hdrafted]
    decide
  have hlinked := h.sidecar.unlinked t hdrafted
  rw [if_neg (by simp [hlinked])]
  refine ⟨h.lock.congr rfl rfl rfl rfl, h.outputs.congr rfl rfl rfl rfl,
    h.sidecar.end_write hbusy rfl rfl hlinked, h.entry.congr rfl rfl ?_⟩
  rintro entry (hfound | hnone)
  · exact .inr hfound
  · cases hnone

lemma Agrees.link_sidecar (hdrafted : (g t).writing = .drafted) :
    Agrees asset (update g t { g t with writing := .published })
      { w with sidecar := w.sidecarTmp, linked := true } := by
  have hbusy : (g t).writing ≠ .idle := by
    rw [hdrafted]
    decide
  have htmp := h.sidecar.written t hbusy
  exact ⟨h.lock.congr rfl rfl rfl rfl, h.outputs.congr rfl rfl rfl rfl,
    SidecarAgrees.going_on (fun _ ht => h.sidecar.others_idle hbusy ht) nofun htmp
      (fun _ => htmp) nofun,
    h.entry.congr rfl rfl fun _ hfound => .inr (or_self_iff.mp hfound)⟩

lemma Agrees.keep_sidecar (hdrafted : (g t).writing = .drafted) (hexists : w.sidecar ≠ none) :
    Agrees asset (update g t { g t with writing := .published }) w := by
  have hbusy : (g t).writing ≠ .idle := by
    rw [hdrafted]
    decide
  exact ⟨h.lock.congr rfl rfl rfl rfl, h.outputs.congr rfl rfl rfl rfl,
    SidecarAgrees.going_on (fun _ ht => h.sidecar.others_idle hbusy ht) nofun
      (h.sidecar.written t hbusy) (fun _ => hexists) nofun,
    h.entry.congr rfl rfl fun _ h => h⟩

lemma Agrees.drop_tmp (hpublished : (g t).writing = .published) :
    Agrees asset (update g t { g t with writing := .idle })
      { w with sidecarTmp := none, linked := false } := by
  have hbusy : (g t).writing ≠ .idle := by
    rw [hpublished]
    decide
  refine ⟨h.lock.congr rfl rfl rfl rfl, h.outputs.congr rfl rfl rfl rfl,
    h.sidecar.end_write hbusy rfl rfl rfl, h.entry.congr rfl rfl ?_⟩
  rintro entry (hfound | hnone)
  · exact .inl hfound
  · cases hnone

/-! ### One call -/

/-- A sidecar's temporary file is written only while no thread is in the middle of a
write of the sidecar. -/
def WritesApart (g : T → Mine) : Op → Prop
  | .writeMetaTmp _ _ => ∀ t, (g t).writing = .idle
  | _ => True

/-- A call that changes neither the files nor what its thread knows. -/
lemma Agrees.quiet : Agrees asset (update g t (g t)) w := by
  rw [update_eq_self]
  exact h

omit [DecidableEq T] in
lemma Agrees.scratch_isSome (hholds : (g t).holds = true) (hscratch : (g t).scratch = some file) :
    w.scratch.isSome = true := by
  rw [h.lock.scratch t hholds, hscratch]
  rfl

omit [DecidableEq T] in
lemma Agrees.linkable (hholds : (g t).holds = true) (hscratch : (g t).scratch = none)
    (houtput : (g t).output = some file) : ((w.output t).isSome && w.scratch.isNone) = true := by
  rw [h.lock.scratch t hholds, hscratch, h.outputs.output t, houtput]
  rfl

omit [DecidableEq T] in
lemma Agrees.sidecarTmp_isSome (hdrafted : (g t).writing = .drafted) :
    w.sidecarTmp.isSome = true := by
  have hbusy : (g t).writing ≠ .idle := by
    rw [hdrafted]
    decide
  exact isSome_iff_ne_none.mpr (h.sidecar.written t hbusy)

omit [DecidableEq T] in
lemma Agrees.relies_readCacheMeta (key : Key) : (g t).relies asset (.readCacheMeta key) w.sidecar :=
  ⟨fun entry hfound => h.entry.known entry (.inl hfound), h.sidecar.published t⟩

omit [DecidableEq T] in
lemma Agrees.relies_cachedIsFile (key : Key) :
    (g t).relies asset (.cachedIsFile key) w.entry.isSome := by
  intro hpromoted
  rcases h.entry.promoted t hpromoted with ⟨file, hfile, _⟩
  rw [hfile]
  rfl

lemma Agrees.linkMeta {result : LinkResult} (hdrafted : (g t).writing = .drafted) (key : Key)
    (hlegal : w.legal asset t false (.linkMeta key) result) :
    result ≠ .failed ∧
      Agrees asset (update g t ((g t).next asset (.linkMeta key) result))
        (w.next asset t (.linkMeta key) result) := by
  have hbusy : (g t).writing ≠ .idle := by
    rw [hdrafted]
    decide
  have hanswer : result = if w.sidecarTmp = none then LinkResult.failed
      else if w.sidecar = none then LinkResult.linked else LinkResult.fileExists := hlegal
  rw [if_neg (h.sidecar.written t hbusy)] at hanswer
  by_cases hexists : w.sidecar = none
  · rw [if_pos hexists] at hanswer
    subst hanswer
    exact ⟨by decide, h.link_sidecar hdrafted⟩
  · rw [if_neg hexists] at hanswer
    subst hanswer
    exact ⟨by decide, h.keep_sidecar hdrafted hexists⟩

lemma agrees_step {o : Op} {x : o.Res} (hapart : WritesApart g o)
    (hallows : (g t).allows asset o) (hlegal : w.legal asset t false o x) :
    (g t).relies asset o x ∧
      Agrees asset (update g t ((g t).next asset o x)) (w.next asset t o x) := by
  cases o with
  | cancelRequested | isFile path | cacheKey path => exact ⟨hlegal, h.quiet⟩
  | readCacheMeta key =>
    rw [show x = w.sidecar from hlegal]
    exact ⟨h.relies_readCacheMeta key, h.quiet⟩
  | cachedIsFile key =>
    rw [show x = w.entry.isSome from hlegal]
    exact ⟨h.relies_cachedIsFile key, h.quiet⟩
  | touchCached key => exact ⟨trivial, h.quiet⟩
  | probeMediaDuration path | checkLoudness path start duration | level source window
  | measureLoudnorm source window => exact ⟨hlegal, h.quiet⟩
  | startFfmpeg encode target =>
    cases target with
    | cached key => exact ⟨trivial, h.scratched hallows _⟩
    | output path => exact ⟨trivial, h.drafted _⟩
  | ffmpeg encode target =>
    have hsucceeded : x = .succeeded := hlegal
    subst hsucceeded
    cases target with
    | cached key => exact ⟨rfl, h.scratched hallows _⟩
    | output path => exact ⟨rfl, h.drafted _⟩
  | unlinkTmp target =>
    cases target with
    | cached key => exact ⟨trivial, h.scratched hallows none⟩
    | output path => exact ⟨trivial, h.drafted none⟩
  | replaceTmp target =>
    cases target with
    | cached key =>
      rcases hallows with ⟨hholds, file, hscratch, hwhole⟩
      have hthere : x = true := (show x = w.scratch.isSome from hlegal).trans
        (h.scratch_isSome hholds hscratch)
      subst hthere
      exact ⟨rfl, h.promote hholds hscratch hwhole⟩
    | output path =>
      have hthere : x = true := by
        rw [show x = (w.draft t).isSome from hlegal, h.outputs.draft t]
        exact isSome_iff_ne_none.mpr hallows
      subst hthere
      exact ⟨rfl, h.finished⟩
  | linkFinished output key =>
    rcases hallows with ⟨hholds, hscratch, file, houtput, _⟩
    have hthere : x = true :=
      (show x = ((w.output t).isSome && w.scratch.isNone) from hlegal).trans
        (h.linkable hholds hscratch houtput)
    subst hthere
    refine ⟨rfl, ?_⟩
    have hlinked := h.scratched hholds (w.output t)
    rw [h.outputs.output t] at hlinked
    show Agrees asset _ { w with scratch := w.output t }
    rw [h.outputs.output t]
    exact hlinked
  | writeMetaTmp key entry =>
    rcases hallows with ⟨_, hknows, hflag⟩
    exact ⟨trivial, h.begin_write hapart hknows hflag⟩
  | replaceMeta key =>
    have hthere : x = true := (show x = w.sidecarTmp.isSome from hlegal).trans
      (h.sidecarTmp_isSome hallows)
    subst hthere
    exact ⟨rfl, h.replace_sidecar hallows⟩
  | linkMeta key => exact h.linkMeta hallows key hlegal
  | unlinkMetaTmp key => exact ⟨trivial, h.drop_tmp hallows⟩
  -- the gates of these two calls never open
  | unlinkMeta key => exact absurd hallows id
  | evictCacheOverBudget =>
    have hkept : x = false := by
      cases x
      · rfl
      · exact absurd (hlegal rfl) (by decide)
    subst hkept
    exact ⟨trivial, h.quiet⟩
  | tryLock key =>
    have hanswer : x = w.holder.isNone := hlegal
    cases x with
    | false => exact ⟨trivial, h.quiet⟩
    | true => exact ⟨trivial, h.acquire (isNone_iff_eq_none.mp hanswer.symm)⟩
  | unlock key => exact ⟨trivial, h.release hallows.1 hallows.2⟩
  | scheduleWarm key => exact ⟨trivial, h.quiet⟩
  | scheduleCacheCopyPromotion key | recordWarmFailure key => exact absurd hallows id
  | gcPreparedPlanDirs | freshPlanDir | removePlanDir planDir | dropEmptyPlanDir planDir
  | isPlayable path => exact ⟨trivial, h.quiet⟩

end Invariant

/-! ## Runs -/

section Runs

variable {T : Type} [DecidableEq T]

/-- No call is under way, and what the sidecar says is right. -/
structure CacheFiles.Settled (asset : Asset) (w : CacheFiles T) : Prop where
  free : w.holder = none
  scratch : w.scratch = none
  sidecarTmp : w.sidecarTmp = none
  linked : w.linked = false
  sidecar : ∀ entry, w.sidecar = some entry → Knows asset entry.mediaDurationSeconds ∧
    (entry.fullAssetConform = true → w.Populated asset)

/-- The threads before their first call. -/
def start (preparer : SourcePreparer) (asset : Asset) (tasks : T → Task) (w₀ : CacheFiles T) :
    Config T prepareIface Fault Mine (CacheFiles T) where
  code := fun t => (tasks t).code preparer asset
  ghost := fun t =>
    { holds := false
      scratch := none
      draft := w₀.draft t
      output := w₀.output t
      promoted := false
      writing := .idle }
  world := w₀

/-- The interleavings in which every call satisfies `ok`. No eviction pass finds a
sidecar's temporary file more than an hour old. -/
def Runs (ok : (T → Mine) → Op → Prop) (preparer : SourcePreparer) (asset : Asset)
    (tasks : T → Task) (w₀ : CacheFiles T) :
    Config T prepareIface Fault Mine (CacheFiles T) → Prop :=
  Config.Reach (fun t => CacheFiles.machine asset t false) (fun _ => (contract asset).toMonitor)
    ok (start preparer asset tasks w₀)

/-- A call raises, or a warm job is about to record that it did. -/
def Failed (p : PrepareM Unit) : Prop :=
  (∃ fault, p = .raise fault) ∨ ∃ key k, p = .call (.recordWarmFailure key) k

structure CacheSafe (asset : Asset) (c : Config T prepareIface Fault Mine (CacheFiles T)) :
    Prop where
  unfailing : ∀ t, ¬ Failed (c.code t)
  whole : ∀ entry file, c.world.sidecar = some entry → entry.fullAssetConform = true →
    c.world.entry = some file → Whole asset file

variable {preparer : SourcePreparer} {asset : Asset} {tasks : T → Task} {w₀ : CacheFiles T}

omit [DecidableEq T] in
lemma agrees_start (h : w₀.Settled asset) :
    Agrees asset (start preparer asset tasks w₀).ghost w₀ where
  lock := by
    refine ⟨?_, ?_, fun _ => h.scratch⟩
    · intro t
      simp [start, h.free]
    · intro t hholds
      cases hholds
  outputs := ⟨fun _ => rfl, fun _ => rfl⟩
  sidecar := by
    refine ⟨fun _ _ hbusy => absurd rfl hbusy, fun _ hbusy => absurd rfl hbusy, ?_, ?_,
      fun _ => ⟨h.sidecarTmp, h.linked⟩⟩
    · intro t hpublished
      cases hpublished
    · exact fun _ _ => h.linked
  entry := by
    have honly : ∀ entry, w₀.sidecar = some entry ∨ w₀.sidecarTmp = some entry →
        w₀.sidecar = some entry := by
      rintro entry (hfound | hfound)
      · exact hfound
      · rw [h.sidecarTmp] at hfound
        cases hfound
    refine ⟨?_, ?_, ?_⟩
    · intro t hpromoted
      cases hpromoted
    · exact fun entry hfound => (h.sidecar entry (honly entry hfound)).1
    · exact fun entry hfound => (h.sidecar entry (honly entry hfound)).2

lemma not_failed_of_yields {p : PrepareM Unit} {g : Mine} {Φ : Unit → Mine → Prop}
    (h : Yields asset p g Φ) : ¬ Failed p := by
  rintro (⟨fault, rfl⟩ | ⟨key, k, rfl⟩)
  · rcases h with ⟨_, hok, _⟩
    cases hok
  · exact h.1

/-- In every interleaving of preparations and warms of one asset in which the writes of
its sidecar do not overlap, no call fails, and an entry whose sidecar calls it the
conform of the whole asset is one. -/
theorem cache_safe_when_apart (T : Type) [DecidableEq T] (preparer : SourcePreparer)
    (asset : Asset) (tasks : T → Task) (w₀ : CacheFiles T)
    (c : Config T prepareIface Fault Mine (CacheFiles T)) (habout : ∀ t, (tasks t).About asset)
    (hsettled : w₀.Settled asset) (hrun : Runs WritesApart preparer asset tasks w₀ c) :
    CacheSafe asset c := by
  have hinit : Agrees asset (start preparer asset tasks w₀).ghost w₀ := agrees_start hsettled
  have hcode : ∀ t, Yields asset ((tasks t).code preparer asset)
      ((start preparer asset tasks w₀).ghost t) fun _ g' => g'.Ready :=
    fun t => Task.code_yields ⟨rfl, rfl⟩ (habout t)
  have hkept := Config.Reach.contract hrun hcode hinit
    fun _ _ _ _ _ hagrees hapart hallows hlegal => agrees_step hagrees hapart hallows hlegal
  rcases hkept with ⟨hthreads, hagrees⟩
  constructor
  · intro t
    exact not_failed_of_yields (hthreads t)
  · intro entry file hsidecar hflag hfile
    rcases hagrees.entry.flagged entry (.inl hsidecar) hflag with ⟨found, hfound, hwhole⟩
    rw [hfile] at hfound
    cases hfound
    exact hwhole

/-! ### Two concrete runs -/

/-- One file of half a minute. -/
def halfMinute : Asset where
  disk := { resolve := fun _ => .media "promo.mp4", assetOf := fun _ => .media "promo.mp4" }
  key := "promo"
  lengthSeconds := 30

/-- Every tool does what it was asked, and the files are as they are. -/
def answer (w : CacheFiles T) (t : T) : (o : Op) → o.Res
  | .cancelRequested => false
  | .isFile _ => true
  | .cacheKey _ => some halfMinute.key
  | .readCacheMeta _ => w.sidecar
  | .cachedIsFile _ => w.entry.isSome
  | .touchCached _ => w.entry.isSome
  | .probeMediaDuration _ => some halfMinute.lengthSeconds
  | .checkLoudness _ _ _ => some { status := .ok, measuredLufs := some (-24) }
  | .level _ _ => .usable
  | .measureLoudnorm _ _ => .usable
  | .startFfmpeg _ _ => ()
  | .ffmpeg _ _ => .succeeded
  | .unlinkTmp _ => ()
  | .replaceTmp (.cached _) => w.scratch.isSome
  | .replaceTmp (.output _) => (w.draft t).isSome
  | .linkFinished _ _ => (w.output t).isSome && w.scratch.isNone
  | .writeMetaTmp _ _ => ()
  | .replaceMeta _ => w.sidecarTmp.isSome
  | .linkMeta _ => if w.sidecarTmp = none then .failed
      else if w.sidecar = none then .linked else .fileExists
  | .unlinkMetaTmp _ => ()
  | .unlinkMeta _ => ()
  | .evictCacheOverBudget => false
  | .tryLock _ => w.holder.isNone
  | .unlock _ => ()
  | .scheduleWarm _ => ()
  | .scheduleCacheCopyPromotion _ => ()
  | .recordWarmFailure _ => ()
  | .gcPreparedPlanDirs => ()
  | .freshPlanDir => "plan"
  | .removePlanDir _ => ()
  | .dropEmptyPlanDir _ => false
  | .isPlayable _ => true

omit [DecidableEq T] in
lemma answer_legal (w : CacheFiles T) (t : T) (o : Op) :
    w.legal halfMinute t false o (answer w t o) := by
  cases o with
  | cacheKey path => exact ⟨rfl, rfl⟩
  | checkLoudness path start duration => exact ⟨_, rfl, nofun⟩
  | level source window => exact nofun
  | replaceTmp target => cases target <;> rfl
  | evictCacheOverBudget => exact nofun
  | _ => first | rfl | trivial

def emptyCache : CacheFiles Bool where
  holder := none
  scratch := none
  entry := none
  sidecarTmp := none
  sidecar := none
  linked := false
  draft := fun _ => none
  output := fun _ => none

lemma emptyCache_settled : emptyCache.Settled halfMinute := by
  refine ⟨rfl, rfl, rfl, rfl, ?_⟩
  intro entry hfound
  cases hfound

def fixedRate : SourcePreparer where
  playoutTrimSupported := false
  loudnessTargetLufs := some (-24)

/-- The threads make their calls in the order of the schedule, on an empty cache. -/
def runBy (ok : (Bool → Mine) → Op → Bool) (tasks : Bool → Task) (schedule : List Bool) :
    Option (Config Bool prepareIface Fault Mine (CacheFiles Bool)) :=
  Config.drive (fun t => CacheFiles.machine halfMinute t false)
    (fun _ => (contract halfMinute).toMonitor)
    (fun t w o => some ⟨answer w t o, answer_legal w t o⟩) (fun g o => ok g o = true) schedule
    (start fixedRate halfMinute tasks emptyCache)

lemma runs_of_runBy {ok : (Bool → Mine) → Op → Bool} {ok' : (Bool → Mine) → Op → Prop}
    {tasks : Bool → Task} {schedule : List Bool} (hok : ∀ g o, ok g o = true → ok' g o)
    {c : Config Bool prepareIface Fault Mine (CacheFiles Bool)}
    (h : runBy ok tasks schedule = some c) : Runs ok' fixedRate halfMinute tasks emptyCache c :=
  (Config.reach_of_drive .refl h).mono hok

def raised : PrepareM Unit → Option Fault
  | .raise fault => some fault
  | _ => none

def promo : EgressSourceSegment where
  label := "promo"
  path := .media "promo.mp4"
  durationSeconds := 30
  kind := .program
  sourceRef := none
  scheduleOccurrenceId := none
  scheduleOccurrenceStart := none
  sourceOffsetSeconds := none
  inpointSeconds := none
  outpointSeconds := none

def twoPreparations (t : Bool) : Task := .prepare promo (.prepared "plan" (if t then 1 else 2))

/-- Both threads have probed the asset and written the sidecar's temporary file. One
links it and removes it; for the other there is nothing left to link, and nothing to
replace the sidecar with. -/
def probesOverlap : List Bool :=
  List.replicate 10 true ++ List.replicate 10 false ++ List.replicate 2 true ++
    List.replicate 3 false

theorem probes_fail_each_other :
    ¬ ∀ (T : Type) (_ : DecidableEq T) (preparer : SourcePreparer) (asset : Asset)
      (tasks : T → Task) (w₀ : CacheFiles T)
      (c : Config T prepareIface Fault Mine (CacheFiles T)), (∀ t, (tasks t).About asset) →
      w₀.Settled asset → Runs (fun _ _ => True) preparer asset tasks w₀ c →
      CacheSafe asset c := by
  intro h
  have hruns : (runBy (fun _ _ => true) twoPreparations probesOverlap).isSome = true := by
    decide +kernel
  rcases isSome_iff_exists.mp hruns with ⟨c, hc⟩
  have hfault : (runBy (fun _ _ => true) twoPreparations probesOverlap).map
      (fun c => raised (c.code false)) = some (some .fileNotFound) := by
    decide +kernel
  rw [hc] at hfault
  have hraised : raised (c.code false) = some .fileNotFound := some.inj hfault
  have hsafe := h Bool inferInstance fixedRate halfMinute twoPreparations emptyCache c
    (fun _ => trivial) emptyCache_settled (runs_of_runBy (fun _ _ _ => trivial) hc)
  apply hsafe.unfailing false
  left
  cases hcode : c.code false with
  | raise fault => exact ⟨fault, rfl⟩
  | ret a | call o k =>
    rw [hcode] at hraised
    cases hraised

def writesApart (g : Bool → Mine) : Op → Bool
  | .writeMetaTmp _ _ => (g true).writing = .idle && (g false).writing = .idle
  | _ => true

lemma writesApart_of_true (g : Bool → Mine) (o : Op) (h : writesApart g o = true) :
    WritesApart g o := by
  cases o with
  | writeMetaTmp key entry =>
    have hboth : (g true).writing = .idle ∧ (g false).writing = .idle := by
      simpa [writesApart] using h
    intro t
    cases t with
    | true => exact hboth.1
    | false => exact hboth.2
  | _ => trivial

def warmAndPreparation (t : Bool) : Task :=
  if t then
    .warm (.media "promo.mp4")
      { loudness := { status := .ok, measuredLufs := some (-24) }
        normalized := false
        mediaDuration := some 30 }
  else .prepare promo (.prepared "plan" 1)

lemma warmAndPreparation_about (t : Bool) : (warmAndPreparation t).About halfMinute := by
  cases t with
  | true =>
    refine ⟨rfl, ?_⟩
    intro seconds hseconds
    exact (some.inj hseconds).symm
  | false => exact trivial

/-- The preparation has probed and is conforming its own output while the warm fills
the entry. -/
def warmDuringPreparation : List Bool :=
  List.replicate 14 false ++ List.replicate 11 true

/-- The warm has put the entry and its sidecar there, and both are right. -/
theorem warmed_entry_whole :
    ∃ c, runBy writesApart warmAndPreparation warmDuringPreparation = some c ∧
      CacheSafe halfMinute c ∧
      (c.world.entry.isSome && c.world.sidecar.any (·.fullAssetConform)) = true := by
  have hruns : (runBy writesApart warmAndPreparation warmDuringPreparation).isSome = true := by
    decide +kernel
  rcases isSome_iff_exists.mp hruns with ⟨c, hc⟩
  have hwarm : (runBy writesApart warmAndPreparation warmDuringPreparation).map
      (fun c => c.world.entry.isSome && c.world.sidecar.any (·.fullAssetConform)) =
        some true := by
    decide +kernel
  rw [hc] at hwarm
  exact ⟨c, hc, cache_safe_when_apart Bool fixedRate halfMinute warmAndPreparation emptyCache c
    warmAndPreparation_about emptyCache_settled (runs_of_runBy writesApart_of_true hc),
    some.inj hwarm⟩

end Runs

end CivicCast.Egress.Preparer
