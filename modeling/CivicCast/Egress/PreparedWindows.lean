import CivicCast.Egress.Preparer

/-! # The windows of a prepared plan

A segment of a prepared plan should air what the segment of the plan asked for: the
same occurrence, for as long, from the same stretch of the asset. `prepare` shares the
media of two segments with the same file and trim points. A slot can cap an untrimmed
segment below the asset's length, so such segments need not be as long as each other;
`airtime_preserved_iff` says that a plan is prepared faithfully exactly when they are.

The machine here is one call of `prepare`. Other calls change the cache at any moment,
so every look into it may return anything; an entry that is served holds the asset of
its key. An entry may fall short of its asset by `fullAssetDurationToleranceSeconds`:
a clip is the stretch that was asked for.
-/

namespace CivicCast.Egress.Preparer

open List Function

open Lib (Machine Prog Exec)

/-! ## The outputs of one call -/

/-- The prepared files of the plan, and what the tools have finished of them. -/
structure Outputs where
  drafts : Path → Option Clip
  files : Path → Option Clip

namespace Outputs

variable (disk : Disk)

def legal (w : Outputs) : (o : Op) → o.Res → Prop
  | .cacheKey path, found => ∀ key, found = some key → disk.assetOf key = disk.resolve path
  | .replaceTmp (.output path), replaced => replaced = true → w.drafts path ≠ none
  | _, _ => True

def next (w : Outputs) : (o : Op) → o.Res → Outputs
  | .startFfmpeg _ (.output path), _ => { w with drafts := update w.drafts path none }
  | .ffmpeg encode (.output path), .succeeded =>
    { w with drafts := update w.drafts path (some (disk.clip encode)) }
  | .unlinkTmp (.output path), _ => { w with drafts := update w.drafts path none }
  | .replaceTmp (.output path), true =>
    { drafts := update w.drafts path none
      files := update w.files path (w.drafts path) }
  | .removePlanDir planDir, _ =>
    { w with files := fun path =>
        match path with
        | .prepared dir index => if dir = planDir then none else w.files (.prepared dir index)
        | path => w.files path }
  | _, _ => w

def machine : Machine prepareIface Outputs where
  pre := fun _ _ => True
  legal := fun w o x => w.legal disk o x
  next := fun w o x => w.next disk o x

def contents (w : Outputs) : Path → Option Clip
  | .media name => some { asset := disk.resolve (.media name), start := 0, length := none }
  | .cached key => some { asset := disk.assetOf key, start := 0, length := none }
  | .prepared planDir index => w.files (.prepared planDir index)

end Outputs

/-- The stretch of a clip between two points. -/
def Clip.cut (clip : Clip) (inpoint outpoint : Option ℚ) : Clip where
  asset := clip.asset
  start := clip.start + inpoint.getD 0
  length := (outpoint.or clip.length).map (· - inpoint.getD 0)

def liveClip (disk : Disk) (segment : EgressSourceSegment) : Clip :=
  Clip.cut { asset := disk.resolve segment.path, start := 0, length := none }
    segment.inpointSeconds segment.outpointSeconds

/-- The stretch that plays when a prepared segment is on. -/
def Outputs.plays (disk : Disk) (w : Outputs) (prepared : EgressSourceSegment) : Option Clip :=
  if prepared.kind = .live then some (liveClip disk prepared)
  else (w.contents disk prepared.path).map
    (·.cut prepared.inpointSeconds prepared.outpointSeconds)

/-! ## What a window plays -/

/-- The same occurrence, for as long. -/
structure SameAiring (segment prepared : EgressSourceSegment) : Prop where
  durationSeconds : prepared.durationSeconds = segment.durationSeconds
  label : prepared.label = segment.label
  kind : prepared.kind = segment.kind
  sourceRef : prepared.sourceRef = segment.sourceRef
  scheduleOccurrenceId : prepared.scheduleOccurrenceId = segment.scheduleOccurrenceId
  scheduleOccurrenceStart : prepared.scheduleOccurrenceStart = segment.scheduleOccurrenceStart

/-- The prepared segment plays what every preparation of the segment alone plays. -/
def PlaysAsAlone (preparer : SourcePreparer) (disk : Disk) (segment prepared : EgressSourceSegment)
    (w : Outputs) : Prop :=
  ∀ cancellable channelId w₁ report w₂ alone,
    Exec (Outputs.machine disk)
      (prepare preparer cancellable { channelId := channelId, segments := [segment] }) w₁
      (.ok report) w₂ →
    report.sourcePlan.segments = [alone] → w₂.plays disk alone = w.plays disk prepared

/-- Every segment of the plan, in its place. -/
def PreservesAirtime (preparer : SourcePreparer) (disk : Disk) (plan : EgressSourcePlan)
    (report : SourcePreparationReport) (w : Outputs) : Prop :=
  List.Forall₂ (fun segment prepared =>
    SameAiring segment prepared ∧ PlaysAsAlone preparer disk segment prepared w)
    plan.segments report.sourcePlan.segments

/-- Segments with the same file and trim points are as long as each other. -/
def RepeatsAgree (segments : List EgressSourceSegment) : Prop :=
  ∀ segment ∈ segments, ∀ other ∈ segments, segment.kind ≠ .live → other.kind ≠ .live →
    seenKey segment = seenKey other → segment.durationSeconds = other.durationSeconds

/-! ## What leaves the outputs alone -/

/-- Calls that touch no output. -/
def Op.Apart : Op → Prop
  | .startFfmpeg _ (.output _) => False
  | .ffmpeg _ (.output _) => False
  | .unlinkTmp (.output _) => False
  | .replaceTmp (.output _) => False
  | .removePlanDir _ => False
  | _ => True

/-- Programs that make such calls only. -/
def Apart {α : Type} (p : PrepareM α) : Prop := p.Uses Op.Apart fun _ => True

section Apart

variable {disk : Disk} {w : Outputs} {α β : Type} {p : PrepareM α} {key : Key} {cancellable : Bool}

lemma next_of_apart {o : Op} {x : o.Res} (h : o.Apart) : w.next disk o x = w := by
  unfold Outputs.next
  split <;> first | rfl | exact h.elim

lemma Apart.wp (h : Apart p) : p.wp (Outputs.machine disk) (fun _ w' => w' = w) w := by
  have hkeeps : p.Keeps (Outputs.machine disk) (fun w' => w' = w) fun _ => True := by
    refine Prog.Uses.keeps h (fun _ _ _ _ => trivial) ?_
    intro w₁ o x ho hw _
    exact (next_of_apart ho).trans hw
  exact Prog.wp_mono (fun _ _ hr => hr.1) (hkeeps w rfl)

lemma Apart.bind {f : α → PrepareM β} (hp : Apart p) (hf : ∀ a, Apart (f a)) :
    Apart (p >>= f) := Prog.uses_bind hp hf

lemma Apart.ask {o : Op} (h : o.Apart) : Apart (ask o) := ⟨h, fun _ => trivial⟩

lemma Apart.pure {a : α} : Apart (pure a : PrepareM α) := trivial

lemma Apart.raise {fault : Fault} : Apart (.raise fault : PrepareM α) := trivial

lemma Apart.attempt (h : Apart p) : Apart p.attempt := Prog.uses_attempt h

lemma Apart.andFinally {q : PrepareM Unit} (hp : Apart p) (hq : Apart q) :
    Apart (p.andFinally q) := Prog.uses_andFinally hp hq

lemma Apart.ite {c : Prop} [Decidable c] {q : PrepareM α} (hp : Apart p) (hq : Apart q) :
    Apart (if c then p else q) := Prog.uses_ite hp hq

lemma apart_raiseIfCancelled : Apart (raiseIfCancelled cancellable) := by
  refine .ite (.bind (.ask trivial) ?_) .pure
  intro requested
  exact .ite .raise .pure

lemma apart_runFfmpeg {encode : Encode} :
    Apart (runFfmpeg cancellable encode (.cached key)) := by
  refine .bind apart_raiseIfCancelled fun _ => .bind (.ask trivial) fun _ => ?_
  refine .bind (.ask trivial) ?_
  intro exit
  cases exit with
  | succeeded | failed => exact .bind apart_raiseIfCancelled fun _ => .pure
  | timedOut | cancelled | notFound => exact .raise

lemma apart_checkLoudness {source : Path} {start : Option ℚ} {duration : ℚ} :
    Apart (checkLoudness cancellable source start duration) := by
  refine .bind apart_raiseIfCancelled fun _ => .bind (.ask trivial) ?_
  intro result
  cases result with
  | none => exact .raise
  | some result => exact .bind apart_raiseIfCancelled fun _ => .pure

lemma apart_measureLoudnormMetadata {source : Path}
    {window : Option Window} : Apart (measureLoudnormMetadata cancellable source window) := by
  refine .bind apart_raiseIfCancelled fun _ => .bind (.ask trivial) ?_
  intro pass
  cases pass with
  | cancelled => exact .raise
  | usable | unusable => exact .bind apart_raiseIfCancelled fun _ => .pure

lemma apart_rideConformTmp {source : Path} {window : Option Window} :
    Apart (rideConformTmp cancellable source window (.cached key)) := by
  refine .bind (.ask trivial) ?_
  intro pass
  cases pass with
  | cancelled => exact .raise
  | unusable => exact .pure
  | usable =>
    refine .bind (.attempt apart_runFfmpeg) ?_
    rintro (fault | done)
    · cases fault with
      | sourcePrepare error => exact .bind (.ask trivial) fun _ => .pure
      | cancelled => exact .bind (.ask trivial) fun _ => .raise
      | ffmpegNotFound | fileNotFound => exact .raise
    · cases done with
      | false => exact .bind (.ask trivial) fun _ => .pure
      | true => exact .pure

lemma apart_chooseLoudness {source : Path} {window : Option Window}
    : Apart (chooseLoudness cancellable source window (.cached key)) := by
  refine .bind apart_rideConformTmp fun _ => ?_
  exact .ite .pure apart_measureLoudnormMetadata

lemma apart_replaceMeta : Apart (replaceMeta key) := by
  exact .bind (.ask trivial) fun _ => .ite .pure .raise

lemma apart_writeCacheMeta {entry : CacheMeta} {onlyIfAbsent : Bool} :
    Apart (writeCacheMeta key entry onlyIfAbsent) := by
  have hlink : Apart (linkMeta key) := by
    refine .bind (.ask trivial) ?_
    intro result
    cases result with
    | linked => exact .pure
    | fileExists =>
      exact .bind (.ask trivial) fun _ => .ite apart_replaceMeta .pure
    | failed => exact apart_replaceMeta
  refine .bind (.ask trivial) fun _ => ?_
  exact .ite (.andFinally hlink (.ask trivial)) apart_replaceMeta

lemma apart_promoteConformIntoCache {loudness : LoudnessGateResult}
    {normalized : Bool} {mediaDuration : Option ℚ} {method : Option LoudnessMethod} :
    Apart (promoteConformIntoCache key loudness normalized mediaDuration method) := by
  refine .bind (.bind (.ask trivial) fun _ => .ite .pure .raise) fun _ => ?_
  refine .bind apart_writeCacheMeta fun _ => .bind (.ask trivial) fun _ => ?_
  refine .bind (.ask trivial) fun _ => .ite .pure ?_
  exact .bind (.ask trivial) fun _ => .raise

lemma apart_conformFullAssetIntoCache {preparer : SourcePreparer} {source : Path}
    {loudness : LoudnessGateResult} {normalized : Bool} {mediaDuration : Option ℚ} :
    Apart (conformFullAssetIntoCache preparer cancellable key source loudness normalized
      mediaDuration) := by
  have hencode : Apart (encodeFullAsset cancellable source key) := by
    refine .bind (.attempt apart_runFfmpeg) ?_
    rintro (fault | done)
    · exact .bind (.ask trivial) fun _ => .raise
    · cases done with
      | false => exact .bind (.ask trivial) fun _ => .raise
      | true => exact .pure
  refine .bind (.ask trivial) fun _ => .ite (.andFinally ?_ (.ask trivial)) .pure
  refine .ite (.bind apart_chooseLoudness ?_) ?_
  · intro method
    cases method with
    | ride => exact .bind apart_promoteConformIntoCache fun _ => .pure
    | twoPass => exact .bind hencode fun _ => .bind apart_promoteConformIntoCache fun _ => .pure
    | singlePassFallback => exact .pure
  · exact .bind hencode fun _ => .bind apart_promoteConformIntoCache fun _ => .pure

lemma apart_promoteFinishedConformIntoCache {output : Path}
    {loudness : LoudnessGateResult} {normalized : Bool} {mediaDuration : Option ℚ}
    {method : Option LoudnessMethod} : Apart (promoteFinishedConformIntoCache key output loudness
      normalized mediaDuration method) := by
  have hlink : Apart (linkAndPromote key output loudness normalized mediaDuration method) := by
    refine .bind (.ask trivial) fun _ => .bind (.ask trivial) fun _ => .ite ?_ .pure
    exact .bind apart_promoteConformIntoCache fun _ => .pure
  refine .bind (.ask trivial) fun _ => .ite ?_ .pure
  refine .bind (.andFinally ?_ (.ask trivial)) fun _ => .ite (.ask trivial) .pure
  refine .bind (.attempt hlink) ?_
  rintro (fault | needsCopy)
  · exact .bind (.ask trivial) fun _ => .pure
  · exact .pure

lemma apart_probe {segment : EgressSourceSegment} : Apart (probe cancellable segment) := by
  have hjudged : ∀ loudness silent mediaDuration, Apart (judged loudness silent mediaDuration) := by
    intro loudness silent mediaDuration
    exact .ite .raise .pure
  have hlong : ∀ seconds, Apart (sampleLongAsset cancellable segment.path seconds) := by
    intro seconds
    refine .bind apart_checkLoudness fun _ => .ite (.bind apart_checkLoudness fun _ => ?_) .pure
    exact .ite .pure .pure
  have hsample : ∀ mediaDuration,
      Apart (sampleAsset cancellable segment.path mediaDuration) := by
    intro mediaDuration
    unfold sampleAsset
    split
    · exact .bind apart_checkLoudness fun _ => .pure
    · exact .ite (.bind apart_checkLoudness fun _ => .pure) (hlong _)
  refine .ite (.bind apart_checkLoudness fun _ => hjudged _ _ _) ?_
  exact .bind (.ask trivial) fun _ => .bind (hsample _) fun _ => hjudged _ _ _

lemma apart_measure {segment : EgressSourceSegment} {key : Option Key}
    {found : Option CacheMeta} : Apart (measure cancellable segment key found) := by
  cases found with
  | some entry => exact .pure
  | none =>
    refine .bind apart_probe ?_
    intro measured
    cases key with
    | none => exact .pure
    | some key => exact .bind apart_writeCacheMeta fun _ => .pure

lemma apart_cacheHit {found : Option CacheMeta} : Apart (cacheHit key found) := by
  refine .bind (.ask trivial) fun _ => ?_
  cases found with
  | none => exact .pure
  | some entry => exact .ite (.bind (.ask trivial) fun _ => .pure) .pure

end Apart

/-! ## What is in an output -/

section Encodes

variable {disk : Disk} {w : Outputs} {α β : Type} {Q : Except Fault β → Outputs → Prop}
  {p : PrepareM α} {f : α → PrepareM β} (cancellable : Bool)

lemma Apart.seq (hp : Apart p) (hok : ∀ a, (f a).wp (Outputs.machine disk) Q w)
    (herror : ∀ fault, Q (.error fault) w) : (p >>= f).wp (Outputs.machine disk) Q w := by
  refine Prog.wp_seq hp.wp ?_ ?_
  · rintro a w' rfl
    exact hok a
  · rintro fault w' rfl
    exact herror fault

lemma ask_seq {o : Op} {f : o.Res → PrepareM β}
    (h : ∀ x, w.legal disk o x → (f x).wp (Outputs.machine disk) Q (w.next disk o x)) :
    (ask o >>= f).wp (Outputs.machine disk) Q w := ⟨trivial, h⟩

/-- The files are as before, and a draft that `done` speaks of is the clip. -/
def Drafts (files : Path → Option Clip) (path : Path) (clip : Clip) (done : α → Prop) :
    Except Fault α → Outputs → Prop :=
  fun r w => w.files = files ∧ ∀ a, r = .ok a → done a → w.drafts path = some clip

lemma runFfmpeg_drafts {encode : Encode} {path : Path} :
    (runFfmpeg cancellable encode (.output path)).wp (Outputs.machine disk)
      (Drafts w.files path (disk.clip encode) (· = true)) w := by
  refine apart_raiseIfCancelled.seq (fun _ => ?_) fun _ => ⟨rfl, nofun⟩
  refine ask_seq fun _ _ => ask_seq fun exit _ => ?_
  cases exit with
  | cancelled | timedOut | notFound => exact ⟨rfl, nofun⟩
  | failed =>
    refine apart_raiseIfCancelled.seq (fun _ => ?_) fun _ => ⟨rfl, nofun⟩
    exact ⟨rfl, nofun⟩
  | succeeded =>
    refine apart_raiseIfCancelled.seq (fun _ => ?_) fun _ => ⟨rfl, nofun⟩
    exact ⟨rfl, fun _ _ _ => update_self ..⟩

lemma rideConformTmp_drafts (source : Path) (window : Option Window)
    (path : Path) : (rideConformTmp cancellable source window (.output path)).wp
      (Outputs.machine disk) (Drafts w.files path (disk.clip (.conform source window))
        (· = true)) w := by
  refine ask_seq fun pass _ => ?_
  cases pass with
  | cancelled => exact ⟨rfl, nofun⟩
  | unusable => exact ⟨rfl, nofun⟩
  | usable =>
    refine Prog.wp_attempt_seq ?_
    refine Prog.wp_mono ?_ (runFfmpeg_drafts cancellable)
    rintro r w' ⟨hfiles, hdraft⟩
    -- What is left of a failed mux is unlinked, and nothing is said of it.
    have hfalse : ∀ p : PrepareM Bool, p = (do ask (.unlinkTmp (.output path)); return false) →
        p.wp (Outputs.machine disk) (Drafts w.files path (disk.clip (.conform source window))
          (· = true)) w' := by
      rintro p rfl
      exact ask_seq fun _ _ => ⟨hfiles, nofun⟩
    cases r with
    | error fault =>
      cases fault with
      | sourcePrepare error => exact hfalse _ rfl
      | cancelled => exact ask_seq fun _ _ => ⟨hfiles, nofun⟩
      | ffmpegNotFound | fileNotFound => exact ⟨hfiles, nofun⟩
    | ok done =>
      cases done with
      | false => exact hfalse _ rfl
      | true => exact ⟨hfiles, fun _ _ _ => hdraft true rfl rfl⟩

lemma encodeWindow_drafts (segment : EgressSourceSegment) (path : Path) :
    (encodeWindow cancellable segment path).wp (Outputs.machine disk) (Drafts w.files path
      (disk.clip (.conform segment.path (some (window segment)))) fun _ => True) w := by
  refine Prog.wp_attempt_seq ?_
  refine Prog.wp_mono ?_ (runFfmpeg_drafts cancellable)
  rintro r w' ⟨hfiles, hdraft⟩
  cases r with
  | error fault =>
    cases fault with
    | sourcePrepare error | cancelled => exact ask_seq fun _ _ => ⟨hfiles, nofun⟩
    | ffmpegNotFound | fileNotFound => exact ⟨hfiles, nofun⟩
  | ok done =>
    cases done with
    | false => exact ask_seq fun _ _ => ⟨hfiles, nofun⟩
    | true => exact ⟨hfiles, fun _ _ _ => hdraft true rfl rfl⟩

/-- Sequencing after a draft: what is returned next depends on the files alone. -/
lemma drafts_seq {path : Path} {clip : Clip}
    {done : α → Prop}
    (hp : p.wp (Outputs.machine disk) (Drafts w.files path clip done) w)
    (hok : ∀ a w', w'.files = w.files → (done a → w'.drafts path = some clip) →
      (f a).wp (Outputs.machine disk) Q w')
    (herror : ∀ fault w', w'.files = w.files → Q (.error fault) w') :
    (p >>= f).wp (Outputs.machine disk) Q w := by
  refine Prog.wp_seq hp ?_ ?_
  · rintro a w' ⟨hfiles, hdraft⟩
    exact hok a w' hfiles (hdraft a rfl)
  · rintro fault w' ⟨hfiles, _⟩
    exact herror fault w' hfiles

lemma chooseLoudness_drafts {source : Path} {window : Option Window}
    (path : Path) : (chooseLoudness cancellable source window (.output path)).wp
      (Outputs.machine disk) (Drafts w.files path (disk.clip (.conform source window))
        (· = .ride)) w := by
  refine drafts_seq (rideConformTmp_drafts cancellable source window path) ?_ ?_
  · intro ridden w₁ hfiles hdraft
    refine Prog.wp_ite (fun hridden => ⟨hfiles, fun _ _ _ => hdraft hridden⟩) fun _ => ?_
    have hmeasure : (measureLoudnormMetadata cancellable source window).wp (Outputs.machine disk)
        (fun _ w₂ => w₂ = w₁) w₁ := apart_measureLoudnormMetadata.wp
    have hgives : (measureLoudnormMetadata cancellable source window).Gives (· ≠ .ride) := by
      refine Prog.gives_bind fun _ => Prog.gives_bind ?_
      intro pass
      cases pass with
      | cancelled => trivial
      | usable | unusable => exact Prog.gives_bind fun _ => Prog.gives_pure (by decide)
    refine Prog.wp_mono ?_ (hgives.wp hmeasure)
    rintro r w₂ ⟨rfl, hother⟩
    exact ⟨hfiles, fun a ha hride => absurd hride (hother a ha)⟩
  · intro _ w₁ hfiles
    exact ⟨hfiles, nofun⟩

lemma conformWindow_drafts {preparer : SourcePreparer} {cancellable : Bool}
    (segment : EgressSourceSegment) (path : Path) {normalized : Bool} :
    (conformWindow preparer cancellable segment path normalized).wp (Outputs.machine disk)
      (Drafts w.files path (disk.clip (.conform segment.path (some (window segment))))
        fun _ => True) w := by
  have hencode : ∀ (method : Option LoudnessMethod) (w₁ : Outputs), w₁.files = w.files →
      (do encodeWindow cancellable segment path; return method).wp (Outputs.machine disk)
        (Drafts w.files path (disk.clip (.conform segment.path (some (window segment))))
          fun _ => True) w₁ := by
    intro method w₁ hfiles
    refine drafts_seq (encodeWindow_drafts cancellable segment path) ?_ ?_
    · intro _ w₂ hfiles₂ hdraft
      exact ⟨hfiles₂.trans hfiles, fun _ _ _ => hdraft trivial⟩
    · intro _ w₂ hfiles₂
      exact ⟨hfiles₂.trans hfiles, nofun⟩
  refine Prog.wp_ite (fun _ => ?_) fun _ => hencode none w rfl
  refine drafts_seq (chooseLoudness_drafts cancellable path)
    ?_ fun _ _ hfiles => ⟨hfiles, nofun⟩
  intro method w₁ hfiles hdraft
  cases method with
  | ride => exact ⟨hfiles, fun _ _ _ => hdraft rfl⟩
  | twoPass | singlePassFallback => exact hencode _ w₁ hfiles

end Encodes

/-! ## One segment -/

def stretch (disk : Disk) (segment : EgressSourceSegment) : Clip where
  asset := disk.resolve segment.path
  start := segment.inpointSeconds.getD 0
  length := some segment.durationSeconds

def asked (disk : Disk) (segment : EgressSourceSegment) : Clip :=
  if segment.kind = .live then liveClip disk segment else stretch disk segment

/-- The prepared segment is cut out of the cache, or is a file of its own. -/
def Backed (disk : Disk) (segment prepared : EgressSourceSegment) (output : Path)
    (files files' : Path → Option Clip) : Prop :=
  (∃ key, disk.assetOf key = disk.resolve segment.path ∧
    prepared = emitted segment (.cached key) segment.inpointSeconds
      (some (segment.inpointSeconds.getD 0 + segment.durationSeconds)) ∧ files' = files) ∨
  (prepared = emitted segment output none none ∧
    files' = update files output (some (stretch disk segment)))

section Segment

variable {disk : Disk} {w : Outputs} {α β : Type} {preparer : SourcePreparer} {cancellable : Bool}
  {segment : EgressSourceSegment} {output : Path} {Φ : α → Outputs → Prop}

/-- What holds of a result; of a failure nothing is asked. -/
def Gets (Φ : α → Outputs → Prop) : Except Fault α → Outputs → Prop :=
  fun r w => ∀ a, r = .ok a → Φ a w

lemma gets_error {fault : Fault} {w : Outputs} :
    Gets Φ (.error fault) w := nofun

lemma gets_ok {a : α} (h : Φ a w) : Gets Φ (.ok a) w := by
  intro b hb
  cases hb
  exact h

lemma replaceTmp_seq {f : Unit → PrepareM β} {Φ : β → Outputs → Prop} {clip : Clip}
    (hdraft : w.drafts output = some clip)
    (hok : ∀ w', w'.files = update w.files output (some clip) →
      (f ()).wp (Outputs.machine disk) (Gets Φ) w') :
    (replaceTmp (.output output) >>= f).wp (Outputs.machine disk) (Gets Φ) w := by
  refine Prog.wp_seq (R := Gets fun _ w' =>
    w'.files = update w.files output (some clip)) ?_ ?_ fun fault w' _ =>
      gets_error
  · refine ask_seq fun replaced _ => ?_
    cases replaced with
    | false => exact gets_error
    | true =>
      refine gets_ok ?_
      show update w.files output (w.drafts output) = _
      rw [hdraft]
  · intro _ w' hfiles
    exact hok w' (hfiles () rfl)

lemma prepareWindow_backed {key : Option Key} {measured : Measured} :
    (prepareWindow preparer cancellable segment output key measured).wp (Outputs.machine disk)
      (Gets fun prepared w' => Backed disk segment prepared.1 output w.files w'.files) w := by
  refine drafts_seq (conformWindow_drafts segment output) ?_ fun fault w' _ => gets_error
  intro method w₁ hfiles hdraft
  refine replaceTmp_seq (hdraft trivial) fun w₂ hfiles₂ => ?_
  have hbacked : Backed disk segment (emitted segment output none none) output w.files w₂.files :=
    .inr ⟨rfl, by rw [hfiles₂, hfiles]; rfl⟩
  cases key with
  | none => exact gets_ok hbacked
  | some key =>
    dsimp only
    split
    · exact apart_promoteFinishedConformIntoCache.seq (fun _ => gets_ok hbacked)
        fun fault => gets_error
    · exact ask_seq fun _ _ => gets_ok hbacked

lemma emitPreparedFromCache_backed {key : Key} {loudness : LoudnessGateResult} {normalized : Bool}
    {method : Option LoudnessMethod} (hkey : disk.assetOf key = disk.resolve segment.path) :
    (emitPreparedFromCache preparer cancellable key segment output loudness normalized method).wp
      (Outputs.machine disk)
      (Gets fun prepared w' => Backed disk segment prepared.1 output w.files w'.files) w := by
  refine Prog.wp_ite (fun _ => gets_ok (.inl ⟨key, hkey, rfl, rfl⟩)) fun _ => ?_
  have hclip : disk.clip (.copyOut key (window segment)) = stretch disk segment := by
    show Clip.mk (disk.assetOf key) _ _ = _
    rw [hkey]
    rfl
  refine Prog.wp_attempt_seq ?_
  refine Prog.wp_mono ?_ (runFfmpeg_drafts cancellable)
  rintro r w' ⟨hfiles, hdraft⟩
  cases r with
  | error fault =>
    cases fault with
    | sourcePrepare error => exact fun _ h => nomatch h
    | cancelled => exact ask_seq fun _ _ => gets_error
    | ffmpegNotFound | fileNotFound => exact fun _ h => nomatch h
  | ok done =>
    cases done with
    | false => exact ask_seq fun _ _ => gets_error
    | true =>
      -- the draft holds the whole window, and becomes the output
      refine replaceTmp_seq (hdraft true rfl rfl) fun w₂ hfiles₂ => gets_ok (.inr ⟨rfl, ?_⟩)
      rw [hfiles₂, hfiles, hclip]

lemma prepareMiss_backed {key : Option Key} {found : Option CacheMeta}
    (hkey : ∀ k, key = some k → disk.assetOf k = disk.resolve segment.path) :
    (prepareMiss preparer cancellable segment output key found).wp (Outputs.machine disk)
      (Gets fun prepared w' => Backed disk segment prepared.1 output w.files w'.files) w := by
  refine apart_measure.seq (fun measured => ?_) fun fault => gets_error
  cases key with
  | none => exact prepareWindow_backed
  | some key =>
    refine Prog.wp_ite (fun _ => ?_) fun _ => prepareWindow_backed
    refine apart_conformFullAssetIntoCache.seq (fun populated => ?_)
      fun fault => gets_error
    refine Prog.wp_ite (fun _ => ?_) fun _ => prepareWindow_backed
    exact ask_seq fun _ _ => emitPreparedFromCache_backed (hkey key rfl)

/-- `_prepare_segment` backs the segment by the stretch it asks for, whatever it finds
in the cache. -/
lemma prepareSegment_backed :
    (prepareSegment preparer cancellable segment output).wp (Outputs.machine disk)
      (Gets fun prepared w' => Backed disk segment prepared.1 output w.files w'.files) w := by
  refine apart_raiseIfCancelled.seq (fun _ => ?_) fun fault => gets_error
  refine ask_seq fun present _ => ?_
  cases present with
  | false => exact gets_error
  | true =>
    refine ask_seq fun key hkey => ?_
    cases key with
    | none => exact prepareMiss_backed nofun
    | some key =>
      have hasset : disk.assetOf key = disk.resolve segment.path := hkey key rfl
      have hmiss : ∀ found,
          (prepareMiss preparer cancellable segment output (some key) found).wp
            (Outputs.machine disk) (Gets fun prepared w' =>
              Backed disk segment prepared.1 output w.files w'.files) w := by
        intro found
        refine prepareMiss_backed ?_
        rintro k ⟨⟩
        exact hasset
      refine ask_seq fun found _ => Prog.wp_ite (fun _ => ?_) fun _ => hmiss found
      refine apart_cacheHit.seq (fun hit => ?_) fun fault => gets_error
      cases hit with
      | none => exact hmiss found
      | some entry => exact emitPreparedFromCache_backed hasset

end Segment

/-! ## A plan -/

/-- The segment whose media stands in for this one: the first with its key. -/
def standIn (plan : List EgressSourceSegment) (segment : EgressSourceSegment) :
    Option EgressSourceSegment :=
  plan.find? fun other => other.kind ≠ .live ∧ seenKey other = seenKey segment

/-- How a segment is prepared: a live one as it is, another as its own occurrence with
the media of its stand-in. -/
def Airs (disk : Disk) (plan : List EgressSourceSegment) (w : Outputs)
    (segment prepared : EgressSourceSegment) : Prop :=
  (segment.kind = .live ∧ prepared = segment) ∨
  (segment.kind ≠ .live ∧ ∃ source, standIn plan segment = some source ∧
    SameAiring { segment with durationSeconds := source.durationSeconds } prepared ∧
    w.plays disk prepared = some (stretch disk source))

/-- The path is no file of the plan from `index` on. -/
def Below (planDir : String) (index : ℕ) (path : Path) : Prop :=
  ∀ i, path = .prepared planDir i → i < index

/-- Only files from `index` on have changed. -/
def Extends (planDir : String) (index : ℕ) (files files' : Path → Option Clip) : Prop :=
  ∀ path, Below planDir index path → files' path = files path

/-- A remembered segment plays the stretch of its source, from a file that is not
written again. -/
structure Holds (disk : Disk) (planDir : String) (index : ℕ) (w : Outputs)
    (source cached : EgressSourceSegment) : Prop where
  durationSeconds : cached.durationSeconds = source.durationSeconds
  notLive : cached.kind ≠ .live
  below : Below planDir index cached.path
  plays : w.plays disk cached = some (stretch disk source)

/-- The memo of the loop knows the first segment of every key among those done. -/
structure Remembers (disk : Disk) (planDir : String) (index : ℕ) (w : Outputs)
    (done : List EgressSourceSegment) (seen : List (SeenKey × Prepared)) : Prop where
  unseen : ∀ segment, seen.lookup (seenKey segment) = none → standIn done segment = none
  known : ∀ segment cached, seen.lookup (seenKey segment) = some cached →
    ∃ source, standIn done segment = some source ∧ Holds disk planDir index w source cached.1

section Plan

variable {disk : Disk} {planDir : String} {index : ℕ} {w w' : Outputs}
  {segment source prepared cached : EgressSourceSegment} {done plan : List EgressSourceSegment}
  {seen : List (SeenKey × Prepared)} {preparer : SourcePreparer} {cancellable : Bool}

variable {files files' : Path → Option Clip} {other : EgressSourceSegment}
  {rest : List EgressSourceSegment} {record : PreparedSegmentRecord}

lemma Below.mono {path : Path} (h : Below planDir index path) : Below planDir (index + 1) path :=
  fun i hi => Nat.lt_succ_of_lt (h i hi)

lemma Extends.succ
    (h : Extends planDir (index + 1) files files') : Extends planDir index files files' :=
  fun path hpath => h path hpath.mono

lemma Extends.trans {files'' : Path → Option Clip} (h : Extends planDir index files files')
    (h' : Extends planDir index files' files'') : Extends planDir index files files'' :=
  fun path hpath => (h' path hpath).trans (h path hpath)

lemma plays_of_extends (hbelow : Below planDir index prepared.path)
    (hfiles : Extends planDir index w.files w'.files) :
    w'.plays disk prepared = w.plays disk prepared := by
  have hcontents : w'.contents disk prepared.path = w.contents disk prepared.path := by
    cases hpath : prepared.path with
    | media name | cached key => rfl
    | prepared dir i => exact hfiles _ (hpath ▸ hbelow)
  unfold Outputs.plays
  rw [hcontents]

lemma Holds.extends (h : Holds disk planDir index w source cached)
    (hfiles : Extends planDir index w.files w'.files) :
    Holds disk planDir index w' source cached where
  __ := h
  plays := (plays_of_extends h.below hfiles).trans h.plays

lemma Holds.succ (h : Holds disk planDir index w source cached) :
    Holds disk planDir (index + 1) w source cached where
  __ := h
  below := h.below.mono

lemma Backed.holds (hlive : segment.kind ≠ .live)
    (h : Backed disk segment prepared (.prepared planDir index) w.files w'.files) :
    Holds disk planDir (index + 1) w' segment prepared := by
  rcases h with ⟨key, hkey, rfl, _⟩ | ⟨rfl, hfiles⟩
  · refine ⟨rfl, hlive, ?_, ?_⟩
    · intro i hi
      cases hi
    · simp [Outputs.plays, emitted, hlive, Outputs.contents, Clip.cut, stretch, hkey]
  · refine ⟨rfl, hlive, ?_, ?_⟩
    · intro i hi
      cases hi
      exact Nat.lt_succ_self _
    · simp [Outputs.plays, emitted, hlive, Outputs.contents, Clip.cut, stretch, hfiles]

lemma Backed.same_airing {output : Path}
    (h : Backed disk segment prepared output files files') : SameAiring segment prepared := by
  rcases h with ⟨key, _, rfl, _⟩ | ⟨rfl, _⟩
  · exact ⟨rfl, rfl, rfl, rfl, rfl, rfl⟩
  · exact ⟨rfl, rfl, rfl, rfl, rfl, rfl⟩

lemma Backed.extends (h : Backed disk segment prepared (.prepared planDir index) files files') :
    Extends planDir index files files' := by
  intro path hbelow
  rcases h with ⟨_, _, _, rfl⟩ | ⟨_, rfl⟩
  · rfl
  · refine update_of_ne ?_ _ _
    intro heq
    exact absurd (hbelow index heq) (Nat.lt_irrefl _)

/-- A repeat airs as its own occurrence, with the media of its source. -/
lemma Holds.airs_repeated (h : Holds disk planDir index w source cached)
    (hlive : segment.kind ≠ .live) (hsource : standIn plan segment = some source) :
    Airs disk plan w segment (repeated segment cached) := by
  refine .inr ⟨hlive, source, hsource, ⟨h.durationSeconds, rfl, rfl, rfl, rfl, rfl⟩, ?_⟩
  have hplays := h.plays
  unfold Outputs.plays at hplays ⊢
  rw [if_neg h.notLive] at hplays
  have hlive' : (repeated segment cached).kind ≠ .live := hlive
  rw [if_neg hlive']
  exact hplays

/-! ### Stand-ins -/

lemma standIn_congr (h : seenKey other = seenKey segment) :
    standIn done other = standIn done segment := by
  unfold standIn
  rw [h]

lemma standIn_append_of_some
    (h : standIn done segment = some source) : standIn (done ++ rest) segment = some source := by
  unfold standIn at h ⊢
  rw [find?_append, h]
  rfl

lemma standIn_append_live (hlive : segment.kind = .live) :
    standIn (done ++ [segment]) other = standIn done other := by
  unfold standIn
  rw [find?_append]
  simp [hlive]

lemma standIn_append_other (hkey : seenKey segment ≠ seenKey other) :
    standIn (done ++ [segment]) other = standIn done other := by
  unfold standIn
  rw [find?_append]
  simp [hkey]

lemma standIn_append_self (hlive : segment.kind ≠ .live) (hkey : seenKey segment = seenKey other)
    (hnone : standIn done other = none) : standIn (done ++ [segment]) other = some segment := by
  unfold standIn at hnone ⊢
  rw [find?_append, hnone]
  simp [hlive, hkey]

lemma mem_of_standIn (h : standIn plan segment = some source) :
    source ∈ plan ∧ source.kind ≠ .live ∧ seenKey source = seenKey segment := by
  have hfound := find?_some h
  simp only [decide_eq_true_eq] at hfound
  exact ⟨mem_of_find?_eq_some h, hfound⟩

/-! ### The memo -/

variable (h : Remembers disk planDir index w done seen)
include h

lemma Remembers.live (hlive : segment.kind = .live) :
    Remembers disk planDir (index + 1) w (done ++ [segment]) seen where
  unseen := by
    intro other hlookup
    rw [standIn_append_live hlive]
    exact h.unseen other hlookup
  known := by
    intro other cached hlookup
    rcases h.known other cached hlookup with ⟨source, hsource, hholds⟩
    rw [standIn_append_live hlive]
    exact ⟨source, hsource, hholds.succ⟩

lemma Remembers.repeat (hknown : standIn done segment = some source) :
    Remembers disk planDir (index + 1) w (done ++ [segment]) seen where
  unseen := by
    intro other hlookup
    have hnone := h.unseen other hlookup
    have hkey : seenKey segment ≠ seenKey other := by
      intro heq
      rw [standIn_congr heq, hnone] at hknown
      cases hknown
    rw [standIn_append_other hkey]
    exact hnone
  known := by
    intro other cached hlookup
    rcases h.known other cached hlookup with ⟨source', hsource', hholds⟩
    exact ⟨source', standIn_append_of_some hsource', hholds.succ⟩

lemma Remembers.first (hlive : segment.kind ≠ .live)
    (hlookup : seen.lookup (seenKey segment) = none)
    (hbacked : Backed disk segment prepared (.prepared planDir index) w.files w'.files) :
    Remembers disk planDir (index + 1) w' (done ++ [segment])
      ((seenKey segment, (prepared, record)) :: seen) where
  unseen := by
    intro other hother
    rw [lookup_cons] at hother
    split at hother
    · cases hother
    · rename_i hkey
      have hkey : seenKey segment ≠ seenKey other := fun heq => by simp [heq] at hkey
      rw [standIn_append_other hkey]
      exact h.unseen other hother
  known := by
    intro other cached hother
    rw [lookup_cons] at hother
    split at hother
    · rename_i hkey
      have hkey : seenKey segment = seenKey other := (beq_iff_eq.mp hkey).symm
      cases hother
      -- a key that was not seen has no stand-in yet
      have hnone : standIn done other = none := by
        rw [← standIn_congr hkey]
        exact h.unseen segment hlookup
      exact ⟨segment, standIn_append_self hlive hkey hnone, hbacked.holds hlive⟩
    · rcases h.known other cached hother with ⟨source, hsource, hholds⟩
      exact ⟨source, standIn_append_of_some hsource, (hholds.extends hbacked.extends).succ⟩

omit h

/-! ### The loop -/

lemma removingOnCancel_gets {α : Type} {p : PrepareM α} {Φ : α → Outputs → Prop}
    (h : p.wp (Outputs.machine disk) (Gets Φ) w) :
    (removingOnCancel planDir p).wp (Outputs.machine disk) (Gets Φ) w := by
  refine Prog.wp_attempt_seq ?_
  refine Prog.wp_mono ?_ h
  intro r w' hr
  cases r with
  | ok a => exact hr
  | error fault =>
    cases fault with
    | sourcePrepare error => exact nofun
    | cancelled => exact ask_seq fun _ _ => gets_error
    | ffmpegNotFound | fileNotFound => exact nofun

lemma prepareFirst_backed :
    (prepareFirst preparer cancellable planDir index segment).wp (Outputs.machine disk)
      (Gets fun prepared w' =>
        Backed disk segment prepared.1 (.prepared planDir index) w.files w'.files) w := by
  refine Prog.wp_seq (removingOnCancel_gets prepareSegment_backed) ?_ fun fault w' _ => gets_error
  intro prepared w₁ hbacked
  refine ask_seq fun playable _ => ?_
  cases playable with
  | true => exact gets_ok (hbacked prepared rfl)
  | false => exact ask_seq fun _ _ => gets_error

lemma cons_seq {p : PrepareM (List Prepared)}
    (hp : p.wp (Outputs.machine disk) (Gets fun out w' =>
      Extends planDir (index + 1) w.files w'.files ∧
        List.Forall₂ (Airs disk plan w') rest (out.map Prod.fst)) w)
    (hfiles : Extends planDir index files w.files)
    (hhead : ∀ w', Extends planDir (index + 1) w.files w'.files →
      Airs disk plan w' segment prepared) :
    (do let others ← p; return (prepared, record) :: others).wp (Outputs.machine disk)
      (Gets fun out w' => Extends planDir index files w'.files ∧
        List.Forall₂ (Airs disk plan w') (segment :: rest) (out.map Prod.fst)) w := by
  refine Prog.wp_seq hp ?_ fun fault w' _ => gets_error
  intro others w' hothers
  rcases hothers others rfl with ⟨hextends, hrest⟩
  exact gets_ok ⟨hfiles.trans hextends.succ, .cons (hhead w' hextends) hrest⟩

lemma prepareSegments_airs {rest : List EgressSourceSegment} :
    ∀ {index done seen w}, Remembers disk planDir index w done seen →
      (prepareSegments preparer cancellable planDir rest index seen).wp (Outputs.machine disk)
        (Gets fun out w' => Extends planDir index w.files w'.files ∧
          List.Forall₂ (Airs disk (done ++ rest) w') rest (out.map Prod.fst)) w := by
  induction rest with
  | nil =>
    intro index done seen w _
    exact gets_ok ⟨fun _ _ => rfl, .nil⟩
  | cons segment rest ih =>
    intro index done seen w hmemo
    have hplan : done ++ segment :: rest = (done ++ [segment]) ++ rest := by
      rw [append_assoc]
      rfl
    rw [hplan]
    refine Prog.wp_seq (R := Gets fun _ w' => w' = w) (removingOnCancel_gets ?_) ?_
      fun fault w' _ => gets_error
    · exact Prog.wp_mono (fun _ _ hr _ _ => hr) apart_raiseIfCancelled.wp
    intro _ w₁ hw₁
    obtain rfl := hw₁ () rfl
    refine Prog.wp_ite ?_ ?_
    · intro hlive
      exact cons_seq (ih (hmemo.live hlive)) (fun _ _ => rfl) fun w' _ => .inl ⟨hlive, rfl⟩
    · intro hlive
      cases hlookup : seen.lookup (seenKey segment) with
      | some cached =>
        -- a repeat: its stand-in's output is on disk, and stays
        rcases hmemo.known segment cached hlookup with ⟨source, hsource, hholds⟩
        refine cons_seq (ih (hmemo.repeat hsource)) (fun _ _ => rfl) ?_
        intro w' hextends
        refine (hholds.extends hextends.succ).airs_repeated hlive ?_
        exact standIn_append_of_some (standIn_append_of_some hsource)
      | none =>
        -- a first segment: it stands in for itself
        refine Prog.wp_seq prepareFirst_backed ?_ fun fault w' _ => gets_error
        rintro ⟨prepared, record⟩ w₂ hbacked
        have hbacked := hbacked _ rfl
        refine cons_seq (ih (hmemo.first hlive hlookup hbacked)) hbacked.extends ?_
        intro w' hextends
        have hself := standIn_append_self hlive rfl (hmemo.unseen segment hlookup)
        have hholds := (hbacked.holds hlive).extends hextends
        exact .inr ⟨hlive, segment, standIn_append_of_some hself, hbacked.same_airing, hholds.plays⟩

end Plan

/-! ## Whole preparations -/

section Whole

variable {preparer : SourcePreparer} {disk : Disk} {cancellable : Bool} {plan : EgressSourcePlan}
  {w w' : Outputs} {report : SourcePreparationReport} {segment : EgressSourceSegment}

/-- Every segment airs with the media of its stand-in. -/
lemma prepare_airs
    (hrun : Exec (Outputs.machine disk) (prepare preparer cancellable plan) w (.ok report) w') :
    List.Forall₂ (Airs disk plan.segments w') plan.segments report.sourcePlan.segments := by
  have hwp : (prepare preparer cancellable plan).wp (Outputs.machine disk) (Gets fun report w' =>
      List.Forall₂ (Airs disk plan.segments w') plan.segments report.sourcePlan.segments) w := by
    refine apart_raiseIfCancelled.seq (fun _ => ?_) fun fault => gets_error
    refine ask_seq fun _ _ => ask_seq fun planDir _ => ?_
    have hmemo : ∀ w : Outputs, Remembers disk planDir 1 w [] [] := by
      intro w
      exact ⟨fun _ _ => rfl, fun _ _ h => nomatch h⟩
    refine Prog.wp_seq (prepareSegments_airs (hmemo _)) ?_ fun fault w' _ => gets_error
    intro out w₁ hout
    exact ask_seq fun _ _ => gets_ok (hout out rfl).2
  exact hrun.post hwp report rfl

lemma alone_plays {alone : EgressSourceSegment} {channelId : String}
    (hrun : Exec (Outputs.machine disk)
      (prepare preparer cancellable { channelId := channelId, segments := [segment] }) w
      (.ok report) w') (halone : report.sourcePlan.segments = [alone]) :
    w'.plays disk alone = some (asked disk segment) := by
  have hairs := prepare_airs hrun
  rw [halone] at hairs
  rcases hairs with _ | ⟨⟨hlive, rfl⟩ | ⟨hlive, source, hsource, _, hplays⟩, _⟩
  · unfold Outputs.plays asked
    rw [if_pos hlive, if_pos hlive]
  · have hself : standIn ([] ++ [segment]) segment = some segment :=
      standIn_append_self hlive rfl rfl
    have hsource : standIn ([] ++ [segment]) segment = some source := hsource
    rw [hself] at hsource
    cases hsource
    unfold asked
    rw [if_neg hlive]
    exact hplays

/-- A segment that airs with a source of its own length plays as it does alone. -/
lemma Airs.plays_as_alone {prepared : EgressSourceSegment}
    (hairs : Airs disk plan.segments w' segment prepared)
    (hduration : prepared.durationSeconds = segment.durationSeconds) :
    PlaysAsAlone preparer disk segment prepared w' := by
  have hplays : w'.plays disk prepared = some (asked disk segment) := by
    rcases hairs with ⟨hlive, rfl⟩ | ⟨hlive, source, hsource, hsame, hplays⟩
    · unfold Outputs.plays asked
      rw [if_pos hlive, if_pos hlive]
    · have hkey := (mem_of_standIn hsource).2.2
      have hlength : source.durationSeconds = segment.durationSeconds :=
        hsame.durationSeconds.symm.trans hduration
      simp only [seenKey, Prod.mk.injEq] at hkey
      rw [hplays]
      unfold asked stretch
      rw [if_neg hlive, hkey.1, hkey.2.1, hlength]
  intro cancellable channelId w₁ report w₂ alone hrun halone
  rw [alone_plays hrun halone, hplays]

lemma exists_of_forall₂ {α β : Type} {R S : α → β → Prop} {as : List α} {bs : List β} {a : α}
    (hR : List.Forall₂ R as bs) (hS : List.Forall₂ S as bs) (ha : a ∈ as) : ∃ b, R a b ∧ S a b := by
  induction hR with
  | nil => cases ha
  | cons hhead _ ih =>
    rcases hS with _ | ⟨hhead', htail'⟩
    rcases mem_cons.mp ha with rfl | ha
    · exact ⟨_, hhead, hhead'⟩
    · exact ih htail' ha

/-- A plan is prepared faithfully exactly when its segments with the same file and trim
points are as long as each other. -/
theorem airtime_preserved_iff
    (hrun : Exec (Outputs.machine disk) (prepare preparer cancellable plan) w (.ok report) w') :
    PreservesAirtime preparer disk plan report w' ↔ RepeatsAgree plan.segments := by
  have hairs := prepare_airs hrun
  constructor
  · intro hpreserved
    -- A segment has the length of its stand-in, and equal keys have one stand-in.
    have hlength : ∀ segment ∈ plan.segments, segment.kind ≠ .live →
        ∃ source, standIn plan.segments segment = some source ∧
          segment.durationSeconds = source.durationSeconds := by
      intro segment hsegment hlive
      rcases exists_of_forall₂ hairs hpreserved hsegment with ⟨prepared, hairs, hsame, _⟩
      rcases hairs with ⟨hislive, _⟩ | ⟨_, source, hsource, hsame', _⟩
      · exact absurd hislive hlive
      · exact ⟨source, hsource, hsame.durationSeconds.symm.trans hsame'.durationSeconds⟩
    intro segment hsegment other hother hlive hlive' hkey
    rcases hlength segment hsegment hlive with ⟨source, hsource, hduration⟩
    rcases hlength other hother hlive' with ⟨source', hsource', hduration'⟩
    rw [standIn_congr hkey, hsource'] at hsource
    cases hsource
    rw [hduration, hduration']
  · intro hagree
    unfold PreservesAirtime
    rw [forall₂_iff_zip] at hairs ⊢
    refine ⟨hairs.1, ?_⟩
    intro segment prepared hpair
    have hsegment := (of_mem_zip hpair).1
    have hair := hairs.2 hpair
    have hsame : SameAiring segment prepared := by
      rcases hair with ⟨_, rfl⟩ | ⟨hlive, source, hsource, hsame, _⟩
      · exact ⟨rfl, rfl, rfl, rfl, rfl, rfl⟩
      · rcases mem_of_standIn hsource with ⟨hmem, hlive', hkey⟩
        have hduration := hagree source hmem segment hsegment hlive' hlive hkey
        rw [hduration] at hsame
        exact hsame
    exact ⟨hsame, hair.plays_as_alone hsame.durationSeconds⟩

end Whole

/-! ### Two slots of one recording -/

/-- The external tools do what they are asked. -/
def ToolsSucceed : (o : Op) → o.Res → Prop
  | .ffmpeg _ _, exit => exit = .succeeded
  | .level _ _, pass => pass = .usable
  | .measureLoudnorm _ _, pass => pass = .usable
  | .probeMediaDuration _, seconds => seconds ≠ none
  | .checkLoudness _ _ _, result => result ≠ none
  | .isPlayable _, playable => playable = true
  | _, _ => True

/-- A recording in an untrimmed slot. -/
def slotOf (label : String) (seconds : ℚ) : EgressSourceSegment where
  label := label
  path := .media "council.mp4"
  durationSeconds := seconds
  kind := .program
  sourceRef := some "asset-1"
  scheduleOccurrenceId := some label
  scheduleOccurrenceStart := none
  sourceOffsetSeconds := none
  inpointSeconds := none
  outpointSeconds := none

def twoSlots (first second : ℚ) : EgressSourcePlan where
  channelId := "government"
  segments := [slotOf "morning" first, slotOf "evening" second]

def oneRecording : Disk where
  resolve := fun path => path
  assetOf := fun _ => .media "council.mp4"

/-- An encoder that does not trim at playout. -/
def untrimming : SourcePreparer where
  playoutTrimSupported := false
  loudnessTargetLufs := some (-16)

/-- The sidecar that an earlier trimmed airing left. -/
def probedOnly : CacheMeta where
  loudnessStatus := .ok
  measuredLufs := some (-16)
  normalized := false
  mediaDurationSeconds := none
  fullAssetConform := false
  loudnessMethod := none

lemma twoSlots_run (first second : ℚ) : ∃ report w',
    Exec ((Outputs.machine oneRecording).promising ToolsSucceed)
      (prepare untrimming false (twoSlots first second))
      { drafts := fun _ => none, files := fun _ => none } (.ok report) w' ∧
    report.sourcePlan.segments.map (·.durationSeconds) = [first, first] := by
  refine ⟨?report, ?after, ?run, ?lengths⟩
  case run =>
    refine .call () ⟨trivial, trivial⟩ ?_
    refine .call "plan-1" ⟨trivial, trivial⟩ ?_
    -- The morning: a sidecar and no entry, so the window is conformed.
    refine .call true ⟨trivial, trivial⟩ ?_
    refine .call (some "key-1") ⟨by rintro key ⟨⟩; rfl, trivial⟩ ?_
    refine .call (some probedOnly) ⟨trivial, trivial⟩ ?_
    refine .call false ⟨trivial, trivial⟩ ?_
    refine .call () ⟨trivial, trivial⟩ ?_
    refine .call .succeeded ⟨trivial, rfl⟩ ?_
    refine .call true ⟨?_, trivial⟩ ?_
    · intro _ hdraft
      cases hdraft
    refine .call () ⟨trivial, trivial⟩ ?_
    refine .call true ⟨trivial, rfl⟩ ?_
    -- The evening is a repeat.
    refine .call false ⟨trivial, trivial⟩ ?_
    exact .ret _ _
  case lengths => rfl

/-- Two slots of thirty seconds. -/
theorem equal_slots_preserved : ∃ report w',
    Exec (Outputs.machine oneRecording) (prepare untrimming false (twoSlots 30 30))
      { drafts := fun _ => none, files := fun _ => none } (.ok report) w' ∧
    PreservesAirtime untrimming oneRecording (twoSlots 30 30) report w' := by
  rcases twoSlots_run 30 30 with ⟨report, w', hrun, _⟩
  refine ⟨report, w', hrun.of_promising, ?_⟩
  apply (airtime_preserved_iff hrun.of_promising).mpr
  intro segment hsegment other hother _ _ _
  have hthirty : ∀ segment ∈ (twoSlots 30 30).segments, segment.durationSeconds = 30 := by
    simp [twoSlots, slotOf]
  rw [hthirty segment hsegment, hthirty other hother]

/-- Thirty seconds in the morning and a minute in the evening: the evening gets the
morning's window and its length. -/
theorem evening_slot_cut_short : ¬ ∀ (preparer : SourcePreparer) (disk : Disk) (cancellable : Bool)
    (plan : EgressSourcePlan) (w w' : Outputs) (report : SourcePreparationReport),
    Exec ((Outputs.machine disk).promising ToolsSucceed) (prepare preparer cancellable plan) w
      (.ok report) w' → PreservesAirtime preparer disk plan report w' := by
  intro hall
  rcases twoSlots_run 30 60 with ⟨report, w', hrun, hlengths⟩
  have hpreserved := hall _ _ _ _ _ _ _ hrun
  have hdurations : (twoSlots 30 60).segments.map (·.durationSeconds) =
      report.sourcePlan.segments.map (·.durationSeconds) := by
    rw [← forall₂_eq_eq_eq, forall₂_map_left_iff, forall₂_map_right_iff]
    exact hpreserved.imp fun _ _ hairing => hairing.1.durationSeconds.symm
  rw [hlengths] at hdurations
  simp [twoSlots, slotOf] at hdurations

end CivicCast.Egress.Preparer
