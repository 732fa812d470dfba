import CivicCast.Lib.Prog

/-! # Source preparation

`prepare` turns a source plan into one whose segments an encoder can play: each
segment is conformed to the channel's profile into a file of its own, or cut out of
the conform of the whole asset that the cache holds. The preparer is a program over the
file system, the locks of the cache keys and the external tools; what a call returns
and changes is left to the machines in the modules that use it.

Paths are constructors: a media file, a cache entry and a segment of a prepared plan
never share one. Windows are exact, ffmpeg gets them in microseconds. The temporary
file that a tool writes belongs to its target, so calls name the target.
-/

namespace CivicCast.Egress.Preparer

open Lib (Iface Prog)

/-! ## Plans -/

abbrev Key := String

inductive Path where
  | media (name : String)
  /-- `{key}.ts` in the conform cache. -/
  | cached (key : Key)
  /-- `segment-{index}.ts` in the directory of a prepared plan. -/
  | prepared (planDir : String) (index : ℕ)
deriving DecidableEq

inductive SourceKind where
  | program
  | slate
  | live
  | cg
deriving DecidableEq

structure EgressSourceSegment where
  label : String
  path : Path
  durationSeconds : ℚ
  kind : SourceKind
  sourceRef : Option String
  scheduleOccurrenceId : Option String
  scheduleOccurrenceStart : Option ℤ
  sourceOffsetSeconds : Option ℚ
  inpointSeconds : Option ℚ
  outpointSeconds : Option ℚ
deriving DecidableEq

structure EgressSourcePlan where
  channelId : String
  segments : List EgressSourceSegment
deriving DecidableEq

inductive LoudnessStatus where
  | ok
  | failed
  | notCheckedLivePassthrough
deriving DecidableEq

inductive LoudnessMethod where
  | ride
  | twoPass
  | singlePassFallback
deriving DecidableEq

structure LoudnessGateResult where
  status : LoudnessStatus
  measuredLufs : Option ℚ
deriving DecidableEq

/-- The sidecar `{key}.json` of a cache entry. -/
structure CacheMeta where
  loudnessStatus : LoudnessStatus
  measuredLufs : Option ℚ
  normalized : Bool
  mediaDurationSeconds : Option ℚ
  fullAssetConform : Bool
  loudnessMethod : Option LoudnessMethod
deriving DecidableEq

structure PreparedSegmentRecord where
  label : String
  sourcePath : Path
  preparedPath : Path
  loudnessStatus : LoudnessStatus
  measuredLufs : Option ℚ
  normalized : Bool
  loudnessMethod : Option LoudnessMethod
deriving DecidableEq

structure SourcePreparationReport where
  sourcePlan : EgressSourcePlan
  records : List PreparedSegmentRecord
  planDir : Option String
deriving DecidableEq

/-! ## Calls -/

/-- The file a tool is asked to make. It writes the temporary sibling. -/
inductive Target where
  | output (path : Path)
  | cached (key : Key)
deriving DecidableEq

/-- The `-ss` and `-t` of a conform. -/
structure Window where
  start : Option ℚ
  length : ℚ
deriving DecidableEq

inductive Encode where
  /-- A source to the canonical profile; without a window, the whole asset. -/
  | conform (source : Path) (window : Option Window)
  /-- A stream copy out of a cache entry. -/
  | copyOut (key : Key) (window : Window)
deriving DecidableEq

/-- How an ffmpeg child ended. -/
inductive Exit where
  | succeeded
  | failed
  | timedOut
  | cancelled
  | notFound
deriving DecidableEq

/-- How a ride or a measuring pass ended. -/
inductive Pass where
  | usable
  | unusable
  | cancelled
deriving DecidableEq

inductive LinkResult where
  | linked
  | fileExists
  | failed
deriving DecidableEq

inductive Op where
  | cancelRequested
  | isFile (path : Path)
  | cacheKey (path : Path)
  | readCacheMeta (key : Key)
  | cachedIsFile (key : Key)
  /-- `os.utime`; `false` when the entry is gone. -/
  | touchCached (key : Key)
  | probeMediaDuration (path : Path)
  | checkLoudness (path : Path) (start : Option ℚ) (duration : ℚ)
  | level (source : Path) (window : Option Window)
  | measureLoudnorm (source : Path) (window : Option Window)
  | startFfmpeg (encode : Encode) (target : Target)
  | ffmpeg (encode : Encode) (target : Target)
  | unlinkTmp (target : Target)
  /-- `tmp.replace(final)`; `false` when there is no `tmp`. -/
  | replaceTmp (target : Target)
  /-- `os.link` of a finished output to `{key}.ts.tmp`; `false` for an `OSError`. -/
  | linkFinished (output : Path) (key : Key)
  | writeMetaTmp (key : Key) (entry : CacheMeta)
  | replaceMeta (key : Key)
  | linkMeta (key : Key)
  | unlinkMetaTmp (key : Key)
  | unlinkMeta (key : Key)
  | evictCacheOverBudget
  | tryLock (key : Key)
  | unlock (key : Key)
  | scheduleWarm (key : Key)
  | scheduleCacheCopyPromotion (key : Key)
  | recordWarmFailure (key : Key)
  | gcPreparedPlanDirs
  | freshPlanDir
  | removePlanDir (planDir : String)
  /-- Remove the directory if it is empty; `true` when it is not there afterwards. -/
  | dropEmptyPlanDir (planDir : String)
  /-- The emitted file is there, not empty, and not known to have no stream. -/
  | isPlayable (path : Path)

def Op.Res : Op → Type
  | cancelRequested => Bool
  | isFile _ => Bool
  | cacheKey _ => Option Key
  | readCacheMeta _ => Option CacheMeta
  | cachedIsFile _ => Bool
  | touchCached _ => Bool
  | probeMediaDuration _ => Option ℚ
  | checkLoudness _ _ _ => Option LoudnessGateResult
  | level _ _ => Pass
  | measureLoudnorm _ _ => Pass
  | startFfmpeg _ _ => Unit
  | ffmpeg _ _ => Exit
  | unlinkTmp _ => Unit
  | replaceTmp _ => Bool
  | linkFinished _ _ => Bool
  | writeMetaTmp _ _ => Unit
  | replaceMeta _ => Bool
  | linkMeta _ => LinkResult
  | unlinkMetaTmp _ => Unit
  | unlinkMeta _ => Unit
  | evictCacheOverBudget => Bool
  | tryLock _ => Bool
  | unlock _ => Unit
  | scheduleWarm _ => Unit
  | scheduleCacheCopyPromotion _ => Unit
  | recordWarmFailure _ => Unit
  | gcPreparedPlanDirs => Unit
  | freshPlanDir => String
  | removePlanDir _ => Unit
  | dropEmptyPlanDir _ => Bool
  | isPlayable _ => Bool

inductive PrepareError where
  | missingSource
  | notMeasured
  | notConformed
  | fullAssetConformFailed
  | copyOutFailed
  | budgetTooSmall
  | timedOut
  | notPlayable
deriving DecidableEq

/-- A cancellation is a `SourcePrepareError` of its own kind. -/
inductive Fault where
  | sourcePrepare (error : PrepareError)
  | cancelled
  | ffmpegNotFound
  | fileNotFound
deriving DecidableEq

abbrev prepareIface : Iface where
  Op := Op
  Ans := Op.Res

abbrev PrepareM := Prog prepareIface Fault

def ask (o : Op) : PrepareM o.Res := .call o .ret

/-! ## Tools -/

/-- The preparer: whether the encoder trims at playout, and the loudness target of
the channel. -/
structure SourcePreparer where
  playoutTrimSupported : Bool
  loudnessTargetLufs : Option ℚ

def raiseIfCancelled (cancellable : Bool) : PrepareM Unit :=
  if cancellable then do
    let requested : Bool ← ask .cancelRequested
    if requested then .raise .cancelled else return ()
  else return ()

/-- `_run_ffmpeg`: whether the child returned zero. -/
def runFfmpeg (cancellable : Bool) (encode : Encode) (target : Target) : PrepareM Bool := do
  raiseIfCancelled cancellable
  ask (.startFfmpeg encode target)
  match ← ask (.ffmpeg encode target) with
  | .cancelled => .raise .cancelled
  | .timedOut => .raise (.sourcePrepare .timedOut)
  | .notFound => .raise .ffmpegNotFound
  | .failed => do
    raiseIfCancelled cancellable
    return false
  | .succeeded => do
    raiseIfCancelled cancellable
    return true

def checkLoudness (cancellable : Bool) (source : Path) (start : Option ℚ) (duration : ℚ) :
    PrepareM LoudnessGateResult := do
  raiseIfCancelled cancellable
  match ← ask (.checkLoudness source start duration) with
  | none => .raise .cancelled
  | some result => do
    raiseIfCancelled cancellable
    return result

/-- `_measure_loudnorm_metadata`: the second pass needs the measurements of the first. -/
def measureLoudnormMetadata (cancellable : Bool) (source : Path) (window : Option Window) :
    PrepareM LoudnessMethod := do
  raiseIfCancelled cancellable
  match ← ask (.measureLoudnorm source window) with
  | .cancelled => .raise .cancelled
  | .usable => do
    raiseIfCancelled cancellable
    return .twoPass
  | .unusable => do
    raiseIfCancelled cancellable
    return .singlePassFallback

/-- `_ride_conform_tmp`: `true` when the ride left the program in the temporary file. -/
def rideConformTmp (cancellable : Bool) (source : Path) (window : Option Window)
    (target : Target) : PrepareM Bool := do
  match ← ask (.level source window) with
  | .cancelled => .raise .cancelled
  | .unusable => return false
  | .usable => do
    match ← (runFfmpeg cancellable (.conform source window) target).attempt with
    | .ok true => return true
    | .ok false => do
      ask (.unlinkTmp target)
      return false
    | .error (.sourcePrepare _) => do
      ask (.unlinkTmp target)
      return false
    | .error .cancelled => do
      ask (.unlinkTmp target)
      .raise .cancelled
    | .error fault => .raise fault

/-- The loudness of a conform that is to be normalized: the ride, which also leaves the
program, or the measurement for the encode that follows. -/
def chooseLoudness (cancellable : Bool) (source : Path) (window : Option Window)
    (target : Target) : PrepareM LoudnessMethod := do
  let ridden : Bool ← rideConformTmp cancellable source window target
  if ridden then return .ride
  else measureLoudnormMetadata cancellable source window

/-! ## The cache -/

/-- `tmp.replace(final)`. -/
def replaceTmp (target : Target) : PrepareM Unit := do
  let replaced : Bool ← ask (.replaceTmp target)
  if replaced then return () else .raise .fileNotFound

def replaceMeta (key : Key) : PrepareM Unit := do
  let replaced : Bool ← ask (.replaceMeta key)
  if replaced then return () else .raise .fileNotFound

/-- Publish the sidecar's temporary file unless there is a sidecar already. -/
def linkMeta (key : Key) : PrepareM Unit := do
  match ← ask (.linkMeta key) with
  | .linked => return ()
  | .fileExists => do
    let found : Option CacheMeta ← ask (.readCacheMeta key)
    if found.isNone then replaceMeta key else return ()
  | .failed => replaceMeta key

def writeCacheMeta (key : Key) (entry : CacheMeta) (onlyIfAbsent : Bool) : PrepareM Unit := do
  ask (.writeMetaTmp key entry)
  if onlyIfAbsent then (linkMeta key).andFinally (ask (.unlinkMetaTmp key))
  else replaceMeta key

def promoteConformIntoCache (key : Key) (loudness : LoudnessGateResult) (normalized : Bool)
    (mediaDuration : Option ℚ) (method : Option LoudnessMethod) : PrepareM Unit := do
  replaceTmp (.cached key)
  writeCacheMeta key
    { loudnessStatus := loudness.status
      measuredLufs := loudness.measuredLufs
      normalized := normalized
      mediaDurationSeconds := mediaDuration
      fullAssetConform := true
      loudnessMethod := method } false
  let _ ← ask .evictCacheOverBudget
  let kept : Bool ← ask (.cachedIsFile key)
  if kept then return ()
  else do
    ask (.unlinkMeta key)
    .raise (.sourcePrepare .budgetTooSmall)

/-- The encode of the whole asset to `{key}.ts.tmp`. -/
def encodeFullAsset (cancellable : Bool) (source : Path) (key : Key) : PrepareM Unit := do
  match ← (runFfmpeg cancellable (.conform source none) (.cached key)).attempt with
  | .ok true => return ()
  | .ok false => do
    ask (.unlinkTmp (.cached key))
    .raise (.sourcePrepare .fullAssetConformFailed)
  | .error fault => do
    ask (.unlinkTmp (.cached key))
    .raise fault

/-- What `_conform_full_asset_into_cache` does under the key's lock. A fallback to one
pass leaves the cache alone. -/
def conformFullAsset (preparer : SourcePreparer) (cancellable : Bool) (key : Key) (source : Path)
    (loudness : LoudnessGateResult) (normalized : Bool) (mediaDuration : Option ℚ) :
    PrepareM Bool :=
  if normalized && preparer.loudnessTargetLufs.isSome then do
    match ← chooseLoudness cancellable source none (.cached key) with
    | .singlePassFallback => return false
    | .ride => do
      promoteConformIntoCache key loudness normalized mediaDuration (some .ride)
      return true
    | .twoPass => do
      encodeFullAsset cancellable source key
      promoteConformIntoCache key loudness normalized mediaDuration (some .twoPass)
      return true
  else do
    encodeFullAsset cancellable source key
    promoteConformIntoCache key loudness normalized mediaDuration none
    return true

/-- `_conform_full_asset_into_cache`: `true` when it populated the entry. -/
def conformFullAssetIntoCache (preparer : SourcePreparer) (cancellable : Bool) (key : Key)
    (source : Path) (loudness : LoudnessGateResult) (normalized : Bool)
    (mediaDuration : Option ℚ) : PrepareM Bool := do
  let acquired : Bool ← ask (.tryLock key)
  if acquired then
    (conformFullAsset preparer cancellable key source loudness normalized
      mediaDuration).andFinally (ask (.unlock key))
  else return false

/-- What `_promote_finished_conform_into_cache` does under the lock: `true` when the
file has to be copied instead. -/
def linkAndPromote (key : Key) (output : Path) (loudness : LoudnessGateResult)
    (normalized : Bool) (mediaDuration : Option ℚ) (method : Option LoudnessMethod) :
    PrepareM Bool := do
  ask (.unlinkTmp (.cached key))
  let linked : Bool ← ask (.linkFinished output key)
  if linked then do
    promoteConformIntoCache key loudness normalized mediaDuration method
    return false
  else return true

/-- `_promote_finished_conform_into_cache`: every failure is swallowed. -/
def promoteFinishedConformIntoCache (key : Key) (output : Path) (loudness : LoudnessGateResult)
    (normalized : Bool) (mediaDuration : Option ℚ) (method : Option LoudnessMethod) :
    PrepareM Unit := do
  let acquired : Bool ← ask (.tryLock key)
  if acquired then do
    let needsCopy : Bool ← Prog.andFinally
      (do
        match ← (linkAndPromote key output loudness normalized mediaDuration method).attempt with
        | .ok needsCopy => return needsCopy
        | .error _ => do
          ask (.unlinkTmp (.cached key))
          return false)
      (ask (.unlock key))
    if needsCopy then ask (.scheduleCacheCopyPromotion key) else return ()
  else return ()

/-! ## One segment -/

/-- The prepared segment: the window is in the file, or in the points it is played
between. -/
def emitted (segment : EgressSourceSegment) (path : Path) (inpoint outpoint : Option ℚ) :
    EgressSourceSegment :=
  { segment with
    path := path
    inpointSeconds := inpoint
    outpointSeconds := outpoint
    sourceOffsetSeconds := segment.sourceOffsetSeconds.or segment.inpointSeconds }

def window (segment : EgressSourceSegment) : Window where
  start := segment.inpointSeconds
  length := segment.durationSeconds

def record (segment : EgressSourceSegment) (preparedPath : Path) (loudness : LoudnessGateResult)
    (normalized : Bool) (method : Option LoudnessMethod) : PreparedSegmentRecord where
  label := segment.label
  sourcePath := segment.path
  preparedPath := preparedPath
  loudnessStatus := loudness.status
  measuredLufs := loudness.measuredLufs
  normalized := normalized
  loudnessMethod := method

def emitPreparedFromCache (preparer : SourcePreparer) (cancellable : Bool) (key : Key)
    (segment : EgressSourceSegment) (output : Path) (loudness : LoudnessGateResult)
    (normalized : Bool) (method : Option LoudnessMethod) :
    PrepareM (EgressSourceSegment × PreparedSegmentRecord) :=
  if preparer.playoutTrimSupported then
    let outpoint := segment.inpointSeconds.getD 0 + segment.durationSeconds
    return (emitted segment (.cached key) segment.inpointSeconds (some outpoint),
      record segment (.cached key) loudness normalized method)
  else do
    match ← (runFfmpeg cancellable (.copyOut key (window segment)) (.output output)).attempt with
    | .error .cancelled => do
      ask (.unlinkTmp (.output output))
      .raise .cancelled
    | .error fault => .raise fault
    | .ok false => do
      ask (.unlinkTmp (.output output))
      .raise (.sourcePrepare .copyOutFailed)
    | .ok true => do
      replaceTmp (.output output)
      return (emitted segment output none none,
        record segment output loudness normalized method)

def untrimmedLoudnessProbeCapSeconds : ℚ := 120
def untrimmedLoudnessProbeFraction : ℚ := 4 / 10
def untrimmedLoudnessProbeFraction2 : ℚ := 7 / 10
def loudnessSilenceFloorLufs : ℚ := -60
def shortAssetSingleSampleMaxSeconds : ℚ := untrimmedLoudnessProbeCapSeconds
def fullAssetDurationToleranceSeconds : ℚ := 1

def LoudnessGateResult.atSilenceFloor (loudness : LoudnessGateResult) : Bool :=
  loudness.measuredLufs.any fun lufs => lufs ≤ loudnessSilenceFloorLufs

/-- The sample of an asset longer than one probe: two fifths in. -/
def firstProbeStart (mediaDuration : ℚ) : ℚ :=
  max 0 (min (mediaDuration * untrimmedLoudnessProbeFraction)
    (mediaDuration - shortAssetSingleSampleMaxSeconds))

def secondProbeStart (mediaDuration : ℚ) : ℚ :=
  min (max (mediaDuration * untrimmedLoudnessProbeFraction2)
      (firstProbeStart mediaDuration + untrimmedLoudnessProbeCapSeconds))
    (mediaDuration - untrimmedLoudnessProbeCapSeconds)

/-- The second sample lies inside the asset and past the first. -/
def secondSampleIsUsable (mediaDuration : ℚ) : Bool :=
  0 ≤ secondProbeStart mediaDuration &&
    secondProbeStart mediaDuration + untrimmedLoudnessProbeCapSeconds ≤ mediaDuration &&
    firstProbeStart mediaDuration + untrimmedLoudnessProbeCapSeconds ≤
      secondProbeStart mediaDuration

/-- The samples of a long asset: a first one at the silence floor is checked by a
second one. The loudness, and whether the asset is silent. -/
def sampleLongAsset (cancellable : Bool) (source : Path) (mediaDuration : ℚ) :
    PrepareM (LoudnessGateResult × Bool) := do
  let first ← checkLoudness cancellable source (some (firstProbeStart mediaDuration))
    untrimmedLoudnessProbeCapSeconds
  if first.atSilenceFloor && secondSampleIsUsable mediaDuration then do
    let second ← checkLoudness cancellable source (some (secondProbeStart mediaDuration))
      untrimmedLoudnessProbeCapSeconds
    if second.measuredLufs.isSome then return (second, second.atSilenceFloor)
    else return (first, false)
  else return (first, false)

/-- The samples of an untrimmed segment. A short asset's one sample is the asset, and
nothing is concluded about one of unknown length. -/
def sampleAsset (cancellable : Bool) (source : Path) (mediaDuration : Option ℚ) :
    PrepareM (LoudnessGateResult × Bool) :=
  match mediaDuration.filter fun seconds => 0 < seconds with
  | none => do
    let loudness ← checkLoudness cancellable source (some 0) untrimmedLoudnessProbeCapSeconds
    return (loudness, false)
  | some seconds =>
    if seconds ≤ shortAssetSingleSampleMaxSeconds then do
      let loudness ← checkLoudness cancellable source (some 0)
        (min seconds untrimmedLoudnessProbeCapSeconds)
      return (loudness, loudness.atSilenceFloor)
    else sampleLongAsset cancellable source seconds

/-- What is known of an asset's loudness and length. -/
structure Measured where
  loudness : LoudnessGateResult
  normalized : Bool
  mediaDuration : Option ℚ

def CacheMeta.measured (entry : CacheMeta) : Measured where
  loudness := { status := entry.loudnessStatus, measuredLufs := entry.measuredLufs }
  normalized := entry.normalized
  mediaDuration := entry.mediaDurationSeconds

/-- The probe-only sidecar. -/
def Measured.entry (measured : Measured) : CacheMeta where
  loudnessStatus := measured.loudness.status
  measuredLufs := measured.loudness.measuredLufs
  normalized := measured.normalized
  mediaDurationSeconds := measured.mediaDuration
  fullAssetConform := false
  loudnessMethod := none

def EgressSourceSegment.trimmed (segment : EgressSourceSegment) : Bool :=
  segment.inpointSeconds.isSome || segment.outpointSeconds.isSome

/-- The verdict on a sample: a silent asset is not normalized. -/
def judged (loudness : LoudnessGateResult) (silent : Bool) (mediaDuration : Option ℚ) :
    PrepareM Measured :=
  if loudness.status ≠ .ok ∧ loudness.measuredLufs = none then .raise (.sourcePrepare .notMeasured)
  else
    return {
      loudness := loudness
      normalized := if silent then false else decide (loudness.status ≠ .ok)
      mediaDuration := mediaDuration }

def probe (cancellable : Bool) (segment : EgressSourceSegment) : PrepareM Measured :=
  if segment.trimmed then do
    let loudness ← checkLoudness cancellable segment.path segment.inpointSeconds
      segment.durationSeconds
    judged loudness false none
  else do
    let mediaDuration ← ask (.probeMediaDuration segment.path)
    let (loudness, silent) ← sampleAsset cancellable segment.path mediaDuration
    judged loudness silent mediaDuration

/-- The measurements from the sidecar, or from a probe that is then persisted. -/
def measure (cancellable : Bool) (segment : EgressSourceSegment) (key : Option Key)
    (found : Option CacheMeta) : PrepareM Measured :=
  match found with
  | some entry => return entry.measured
  | none => do
    let measured ← probe cancellable segment
    match key with
    | some key => do
      writeCacheMeta key measured.entry true
      return measured
    | none => return measured

/-- The encode of a window to the output's temporary file. -/
def encodeWindow (cancellable : Bool) (segment : EgressSourceSegment) (output : Path) :
    PrepareM Unit := do
  match ← (runFfmpeg cancellable (.conform segment.path (some (window segment)))
    (.output output)).attempt with
  | .ok true => return ()
  | .ok false => do
    ask (.unlinkTmp (.output output))
    .raise (.sourcePrepare .notConformed)
  | .error .cancelled => do
    ask (.unlinkTmp (.output output))
    .raise .cancelled
  | .error (.sourcePrepare error) => do
    ask (.unlinkTmp (.output output))
    .raise (.sourcePrepare error)
  | .error fault => .raise fault

/-- The bounded conform: only the window that is wanted. -/
def conformWindow (preparer : SourcePreparer) (cancellable : Bool) (segment : EgressSourceSegment)
    (output : Path) (normalized : Bool) : PrepareM (Option LoudnessMethod) :=
  if normalized && preparer.loudnessTargetLufs.isSome then do
    match ← chooseLoudness cancellable segment.path (some (window segment)) (.output output) with
    | .ride => return some .ride
    | .twoPass => do
      encodeWindow cancellable segment output
      return some .twoPass
    | .singlePassFallback => do
      encodeWindow cancellable segment output
      return some .singlePassFallback
  else do
    encodeWindow cancellable segment output
    return none

/-- The window of an untrimmed segment covers the whole asset, as far as its length is
known: a slot can be shorter than the asset. -/
def isFullAssetConform (segment : EgressSourceSegment) (mediaDuration : Option ℚ) : Bool :=
  !segment.trimmed && mediaDuration.any fun seconds =>
    seconds - fullAssetDurationToleranceSeconds ≤ segment.durationSeconds

/-- The end of `_prepare_segment`: the window goes to air, and the cache is populated
from it or behind it. -/
def prepareWindow (preparer : SourcePreparer) (cancellable : Bool) (segment : EgressSourceSegment)
    (output : Path) (key : Option Key) (measured : Measured) :
    PrepareM (EgressSourceSegment × PreparedSegmentRecord) := do
  let method ← conformWindow preparer cancellable segment output measured.normalized
  replaceTmp (.output output)
  match key with
  | none => return (emitted segment output none none,
      record segment output measured.loudness measured.normalized method)
  | some key => do
    if isFullAssetConform segment measured.mediaDuration &&
        method ≠ some .singlePassFallback then
      promoteFinishedConformIntoCache key output measured.loudness measured.normalized
        measured.mediaDuration method
    else ask (.scheduleWarm key)
    return (emitted segment output none none,
      record segment output measured.loudness measured.normalized method)

/-- `_prepare_segment` when the cache does not serve the segment. -/
def prepareMiss (preparer : SourcePreparer) (cancellable : Bool) (segment : EgressSourceSegment)
    (output : Path) (key : Option Key) (found : Option CacheMeta) :
    PrepareM (EgressSourceSegment × PreparedSegmentRecord) := do
  let measured ← measure cancellable segment key found
  match key with
  | none => prepareWindow preparer cancellable segment output none measured
  | some key =>
    if !segment.trimmed && preparer.playoutTrimSupported then do
      let populated : Bool ← conformFullAssetIntoCache preparer cancellable key segment.path
        measured.loudness measured.normalized measured.mediaDuration
      if populated then do
        let entry ← ask (.readCacheMeta key)
        emitPreparedFromCache preparer cancellable key segment output measured.loudness
          measured.normalized (entry.bind (·.loudnessMethod))
      else prepareWindow preparer cancellable segment output (some key) measured
    else prepareWindow preparer cancellable segment output (some key) measured

/-- A cut out of the whole asset is exact enough: at its start, or at playout. -/
def servedFromCache (preparer : SourcePreparer) (segment : EgressSourceSegment) : Bool :=
  preparer.playoutTrimSupported || segment.inpointSeconds.all fun inpoint => inpoint = 0

/-- The cache holds the whole asset, and its eviction clock was refreshed. -/
def cacheHit (key : Key) (found : Option CacheMeta) : PrepareM (Option CacheMeta) := do
  let present : Bool ← ask (.cachedIsFile key)
  match found with
  | none => return none
  | some entry =>
    if present && entry.fullAssetConform then do
      let touched : Bool ← ask (.touchCached key)
      return if touched then some entry else none
    else return none

def prepareSegment (preparer : SourcePreparer) (cancellable : Bool)
    (segment : EgressSourceSegment) (output : Path) :
    PrepareM (EgressSourceSegment × PreparedSegmentRecord) := do
  raiseIfCancelled cancellable
  let present : Bool ← ask (.isFile segment.path)
  if present then do
    let key ← ask (.cacheKey segment.path)
    match key with
    | none => prepareMiss preparer cancellable segment output none none
    | some key => do
      let found ← ask (.readCacheMeta key)
      if servedFromCache preparer segment then do
        match ← cacheHit key found with
        | some entry =>
          emitPreparedFromCache preparer cancellable key segment output
            entry.measured.loudness entry.normalized entry.loudnessMethod
        | none => prepareMiss preparer cancellable segment output (some key) found
      else prepareMiss preparer cancellable segment output (some key) found
  else .raise (.sourcePrepare .missingSource)

/-! ## A plan -/

/-- What identifies a segment within a plan: its file and trim points. -/
abbrev SeenKey := Path × Option ℚ × Option ℚ

def seenKey (segment : EgressSourceSegment) : SeenKey :=
  (segment.path, segment.inpointSeconds, segment.outpointSeconds)

def repeated (segment cached : EgressSourceSegment) : EgressSourceSegment :=
  { cached with
    label := segment.label
    kind := segment.kind
    sourceRef := segment.sourceRef
    scheduleOccurrenceId := segment.scheduleOccurrenceId
    scheduleOccurrenceStart := segment.scheduleOccurrenceStart
    sourceOffsetSeconds := segment.sourceOffsetSeconds.or segment.inpointSeconds }

def liveRecord (segment : EgressSourceSegment) : PreparedSegmentRecord where
  label := segment.label
  sourcePath := segment.path
  preparedPath := segment.path
  loudnessStatus := .notCheckedLivePassthrough
  measuredLufs := none
  normalized := false
  loudnessMethod := none

abbrev Prepared := EgressSourceSegment × PreparedSegmentRecord

/-- A cancellation takes the plan's directory with it. -/
def removingOnCancel {α : Type} (planDir : String) (body : PrepareM α) : PrepareM α := do
  match ← body.attempt with
  | .ok a => return a
  | .error .cancelled => do
    ask (.removePlanDir planDir)
    .raise .cancelled
  | .error fault => .raise fault

/-- The preparation of a segment that is not a repeat, and the check that what it
emitted can be played. -/
def prepareFirst (preparer : SourcePreparer) (cancellable : Bool) (planDir : String) (index : ℕ)
    (segment : EgressSourceSegment) : PrepareM Prepared := do
  let prepared ← removingOnCancel planDir
    (prepareSegment preparer cancellable segment (.prepared planDir index))
  let playable : Bool ← ask (.isPlayable prepared.1.path)
  if playable then return prepared
  else do
    ask (.removePlanDir planDir)
    .raise (.sourcePrepare .notPlayable)

/-- The loop of `prepare`, from the segment `index`. -/
def prepareSegments (preparer : SourcePreparer) (cancellable : Bool) (planDir : String) :
    List EgressSourceSegment → ℕ → List (SeenKey × Prepared) → PrepareM (List Prepared)
  | [], _, _ => return []
  | segment :: rest, index, seen => do
    removingOnCancel planDir (raiseIfCancelled cancellable)
    if segment.kind = .live then do
      let others ← prepareSegments preparer cancellable planDir rest (index + 1) seen
      return (segment, liveRecord segment) :: others
    else match seen.lookup (seenKey segment) with
      | some cached => do
        let others ← prepareSegments preparer cancellable planDir rest (index + 1) seen
        return (repeated segment cached.1, cached.2) :: others
      | none => do
        let prepared ← prepareFirst preparer cancellable planDir index segment
        let others ← prepareSegments preparer cancellable planDir rest (index + 1)
          ((seenKey segment, prepared) :: seen)
        return prepared :: others

def prepare (preparer : SourcePreparer) (cancellable : Bool) (plan : EgressSourcePlan) :
    PrepareM SourcePreparationReport := do
  raiseIfCancelled cancellable
  ask .gcPreparedPlanDirs
  let planDir ← ask .freshPlanDir
  let prepared ← prepareSegments preparer cancellable planDir plan.segments 1 []
  let gone : Bool ← ask (.dropEmptyPlanDir planDir)
  return {
    sourcePlan := { channelId := plan.channelId, segments := prepared.map Prod.fst }
    records := prepared.map Prod.snd
    planDir := if gone then none else some planDir }

/-! ## Warm jobs -/

/-- Whether the entry already holds the whole asset. -/
def alreadyPopulated (key : Key) : PrepareM Bool := do
  let present : Bool ← ask (.cachedIsFile key)
  let found ← ask (.readCacheMeta key)
  return present && found.any (·.fullAssetConform)

/-- A failed warm is recorded and not raised; a cancelled one is neither. -/
def containingWarm (key : Key) (body : PrepareM Unit) : PrepareM Unit := do
  match ← body.attempt with
  | .ok () => return ()
  | .error .cancelled => return ()
  | .error _ => ask (.recordWarmFailure key)

/-- The length a warm works with: what is known, or its own probe. -/
def warmDuration (source : Path) (known : Option ℚ) : PrepareM (Option ℚ) :=
  if known.any fun seconds => 0 < seconds then return known
  else ask (.probeMediaDuration source)

/-- The job of `_schedule_warm`. -/
def warmJob (preparer : SourcePreparer) (key : Key) (source : Path) (measured : Measured) :
    PrepareM Unit :=
  containingWarm key do
    let mediaDuration ← warmDuration source measured.mediaDuration
    let populated ← alreadyPopulated key
    if populated then return ()
    else do
      let _ ← conformFullAssetIntoCache preparer false key source measured.loudness
        measured.normalized mediaDuration
      return ()

/-- The job of `_schedule_plan_warm`: the whole asset as a segment. -/
def planWarmJob (preparer : SourcePreparer) (key : Key) (segment : EgressSourceSegment)
    (scratch : Path) : PrepareM Unit :=
  containingWarm key do
    let populated ← alreadyPopulated key
    if populated then return ()
    else do
      let mediaDuration ← ask (.probeMediaDuration segment.path)
      match mediaDuration.filter fun seconds => 0 < seconds with
      | none => return ()
      | some seconds => do
        let synthetic := { segment with
          durationSeconds := seconds
          inpointSeconds := none
          outpointSeconds := none
          sourceOffsetSeconds := segment.sourceOffsetSeconds.or segment.inpointSeconds }
        let _ ← prepareSegment preparer false synthetic scratch
        return ()

/-! ## What the tools write -/

/-- A stretch of an asset; without a length, to its end. -/
structure Clip where
  asset : Path
  start : ℚ
  length : Option ℚ
deriving DecidableEq

/-- What a path and a cache key stand for. A key is the fingerprint of one resolved
file. -/
structure Disk where
  resolve : Path → Path
  assetOf : Key → Path

/-- The stretch that an encode asks for. -/
def Disk.clip (disk : Disk) : Encode → Clip
  | .conform source none => { asset := disk.resolve source, start := 0, length := none }
  | .conform source (some window) =>
    { asset := disk.resolve source, start := window.start.getD 0, length := some window.length }
  | .copyOut key window =>
    { asset := disk.assetOf key, start := window.start.getD 0, length := some window.length }

end CivicCast.Egress.Preparer
