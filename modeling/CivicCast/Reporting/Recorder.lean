import CivicCast.Reporting.AsRunOutbox

/-! # The as-run recorder

The recorder turns the source transitions of the playout engine into rows of the
ledger. It keeps, for each channel, the row that is still open, in memory only: a
row is opened with its end equal to its start, and closed when the next transition
on the channel or a `close_open` arrives. A process that ends takes the map of open
rows with it, and leaves their rows as they were opened.

`Station` is the recorder and its ledger with the truth they are to record: the
spans of time during which each channel was on air. A run is any sequence of calls
and process ends with times that do not decrease.

The writes go through the outbox and are taken to land: what the outbox does when
they do not is the subject of `AsRunOutbox`.
-/

namespace CivicCast.Reporting

open Function

/-! ## The recorder -/

def slugStart (c : Char) : Bool := c.isLower || c.isDigit

def slugChar (c : Char) : Bool := slugStart c || c = '_' || c = '-'

/-- The pattern and the bounds of `Slug`. -/
def isSlug (s : String) : Bool :=
  match s.toList with
  | [] => false
  | c :: rest => slugStart c && rest.all slugChar && s.length ≤ 120

/-- The arguments of `record_transition` that it reads. -/
structure Transition where
  channelId : String
  sourceKind : SourceKind
  assetId : Option String
  actualStart : Instant
  scheduleItemId : Option String
  sourceOffsetSeconds : Option ℚ
  scheduleOccurrenceStart : Option Instant
deriving DecidableEq

/-- By what a horizon rollover recognises the occurrence it continues. -/
abbrev Identity := SourceKind × Option String × Option String × Option Instant

def Transition.identity (c : Transition) : Identity :=
  (c.sourceKind, c.assetId, c.scheduleItemId, c.scheduleOccurrenceStart)

/-- What else a call depends on: the id it draws, the clock, and what the optional
lookups find. -/
structure Draw where
  entryId : String
  now : Instant
  /-- The planned start of the occurrence, if it can be resolved. -/
  plannedStart : Option Instant
  /-- The occurrence is a trafficked spot with this channel and creative. -/
  trafficked : Bool

def airingKind (d : Draw) (c : Transition) : SourceKind :=
  if c.sourceKind ≠ .program ∨ (c.scheduleItemId.getD "").isEmpty then c.sourceKind
  else if d.trafficked then .spot
  else c.sourceKind

structure Recorder where
  opened : String → Option (String × Instant)
  identity : String → Option Identity
  offset : String → Option ℚ

def Recorder.start : Recorder where
  opened := fun _ => none
  identity := fun _ => none
  offset := fun _ => none

/-- The transition continues the occurrence that is open. -/
def Recorder.continues (r : Recorder) (c : Transition) : Bool :=
  c.sourceKind = .program && c.scheduleItemId.isSome && r.identity c.channelId = some c.identity &&
    match c.sourceOffsetSeconds, r.offset c.channelId with
    | some offset, some held => held < offset
    | _, _ => false

/-- The recorder and the ledger it writes. -/
structure Books where
  recorder : Recorder
  ledger : Ledger

inductive RecordError where
  | schemaDrift
deriving DecidableEq

namespace Books

/-- The row `record_transition` opens. -/
def newEntry (stationId : String) (d : Draw) (c : Transition) : AsRunLogEntry where
  entryId := d.entryId
  stationId := stationId
  channelId := c.channelId
  scheduleItemId := c.scheduleItemId
  assetId := c.assetId
  scheduledStart := c.scheduleOccurrenceStart <|> d.plannedStart
  actualStart := c.actualStart
  actualEnd := c.actualStart
  durationS := 0
  sourceKind := airingKind d c
  verified := true
  createdAt := d.now
  updatedAt := d.now

def validEntry (entry : AsRunLogEntry) : Bool :=
  isSlug entry.entryId && isSlug entry.stationId && isSlug entry.channelId &&
    entry.scheduleItemId.all isSlug && entry.assetId.all isSlug

def wholeSeconds (micros : Int) : Int := micros / 1000000

def closeLocked (now : Instant) (channelId : String) (actualEnd : Instant) (b : Books) : Books :=
  match b.recorder.opened channelId with
  | none => b
  | some (entryId, actualStart) =>
    let recorder : Recorder := {
      opened := update b.recorder.opened channelId none
      identity := update b.recorder.identity channelId none
      offset := update b.recorder.offset channelId none }
    -- A close at or before the open instant keeps the duration at zero.
    if actualEnd ≤ actualStart then
      { recorder, ledger := b.ledger.closeEntry now entryId actualStart 0 }
    else
      { recorder
        ledger := b.ledger.closeEntry now entryId actualEnd
          (wholeSeconds (actualEnd - actualStart)) }

/-- The maps and the ledger with a new open row. -/
def openRow (stationId : String) (d : Draw) (c : Transition) (b : Books) : Books where
  recorder := {
    opened := update b.recorder.opened c.channelId (some (d.entryId, c.actualStart))
    identity := update b.recorder.identity c.channelId (some c.identity)
    offset :=
      match c.sourceOffsetSeconds with
      | some offset => update b.recorder.offset c.channelId (some offset)
      | none => b.recorder.offset }
  ledger := b.ledger.appendAsRun d.now (newEntry stationId d c)

/-- `record_transition`. Validation comes after the previous row was closed. -/
def recordTransition (stationId : String) (d : Draw) (c : Transition) (b : Books) :
    Except RecordError Unit × Books :=
  if b.recorder.continues c then
    (.ok (), { b with recorder := { b.recorder with
      offset := update b.recorder.offset c.channelId c.sourceOffsetSeconds } })
  else
    let closed := b.closeLocked d.now c.channelId c.actualStart
    if validEntry (newEntry stationId d c) then (.ok (), closed.openRow stationId d c)
    else (.error .schemaDrift, closed)

def closeOpen (now : Instant) (channelId : String) (actualEnd : Instant) (b : Books) : Books :=
  b.closeLocked now channelId actualEnd

end Books

/-! ## The station and its runs -/

/-- A stretch of time on air, one for each row; `stop` is `none` while it lasts. -/
structure Span where
  channelId : String
  start : Instant
  stop : Option Instant
deriving DecidableEq

/-- The span ends at `t`, if it belongs to a channel in `p` and still lasts. -/
def Span.endAt (p : String → Bool) (t : Instant) (s : Span) : Span :=
  if p s.channelId && s.stop.isNone then { s with stop := some t } else s

structure Station where
  books : Books
  /-- When each channel was on air, newest first. -/
  spans : List Span
  /-- The time of the last event. -/
  clock : Instant

inductive AirEvent where
  | transition (d : Draw) (c : Transition)
  | closeOpen (now : Instant) (channelId : String) (actualEnd : Instant)
  | processEnd (t : Instant)

def AirEvent.time : AirEvent → Instant
  | transition _ c => c.actualStart
  | closeOpen _ _ actualEnd => actualEnd
  | processEnd t => t

namespace Station

variable (stationId : String)

def opening (clock : Instant) : Station where
  books := { recorder := .start, ledger := .empty }
  spans := []
  clock := clock

def step (w : Station) : AirEvent → Station
  | .transition d c =>
    { books := (w.books.recordTransition stationId d c).2
      spans :=
        if w.books.recorder.continues c then w.spans
        else { channelId := c.channelId, start := c.actualStart, stop := none } ::
          w.spans.map (Span.endAt (fun channel => channel = c.channelId) c.actualStart)
      clock := c.actualStart }
  | .closeOpen now channelId actualEnd =>
    { books := w.books.closeOpen now channelId actualEnd
      spans := w.spans.map (Span.endAt (fun channel => channel = channelId) actualEnd)
      clock := actualEnd }
  | .processEnd t =>
    -- The next process starts with nothing open.
    { books := { w.books with recorder := .start }
      spans := w.spans.map (Span.endAt (fun _ => true) t)
      clock := t }

/-- Time does not run backwards, and a drawn id is new. -/
def Admits (w : Station) (e : AirEvent) : Prop :=
  w.clock ≤ e.time ∧
    match e with
    | .transition d _ => w.books.ledger.get d.entryId = none
    | _ => True

/-- The stations reached by admitted events that all satisfy `ok`. -/
inductive Run (ok : Station → AirEvent → Prop) (w₀ : Station) : Station → Prop where
  | refl : Run ok w₀ w₀
  | step {w : Station} (h : Run ok w₀ w) (e : AirEvent) (hadmits : w.Admits e) (hok : ok w e) :
      Run ok w₀ (w.step stationId e)

end Station

end CivicCast.Reporting
