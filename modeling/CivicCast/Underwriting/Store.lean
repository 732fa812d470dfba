import CivicCast.Reporting.Airtime

/-!
# The tables of underwriting

Spots, the flights that schedule them and the placements of the trafficking compiler, as
`UnderwritingStore` keeps and lists them, and the query over the as-run ledger that the affidavit
is made of. Dates are days since the epoch, instants microseconds.
-/

namespace CivicCast.Underwriting

open Lib Reporting

abbrev Day : Type := ℤ

def dayMicros : ℤ := 86400000000

def dayStart (d : Day) : Instant := d * dayMicros

structure UnderwritingSpot where
  spotId : String
  stationId : String
  underwriter : String
  assetId : String
  fccCompliantAck : Bool
  deriving DecidableEq

structure SpotFlight where
  flightId : String
  spotId : String
  startDate : Day
  endDate : Day
  frequencyCapPerDay : Option ℕ
  daypartBlockId : Option String
  channels : List String
  createdAt : Instant
  deriving DecidableEq

structure SpotPlacement where
  placementId : String
  flightId : String
  channelId : String
  scheduledAt : Instant
  scheduleItemId : String
  createdAt : Instant
  deriving DecidableEq

abbrev PlacementTable : Type := Table SpotPlacement String SpotPlacement.placementId

structure Store where
  spots : Table UnderwritingSpot String UnderwritingSpot.spotId
  flights : Table SpotFlight String SpotFlight.flightId
  placements : PlacementTable

namespace Store

def getSpot (s : Store) (spotId : String) : Option UnderwritingSpot := s.spots.get spotId

/-- `list_spots` of one underwriter. -/
def listSpots (s : Store) (stationId underwriter : String) : List UnderwritingSpot :=
  (s.spots.rows.filter fun spot =>
    spot.stationId = stationId && spot.underwriter = underwriter).insertionSort
    fun a b => a.spotId ≤ b.spotId

/-- `list_flights(active_on=...)`. -/
def listFlights (s : Store) (activeOn : Day) : List SpotFlight :=
  (s.flights.rows.filter fun f => f.startDate ≤ activeOn && activeOn ≤ f.endDate).insertionSort
    fun a b => a.startDate < b.startDate ∨ (a.startDate = b.startDate ∧ a.flightId ≤ b.flightId)

/-- `record_placement`: a row that is there keeps its `created_at`. -/
def recordPlacement (s : Store) (p : SpotPlacement) : Store :=
  { s with
    placements := s.placements.upsert p
      (fun row => { p with placementId := row.placementId, createdAt := row.createdAt })
      fun _ => rfl }

/-- The half-open window on `scheduled_at`. -/
def inWindow (fromTs toTs : Instant) (p : SpotPlacement) : Bool :=
  fromTs ≤ p.scheduledAt && p.scheduledAt < toTs

/-- `list_placements` over a window. -/
def listPlacements (s : Store) (fromTs toTs : Instant) : List SpotPlacement :=
  (s.placements.rows.filter (inWindow fromTs toTs)).insertionSort
    fun a b => a.scheduledAt < b.scheduledAt ∨
      (a.scheduledAt = b.scheduledAt ∧ a.placementId ≤ b.placementId)

/-- `count_placements_by_flight`, for one of the flights; `none` is no window. -/
def countPlacementsByFlight (s : Store) (window : Option (Instant × Instant)) (flightId : String) :
    ℕ :=
  s.placements.rows.countP fun p =>
    p.flightId = flightId && window.all fun w => inWindow w.1 w.2 p

end Store

/-! ## The query over the ledger -/

/-- `list_as_run`: the rows of a station that overlap the window, open ones up to now. -/
def listed (stationId : String) (sourceKind : SourceKind) (fromTs toTs now : Instant)
    (row : AsRunLogEntry) : Bool :=
  row.stationId = stationId && (!openAiring row || row.actualStart < now) &&
    row.sourceKind = sourceKind &&
    ((!openAiring row && fromTs < row.actualEnd) ||
      (openAiring row && row.actualStart < now && fromTs < now)) &&
    row.actualStart < toTs

def listAsRun (ledger : Ledger) (stationId : String) (sourceKind : SourceKind)
    (fromTs toTs now : Instant) : List AsRunLogEntry :=
  (ledger.rows.filter (listed stationId sourceKind fromTs toTs now)).insertionSort
    fun a b => a.actualStart < b.actualStart ∨
      (a.actualStart = b.actualStart ∧ a.entryId ≤ b.entryId)

end CivicCast.Underwriting
