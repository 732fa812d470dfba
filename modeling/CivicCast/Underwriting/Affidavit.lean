import CivicCast.Underwriting.Store

/-!
# Affidavits

`AffidavitService.for_underwriter` lists the airings of an underwriter's spots in a period of
whole days, from the rows of the as-run ledger that overlap the period. A row that is on air at
midnight overlaps the day before and the day after, and a row that looks open (no duration, its
end is its start) overlaps every day from its start until now.

So two adjacent periods bill what the period of both bills if and only if no row of the underwriter
is on air, or open, across the midnight between them, none is stored the wrong way round across
it, and every row finds the same placement in its own period as in both (`additive_iff`).
-/

namespace CivicCast.Underwriting

open Lib Reporting List Option

structure AffidavitAiring where
  spotId : String
  assetId : String
  channelId : String
  airedAt : Instant
  durationS : ℤ
  placementId : Option String
  deriving DecidableEq

structure UnderwriterAffidavit where
  stationId : String
  underwriter : String
  periodStart : Day
  periodEnd : Day
  aired : List AffidavitAiring
  totalAirings : ℕ
  totalSeconds : ℤ
  deriving DecidableEq

/-- `asset_to_spot_ids`: the spots of an asset, in order. -/
def spotIdsOf (spots : List UnderwritingSpot) (assetId : String) : List String :=
  ((spots.filter fun s => s.assetId = assetId).map UnderwritingSpot.spotId).insertionSort (· ≤ ·)

/-- `placement_by_schedule_item`: the last placement of a schedule item. -/
def placementFor (placements : List SpotPlacement) (scheduleItemId : String) :
    Option SpotPlacement :=
  (placements.filter fun p => p.scheduleItemId = scheduleItemId).getLast?

def placementOf (placements : List SpotPlacement) (row : AsRunLogEntry) : Option String :=
  (row.scheduleItemId.bind (placementFor placements)).map SpotPlacement.placementId

/-- The airings of one row: one for every spot of its asset. -/
def airingsOf (spots : List UnderwritingSpot) (placements : List SpotPlacement)
    (row : AsRunLogEntry) : List AffidavitAiring :=
  match row.assetId with
  | none => []
  | some assetId =>
    (spotIdsOf spots assetId).map fun spotId =>
      { spotId := spotId
        assetId := assetId
        channelId := row.channelId
        airedAt := row.actualStart
        durationS := row.durationS
        placementId := placementOf placements row }

section Service

variable (store : Store) (ledger : Ledger) (stationId underwriter : String) (now : Instant)

/-- The airings between two instants, before they are sorted. -/
def airedBetween (fromTs toTs : Instant) : List AffidavitAiring :=
  (listAsRun ledger stationId .spot fromTs toTs now).flatMap
    (airingsOf (store.listSpots stationId underwriter) (store.listPlacements fromTs toTs))

def forUnderwriter (periodStart periodEnd : Day) : UnderwriterAffidavit :=
  let fromTs := dayStart periodStart
  let toTs := dayStart (periodEnd + 1)
  let aired :=
    if (store.listSpots stationId underwriter).isEmpty then []
    else
      (airedBetween store ledger stationId underwriter now fromTs toTs).insertionSort
        fun a b => a.airedAt < b.airedAt ∨ (a.airedAt = b.airedAt ∧ a.spotId ≤ b.spotId)
  { stationId := stationId
    underwriter := underwriter
    periodStart := periodStart
    periodEnd := periodEnd
    aired := aired
    totalAirings := aired.length
    totalSeconds := (aired.map AffidavitAiring.durationS).sum }

end Service

/-- The affidavits of two adjacent periods bill what that of both together bills, each airing
once. -/
structure Additive (whole first second : UnderwriterAffidavit) : Prop where
  disjoint : ∀ x ∈ first.aired, x ∉ second.aired
  together : (first.aired ++ second.aired).Perm whole.aired
  airings : whole.totalAirings = first.totalAirings + second.totalAirings
  seconds : whole.totalSeconds = first.totalSeconds + second.totalSeconds

/-- The ledger row counts for the underwriter: it is a spot of the station, of an asset of
theirs. -/
def Billable (store : Store) (stationId underwriter : String) (row : AsRunLogEntry) : Prop :=
  row.stationId = stationId ∧ row.sourceKind = .spot ∧
    ∃ spot ∈ store.listSpots stationId underwriter, row.assetId = some spot.assetId

/-- A row does not reach over the instant `mid` between `fromTs` and `toTs`: it is not open across
it, not on air across it, and does not end before it and start after it. -/
structure KeepsTo (fromTs mid toTs now : Instant) (row : AsRunLogEntry) : Prop where
  notOpen : openAiring row = true → ¬ (row.actualStart < mid ∧ mid < now)
  notAcross : openAiring row = false → ¬ (row.actualStart < mid ∧ mid < row.actualEnd)
  notReversed : openAiring row = false →
    ¬ (mid ≤ row.actualStart ∧ row.actualStart < toTs ∧ fromTs < row.actualEnd ∧
      row.actualEnd ≤ mid)

/-- The placement of the row is the same in its own part of the period as in the whole. -/
def SamePlacement (store : Store) (fromTs mid toTs : Instant) (row : AsRunLogEntry) : Prop :=
  if row.actualStart < mid then
    placementOf (store.listPlacements fromTs mid) row =
      placementOf (store.listPlacements fromTs toTs) row
  else
    placementOf (store.listPlacements mid toTs) row =
      placementOf (store.listPlacements fromTs toTs) row

/-! ## The rows of a period -/

section Rows

variable {store : Store} {ledger : Ledger} {stationId underwriter : String}
  {fromTs mid toTs now : Instant} {row : AsRunLogEntry}

variable (store stationId underwriter now) in
/-- What a row adds to the airings between two instants. -/
def contribution (fromTs toTs : Instant) (row : AsRunLogEntry) : List AffidavitAiring :=
  if listed stationId .spot fromTs toTs now row then
    airingsOf (store.listSpots stationId underwriter) (store.listPlacements fromTs toTs) row
  else []

lemma flatMap_filter {α β : Type} (p : α → Bool) (f : α → List β) (l : List α) :
    (l.filter p).flatMap f = l.flatMap fun a => if p a then f a else [] := by
  induction l with
  | nil => rfl
  | cons a l ih =>
    by_cases hp : p a = true
    · rw [filter_cons_of_pos hp, flatMap_cons, flatMap_cons, if_pos hp, ih]
    · rw [filter_cons_of_neg hp, flatMap_cons, if_neg hp, ih, nil_append]

lemma airedBetween_perm : (airedBetween store ledger stationId underwriter now fromTs toTs).Perm
    (ledger.rows.flatMap (contribution store stationId underwriter now fromTs toTs)) := by
  refine ((perm_insertionSort _ _).flatMap_right _).trans ?_
  rw [flatMap_filter]
  exact List.Perm.refl _

lemma aired_perm (a b : Day) :
    (forUnderwriter store ledger stationId underwriter now a b).aired.Perm
      (ledger.rows.flatMap
        (contribution store stationId underwriter now (dayStart a) (dayStart (b + 1)))) := by
  simp only [forUnderwriter]
  split
  · rename_i hnone
    -- without spots no row adds anything
    have hempty : ∀ row, contribution store stationId underwriter now (dayStart a)
        (dayStart (b + 1)) row = [] := by
      intro row
      unfold contribution airingsOf spotIdsOf
      rw [isEmpty_iff.mp hnone]
      split
      · split
        · rfl
        · rfl
      · rfl
    rw [funext hempty]
    simp
  · exact (perm_insertionSort _ _).trans airedBetween_perm

lemma mem_airingsOf {spots : List UnderwritingSpot} {placements : List SpotPlacement}
    {x : AffidavitAiring} (h : x ∈ airingsOf spots placements row) :
    x.airedAt = row.actualStart ∧ x.placementId = placementOf placements row := by
  unfold airingsOf at h
  split at h
  · cases h
  · obtain ⟨_, _, rfl⟩ := mem_map.mp h
    exact ⟨rfl, rfl⟩

lemma length_airingsOf {spots : List UnderwritingSpot} (placements placements' : List SpotPlacement)
    {row : AsRunLogEntry} :
    (airingsOf spots placements row).length = (airingsOf spots placements' row).length := by
  unfold airingsOf
  split
  · rfl
  · simp

lemma airingsOf_congr {spots : List UnderwritingSpot} {placements placements' : List SpotPlacement}
    (h : placementOf placements row = placementOf placements' row) :
    airingsOf spots placements row = airingsOf spots placements' row := by
  unfold airingsOf
  rw [h]

lemma Billable.airingsOf_ne_nil (h : Billable store stationId underwriter row)
    (placements : List SpotPlacement) :
    airingsOf (store.listSpots stationId underwriter) placements row ≠ [] := by
  obtain ⟨_, _, spot, hspot, hasset⟩ := h
  intro hnil
  rw [airingsOf, hasset] at hnil
  have hids : spotIdsOf (store.listSpots stationId underwriter) spot.assetId = [] :=
    map_eq_nil_iff.mp hnil
  have hmem : spot.spotId ∈ spotIdsOf (store.listSpots stationId underwriter) spot.assetId := by
    unfold spotIdsOf
    rw [mem_insertionSort]
    exact mem_map.mpr ⟨spot, mem_filter.mpr ⟨hspot, by simp⟩, rfl⟩
  rw [hids] at hmem
  cases hmem

lemma contribution_of_not_billable (h : ¬ Billable store stationId underwriter row) :
    contribution store stationId underwriter now fromTs toTs row = [] := by
  unfold contribution
  split
  · rename_i hlisted
    simp only [listed, Bool.and_eq_true, decide_eq_true_eq] at hlisted
    unfold airingsOf
    split
    · rfl
    · rename_i assetId hasset
      have hids : spotIdsOf (store.listSpots stationId underwriter) assetId = [] := by
        rw [spotIdsOf]
        have hnone : (store.listSpots stationId underwriter).filter
            (fun s => s.assetId = assetId) = [] := by
          rw [filter_eq_nil_iff]
          intro spot hspot heq
          have heq : spot.assetId = assetId := by simpa using heq
          exact h ⟨hlisted.1.1.1.1, hlisted.1.1.2, spot, hspot, heq ▸ hasset⟩
        rw [hnone]
        rfl
      rw [hids]
      rfl
  · rfl

end Rows

/-! ## One row -/

section Row

variable {store : Store} {ledger : Ledger} {stationId underwriter : String}
  {fromTs mid toTs now : Instant} {row : AsRunLogEntry}

variable (h : Billable store stationId underwriter row)
include h

lemma listed_iff :
    listed stationId .spot fromTs toTs now row = true ↔ row.actualStart < toTs ∧
      (openAiring row = true → row.actualStart < now ∧ fromTs < now) ∧
      (openAiring row = false → fromTs < row.actualEnd) := by
  obtain ⟨hstation, hkind, _⟩ := h
  simp only [listed, hstation, hkind]
  cases openAiring row <;> simp <;> tauto

lemma listed_first_iff (hstart : row.actualStart < mid) (hmid : mid < toTs) :
    listed stationId .spot fromTs mid now row = listed stationId .spot fromTs toTs now row := by
  rw [Bool.eq_iff_iff, listed_iff h, listed_iff h]
  have hto : row.actualStart < toTs := lt_trans hstart hmid
  simp [hstart, hto]

/-- From the middle on, a row is listed in the second part only if it is in the whole. -/
lemma listed_of_second (hmid : fromTs < mid)
    (hlisted : listed stationId .spot mid toTs now row = true) :
    listed stationId .spot fromTs toTs now row = true := by
  rw [listed_iff h] at hlisted ⊢
  obtain ⟨hto, hopen, hclosed⟩ := hlisted
  refine ⟨hto, ?_, ?_⟩
  · intro ho
    exact ⟨(hopen ho).1, lt_trans hmid (hopen ho).2⟩
  · intro hc
    exact lt_trans hmid (hclosed hc)

omit h

lemma not_listed_first (h : mid ≤ row.actualStart) :
    listed stationId .spot fromTs mid now row = false := by
  have hnot : ¬ row.actualStart < mid := not_lt.mpr h
  simp [listed, hnot]

/-- A row that keeps to one side adds to the two parts what it adds to the whole. -/
lemma contribution_split (hmid : fromTs < mid) (hto : mid < toTs)
    (hb : Billable store stationId underwriter row) (hkeeps : KeepsTo fromTs mid toTs now row)
    (hsame : listed stationId .spot fromTs toTs now row = true →
      SamePlacement store fromTs mid toTs row) :
    contribution store stationId underwriter now fromTs mid row ++
        contribution store stationId underwriter now mid toTs row =
      contribution store stationId underwriter now fromTs toTs row := by
  by_cases hstart : row.actualStart < mid
  · -- it starts in the first part, and the second does not list it
    have hsecond : listed stationId .spot mid toTs now row = false := by
      rw [← Bool.not_eq_true, listed_iff hb]
      rintro ⟨_, hopen, hclosed⟩
      cases ho : openAiring row with
      | true => exact hkeeps.notOpen ho ⟨hstart, (hopen ho).2⟩
      | false => exact hkeeps.notAcross ho ⟨hstart, hclosed ho⟩
    have hfirst : listed stationId .spot fromTs mid now row =
        listed stationId .spot fromTs toTs now row := listed_first_iff hb hstart hto
    unfold contribution
    rw [hsecond, hfirst]
    cases hlisted : listed stationId .spot fromTs toTs now row with
    | false => rfl
    | true =>
      have hplacement := hsame hlisted
      rw [SamePlacement, if_pos hstart] at hplacement
      simp [airingsOf_congr hplacement]
  · have hstart : mid ≤ row.actualStart := not_lt.mp hstart
    have hsecond : listed stationId .spot mid toTs now row =
        listed stationId .spot fromTs toTs now row := by
      rw [Bool.eq_iff_iff]
      refine ⟨listed_of_second hb hmid, ?_⟩
      rw [listed_iff hb, listed_iff hb]
      rintro ⟨hbefore, hopen, hclosed⟩
      refine ⟨hbefore, ?_, ?_⟩
      · intro ho
        exact ⟨(hopen ho).1, lt_of_le_of_lt hstart (hopen ho).1⟩
      · intro hc
        by_contra hend
        exact hkeeps.notReversed hc ⟨hstart, hbefore, hclosed hc, not_lt.mp hend⟩
    unfold contribution
    rw [not_listed_first hstart, hsecond]
    cases hlisted : listed stationId .spot fromTs toTs now row with
    | false => rfl
    | true =>
      have hplacement := hsame hlisted
      rw [SamePlacement, if_neg (not_lt.mpr hstart)] at hplacement
      simp [airingsOf_congr hplacement]

lemma countP_contribution (s : Instant) :
    (contribution store stationId underwriter now fromTs toTs row).countP (fun x => x.airedAt = s) =
      if row.actualStart = s then
        (contribution store stationId underwriter now fromTs toTs row).length
      else 0 := by
  have hstart : ∀ x ∈ contribution store stationId underwriter now fromTs toTs row,
      x.airedAt = row.actualStart := by
    intro x hx
    unfold contribution at hx
    split at hx
    · exact (mem_airingsOf hx).1
    · cases hx
  split
  · rename_i hs
    rw [countP_eq_length]
    intro x hx
    simp [hstart x hx, hs]
  · rename_i hs
    rw [countP_eq_zero]
    intro x hx
    simp [hstart x hx, hs]

end Row

/-! ## Placements -/

section Placements

variable {store : Store} {P W : List SpotPlacement} {row row' : AsRunLogEntry}

lemma mem_of_placementOf {id : String} (h : placementOf P row = some id) :
    ∃ p ∈ P, p.placementId = id ∧ row.scheduleItemId = some p.scheduleItemId := by
  rw [placementOf, map_eq_some_iff] at h
  obtain ⟨p, hp, rfl⟩ := h
  obtain ⟨item, hitem, hp⟩ := bind_eq_some_iff.mp hp
  have hmem := mem_filter.mp (mem_of_getLast? hp)
  have heq : p.scheduleItemId = item := by simpa using hmem.2
  exact ⟨p, hmem.1, rfl, by rw [hitem, heq]⟩

lemma placementOf_none_of_subset (hsub : ∀ p ∈ P, p ∈ W) (h : placementOf W row = none) :
    placementOf P row = none := by
  rw [placementOf, map_eq_none_iff] at h ⊢
  cases hitem : row.scheduleItemId with
  | none => rfl
  | some item =>
    rw [hitem, bind_some, placementFor, getLast?_eq_none_iff, filter_eq_nil_iff] at h
    rw [bind_some, placementFor, getLast?_eq_none_iff, filter_eq_nil_iff]
    exact fun p hp => h p (hsub p hp)

/-- The placement of a row in a part of the window: a placement is found in the part only for rows
of one schedule item. -/
lemma placementOf_eq_of_eq (hsub : ∀ p ∈ P, p ∈ W) (hrows : ∀ p ∈ W, p ∈ store.placements.rows)
    (h : placementOf P row' = placementOf W row) : placementOf P row = placementOf W row := by
  cases hW : placementOf W row with
  | none => exact placementOf_none_of_subset hsub hW
  | some id =>
    rw [hW] at h
    obtain ⟨p, hp, hid, hitem⟩ := mem_of_placementOf hW
    obtain ⟨p', hp', hid', hitem'⟩ := mem_of_placementOf h
    have hsame : p' = p :=
      Table.eq_of_key_eq (hrows p' (hsub p' hp')) (hrows p hp) (hid'.trans hid.symm)
    have hitems : row.scheduleItemId = row'.scheduleItemId := by rw [hitem, hitem', hsame]
    rw [← h, placementOf, placementOf, hitems]

lemma mem_listPlacements {fromTs toTs : Instant} {p : SpotPlacement} :
    p ∈ store.listPlacements fromTs toTs ↔
      p ∈ store.placements.rows ∧ fromTs ≤ p.scheduledAt ∧ p.scheduledAt < toTs := by
  simp [Store.listPlacements, Store.inWindow]

end Placements

/-! ## Adjacent periods -/

section Periods

variable {store : Store} {ledger : Ledger} {stationId underwriter : String}
  {fromTs mid toTs now : Instant}

variable (store ledger stationId underwriter now) in
/-- The condition: every row of the underwriter keeps to one of the two parts, and finds in it the
placement that it has in the whole. -/
def Splits (fromTs mid toTs : Instant) : Prop :=
  ∀ row ∈ ledger.rows, Billable store stationId underwriter row →
    KeepsTo fromTs mid toTs now row ∧
      (listed stationId .spot fromTs toTs now row = true → SamePlacement store fromTs mid toTs row)

variable (store ledger stationId underwriter now) in
/-- All the airings between two instants, row by row. -/
abbrev airings (fromTs toTs : Instant) : List AffidavitAiring :=
  ledger.rows.flatMap (contribution store stationId underwriter now fromTs toTs)

lemma airings_perm_of_splits (hmid : fromTs < mid) (hto : mid < toTs)
    (h : Splits store ledger stationId underwriter now fromTs mid toTs) :
    (airings store ledger stationId underwriter now fromTs mid ++
      airings store ledger stationId underwriter now mid toTs).Perm
      (airings store ledger stationId underwriter now fromTs toTs) := by
  refine (flatMap_append_perm _ _ _).trans (List.Perm.of_eq ?_)
  apply flatMap_congr
  intro row hrow
  by_cases hb : Billable store stationId underwriter row
  · obtain ⟨hkeeps, hsame⟩ := h row hrow hb
    exact contribution_split hmid hto hb hkeeps hsame
  · simp only [contribution_of_not_billable hb, append_nil]

def countAt (store : Store) (stationId underwriter : String) (now s fromTs toTs : Instant)
    (row : AsRunLogEntry) : ℕ :=
  if row.actualStart = s then
    (contribution store stationId underwriter now fromTs toTs row).length
  else 0

lemma countP_airings (s : Instant) :
    (airings store ledger stationId underwriter now fromTs toTs).countP (fun x => x.airedAt = s) =
      (ledger.rows.map (countAt store stationId underwriter now s fromTs toTs)).sum := by
  rw [countP_flatMap]
  congr 1
  apply map_congr_left
  intro row _
  exact countP_contribution s

/-- The two parts and the whole count the same airings of every instant. -/
lemma sum_countAt
    (h : (airings store ledger stationId underwriter now fromTs mid ++
      airings store ledger stationId underwriter now mid toTs).Perm
      (airings store ledger stationId underwriter now fromTs toTs)) (s : Instant) :
    (ledger.rows.map (countAt store stationId underwriter now s fromTs mid)).sum +
        (ledger.rows.map (countAt store stationId underwriter now s mid toTs)).sum =
      (ledger.rows.map (countAt store stationId underwriter now s fromTs toTs)).sum := by
  have hcount := h.countP_eq (fun x => x.airedAt = s)
  rw [countP_append, countP_airings, countP_airings, countP_airings] at hcount
  exact hcount

lemma countAt_pos {row : AsRunLogEntry} (hb : Billable store stationId underwriter row)
    (h : listed stationId .spot fromTs toTs now row = true) :
    0 < countAt store stationId underwriter now row.actualStart fromTs toTs row := by
  rw [countAt, if_pos rfl, contribution, if_pos h]
  exact length_pos_iff.mpr (hb.airingsOf_ne_nil _)

lemma mem_airings {x : AffidavitAiring}
    (h : x ∈ airings store ledger stationId underwriter now fromTs toTs) :
    ∃ row ∈ ledger.rows, (Billable store stationId underwriter row ∧
        listed stationId .spot fromTs toTs now row = true) ∧ x.airedAt = row.actualStart ∧
      x.placementId = placementOf (store.listPlacements fromTs toTs) row := by
  obtain ⟨row, hrow, hx⟩ := mem_flatMap.mp h
  have hb : Billable store stationId underwriter row := by
    by_contra hnot
    rw [contribution_of_not_billable hnot] at hx
    cases hx
  unfold contribution at hx
  split at hx
  · rename_i hlisted
    exact ⟨row, hrow, ⟨hb, hlisted⟩, mem_airingsOf hx⟩
  · cases hx

variable (hperm : (airings store ledger stationId underwriter now fromTs mid ++
      airings store ledger stationId underwriter now mid toTs).Perm
      (airings store ledger stationId underwriter now fromTs toTs))

include hperm

/-- Nothing that starts before the middle is in the second part: the first part has all of it. -/
lemma not_listed_second (hto : mid < toTs) {row : AsRunLogEntry} (hrow : row ∈ ledger.rows)
    (hb : Billable store stationId underwriter row) (hstart : row.actualStart < mid) :
    listed stationId .spot mid toTs now row = false := by
  have hfirst : ledger.rows.map
        (countAt store stationId underwriter now row.actualStart fromTs mid) =
      ledger.rows.map (countAt store stationId underwriter now row.actualStart fromTs toTs) := by
    apply map_congr_left
    intro r _
    unfold countAt
    split
    · rename_i hr
      by_cases hbr : Billable store stationId underwriter r
      · unfold contribution
        rw [listed_first_iff hbr (hr ▸ hstart) hto]
        split
        · exact length_airingsOf _ _
        · rfl
      · rw [contribution_of_not_billable hbr, contribution_of_not_billable hbr]
    · rfl
  have hsum := sum_countAt hperm row.actualStart
  rw [hfirst] at hsum
  have hzero : (ledger.rows.map
      (countAt store stationId underwriter now row.actualStart mid toTs)).sum = 0 := by omega
  rw [← Bool.not_eq_true]
  intro hlisted
  have hpos := countAt_pos hb hlisted
  have hnone := sum_eq_zero_iff.mp hzero _ (mem_map.mpr ⟨row, hrow, rfl⟩)
  omega

/-- What starts from the middle on is in the second part if it is in the whole. -/
lemma listed_second (hmid : fromTs < mid) {row : AsRunLogEntry} (hrow : row ∈ ledger.rows)
    (hb : Billable store stationId underwriter row) (hstart : mid ≤ row.actualStart)
    (hlisted : listed stationId .spot fromTs toTs now row = true) :
    listed stationId .spot mid toTs now row = true := by
  have hfirst : ∀ r ∈ ledger.rows,
      countAt store stationId underwriter now row.actualStart fromTs mid r = 0 := by
    intro r _
    unfold countAt
    split
    · rename_i hr
      rw [contribution, if_neg (by rw [not_listed_first (hr ▸ hstart)]; exact Bool.false_ne_true)]
      rfl
    · rfl
  have hle : ∀ r ∈ ledger.rows,
      countAt store stationId underwriter now row.actualStart mid toTs r ≤
        countAt store stationId underwriter now row.actualStart fromTs toTs r := by
    intro r _
    unfold countAt
    split
    · by_cases hbr : Billable store stationId underwriter r
      · unfold contribution
        split
        · rename_i hsecond
          rw [if_pos (listed_of_second hbr hmid hsecond)]
          exact le_of_eq (length_airingsOf _ _)
        · exact Nat.zero_le _
      · rw [contribution_of_not_billable hbr]
        exact Nat.zero_le _
    · exact le_refl _
  by_contra hsecond
  -- the row itself makes the whole larger
  have hlt : countAt store stationId underwriter now row.actualStart mid toTs row <
      countAt store stationId underwriter now row.actualStart fromTs toTs row := by
    have hzero : countAt store stationId underwriter now row.actualStart mid toTs row = 0 := by
      rw [countAt, if_pos rfl, contribution, if_neg hsecond]
      rfl
    rw [hzero]
    exact countAt_pos hb hlisted
  have hless := sum_lt_sum _ _ hle ⟨row, hrow, hlt⟩
  have hnone : (ledger.rows.map
      (countAt store stationId underwriter now row.actualStart fromTs mid)).sum = 0 := by
    rw [sum_eq_zero_iff]
    intro n hn
    obtain ⟨r, hr, rfl⟩ := mem_map.mp hn
    exact hfirst r hr
  have hsum := sum_countAt hperm row.actualStart
  omega

lemma keepsTo_of_perm (hmid : fromTs < mid) (hto : mid < toTs) {row : AsRunLogEntry}
    (hrow : row ∈ ledger.rows) (hb : Billable store stationId underwriter row) :
    KeepsTo fromTs mid toTs now row := by
  constructor
  · rintro ho ⟨hstart, hnow⟩
    have hnot := not_listed_second hperm hto hrow hb hstart
    rw [← Bool.not_eq_true, listed_iff hb] at hnot
    apply hnot
    refine ⟨lt_trans hstart hto, fun _ => ⟨lt_trans hstart hnow, hnow⟩, ?_⟩
    intro hc
    rw [ho] at hc
    cases hc
  · rintro hc ⟨hstart, hend⟩
    have hnot := not_listed_second hperm hto hrow hb hstart
    rw [← Bool.not_eq_true, listed_iff hb] at hnot
    apply hnot
    refine ⟨lt_trans hstart hto, ?_, fun _ => hend⟩
    intro ho
    rw [hc] at ho
    cases ho
  · rintro hc ⟨hstart, hbefore, hafter, hend⟩
    have hwhole : listed stationId .spot fromTs toTs now row = true := by
      rw [listed_iff hb]
      refine ⟨hbefore, ?_, fun _ => hafter⟩
      intro ho
      rw [hc] at ho
      cases ho
    have hsecond := listed_second hperm hmid hrow hb hstart hwhole
    rw [listed_iff hb] at hsecond
    exact absurd (hsecond.2.2 hc) (not_lt.mpr hend)

lemma samePlacement_of_perm (hmid : fromTs < mid) (hto : mid < toTs) {row : AsRunLogEntry}
    (hrow : row ∈ ledger.rows) (hb : Billable store stationId underwriter row)
    (hlisted : listed stationId .spot fromTs toTs now row = true) :
    SamePlacement store fromTs mid toTs row := by
  obtain ⟨x, hx⟩ := exists_mem_of_ne_nil _ (hb.airingsOf_ne_nil (store.listPlacements fromTs toTs))
  obtain ⟨hat, hplacement⟩ := mem_airingsOf hx
  have hwhole : x ∈ airings store ledger stationId underwriter now fromTs toTs :=
    mem_flatMap.mpr ⟨row, hrow, by rw [contribution, if_pos hlisted]; exact hx⟩
  have hrows : ∀ p ∈ store.listPlacements fromTs toTs, p ∈ store.placements.rows :=
    fun p hp => (mem_listPlacements.mp hp).1
  have hparts := mem_append.mp (hperm.mem_iff.mpr hwhole)
  unfold SamePlacement
  by_cases hstart : row.actualStart < mid
  · rw [if_pos hstart]
    have hsub : ∀ p ∈ store.listPlacements fromTs mid, p ∈ store.listPlacements fromTs toTs := by
      intro p hp
      rw [mem_listPlacements] at hp ⊢
      exact ⟨hp.1, hp.2.1, lt_trans hp.2.2 hto⟩
    rcases hparts with hpart | hpart
    · obtain ⟨row', hrow', hx'⟩ := mem_airings hpart
      exact placementOf_eq_of_eq hsub hrows (hx'.2.2.symm.trans hplacement)
    · -- no airing of this instant is in the second part
      obtain ⟨row', hrow', hx'⟩ := mem_airings hpart
      have hstart' : row'.actualStart < mid := by rw [← hx'.2.1, hat]; exact hstart
      have hnot := not_listed_second hperm hto hrow' hx'.1.1 hstart'
      rw [hx'.1.2] at hnot
      cases hnot
  · rw [if_neg hstart]
    have hsub : ∀ p ∈ store.listPlacements mid toTs, p ∈ store.listPlacements fromTs toTs := by
      intro p hp
      rw [mem_listPlacements] at hp ⊢
      exact ⟨hp.1, le_trans (le_of_lt hmid) hp.2.1, hp.2.2⟩
    rcases hparts with hpart | hpart
    · obtain ⟨row', hrow', hx'⟩ := mem_airings hpart
      have hstart' : mid ≤ row'.actualStart := by rw [← hx'.2.1, hat]; exact not_lt.mp hstart
      have hnot : listed stationId .spot fromTs mid now row' = false := not_listed_first hstart'
      rw [hx'.1.2] at hnot
      cases hnot
    · obtain ⟨row', hrow', hx'⟩ := mem_airings hpart
      exact placementOf_eq_of_eq hsub hrows (hx'.2.2.symm.trans hplacement)

omit hperm in
lemma disjoint_of_splits (h : Splits store ledger stationId underwriter now fromTs mid toTs)
    {x : AffidavitAiring} (hfirst : x ∈ airings store ledger stationId underwriter now fromTs mid)
    (hsecond : x ∈ airings store ledger stationId underwriter now mid toTs) : False := by
  obtain ⟨row, _, ⟨hb, hlisted⟩, hat, _⟩ := mem_airings hfirst
  obtain ⟨row', hrow', ⟨hb', hlisted'⟩, hat', _⟩ := mem_airings hsecond
  have hstart : row'.actualStart < mid := by
    rw [← hat', hat]
    exact ((listed_iff hb).mp hlisted).1
  have hkeeps := (h row' hrow' hb').1
  obtain ⟨_, hopen, hclosed⟩ := (listed_iff hb').mp hlisted'
  cases ho : openAiring row' with
  | true => exact hkeeps.notOpen ho ⟨hstart, (hopen ho).2⟩
  | false => exact hkeeps.notAcross ho ⟨hstart, hclosed ho⟩

omit hperm in
lemma dayStart_lt {a b : Day} (h : a < b) : dayStart a < dayStart b := by
  exact Int.mul_lt_mul_of_pos_right h (by decide)

omit hperm in
/-- Two adjacent periods bill every airing of both once if and only if no row of the underwriter
reaches over the midnight between them. -/
theorem additive_iff (store : Store) (ledger : Ledger) (stationId underwriter : String)
    (now : Instant) {a b c : Day} (hab : a ≤ b) (hbc : b < c) :
    Additive (forUnderwriter store ledger stationId underwriter now a c)
        (forUnderwriter store ledger stationId underwriter now a b)
        (forUnderwriter store ledger stationId underwriter now (b + 1) c) ↔
      Splits store ledger stationId underwriter now (dayStart a) (dayStart (b + 1))
        (dayStart (c + 1)) := by
  have hmid : dayStart a < dayStart (b + 1) := dayStart_lt (Int.lt_add_one_iff.mpr hab)
  have hto : dayStart (b + 1) < dayStart (c + 1) := dayStart_lt (Int.add_lt_add_right hbc 1)
  have hwhole : (forUnderwriter store ledger stationId underwriter now a c).aired.Perm
      (airings store ledger stationId underwriter now (dayStart a) (dayStart (c + 1))) :=
    aired_perm a c
  have hfirst : (forUnderwriter store ledger stationId underwriter now a b).aired.Perm
      (airings store ledger stationId underwriter now (dayStart a) (dayStart (b + 1))) :=
    aired_perm a b
  have hsecond : (forUnderwriter store ledger stationId underwriter now (b + 1) c).aired.Perm
      (airings store ledger stationId underwriter now (dayStart (b + 1)) (dayStart (c + 1))) :=
    aired_perm (b + 1) c
  constructor
  · intro hadditive
    have hperm := ((hfirst.append hsecond).symm.trans hadditive.together).trans hwhole
    intro row hrow hb
    exact ⟨keepsTo_of_perm hperm hmid hto hrow hb,
      fun hlisted => samePlacement_of_perm hperm hmid hto hrow hb hlisted⟩
  · intro hsplits
    have htogether := ((hfirst.append hsecond).trans
      (airings_perm_of_splits hmid hto hsplits)).trans hwhole.symm
    refine ⟨?_, htogether, ?_, ?_⟩
    · intro x hx hx'
      exact disjoint_of_splits hsplits (hfirst.mem_iff.mp hx) (hsecond.mem_iff.mp hx')
    · have hlength := htogether.length_eq
      rw [length_append] at hlength
      exact hlength.symm
    · have hsum := (htogether.map AffidavitAiring.durationS).sum_eq
      rw [map_append, sum_append] at hsum
      exact hsum.symm

end Periods

/-! ## A spot at midnight -/

def sampleStore : Store where
  spots := Table.empty.insert ⟨"ack", "brookfield", "Carter & Sons, LLC", "ack-video", true⟩ rfl
  flights := .empty
  placements := .empty

/-- A spot of ten seconds, with the start in microseconds. -/
def sampleRow (entryId : String) (actualStart : Instant) : AsRunLogEntry where
  entryId := entryId
  stationId := "brookfield"
  channelId := "gov"
  scheduleItemId := none
  assetId := some "ack-video"
  scheduledStart := none
  actualStart := actualStart
  actualEnd := actualStart + 10000000
  durationS := 10
  sourceKind := .spot
  verified := true
  createdAt := actualStart
  updatedAt := actualStart

/-- One spot at ten in the morning of day 0, one at noon of day 1. -/
def daytime : Ledger :=
  (Table.empty.insert (sampleRow "first" 36000000000) rfl).insert
    (sampleRow "second" 129600000000) (by decide)

/-- One spot from five seconds before the midnight after day 0. -/
def midnight : Ledger := Table.empty.insert (sampleRow "late" 86395000000) rfl

abbrev sampleAffidavit (ledger : Ledger) (a b : Day) : UnderwriterAffidavit :=
  forUnderwriter sampleStore ledger "brookfield" "Carter & Sons, LLC" 864000000000 a b

theorem daytime_additive :
    Additive (sampleAffidavit daytime 0 1) (sampleAffidavit daytime 0 0)
        (sampleAffidavit daytime (0 + 1) 1) ∧
      (sampleAffidavit daytime 0 1).totalSeconds = 20 := by
  refine ⟨(additive_iff sampleStore daytime "brookfield" "Carter & Sons, LLC" 864000000000
    (le_refl 0) (by decide)).mpr ?_, by decide +kernel⟩
  have hrows : daytime.rows = [sampleRow "first" 36000000000, sampleRow "second" 129600000000] :=
    rfl
  intro row hrow _
  rw [hrows, mem_cons, mem_singleton] at hrow
  rcases hrow with rfl | rfl
  · exact ⟨⟨by decide, by decide, by decide⟩, fun _ => rfl⟩
  · exact ⟨⟨by decide, by decide, by decide⟩, fun _ => rfl⟩

theorem midnight_billed_twice :
    ¬ ∀ (store : Store) (ledger : Ledger) (stationId underwriter : String) (now : Instant)
        (a b c : Day), a ≤ b → b < c →
      Additive (forUnderwriter store ledger stationId underwriter now a c)
        (forUnderwriter store ledger stationId underwriter now a b)
        (forUnderwriter store ledger stationId underwriter now (b + 1) c) := by
  intro hall
  have htotals := (hall sampleStore midnight "brookfield" "Carter & Sons, LLC" 864000000000 0 0 1
    (le_refl 0) (by decide)).airings
  have hbilled : (sampleAffidavit midnight 0 1).totalAirings = 1 ∧
      (sampleAffidavit midnight 0 0).totalAirings = 1 ∧
      (sampleAffidavit midnight (0 + 1) 1).totalAirings = 1 := by decide +kernel
  rw [hbilled.1, hbilled.2.1, hbilled.2.2] at htotals
  cases htotals

end CivicCast.Underwriting
