import CivicCast.Lib.Python

/-! # The published schedule and its loop

The schedule half of `source_plan.py`: which rows are playable, the last
contiguous pass of them, the pass shifted into the cycle of an instant, and
the guide that projects the pass into a window.

Instants are integers, microseconds in UTC, and a slot is half open. With
positive durations the occurrences of one pass tile the time line: each cycle
lies between two consecutive multiples of the period, so exactly one cycle can
cover an instant. Playout finds that cycle by a division, the guide by walking
from the cycle of the window's start; they agree on every instant of the window
(`guide_agrees_with_playout`).

The pass itself is cut by comparing each row with the one before it, so a row
nested in a longer one can cut a pass that has no gap
(`contiguousScheduleRun_complete_iff`).
-/

namespace CivicCast.Egress

open Lib List

/-! ## Rows -/

inductive ScheduleState where
  | scheduled
  | cancelled
  | published
deriving DecidableEq

inductive ScheduleMode where
  | premiere
  | embargo
deriving DecidableEq

/-- `ScheduleItemResponse`, as far as playout reads it; `id` is `str(item.id)`. -/
structure ScheduleItem where
  id : Text
  channelId : Text
  state : ScheduleState := .published
  mode : ScheduleMode := .premiere
  scheduledAt : ℤ
  durationSeconds : Option ℕ
  assetId : Text := []
  assetTitle : Option Text := none
deriving DecidableEq

/-- `timedelta(seconds=n)` in microseconds. -/
def microseconds (seconds : ℤ) : ℤ := seconds * 1000000

namespace ScheduleItem

/-- `scheduled_at + timedelta(seconds=duration_seconds or 0)`. -/
def endsAt (i : ScheduleItem) : ℤ := i.scheduledAt + microseconds (i.durationSeconds.getD 0)

/-- `model_copy` with a later start. -/
def shift (offset : ℤ) (i : ScheduleItem) : ScheduleItem :=
  { i with scheduledAt := i.scheduledAt + offset }

/-- The slot is open at `t`. -/
def covers (t : ℤ) (i : ScheduleItem) : Bool := i.scheduledAt ≤ t ∧ t < i.endsAt

/-- The sort key `(scheduled_at, str(id))`. -/
def key (i : ScheduleItem) : ℤ ×ₗ Text := toLex (i.scheduledAt, i.id)

end ScheduleItem

/-- `sorted(items, key=...)`, which is stable. -/
def sortItems (items : List ScheduleItem) : List ScheduleItem :=
  items.insertionSort fun a b => a.key ≤ b.key

/-! ## The pass -/

/-- The loop of `_contiguous_schedule_run` after `previous`: the index of the
last row that starts after a break. -/
def lastBreak (gapTolerance : ℤ) (previous : ScheduleItem) :
    List ScheduleItem → (index start : ℕ) → ℕ
  | [], _, start => start
  | item :: rest, index, start =>
    lastBreak gapTolerance item rest (index + 1)
      (if previous.endsAt + gapTolerance < item.scheduledAt then index else start)

def contiguousScheduleRun (items : List ScheduleItem) (gapTolerance : ℤ) : List ScheduleItem :=
  match sortItems items with
  | [] => []
  | first :: rest => (first :: rest).drop (lastBreak gapTolerance first rest 1 0)

/-- `max(...)` of the slot ends of a non-empty list. -/
def latestEnd (first : ScheduleItem) (rest : List ScheduleItem) : ℤ :=
  rest.foldl (fun m i => max m i.endsAt) first.endsAt

/-- The body of `_repeat_schedule_cycle` on its pass. -/
def shiftIntoCycle (currentTime : ℤ) : List ScheduleItem → List ScheduleItem
  | [] => []
  | first :: rest =>
    let anchor := first.scheduledAt
    let period := latestEnd first rest - anchor
    if period ≤ 0 ∨ currentTime < anchor then first :: rest
    else (first :: rest).map (ScheduleItem.shift ((currentTime - anchor) / period * period))

def repeatScheduleCycle (items : List ScheduleItem) (currentTime : ℤ) (gapTolerance : ℤ) :
    List ScheduleItem :=
  shiftIntoCycle currentTime (contiguousScheduleRun (sortItems items) gapTolerance)

def defaultGapTolerance : ℤ := microseconds 1

/-- The Commit-to-Air gate of `_playable_items`. -/
def ScheduleItem.playable (channelId : Text) (i : ScheduleItem) : Bool :=
  i.channelId = channelId ∧ i.state = .published ∧ i.mode = .premiere ∧ i.durationSeconds.isSome

def playableItems (channelId : Text) (items : List ScheduleItem) (loopSchedule : Bool)
    (now : ℤ) : List ScheduleItem :=
  let airable := sortItems (items.filter (ScheduleItem.playable channelId))
  if loopSchedule ∧ airable ≠ [] then repeatScheduleCycle airable now defaultGapTolerance
  else airable

def currentItemIndex (items : List ScheduleItem) (currentTime : ℤ) : Option ℕ :=
  items.findIdx? (ScheduleItem.covers currentTime)

/-! ## The guide -/

inductive WindowError where
  | badWindow
deriving DecidableEq

/-- One round of the projection loop. -/
def projectPass (items : List ScheduleItem) (starts ends offset : ℤ) : List ScheduleItem :=
  (items.map (ScheduleItem.shift offset)).filter fun i => i.scheduledAt ≤ ends ∧ starts < i.endsAt

/-- The `while` of `schedule_items_in_window`; `anchor` is the first row's
start. -/
def projectFrom (items : List ScheduleItem) (anchor period : ℤ) (loopSchedule : Bool)
    (starts ends offset : ℤ) : List ScheduleItem :=
  if anchor + offset ≤ ends then
    -- one round, unless the schedule loops with a period to loop by
    if loopSchedule = false ∨ period ≤ 0 then projectPass items starts ends offset
    else projectPass items starts ends offset ++
      projectFrom items anchor period loopSchedule starts ends (offset + period)
  else []
termination_by (ends + 1 - anchor - offset).toNat
decreasing_by omega

def scheduleItemsInWindow (channelId : Text) (items : List ScheduleItem) (starts ends : ℤ)
    (loopSchedule : Bool) : Except WindowError (List ScheduleItem) :=
  if ends < starts ∨ microseconds (14 * 24 * 3600) < ends - starts then .error .badWindow
  else
    match playableItems channelId items loopSchedule starts with
    | [] => .ok []
    | first :: rest =>
      .ok (projectFrom (first :: rest) first.scheduledAt
        (latestEnd first rest - first.scheduledAt) loopSchedule starts ends 0)

/-! ## Sorting and the pass -/

instance : Std.Total fun a b : ScheduleItem => a.key ≤ b.key := ⟨fun a b => le_total a.key b.key⟩

instance : IsTrans ScheduleItem fun a b => a.key ≤ b.key := ⟨fun _ _ _ => le_trans⟩

variable {items : List ScheduleItem} {t : ℤ} {channelId : Text} {first : ScheduleItem}
  {rest : List ScheduleItem} {period starts ends : ℤ} {loop : Bool} {i : ScheduleItem} {anchor : ℤ}

lemma ScheduleItem.start_le_of_key {a b : ScheduleItem} (h : a.key ≤ b.key) :
    a.scheduledAt ≤ b.scheduledAt := by
  rcases Prod.Lex.le_iff.mp h with h | h
  · exact le_of_lt h
  · exact le_of_eq h.1

lemma sortItems_sorted (items : List ScheduleItem) :
    (sortItems items).Pairwise fun a b => a.key ≤ b.key :=
  pairwise_insertionSort _ items

lemma sortItems_perm (items : List ScheduleItem) : (sortItems items).Perm items :=
  perm_insertionSort _ items

lemma sortItems_idem (items : List ScheduleItem) : sortItems (sortItems items) = sortItems items :=
  (sortItems_sorted items).insertionSort_eq

lemma lastBreak_le (tol : ℤ) (rest : List ScheduleItem) :
    ∀ previous index start, start < index → lastBreak tol previous rest index start <
      index + rest.length := by
  induction rest with
  | nil => intro previous index start h; exact h
  | cons item rest ih =>
    intro previous index start h
    rw [lastBreak, length_cons]
    have hnext :
        (if previous.endsAt + tol < item.scheduledAt then index else start) < index + 1 := by
      split_ifs <;> omega
    have := ih item (index + 1) _ hnext
    omega

/-- The pass is a suffix of the sorted rows, and not empty unless they are. -/
lemma contiguousScheduleRun_suffix (items : List ScheduleItem) (tol : ℤ) :
    contiguousScheduleRun items tol <:+ sortItems items ∧
      (items ≠ [] → contiguousScheduleRun items tol ≠ []) := by
  have hperm := sortItems_perm items
  unfold contiguousScheduleRun
  cases hsorted : sortItems items with
  | nil =>
    rw [hsorted] at hperm
    exact ⟨suffix_refl _, fun hne => absurd hperm.symm.eq_nil hne⟩
  | cons first rest =>
    refine ⟨drop_suffix _ _, fun _ hnil => ?_⟩
    have hlt := lastBreak_le tol rest first 1 0 (by omega)
    have hle := drop_eq_nil_iff.mp hnil
    rw [length_cons] at hle
    omega

/-! ## Completeness of the pass -/

/-- Each row starts no later than `tol` after the end of the row before it. -/
def Chained (tol : ℤ) (items : List ScheduleItem) : Prop :=
  items.IsChain fun previous item => item.scheduledAt ≤ previous.endsAt + tol

lemma lastBreak_ge (tol : ℤ) (rest : List ScheduleItem) :
    ∀ previous index start, start ≤ index → start ≤ lastBreak tol previous rest index start := by
  induction rest with
  | nil => intro previous index start _; exact le_refl _
  | cons item rest ih =>
    intro previous index start h
    rw [lastBreak]
    split_ifs
    · exact le_trans h (ih item (index + 1) index (by omega))
    · exact ih item (index + 1) start (by omega)

lemma lastBreak_eq_iff (tol : ℤ) (rest : List ScheduleItem) :
    ∀ previous index start, start < index →
      (lastBreak tol previous rest index start = start ↔ Chained tol (previous :: rest)) := by
  induction rest with
  | nil =>
    intro previous index start _
    exact iff_of_true rfl (.singleton _)
  | cons item rest ih =>
    intro previous index start h
    unfold Chained
    rw [lastBreak, isChain_cons_cons]
    by_cases hbreak : previous.endsAt + tol < item.scheduledAt
    · -- a break: the scan has moved past `start` for good
      rw [if_pos hbreak]
      have hge := lastBreak_ge tol rest item (index + 1) index (by omega)
      constructor
      · intro heq
        omega
      · rintro ⟨hle, -⟩
        omega
    -- no break here, so the chain is decided by the rest
    · rw [if_neg hbreak, ih item (index + 1) start (by omega)]
      constructor
      · intro hchain
        exact ⟨by omega, hchain⟩
      · rintro ⟨-, hchain⟩
        exact hchain

/-- The pass keeps every row exactly when the sorted rows are a chain. -/
lemma contiguousScheduleRun_length_iff (items : List ScheduleItem) (tol : ℤ) :
    (contiguousScheduleRun items tol).length = items.length ↔ Chained tol (sortItems items) := by
  have hlength := (sortItems_perm items).length_eq
  unfold contiguousScheduleRun
  cases hsorted : sortItems items with
  | nil =>
    rw [hsorted] at hlength
    exact iff_of_true hlength .nil
  | cons first rest =>
    rw [hsorted] at hlength
    rw [← lastBreak_eq_iff tol rest first 1 0 (by omega), length_drop, ← hlength, length_cons]
    omega

lemma shiftIntoCycle_ids (now : ℤ) (items : List ScheduleItem) :
    (shiftIntoCycle now items).map ScheduleItem.id = items.map ScheduleItem.id := by
  cases items with
  | nil => rfl
  | cons first rest =>
    unfold shiftIntoCycle
    dsimp only
    split_ifs
    · rfl
    · rw [map_map]
      rfl

/-- Between the earliest start and the latest end, no stretch longer than
`tol` is free of slots. -/
def Covered (tol : ℤ) (items : List ScheduleItem) : Prop :=
  ∀ x y, x < y → (∃ i ∈ items, i.scheduledAt ≤ x) → (∃ i ∈ items, y ≤ i.endsAt) →
    (∀ i ∈ items, i.endsAt ≤ x ∨ y ≤ i.scheduledAt) → y - x ≤ tol

/-- The pass is the whole list, and a cycle repeats all of it, exactly when
each row starts within the tolerance of the end of the row right before it in
`(start, id)` order. -/
theorem contiguousScheduleRun_complete_iff (items : List ScheduleItem) (tol : ℤ) :
    ((contiguousScheduleRun items tol).Perm items ↔ Chained tol (sortItems items)) ∧
    ∀ now, ((repeatScheduleCycle items now tol).map ScheduleItem.id).Perm
      (items.map ScheduleItem.id) ↔ Chained tol (sortItems items) := by
  have hsuffix := contiguousScheduleRun_suffix items tol
  have hlength := contiguousScheduleRun_length_iff items tol
  have hsorted := sortItems_perm items
  -- a suffix of full length is the whole list
  have hwhole : Chained tol (sortItems items) →
      contiguousScheduleRun items tol = sortItems items := by
    intro hchain
    exact hsuffix.1.eq_of_length ((hlength.mpr hchain).trans hsorted.length_eq.symm)
  constructor
  · constructor
    · intro hperm
      exact hlength.mp hperm.length_eq
    · intro hchain
      rw [hwhole hchain]
      exact hsorted
  · intro now
    have hrun : contiguousScheduleRun (sortItems items) tol = contiguousScheduleRun items tol := by
      unfold contiguousScheduleRun
      rw [sortItems_idem]
    rw [repeatScheduleCycle, hrun, shiftIntoCycle_ids]
    constructor
    · intro hperm
      have hle := hperm.length_eq
      rw [length_map, length_map] at hle
      exact hlength.mp hle
    · intro hchain
      rw [hwhole hchain]
      exact hsorted.map _

/-- A row, a short one inside it, and a third that is also inside it. -/
def nestedRows : List ScheduleItem :=
  [{ id := "a".toList, channelId := [], scheduledAt := 0, durationSeconds := some 100 },
    { id := "b".toList, channelId := [], scheduledAt := microseconds 10,
      durationSeconds := some 10 },
    { id := "c".toList, channelId := [], scheduledAt := microseconds 50,
      durationSeconds := some 10 }]

/-- There is no gap at all, and yet the pass is cut before the third row. -/
theorem nested_rows_cut_the_pass :
    ¬ ∀ (channelId : Text) (items : List ScheduleItem) (tol : ℤ), items ≠ [] → 0 ≤ tol →
      (∀ i ∈ items, i.playable channelId = true) → Covered tol items →
      (contiguousScheduleRun items tol).Perm items := by
  intro h
  have hcovered : Covered (microseconds 1) nestedRows := by
    intro x y hxy hstart hend hfree
    simp only [nestedRows, mem_cons, not_mem_nil, or_false, forall_eq_or_imp, forall_eq,
      exists_eq_or_imp, exists_eq_left, ScheduleItem.endsAt, microseconds, Option.getD_some]
      at hstart hend hfree
    omega
  have hperm := h [] nestedRows (microseconds 1) (by decide) (by decide) (by decide) hcovered
  have hlength := hperm.length_eq
  revert hlength
  decide +kernel

/-! ## The tiling -/

namespace ScheduleItem

@[simp] lemma scheduledAt_shift (o : ℤ) (i : ScheduleItem) :
    (i.shift o).scheduledAt = i.scheduledAt + o := rfl

@[simp] lemma endsAt_shift (o : ℤ) (i : ScheduleItem) : (i.shift o).endsAt = i.endsAt + o := by
  unfold endsAt shift
  ring

@[simp] lemma shift_zero (i : ScheduleItem) : i.shift 0 = i := by
  unfold shift
  rw [Int.add_zero]

lemma shift_shift (a b : ℤ) (i : ScheduleItem) : (i.shift a).shift b = i.shift (a + b) := by
  unfold shift
  rw [Int.add_assoc]

lemma map_shift_zero (items : List ScheduleItem) : items.map (shift 0) = items := by
  induction items with
  | nil => rfl
  | cons i items ih => rw [map_cons, ih, shift_zero]

lemma covers_iff {i : ScheduleItem} : i.covers t = true ↔ i.scheduledAt ≤ t ∧ t < i.endsAt := by
  unfold covers
  rw [decide_eq_true_eq]

end ScheduleItem

lemma foldl_max_endsAt_shift (o : ℤ) (rest : List ScheduleItem) : ∀ m : ℤ,
    (rest.map (ScheduleItem.shift o)).foldl (fun m i => max m i.endsAt) (m + o) =
      rest.foldl (fun m i => max m i.endsAt) m + o := by
  induction rest with
  | nil => intro m; rfl
  | cons i rest ih =>
    intro m
    rw [map_cons, foldl_cons, foldl_cons, ScheduleItem.endsAt_shift, max_add_add_right, ih]

lemma latestEnd_shift (o : ℤ) (first : ScheduleItem) (rest : List ScheduleItem) :
    latestEnd (first.shift o) (rest.map (ScheduleItem.shift o)) = latestEnd first rest + o := by
  unfold latestEnd
  rw [ScheduleItem.endsAt_shift, foldl_max_endsAt_shift]

lemma le_foldl_max (rest : List ScheduleItem) : ∀ m : ℤ,
    m ≤ rest.foldl (fun m i => max m i.endsAt) m ∧
      ∀ i ∈ rest, i.endsAt ≤ rest.foldl (fun m i => max m i.endsAt) m := by
  induction rest with
  | nil => intro m; exact ⟨le_refl _, nofun⟩
  | cons i rest ih =>
    intro m
    rcases ih (max m i.endsAt) with ⟨hm, hrest⟩
    rw [foldl_cons]
    refine ⟨le_trans (le_max_left _ _) hm, fun j hj => ?_⟩
    rcases mem_cons.mp hj with rfl | hj
    · exact le_trans (le_max_right _ _) hm
    · exact hrest j hj

lemma endsAt_le_latestEnd (hi : i ∈ first :: rest) : i.endsAt ≤ latestEnd first rest := by
  rcases le_foldl_max rest first.endsAt with ⟨hfirst, hrest⟩
  rcases mem_cons.mp hi with rfl | hi
  · exact hfirst
  · exact hrest i hi

/-- Rows that fit one tile: they start at or after `anchor` and end within
`period` of it. -/
structure Tile (anchor period : ℤ) (items : List ScheduleItem) : Prop where
  pos : 0 < period
  starts : ∀ i ∈ items, anchor ≤ i.scheduledAt
  ends : ∀ i ∈ items, i.endsAt ≤ anchor + period

lemma Tile.shift (h : Tile anchor period items)
    (o : ℤ) : Tile (anchor + o) period (items.map (ScheduleItem.shift o)) := by
  refine ⟨h.pos, fun i hi => ?_, fun i hi => ?_⟩
  · rcases mem_map.mp hi with ⟨j, hj, rfl⟩
    have := h.starts j hj
    rw [ScheduleItem.scheduledAt_shift]
    omega
  · rcases mem_map.mp hi with ⟨j, hj, rfl⟩
    have := h.ends j hj
    rw [ScheduleItem.endsAt_shift]
    omega

lemma Tile.filter_eq_nil (h : Tile anchor period items) (ht : t < anchor ∨ anchor + period ≤ t) :
    items.filter (ScheduleItem.covers t) = [] := by
  rw [filter_eq_nil_iff]
  intro i hi hcovers
  rcases ScheduleItem.covers_iff.mp hcovers with ⟨hstart, hend⟩
  have := h.starts i hi
  have := h.ends i hi
  omega

section Projection

variable {items : List ScheduleItem} {anchor period starts ends t : ℤ}

/-- Inside the window, the window's own filter drops nothing that covers. -/
lemma projectPass_filter (hst : starts ≤ t) (hte : t ≤ ends) (o : ℤ) :
    (projectPass items starts ends o).filter (ScheduleItem.covers t) =
      (items.map (ScheduleItem.shift o)).filter (ScheduleItem.covers t) := by
  unfold projectPass
  rw [filter_filter]
  refine filter_congr fun i _ => ?_
  rw [Bool.and_eq_left_iff_imp]
  intro hcovers
  rcases ScheduleItem.covers_iff.mp hcovers with ⟨hstart, hend⟩
  rw [decide_eq_true_eq]
  omega

/-- Rounds after the instant's tile contribute nothing. -/
lemma projectFrom_filter_late (h : Tile anchor period items) (hst : starts ≤ t)
    (hte : t ≤ ends) (loop : Bool) {o : ℤ} (ht : t < anchor + o) :
    (projectFrom items anchor period loop starts ends o).filter (ScheduleItem.covers t) = [] := by
  have hpass : ∀ o, t < anchor + o →
      (projectPass items starts ends o).filter (ScheduleItem.covers t) = [] := by
    intro o ho
    rw [projectPass_filter hst hte, (h.shift o).filter_eq_nil (.inl ho)]
  fun_induction projectFrom items anchor period loop starts ends o with
  | case1 o _ _ => exact hpass o ht
  | case2 o _ _ ih =>
    rw [filter_append, hpass o ht, ih (by omega)]
    rfl
  | case3 o _ => rfl

/-- The round of the instant's tile, `n` rounds ahead, is the one that
counts. -/
lemma projectFrom_filter (h : Tile anchor period items) (hst : starts ≤ t) (hte : t ≤ ends)
    (n : ℕ) : ∀ o, anchor + o + n * period ≤ t → t < anchor + o + (n + 1) * period →
      (projectFrom items anchor period true starts ends o).filter (ScheduleItem.covers t) =
        (items.map (ScheduleItem.shift (o + n * period))).filter (ScheduleItem.covers t) := by
  have hpos := h.pos
  induction n with
  | zero =>
    intro o hlow hhigh
    -- on the rounds before the instant's own: each of them misses it by the tiling
    have hlate : t < anchor + (o + period) := by
      push_cast at hhigh
      linarith
    rw [projectFrom, if_pos (by omega), if_neg (by simp; omega), filter_append,
      projectPass_filter hst hte, projectFrom_filter_late h hst hte true hlate]
    simp
  | succ n ih =>
    intro o hlow hhigh
    have hn : (0 : ℤ) ≤ n * period := by positivity
    push_cast at hlow hhigh
    have hnil : (projectPass items starts ends o).filter (ScheduleItem.covers t) = [] := by
      rw [projectPass_filter hst hte]
      refine (h.shift o).filter_eq_nil (.inr ?_)
      linarith
    rw [projectFrom, if_pos (by linarith), if_neg (by simp; omega), filter_append, hnil,
      nil_append, ih (o + period) (by linarith) (by linarith)]
    have hoffset : o + period + n * period = o + ((n + 1 : ℕ) : ℤ) * period := by
      push_cast
      ring
    rw [hoffset]

end Projection

/-! ## The guide and playout -/

/-- A sorted pass of rows with open slots is a tile of its own length. -/
lemma tile_of_sorted (hsorted : (first :: rest).Pairwise fun a b => a.key ≤ b.key)
    (hpos : ∀ i ∈ first :: rest, i.scheduledAt < i.endsAt) :
    Tile first.scheduledAt (latestEnd first rest - first.scheduledAt) (first :: rest) := by
  refine ⟨?_, fun i hi => ?_, fun i hi => ?_⟩
  · have hend : first.endsAt ≤ latestEnd first rest := endsAt_le_latestEnd mem_cons_self
    have hopen := hpos first mem_cons_self
    omega
  · rcases mem_cons.mp hi with rfl | hi
    · exact le_refl _
    · exact ScheduleItem.start_le_of_key (rel_of_pairwise_cons hsorted hi)
  · have := endsAt_le_latestEnd hi
    omega

section Cycle

variable {first : ScheduleItem} {rest : List ScheduleItem} {starts ends t : ℤ}

variable (h : Tile first.scheduledAt (latestEnd first rest - first.scheduledAt) (first :: rest))
include h

lemma shiftIntoCycle_filter_before (ht : t < first.scheduledAt) :
    (shiftIntoCycle t (first :: rest)).filter (ScheduleItem.covers t) = [] := by
  unfold shiftIntoCycle
  dsimp only
  rw [if_pos (.inr ht)]
  exact h.filter_eq_nil (.inl ht)

lemma shiftIntoCycle_after (ht : first.scheduledAt ≤ t) :
    shiftIntoCycle t (first :: rest) = (first :: rest).map (ScheduleItem.shift
      ((t - first.scheduledAt) / (latestEnd first rest - first.scheduledAt) *
        (latestEnd first rest - first.scheduledAt))) := by
  have hpos := h.pos
  unfold shiftIntoCycle
  dsimp only
  rw [if_neg (by omega)]

omit h

/-- Walking on from a base cycle at or before `t` reaches the cycle that the
division finds. -/
lemma projectFrom_cycle {anchor : ℤ} (h : Tile anchor period items) (hst : starts ≤ t)
    (hte : t ≤ ends) (m : ℤ) (hm : anchor + m * period ≤ t) :
    (projectFrom (items.map (ScheduleItem.shift (m * period))) (anchor + m * period) period true
        starts ends 0).filter (ScheduleItem.covers t) =
      (items.map (ScheduleItem.shift ((t - anchor) / period * period))).filter
        (ScheduleItem.covers t) := by
  have hpos := h.pos
  have hlow : (t - anchor) / period * period ≤ t - anchor := Int.ediv_mul_le _ (by omega)
  have hhigh : t - anchor < ((t - anchor) / period + 1) * period :=
    Int.lt_ediv_add_one_mul_self _ hpos
  -- the number of rounds from the base cycle
  have hle : m ≤ (t - anchor) / period := (Int.le_ediv_iff_mul_le hpos).mpr (by omega)
  rcases Int.le.dest hle with ⟨n, hn⟩
  have hn' : (t - anchor) / period * period = m * period + n * period := by
    rw [← hn]
    ring
  have hn'' : ((t - anchor) / period + 1) * period = m * period + (n + 1) * period := by
    rw [← hn]
    ring
  rw [projectFrom_filter (h.shift (m * period)) hst hte n 0 (by omega) (by omega), map_map,
    hn', Int.zero_add]
  congr 1
  refine map_congr_left fun i _ => ?_
  exact ScheduleItem.shift_shift _ _ i

/-- The guide of a cycle shifted to the window's start covers `t` with exactly
the rows of the cycle shifted to `t`. -/
lemma guide_of_cycle
    (h : Tile first.scheduledAt (latestEnd first rest - first.scheduledAt) (first :: rest))
    (hst : starts ≤ t) (hte : t ≤ ends) : ∃ first' rest',
    shiftIntoCycle starts (first :: rest) = first' :: rest' ∧
      (projectFrom (first' :: rest') first'.scheduledAt
        (latestEnd first' rest' - first'.scheduledAt) true starts ends 0).filter
        (ScheduleItem.covers t) =
      (shiftIntoCycle t (first :: rest)).filter (ScheduleItem.covers t) := by
  by_cases hs : starts < first.scheduledAt
  · -- the window opens before the anchor: the base cycle is the pass itself
    refine ⟨first, rest, ?_, ?_⟩
    · unfold shiftIntoCycle
      dsimp only
      rw [if_pos (.inr hs)]
    · by_cases ht : t < first.scheduledAt
      · rw [shiftIntoCycle_filter_before h ht]
        exact projectFrom_filter_late h hst hte true (by omega)
      · rw [shiftIntoCycle_after h (by omega)]
        have hcycle := projectFrom_cycle h hst hte 0 (by omega)
        rw [Int.zero_mul, Int.add_zero, ScheduleItem.map_shift_zero] at hcycle
        exact hcycle
  · refine ⟨_, _, shiftIntoCycle_after h (by omega), ?_⟩
    -- the base cycle is the one the division finds for the window's start
    have hbase : (starts - first.scheduledAt) / (latestEnd first rest - first.scheduledAt) *
        (latestEnd first rest - first.scheduledAt) ≤ starts - first.scheduledAt :=
      Int.ediv_mul_le _ (by have := h.pos; omega)
    rw [shiftIntoCycle_after h (by omega), latestEnd_shift, ScheduleItem.scheduledAt_shift,
      add_sub_add_right_eq_sub]
    exact projectFrom_cycle h hst hte _ (by omega)

end Cycle

/-- One pass that is not repeated shows what covers an instant of the window. -/
lemma guide_of_pass
    (h : Tile first.scheduledAt period (first :: rest)) (hst : starts ≤ t) (hte : t ≤ ends) :
    (projectFrom (first :: rest) first.scheduledAt period false starts ends 0).filter
        (ScheduleItem.covers t) = (first :: rest).filter (ScheduleItem.covers t) := by
  rw [projectFrom]
  by_cases hlate : first.scheduledAt + 0 ≤ ends
  · rw [if_pos hlate, if_pos (.inl rfl), projectPass_filter hst hte, ScheduleItem.map_shift_zero]
  · -- the pass starts after the window
    rw [if_neg hlate, h.filter_eq_nil (.inl (by omega))]
    rfl

lemma open_of_playable (hplayable : i.playable channelId = true)
    (hpos : ∀ d, i.durationSeconds = some d → 0 < d) : i.scheduledAt < i.endsAt := by
  unfold ScheduleItem.playable at hplayable
  rw [decide_eq_true_eq] at hplayable
  rcases Option.isSome_iff_exists.mp hplayable.2.2.2 with ⟨d, hd⟩
  have := hpos d hd
  unfold ScheduleItem.endsAt microseconds
  rw [hd, Option.getD_some]
  omega

lemma currentItemIndex_covers {index : ℕ}
    {item : ScheduleItem} (hindex : currentItemIndex items t = some index)
    (hitem : items[index]? = some item) : item ∈ items.filter (ScheduleItem.covers t) := by
  rcases findIdx?_eq_some_iff_getElem.mp hindex with ⟨hlt, hcovers, -⟩
  rcases List.getElem?_eq_some_iff.mp hitem with ⟨-, rfl⟩
  exact mem_filter.mpr ⟨getElem_mem hlt, hcovers⟩

/-- The pass a looped channel repeats: a sorted run of its playable rows. -/
lemma playableItems_loop (hne : sortItems (items.filter (ScheduleItem.playable channelId)) ≠ []) :
    ∃ first rest, (first :: rest).Pairwise (fun a b => a.key ≤ b.key) ∧
      (∀ i ∈ first :: rest, i ∈ items ∧ i.playable channelId = true) ∧
      ∀ now, playableItems channelId items true now = shiftIntoCycle now (first :: rest) := by
  have hplayable : ∀ now, playableItems channelId items true now = shiftIntoCycle now
      (contiguousScheduleRun (sortItems (sortItems
        (items.filter (ScheduleItem.playable channelId)))) defaultGapTolerance) := by
    intro now
    unfold playableItems
    rw [if_pos ⟨rfl, hne⟩, repeatScheduleCycle]
  obtain ⟨hsuffix, hrun⟩ := contiguousScheduleRun_suffix (sortItems (sortItems
    (items.filter (ScheduleItem.playable channelId)))) defaultGapTolerance
  rw [sortItems_idem] at hsuffix hrun hplayable
  rw [sortItems_idem] at hsuffix
  rcases exists_cons_of_ne_nil (hrun hne) with ⟨first, rest, hpass⟩
  rw [hpass] at hsuffix hplayable
  refine ⟨first, rest, (sortItems_sorted _).sublist hsuffix.sublist, ?_, hplayable⟩
  intro i hi
  exact mem_filter.mp ((sortItems_perm _).mem_iff.mp (hsuffix.mem hi))

lemma playableItems_once
    (h : ¬ (loop = true ∧ sortItems (items.filter (ScheduleItem.playable channelId)) ≠ []))
    (now : ℤ) : playableItems channelId items loop now =
      sortItems (items.filter (ScheduleItem.playable channelId)) := by
  unfold playableItems
  rw [if_neg h]

lemma guide_filter (hpos : ∀ i ∈ items, ∀ d, i.durationSeconds = some d → 0 < d)
    (hdays : ends - starts ≤ microseconds (14 * 24 * 3600)) (hst : starts ≤ t) (hte : t ≤ ends) :
    ∃ guide, scheduleItemsInWindow channelId items starts ends loop = .ok guide ∧
      guide.filter (ScheduleItem.covers t) =
        (playableItems channelId items loop t).filter (ScheduleItem.covers t) := by
  have hwindow : ¬ (ends < starts ∨ microseconds (14 * 24 * 3600) < ends - starts) := by omega
  unfold scheduleItemsInWindow
  rw [if_neg hwindow]
  by_cases hloop : loop = true ∧ sortItems (items.filter (ScheduleItem.playable channelId)) ≠ []
  · -- looping: both sides shift the same pass
    rcases hloop with ⟨rfl, hne⟩
    rcases playableItems_loop hne with ⟨first, rest, hsorted, hrows, hplayable⟩
    have htile := tile_of_sorted hsorted fun i hi =>
      open_of_playable (hrows i hi).2 (hpos i (hrows i hi).1)
    rcases guide_of_cycle htile hst hte with ⟨first', rest', hbase, hguide⟩
    rw [hplayable, hplayable, hbase]
    exact ⟨_, rfl, hguide⟩
  -- one pass, and the guide shows it once
  · rw [playableItems_once hloop, playableItems_once hloop]
    have hsorted := sortItems_sorted (items.filter (ScheduleItem.playable channelId))
    have hopen : ∀ i ∈ sortItems (items.filter (ScheduleItem.playable channelId)),
        i.scheduledAt < i.endsAt := by
      intro i hi
      rcases mem_filter.mp ((sortItems_perm _).mem_iff.mp hi) with ⟨hmem, hplayable⟩
      exact open_of_playable hplayable (hpos i hmem)
    cases hairable : sortItems (items.filter (ScheduleItem.playable channelId)) with
    | nil => exact ⟨[], rfl, rfl⟩
    | cons first rest =>
      rw [hairable] at hsorted hopen hloop
      have honce : loop = false := by
        by_contra htrue
        exact hloop ⟨by simpa using htrue, cons_ne_nil _ _⟩
      rw [honce]
      exact ⟨_, rfl, guide_of_pass (tile_of_sorted hsorted hopen) hst hte⟩

/-- The occurrences of the guide that are open at an instant of its window are
those playout sees at that instant, row for row and start for start; so the row
playout picks as current is in the guide. -/
theorem guide_agrees_with_playout (hpos : ∀ i ∈ items, ∀ d, i.durationSeconds = some d → 0 < d)
    (hdays : ends - starts ≤ microseconds (14 * 24 * 3600)) (hst : starts ≤ t) (hte : t ≤ ends) :
    ∃ guide, scheduleItemsInWindow channelId items starts ends loop = .ok guide ∧
      guide.filter (ScheduleItem.covers t) =
        (playableItems channelId items loop t).filter (ScheduleItem.covers t) ∧
      ∀ index item, currentItemIndex (playableItems channelId items loop t) t = some index →
        (playableItems channelId items loop t)[index]? = some item → item ∈ guide := by
  rcases guide_filter hpos hdays hst hte with ⟨guide, hok, hguide⟩
  refine ⟨guide, hok, hguide, ?_⟩
  intro index item hindex hitem
  have hcovers := currentItemIndex_covers hindex hitem
  rw [← hguide] at hcovers
  exact mem_of_mem_filter hcovers

/-- A looped pass of two rows, in its second cycle. -/
theorem guide_agrees_with_playout_second_cycle :
    let rows : List ScheduleItem :=
      [{ id := "a".toList, channelId := [], scheduledAt := 0, durationSeconds := some 60 },
        { id := "b".toList, channelId := [], scheduledAt := microseconds 60,
          durationSeconds := some 60 }]
    ∃ guide, scheduleItemsInWindow [] rows (microseconds 150) (microseconds 200) true = .ok guide ∧
      guide.filter (ScheduleItem.covers (microseconds 190)) =
        (playableItems [] rows true (microseconds 190)).filter
          (ScheduleItem.covers (microseconds 190)) ∧
      ∀ index item,
        currentItemIndex (playableItems [] rows true (microseconds 190)) (microseconds 190) =
          some index →
        (playableItems [] rows true (microseconds 190))[index]? = some item → item ∈ guide := by
  intro rows
  refine guide_agrees_with_playout ?_ (by decide) (by decide) (by decide)
  intro i hi d hd
  simp only [rows, mem_cons, not_mem_nil, or_false] at hi
  rcases hi with rfl | rfl <;> cases hd <;> decide

end CivicCast.Egress
