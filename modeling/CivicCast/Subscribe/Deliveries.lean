import CivicCast.Lib.Python

/-!
# Who may send a notice

One row of `notification_delivery_outcomes` per logical delivery. `claim` reads the row; it
inserts it where there is none, which only one caller can do, and otherwise takes the lease by
an update whose condition repeats what was read. `record_attempt` reads the row of a claim that
was granted and writes the result. The retry worker writes results of deliveries that are queued.

The calls of any number of workers are interleaved statement by statement. The clock they share
does not go back, and a claim reads it once, at its start. `one_sender` is about every
interleaving in which no granted claim outlives its lease: a delivery has one sender at a time,
none after it was sent or while it is queued, and its senders record `sent` at most once.
-/

namespace CivicCast.Subscribe.Deliveries

open Lib Function Option

/-- Microseconds. -/
abbrev Time : Type := ℤ

inductive Outcome where
  | pending | sent | failed | queued
  deriving DecidableEq

/-- A row of `notification_delivery_outcomes`, without its identity. -/
structure Row where
  outcome : Outcome
  attempts : ℕ
  errorCode : Option Text
  detail : Text
  retryId : Option Text
  leaseExpiresAt : Option Time
  firstAttemptedAt : Option Time
  lastAttemptedAt : Option Time
  succeededAt : Option Time
  createdAt : Time
  updatedAt : Time
  deriving DecidableEq

/-- What a sender or the retry worker reports. -/
structure Result where
  outcome : Outcome
  errorCode : Option Text
  detail : Text
  retryId : Option Text
  deriving DecidableEq

def newRow (now leaseUntil : Time) : Row where
  outcome := .pending
  attempts := 0
  errorCode := none
  detail := []
  retryId := none
  leaseExpiresAt := some leaseUntil
  firstAttemptedAt := none
  lastAttemptedAt := none
  succeededAt := none
  createdAt := now
  updatedAt := now

/-- `_lease_is_free`, and the same condition in the update of `claim`. -/
def leaseIsFree (row : Row) (now : Time) : Bool := row.leaseExpiresAt.all (· ≤ now)

def mayTakeOver (row : Row) (allowReattempt : Bool) (now : Time) : Bool :=
  match row.outcome with
  | .sent => false
  | .pending => leaseIsFree row now
  | .failed => allowReattempt
  | .queued => false

/-- `_applied`: one attempt more, and no lease. -/
def applied (row : Row) (result : Result) (now : Time) : Row :=
  { row with
    outcome := result.outcome
    attempts := row.attempts + 1
    errorCode := result.errorCode
    detail := result.detail
    retryId := result.retryId
    firstAttemptedAt := some (row.firstAttemptedAt.getD now)
    lastAttemptedAt := some now
    succeededAt := if result.outcome = .sent then some now else row.succeededAt
    leaseExpiresAt := none
    updatedAt := now }

/-- The update a session flushes: the columns in which the row differs from what was loaded. -/
def flush (loaded updated current : Row) : Row where
  outcome := if updated.outcome = loaded.outcome then current.outcome else updated.outcome
  attempts := if updated.attempts = loaded.attempts then current.attempts else updated.attempts
  errorCode := if updated.errorCode = loaded.errorCode then current.errorCode else updated.errorCode
  detail := if updated.detail = loaded.detail then current.detail else updated.detail
  retryId := if updated.retryId = loaded.retryId then current.retryId else updated.retryId
  leaseExpiresAt :=
    if updated.leaseExpiresAt = loaded.leaseExpiresAt then current.leaseExpiresAt
    else updated.leaseExpiresAt
  firstAttemptedAt :=
    if updated.firstAttemptedAt = loaded.firstAttemptedAt then current.firstAttemptedAt
    else updated.firstAttemptedAt
  lastAttemptedAt :=
    if updated.lastAttemptedAt = loaded.lastAttemptedAt then current.lastAttemptedAt
    else updated.lastAttemptedAt
  succeededAt :=
    if updated.succeededAt = loaded.succeededAt then current.succeededAt else updated.succeededAt
  createdAt := if updated.createdAt = loaded.createdAt then current.createdAt else updated.createdAt
  updatedAt := if updated.updatedAt = loaded.updatedAt then current.updatedAt else updated.updatedAt

lemma flush_loaded (loaded updated : Row) : flush loaded updated loaded = updated := by
  cases updated
  simp only [flush, Row.mk.injEq]
  refine ⟨?_, ?_, ?_, ?_, ?_, ?_, ?_, ?_, ?_, ?_, ?_⟩ <;>
  · split
    · rename_i h
      exact h.symm
    · rfl

/-! ## Calls and steps -/

/-- Where the call of a worker is: in `claim`, between a granted claim and its result, or in
`record_attempt`. -/
inductive Phase (K : Type) where
  | claiming (key : K) (allowReattempt : Bool) (now : Time)
  | absent (key : K) (allowReattempt : Bool) (now : Time)
  | beaten (key : K) (allowReattempt : Bool) (now : Time)
  | found (key : K) (now : Time) (current : Row)
  | granted (key : K) (lease : Time)
  | recording (key : K) (lease : Time) (result : Result) (now : Time)
  | writing (key : K) (lease : Time) (result : Result) (now : Time) (loaded : Row)

/-- The claim that is granted and not yet recorded: its delivery and its lease. -/
def Phase.holds {K : Type} : Phase K → Option (K × Time)
  | granted key lease | recording key lease _ _ | writing key lease _ _ _ => some (key, lease)
  | _ => none

inductive Entry (C K : Type) where
  | granted (call : C) (key : K)
  | recorded (call : C) (key : K) (outcome : Outcome)
  | retried (key : K) (outcome : Outcome)
  deriving DecidableEq

/-- The table, the clock, the calls, and a journal of grants and results, the newest first. -/
structure Config (C K : Type) where
  clock : Time
  rows : K → Option Row
  calls : C → Option (Phase K)
  journal : List (Entry C K)

namespace Config

variable {C K : Type} [DecidableEq C] [DecidableEq K]

def withCall (c : Config C K) (i : C) (phase : Option (Phase K)) : Config C K :=
  { c with calls := update c.calls i phase }

def withRow (c : Config C K) (key : K) (row : Row) : Config C K :=
  { c with rows := update c.rows key (some row) }

def log (c : Config C K) (entry : Entry C K) : Config C K :=
  { c with journal := entry :: c.journal }

/-- The condition of the update in `claim`. -/
def stillFree (row current : Row) (now : Time) : Bool :=
  row.outcome = current.outcome && row.attempts = current.attempts && leaseIsFree row now

/-- One statement of one call, a result of the retry worker, or the clock. -/
inductive Step (leaseSeconds : Time) (c : Config C K) : Config C K → Prop
  | tick (t : Time) (h : c.clock ≤ t) : Step leaseSeconds c { c with clock := t }
  | claim (i : C) (key : K) (allowReattempt : Bool) (h : c.calls i = none) :
    Step leaseSeconds c (c.withCall i (some (.claiming key allowReattempt c.clock)))
  | readNone (i : C) {key : K} {allowReattempt : Bool} {now : Time}
    (h : c.calls i = some (.claiming key allowReattempt now)) (hrow : c.rows key = none) :
    Step leaseSeconds c (c.withCall i (some (.absent key allowReattempt now)))
  | insert (i : C) {key : K} {allowReattempt : Bool} {now : Time}
    (h : c.calls i = some (.absent key allowReattempt now)) (hrow : c.rows key = none) :
    Step leaseSeconds c
      (((c.withRow key (newRow now (now + leaseSeconds))).withCall i
        (some (.granted key (now + leaseSeconds)))).log (.granted i key))
  | insertLost (i : C) {key : K} {allowReattempt : Bool} {now : Time}
    (h : c.calls i = some (.absent key allowReattempt now)) (hrow : c.rows key ≠ none) :
    Step leaseSeconds c (c.withCall i (some (.beaten key allowReattempt now)))
  | readRow (i : C) {key : K} {allowReattempt : Bool} {now : Time} {row : Row}
    (h : c.calls i = some (.claiming key allowReattempt now) ∨
      c.calls i = some (.beaten key allowReattempt now))
    (hrow : c.rows key = some row) :
    Step leaseSeconds c
      (c.withCall i
        (if mayTakeOver row allowReattempt now then some (.found key now row) else none))
  | update (i : C) {key : K} {now : Time} {current row : Row}
    (h : c.calls i = some (.found key now current)) (hrow : c.rows key = some row)
    (hfree : stillFree row current now = true) :
    Step leaseSeconds c
      (((c.withRow key
          { row with leaseExpiresAt := some (now + leaseSeconds), updatedAt := now }).withCall i
        (some (.granted key (now + leaseSeconds)))).log (.granted i key))
  | updateLost (i : C) {key : K} {now : Time} {current row : Row}
    (h : c.calls i = some (.found key now current)) (hrow : c.rows key = some row)
    (hfree : stillFree row current now = false) :
    Step leaseSeconds c (c.withCall i none)
  | record (i : C) {key : K} {lease : Time} (result : Result)
    (h : c.calls i = some (.granted key lease)) :
    Step leaseSeconds c (c.withCall i (some (.recording key lease result c.clock)))
  | load (i : C) {key : K} {lease : Time} {result : Result} {now : Time} {row : Row}
    (h : c.calls i = some (.recording key lease result now)) (hrow : c.rows key = some row) :
    Step leaseSeconds c (c.withCall i (some (.writing key lease result now row)))
  | write (i : C) {key : K} {lease : Time} {result : Result} {now : Time} {loaded row : Row}
    (h : c.calls i = some (.writing key lease result now loaded)) (hrow : c.rows key = some row) :
    Step leaseSeconds c
      (((c.withRow key (flush loaded (applied loaded result now) row)).withCall i none).log
        (.recorded i key result.outcome))
  | retryResult {key : K} {row : Row} (retryId : Text) (outcome : Outcome) (detail : Text)
    (now : Time) (hrow : c.rows key = some row) (hid : row.retryId = some retryId)
    (hqueued : row.outcome = .queued) :
    Step leaseSeconds c
      ((c.withRow key (applied row
        ⟨outcome, none, detail, if outcome = .queued then some retryId else none⟩ now)).log
        (.retried key outcome))

/-- No granted claim that is not yet recorded has outlived its lease. -/
def Prompt (c : Config C K) : Prop :=
  ∀ i phase key lease, c.calls i = some phase → phase.holds = some (key, lease) → c.clock < lease

/-- A table as it is found, and nobody at work. -/
def initial (clock : Time) (rows : K → Option Row) : Config C K where
  clock := clock
  rows := rows
  calls _ := none
  journal := []

/-- What is reached in steps after each of which every granted claim is within its lease. -/
inductive Reached (leaseSeconds : Time) (c₀ : Config C K) : Config C K → Prop
  | start : Reached leaseSeconds c₀ c₀
  | step {c c' : Config C K} (h : Reached leaseSeconds c₀ c) (hstep : Step leaseSeconds c c')
    (hprompt : c'.Prompt) : Reached leaseSeconds c₀ c'

end Config

/-! ## Reading the journal -/

namespace Entry

variable {C K : Type} [DecidableEq K] {outcome : Outcome}

def key : Entry C K → K
  | granted _ key | recorded _ key _ | retried key _ => key

def resultOf (key : K) : Entry C K → Option Outcome
  | granted _ _ => none
  | recorded _ key' outcome | retried key' outcome => if key' = key then some outcome else none

/-- A sender's result `sent` of the delivery. -/
def sentBySender (key : K) : Entry C K → Bool
  | recorded _ key' outcome => key' = key && outcome = .sent
  | _ => false

@[simp] lemma resultOf_recorded {call : C} {key : K} :
    (recorded call key outcome).resultOf key = some outcome := if_pos rfl

@[simp] lemma resultOf_retried {key : K} :
    (retried key outcome : Entry C K).resultOf key = some outcome := if_pos rfl

lemma resultOf_of_ne {key : K} {entry : Entry C K} (h : entry.key ≠ key) :
    entry.resultOf key = none := by
  cases entry with
  | granted _ _ => rfl
  | recorded _ _ _ | retried _ _ => exact if_neg h

lemma sent_of_sentBySender {key : K} {entry : Entry C K} (h : entry.sentBySender key = true) :
    entry.resultOf key = some .sent := by
  cases entry with
  | granted _ _ | retried _ _ => cases h
  | recorded _ key' outcome =>
    simp only [sentBySender, Bool.and_eq_true, decide_eq_true_eq] at h
    simp [resultOf, h.1, h.2]

end Entry

section Journal

variable {C K : Type} [DecidableEq K] (rows : K → Option Row)

/-- The outcome of a delivery after a journal: its last result, or what the table said at first. -/
def outcomeAfter (journal : List (Entry C K)) (key : K) : Outcome :=
  (journal.findSome? (Entry.resultOf key)).getD (((rows key).map Row.outcome).getD .pending)

/-- The delivery was sent at some time. -/
def WasSent (journal : List (Entry C K)) (key : K) : Prop :=
  ∃ entry ∈ journal, entry.resultOf key = some .sent

variable {rows} {journal : List (Entry C K)} {entry : Entry C K} {key : K}

lemma outcomeAfter_cons_of_none (h : entry.resultOf key = none) :
    outcomeAfter rows (entry :: journal) key = outcomeAfter rows journal key := by
  simp [outcomeAfter, h]

lemma outcomeAfter_cons_of_some {outcome : Outcome} (h : entry.resultOf key = some outcome) :
    outcomeAfter rows (entry :: journal) key = outcome := by
  simp [outcomeAfter, h]

end Journal

/-! ## The invariant -/

def Row.Open (row : Row) : Prop := row.outcome = .pending ∨ row.outcome = .failed

/-- When a claim that is not decided read the clock. -/
def Phase.startedAt {K : Type} : Phase K → Option Time
  | claiming _ _ now | absent _ _ now | beaten _ _ now | found _ now _ => some now
  | _ => none

variable {row : Row}

lemma Row.Open.ne_sent (h : row.Open) : row.outcome ≠ .sent := by
  rcases h with hpending | hfailed
  · simp [hpending]
  · simp [hfailed]

lemma Row.Open.ne_queued (h : row.Open) : row.outcome ≠ .queued := by
  rcases h with hpending | hfailed
  · simp [hpending]
  · simp [hfailed]

lemma open_of_mayTakeOver {allowReattempt : Bool} {now : Time}
    (h : mayTakeOver row allowReattempt now = true) : row.Open := by
  unfold mayTakeOver at h
  unfold Row.Open
  cases houtcome : row.outcome with
  | pending => exact .inl rfl
  | failed => exact .inr rfl
  | sent | queued => simp [houtcome] at h

namespace Config

variable {C K : Type} [DecidableEq C] [DecidableEq K] {leaseSeconds : Time}
  {rows : K → Option Row} {c c' : Config C K} {i : C} {next : Option (Phase K)} {phase : Phase K}
  {lease : Time}

omit [DecidableEq K] in
@[simp] lemma calls_withCall_self :
    (c.withCall i next).calls i = next := update_self ..

omit [DecidableEq K] in
@[simp] lemma calls_withCall_of_ne {j : C} (h : j ≠ i) :
    (c.withCall i next).calls j = c.calls j := update_of_ne h ..

/-- The call has a granted claim to the delivery that is not yet recorded. -/
def Holds (c : Config C K) (i : C) (key : K) (lease : Time) : Prop :=
  ∃ phase, c.calls i = some phase ∧ phase.holds = some (key, lease)

/-- A claim may be granted: nobody was sent the notice, and it is not queued. -/
def Grantable (rows : K → Option Row) (past : List (Entry C K)) (key : K) : Prop :=
  outcomeAfter rows past key ≠ .sent ∧ outcomeAfter rows past key ≠ .queued ∧ ¬ WasSent past key

/-- The lease in the row is that of the one claim that holds it, what a sender loaded is still
there, and the journal says what the table says. -/
structure Inv (rows : K → Option Row) (c : Config C K) : Prop where
  held : ∀ i key lease, c.Holds i key lease →
    ∃ row, c.rows key = some row ∧ row.leaseExpiresAt = some lease ∧ row.Open
  unique : ∀ i j key lease lease', c.Holds i key lease → c.Holds j key lease' → i = j
  loaded : ∀ i key lease result now row, c.calls i = some (.writing key lease result now row) →
    c.rows key = some row
  started : ∀ i phase now, c.calls i = some phase → phase.startedAt = some now → now ≤ c.clock
  found : ∀ i key now current, c.calls i = some (.found key now current) → current.Open
  present : ∀ key row, c.rows key = some row → row.outcome = outcomeAfter rows c.journal key
  missing : ∀ key, c.rows key = none → outcomeAfter rows c.journal key = .pending
  sent : ∀ key, WasSent c.journal key → ∃ row, c.rows key = some row ∧ row.outcome = .sent
  grants : ∀ i key past, .granted i key :: past <:+ c.journal → Grantable rows past key
  once : ∀ key, c.journal.countP (Entry.sentBySender key) ≤ 1

omit [DecidableEq C] in
lemma inv_initial (clock : Time) : (initial clock rows : Config C K).Inv rows := by
  constructor
  · rintro i key lease ⟨phase, hcall, -⟩
    cases hcall
  · rintro i j key lease lease' ⟨phase, hcall, -⟩
    cases hcall
  · intro i key lease result now row hcall
    cases hcall
  · intro i phase now hcall
    cases hcall
  · intro i key now current hcall
    cases hcall
  · intro key row hrow
    have hrow : rows key = some row := hrow
    simp [outcomeAfter, initial, hrow]
  · intro key hrow
    have hrow : rows key = none := hrow
    simp [outcomeAfter, initial, hrow]
  · rintro key ⟨entry, hentry, -⟩
    cases hentry
  · intro i key past hpast
    simp [initial] at hpast
  · intro key
    simp [initial]

variable (h : c.Inv rows)
include h

omit [DecidableEq C] in
/-- Nobody holds a delivery whose lease is free: a claim that does is within its lease. -/
lemma Inv.not_holds (hprompt : c.Prompt) {key : K} {row : Row} {now : Time}
    (hrow : c.rows key = some row) (hfree : leaseIsFree row now = true) (hnow : now ≤ c.clock)
    (i : C) (lease : Time) : ¬ c.Holds i key lease := by
  rintro ⟨phase, hcall, hholds⟩
  obtain ⟨row', hrow', hlease, -⟩ := h.held i key lease ⟨phase, hcall, hholds⟩
  obtain rfl : row = row' := some.inj (hrow.symm.trans hrow')
  have hlt := hprompt i phase key lease hcall hholds
  simp only [leaseIsFree, hlease, all_some, decide_eq_true_eq] at hfree
  exact absurd ((hfree.trans hnow).trans_lt hlt) (lt_irrefl lease)

/-- A call moves on, or ends: what it then holds is its own, and nobody else's. -/
lemma Inv.withCall
    (hheld : ∀ phase key lease, next = some phase → phase.holds = some (key, lease) →
      (∃ row, c.rows key = some row ∧ row.leaseExpiresAt = some lease ∧ row.Open) ∧
        ∀ j lease', c.Holds j key lease' → j = i)
    (hloaded : ∀ key lease result now row, next = some (.writing key lease result now row) →
      c.rows key = some row)
    (hstarted : ∀ phase now, next = some phase → phase.startedAt = some now → now ≤ c.clock)
    (hfound : ∀ key now current, next = some (.found key now current) → current.Open) :
    (c.withCall i next).Inv rows := by
  have hself : (c.withCall i next).calls i = next := calls_withCall_self
  have hother : ∀ j, j ≠ i → (c.withCall i next).calls j = c.calls j :=
    fun j hj => calls_withCall_of_ne hj
  -- a holder is the call itself, or held before
  have hholds : ∀ j key lease, (c.withCall i next).Holds j key lease →
      (j = i ∧ ∃ phase, next = some phase ∧ phase.holds = some (key, lease)) ∨
        (j ≠ i ∧ c.Holds j key lease) := by
    rintro j key lease ⟨phase, hcall, hphase⟩
    by_cases hj : j = i
    · subst hj
      exact .inl ⟨rfl, phase, hself.symm.trans hcall, hphase⟩
    · exact .inr ⟨hj, phase, (hother j hj).symm.trans hcall, hphase⟩
  constructor
  · intro j key lease hj
    rcases hholds j key lease hj with ⟨rfl, phase, hnext, hphase⟩ | ⟨-, hj⟩
    · exact (hheld phase key lease hnext hphase).1
    · exact h.held j key lease hj
  · intro j k key lease lease' hj hk
    rcases hholds j key lease hj with ⟨rfl, phase, hnext, hphase⟩ | ⟨-, hbefore⟩
    · rcases hholds k key lease' hk with ⟨rfl, -⟩ | ⟨-, hbefore⟩
      · rfl
      · exact ((hheld phase key lease hnext hphase).2 k lease' hbefore).symm
    · rcases hholds k key lease' hk with ⟨rfl, phase, hnext, hphase⟩ | ⟨-, hbefore'⟩
      · exact (hheld phase key lease' hnext hphase).2 j lease hbefore
      · exact h.unique j k key lease lease' hbefore hbefore'
  · intro j key lease result now row hcall
    by_cases hj : j = i
    · subst hj
      exact hloaded key lease result now row (hself.symm.trans hcall)
    · exact h.loaded j key lease result now row ((hother j hj).symm.trans hcall)
  · intro j phase now hcall hnow
    by_cases hj : j = i
    · subst hj
      exact hstarted phase now (hself.symm.trans hcall) hnow
    · exact h.started j phase now ((hother j hj).symm.trans hcall) hnow
  · intro j key now current hcall
    by_cases hj : j = i
    · subst hj
      exact hfound key now current (hself.symm.trans hcall)
    · exact h.found j key now current ((hother j hj).symm.trans hcall)
  · exact h.present
  · exact h.missing
  · exact h.sent
  · exact h.grants
  · exact h.once

lemma Inv.waiting (hholds : phase.holds = none)
    (hstarted : ∀ now, phase.startedAt = some now → now ≤ c.clock)
    (hfound : ∀ key now current, phase = .found key now current → current.Open) :
    (c.withCall i (some phase)).Inv rows := by
  refine h.withCall ?_ ?_ ?_ ?_
  · rintro phase' key lease hphase hheld
    cases hphase
    cases hholds.symm.trans hheld
  · rintro key lease result now row hphase
    cases hphase
    cases hholds
  · rintro phase' now hphase hnow
    cases hphase
    exact hstarted now hnow
  · rintro key now current hphase
    exact hfound key now current (some.inj hphase)

/-- A claim that has yet to read its row, or to insert it. -/
lemma Inv.undecided (hholds : phase.holds = none)
    (hstarted : ∀ now, phase.startedAt = some now → now ≤ c.clock)
    (hfound : ∀ key now current, phase ≠ .found key now current) :
    (c.withCall i (some phase)).Inv rows :=
  h.waiting hholds hstarted fun key now current heq => absurd heq (hfound key now current)

lemma Inv.ended (i : C) : (c.withCall i none).Inv rows := by
  refine h.withCall ?_ ?_ ?_ ?_
  · intro phase key lease hphase
    cases hphase
  · intro key lease result now row hphase
    cases hphase
  · intro phase now hphase
    cases hphase
  · intro key now current hphase
    cases hphase

lemma Inv.holding {next : Phase K} {key : K} (hcall : c.calls i = some phase)
    (hholds : phase.holds = some (key, lease)) (hnext : next.holds = some (key, lease))
    (hloaded : ∀ k l result now row, next = .writing k l result now row → c.rows k = some row) :
    (c.withCall i (some next)).Inv rows := by
  refine h.withCall ?_ ?_ ?_ ?_
  · rintro phase' k l hphase hheld
    cases hphase
    cases hnext.symm.trans hheld
    refine ⟨h.held i key lease ⟨phase, hcall, hholds⟩, ?_⟩
    intro j lease' hj
    exact h.unique j i key lease' lease hj ⟨phase, hcall, hholds⟩
  · rintro k l result now row hphase
    exact hloaded k l result now row (some.inj hphase)
  · rintro phase' now hphase hnow
    cases hphase
    cases next with
    | granted _ _ | recording _ _ _ _ | writing _ _ _ _ _ => cases hnow
    | _ => cases hnext
  · rintro k now current hphase
    cases hphase
    cases hnext

omit [DecidableEq C] in
/-- A row is written that nobody holds and that was not sent, with the entry that says so. -/
lemma Inv.withRow {key : K} {row' : Row} {entry : Entry C K}
    (hkey : entry.key = key) (hfree : ∀ i lease, ¬ c.Holds i key lease)
    (hunsent : ∀ row, c.rows key = some row → row.outcome ≠ .sent)
    (hgrant : ∀ i row, entry = .granted i key → c.rows key = some row → row.outcome ≠ .queued)
    (houtcome : row'.outcome = outcomeAfter rows (entry :: c.journal) key) :
    ((c.withRow key row').log entry).Inv rows := by
  have hself : ((c.withRow key row').log entry).rows key = some row' := update_self ..
  have hother : ∀ k, k ≠ key → ((c.withRow key row').log entry).rows k = c.rows k :=
    fun k hk => update_of_ne hk ..
  have hsame : ∀ k, k ≠ key → entry.resultOf k = none :=
    fun k hk => Entry.resultOf_of_ne (hkey ▸ hk.symm)
  have hnever : ¬ WasSent c.journal key := by
    intro hsent
    obtain ⟨row, hrow, houtcome⟩ := h.sent key hsent
    exact hunsent row hrow houtcome
  constructor
  · intro i k lease hholds
    by_cases hk : k = key
    · subst hk
      exact absurd hholds (hfree i lease)
    · rw [hother k hk]
      exact h.held i k lease hholds
  · exact h.unique
  · intro i k lease result now row hcall
    by_cases hk : k = key
    · subst hk
      exact absurd ⟨_, hcall, rfl⟩ (hfree i lease)
    · rw [hother k hk]
      exact h.loaded i k lease result now row hcall
  · exact h.started
  · exact h.found
  · intro k row hrow
    by_cases hk : k = key
    · subst hk
      obtain rfl := some.inj (hself.symm.trans hrow)
      exact houtcome
    · rw [hother k hk] at hrow
      exact (h.present k row hrow).trans (outcomeAfter_cons_of_none (hsame k hk)).symm
  · intro k hrow
    by_cases hk : k = key
    · subst hk
      cases hself.symm.trans hrow
    · rw [hother k hk] at hrow
      exact (outcomeAfter_cons_of_none (hsame k hk)).trans (h.missing k hrow)
  · rintro k ⟨past, hpast, hsent⟩
    by_cases hk : k = key
    · subst hk
      rcases List.mem_cons.mp hpast with rfl | hpast
      · exact ⟨row', hself, houtcome.trans (outcomeAfter_cons_of_some hsent)⟩
      · exact absurd ⟨past, hpast, hsent⟩ hnever
    · rw [hother k hk]
      rcases List.mem_cons.mp hpast with rfl | hpast
      · rw [hsame k hk] at hsent
        cases hsent
      · exact h.sent k ⟨past, hpast, hsent⟩
  · intro i k past hpast
    rcases List.suffix_cons_iff.mp hpast with hnew | hold
    · -- the entry itself: what the journal said before is what the row says
      obtain ⟨rfl, rfl⟩ := List.cons_eq_cons.mp hnew
      obtain rfl : k = key := hkey
      change Grantable rows c.journal k
      refine ⟨?_, ?_, hnever⟩
      · cases hrow : c.rows k with
        | none => simp [h.missing k hrow]
        | some row =>
          rw [← h.present k row hrow]
          exact hunsent row hrow
      · cases hrow : c.rows k with
        | none => simp [h.missing k hrow]
        | some row =>
          rw [← h.present k row hrow]
          exact hgrant i row rfl hrow
    · exact h.grants i k past hold
  · intro k
    change (entry :: c.journal).countP _ ≤ 1
    rw [List.countP_cons]
    split
    · rename_i hsender
      have hsent := Entry.sent_of_sentBySender hsender
      have hk : k = key := by
        by_contra hk
        rw [hsame k hk] at hsent
        cases hsent
      subst hk
      have hzero : c.journal.countP (Entry.sentBySender k) = 0 := by
        rw [List.countP_eq_zero]
        intro past hpast hsender
        exact hnever ⟨past, hpast, Entry.sent_of_sentBySender hsender⟩
      omega
    · exact h.once k

lemma Inv.take {key : K} {row' : Row} (hfree : ∀ j lease', ¬ c.Holds j key lease')
    (hopen : ∀ row, c.rows key = some row → row.Open)
    (houtcome : row'.outcome = outcomeAfter rows c.journal key) (hopen' : row'.Open)
    (hlease : row'.leaseExpiresAt = some lease) :
    (((c.withRow key row').withCall i (some (.granted key lease))).log (.granted i key)).Inv
      rows := by
  have hrow : ((c.withRow key row').log (.granted i key)).Inv rows := by
    refine h.withRow rfl hfree ?_ ?_ ?_
    · intro row hrow
      exact (hopen row hrow).ne_sent
    · intro _ row _ hrow
      exact (hopen row hrow).ne_queued
    · rw [houtcome]
      exact (outcomeAfter_cons_of_none rfl).symm
  refine hrow.withCall ?_ ?_ ?_ ?_
  · rintro phase k lease' hphase hholds
    cases hphase
    cases hholds
    refine ⟨⟨row', update_self .., hlease, hopen'⟩, ?_⟩
    intro j lease' hj
    exact absurd hj (hfree j lease')
  · intro k lease' result now row hphase
    cases hphase
  · intro phase now hphase hnow
    cases hphase
    cases hnow
  · intro k now current hphase
    cases hphase

lemma Inv.step (hprompt : c.Prompt) (hstep : Step leaseSeconds c c') : c'.Inv rows := by
  cases hstep with
  | tick t ht =>
    exact { h with
      started := fun i phase now hcall hnow => (h.started i phase now hcall hnow).trans ht }
  | claim i key allowReattempt hcall =>
    refine h.undecided rfl ?_ (fun _ _ _ heq => by cases heq)
    intro now hnow
    cases hnow
    exact le_rfl
  | readNone i hcall hrow =>
    refine h.undecided rfl ?_ (fun _ _ _ heq => by cases heq)
    intro now hnow
    exact h.started i _ now hcall hnow
  | insert i hcall hrow =>
    rename_i key allowReattempt now
    refine h.take ?_ ?_ (h.missing key hrow).symm (.inl rfl) rfl
    · -- there is no row to hold
      intro j lease hj
      obtain ⟨row, hrow', -⟩ := h.held j key lease hj
      cases hrow.symm.trans hrow'
    · intro row hrow'
      cases hrow.symm.trans hrow'
  | insertLost i hcall hrow =>
    refine h.undecided rfl ?_ (fun _ _ _ heq => by cases heq)
    intro now hnow
    exact h.started i _ now hcall hnow
  | readRow i hcall hrow =>
    rename_i key allowReattempt now row
    have hnow : now ≤ c.clock := by
      rcases hcall with hcall | hcall
      · exact h.started i _ now hcall rfl
      · exact h.started i _ now hcall rfl
    split
    · rename_i hmay
      refine h.waiting rfl ?_ ?_
      · intro now' hstarted
        cases hstarted
        exact hnow
      · intro key' now' current hfound
        cases hfound
        exact open_of_mayTakeOver hmay
    · exact h.ended i
  | update i hcall hrow hfree =>
    rename_i key now current row
    simp only [stillFree, Bool.and_eq_true, decide_eq_true_eq] at hfree
    obtain ⟨⟨houtcome, -⟩, hlease⟩ := hfree
    have hopen : row.Open := by
      have hcurrent := h.found i key now current hcall
      unfold Row.Open at hcurrent ⊢
      rwa [houtcome]
    refine h.take ?_ ?_ (h.present key row hrow) hopen rfl
    · exact h.not_holds hprompt hrow hlease (h.started i _ now hcall rfl)
    · intro row' hrow'
      cases hrow.symm.trans hrow'
      exact hopen
  | updateLost i hcall hrow hfree => exact h.ended i
  | record i result hcall => exact h.holding hcall rfl rfl fun _ _ _ _ _ heq => by cases heq
  | load i hcall hrow =>
    refine h.holding hcall rfl rfl ?_
    intro key lease result now row hwriting
    cases hwriting
    exact hrow
  | write i hcall hrow =>
    rename_i key lease result now loaded row
    obtain rfl : row = loaded :=
      some.inj (hrow.symm.trans (h.loaded i key lease result now loaded hcall))
    rw [flush_loaded]
    obtain ⟨held, hheld, -, hopen⟩ := h.held i key lease ⟨_, hcall, rfl⟩
    obtain rfl : row = held := some.inj (hrow.symm.trans hheld)
    -- the sender lets go of the row and writes its result
    refine (h.ended i).withRow rfl ?_ ?_ (fun _ _ heq => by cases heq) ?_
    · rintro j lease' ⟨phase, hother, hholds⟩
      by_cases hj : j = i
      · subst hj
        rw [calls_withCall_self] at hother
        cases hother
      · rw [calls_withCall_of_ne hj] at hother
        exact hj (h.unique j i key lease' lease ⟨phase, hother, hholds⟩ ⟨_, hcall, rfl⟩)
    · intro row' hrow'
      cases hrow.symm.trans hrow'
      exact hopen.ne_sent
    · exact (outcomeAfter_cons_of_some Entry.resultOf_recorded).symm
  | retryResult retryId outcome detail now hrow hid hqueued =>
    rename_i key row
    refine h.withRow rfl ?_ ?_ (fun _ _ heq => by cases heq) ?_
    · -- a row that is queued is held by nobody
      intro j lease hj
      obtain ⟨held, hheld, -, hopen⟩ := h.held j key lease hj
      cases hrow.symm.trans hheld
      exact hopen.ne_queued hqueued
    · intro row' hrow'
      cases hrow.symm.trans hrow'
      simp [hqueued]
    · exact (outcomeAfter_cons_of_some Entry.resultOf_retried).symm

omit h

lemma Reached.inv {clock : Time} (h : Reached leaseSeconds (initial clock rows) c) :
    c.Inv rows ∧ c.Prompt := by
  induction h with
  | start =>
    refine ⟨inv_initial clock, ?_⟩
    intro i phase key lease hcall
    cases hcall
  | step _ hstep hprompt ih => exact ⟨ih.1.step ih.2 hstep, hprompt⟩

/-- In every interleaving in which no granted claim outlives its lease: a delivery has one
sender at a time, no claim to it is granted after it was sent or while it is queued, and its
senders record `sent` at most once. -/
theorem one_sender {clock : Time} (h : Reached leaseSeconds (initial clock rows) c) :
    (∀ key i j lease lease', c.Holds i key lease → c.Holds j key lease' → i = j) ∧
      (∀ i key past, .granted i key :: past <:+ c.journal → Grantable rows past key) ∧
      ∀ key, c.journal.countP (Entry.sentBySender key) ≤ 1 := by
  obtain ⟨hinv, -⟩ := h.inv
  refine ⟨?_, hinv.grants, hinv.once⟩
  intro key i j lease lease' hi hj
  exact hinv.unique i j key lease lease' hi hj

end Config

/-! ## A first claim -/

/-- One of two workers has claimed the only delivery; the other has read the row since. -/
def firstClaim : Config Bool Unit :=
  let claimed := (Config.initial 0 fun _ => none).withCall true (some (.claiming () false 0))
  let inserted := (((claimed.withCall true (some (.absent () false 0))).withRow ()
    (newRow 0 900)).withCall true (some (.granted () 900))).log (.granted true ())
  (inserted.withCall false (some (.claiming () false 0))).withCall false none

lemma prompt_of_holds {c : Config Bool Unit} (hclock : c.clock = 0)
    (hholds : ∀ i, ((c.calls i).bind Phase.holds).all fun held => (held.2 = 900 : Bool)) :
    c.Prompt := by
  intro i phase key lease hcall hheld
  have h := hholds i
  simp only [hcall, bind_some, hheld, all_some, decide_eq_true_eq] at h
  rw [hclock, h]
  decide

theorem firstClaim_one_sender :
    firstClaim.Holds true () 900 ∧
      (∀ key i j lease lease', firstClaim.Holds i key lease → firstClaim.Holds j key lease' →
        i = j) ∧
      (∀ i key past, .granted i key :: past <:+ firstClaim.journal →
        Config.Grantable (fun _ => none) past key) ∧
      ∀ key, firstClaim.journal.countP (Entry.sentBySender key) ≤ 1 := by
  refine ⟨⟨.granted () 900, rfl, rfl⟩,
    @Config.one_sender Bool Unit _ _ 900 (fun _ => none) firstClaim 0 ?_⟩
  have hstart : Config.Reached 900 (Config.initial 0 fun _ => none)
      (Config.initial 0 fun _ => none : Config Bool Unit) := .start
  have hclaimed := hstart.step (.claim true () false rfl) (prompt_of_holds rfl (by decide))
  have habsent := hclaimed.step (.readNone true rfl rfl) (prompt_of_holds rfl (by decide))
  have hinsert := habsent.step (.insert true rfl rfl) (prompt_of_holds rfl (by decide))
  have hsecond := hinsert.step (.claim false () false rfl) (prompt_of_holds rfl (by decide))
  have hread := hsecond.step (.readRow false (.inl rfl) rfl) (prompt_of_holds rfl (by decide))
  exact hread

end CivicCast.Subscribe.Deliveries
