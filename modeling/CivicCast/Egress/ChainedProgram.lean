import CivicCast.Egress.DaemonRuns
import CivicCast.Lib.Transcript

/-! # The program chained behind a filler

A filler rollover trims the filler to the gap before the next scheduled program and chains that
program into the same plan, so that the program airs at its scheduled start.
`_chain_next_program` measures the gap from the recorded rollover boundary. The leg takes air
there only while the boundary is still ahead: `_reload_steps` itself hands off at the boundary
or now, whichever is later. A reload that runs after its boundary has passed keeps a filler that
is too long by that much, and the program airs late.

Results are about every transcript of `_reload_steps`: every answer of the clock, the store and
the providers.
-/

namespace CivicCast.Egress

namespace Daemon

open Lib Playout Option

/-! ## What a chaining reload has read -/

/-- The resume of a reload that found a plan. -/
def Steps.reload? : Steps → Option ReloadResume
  | .goesOn (.reload r) => some r
  | .yields _ _ (.reload r) => some r
  | _ => none

/-- The first time the transcript reads the clock. -/
def firstClock : List daemonIface.Entry → Option Instant
  | [] => none
  | ⟨.utcNow, now⟩ :: _ => some now
  | _ :: log => firstClock log

/-- The boundary a chaining reload was asked for, the time it was dispatched at, and what the
providers answered. -/
structure Chain where
  boundary : Instant
  dispatchedAt : Instant
  filler : SourcePlan
  nextStart : Instant
  program : SourcePlan
deriving DecidableEq

namespace Chain

/-- The instant the leg takes air: the boundary if it is still ahead, now otherwise. -/
def takesAirAt (c : Chain) : Instant := max c.boundary c.dispatchedAt

def calls (c : Chain) (d : Attrs) : List daemonIface.Entry :=
  [⟨.fallbackPlan, .ok c.filler⟩, ⟨.nextProgramStart c.boundary, .ok (some c.nextStart)⟩,
    ⟨.boundaryPlan c.nextStart none, .ok (some c.program)⟩, ⟨.self, d⟩]

/-- The chain was read in this transcript of a reload. -/
structure ReadIn (c : Chain) (a : ReloadArgs) (log : List daemonIface.Entry) : Prop where
  boundary : a.rolloverPlanEndAt = some c.boundary
  clock : firstClock log = some c.dispatchedAt
  calls : ∃ before d, log = before ++ c.calls d

end Chain

/-- A prefix of the segments with only the last one shortened. -/
def Shortens (kept segments : List Segment) : Prop :=
  ∃ whole last rest seconds, segments = whole ++ last :: rest ∧ 0 < seconds ∧
    seconds ≤ last.durationSeconds ∧ kept = whole ++ [{ last with durationSeconds := seconds }]

/-- The plan's filler fills the time from taking air to the program's start, and the program
follows it. -/
def Chain.AirsOnTime (c : Chain) (r : ReloadResume) : Prop :=
  ∃ kept, r.sourcePlan.segments = kept ++ c.program.segments ∧ Shortens kept c.filler.segments ∧
    (kept.map Segment.durationSeconds).sum = c.nextStart - c.takesAirAt ∧
    r.chainedProgramEndAt = some (c.nextStart + c.program.seconds)

/-! ## Trimming -/

lemma Shortens.cons {kept segments : List Segment} (segment : Segment)
    (h : Shortens kept segments) : Shortens (segment :: kept) (segment :: segments) := by
  obtain ⟨whole, last, rest, seconds, rfl, hpos, hle, rfl⟩ := h
  exact ⟨segment :: whole, last, rest, seconds, rfl, hpos, hle, rfl⟩

/-- What `trimFiller` keeps is a shortened prefix that lasts exactly as long as asked. -/
lemma trimFiller_spec {segments kept : List Segment} {remaining : ℚ} (hpos : 0 < remaining)
    (h : trimFiller remaining segments = some kept) :
    Shortens kept segments ∧ (kept.map Segment.durationSeconds).sum = remaining := by
  induction segments generalizing remaining kept with
  | nil => simp [trimFiller, hpos] at h
  | cons segment rest ih =>
    unfold trimFiller at h
    split at h
    · -- the whole segment fits, and something of the gap is left
      obtain ⟨kept', hkept', rfl⟩ := map_eq_some_iff.mp h
      obtain ⟨hshort, hsum⟩ := ih (by linarith) hkept'
      constructor
      · exact hshort.cons segment
      · rw [List.map_cons, List.sum_cons, hsum]
        ring
    · -- the gap ends inside this segment
      rename_i hends
      cases h
      constructor
      · exact ⟨[], segment, rest, remaining, rfl, hpos, not_lt.mp hends, rfl⟩
      · simp

/-! ## Transcripts of the reload -/

variable {setup : Setup} {log log' : List daemonIface.Entry}

lemma exec_orRaise {α W : Type} {M : Machine daemonIface W} {w w' : W} {r : Except Fault α}
    {a : α} (h : Exec M (orRaise r) w (.ok a) w') : r = .ok a ∧ w' = w := by
  cases r with
  | ok b =>
    cases h
    exact ⟨rfl, rfl⟩
  | error e => cases h

/-- A provider that returned left one entry. -/
lemma exec_fallbackPlan {filler : SourcePlan}
    (h : Exec (transcript _) fallbackPlan log (.ok filler) log') :
    log' = log ++ [⟨.fallbackPlan, .ok filler⟩] := by
  obtain ⟨r, log₁, hcall, h⟩ := h.of_bind
  obtain ⟨rfl, rfl⟩ := exec_orRaise h
  exact hcall.of_lift

lemma exec_catchSourcePrepare {α W : Type} {M : Machine daemonIface W} {w w' : W} {p : DaemonM α}
    {a : α} (h : Exec M (catchSourcePrepare p) w (.ok (some a)) w') : Exec M p w (.ok a) w' := by
  obtain ⟨r, w₁, hattempt, h⟩ := h.of_bind
  match r with
  | .ok b =>
    cases h
    exact hattempt.of_attempt
  | .error .sourcePrepare => cases h
  | .error .other => cases h

lemma exec_fillerPlan {filler : SourcePlan}
    (h : Exec (transcript _) fillerPlan log (.ok (.resolved (some filler) .fallbackSlate)) log') :
    log' = log ++ [⟨.fallbackPlan, .ok filler⟩] := by
  obtain ⟨found, log₁, hfound, h⟩ := h.of_bind
  cases found with
  | some slate =>
    cases h
    exact exec_fallbackPlan (exec_catchSourcePrepare hfound)
  | none => cases h

lemma exec_lookUpFiller {boundaryAt planEndAt : Option Instant} {filler : SourcePlan}
    (h : Exec (transcript _) (lookUpFiller setup boundaryAt planEndAt) log
      (.ok (.resolved (some filler) .fallbackSlate)) log') :
    ∃ before, log' = log ++ before ++ [⟨.fallbackPlan, .ok filler⟩] := by
  obtain ⟨now, log₁, hnow, h⟩ := h.of_bind
  obtain ⟨late, log₂, hlate, h⟩ := h.of_bind
  -- every other ending resolves a plan for `ON_AIR`
  have hfiller : Exec (transcript _) fillerPlan log₂
      (.ok (.resolved (some filler) .fallbackSlate)) log' := by
    split at h
    · obtain ⟨_, h⟩ | ⟨_, h⟩ := h.of_ite
      · cases h
      · obtain ⟨_, h⟩ | ⟨_, h⟩ := h.of_ite
        · exact h
        · cases h
    · obtain ⟨_, h⟩ | ⟨_, h⟩ := h.of_ite
      · exact h
      · cases h
  obtain ⟨before, hbefore⟩ := hlate.extends
  have hlog₁ := hnow.of_lift
  refine ⟨⟨.utcNow, now⟩ :: before, ?_⟩
  rw [exec_fillerPlan hfiller, hbefore, hlog₁]
  simp

/-- The plan is the filler, trimmed to the gap after the boundary, and the program. -/
structure Trims (boundary nextStart : Instant) (filler program plan : SourcePlan)
    (chainedEnd : Instant) : Prop where
  gap : 0 < nextStart - boundary
  trimmed : ∃ kept, trimFiller (nextStart - boundary) filler.segments = some kept ∧
    plan.segments = kept ++ program.segments
  chainedEnd : chainedEnd = nextStart + program.seconds

lemma exec_chainNextProgram {filler plan : SourcePlan} {boundaryAt : Option Instant}
    {chainedEnd : Instant}
    (h : Exec (transcript _) (chainNextProgram setup filler boundaryAt) log
      (.ok (plan, some chainedEnd)) log') :
    ∃ boundary nextStart program, boundaryAt = some boundary ∧
      Trims boundary nextStart filler program plan chainedEnd ∧
      log' = log ++ [⟨.nextProgramStart boundary, .ok (some nextStart)⟩,
        ⟨.boundaryPlan nextStart none, .ok (some program)⟩] := by
  cases boundaryAt with
  | none => cases h
  | some boundary =>
    obtain ⟨_, h⟩ | ⟨_, h⟩ := h.of_ite
    · cases h
    obtain ⟨answer, log₁, hanswer, h⟩ := h.of_bind
    have hlog₁ := hanswer.of_lift
    match answer with
    | .error _ => cases h
    | .ok none => cases h
    | .ok (some nextStart) =>
      obtain ⟨_, h⟩ | ⟨hgap, h⟩ := h.of_ite
      · cases h
      cases hkept : trimFiller (nextStart - boundary) filler.segments with
      | none => rw [hkept] at h; cases h
      | some kept =>
        rw [hkept] at h
        obtain ⟨answer, log₂, hprogram, h⟩ := h.of_bind
        have hlog₂ := hprogram.of_lift
        match answer with
        | .error _ => cases h
        | .ok none => cases h
        | .ok (some program) =>
          obtain ⟨_, h⟩ | ⟨_, h⟩ := h.of_ite
          · cases h
          cases h
          -- the gap is short enough to trim, and the program was found
          have htrims : Trims boundary nextStart filler program
              { filler with segments := kept ++ program.segments }
              (nextStart + program.seconds) :=
            ⟨not_le.mp hgap, ⟨kept, hkept, rfl⟩, rfl⟩
          refine ⟨boundary, nextStart, program, rfl, htrims, ?_⟩
          rw [hlog₂, hlog₁]
          simp

/-- Only a forced filler is chained. -/
lemma exec_resolveReload {state : StateRow} {a : ReloadArgs} {boundaryAt : Option Instant}
    {found : ReloadPlan} {chainedEnd : Instant}
    (h : Exec (transcript _) (resolveReload setup state a boundaryAt) log
      (.ok (found, some chainedEnd)) log') :
    ∃ boundary nextStart filler program plan before, a.forceFallback = true ∧
      a.rolloverPlanEndAt = some boundary ∧ found = .resolved (some plan) .fallbackSlate ∧
      Trims boundary nextStart filler program plan chainedEnd ∧
      log' = log ++ before ++ [⟨.fallbackPlan, .ok filler⟩,
        ⟨.nextProgramStart boundary, .ok (some nextStart)⟩,
        ⟨.boundaryPlan nextStart none, .ok (some program)⟩] := by
  obtain ⟨hforced, h⟩ | ⟨_, h⟩ := h.of_ite
  · obtain ⟨filler?, log₁, hfiller, h⟩ := h.of_bind
    split at h
    · rename_i filler
      obtain ⟨⟨plan, chained⟩, log₂, hchain, h⟩ := h.of_bind
      cases h
      obtain ⟨before, hbefore⟩ := exec_lookUpFiller hfiller
      obtain ⟨boundary, nextStart, program, hboundary, htrims, hlog⟩ := exec_chainNextProgram hchain
      refine ⟨boundary, nextStart, filler, program, plan, before, hforced, hboundary, rfl, htrims,
        ?_⟩
      rw [hlog, hbefore]
      simp
    · cases h
  · -- no other lookup comes with an end
    obtain ⟨d, log₁, _, h⟩ := h.of_bind
    obtain ⟨plan?, log₂, _, h⟩ := h.of_bind
    split at h
    · obtain ⟨past, log₃, _, h⟩ := h.of_bind
      cases past with
      | some plan => cases h
      | none =>
        obtain ⟨slate, log₄, _, h⟩ := h.of_bind
        cases h
    · cases h

/-- A reload with a recorded boundary reads the clock before anything else does. -/
lemma exec_handoffBoundary {boundaryAt : Option Instant} {boundary : Instant}
    (h : Exec (transcript _) (handoffBoundary (some boundary)) log (.ok boundaryAt) log') :
    ∃ now, log' = log ++ [⟨.utcNow, now⟩] := by
  obtain ⟨now, log₁, hnow, h⟩ := h.of_bind
  cases h
  exact ⟨now, hnow.of_lift⟩

lemma exec_getConfig {config : Option Config}
    (h : Exec (transcript _) getConfig log (.ok config) log') :
    log' = log ++ [⟨.getConfig, .ok config⟩] := by
  obtain ⟨answer, log₁, hcall, h⟩ := h.of_bind
  obtain ⟨rfl, rfl⟩ := exec_orRaise h
  exact hcall.of_lift

lemma exec_assist (h : Exec (transcript _) assist log (.ok ()) log') :
    log' = log ++ [⟨.assist, .ok ()⟩] := by
  obtain ⟨answer, log₁, hcall, h⟩ := h.of_bind
  obtain ⟨rfl, rfl⟩ := exec_orRaise h
  exact hcall.of_lift

lemma reload?_yieldReload {r r' : ReloadResume} {d : Attrs}
    (h : (yieldReload setup r d).reload? = some r') :
    r'.sourcePlan = r.sourcePlan ∧ r'.chainedProgramEndAt = r.chainedProgramEndAt := by
  unfold yieldReload at h
  split_ifs at h <;> · cases h; exact ⟨rfl, rfl⟩

/-- A forced filler is not a schedule's tail. -/
lemma exec_floorReload {a : ReloadArgs} {boundaryAt : Option Instant} {plan : SourcePlan}
    {targetState : EgressState} {found : SourcePlan × EgressState}
    (hforced : a.forceFallback = true)
    (h : Exec (transcript _) (floorReload setup a boundaryAt plan targetState) log (.ok found)
      log') : found = (plan, targetState) ∧ log' = log := by
  simp only [floorReload, hforced, Bool.not_true, Bool.false_and, Bool.false_eq_true, if_false] at h
  exact h.of_pure

lemma exec_reloadSteps {state : StateRow} {process : Proc} {a : ReloadArgs} {steps : Steps}
    {r : ReloadResume} {chainedEnd : Instant}
    (h : Exec (transcript _) (reloadSteps setup state process a) [] (.ok steps) log)
    (hr : steps.reload? = some r) (hend : r.chainedProgramEndAt = some chainedEnd) :
    ∃ c : Chain, c.ReadIn a log ∧
      Trims c.boundary c.nextStart c.filler c.program r.sourcePlan chainedEnd := by
  obtain ⟨config, log₁, hconfig, h⟩ := h.of_bind
  cases config with
  | none => cases h; cases hr
  | some config =>
    obtain ⟨_, h⟩ | ⟨_, h⟩ := h.of_ite
    · cases h; cases hr
    obtain ⟨_, log₂, hassist, h⟩ := h.of_bind
    obtain ⟨boundaryAt, log₃, hboundary, h⟩ := h.of_bind
    obtain ⟨⟨found, chained⟩, log₄, hfound, h⟩ := h.of_bind
    match found with
    | .ended outcome => cases h; cases hr
    | .resolved none _ => cases h; cases hr
    | .resolved (some plan) targetState =>
      obtain ⟨_, h⟩ | ⟨_, h⟩ := h.of_ite
      · cases h; cases hr
      obtain ⟨floored, log₅, hfloored, h⟩ := h.of_bind
      obtain ⟨d, log₆, hd, h⟩ := h.of_bind
      cases h
      obtain ⟨hplan, hchained⟩ := reload?_yieldReload hr
      have hsome : chained = some chainedEnd := hchained.symm.trans hend
      rw [hsome] at hfound
      obtain ⟨boundary, nextStart, filler, program, chainedPlan, before, hforced, hrecorded,
        hresolved, htrims, hlog₄⟩ := exec_resolveReload hfound
      obtain ⟨rfl, rfl⟩ : plan = chainedPlan ∧ targetState = .fallbackSlate := by
        cases hresolved
        exact ⟨rfl, rfl⟩
      obtain ⟨rfl, rfl⟩ := exec_floorReload hforced hfloored
      -- the transcript now tells the boundary and the two lookups
      rw [hrecorded] at hboundary
      obtain ⟨now, hlog₃⟩ := exec_handoffBoundary hboundary
      have hlog := hd.of_lift
      rw [hlog₄, hlog₃, exec_assist hassist, exec_getConfig hconfig] at hlog
      refine ⟨⟨boundary, now, filler, nextStart, program⟩, ⟨hrecorded, ?_, ?_⟩, ?_⟩
      · rw [hlog]
        rfl
      · refine ⟨[⟨.getConfig, .ok (some config)⟩, ⟨.assist, .ok ()⟩, ⟨.utcNow, now⟩] ++ before,
          d, ?_⟩
        rw [hlog]
        simp [Chain.calls]
      · rw [hplan]
        exact htrims

/-! ## The program's start -/

lemma Chain.AirsOnTime.seconds {c : Chain} {r : ReloadResume} (h : c.AirsOnTime r) :
    r.sourcePlan.seconds = c.nextStart - c.takesAirAt + c.program.seconds := by
  obtain ⟨kept, hplan, _, hsum, _⟩ := h
  simp [SourcePlan.seconds, hplan, hsum]

/-- The last calls of a transcript say what was chained. -/
lemma Chain.ReadIn.unique {c c' : Chain} {a : ReloadArgs} (h : c.ReadIn a log)
    (h' : c'.ReadIn a log) : c = c' := by
  obtain ⟨hboundary, hclock, before, d, hlog⟩ := h
  obtain ⟨hboundary', hclock', before', d', hlog'⟩ := h'
  have hcalls : c.calls d = c'.calls d' := (List.append_inj' (hlog.symm.trans hlog') rfl).2
  rcases c with ⟨boundary, now, filler, nextStart, program⟩
  rcases c' with ⟨boundary', now', filler', nextStart', program'⟩
  simp_all [Chain.calls]

/-- A chained program airs at its scheduled start exactly when the recorded boundary had not
passed yet as the reload was dispatched. -/
theorem chained_on_time_iff {state : StateRow} {process : Proc} {a : ReloadArgs} {steps : Steps}
    {r : ReloadResume}
    (h : Exec (transcript _) (reloadSteps setup state process a) [] (.ok steps) log)
    (hr : steps.reload? = some r) (hchained : r.chainedProgramEndAt.isSome = true) :
    (∃ c : Chain, c.ReadIn a log) ∧
      ∀ c : Chain, c.ReadIn a log → (c.AirsOnTime r ↔ c.dispatchedAt ≤ c.boundary) := by
  obtain ⟨chainedEnd, hend⟩ := isSome_iff_exists.mp hchained
  obtain ⟨c, hread, hgap, ⟨kept, hkept, hplan⟩, rfl⟩ := exec_reloadSteps h hr hend
  obtain ⟨hshort, hsum⟩ := trimFiller_spec hgap hkept
  refine ⟨⟨c, hread⟩, fun c' hread' => ?_⟩
  cases hread.unique hread'
  constructor
  · intro hair
    have hseconds := hair.seconds
    have hlasts : r.sourcePlan.seconds = c.nextStart - c.boundary + c.program.seconds := by
      simp [SourcePlan.seconds, hplan, hsum]
    have hmax : max c.boundary c.dispatchedAt = c.boundary := by
      have : c.takesAirAt = c.boundary := by linarith
      exact this
    exact max_eq_left_iff.mp hmax
  · intro hahead
    refine ⟨kept, hplan, hshort, ?_, hend⟩
    rw [hsum, Chain.takesAirAt, max_eq_left hahead]

namespace Gov

/-- A channel with a filler and the schedule's own boundaries. -/
def filling : Setup :=
  { plain with boundaryProvider := true, nextProgramProvider := true, fallbackProvider := true }

/-- An hour of slate. -/
def filler : SourcePlan :=
  ⟨"gov", [⟨3600, .slate, some "civiccast-slate", none, none, "Slate", none, none, none⟩]⟩

/-- The outgoing plan ends at 300, and the program is due at 600. -/
def fillerRollover : ReloadArgs := { rolloverPlanEndAt := some 300, forceFallback := true }

def onAirRow : StateRow := ⟨.onAir, none, some 0⟩

def dispatched (now : Instant) : (o : Op) → Option (Ans o)
  | .self => some {}
  | .getConfig => some (.ok (some ⟨true, 0⟩))
  | .assist => some (.ok ())
  | .utcNow => some now
  | .boundaryPlan at_ _ => some (.ok (if at_ = 600 then some program else none))
  | .fallbackPlan => some (.ok filler)
  | .nextProgramStart _ => some (.ok (some 600))
  | _ => none

/-- The reload dispatched at `now`. -/
def reloadAt (now : Instant) : Option (Except Fault Steps × List daemonIface.Entry) :=
  (reloadSteps filling onAirRow 0 fillerRollover).play
    (M := transcript _) (fun _ o => (dispatched now o).map fun x => ⟨x, trivial⟩) []

/-- The filler cut down to the five minutes after the boundary, and the program. -/
def chained : ReloadResume where
  state := onAirRow
  process := 0
  sourcePlan :=
    ⟨"gov", [⟨300, .slate, some "civiccast-slate", none, none, "Slate", none, none, none⟩] ++
      program.segments⟩
  targetState := .fallbackSlate
  conforms := false
  rolloverPlanEndAt := some 300
  chainedProgramEndAt := some 1200
  scheduledStartAt := none

/-- What it read. -/
def chainAt (now : Instant) : Chain := ⟨300, now, filler, 600, program⟩

def logAt (now : Instant) : List daemonIface.Entry :=
  [⟨.getConfig, .ok (some ⟨true, 0⟩)⟩, ⟨.assist, .ok ()⟩, ⟨.utcNow, now⟩, ⟨.utcNow, now⟩,
    ⟨.boundaryPlan (max 300 now) none, .ok none⟩] ++ (chainAt now).calls {}

lemma exec_reloadAt {now : Instant} {steps : Steps}
    (h : reloadAt now = some (.ok steps, logAt now)) :
    Exec (transcript _) (reloadSteps filling onAirRow 0 fillerRollover) [] (.ok steps)
      (logAt now) :=
  Prog.exec_of_play h

lemma chainAt_readIn (now : Instant) : (chainAt now).ReadIn fillerRollover (logAt now) :=
  ⟨rfl, rfl, _, {}, rfl⟩

end Gov

open Gov in
/-- Dispatched a hundred seconds before the boundary, the program airs on time. -/
theorem early_reload_airs_on_time : (chainAt 200).AirsOnTime chained := by
  have hrun : reloadAt 200 = some (.ok (.goesOn (.reload chained)), logAt 200) := by
    with_unfolding_all rfl
  have hiff := (chained_on_time_iff (exec_reloadAt hrun) rfl rfl).2 (chainAt 200)
    (chainAt_readIn 200)
  exact hiff.mpr (by decide +kernel)

open Gov in
/-- Dispatched a hundred seconds after it, the filler is still cut to the five minutes from the
boundary, and the program airs at 700. -/
theorem late_reload_airs_late :
    ¬ ∀ (setup : Setup) (state : StateRow) (process : Proc) (a : ReloadArgs) (steps : Steps)
      (log : List daemonIface.Entry) (r : ReloadResume) (c : Chain),
      Exec (transcript _) (reloadSteps setup state process a) [] (.ok steps) log →
      steps.reload? = some r → r.chainedProgramEndAt.isSome = true → c.ReadIn a log →
      c.AirsOnTime r := by
  intro h
  have hrun : reloadAt 400 = some (.ok (.goesOn (.reload chained)), logAt 400) := by
    with_unfolding_all rfl
  have hair := h filling onAirRow 0 fillerRollover _ _ chained (chainAt 400) (exec_reloadAt hrun)
    rfl rfl (chainAt_readIn 400)
  have hlonger : chained.sourcePlan.seconds ≠
      (chainAt 400).nextStart - (chainAt 400).takesAirAt + (chainAt 400).program.seconds := by
    decide +kernel
  exact hlonger hair.seconds

end Daemon

end CivicCast.Egress
