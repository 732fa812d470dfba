import CivicCast.Eas.Supersession

/-! # The poll worker

One scan expires what is over, then fetches, parses, filters and ingests every
enabled source, reports its health, and runs the display pass at the end. A fetch
or a parse that raises is caught and reported; a store write or a health hook that
raises leaves the scan.

`nothing_hidden_iff` says exactly when a scan ingests every well-formed alert that
passes its source's filter and reaches the display pass.
-/

namespace CivicCast.Eas

open List

open Lib (Text)

/-- What the fetcher does for a source. -/
inductive Fetched where
  | raised
  | nothing
  | body (text : Text)

/-- What a scan depends on besides the store: the clock, the library, what is
fetched, and which calls fail. A store write that fails leaves nothing behind. -/
structure ScanEnv where
  rt : Runtime
  now : Instant
  /-- The clock while the body of the source is parsed. -/
  readAt : EasCapSource → Instant
  fetch : EasCapSource → Fetched
  /-- The write of the alert at this position of the parsed list raises. -/
  writeFails : EasCapSource → ℕ → Bool
  /-- Recording the health of the source raises. -/
  hookFails : EasCapSource → Bool

/-- What is reported with a source's health. -/
inductive HealthDetail where
  | fetchError
  | noBody
  | parseError (e : ParseError)
  | ok (parsed ingested : ℕ)
deriving DecidableEq

/-- What a scan does that others can see. -/
inductive ScanEvent where
  | ingested (source : EasCapSource) (alert : EasCapAlert)
  | health (source : EasCapSource) (healthy : Bool) (detail : HealthDetail)
  | postScan
deriving DecidableEq

structure ScanState where
  alerts : AlertTable
  trace : List ScanEvent

inductive ScanError where
  | store
  | hook
deriving DecidableEq

/-- `EasPollScanResult`. -/
structure EasPollScanResult where
  sourcesPolled : ℕ
  alertsIngested : ℕ
  expired : ℕ
  unhealthySourceIds : List Text
deriving DecidableEq

variable (env : ScanEnv)

def parseForSource (source : EasCapSource) (body : Text) :
    Except ParseError (List EasCapAlert) :=
  if source.kind = .nwsCap then
    parseNwsGeojson env.rt (env.readAt source) body source.sourceId
  else parseCapXml env.rt (env.readAt source) body source.sourceId

/-- An Update or a Cancel goes to the store whatever the filter says; every other
alert only if it passes. -/
def handed (source : EasCapSource) (alert : EasCapAlert) : Bool :=
  alert.msgType = .update || alert.msgType = .cancel || alertPassesSourceFilter alert source

/-- The loop of `_poll_one` over the parsed alerts, from position `k` on: how many it
ingested. -/
def ingestEach (source : EasCapSource) :
    ℕ → List EasCapAlert → ScanState → Except ScanError ℕ × ScanState
  | _, [], s => (.ok 0, s)
  | k, alert :: rest, s =>
    if handed source alert then
      if env.writeFails source k then (.error .store, s)
      else
        match s.alerts.ingestAlert alert with
        | .error _ => (.error .store, s)
        | .ok (alerts, _) =>
          let out := ingestEach source (k + 1) rest
            { alerts := alerts, trace := s.trace ++ [.ingested source alert] }
          (out.1.map fun n => n + 1, out.2)
    else ingestEach source (k + 1) rest s

/-- `_poll_one`: how many alerts it ingested, and what it reports. -/
def pollOne (source : EasCapSource) (s : ScanState) :
    Except ScanError (ℕ × Bool × HealthDetail) × ScanState :=
  match env.fetch source with
  | .raised => (.ok (0, false, .fetchError), s)
  | .nothing => (.ok (0, false, .noBody), s)
  | .body body =>
    match parseForSource env source body with
    | .error e => (.ok (0, false, .parseError e), s)
    | .ok parsed =>
      let out := ingestEach env source 0 parsed s
      (out.1.map fun n => (n, true, .ok parsed.length n), out.2)

/-- A source the scan polls: not a manual one, and with an endpoint. -/
def polled (source : EasCapSource) : Bool :=
  source.kind ≠ .manual && !(source.endpointUrl.getD []).isEmpty

/-- The loop of `run_once`. -/
def pollEach :
    List EasCapSource → ScanState → Except ScanError EasPollScanResult × ScanState
  | [], s => (.ok ⟨0, 0, 0, []⟩, s)
  | source :: rest, s =>
    if polled source then
      match pollOne env source s with
      | (.error e, s') => (.error e, s')
      | (.ok (n, healthy, detail), s') =>
        if env.hookFails source then (.error .hook, s')
        else
          let out := pollEach rest { s' with
            trace := s'.trace ++ [.health source healthy detail] }
          (out.1.map fun result =>
            { result with
              sourcesPolled := result.sourcesPolled + 1
              alertsIngested := n + result.alertsIngested
              unhealthySourceIds :=
                if healthy then result.unhealthySourceIds
                else source.sourceId :: result.unhealthySourceIds }, out.2)
    else pollEach rest s

/-- `run_once` over the enabled sources. The display pass is called last, and what it
raises is caught. -/
def runOnce (sources : List EasCapSource) (alerts : AlertTable) :
    Except ScanError EasPollScanResult × ScanState :=
  let (alerts, expired) := alerts.expireAlerts env.now
  match pollEach env sources { alerts := alerts, trace := [] } with
  | (.error e, s) => (.error e, s)
  | (.ok result, s) =>
    (.ok { result with expired := expired }, { s with trace := s.trace ++ [.postScan] })

/-! ## What a scan hands to the store -/

def parsedOf (source : EasCapSource) : List EasCapAlert :=
  match env.fetch source with
  | .body body => ((parseForSource env source body).toOption).getD []
  | _ => []

def handedOf (source : EasCapSource) : List EasCapAlert :=
  if polled source then (parsedOf env source).filter (handed source) else []

def WritesLand (source : EasCapSource) : Prop :=
  polled source = true → ∀ k alert, (parsedOf env source)[k]? = some alert →
    handed source alert = true → env.writeFails source k = false

/-- A well-formed alert in the body of a source: a feature that parses on its own, or
a CAP document that does. -/
def WellFormed (source : EasCapSource) (alert : EasCapAlert) : Prop :=
  ∃ body, env.fetch source = .body body ∧
    if source.kind = .nwsCap then
      ∃ features, (env.rt.loads body).bind featuresOf = some features ∧
        ∃ feature ∈ features,
          parseFeature env.rt (env.readAt source) source.sourceId feature = .ok (some alert)
    else
      ∃ alerts, parseCapXml env.rt (env.readAt source) body source.sourceId = .ok alerts ∧
        alert ∈ alerts

/-- A feature of the body raises when it is parsed. -/
def HasBadFeature (source : EasCapSource) : Prop :=
  ∃ body features, env.fetch source = .body body ∧ source.kind = .nwsCap ∧
    (env.rt.loads body).bind featuresOf = some features ∧
    ∃ feature ∈ features, ∃ e,
      parseFeature env.rt (env.readAt source) source.sourceId feature = .error e

/-- Every well-formed alert that passes its source's filter is ingested, and the
display pass runs. -/
def NothingHidden (sources : List EasCapSource) (alerts : AlertTable) : Prop :=
  .postScan ∈ (runOnce env sources alerts).2.trace ∧
  ∀ source ∈ sources, polled source = true → ∀ alert, WellFormed env source alert →
    alertPassesSourceFilter alert source = true →
    .ingested source alert ∈ (runOnce env sources alerts).2.trace

/-! ## What a scan has ingested when it stops -/

/-- The alert that an event ingests, with the source it came from. -/
def ScanEvent.ingest? : ScanEvent → Option (EasCapSource × EasCapAlert)
  | ingested source alert => some (source, alert)
  | _ => none

def ScanState.log (s : ScanState) : List (EasCapSource × EasCapAlert) :=
  s.trace.filterMap ScanEvent.ingest?

lemma ScanState.mem_log {s : ScanState} {source : EasCapSource} {alert : EasCapAlert} :
    (source, alert) ∈ s.log ↔ .ingested source alert ∈ s.trace := by
  unfold log
  rw [mem_filterMap]
  constructor
  · rintro ⟨event, hevent, hsome⟩
    cases event with
    | ingested source' alert' =>
      cases hsome
      exact hevent
    | health | postScan => cases hsome
  · intro h
    exact ⟨_, h, rfl⟩

/-- From `s` the scan came to `s'` and ingested `log`, whatever it reported. -/
structure Ingests (s s' : ScanState) (log : List (EasCapSource × EasCapAlert)) : Prop where
  alerts : AlertTable.ingestAll (log.map Prod.snd) s.alerts = .ok s'.alerts
  logged : s'.log = s.log ++ log
  noPass : .postScan ∈ s'.trace ↔ .postScan ∈ s.trace

section Ingests

variable {s s' s'' : ScanState} {log log' : List (EasCapSource × EasCapAlert)}

lemma Ingests.refl (s : ScanState) : Ingests s s [] := ⟨rfl, by simp, .rfl⟩

lemma Ingests.trans (h : Ingests s s' log) (h' : Ingests s' s'' log') :
    Ingests s s'' (log ++ log') where
  alerts := by
    rw [map_append]
    exact AlertTable.ingestAll_append.mpr ⟨_, h.alerts, h'.alerts⟩
  logged := by rw [h'.logged, h.logged, append_assoc]
  noPass := h'.noPass.trans h.noPass

lemma Ingests.one (source : EasCapSource) {alert : EasCapAlert} {alerts : AlertTable}
    {isNew : Bool} (h : s.alerts.ingestAlert alert = .ok (alerts, isNew)) :
    Ingests s { alerts := alerts, trace := s.trace ++ [.ingested source alert] }
      [(source, alert)] where
  alerts := AlertTable.ingestAll_cons.mpr ⟨alerts, isNew, h, rfl⟩
  logged := by simp [ScanState.log, ScanEvent.ingest?]
  noPass := by simp

lemma Ingests.health (source : EasCapSource) (healthy : Bool) (detail : HealthDetail) :
    Ingests s { s with trace := s.trace ++ [.health source healthy detail] } [] where
  alerts := rfl
  logged := by simp [ScanState.log, ScanEvent.ingest?]
  noPass := by simp

end Ingests

variable {env}

section Loops

variable {source : EasCapSource} {sources : List EasCapSource}

/-- The alerts of one source that were ingested, with the source. -/
def fromSource (source : EasCapSource) (alerts : List EasCapAlert) :
    List (EasCapSource × EasCapAlert) :=
  alerts.map fun alert => (source, alert)

lemma map_eq_ok {ε α β : Type} {r : Except ε α} {f : α → β} {b : β} (h : r.map f = .ok b) :
    ∃ a, r = .ok a := by
  cases r with
  | error e => cases h
  | ok a => exact ⟨a, rfl⟩

variable (env source) in
/-- The loop ingests the first of the alerts it is to hand over, and all of them when
it returns. -/
lemma ingestEach_ingests : ∀ (parsed : List EasCapAlert) (k : ℕ) (s : ScanState),
    ∃ done, done <+: parsed.filter (handed source) ∧
      Ingests s (ingestEach env source k parsed s).2 (fromSource source done) ∧
      ∀ n, (ingestEach env source k parsed s).1 = .ok n → done = parsed.filter (handed source) := by
  intro parsed
  induction parsed with
  | nil =>
    intro k s
    exact ⟨[], prefix_rfl, .refl s, fun _ _ => rfl⟩
  | cons alert rest ih =>
    intro k s
    unfold ingestEach
    by_cases hhanded : handed source alert = true
    · rw [if_pos hhanded, filter_cons_of_pos hhanded]
      by_cases hfails : env.writeFails source k = true
      · rw [if_pos hfails]
        exact ⟨[], nil_prefix, .refl s, by intro n h; cases h⟩
      · rw [if_neg hfails]
        cases hingest : s.alerts.ingestAlert alert with
        -- the loop ends here, with the alerts before this one ingested
        | error e => exact ⟨[], nil_prefix, .refl s, by intro n h; cases h⟩
        | ok stored =>
          obtain ⟨alerts, isNew⟩ := stored
          have hone := Ingests.one source hingest
          rcases ih (k + 1)
            { alerts := alerts, trace := s.trace ++ [.ingested source alert] } with
            ⟨done, hbegins, hrest, hall⟩
          refine ⟨alert :: done, cons_prefix_cons.mpr ⟨rfl, hbegins⟩, ?_, ?_⟩
          · exact hone.trans hrest
          · intro n h
            rcases map_eq_ok h with ⟨m, hm⟩
            rw [hall m hm]
    · rw [if_neg hhanded, filter_cons_of_neg hhanded]
      exact ih (k + 1) s

variable (env source) in
/-- The loop returns exactly when no write fails and the store takes every alert. -/
lemma ingestEach_returns_iff : ∀ (parsed : List EasCapAlert) (k : ℕ) (s : ScanState),
    (∃ n, (ingestEach env source k parsed s).1 = .ok n) ↔
      (∀ i alert, parsed[i]? = some alert → handed source alert = true →
        env.writeFails source (k + i) = false) ∧
      ∃ t', AlertTable.ingestAll (parsed.filter (handed source)) s.alerts = .ok t' := by
  intro parsed
  induction parsed with
  | nil =>
    intro k s
    simp [ingestEach, AlertTable.ingestAll]
  | cons alert rest ih =>
    intro k s
    -- write `k` is that of the first alert
    have hshift : (∀ i a, (alert :: rest)[i]? = some a → handed source a = true →
          env.writeFails source (k + i) = false) ↔
        (handed source alert = true → env.writeFails source k = false) ∧
        ∀ i a, rest[i]? = some a → handed source a = true →
          env.writeFails source (k + 1 + i) = false := by
      constructor
      · intro h
        refine ⟨fun hh => h 0 alert rfl hh, ?_⟩
        intro i a ha hh
        have := h (i + 1) a (by simpa using ha) hh
        rwa [show k + (i + 1) = k + 1 + i by omega] at this
      · rintro ⟨hfirst, hrest⟩ i a ha hh
        cases i with
        | zero =>
          have heq : alert = a := by simpa using ha
          subst heq
          exact hfirst hh
        | succ i =>
          have := hrest i a (by simpa using ha) hh
          rwa [show k + 1 + i = k + (i + 1) by omega] at this
    rw [hshift]
    unfold ingestEach
    by_cases hhanded : handed source alert = true
    · rw [if_pos hhanded, filter_cons_of_pos hhanded]
      by_cases hfails : env.writeFails source k = true
      · rw [if_pos hfails]
        simp [hhanded, hfails]
      · rw [if_neg hfails]
        cases hingest : s.alerts.ingestAlert alert with
        | error e => simp [AlertTable.ingestAll, hingest]
        | ok stored =>
          obtain ⟨alerts, isNew⟩ := stored
          have hrest := ih (k + 1)
            { alerts := alerts, trace := s.trace ++ [.ingested source alert] }
          have hsame : AlertTable.ingestAll (alert :: rest.filter (handed source)) s.alerts =
              AlertTable.ingestAll (rest.filter (handed source)) alerts := by
            rw [AlertTable.ingestAll, hingest]
          rw [hsame]
          have hout : ∀ r : Except ScanError ℕ,
              (∃ n, r.map (fun n => n + 1) = .ok n) ↔ ∃ n, r = .ok n := by
            intro r
            cases r <;> simp [Except.map]
          show (∃ n, Except.map (fun n => n + 1) (ingestEach env source (k + 1) rest
            { alerts := alerts, trace := s.trace ++ [.ingested source alert] }).1 = .ok n) ↔ _
          rw [hout, hrest]
          simp [hfails]
    · rw [if_neg hhanded, filter_cons_of_neg hhanded, ih]
      simp [hhanded]

variable (env source) in
lemma pollOne_ingests (s : ScanState) : ∃ done,
    done <+: (parsedOf env source).filter (handed source) ∧
      Ingests s (pollOne env source s).2 (fromSource source done) ∧
      ∀ r, (pollOne env source s).1 = .ok r →
        done = (parsedOf env source).filter (handed source) := by
  unfold pollOne parsedOf
  cases env.fetch source with
  | raised | nothing => exact ⟨[], prefix_rfl, .refl s, fun _ _ => rfl⟩
  | body body =>
    dsimp only
    cases parseForSource env source body with
    | error e => exact ⟨[], prefix_rfl, .refl s, fun _ _ => rfl⟩
    | ok parsed =>
      rcases ingestEach_ingests env source parsed 0 s with
        ⟨done, hbegins, hingests, hall⟩
      refine ⟨done, hbegins, hingests, ?_⟩
      intro r h
      rcases map_eq_ok h with ⟨n, hn⟩
      exact hall n hn

variable (env source) in
lemma pollOne_returns_iff (s : ScanState) : (∃ r, (pollOne env source s).1 = .ok r) ↔
    (∀ k alert, (parsedOf env source)[k]? = some alert → handed source alert = true →
      env.writeFails source k = false) ∧
    ∃ t', AlertTable.ingestAll ((parsedOf env source).filter (handed source)) s.alerts =
      .ok t' := by
  have hempty : ∀ r, (∃ r', ((.ok r, s) :
      Except ScanError (ℕ × Bool × HealthDetail) × ScanState).1 = .ok r') ↔
      (∀ (k : ℕ) (alert : EasCapAlert), ([] : List EasCapAlert)[k]? = some alert →
        handed source alert = true → env.writeFails source k = false) ∧
      ∃ t', AlertTable.ingestAll ([].filter (handed source)) s.alerts = .ok t' := by
    intro r
    simp [AlertTable.ingestAll]
  unfold pollOne parsedOf
  cases env.fetch source with
  | raised | nothing => exact hempty _
  | body body =>
    dsimp only
    cases parseForSource env source body with
    | error e => exact hempty _
    | ok parsed =>
      have hout : ∀ r : Except ScanError ℕ,
          (∃ r', r.map (fun n => (n, true, HealthDetail.ok parsed.length n)) = .ok r') ↔
            ∃ n, r = .ok n := by
        intro r
        cases r <;> simp [Except.map]
      have hloop := ingestEach_returns_iff env source parsed 0 s
      simp only [Nat.zero_add] at hloop
      rw [hout]
      exact hloop

variable (env) in
lemma handedOf_of_polled (h : polled source = true) :
    handedOf env source = (parsedOf env source).filter (handed source) := by
  unfold handedOf
  rw [if_pos h]

variable (env) in
/-- The loop over the sources ingests nothing but what they hand over, and all of it
when it returns. -/
lemma pollEach_ingests : ∀ (sources : List EasCapSource) (s : ScanState),
    ∃ log, Ingests s (pollEach env sources s).2 log ∧
      (∀ p ∈ log, p.1 ∈ sources ∧ p.2 ∈ handedOf env p.1) ∧
      ∀ r, (pollEach env sources s).1 = .ok r →
        log = sources.flatMap fun source => fromSource source (handedOf env source) := by
  intro sources
  induction sources with
  | nil =>
    intro s
    exact ⟨[], .refl s, by simp, fun _ _ => rfl⟩
  | cons source rest ih =>
    intro s
    unfold pollEach
    by_cases hpolled : polled source = true
    · rw [if_pos hpolled]
      have hhanded := handedOf_of_polled env hpolled
      rcases pollOne_ingests env source s with ⟨done, hbegins, hone, hall⟩
      rw [← hhanded] at hbegins hall
      have hdone : ∀ p ∈ fromSource source done,
          p.1 ∈ source :: rest ∧ p.2 ∈ handedOf env p.1 := by
        intro p hp
        rcases mem_map.mp hp with ⟨alert, halert, rfl⟩
        exact ⟨mem_cons_self, hbegins.subset halert⟩
      rcases hout : pollOne env source s with ⟨r, s'⟩
      rw [hout] at hone hall
      cases r with
      | error e => exact ⟨_, hone, hdone, by intro r h; cases h⟩
      | ok report =>
        obtain ⟨n, healthy, detail⟩ := report
        dsimp only
        by_cases hhook : env.hookFails source = true
        · -- the health hook raises, after the ingests
          rw [if_pos hhook]
          exact ⟨_, hone, hdone, by intro r h; cases h⟩
        · rw [if_neg hhook]
          rcases ih { s' with trace := s'.trace ++ [.health source healthy detail] } with
            ⟨log, hrest, hlog, hreturned⟩
          have hreported := (hone.trans (.health source healthy detail)).trans hrest
          rw [append_nil] at hreported
          refine ⟨_, hreported, ?_, ?_⟩
          · intro p hp
            rcases mem_append.mp hp with hp | hp
            · exact hdone p hp
            · exact ⟨mem_cons_of_mem _ (hlog p hp).1, (hlog p hp).2⟩
          · intro r h
            rcases map_eq_ok h with ⟨result, hresult⟩
            rw [flatMap_cons, ← hreturned result hresult, hall _ rfl]
    · -- the source is passed over
      rw [if_neg hpolled]
      have hnone : handedOf env source = [] := by
        unfold handedOf
        rw [if_neg hpolled]
      rcases ih s with ⟨log, hrest, hlog, hreturned⟩
      refine ⟨log, hrest, fun p hp => ⟨mem_cons_of_mem _ (hlog p hp).1, (hlog p hp).2⟩, ?_⟩
      intro r h
      rw [hreturned r h, flatMap_cons, hnone]
      rfl

/-- The loop over the sources returns exactly when no health hook raises, no write
fails, and the store takes every alert. -/
lemma pollEach_returns_iff : ∀ (sources : List EasCapSource) (s : ScanState),
    (∃ r, (pollEach env sources s).1 = .ok r) ↔
      (∀ source ∈ sources, polled source = true → env.hookFails source = false) ∧
      (∀ source ∈ sources, WritesLand env source) ∧
      ∃ t', AlertTable.ingestAll (sources.flatMap (handedOf env)) s.alerts = .ok t' := by
  intro sources
  induction sources with
  | nil =>
    intro s
    simp [pollEach, AlertTable.ingestAll]
  | cons source rest ih =>
    intro s
    rw [forall_mem_cons, forall_mem_cons, flatMap_cons]
    unfold pollEach
    by_cases hpolled : polled source = true
    · rw [if_pos hpolled]
      have hhanded := handedOf_of_polled env hpolled
      have hone := pollOne_returns_iff env source s
      have hlands : WritesLand env source ↔ ∀ k alert,
          (parsedOf env source)[k]? = some alert → handed source alert = true →
            env.writeFails source k = false :=
        ⟨fun h => h hpolled, fun h _ => h⟩
      rw [← hhanded, ← hlands] at hone
      rcases pollOne_ingests env source s with ⟨done, _, hingests, hall⟩
      rw [← hhanded] at hall
      rcases hout : pollOne env source s with ⟨r, s'⟩
      rw [hout] at hone hingests hall
      cases r with
      | error e =>
        -- the poll raised: a write failed, or the store refused an alert
        constructor
        · rintro ⟨r, h⟩
          cases h
        · rintro ⟨_, ⟨hland, _⟩, t', ht'⟩
          rcases AlertTable.ingestAll_append.mp ht' with ⟨t₁, hfirst, _⟩
          rcases hone.mpr ⟨hland, t₁, hfirst⟩ with ⟨r, h⟩
          cases h
      | ok report =>
        obtain ⟨n, healthy, detail⟩ := report
        have hland : WritesLand env source := (hone.mp ⟨_, rfl⟩).1
        have hdone := hall _ rfl
        have halerts := hingests.alerts
        rw [hdone, fromSource, map_map] at halerts
        have hid : (Prod.snd ∘ fun alert => (source, alert)) = (id : EasCapAlert → _) := rfl
        rw [hid, map_id] at halerts
        dsimp only
        by_cases hhook : env.hookFails source = true
        · rw [if_pos hhook]
          constructor
          · rintro ⟨r, h⟩
            cases h
          · rintro ⟨⟨hhooks, _⟩, _⟩
            rw [hhooks hpolled] at hhook
            cases hhook
        · rw [if_neg hhook]
          have hrest := ih { s' with trace := s'.trace ++ [.health source healthy detail] }
          have hmap : ∀ (r : Except ScanError EasPollScanResult) (f : _ → EasPollScanResult),
              (∃ r', r.map f = .ok r') ↔ ∃ r', r = .ok r' := by
            intro r f
            cases r <;> simp [Except.map]
          -- the store continues from what this source left
          have hjoined : (∃ t', AlertTable.ingestAll
                (handedOf env source ++ rest.flatMap (handedOf env)) s.alerts = .ok t') ↔
              ∃ t', AlertTable.ingestAll (rest.flatMap (handedOf env)) s'.alerts = .ok t' := by
            constructor
            · rintro ⟨t', ht'⟩
              rcases AlertTable.ingestAll_append.mp ht' with ⟨t₁, hfirst, hsecond⟩
              rw [halerts] at hfirst
              cases hfirst
              exact ⟨t', hsecond⟩
            · rintro ⟨t', ht'⟩
              exact ⟨t', AlertTable.ingestAll_append.mpr ⟨_, halerts, ht'⟩⟩
          rw [hmap, hrest, hjoined]
          simp [hhook, hland]
    · rw [if_neg hpolled, ih]
      have hnone : handedOf env source = [] := by
        unfold handedOf
        rw [if_neg hpolled]
      have hland : WritesLand env source := fun h => absurd h hpolled
      rw [hnone]
      simp [hpolled, hland]

end Loops

/-! ## A feature that raises -/

section Features

variable {rt : Runtime} {now : Instant} {sourceId : Text} {alert : EasCapAlert}

lemma parseFeatures_error_iff : ∀ {features : List Json},
    (∃ e, parseFeatures rt now sourceId features = .error e) ↔
      ∃ feature ∈ features, ∃ e, parseFeature rt now sourceId feature = .error e := by
  intro features
  induction features with
  | nil => simp [parseFeatures]
  | cons feature rest ih =>
    rw [exists_mem_cons_iff, ← ih]
    cases hfirst : parseFeature rt now sourceId feature with
    | error e =>
      have hout : parseFeatures rt now sourceId (feature :: rest) = .error e := by
        rw [parseFeatures, hfirst]
        rfl
      rw [hout]
      simp
    | ok first =>
      cases hrest : parseFeatures rt now sourceId rest with
      | error e =>
        have hout : parseFeatures rt now sourceId (feature :: rest) = .error e := by
          rw [parseFeatures, hfirst, hrest]
          rfl
        rw [hout]
        simp
      | ok alerts =>
        rw [parseFeatures_cons.mpr ⟨first, alerts, hfirst, hrest, rfl⟩]
        simp

lemma mem_parseFeatures : ∀ {features : List Json} {alerts : List EasCapAlert},
    parseFeatures rt now sourceId features = .ok alerts →
    (alert ∈ alerts ↔
      ∃ feature ∈ features, parseFeature rt now sourceId feature = .ok (some alert)) := by
  intro features
  induction features with
  | nil =>
    intro alerts h
    cases h
    simp
  | cons feature rest ih =>
    intro alerts h
    rcases parseFeatures_cons.mp h with ⟨first, others, hfirst, hothers, rfl⟩
    rw [mem_append, ih hothers, exists_mem_cons_iff, hfirst, Option.mem_toList]
    simp

end Features

section Hidden

variable {source : EasCapSource} {alert : EasCapAlert}

/-- Without a feature that raises, the well-formed alerts are the parsed ones. -/
lemma mem_parsedOf_of_wellFormed (hgood : ¬ HasBadFeature env source)
    (h : WellFormed env source alert) : alert ∈ parsedOf env source := by
  rcases h with ⟨body, hbody, h⟩
  unfold parsedOf
  rw [hbody]
  show alert ∈ ((parseForSource env source body).toOption).getD []
  unfold parseForSource
  by_cases hkind : source.kind = .nwsCap
  · rw [if_pos hkind] at h ⊢
    rcases h with ⟨features, hfeatures, hfeature⟩
    rw [parseNwsGeojson, hfeatures]
    show alert ∈
      ((parseFeatures env.rt (env.readAt source) source.sourceId features).toOption).getD []
    cases hparsed : parseFeatures env.rt (env.readAt source) source.sourceId features with
    | error e =>
      have hraises := parseFeatures_error_iff.mp ⟨e, hparsed⟩
      exact absurd ⟨body, features, hbody, hkind, hfeatures, hraises⟩ hgood
    | ok alerts => exact (mem_parseFeatures hparsed).mpr hfeature
  · rw [if_neg hkind] at h ⊢
    rcases h with ⟨alerts, hparsed, hmem⟩
    rw [hparsed]
    exact hmem

/-- A feature that raises takes every other alert of its feed with it. -/
lemma parsedOf_eq_nil (hbad : HasBadFeature env source) : parsedOf env source = [] := by
  rcases hbad with ⟨body, features, hbody, hkind, hfeatures, hraises⟩
  rcases parseFeatures_error_iff.mpr hraises with ⟨e, herror⟩
  have hparse : parseForSource env source body = .error e := by
    rw [parseForSource, if_pos hkind, parseNwsGeojson, hfeatures]
    exact herror
  unfold parsedOf
  rw [hbody]
  show ((parseForSource env source body).toOption).getD [] = []
  rw [hparse]
  rfl

lemma handed_of_passes (h : alertPassesSourceFilter alert source = true) :
    handed source alert = true := by
  unfold handed
  rw [h, Bool.or_true]

variable (env) in
lemma postScan_iff (sources : List EasCapSource) (alerts : AlertTable) :
    .postScan ∈ (runOnce env sources alerts).2.trace ↔
      ∃ r, (pollEach env sources ⟨(alerts.expireAlerts env.now).1, []⟩).1 = .ok r := by
  rcases pollEach_ingests env sources ⟨(alerts.expireAlerts env.now).1, []⟩ with
    ⟨log, hlog, _, _⟩
  unfold runOnce
  dsimp only
  rcases hout : pollEach env sources ⟨(alerts.expireAlerts env.now).1, []⟩ with ⟨r, s⟩
  rw [hout] at hlog
  cases r with
  | error e =>
    have hno : .postScan ∉ s.trace := by
      rw [hlog.noPass]
      exact not_mem_nil
    simp [hno]
  | ok result => simp

variable (env) in
/-- What a scan has ingested, on every way it can end. -/
lemma runOnce_ingests (sources : List EasCapSource) (alerts : AlertTable) :
    ∃ log, AlertTable.ingestAll (log.map Prod.snd) (alerts.expireAlerts env.now).1 =
        .ok (runOnce env sources alerts).2.alerts ∧
      (runOnce env sources alerts).2.log = log ∧
      (∀ p ∈ log, p.1 ∈ sources ∧ p.2 ∈ handedOf env p.1) ∧
      (.postScan ∈ (runOnce env sources alerts).2.trace →
        log = sources.flatMap fun source => fromSource source (handedOf env source)) := by
  rcases pollEach_ingests env sources ⟨(alerts.expireAlerts env.now).1, []⟩ with
    ⟨log, hlog, hfrom, hall⟩
  have hpost := postScan_iff env sources alerts
  unfold runOnce at hpost ⊢
  dsimp only at hpost ⊢
  rcases hout : pollEach env sources ⟨(alerts.expireAlerts env.now).1, []⟩ with ⟨r, s⟩
  rw [hout] at hlog hall hpost
  have hlogged := hlog.logged
  cases r with
  | error e =>
    refine ⟨log, hlog.alerts, ?_, hfrom, ?_⟩
    · simpa [ScanState.log] using hlogged
    · intro h
      rcases hpost.mp h with ⟨r, hr⟩
      cases hr
  | ok result =>
    refine ⟨log, hlog.alerts, ?_, hfrom, fun _ => hall result rfl⟩
    have hnone : [ScanEvent.postScan].filterMap ScanEvent.ingest? = [] := rfl
    simpa [ScanState.log, hnone] using hlogged

/-- A scan ingests every well-formed alert that passes its source's filter and runs the
display pass, exactly when no health hook and no store write raises, and a feed with a
feature that raises has no such alert. -/
theorem nothing_hidden_iff (env : ScanEnv) (sources : List EasCapSource) (alerts : AlertTable) :
    NothingHidden env sources alerts ↔
      (∀ source ∈ sources, polled source = true → env.hookFails source = false) ∧
      (∀ source ∈ sources, WritesLand env source) ∧
      (∃ t', AlertTable.ingestAll (sources.flatMap (handedOf env))
        (alerts.expireAlerts env.now).1 = .ok t') ∧
      ∀ source ∈ sources, polled source = true → HasBadFeature env source →
        ∀ alert, WellFormed env source alert → alertPassesSourceFilter alert source = false := by
  rcases runOnce_ingests env sources alerts with ⟨log, _, hlog, hfrom, hall⟩
  have hreturns := (postScan_iff env sources alerts).trans
    (pollEach_returns_iff sources ⟨(alerts.expireAlerts env.now).1, []⟩)
  constructor
  · rintro ⟨hpost, hingested⟩
    rcases hreturns.mp hpost with ⟨hhooks, hlands, hstored⟩
    refine ⟨hhooks, hlands, hstored, ?_⟩
    intro source hsource hpolled hbad alert hformed
    by_contra hpasses
    have hpasses : alertPassesSourceFilter alert source = true := by simpa using hpasses
    have hmem := hingested source hsource hpolled alert hformed hpasses
    rw [← ScanState.mem_log, hlog] at hmem
    have hhanded := (hfrom _ hmem).2
    rw [handedOf_of_polled env hpolled, parsedOf_eq_nil hbad] at hhanded
    cases hhanded
  · rintro ⟨hhooks, hlands, hstored, hharmless⟩
    have hpost := hreturns.mpr ⟨hhooks, hlands, hstored⟩
    refine ⟨hpost, ?_⟩
    intro source hsource hpolled alert hformed hpasses
    have hgood : ¬ HasBadFeature env source := by
      intro hbad
      rw [hharmless source hsource hpolled hbad alert hformed] at hpasses
      cases hpasses
    have hparsed := mem_parsedOf_of_wellFormed hgood hformed
    have hhanded : alert ∈ handedOf env source := by
      rw [handedOf_of_polled env hpolled]
      exact mem_filter.mpr ⟨hparsed, handed_of_passes hpasses⟩
    rw [← ScanState.mem_log, hlog, hall hpost]
    exact mem_flatMap.mpr ⟨source, hsource, mem_map.mpr ⟨alert, hhanded, rfl⟩⟩

/-- A weather service feed, without a filter. -/
def feedSource : EasCapSource where
  sourceId := ['s']
  label := ['s']
  kind := .nwsCap
  endpointUrl := some ['u']
  geocodeFilter := []
  severityFloor := .minor
  enabled := true

def senderlessFeature : Json :=
  .obj [("properties".toList, .obj [("id".toList, .str ['1']), ("sender".toList, .bool true)])]

def extremeFeature : Json :=
  .obj [("properties".toList, .obj [
    ("id".toList, .str ['2']),
    ("sender".toList, .str ['n', 'w', 's']),
    ("severity".toList, .str "Extreme".toList)])]

/-- A scan that fetches both. -/
def mixedFeed : ScanEnv where
  rt := { feedRuntime with
    loads := fun _ => some (.obj [("features".toList, .arr [senderlessFeature, extremeFeature])]) }
  now := 0
  readAt := fun _ => 0
  fetch := fun _ => .body []
  writeFails := fun _ _ => false
  hookFails := fun _ => false

/-- The warning is lost with the feature beside it. -/
theorem mixed_feed_hides_warning :
    ¬ ∀ env sources alerts, NothingHidden env sources alerts := by
  intro h
  rcases h mixedFeed [feedSource] .empty with ⟨_, hingested⟩
  have hparse : (parseFeature mixedFeed.rt 0 ['s'] extremeFeature).toOption.join.any
      (fun alert => alertPassesSourceFilter alert feedSource) = true := by
    decide +kernel
  rcases hfeature : parseFeature mixedFeed.rt 0 ['s'] extremeFeature with e | _ | alert <;>
    rw [hfeature] at hparse
  · cases hparse
  · cases hparse
  · have hformed : WellFormed mixedFeed feedSource alert :=
      ⟨[], rfl, [senderlessFeature, extremeFeature], rfl, extremeFeature, by simp, hfeature⟩
    have hmem := hingested feedSource mem_cons_self rfl alert hformed hparse
    have hlog : (runOnce mixedFeed [feedSource] .empty).2.log = [] := by
      decide +kernel
    rw [← ScanState.mem_log, hlog] at hmem
    cases hmem

end Hidden

end CivicCast.Eas
