import CivicCast.Live.CdnPublisher

/-!
# The surge switch

`SurgeSwitch.tick` moves a channel from local serving to the CDN and back. Above the threshold
a channel warms up: it gets a publisher, which is run on every tick from then on. After the
delay buffer, counted from the decision to warm up, viewers are sent to the CDN. A pass that
raises, or a load below the release, brings the channel back, and what the publisher pushed is
evicted.

A pass that finds no local playlist uploads nothing and raises nothing, and the switch does not
look at what a pass returns. `viewers_find_playlist` is about every sequence of ticks in which
the tick that switches a channel to the CDN finds a local playlist, or an earlier pass did.
-/

namespace CivicCast.Live

open Lib Lib.Prog Function

inductive SwitchState where
  | local_
  | warming
  | cdn
  deriving DecidableEq

/-- The arguments of `SurgeSwitch`. -/
structure SurgeSettings where
  threshold : ℤ
  threshold_pos : 1 ≤ threshold
  releaseThreshold : Option ℤ
  bufferSeconds : ℚ

def SurgeSettings.release (cfg : SurgeSettings) : ℤ :=
  cfg.releaseThreshold.getD (max 1 (cfg.threshold / 2))

/-- A publisher, told apart from the others of its channel, and its `_uploaded`. -/
structure Publisher where
  id : ℕ
  uploaded : List ℕ
  deriving DecidableEq

/-- What the switch knows of a channel; how many publishers the channel has had; and whose
playlist is at its URL on the CDN. -/
structure Channel where
  state : SwitchState
  warmAt : ℚ
  publisher : Option Publisher
  made : ℕ
  edge : Option ℕ
  deriving DecidableEq

def Channel.idle : Channel where
  state := .local_
  warmAt := 0
  publisher := none
  made := 0
  edge := none

/-! ## A pass of the publisher of a channel -/

/-- What the programs of a publisher work on: who it is, its `_uploaded`, whether the local
playlist is there, and whose playlist is on the CDN. -/
structure Desk where
  id : ℕ
  uploaded : List ℕ
  playlist : Bool
  edge : Option ℕ
  deriving DecidableEq

namespace Desk

/-- The directory and the adapter answer as they like. -/
def Legal (d : Desk) : (o : CdnOp) → o.Res → Prop
  | .isFile, x => x = d.playlist
  | .uploaded, x => x = d.uploaded
  | _, _ => True

def after (d : Desk) : (o : CdnOp) → o.Res → Desk
  | .uploadSegment n, true => { d with uploaded := n :: d.uploaded }
  | .uploadManifest, true => { d with edge := some d.id }
  | .deleteSegment n, true => { d with uploaded := d.uploaded.filter (· ≠ n) }
  | .deleteManifest, true => { d with edge := none }
  | .clear, _ => { d with uploaded := [] }
  | _, _ => d

def machine : Machine cdnIface Desk where
  pre := fun _ _ => True
  legal := Legal
  next := after

end Desk

/-! ## A tick -/

/-- What a tick finds: the load, the clock, whether there is a CDN to publish to, and whether
the sink has written a playlist. -/
structure Tick where
  load : ℤ
  now : ℚ
  configured : Bool
  playlist : Bool
  deriving DecidableEq

/-- What a tick does after it has settled the state. -/
inductive Next where
  | stop
  | toLocal
  | publish
  deriving DecidableEq

/-- `tick` up to the pass of the publisher. -/
def settle (cfg : SurgeSettings) (tick : Tick) (ch : Channel) : Channel × Next :=
  match ch.state with
  | .local_ =>
    if cfg.threshold ≤ tick.load then
      if tick.configured then
        ({ ch with
            state := .warming
            warmAt := tick.now
            publisher := some ⟨ch.made, []⟩
            made := ch.made + 1 }, .publish)
      else (ch, .stop)
    else (ch, .publish)
  | .warming =>
    if tick.load < cfg.release then (ch, .toLocal)
    else if cfg.bufferSeconds ≤ tick.now - ch.warmAt then ({ ch with state := .cdn }, .publish)
    else (ch, .publish)
  | .cdn => if tick.load < cfg.release then (ch, .toLocal) else (ch, .publish)

/-- `_to_local` where `evict_all` left this on the CDN. -/
def Channel.toLocal (ch : Channel) (edge : Option ℕ) : Channel :=
  { ch with state := .local_, publisher := none, edge := edge }

def Channel.desk (ch : Channel) (p : Publisher) (tick : Tick) : Desk :=
  ⟨p.id, p.uploaded, tick.playlist, ch.edge⟩

/-- `_to_local`: the publisher evicts what it can. -/
inductive ToLocal (tick : Tick) (ch : Channel) : Channel → Prop
  | bare (h : ch.publisher = none) : ToLocal tick ch (ch.toLocal ch.edge)
  | evicted {p : Publisher} {r : Except CdnError Unit} {d : Desk} (h : ch.publisher = some p)
    (hevict : Exec Desk.machine evictAll (ch.desk p tick) r d) : ToLocal tick ch (ch.toLocal d.edge)

/-- The pass at the end of a tick. -/
inductive Published (tick : Tick) (ch : Channel) : Channel → Prop
  | bare (h : ch.publisher = none) : Published tick ch ch
  | synced {p : Publisher} {uploaded : Bool} {d : Desk} (h : ch.publisher = some p)
    (hsync : Exec Desk.machine sync (ch.desk p tick) (.ok uploaded) d) :
    Published tick ch { ch with publisher := some ⟨p.id, d.uploaded⟩, edge := d.edge }
  | raised {p : Publisher} {e : CdnError} {d : Desk} {ch' : Channel} (h : ch.publisher = some p)
    (hsync : Exec Desk.machine sync (ch.desk p tick) (.error e) d)
    (hlocal : ToLocal tick { ch with publisher := some ⟨p.id, d.uploaded⟩, edge := d.edge } ch') :
    Published tick ch ch'

/-- One tick of a channel. -/
inductive Ticked (cfg : SurgeSettings) (tick : Tick) (ch : Channel) : Channel → Prop
  | stop (h : (settle cfg tick ch).2 = .stop) : Ticked cfg tick ch (settle cfg tick ch).1
  | toLocal {ch' : Channel} (h : (settle cfg tick ch).2 = .toLocal)
    (hlocal : ToLocal tick (settle cfg tick ch).1 ch') : Ticked cfg tick ch ch'
  | publish {ch' : Channel} (h : (settle cfg tick ch).2 = .publish)
    (hpublish : Published tick (settle cfg tick ch).1 ch') : Ticked cfg tick ch ch'

/-- `manifest_url`: the URL of a channel that is switched. -/
def Channel.manifestUrl {U : Type} (url : U) (ch : Channel) : Option U :=
  if ch.state = .cdn then ch.publisher.map fun _ => url else none

/-! ## Every sequence of ticks -/

def Switches (cfg : SurgeSettings) (tick : Tick) (ch : Channel) : Prop :=
  ch.state = .warming ∧ cfg.release ≤ tick.load ∧ cfg.bufferSeconds ≤ tick.now - ch.warmAt

/-- The publisher of the channel has put its playlist up, and it is there still. -/
def Channel.Up (ch : Channel) : Prop := ∃ p, ch.publisher = some p ∧ ch.edge = some p.id

/-- Where the channel is switched, its publisher has a playlist up or finds one to upload. -/
def Warm (cfg : SurgeSettings) (tick : Tick) (ch : Channel) : Prop :=
  Switches cfg tick ch → tick.playlist = true ∨ ch.Up

/-- The switch over all channels, after ticks that all satisfy `ok`. -/
inductive Reached {K : Type} [DecidableEq K] (cfg : SurgeSettings)
    (ok : SurgeSettings → Tick → Channel → Prop) : (K → Channel) → Prop
  | start : Reached cfg ok fun _ => .idle
  | tick {s : K → Channel} {ch' : Channel} (h : Reached cfg ok s) (channel : K) (tick : Tick)
    (hok : ok cfg tick (s channel)) (hticked : Ticked cfg tick (s channel) ch') :
    Reached cfg ok (update s channel ch')

/-! ## What a pass leaves at the URL -/

section Pass

variable {d : Desk}

def CdnOp.isSegment : CdnOp → Bool
  | uploaded | uploadSegment _ | deleteSegment _ => true
  | _ => false

lemma uploadNew_uses (names : List ℕ) :
    (uploadNew names).Uses (fun o : CdnOp => o.isSegment = true) fun _ => True := by
  induction names with
  | nil => trivial
  | cons n rest ih =>
    refine ⟨rfl, fun (known : List ℕ) => ?_⟩
    refine uses_ite ih ?_
    refine ⟨rfl, fun done => ?_⟩
    cases done with
    | false => trivial
    | true => exact ih

lemma evictGone_uses {names : List ℕ} :
    (evictGone names).Uses (fun o : CdnOp => o.isSegment = true) fun _ => True := by
  induction names with
  | nil => trivial
  | cons n rest ih =>
    refine ⟨rfl, fun done => ?_⟩
    cases done with
    | false => trivial
    | true => exact ih

lemma segments_wp {α : Type} {p : CdnM α}
    (h : p.Uses (fun o : CdnOp => o.isSegment = true) fun _ => True) :
    p.wp Desk.machine (fun _ d' => d'.id = d.id ∧ d'.edge = d.edge) d := by
  have hkeeps : p.Keeps Desk.machine (fun d' => d'.id = d.id ∧ d'.edge = d.edge) fun _ => True := by
    refine h.keeps (fun _ _ _ _ => trivial) ?_
    intro d' o x ho hd' _
    cases o with
    | uploaded => exact hd'
    | uploadSegment n | deleteSegment n => cases x <;> exact hd'
    | _ => cases ho
  exact wp_mono (fun _ _ hr => hr.1) (hkeeps d ⟨rfl, rfl⟩)

/-- What a pass that returns leaves at the URL: its own playlist where there is a local one, and
what was there where there is none. -/
lemma sync_edge :
    sync.wp Desk.machine (fun r d' => ∀ uploaded, r = .ok uploaded →
      d'.edge = if d.playlist then some d.id else d.edge) d := by
  refine ⟨trivial, fun there hthere => ?_⟩
  obtain rfl : there = d.playlist := hthere
  cases hplaylist : d.playlist with
  | false => exact fun _ _ => rfl
  | true =>
    refine ⟨trivial, fun current _ => ?_⟩
    change (uploadNew current >>= _).wp Desk.machine _ d
    refine wp_seq (segments_wp (uploadNew_uses current)) ?_ ?_
    · rintro ⟨⟩ d₁ ⟨hid, -⟩
      refine ⟨trivial, fun done _ => ?_⟩
      cases done with
      | false => exact fun _ hr => by cases hr
      | true =>
        refine ⟨trivial, fun known _ => ?_⟩
        change (evictGone _ >>= _).wp Desk.machine _ { d₁ with edge := some d₁.id }
        refine wp_seq (segments_wp evictGone_uses) ?_ ?_
        · rintro ⟨⟩ d₂ ⟨-, hedge⟩ _ _
          exact hedge.trans (congrArg some hid)
        · exact fun _ _ _ _ hr => by cases hr
    · exact fun _ _ _ _ hr => by cases hr

end Pass

/-! ## What a tick leaves -/

section Step

variable {cfg : SurgeSettings} {tick : Tick} {ch ch' : Channel}

lemma ToLocal.state (h : ToLocal tick ch ch') : ch'.state = .local_ := by
  cases h with
  | bare | evicted => rfl

lemma ToLocal.publisher (h : ToLocal tick ch ch') : ch'.publisher = none := by
  cases h with
  | bare | evicted => rfl

/-- After a pass the channel is local, or its state is as it was settled and the playlist of its
publisher is up where it was up or there was one to upload. -/
lemma Published.cases (h : Published tick ch ch') (hsome : ch.publisher.isSome = true) :
    (ch'.state = .local_ ∧ ch'.publisher = none) ∨
      (ch'.state = ch.state ∧ ch'.publisher.isSome = true ∧
        (ch'.Up ↔ tick.playlist = true ∨ ch.Up)) := by
  cases h with
  | bare hnone =>
    rw [hnone] at hsome
    cases hsome
  | @synced p uploaded d hp hsync =>
    refine .inr ⟨rfl, rfl, ?_⟩
    have hedge : d.edge = if tick.playlist then some p.id else ch.edge :=
      hsync.post sync_edge uploaded rfl
    simp only [Channel.Up, hp, hedge, Option.some.injEq, exists_eq_left']
    cases tick.playlist <;> simp
  | raised hp hsync hlocal => exact .inl ⟨hlocal.state, hlocal.publisher⟩

/-- A channel has a publisher where it is not local, and its playlist is up where it is switched. -/
structure Channel.Inv (ch : Channel) : Prop where
  idle : ch.state = .local_ → ch.publisher = none
  busy : ch.state ≠ .local_ → ch.publisher.isSome = true
  up : ch.state = .cdn → ch.Up

lemma ToLocal.inv (h : ToLocal tick ch ch') : ch'.Inv := by
  have hlocal : ch'.state = .local_ := h.state
  constructor
  · exact fun _ => h.publisher
  · exact fun hne => (hne hlocal).elim
  · intro hcdn
    cases hlocal.symm.trans hcdn

/-- A channel that is not local keeps the invariant over a pass, if a switched one has its
playlist up or finds one. -/
lemma Published.inv (h : Published tick ch ch') (hsome : ch.publisher.isSome = true)
    (hbusy : ch.state ≠ .local_) (hup : ch.state = .cdn → tick.playlist = true ∨ ch.Up) :
    ch'.Inv := by
  rcases h.cases hsome with ⟨hlocal, hnone⟩ | ⟨hstate, hsome', hiff⟩
  · constructor
    · exact fun _ => hnone
    · exact fun hne => (hne hlocal).elim
    · intro hcdn
      cases hlocal.symm.trans hcdn
  · constructor
    · exact fun hlocal => (hbusy (hstate ▸ hlocal)).elim
    · exact fun _ => hsome'
    · exact fun hcdn => hiff.mpr (hup (hstate ▸ hcdn))

lemma Switches.busy (h : Switches cfg tick ch) : ch.state ≠ .local_ := by
  rw [h.1]
  decide

lemma Switches.settle_eq (h : Switches cfg tick ch) :
    settle cfg tick ch = ({ ch with state := .cdn }, .publish) := by
  obtain ⟨hwarming, hload, hbuffer⟩ := h
  simp [settle, hwarming, not_lt.mpr hload, hbuffer]

variable (cfg tick ch) in
/-- What a tick can make of the state before the pass: nothing; the channel warms up with a new
publisher; or it is switched. -/
lemma settle_cases :
    (settle cfg tick ch).1 = ch ∨
      ((settle cfg tick ch).2 = .publish ∧ (settle cfg tick ch).1.state = .warming ∧
        (settle cfg tick ch).1.publisher = some ⟨ch.made, []⟩) ∨
      (settle cfg tick ch = ({ ch with state := .cdn }, .publish) ∧ Switches cfg tick ch) := by
  unfold settle
  cases hstate : ch.state with
  | local_ =>
    by_cases hload : cfg.threshold ≤ tick.load
    · cases hconfigured : tick.configured <;> simp [hload]
    · simp [hload]
  | warming =>
    by_cases hrelease : tick.load < cfg.release
    · simp [hrelease]
    · by_cases hbuffer : cfg.bufferSeconds ≤ tick.now - ch.warmAt
      · have hswitches : Switches cfg tick ch := ⟨hstate, not_lt.mp hrelease, hbuffer⟩
        simp [hrelease, hbuffer, hswitches]
      · simp [hrelease, hbuffer]
  | cdn =>
    by_cases hrelease : tick.load < cfg.release
    · simp [hrelease]
    · simp [hrelease]

lemma Published.bare_eq (h : Published tick ch ch') (hnone : ch.publisher = none) : ch' = ch := by
  cases h with
  | bare => rfl
  | synced hp | raised hp => cases hnone.symm.trans hp

lemma Published.settle_inv (h : Published tick (settle cfg tick ch).1 ch') (hinv : ch.Inv)
    (hwarm : Warm cfg tick ch) : ch'.Inv := by
  rcases settle_cases cfg tick ch with heq | ⟨-, hwarming, hnew⟩ | ⟨heq, hswitches⟩
  · rw [heq] at h
    by_cases hlocal : ch.state = .local_
    · rw [h.bare_eq (hinv.idle hlocal)]
      exact hinv
    · exact h.inv (hinv.busy hlocal) hlocal fun hcdn => .inr (hinv.up hcdn)
  · -- a new publisher: the channel is not switched yet
    refine h.inv ?_ ?_ ?_
    · rw [hnew]
      rfl
    · rw [hwarming]
      decide
    · intro hcdn
      cases hwarming.symm.trans hcdn
  · -- the channel is switched, and the condition is on this tick
    rw [heq] at h
    exact h.inv (hinv.busy hswitches.busy) (fun hlocal => by cases hlocal) fun _ => hwarm hswitches

lemma Ticked.inv (h : Ticked cfg tick ch ch') (hinv : ch.Inv) (hwarm : Warm cfg tick ch) :
    ch'.Inv := by
  cases h with
  | stop hstop =>
    -- a tick stops where there is no CDN, before anything changed
    rcases settle_cases cfg tick ch with heq | ⟨hpublish, -⟩ | ⟨heq, -⟩
    · rw [heq]
      exact hinv
    · cases hstop.symm.trans hpublish
    · rw [heq] at hstop
      cases hstop
  | toLocal _ hlocal => exact hlocal.inv
  | publish _ hpublish => exact hpublish.settle_inv hinv hwarm

end Step

section Run

variable {K : Type} [DecidableEq K] {cfg : SurgeSettings} {s : K → Channel}

lemma Reached.inv (h : Reached cfg Warm s) (channel : K) : (s channel).Inv := by
  induction h with
  | start => exact ⟨fun _ => rfl, fun hne => (hne rfl).elim, fun hcdn => by cases hcdn⟩
  | tick hreached ticked tick hok hticked ih =>
    by_cases heq : channel = ticked
    · subst heq
      rw [update_self]
      exact hticked.inv ih hok
    · rw [update_of_ne heq]
      exact ih

/-- Wherever viewers are sent to the CDN, the publisher of the channel has put its playlist there
since the channel left local serving, and has not deleted it. -/
theorem viewers_find_playlist (h : Reached cfg Warm s) {channel : K} {U : Type} {url sent : U}
    (hsent : (s channel).manifestUrl url = some sent) : (s channel).Up := by
  have hcdn : (s channel).state = .cdn := by
    by_contra hne
    rw [Channel.manifestUrl, if_neg hne] at hsent
    cases hsent
  exact (h.inv channel).up hcdn

end Run

/-! ## Two ticks -/

lemma Ticked.synced {cfg : SurgeSettings} {tick : Tick} {ch settled : Channel} {p : Publisher}
    {uploaded : Bool} {d : Desk} (h : settle cfg tick ch = (settled, .publish))
    (hp : settled.publisher = some p)
    (hsync : Exec Desk.machine sync (settled.desk p tick) (.ok uploaded) d) :
    Ticked cfg tick ch { settled with publisher := some ⟨p.id, d.uploaded⟩, edge := d.edge } := by
  refine .publish (by rw [h]) ?_
  rw [h]
  exact .synced hp hsync

/-- Two viewers switch a channel, after fifteen seconds. -/
def councilNight : SurgeSettings where
  threshold := 2
  threshold_pos := by decide
  releaseThreshold := none
  bufferSeconds := 15

/-- A tick with two viewers. -/
def Tick.busy (now : ℚ) (playlist : Bool) : Tick := ⟨2, now, true, playlist⟩

/-- The first publisher of a channel, warming up since the clock read zero. -/
def Channel.warming (uploaded : List ℕ) (edge : Option ℕ) : Channel :=
  ⟨.warming, 0, some ⟨0, uploaded⟩, 1, edge⟩

def Channel.switched (uploaded : List ℕ) (edge : Option ℕ) : Channel :=
  { Channel.warming uploaded edge with state := .cdn }

lemma busy_warms {playlist : Bool} :
    settle councilNight (.busy 0 playlist) .idle = (.warming [] none, .publish) := rfl

lemma buffer_elapsed : councilNight.bufferSeconds ≤ 15 - 0 := by decide +kernel

lemma busy_switches {playlist : Bool} (uploaded : List ℕ) (edge : Option ℕ) :
    settle councilNight (.busy 15 playlist) (.warming uploaded edge) =
      (.switched uploaded edge, .publish) := by
  have hload : councilNight.release ≤ 2 := by decide
  exact Switches.settle_eq ⟨rfl, hload, buffer_elapsed⟩

/-- The pass of the first tick: the first segment and the playlist go up. -/
lemma sync_first : Exec Desk.machine sync ⟨0, [], true, none⟩ (.ok true) ⟨0, [0], true, some 0⟩ :=
  .call true rfl <| .call [0] trivial <| .call [] rfl <| .call true trivial <|
    .call true trivial <| .call [0] rfl <| .ret true _

lemma sync_nothing {d : Desk} (h : d.playlist = false) : Exec Desk.machine sync d (.ok false) d :=
  .call false h.symm <| .ret false _

/-- The playlist is up before the viewers are sent there, and the local one may be gone then. -/
theorem switched_with_playlist :
    ∃ s : Unit → Channel, Reached councilNight Warm s ∧
      (s ()).manifestUrl "edge" = some "edge" ∧ (s ()).Up := by
  have hwarm : Warm councilNight (.busy 0 true) .idle := fun hswitches => by cases hswitches.1
  have hfirst : Ticked councilNight (.busy 0 true) .idle (.warming [0] (some 0)) :=
    Ticked.synced busy_warms rfl sync_first
  have hup : (Channel.warming [0] (some 0)).Up := ⟨_, rfl, rfl⟩
  have hsecond : Ticked councilNight (.busy 15 false) (.warming [0] (some 0))
      (.switched [0] (some 0)) :=
    Ticked.synced (busy_switches [0] (some 0)) rfl (sync_nothing rfl)
  have hreached := (Reached.start).tick () _ hwarm hfirst
  have hreached := hreached.tick () _ (fun _ => .inr hup) hsecond
  exact ⟨_, hreached, rfl, @viewers_find_playlist _ _ _ _ hreached () String "edge" "edge" rfl⟩

/-- With no local playlist on either tick the channel is switched to a URL where nothing was ever
put. -/
theorem switched_without_playlist :
    ∃ s : Unit → Channel, Reached councilNight (fun _ _ _ => True) s ∧
      (s ()).manifestUrl "edge" = some "edge" ∧ ¬ (s ()).Up := by
  have hfirst : Ticked councilNight (.busy 0 false) .idle (.warming [] none) :=
    Ticked.synced busy_warms rfl (sync_nothing rfl)
  have hsecond : Ticked councilNight (.busy 15 false) (.warming [] none) (.switched [] none) :=
    Ticked.synced (busy_switches [] none) rfl (sync_nothing rfl)
  have hstart : Reached councilNight (fun _ _ _ => True) fun _ : Unit => Channel.idle := .start
  have hreached := hstart.tick () _ trivial hfirst
  have hreached := hreached.tick () _ trivial hsecond
  refine ⟨_, hreached, rfl, ?_⟩
  rintro ⟨p, -, hedge⟩
  cases hedge

end CivicCast.Live
