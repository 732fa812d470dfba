import CivicCast.Eas.Worker

/-! # A feed that is broken

The parsers answer a body they cannot read with no alerts, which is also what they answer for
a quiet feed, and the worker takes a source for unhealthy only where a parser raises.
`reports_broken_iff` says on which bodies a broken feed is reported: among those that are no
document of the source's format, on the XML documents with another root that the parser takes
for an alert all the same and the model of an alert refuses (`Refused`), and on no other.
-/

namespace CivicCast.Eas

open Lib (Text)

variable (env : ScanEnv)

def fetching (body : Text) : ScanEnv := { env with fetch := fun _ => .body body }

/-- A CAP document: an alert of one of the namespaces, with a sender, an identifier and an
info block. -/
def IsCapAlert (root : Element) : Prop :=
  ∃ ns, (ns = cap12Ns ∨ ns = cap11Ns) ∧ root.tag = qualified ns "alert" ∧
    ((childText ns root "sender").getD []).strip ≠ [] ∧
    ((childText ns root "identifier").getD []).strip ≠ [] ∧
    ∃ info, root.find (qualified ns "info") = some info

/-- The body is a document of the source's format. -/
def Document (source : EasCapSource) (body : Text) : Prop :=
  if source.kind = .nwsCap then ∃ features, (env.rt.loads body).bind featuresOf = some features
  else ∃ root, env.rt.fromstring body = some root ∧ IsCapAlert root

/-- Text, or a value that counts as none. -/
def Json.textual : Json → Bool
  | .str _ => true
  | value => !value.truthy

/-- Text of blanks, or a value that counts as none. -/
def Json.blank : Json → Bool
  | .str t => t.strip.isEmpty
  | value => !value.truthy

/-- The feature has no properties, or these lack a sender or an identifier. -/
def NoAlert (feature : Json) : Prop :=
  ∀ props, featureProps feature = some props →
    let sender := (Json.get props "sender".toList).orElse (Json.get props "senderName".toList)
    let identifier := Json.get props "id".toList
    sender.textual ∧ identifier.textual ∧ (sender.blank ∨ identifier.blank)

/-- The body is a collection none of whose features is an alert. A CAP document is one. -/
def Quiet (source : EasCapSource) (body : Text) : Prop :=
  source.kind = .nwsCap ∧ ∃ features, (env.rt.loads body).bind featuresOf = some features ∧
    ∀ feature ∈ features, NoAlert feature

/-- A body that is no document is not ingested and makes the source unhealthy, and a quiet
feed is healthy. -/
def ReportsBroken (source : EasCapSource) (body : Text) (s : ScanState) : Prop :=
  (¬ Document env source body →
    ∃ detail, pollOne (fetching env body) source s = (.ok (0, false, detail), s)) ∧
  (Document env source body → Quiet env source body →
    ∃ n detail, (pollOne (fetching env body) source s).1 = .ok (n, true, detail))

/-- The namespace that the parser reads a document in. -/
def namespaceOf (root : Element) : Text := if cap12Ns <:+: root.tag then cap12Ns else cap11Ns

/-- The document has a tag with the word in it, a sender, an identifier and an info block, but
its sender or identifier is too long for an alert, or its event is blank. -/
def Refused (root : Element) : Prop :=
  let ns := namespaceOf root
  let sender := ((childText ns root "sender").getD []).strip
  let identifier := ((childText ns root "identifier").getD []).strip
  "alert".toList <:+: root.tag ∧ sender ≠ [] ∧ identifier ≠ [] ∧
    ∃ info, root.find (qualified ns "info") = some info ∧
      (255 < sender.length ∨ 255 < identifier.length ∨
        (textOr (childText ns info "event") "Public safety alert".toList).strip = [])

section Raises

variable {rt : Runtime} {now : Instant} {root : Element} {sourceId : Text}

/-- Building an alert raises where a bound is violated. The other texts are cut to their bounds
before. -/
lemma buildAlert_error_iff {sender identifier event urgency certainty : Text} {sent : Instant}
    {msgType : EasMsgType} {severity : EasSeverity}
    {headline description instruction references : Option Text} {areas : List Text}
    {effective onset expires : Option Instant}
    (hsource : 1 ≤ sourceId.length ∧ sourceId.length ≤ 120) (hsender : sender ≠ [])
    (hidentifier : identifier ≠ []) :
    (∃ e, (buildAlert rt now sourceId sender identifier sent msgType (event.take 255) severity
        (urgency.take 40) (certainty.take 40) (clip headline 500) description instruction areas
        (clip references 4000) effective onset expires).map (fun alert => [alert]) = .error e) ↔
      255 < sender.length ∨ 255 < identifier.length ∨ event = [] := by
  have hclip : ∀ (value : Option Text) (n : ℕ), ((clip value n).getD []).length ≤ n := by
    intro value n
    cases value with
    | none => simp [clip]
    | some t => by_cases ht : t = [] <;> simp [clip, ht]
  have hpos := List.length_pos_iff.mpr hsender
  have hpos' := List.length_pos_iff.mpr hidentifier
  have hevent : 1 ≤ (event.take 255).length ↔ event ≠ [] := by
    rw [Nat.one_le_iff_ne_zero, Ne, List.length_eq_zero_iff]
    simp
  have hcut : ∀ (t : Text) (n : ℕ), (t.take n).length ≤ n := fun t n =>
    List.length_take_le n t
  unfold buildAlert
  split
  · rename_i hbounds
    obtain ⟨-, hs, hi, he, -⟩ := hbounds
    refine iff_of_false (by rintro ⟨e, h⟩; cases h) ?_
    rw [hevent] at he
    rintro (h | h | h)
    · exact absurd hs.2 (not_le.mpr h)
    · exact absurd hi.2 (not_le.mpr h)
    · exact he.1 h
  · -- what is cut to its bound cannot be the bound that is broken
    rename_i hbounds
    refine iff_of_true ⟨_, rfl⟩ ?_
    by_contra hin
    simp only [not_or, not_lt] at hin
    exact hbounds ⟨hsource, ⟨hpos, hin.1⟩, ⟨hpos', hin.2.1⟩, ⟨hevent.mpr hin.2.2, hcut _ _⟩,
      hcut _ _, hcut _ _, hclip _ _, hclip _ _⟩

lemma parseCapElement_error_iff (hsource : 1 ≤ sourceId.length ∧ sourceId.length ≤ 120) :
    (∃ e, parseCapElement rt now root sourceId = .error e) ↔ Refused root := by
  unfold parseCapElement Refused
  rw [← namespaceOf]
  generalize namespaceOf root = ns
  dsimp only
  split_ifs with htag hnone
  · refine iff_of_false (by rintro ⟨e, h⟩; cases h) fun h => ?_
    rw [Bool.or_eq_true, List.isEmpty_iff, List.isEmpty_iff] at hnone
    exact hnone.elim h.2.1 h.2.2.1
  · -- sender and identifier are there: `info` decides
    rw [Bool.or_eq_true, List.isEmpty_iff, List.isEmpty_iff, not_or] at hnone
    cases hinfo : root.find (qualified ns "info") with
    | none => simp
    | some info =>
      rw [buildAlert_error_iff hsource hnone.1 hnone.2]
      constructor
      · intro h
        exact ⟨htag, hnone.1, hnone.2, info, rfl, h⟩
      · rintro ⟨-, -, -, _, hsome, h⟩
        cases hsome
        exact h
  · exact iff_of_false (by rintro ⟨e, h⟩; cases h) fun h => htag h.1

/-- Where the body is no document of the format, the parser raises only on a refused one. -/
lemma parseForSource_error_iff {env : ScanEnv} {source : EasCapSource} {body : Text}
    (h : ¬ Document env source body) :
    (∃ e, parseForSource env source body = .error e) ↔
      source.kind ≠ .nwsCap ∧ ∃ root, env.rt.fromstring body = some root ∧ Refused root := by
  unfold Document at h
  unfold parseForSource
  split_ifs at h ⊢ with hkind
  · have hnone : (env.rt.loads body).bind featuresOf = none := by
      by_contra hsome
      exact h (Option.ne_none_iff_exists'.mp hsome)
    unfold parseNwsGeojson
    rw [hnone]
    exact iff_of_false (by rintro ⟨e, he⟩; cases he) fun hother => hother.1 hkind
  · unfold parseCapXml
    cases env.rt.fromstring body with
    | none => simp
    | some root => simp [parseCapElement_error_iff source.bounds.1, hkind]

end Raises

section Quiet

lemma Json.asText_of_textual {value : Json} (h : value.textual = true) :
    ∃ t, value.asText = .ok t ∧ (value.blank = true → (t.getD []).strip = []) := by
  cases value with
  | str t =>
    refine ⟨_, rfl, fun hblank => ?_⟩
    have hstrip : t.strip = [] := by simpa [Json.blank] using hblank
    by_cases ht : t.isEmpty = true
    · rw [if_pos ht]
      rfl
    · rw [if_neg ht]
      exact hstrip
  | _ =>
    simp only [Json.textual, Bool.not_eq_true'] at h
    refine ⟨none, ?_, fun _ => rfl⟩
    rw [Json.asText, h]
    · rfl
    · simp

lemma parseFeature_noAlert {rt : Runtime} {now : Instant} {sourceId : Text} {feature : Json}
    (h : NoAlert feature) : parseFeature rt now sourceId feature = .ok none := by
  unfold parseFeature
  cases hprops : featureProps feature with
  | none => rfl
  | some props =>
    obtain ⟨hsender, hidentifier, hblank⟩ := h props hprops
    obtain ⟨sender, hs, hsblank⟩ := Json.asText_of_textual hsender
    obtain ⟨identifier, hi, hiblank⟩ := Json.asText_of_textual hidentifier
    have hempty : (((sender.getD []).strip).isEmpty || ((identifier.getD []).strip).isEmpty) =
        true := by
      rw [Bool.or_eq_true, List.isEmpty_iff, List.isEmpty_iff]
      exact hblank.imp hsblank hiblank
    simp only [parseProps, hs, hi, bind, Except.bind, hempty, if_true]
    rfl

end Quiet

section Poll

variable {env} {source : EasCapSource} {body : Text} {s : ScanState}

lemma pollOne_error {e : ParseError} (h : parseForSource env source body = .error e) :
    pollOne (fetching env body) source s = (.ok (0, false, .parseError e), s) := by
  have hparse : parseForSource (fetching env body) source body = .error e := h
  simp only [pollOne, fetching] at hparse ⊢
  rw [hparse]

lemma pollOne_ok {parsed : List EasCapAlert} (h : parseForSource env source body = .ok parsed) :
    pollOne (fetching env body) source s =
      ((ingestEach (fetching env body) source 0 parsed s).1.map
        fun n => (n, true, .ok parsed.length n),
        (ingestEach (fetching env body) source 0 parsed s).2) := by
  have hparse : parseForSource (fetching env body) source body = .ok parsed := h
  simp only [pollOne, fetching] at hparse ⊢
  rw [hparse]

lemma parseFeatures_quiet {rt : Runtime} {now : Instant} {sourceId : Text} {features : List Json}
    (h : ∀ feature ∈ features, parseFeature rt now sourceId feature = .ok none) :
    parseFeatures rt now sourceId features = .ok [] := by
  induction features with
  | nil => rfl
  | cons feature rest ih =>
    have hfirst := h feature List.mem_cons_self
    have hrest := ih fun other hother => h other (List.mem_cons_of_mem _ hother)
    exact parseFeatures_cons.mpr ⟨none, [], hfirst, hrest, rfl⟩

lemma parseForSource_quiet (h : Quiet env source body) :
    parseForSource env source body = .ok [] := by
  rcases h with ⟨hkind, features, hfeatures, hnone⟩
  unfold parseForSource parseNwsGeojson
  rw [if_pos hkind, hfeatures]
  exact parseFeatures_quiet fun feature hfeature => parseFeature_noAlert (hnone feature hfeature)

/-- A broken feed is reported exactly where the body is a document of the source's format, or it
is XML that the parser takes for an alert and the model of an alert refuses. -/
theorem reports_broken_iff (env : ScanEnv) (source : EasCapSource) (body : Text) (s : ScanState) :
    ReportsBroken env source body s ↔ Document env source body ∨
      source.kind ≠ .nwsCap ∧ ∃ root, env.rt.fromstring body = some root ∧ Refused root := by
  constructor
  · rintro ⟨hbroken, _⟩
    by_cases hdocument : Document env source body
    · exact .inl hdocument
    · right
      rw [← parseForSource_error_iff hdocument]
      obtain ⟨detail, hpoll⟩ := hbroken hdocument
      cases hparse : parseForSource env source body with
      | error e => exact ⟨e, rfl⟩
      | ok parsed =>
        rw [pollOne_ok hparse] at hpoll
        have hout := congrArg Prod.fst hpoll
        cases hloop : (ingestEach (fetching env body) source 0 parsed s).1 with
        | error e | ok n =>
          rw [hloop] at hout
          cases hout
  · intro h
    constructor
    · intro hbroken
      obtain ⟨e, hraises⟩ := (parseForSource_error_iff hbroken).mpr (h.resolve_left hbroken)
      exact ⟨_, pollOne_error hraises⟩
    · -- a quiet body parses to no alert, and nothing is ingested
      intro _ hquiet
      rw [pollOne_ok (parseForSource_quiet hquiet)]
      exact ⟨0, _, rfl⟩

end Poll

/-- What a library that can read nothing makes of a body. -/
def garbled : ScanEnv where
  rt := { feedRuntime with
    loads := fun _ => none }
  now := 0
  readAt := fun _ => 0
  fetch := fun _ => .nothing
  writeFails := fun _ _ => false
  hookFails := fun _ => false

/-- A body that is no JSON makes its source healthy. -/
theorem garbled_feed_healthy :
    ¬ ∀ env source body s, ReportsBroken env source body s := by
  intro h
  have hnone : ¬ Document garbled feedSource "<html>".toList := by
    rintro ⟨features, hfeatures⟩
    cases hfeatures
  rcases (h garbled feedSource "<html>".toList ⟨.empty, []⟩).1 hnone with ⟨detail, hpoll⟩
  cases hpoll

end CivicCast.Eas
