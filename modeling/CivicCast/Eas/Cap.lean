import CivicCast.Eas.Models

/-! # Parsing CAP and the weather service's GeoJSON

A feed body is a CAP document or a GeoJSON feature collection. What the standard
library and the XML package do to the text is a `Runtime`: the value `json.loads`
gives, the element tree, `fromisoformat`, the `str` of a value that is not text,
and the digest behind an alert's id. Everything after that is the code's own.

The code reads a JSON property as text without looking at its type, so a value of
another type raises as soon as it is used: the parser of one feature is fallible,
and a feature that raises takes the collection with it (`parseFeatures`).
-/

namespace CivicCast.Eas

open Lib (Text)

/-- What `json.loads` returns. -/
inductive Json where
  | null
  | bool (b : Bool)
  | int (n : ℤ)
  | float (x : Lib.Text.FloatValue)
  | str (t : Text)
  | arr (items : List Json)
  | obj (items : List (Text × Json))

namespace Json

/-- Truth of a value, as `or` and `if` test it. -/
def truthy : Json → Bool
  | null => false
  | bool b => b
  | int n => n ≠ 0
  | float x => x ≠ .finite 0
  | str t => !t.isEmpty
  | arr items => !items.isEmpty
  | obj items => !items.isEmpty

/-- `a or b`. -/
def orElse (a b : Json) : Json := if a.truthy then a else b

/-- `value.get(key)` of a dictionary. -/
def get (items : List (Text × Json)) (key : Text) : Json :=
  (items.lookup key).getD null

end Json

/-- An XML element. -/
inductive Element where
  | mk (tag : Text) (text : Option Text) (children : List Element)

namespace Element

def tag : Element → Text
  | mk tag _ _ => tag

def text : Element → Option Text
  | mk _ text _ => text

def children : Element → List Element
  | mk _ _ children => children

/-- `element.findall(tag)`. -/
def findall (e : Element) (tag : Text) : List Element := e.children.filter fun c => c.tag = tag

/-- `element.find(tag)`. -/
def find (e : Element) (tag : Text) : Option Element := (e.findall tag).head?

end Element

/-- The library functions the parsers call. -/
structure Runtime where
  /-- `json.loads`; `none` is `ValueError`. -/
  loads : Text → Option Json
  /-- `safe_xml_fromstring` without DTD and entities; `none` when it refuses. -/
  fromstring : Text → Option Element
  /-- `datetime.fromisoformat`; `none` is `ValueError`. -/
  fromisoformat : Text → Option Instant
  /-- `str` of a value that is not text. -/
  repr : Json → Text
  /-- `sha1(...).hexdigest()`. -/
  sha1 : Text → Text

/-- Why a parser raises: a method or a slice of a value of the wrong type, or a
field out of the model's bounds. -/
inductive ParseError where
  | wrongType
  | validation
deriving DecidableEq

variable (rt : Runtime)

def clip (value : Option Text) (length : ℕ) : Option Text :=
  value.bind fun t => if t.isEmpty then none else some (t.take length)

def stableAlertId (sender identifier : Text) : Text :=
  "eas-".toList ++ (rt.sha1 (sender ++ '|' :: identifier)).take 40

lemma stableAlertId_bounds (sender identifier : Text) :
    1 ≤ (stableAlertId rt sender identifier).length ∧
      (stableAlertId rt sender identifier).length ≤ 160 := by
  have hlabel : "eas-".toList.length = 4 := rfl
  unfold stableAlertId
  rw [List.length_append, hlabel, List.length_take]
  omega

def normSeverity (value : Option Text) : EasSeverity :=
  let low := ((value.getD []).strip).lower
  if low = "minor".toList then .minor
  else if low = "moderate".toList then .moderate
  else if low = "severe".toList then .severe
  else if low = "extreme".toList then .extreme
  else .unknown

/-- `_norm_msg_type`: a missing or empty type is an alert, and so is an unknown
one. -/
def normMsgType (value : Option Text) : EasMsgType :=
  let low := ((value.getD []).strip).lower
  if low = "update".toList then .update
  else if low = "cancel".toList then .cancel
  else if low = "ack".toList then .ack
  else if low = "error".toList then .error
  else .alert

/-- `text.replace("Z", "+00:00")`. -/
def expandZulu (t : Text) : Text :=
  t.flatMap fun c => if c = 'Z' then "+00:00".toList else [c]

def parseDt (value : Option Text) : Option Instant :=
  match value with
  | none => none
  | some t => if t.isEmpty then none else rt.fromisoformat (expandZulu t.strip)

def requireDt (now : Instant) (value : Option Text) : Instant := (parseDt rt value).getD now

/-- Build an alert, if it is within the bounds of the model. A parsed alert is
active: a parser knows nothing of the alert's lifecycle. -/
def buildAlert (now : Instant) (sourceId sender identifier : Text) (sent : Instant)
    (msgType : EasMsgType) (event : Text) (severity : EasSeverity) (urgency certainty : Text)
    (headline description instruction : Option Text) (areas : List Text)
    (references : Option Text) (effective onset expires : Option Instant) :
    Except ParseError EasCapAlert :=
  if h : (1 ≤ sourceId.length ∧ sourceId.length ≤ 120) ∧
      (1 ≤ sender.length ∧ sender.length ≤ 255) ∧
      (1 ≤ identifier.length ∧ identifier.length ≤ 255) ∧
      (1 ≤ event.length ∧ event.length ≤ 255) ∧
      urgency.length ≤ 40 ∧ certainty.length ≤ 40 ∧
      (headline.getD []).length ≤ 500 ∧ (references.getD []).length ≤ 4000 then
    .ok {
      alertId := stableAlertId rt sender identifier
      sourceId := sourceId
      sender := sender
      identifier := identifier
      sent := sent
      msgType := msgType
      status := .active
      event := event
      severity := severity
      urgency := urgency
      certainty := certainty
      headline := headline
      description := description
      instruction := instruction
      areas := areas
      references := references
      effective := effective
      onset := onset
      expires := expires
      createdAt := now
      alertIdBounds := stableAlertId_bounds rt sender identifier
      bounds := h }
  else .error .validation

/-! ## CAP XML -/

def cap12Ns : Text := "urn:oasis:names:tc:emergency:cap:1.2".toList

def cap11Ns : Text := "urn:oasis:names:tc:emergency:cap:1.1".toList

/-- A tag in a namespace, as the element tree spells it. -/
def qualified (ns : Text) (tag : String) : Text := '\x7b' :: ns ++ '\x7d' :: tag.toList

def childText (ns : Text) (parent : Element) (tag : String) : Option Text :=
  (parent.find (qualified ns tag)).bind Element.text

/-- Text or a default where the text is missing or empty. -/
def textOr (value : Option Text) (default : Text) : Text :=
  match value with
  | none => default
  | some t => if t.isEmpty then default else t

/-- The geocode values of the first info block. -/
def capAreas (ns : Text) (info : Element) : List Text :=
  (info.findall (qualified ns "area")).flatMap fun area =>
    (area.findall (qualified ns "geocode")).filterMap fun geocode =>
      (childText ns geocode "value").bind fun t => if t.isEmpty then none else some t.strip

/-- `parse_cap_xml` on the element tree. -/
def parseCapElement (now : Instant) (root : Element) (sourceId : Text) :
    Except ParseError (List EasCapAlert) :=
  let ns := if cap12Ns <:+: root.tag then cap12Ns else cap11Ns
  if ¬ "alert".toList <:+: root.tag then .ok []
  else
    let sender := ((childText ns root "sender").getD []).strip
    let identifier := ((childText ns root "identifier").getD []).strip
    if sender.isEmpty || identifier.isEmpty then .ok []
    else
      match root.find (qualified ns "info") with
      | none => .ok []
      | some info =>
        (buildAlert rt now sourceId sender identifier
          (requireDt rt now (childText ns root "sent"))
          (normMsgType (childText ns root "msgType"))
          ((textOr (childText ns info "event") "Public safety alert".toList).strip.take 255)
          (normSeverity (childText ns info "severity"))
          ((textOr (childText ns info "urgency") "unknown".toList).take 40)
          ((textOr (childText ns info "certainty") "unknown".toList).take 40)
          (clip (childText ns info "headline") 500)
          (childText ns info "description")
          (childText ns info "instruction")
          (capAreas ns info)
          (clip (childText ns root "references") 4000)
          (parseDt rt (childText ns info "effective"))
          (parseDt rt (childText ns info "onset"))
          (parseDt rt (childText ns info "expires"))).map fun alert => [alert]

def parseCapXml (now : Instant) (xmlText : Text) (sourceId : Text) :
    Except ParseError (List EasCapAlert) :=
  match rt.fromstring xmlText with
  | none => .ok []
  | some root => parseCapElement rt now root sourceId

/-! ## GeoJSON -/

namespace Json

/-- A property used as text: nothing when it is false, an exception when it is
true and no text. -/
def asText : Json → Except ParseError (Option Text)
  | str t => .ok (if t.isEmpty then none else some t)
  | value => if value.truthy then .error .wrongType else .ok none

/-- A property handed to a field that takes text or nothing. -/
def optText : Json → Except ParseError (Option Text)
  | null => .ok none
  | str t => .ok (some t)
  | _ => .error .validation

/-- `[*(value or [])]`. -/
def spread : Json → Except ParseError (List Json)
  | arr items => .ok items
  | str t => .ok (t.map fun c => str [c])
  | obj items => .ok (items.map fun item => str item.1)
  | value => if value.truthy then .error .wrongType else .ok []

/-- `value`, or the empty dictionary if it is none. -/
def entries : Json → List (Text × Json)
  | obj items => items
  | _ => []

end Json

/-- `str(value)`. -/
def pyStr : Json → Text
  | .str t => t
  | value => rt.repr value

/-- The text `_nws_references` keeps of one entry of the list. -/
def referencePart : Json → Option Text
  | .obj items =>
    some (pyStr rt (((Json.get items "identifier".toList).orElse
      (Json.get items "@id".toList)).orElse (.str [])))
  | _ => none

def nwsReferences : Json → Option Text
  | .arr references =>
    let parts := (references.filterMap (referencePart rt)).filter fun part => part ≠ []
    if parts.isEmpty then none else some ([' '].intercalate parts)
  | .str t => some t
  | _ => none

/-- The properties of a feature; `none` where the loop passes it over. -/
def featureProps : Json → Option (List (Text × Json))
  | .obj feature =>
    match Json.get feature "properties".toList with
    | .obj props => some props
    | _ => none
  | _ => none

/-- An alert from the properties of a feature; `none` without a sender or an
identifier. -/
def parseProps (now : Instant) (sourceId : Text) (props : List (Text × Json)) :
    Except ParseError (Option EasCapAlert) := do
  let property := fun (key : String) => Json.get props key.toList
  let sender ← ((property "sender").orElse (property "senderName")).asText
  let sender := (sender.getD []).strip
  let identifier ← (property "id").asText
  let identifier := (identifier.getD []).strip
  if sender.isEmpty || identifier.isEmpty then
    return none
  let geocode := (property "geocode").entries
  let same ← (Json.get geocode "SAME".toList).spread
  let ugc ← (Json.get geocode "UGC".toList).spread
  let sent ← (property "sent").asText
  let msgType ← (property "messageType").asText
  let event ← (property "event").asText
  let severity ← (property "severity").asText
  let urgency ← (property "urgency").asText
  let certainty ← (property "certainty").asText
  let headline ← (property "headline").asText
  let description ← (property "description").optText
  let instruction ← (property "instruction").optText
  let effective ← (property "effective").asText
  let onset ← (property "onset").asText
  let expires ← (property "expires").asText
  let alert ← buildAlert rt now sourceId sender identifier (requireDt rt now sent)
    (normMsgType msgType) ((textOr event "Public safety alert".toList).take 255)
    (normSeverity severity) ((textOr urgency "unknown".toList).take 40)
    ((textOr certainty "unknown".toList).take 40) (clip headline 500) description instruction
    ((same ++ ugc).map (pyStr rt)) (clip (nwsReferences rt (property "references")) 4000)
    (parseDt rt effective) (parseDt rt onset) (parseDt rt expires)
  return some alert

/-- The body of `parse_nws_geojson`'s loop: `none` where it continues. -/
def parseFeature (now : Instant) (sourceId : Text) (feature : Json) :
    Except ParseError (Option EasCapAlert) :=
  match featureProps feature with
  | some props => parseProps rt now sourceId props
  | none => .ok none

/-- The loop over the features: one that raises ends it. -/
def parseFeatures (now : Instant) (sourceId : Text) :
    List Json → Except ParseError (List EasCapAlert)
  | [] => .ok []
  | feature :: rest => do
    let alert ← parseFeature rt now sourceId feature
    let alerts ← parseFeatures now sourceId rest
    return alert.toList ++ alerts

/-- The features of a collection; `none` where the value is no collection. -/
def featuresOf : Json → Option (List Json)
  | .obj items =>
    match Json.get items "features".toList with
    | .arr features => some features
    | _ => none
  | _ => none

def parseNwsGeojson (now : Instant) (jsonText : Text) (sourceId : Text) :
    Except ParseError (List EasCapAlert) :=
  match (rt.loads jsonText).bind featuresOf with
  | none => .ok []
  | some features => parseFeatures rt now sourceId features

/-! ## The source filter -/

def alertPassesSourceFilter (alert : EasCapAlert) (source : EasCapSource) : Bool :=
  if alert.msgType = .ack ∨ alert.msgType = .error then false
  else if ¬ severityAtOrAbove alert.severity source.severityFloor then false
  else if source.geocodeFilter.isEmpty then true
  else
    let wanted := source.geocodeFilter.map Lib.Text.strip
    (alert.areas.map Lib.Text.strip).any fun area => wanted.contains area

end CivicCast.Eas
