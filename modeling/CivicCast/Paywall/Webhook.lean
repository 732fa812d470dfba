import CivicCast.Lib.Interleave
import CivicCast.Paywall.Store

/-!
# The Stripe webhook

`handle_stripe_webhook` verifies a delivery, records the id of its event, and then reconciles
the row of the subscription and its grant. Recording and reconciling are transactions of their
own, each of which may fail, and the process may stop between any two of them. Stripe delivers an
event again until a delivery of it returns.

A delivery that finds its event recorded returns at once. So an event whose effect failed after
it was recorded is acknowledged by the next delivery and never applied
(`failed_effect_is_acknowledged`). Where no delivery comes to the record of an event that another
one has recorded and not applied, a delivery that returns has been preceded by the effect
(`acknowledged_is_applied`).
-/

namespace CivicCast.Paywall.Webhook

open Lib Lib.Prog Function Option

/-! ## Events -/

inductive EventType where
  | created
  | updated
  | deleted
  | other (name : Text)
  deriving DecidableEq

/-- The object of an event as far as it is read: `none` where a key is missing or its value is of
another type. -/
structure SubscriptionObject where
  id : Option Text
  status : Option Text
  currentPeriodEnd : Option Number
  customerEmail : Option Text
  /-- `customer_details.email`. -/
  detailsEmail : Option Text
  /-- `price.id` of every item. -/
  priceIds : List (Option Text)
  deriving DecidableEq

structure Event where
  id : Option Text
  type : Option EventType
  object : Option SubscriptionObject
  deriving DecidableEq

/-- A request: the event of its payload, and the secrets under which its signature verifies. -/
structure Delivery where
  stationId : Text
  event : Event
  verifies : Text → Bool

/-- What the handler raises; `store` is what a failed call of the store raises. -/
inductive WebhookError where
  | signature
  | service
  | outOfRange
  | validation
  | store
  deriving DecidableEq

/-- The answer to the provider. -/
inductive Ack where
  | ignored
  | duplicate
  | reconciled (created : Bool) (subId : Text) (grantId : Option Text)
  | deleted (subId : Text) (grantsRemoved : ℕ)
  deriving DecidableEq

/-! ## Reading an event -/

def strOrNone (value : Option Text) : Option Text :=
  (value.map Text.strip).filter fun t => t ≠ []

def isIdChar (c : Char) : Bool :=
  ('A' ≤ c && c ≤ 'Z') || ('a' ≤ c && c ≤ 'z') || ('0' ≤ c && c ≤ '9') || c = '_' || c = '-'

/-- `_STRIPE_SUB_ID_RE`: `^sub_[A-Za-z0-9_-]{1,80}$`. -/
def isStripeSubId (t : Text) : Bool :=
  "sub_".toList.isPrefixOf t && (t.drop 4).all isIdChar && 1 ≤ (t.drop 4).length &&
    (t.drop 4).length ≤ 80

/-- The status of the object; a new one of Stripe is `incomplete`. -/
def statusOf (status : Option Text) : SubscriptionStatus :=
  match strOrNone status with
  | none => .incomplete
  | some t =>
    if t = "active".toList then .active
    else if t = "past_due".toList then .pastDue
    else if t = "canceled".toList then .canceled
    else .incomplete

/-- A subscription of this status has a grant. -/
def grants : SubscriptionStatus → Bool
  | .active | .pastDue => true
  | .canceled | .incomplete => false

/-- `datetime.fromtimestamp`: the years 1 to 9999. -/
def fromTimestamp : Number → Option ℤ
  | .finite micros =>
    if -62135596800000000 ≤ micros ∧ micros < 253402300800000000 then some micros else none
  | _ => none

/-- `str.replace`: the first `skip` characters belong to the occurrence before. -/
def replaceFrom (old new : Text) : ℕ → Text → Text
  | _, [] => []
  | skip + 1, _ :: t => replaceFrom old new skip t
  | 0, c :: t =>
    if old.isPrefixOf (c :: t) then new ++ replaceFrom old new (old.length - 1) t
    else c :: replaceFrom old new 0 t

def lastEight (t : Text) : Text := t.drop (t.length - 8)

/-- The tier: the price of the first item, or an id made of the subscription's. -/
def tierIdOf (casing : Casing) (subId : Text) (priceIds : List (Option Text)) : Text :=
  let synthetic := "tier-".toList ++ lastEight subId
  let tierId := match priceIds with
    | [] => synthetic
    | first :: _ => (strOrNone first).getD synthetic
  replaceFrom "price_".toList "tier-".toList 0 (casing.lower tierId)

/-- The fields that are taken from the object. -/
structure Fields where
  subId : Text
  status : SubscriptionStatus
  periodEnd : ℤ
  email : Text
  tierId : Text
  deriving DecidableEq

def Fields.notBefore (x : Fields) (existing : Option Subscription) : Fields :=
  { x with periodEnd := existing.elim x.periodEnd fun sub => max x.periodEnd sub.currentPeriodEnd }

def grantIdOf (subId : Text) : Text := "sg-".toList ++ subId

def grantRow (stationId : Text) (x : Fields) : AccessGrant where
  grantId := grantIdOf x.subId
  stationId := stationId
  email := x.email
  scopeKind := .all
  scopeId := []
  grantedVia := .subscription
  subscriptionId := some x.subId
  magicLinkTokenId := none
  expiresAt := some x.periodEnd

def subscriptionRow (stationId : Text) (x : Fields) (grantId : Option Text) : Subscription where
  subId := x.subId
  stationId := stationId
  email := x.email
  tierId := x.tierId
  status := x.status
  currentPeriodEnd := x.periodEnd
  grantId := grantId

def grantIfAny (casing : Casing) (stationId : Text) (x : Fields) : Option (Option AccessGrant) :=
  if grants x.status then ((grantRow stationId x).make casing).map some else some none

/-- The grant and then the subscription, both validated. -/
def rowsOf (casing : Casing) (stationId : Text) (x : Fields) :
    Option (Subscription × Option AccessGrant) := do
  let grant ← grantIfAny casing stationId x
  let sub ← (subscriptionRow stationId x (grant.map AccessGrant.grantId)).make casing
  return (sub, grant)

lemma rowsOf_eq {casing : Casing} {stationId : Text} {x : Fields} {sub : Subscription}
    {grant : Option AccessGrant} (h : rowsOf casing stationId x = some (sub, grant)) :
    (grants x.status = true →
      ∃ g, grant = some g ∧ (grantRow stationId x).make casing = some g) ∧
    (grants x.status = false → grant = none) ∧
    (subscriptionRow stationId x (grant.map AccessGrant.grantId)).make casing = some sub := by
  simp only [rowsOf, bind_eq_bind, bind_eq_some_iff] at h
  obtain ⟨grant', hgrant, sub', hsub, h⟩ := h
  cases h
  cases hstatus : grants x.status with
  | true =>
    rw [grantIfAny, if_pos hstatus, map_eq_some_iff] at hgrant
    obtain ⟨g, hmake, rfl⟩ := hgrant
    exact ⟨fun _ => ⟨g, rfl, hmake⟩, (fun h => nomatch h), hsub⟩
  | false =>
    rw [grantIfAny, if_neg (by rw [hstatus]; exact Bool.false_ne_true)] at hgrant
    cases hgrant
    exact ⟨(fun h => nomatch h), fun _ => rfl, hsub⟩

/-! ## The handler -/

inductive Op where
  /-- The secret of a station, as the getter has it. -/
  | secret (stationId : Text)
  | clock
  | recordStripeEventSeen (eventId stationId : Text) (type : EventType)
  | getSubscription (subId : Text)
  | reconcile (sub : Subscription) (grant : Option AccessGrant) (revokeSubId : Option Text)
  | revokeGrants (subId : Text)

/-- A call gives a value, or fails, with its transaction committed or not. -/
inductive Reply (α : Type) where
  | value (x : α)
  | failed (landed : Bool)

namespace Op

@[reducible] def Res : Op → Type
  | secret _ => Option Text
  | clock => ℤ
  | recordStripeEventSeen _ _ _ => Bool
  | getSubscription _ => Option Subscription
  | reconcile _ _ _ => Store.Reconciled
  | revokeGrants _ => ℕ

end Op

abbrev payIface : Iface where
  Op := Op
  Ans := fun o => Reply o.Res

abbrev PayM := Prog payIface WebhookError

def ask (o : Op) : PayM o.Res :=
  .call o fun
    | .value x => .ret x
    | .failed _ => .raise .store

def periodEndOf (status : SubscriptionStatus) : Option Number → PayM ℤ
  | some n =>
    match fromTimestamp n with
    | some t => return t
    | none => .raise .outOfRange
  | none => if grants status then .raise .service else ask .clock

/-- The first part of `_reconcile_subscription`. -/
def fieldsOf (casing : Casing) (object : SubscriptionObject) : PayM Fields :=
  match (strOrNone object.id).filter isStripeSubId with
  | none => .raise .service
  | some subId => do
    let status := statusOf object.status
    let periodEnd ← periodEndOf status object.currentPeriodEnd
    let email := (strOrNone object.customerEmail).or (strOrNone object.detailsEmail)
    match email.bind (validateEmail casing) with
    | none => .raise .service
    | some email =>
      return ⟨subId, status, periodEnd, email, tierIdOf casing subId object.priceIds⟩

def reconcileSubscription (casing : Casing) (stationId : Text) (object : SubscriptionObject) :
    PayM (Subscription × Option AccessGrant) := do
  let x ← fieldsOf casing object
  let existing : Option Subscription ← ask (.getSubscription x.subId)
  match rowsOf casing stationId (x.notBefore existing) with
  | none => .raise .validation
  | some (sub, grant) =>
    let stored : Store.Reconciled ← ask (.reconcile sub grant none)
    return (stored.subscription, stored.grant)

/-- The branch of `customer.subscription.deleted`. -/
def deleteSubscription (casing : Casing) (object : SubscriptionObject) : PayM Ack :=
  match strOrNone object.id with
  | none => return .ignored
  | some subId =>
    if isStripeSubId subId then do
      let existing : Option Subscription ← ask (.getSubscription subId)
      match existing with
      | some sub =>
        match ({ sub with status := .canceled } : Subscription).make casing with
        | none => .raise .validation
        | some canceled =>
          let stored : Store.Reconciled ← ask (.reconcile canceled none (some subId))
          return .deleted subId stored.revoked
      | none =>
        let removed : ℕ ← ask (.revokeGrants subId)
        return .deleted subId removed
    else .raise .service

/-- The replay protection. An event without an id is new every time. -/
def recordSeen (stationId : Text) (type : EventType) : Option Text → PayM Bool
  | none => return true
  | some eventId => ask (.recordStripeEventSeen eventId stationId type)

def dispatch (casing : Casing) (stationId : Text) (type : EventType)
    (object : SubscriptionObject) : PayM Ack :=
  match type with
  | .created | .updated => do
    let (sub, grant) ← reconcileSubscription casing stationId object
    return .reconciled (type = .created) sub.subId (grant.map AccessGrant.grantId)
  | .deleted => deleteSubscription casing object
  | .other _ => return .ignored

def process (casing : Casing) (stationId : Text) (event : Event) : PayM Ack :=
  match event.type, event.object with
  | some type, some object => do
    let fresh ← recordSeen stationId type (strOrNone event.id)
    if fresh then dispatch casing stationId type object else return .duplicate
  | _, _ => return .ignored

def handleStripeWebhook (casing : Casing) (d : Delivery) : PayM Ack := do
  let secret : Option Text ← ask (.secret d.stationId)
  match secret.filter fun secret => secret ≠ [] && d.verifies secret with
  | none => .raise .signature
  | some _ => process casing d.stationId d.event

/-! ## Deliveries that interleave, fail and stop -/

/-- The event is a well-formed one of a subscription. -/
def IsSubscriptionEvent (event : Event) : Prop :=
  ∃ type object, event.type = some type ∧ event.object = some object ∧
    (type = .created ∨ type = .updated ∨ type = .deleted) ∧ strOrNone object.id ≠ none

def eventId (d : Delivery) : Option Text := strOrNone d.event.id

/-- The fields are those of the object; the end of the period is the clock's where the object has
none. -/
structure Fields.From (casing : Casing) (object : SubscriptionObject) (x : Fields) : Prop where
  subId : strOrNone object.id = some x.subId
  status : x.status = statusOf object.status
  periodEnd : ∀ n, object.currentPeriodEnd = some n → fromTimestamp n = some x.periodEnd
  email : ((strOrNone object.customerEmail).or (strOrNone object.detailsEmail)).bind
    (validateEmail casing) = some x.email
  tierId : x.tierId = tierIdOf casing x.subId object.priceIds

/-- What a delivery of the event may do to the row of the subscription and its grant: the one
transaction of `_reconcile_subscription`, for what it has found stored, or that of the deletion. -/
def Effect (casing : Casing) (d : Delivery) (o : Op) : Prop :=
  ∃ type object, d.event.type = some type ∧ d.event.object = some object ∧
    match type with
    | .created | .updated =>
      ∃ x : Fields, x.From casing object ∧ ∃ existing sub grant,
        rowsOf casing d.stationId (x.notBefore existing) = some (sub, grant) ∧
          o = .reconcile sub grant none
    | .deleted =>
      ∃ subId, strOrNone object.id = some subId ∧
        ((∃ (sub canceled : Subscription),
            ({ sub with status := .canceled } : Subscription).make casing = some canceled ∧
              o = .reconcile canceled none (some subId)) ∨
          o = .revokeGrants subId)
    | .other _ => False

namespace Op

/-- The calls that carry out an effect. -/
def isEffect : Op → Bool
  | reconcile _ _ _ | revokeGrants _ => true
  | _ => false

def commit : Op → Store → Store
  | recordStripeEventSeen eventId _ _, s => (s.recordStripeEventSeen eventId).2
  | reconcile sub grant revokeSubId, s =>
    ((s.reconcileSubscriptionEvent sub grant revokeSubId).map Prod.snd).getD s
  | revokeGrants subId, s => (s.revokeGrantsForSubscription subId).2
  | _, s => s

def Answers (s : Store) : (o : Op) → o.Res → Prop
  | secret _, _ | clock, _ => True
  | recordStripeEventSeen eventId _ _, fresh => fresh = (s.recordStripeEventSeen eventId).1
  | getSubscription subId, sub => sub = s.getSubscription subId
  | reconcile sub grant revokeSubId, r =>
    (s.reconcileSubscriptionEvent sub grant revokeSubId).map Prod.fst = some r
  | revokeGrants subId, n => n = (s.revokeGrantsForSubscription subId).1

def Commits (s : Store) : Op → Prop
  | recordStripeEventSeen eventId _ _ => eventId ∉ s.eventsSeen
  | reconcile sub grant revokeSubId =>
    (s.reconcileSubscriptionEvent sub grant revokeSubId).isSome = true
  | revokeGrants _ => True
  | _ => False

end Op

def Reply.landed {α : Type} : Reply α → Bool
  | value _ => true
  | failed landed => landed

/-- The store, and the effects that were committed with the deliveries they are of. -/
structure World (T : Type) where
  store : Store
  journal : List (T × Op)

/-- What a call of a delivery does: it works, or it fails before or after its commit. -/
def machine {T : Type} (t : T) : Machine payIface (World T) where
  pre := fun _ _ => True
  legal := fun w o x =>
    match x with
    | .value x => o.Answers w.store x
    | .failed landed => landed = true → o.Commits w.store
  next := fun w o x =>
    if x.landed then
      { store := o.commit w.store
        journal := if o.isEffect then (t, o) :: w.journal else w.journal }
    else w

/-- How far a delivery has come: it has recorded its event, found it recorded, or applied its
effect. -/
structure Progress where
  recorded : Bool
  duplicate : Bool
  applied : Bool
  deriving DecidableEq

namespace Progress

def idle : Progress := ⟨false, false, false⟩

def next (g : Progress) : (o : Op) → Reply o.Res → Progress
  | .recordStripeEventSeen _ _ _, .value true => { g with recorded := true }
  | .recordStripeEventSeen _ _ _, .value false => { g with duplicate := true }
  | .recordStripeEventSeen _ _ _, .failed landed => { g with recorded := g.recorded || landed }
  | .reconcile _ _ _, x => { g with applied := g.applied || x.landed }
  | .revokeGrants _, x => { g with applied := g.applied || x.landed }
  | _, _ => g

end Progress

/-- The calls of a delivery: it records its own event and carries out an effect of it. -/
def contract (casing : Casing) (d : Delivery) : Machine payIface Progress where
  pre := fun _ o =>
    match o with
    | .recordStripeEventSeen id _ _ => eventId d = some id
    | .reconcile _ _ _ | .revokeGrants _ => Effect casing d o
    | _ => True
  legal := fun _ _ _ => True
  next := Progress.next

/-- Deliveries of events, each of which goes by its own id. -/
structure Deliveries (T : Type) where
  delivery : T → Delivery
  event_eq : ∀ t t', eventId (delivery t) ≠ none → eventId (delivery t) = eventId (delivery t') →
    (delivery t).event = (delivery t').event

section Deliveries

variable {T : Type} (casing : Casing) (ds : Deliveries T)

def opening (store : Store) : Config T payIface WebhookError Progress (World T) where
  code t := handleStripeWebhook casing (ds.delivery t) >>= fun _ => .ret ()
  ghost _ := .idle
  world := ⟨store, []⟩

/-- The condition of a run: nobody asks for the record of an event that a delivery has recorded
without its effect being applied. -/
def Settled (g : T → Progress) : Op → Prop
  | .recordStripeEventSeen id _ _ =>
    ∀ t, eventId (ds.delivery t) = some id → (g t).recorded = true → (g t).applied = true
  | _ => True

end Deliveries

/-! ## One delivery -/

section One

variable {W : Type} {M : Machine payIface W} {casing : Casing} {d : Delivery} {g : Progress}
  {object : SubscriptionObject} {type : EventType}

lemma wp_ask {o : Op} {R : Except WebhookError o.Res → W → Prop} {w : W} (hpre : M.pre w o)
    (hvalue : ∀ x, M.legal w o (.value x) → R (.ok x) (M.next w o (.value x)))
    (hfailed : ∀ landed, M.legal w o (.failed landed) →
      R (.error .store) (M.next w o (.failed landed))) : (ask o).wp M R w := by
  refine ⟨hpre, ?_⟩
  intro x hx
  cases x with
  | value x => exact hvalue x hx
  | failed landed => exact hfailed landed hx

lemma wp_ask_bind {α : Type} {o : Op} {f : o.Res → PayM α} {Q : Except WebhookError α → W → Prop}
    {w : W} (hpre : M.pre w o)
    (hvalue : ∀ x, M.legal w o (.value x) → (f x).wp M Q (M.next w o (.value x)))
    (hfailed : ∀ landed, M.legal w o (.failed landed) →
      Q (.error .store) (M.next w o (.failed landed))) : (ask o >>= f).wp M Q w := by
  rw [wp_bind]
  exact wp_ask hpre hvalue hfailed

lemma fieldsOf_gives {object : SubscriptionObject} :
    (fieldsOf casing object).Gives (Fields.From casing object) := by
  unfold fieldsOf
  split
  · exact gives_raise
  · rename_i subId hid
    have hend : (periodEndOf (statusOf object.status) object.currentPeriodEnd).Gives fun t =>
        ∀ n, object.currentPeriodEnd = some n → fromTimestamp n = some t := by
      unfold periodEndOf
      split
      · rename_i n hn
        split
        · rename_i t ht
          intro n' hn'
          rw [hn] at hn'
          cases hn'
          exact ht
        · exact gives_raise
      · rename_i hn
        -- no period: an active object is refused, another one ends now
        apply gives_ite
        · exact gives_raise
        · intro x
          cases x with
          | value t => intro n hn'; rw [hn] at hn'; cases hn'
          | failed _ => trivial
    refine hend.bind ?_
    intro periodEnd hperiod
    dsimp only
    split
    · exact gives_raise
    · rename_i email hemail
      exact ⟨(filter_eq_some_iff.mp hid).1, rfl, hperiod, hemail, rfl⟩

lemma fieldsOf_wp (object : SubscriptionObject) :
    (fieldsOf casing object).wp (contract casing d)
      (fun r g' => g' = g ∧ ∀ x, r = .ok x → x.From casing object) g := by
  apply fieldsOf_gives.wp
  unfold fieldsOf
  split
  · rfl
  · rw [wp_bind]
    have hend : ∀ status n,
        (periodEndOf status n).wp (contract casing d) (fun _ g' => g' = g) g := by
      intro status n
      unfold periodEndOf
      split
      · split <;> rfl
      · apply wp_ite
        · intro _; rfl
        · intro _
          exact wp_ask trivial (fun _ _ => rfl) fun _ _ => rfl
    refine wp_mono ?_ (hend _ _)
    intro r g' hg
    cases r with
    | error e => exact hg
    | ok t =>
      simp only [bindPost]
      split <;> exact hg

lemma reconcileSubscription_wp (htype : d.event.type = some type)
    (hobject : d.event.object = some object) (hkind : type = .created ∨ type = .updated) :
    (reconcileSubscription casing d.stationId object).wp (contract casing d)
      (fun r g' => ∀ a, r = .ok a → g'.applied = true) g := by
  refine wp_seq (fieldsOf_wp object) ?_ (fun _ _ _ _ h => nomatch h)
  rintro x _ ⟨rfl, hfrom⟩
  refine wp_ask_bind trivial ?_ (fun _ _ _ h => nomatch h)
  intro existing _
  split
  · intro _ h
    cases h
  · rename_i sub grant hrows
    have heffect : Effect casing d (.reconcile sub grant none) := by
      refine ⟨type, object, htype, hobject, ?_⟩
      rcases hkind with rfl | rfl
      · exact ⟨x, hfrom x rfl, existing, sub, grant, hrows, rfl⟩
      · exact ⟨x, hfrom x rfl, existing, sub, grant, hrows, rfl⟩
    refine wp_ask_bind heffect ?_ (fun _ _ _ h => nomatch h)
    intro stored _ _ _
    simp [contract, Progress.next, Reply.landed]

lemma deleteSubscription_wp
    (htype : d.event.type = some .deleted) (hobject : d.event.object = some object) :
    (deleteSubscription casing object).wp (contract casing d)
      (fun r g' => ∀ a, r = .ok a → strOrNone object.id ≠ none → g'.applied = true) g := by
  unfold deleteSubscription
  split
  · rename_i hid
    intro _ _ hne
    exact absurd hid hne
  · rename_i subId hid
    apply wp_ite
    · intro _
      refine wp_ask_bind trivial ?_ (fun _ _ _ h => nomatch h)
      intro existing _
      cases existing with
      | some sub =>
        dsimp only
        split
        · intro _ h
          cases h
        · rename_i canceled hmake
          have heffect : Effect casing d (.reconcile canceled none (some subId)) :=
            ⟨_, _, htype, hobject, subId, hid, .inl ⟨sub, canceled, hmake, rfl⟩⟩
          refine wp_ask_bind heffect ?_ (fun _ _ _ h => nomatch h)
          intro stored _ _ _ _
          simp [contract, Progress.next, Reply.landed]
      | none =>
        -- no subscription is stored: its grants are revoked alone
        have heffect : Effect casing d (.revokeGrants subId) :=
          ⟨_, _, htype, hobject, subId, hid, .inr rfl⟩
        refine wp_ask_bind heffect ?_ (fun _ _ _ h => nomatch h)
        intro removed _ _ _ _
        simp [contract, Progress.next, Reply.landed]
    · intro _ _ h
      cases h

/-- What a delivery that returns has come to, if its event is one of a subscription. -/
def Acknowledged (d : Delivery) {α : Type} : Except WebhookError α → Progress → Prop
  | .ok _, g => IsSubscriptionEvent d.event → g.applied = true ∨ g.duplicate = true
  | .error _, _ => True

lemma dispatch_wp (htype : d.event.type = some type) (hobject : d.event.object = some object) :
    (dispatch casing d.stationId type object).wp (contract casing d) (Acknowledged d) g := by
  have hreconcile : ∀ created, type = .created ∨ type = .updated →
      ((reconcileSubscription casing d.stationId object >>= fun r =>
        return Ack.reconciled created r.1.subId (r.2.map AccessGrant.grantId)) : PayM Ack).wp
        (contract casing d) (Acknowledged d) g := by
    intro created hkind
    refine wp_seq (reconcileSubscription_wp htype hobject hkind) ?_ (fun _ _ _ => trivial)
    intro a g' h _
    exact .inl (h a rfl)
  cases type with
  | created => exact hreconcile true (.inl rfl)
  | updated => exact hreconcile false (.inr rfl)
  | deleted =>
    refine wp_mono ?_ (deleteSubscription_wp htype hobject)
    intro r g' h
    cases r with
    | error e => trivial
    | ok a =>
      rintro ⟨type, object', htype', hobject', _, hid⟩
      rw [hobject] at hobject'
      cases hobject'
      exact .inl (h a rfl hid)
  | other name =>
    rintro ⟨type, object', htype', _, hkind, _⟩
    rw [htype] at htype'
    cases htype'
    simp at hkind

/-- The handler keeps to its contract, and returns only with its effect applied or as a
duplicate. -/
lemma handleStripeWebhook_wp :
    (handleStripeWebhook casing d).wp (contract casing d) (Acknowledged d) g := by
  refine wp_ask_bind trivial ?_ (fun _ _ => trivial)
  intro secret _
  split
  · trivial
  · unfold process
    split
    · rename_i type object htype hobject
      have hrecord : (recordSeen d.stationId type (strOrNone d.event.id)).wp (contract casing d)
          (fun r g' => ∀ fresh, r = .ok fresh → fresh = false → g'.duplicate = true)
          ((contract casing d).next g (.secret d.stationId) (.value secret)) := by
        unfold recordSeen
        split
        · intro fresh h hfresh
          cases h
          cases hfresh
        · rename_i id hid
          refine wp_ask hid ?_ (fun _ _ _ h => nomatch h)
          rintro fresh _ _ ⟨⟩ rfl
          rfl
      refine wp_seq hrecord ?_ (fun _ _ _ => trivial)
      intro fresh g' hfresh
      cases fresh with
      | true => exact dispatch_wp htype hobject
      | false => exact fun _ => .inr (hfresh false rfl rfl)
    · rename_i hnot
      rintro ⟨type, object, htype, hobject, _⟩
      exact (hnot type object htype hobject).elim

end One

/-! ## Whole runs -/

section Runs

variable {T : Type} [DecidableEq T] {casing : Casing} {ds : Deliveries T}

/-- Some delivery of the event has applied its effect. -/
def Applied (casing : Casing) (ds : Deliveries T) (journal : List (T × Op)) (t : T) : Prop :=
  ∃ t' o, eventId (ds.delivery t') = eventId (ds.delivery t) ∧
    (ds.delivery t').event = (ds.delivery t).event ∧ (t', o) ∈ journal ∧
    Effect casing (ds.delivery t') o

/-- What is known of the store and of all deliveries. -/
structure Inv (casing : Casing) (ds : Deliveries T) (g : T → Progress) (w : World T) : Prop where
  applied : ∀ t, (g t).applied = true →
    ∃ o, (t, o) ∈ w.journal ∧ Effect casing (ds.delivery t) o
  duplicate : ∀ t, (g t).duplicate = true → Applied casing ds w.journal t
  recorded : ∀ t id, eventId (ds.delivery t) = some id → id ∈ w.store.eventsSeen →
    ∃ t', eventId (ds.delivery t') = some id ∧ (g t').recorded = true

variable {g : T → Progress} {t : T} {w : World T} {p : Progress} {w' : World T}

lemma eventsSeen_reconcile {s : Store} {sub : Subscription} {grant : Option AccessGrant}
    {revokeSubId : Option Text} :
    ((Op.reconcile sub grant revokeSubId).commit s).eventsSeen = s.eventsSeen := by
  simp only [Op.commit]
  cases hstored : s.reconcileSubscriptionEvent sub grant revokeSubId with
  | none => rfl
  | some r =>
    obtain ⟨_, _, _, _, _, hseen⟩ := Store.reconcileSubscriptionEvent_eq hstored
    exact hseen

/-- Two facts of the progress of one delivery leave the third of all alone. -/
lemma update_field {f : Progress → Bool}
    (hp : f p = f (g t)) (t' : T) : f (update g t p t') = f (g t') := by
  by_cases heq : t' = t
  · subst heq
    rw [update_self, hp]
  · rw [update_of_ne heq]

variable (h : Inv casing ds g w)
include h

omit [DecidableEq T] in
lemma Inv.grow {g' : T → Progress}
    (happlied : ∀ t, (g' t).applied = true → (g t).applied = true ∨
      ∃ o, (t, o) ∈ w'.journal ∧ Effect casing (ds.delivery t) o)
    (hduplicate : ∀ t, (g' t).duplicate = true → (g t).duplicate = true ∨
      Applied casing ds w'.journal t)
    (hjournal : ∀ e ∈ w.journal, e ∈ w'.journal)
    (hrecorded : ∀ t, (g t).recorded = true → (g' t).recorded = true)
    (hseen : ∀ id ∈ w'.store.eventsSeen, id ∈ w.store.eventsSeen ∨
      ∃ t, eventId (ds.delivery t) = some id ∧ (g' t).recorded = true) : Inv casing ds g' w' := by
  constructor
  · intro t ht
    rcases happlied t ht with hold | hnew
    · obtain ⟨o, hmem, heffect⟩ := h.applied t hold
      exact ⟨o, hjournal _ hmem, heffect⟩
    · exact hnew
  · intro t ht
    rcases hduplicate t ht with hold | hnew
    · obtain ⟨t', o, hid, hevent, hmem, heffect⟩ := h.duplicate t hold
      exact ⟨t', o, hid, hevent, hjournal _ hmem, heffect⟩
    · exact hnew
  · intro t id hid hmem
    rcases hseen id hmem with hold | hnew
    · obtain ⟨t', hid', hrec⟩ := h.recorded t id hid hold
      exact ⟨t', hid', hrecorded t' hrec⟩
    · exact hnew

/-- A call that leaves the progress, the journal and the recorded events alone. -/
lemma Inv.idle (hp : p = g t) (hjournal : w'.journal = w.journal)
    (hseen : w'.store.eventsSeen = w.store.eventsSeen) :
    Inv casing ds (update g t p) w' := by
  rw [hp, update_eq_self]
  constructor
  · rw [hjournal]
    exact h.applied
  · rw [hjournal]
    exact h.duplicate
  · rw [hseen]
    exact h.recorded

lemma Inv.record {id : Text} (hid : eventId (ds.delivery t) = some id)
    (hp : p = { g t with recorded := true }) :
    Inv casing ds (update g t p)
      ⟨(w.store.recordStripeEventSeen id).2, w.journal⟩ := by
  refine h.grow ?_ ?_ (fun _ he => he) ?_ ?_
  · intro t' ht
    rw [update_field (f := Progress.applied) (p := p) (by rw [hp])] at ht
    exact .inl ht
  · intro t' ht
    rw [update_field (f := Progress.duplicate) (p := p) (by rw [hp])] at ht
    exact .inl ht
  · intro t' ht
    by_cases heq : t' = t
    · subst heq
      simp [hp]
    · simpa [update_of_ne heq] using ht
  · intro id' hmem
    simp only [Store.recordStripeEventSeen] at hmem
    split at hmem
    · exact .inl hmem
    · rcases List.mem_append.mp hmem with hold | hnew
      · exact .inl hold
      · have heq : id' = id := by simpa using hnew
        exact .inr ⟨t, heq ▸ hid, by simp [hp]⟩

/-- The delivery finds its event recorded: the one that recorded it has applied its effect. -/
lemma Inv.duplicated {id : Text} (hid : eventId (ds.delivery t) = some id)
    (hsettled : ∀ t, eventId (ds.delivery t) = some id → (g t).recorded = true →
      (g t).applied = true)
    (hmem : id ∈ w.store.eventsSeen) (hp : p = { g t with duplicate := true }) :
    Inv casing ds (update g t p) w := by
  obtain ⟨t₁, hid₁, hrecorded⟩ := h.recorded t id hid hmem
  obtain ⟨o, hjournal, heffect⟩ := h.applied t₁ (hsettled t₁ hid₁ hrecorded)
  have hevent : (ds.delivery t₁).event = (ds.delivery t).event := by
    apply ds.event_eq
    · rw [hid₁]
      exact some_ne_none _
    · rw [hid₁, hid]
  have happlied : Applied casing ds w.journal t :=
    ⟨t₁, o, hid₁.trans hid.symm, hevent, hjournal, heffect⟩
  refine h.grow ?_ ?_ (fun _ he => he) ?_ (fun _ hseen => .inl hseen)
  · intro t' ht
    rw [update_field (f := Progress.applied) (p := p) (by rw [hp])] at ht
    exact .inl ht
  · intro t' ht
    by_cases heq : t' = t
    · subst heq
      exact .inr happlied
    · exact .inl (by simpa [update_of_ne heq] using ht)
  · intro t' ht
    rw [update_field (f := Progress.recorded) (p := p) (by rw [hp])]
    exact ht

lemma Inv.commit {o : Op} (heffect : Effect casing (ds.delivery t) o)
    (hseen : (o.commit w.store).eventsSeen = w.store.eventsSeen)
    (hp : p = { g t with applied := true }) :
    Inv casing ds (update g t p) ⟨o.commit w.store, (t, o) :: w.journal⟩ := by
  refine h.grow ?_ ?_ (fun _ he => List.mem_cons_of_mem _ he) ?_ (fun _ hmem => .inl (hseen ▸ hmem))
  · intro t' ht
    by_cases heq : t' = t
    · subst heq
      exact .inr ⟨o, List.mem_cons_self, heffect⟩
    · exact .inl (by simpa [update_of_ne heq] using ht)
  · intro t' ht
    rw [update_field (f := Progress.duplicate) (p := p) (by rw [hp])] at ht
    exact .inl ht
  · intro t' ht
    rw [update_field (f := Progress.recorded) (p := p) (by rw [hp])]
    exact ht

/-- Every call that a delivery makes under the condition keeps the invariant. -/
lemma Inv.step {o : Op} {x : Reply o.Res} (hsettled : Settled ds g o)
    (hpre : (contract casing (ds.delivery t)).pre (g t) o) (hx : (machine t).legal w o x) :
    Inv casing ds (update g t ((g t).next o x)) ((machine t).next w o x) := by
  cases x with
  | value x =>
    cases o with
    | secret stationId | clock | getSubscription subId => exact h.idle rfl rfl rfl
    | reconcile sub grant revokeSubId =>
      exact h.commit hpre eventsSeen_reconcile (by simp [Progress.next, Reply.landed])
    | revokeGrants subId => exact h.commit hpre rfl (by simp [Progress.next, Reply.landed])
    | recordStripeEventSeen id stationId type =>
      cases x with
      | true => exact h.record hpre rfl
      | false =>
        -- an answer `false` means that the event was seen before
        have hmem : id ∈ w.store.eventsSeen := by
          by_contra hnew
          simp [machine, Op.Answers, Store.recordStripeEventSeen, hnew] at hx
        have hsame : (machine t).next w (.recordStripeEventSeen id stationId type)
            (.value false) = w := by
          simp [machine, Reply.landed, Op.commit, Op.isEffect, Store.recordStripeEventSeen, hmem]
        rw [hsame]
        exact h.duplicated hpre hsettled hmem rfl
  | failed landed =>
    cases landed with
    | false =>
      apply h.idle _ rfl rfl
      cases o <;> simp [Progress.next, Reply.landed]
    | true =>
      have hcommits := hx rfl
      cases o with
      | secret stationId | clock | getSubscription subId => exact hcommits.elim
      | reconcile sub grant revokeSubId =>
        exact h.commit hpre eventsSeen_reconcile (by simp [Progress.next, Reply.landed])
      | revokeGrants subId => exact h.commit hpre rfl (by simp [Progress.next, Reply.landed])
      | recordStripeEventSeen id stationId type =>
        exact h.record hpre (by simp [Progress.next])

omit h

omit [DecidableEq T] in
/-- No delivery of a history has begun, and none of its events was recorded before it. -/
lemma Inv.opening {store : Store}
    (hnew : ∀ t id, eventId (ds.delivery t) = some id → id ∉ store.eventsSeen) :
    Inv casing ds (opening casing ds store).ghost (opening casing ds store).world where
  applied := fun _ h => nomatch h
  duplicate := fun _ h => nomatch h
  recorded := fun t id hid hmem => absurd hmem (hnew t id hid)

/-- A delivery that returns has its effect applied, by itself or by another delivery of its
event. -/
theorem acknowledged_is_applied (casing : Casing) (ds : Deliveries T) (store : Store)
    (hnew : ∀ t id, eventId (ds.delivery t) = some id → id ∉ store.eventsSeen)
    {c : Config T payIface WebhookError Progress (World T)}
    (h : Config.Reach machine (fun t => (contract casing (ds.delivery t)).toMonitor) (Settled ds)
      (opening casing ds store) c) (hevent : IsSubscriptionEvent (ds.delivery t).event)
    (hack : c.code t = .ret ()) :
    Applied casing ds c.world.journal t := by
  have hcode : ∀ t, ((opening casing ds store).code t).wp (contract casing (ds.delivery t))
      (Acknowledged (ds.delivery t)) ((opening casing ds store).ghost t) := by
    intro t
    exact wp_seq handleStripeWebhook_wp (fun _ _ hdone => hdone) fun _ _ _ => trivial
  obtain ⟨hwp, hinv⟩ := h.contract hcode (Inv.opening hnew) fun g w t o x hg hsettled hpre hx =>
    ⟨trivial, hg.step hsettled hpre hx⟩
  have hdone := hwp t
  rw [hack] at hdone
  rcases hdone hevent with happlied | hduplicate
  · obtain ⟨o, hmem, heffect⟩ := hinv.applied t happlied
    exact ⟨t, o, rfl, rfl, hmem, heffect⟩
  · exact hinv.duplicate t hduplicate

end Runs

/-! ## An effect that fails -/

def sampleObject : SubscriptionObject where
  id := some "sub_a1".toList
  status := some "active".toList
  currentPeriodEnd := some (.finite 2592000000000)
  customerEmail := some "viewer@example.org".toList
  detailsEmail := none
  priceIds := [some "price_basic".toList]

def sampleDelivery : Delivery where
  stationId := "brookfield".toList
  event := ⟨some "evt_1".toList, some .created, some sampleObject⟩
  verifies secret := secret = "whsec".toList

def sampleDeliveries : Deliveries Bool where
  delivery _ := sampleDelivery
  event_eq _ _ _ _ := rfl

/-- Everything works, but for the first reconciliation where `fails` says so. -/
def sampleAnswer (fails : Bool) (t : Bool) (w : World Bool) :
    (o : Op) → Option {x : Reply o.Res // (machine t).legal w o x}
  | .secret _ => some ⟨.value (some "whsec".toList), trivial⟩
  | .clock => some ⟨.value (0 : ℤ), trivial⟩
  | .recordStripeEventSeen id _ _ => some ⟨.value (w.store.recordStripeEventSeen id).1, rfl⟩
  | .getSubscription subId => some ⟨.value (w.store.getSubscription subId), rfl⟩
  | .revokeGrants subId => some ⟨.value (w.store.revokeGrantsForSubscription subId).1, rfl⟩
  | .reconcile sub grant revokeSubId =>
    if fails && !t then some ⟨.failed false, fun h => nomatch h⟩
    else
      match h : (w.store.reconcileSubscriptionEvent sub grant revokeSubId).map Prod.fst with
      | some r => some ⟨.value r, h⟩
      | none => none

instance (g : Bool → Progress) (o : Op) : Decidable (Settled sampleDeliveries g o) := by
  unfold Settled
  split <;> infer_instance

/-- The first delivery makes its four calls, and then the second one its two. -/
def sampleRun (fails : Bool) (ok : (Bool → Progress) → Op → Prop)
    [∀ g o, Decidable (ok g o)] :
    Option (Config Bool payIface WebhookError Progress (World Bool)) :=
  Config.drive machine (fun t => (contract plainCasing (sampleDeliveries.delivery t)).toMonitor)
    (sampleAnswer fails) ok [false, false, false, false, true, true]
    (opening plainCasing sampleDeliveries emptyStore)

def returned (p : Prog payIface WebhookError Unit) : Bool :=
  match p with
  | .ret _ => true
  | _ => false

lemma eq_ret_of_returned {p : Prog payIface WebhookError Unit} (h : returned p = true) :
    p = .ret () := by
  cases p with
  | ret a => rfl
  | raise e | call o k => cases h

theorem redelivery_is_applied :
    ∃ c, Config.Reach machine
        (fun t => (contract plainCasing (sampleDeliveries.delivery t)).toMonitor)
        (Settled sampleDeliveries) (opening plainCasing sampleDeliveries emptyStore) c ∧
      c.code true = .ret () ∧ Applied plainCasing sampleDeliveries c.world.journal true := by
  have hrun : (sampleRun false (Settled sampleDeliveries)).isSome = true := by decide +kernel
  rcases isSome_iff_exists.mp hrun with ⟨c, hc⟩
  have hreach := Config.reach_of_drive .refl hc
  have hview : (match sampleRun false (Settled sampleDeliveries) with
      | some c => returned (c.code true)
      | none => false) = true := by decide +kernel
  rw [hc] at hview
  have hack := eq_ret_of_returned hview
  have hevent : IsSubscriptionEvent (sampleDeliveries.delivery true).event :=
    ⟨.created, sampleObject, rfl, rfl, .inl rfl, by decide⟩
  exact ⟨c, hreach, hack, acknowledged_is_applied plainCasing sampleDeliveries emptyStore
    (fun _ _ _ => List.not_mem_nil) hreach hevent hack⟩

/-- The reconciliation of the first delivery fails, and the second one returns. -/
theorem failed_effect_is_acknowledged :
    ¬ ∀ c, Config.Reach machine
        (fun t => (contract plainCasing (sampleDeliveries.delivery t)).toMonitor)
        (fun _ _ => True) (opening plainCasing sampleDeliveries emptyStore) c →
      ∀ t, c.code t = .ret () → Applied plainCasing sampleDeliveries c.world.journal t := by
  intro hall
  have hrun : (sampleRun true (fun _ _ => True)).isSome = true := by decide +kernel
  rcases isSome_iff_exists.mp hrun with ⟨c, hc⟩
  have hview : (match sampleRun true (fun _ _ => True) with
      | some c => returned (c.code true) && c.world.journal.isEmpty
      | none => false) = true := by decide +kernel
  rw [hc, Bool.and_eq_true] at hview
  obtain ⟨_, _, _, _, hmem, _⟩ :=
    hall c (Config.reach_of_drive .refl hc) true (eq_ret_of_returned hview.1)
  rw [List.isEmpty_iff.mp hview.2] at hmem
  cases hmem

end CivicCast.Paywall.Webhook
