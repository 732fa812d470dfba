import CivicCast.Lib.Python
import CivicCast.Lib.Table

/-!
# The rows of the paywall, and their store

`AccessGrant` and `Subscription` are validated when they are made; `PaywallStore` keeps them in
tables by primary key, next to the configuration of every station and the ids of the Stripe
events it has seen. The column of magic-link tokens is unique: no two grants share a token.

Times are in microseconds. `str.lower` maps all of Unicode and is a parameter; the paywall
relies on it for addresses, of which it keeps a normal form.
-/

namespace CivicCast.Paywall

open Lib Option Table

/-- `str.lower`. What is stripped and lowered stays as it is. -/
structure Casing where
  lower : Text → Text
  lower_strip : ∀ t, lower (Text.strip (lower (Text.strip t))) = lower (Text.strip t)

/-- A number of a JSON document, in microseconds, with the three that Python adds. -/
inductive Number where
  | finite (micros : ℤ)
  | nan
  | infinity
  | negInfinity
  deriving DecidableEq

/-! ## Validation -/

def isSlugStart (c : Char) : Bool := ('a' ≤ c && c ≤ 'z') || ('0' ≤ c && c ≤ '9')

/-- The pattern of `Slug`: `^[a-z0-9][a-z0-9_-]*$`, at most 120 characters. -/
def isSlug : Text → Bool
  | [] => false
  | c :: rest =>
    isSlugStart c && rest.all (fun c => isSlugStart c || c = '_' || c = '-') && rest.length < 120

/-- `_EMAIL_PATTERN`: `^[^@\s]+@[^@\s]+\.[^@\s]+$`. -/
def isEmail (t : Text) : Bool :=
  match t.splitOn '@' with
  | [user, host] =>
    user ≠ [] && t.all (fun c => !Text.isSpace c) && '.' ∈ (host.drop 1).dropLast
  | _ => false

/-- `_validate_email`; `none` where it raises. -/
def validateEmail (casing : Casing) (value : Text) : Option Text :=
  let trimmed := Text.strip value
  if isEmail trimmed then some (casing.lower trimmed) else none

inductive ScopeKind where
  | asset
  | series
  | all
  deriving DecidableEq

inductive GrantedVia where
  | subscription
  | comp
  | magicLink
  deriving DecidableEq

inductive SubscriptionStatus where
  | active
  | pastDue
  | canceled
  | incomplete
  deriving DecidableEq

structure PaywallConfig where
  stationId : Text
  enabled : Bool
  signingSecret : Option Text
  deriving DecidableEq

structure AccessGrant where
  grantId : Text
  stationId : Text
  email : Text
  scopeKind : ScopeKind
  scopeId : Text
  grantedVia : GrantedVia
  subscriptionId : Option Text
  magicLinkTokenId : Option Text
  expiresAt : Option ℤ
  deriving DecidableEq

structure Subscription where
  subId : Text
  stationId : Text
  email : Text
  tierId : Text
  status : SubscriptionStatus
  currentPeriodEnd : ℤ
  grantId : Option Text
  deriving DecidableEq

def atMost120 (t : Option Text) : Bool := t.all fun t => t.length ≤ 120

/-- The constructor of `AccessGrant`; `none` is its `ValidationError`. -/
def AccessGrant.make (casing : Casing) (g : AccessGrant) : Option AccessGrant := do
  let email ← validateEmail casing g.email
  if isSlug g.grantId && isSlug g.stationId && 3 ≤ email.length && email.length ≤ 320 &&
      g.scopeId.length ≤ 120 && atMost120 g.subscriptionId && atMost120 g.magicLinkTokenId then
    some { g with email := email, scopeId := Text.strip g.scopeId }
  else none

/-- The constructor of `Subscription`. -/
def Subscription.make (casing : Casing) (sub : Subscription) : Option Subscription := do
  let email ← validateEmail casing sub.email
  if 1 ≤ sub.subId.length && sub.subId.length ≤ 120 && isSlug sub.stationId && isSlug sub.tierId &&
      3 ≤ email.length && email.length ≤ 320 && atMost120 sub.grantId then
    some { sub with email := email }
  else none

lemma validateEmail_lower {casing : Casing} {value email : Text}
    (h : validateEmail casing value = some email) : email = casing.lower (Text.strip value) := by
  simp only [validateEmail] at h
  split at h
  · exact (some.inj h).symm
  · cases h

lemma AccessGrant.make_eq {casing : Casing} {g grant : AccessGrant}
    (h : g.make casing = some grant) :
    grant = { g with email := casing.lower (Text.strip g.email),
                     scopeId := Text.strip g.scopeId } := by
  simp only [AccessGrant.make, bind_eq_bind, bind_eq_some_iff] at h
  obtain ⟨email, hemail, h⟩ := h
  split at h
  · rw [← validateEmail_lower hemail]
    exact (some.inj h).symm
  · cases h

lemma Subscription.make_eq {casing : Casing} {sub made : Subscription}
    (h : sub.make casing = some made) :
    made = { sub with email := casing.lower (Text.strip sub.email) } := by
  simp only [Subscription.make, bind_eq_bind, bind_eq_some_iff] at h
  obtain ⟨email, hemail, h⟩ := h
  split at h
  · rw [← validateEmail_lower hemail]
    exact (some.inj h).symm
  · cases h

/-! ## The store -/

abbrev GrantTable : Type := Table AccessGrant Text AccessGrant.grantId

/-- The unique index on `magic_link_token_id`. -/
def TokensUnique (rows : List AccessGrant) : Prop :=
  ∀ g ∈ rows, ∀ g' ∈ rows, g.magicLinkTokenId ≠ none →
    g.magicLinkTokenId = g'.magicLinkTokenId → g.grantId = g'.grantId

instance (rows : List AccessGrant) : Decidable (TokensUnique rows) := by
  unfold TokensUnique
  infer_instance

structure Store where
  configs : Table PaywallConfig Text PaywallConfig.stationId
  grants : GrantTable
  tokensUnique : TokensUnique grants.rows
  subscriptions : Table Subscription Text Subscription.subId
  /-- `paywall_stripe_events_seen`. -/
  eventsSeen : List Text

namespace GrantTable

/-- The row of a grant: a new one, or every column of the old one but its key. A row is a grant
that was validated before, so reading it back changes nothing. -/
def put (grants : GrantTable) (g : AccessGrant) : GrantTable :=
  grants.upsert g (fun row => { g with grantId := row.grantId }) fun _ => rfl

lemma get_put_self {grants : GrantTable} {g : AccessGrant} :
    (grants.put g).get g.grantId = some g := by
  unfold put
  rw [get_upsert_self]
  cases hget : get grants g.grantId with
  | none => rfl
  | some row =>
    have hkey : row.grantId = g.grantId := key_of_get hget
    simp [hkey]

lemma get_put_of_ne {grants : GrantTable} {g : AccessGrant} {k : Text} (h : k ≠ g.grantId) :
    (grants.put g).get k = grants.get k :=
  get_upsert_of_ne h

end GrantTable

namespace Store

def getConfigForStation (s : Store) (stationId : Text) : Option PaywallConfig :=
  s.configs.get stationId

/-- `upsert_grant`; `none` is the `IntegrityError` of the index. -/
def upsertGrant (s : Store) (g : AccessGrant) : Option Store :=
  if h : TokensUnique (s.grants.put g).rows then
    some { s with grants := s.grants.put g, tokensUnique := h }
  else none

def listGrantsForEmail (s : Store) (stationId email : Text) : List AccessGrant :=
  s.grants.rows.filter fun g => g.stationId = stationId && g.email = email

/-- The grant has not run out, as the query and the check after it have it. -/
def notExpired (now : ℤ) (g : AccessGrant) : Bool := g.expiresAt.all fun t => now < t

def covers (scopeKind : ScopeKind) (scopeId : Text) (g : AccessGrant) : Bool :=
  g.scopeKind = .all || (g.scopeKind = scopeKind && g.scopeId = scopeId)

def hasGrantFor (s : Store) (stationId email : Text) (scopeKind : ScopeKind) (scopeId : Text)
    (now : ℤ) : Bool :=
  (s.listGrantsForEmail stationId email).any fun g => notExpired now g && covers scopeKind scopeId g

def dropGrants (s : Store) (p : AccessGrant → Bool) : Store :=
  { s with
    grants := s.grants.filter fun g => !p g
    tokensUnique := fun g hg g' hg' =>
      s.tokensUnique g (List.mem_of_mem_filter hg) g' (List.mem_of_mem_filter hg') }

/-- `delete_grant`; `none` where there is no such grant. -/
def deleteGrant (s : Store) (grantId : Text) : Option Store :=
  match s.grants.get grantId with
  | none => none
  | some _ => some (s.dropGrants fun g => g.grantId = grantId)

def tied (subId : Text) (g : AccessGrant) : Bool := g.subscriptionId = some subId

/-- `revoke_grants_for_subscription`, with the number of rows it removes. -/
def revokeGrantsForSubscription (s : Store) (subId : Text) : ℕ × Store :=
  (s.grants.rows.countP (tied subId), s.dropGrants (tied subId))

def getSubscription (s : Store) (subId : Text) : Option Subscription :=
  s.subscriptions.get subId

/-- `record_stripe_event_seen`: `false` if the id was there. -/
def recordStripeEventSeen (s : Store) (eventId : Text) : Bool × Store :=
  if eventId ∈ s.eventsSeen then (false, s)
  else (true, { s with eventsSeen := s.eventsSeen ++ [eventId] })

/-- The row of a subscription, as that of a grant. -/
def putSubscription (s : Store) (sub : Subscription) : Store :=
  { s with
    subscriptions := s.subscriptions.upsert sub (fun row => { sub with subId := row.subId })
      fun _ => rfl }

/-- What `reconcile_subscription_event` gives back. -/
structure Reconciled where
  subscription : Subscription
  grant : Option AccessGrant
  revoked : ℕ
  deriving DecidableEq

def upsertGrantIfAny (s : Store) : Option AccessGrant → Option Store
  | none => some s
  | some g => s.upsertGrant g

def revokeIfAny (s : Store) : Option Text → ℕ × Store
  | none => (0, s)
  | some subId => s.revokeGrantsForSubscription subId

/-- `reconcile_subscription_event`, one transaction; `none` is an `IntegrityError`. -/
def reconcileSubscriptionEvent (s : Store) (sub : Subscription) (grant : Option AccessGrant)
    (revokeSubId : Option Text) : Option (Reconciled × Store) :=
  (s.upsertGrantIfAny grant).map fun s =>
    let (revoked, s) := (s.putSubscription sub).revokeIfAny revokeSubId
    (⟨sub, grant.bind fun g => s.grants.get g.grantId, revoked⟩, s)

lemma get_putSubscription_self (s : Store) (sub : Subscription) :
    (s.putSubscription sub).subscriptions.get sub.subId = some sub := by
  unfold putSubscription
  rw [get_upsert_self]
  cases hget : get s.subscriptions sub.subId with
  | none => rfl
  | some row =>
    have hkey : row.subId = sub.subId := key_of_get hget
    simp [hkey]

lemma upsertGrant_eq {s s' : Store} {g : AccessGrant} (h : s.upsertGrant g = some s') :
    s'.grants = s.grants.put g ∧ s'.configs = s.configs ∧ s'.subscriptions = s.subscriptions ∧
      s'.eventsSeen = s.eventsSeen := by
  unfold upsertGrant at h
  split at h
  · cases h
    exact ⟨rfl, rfl, rfl, rfl⟩
  · cases h

/-- What a reconciliation leaves: the grants before its deletion, and the other tables. -/
lemma reconcileSubscriptionEvent_eq {s s' : Store} {sub : Subscription}
    {grant : Option AccessGrant} {revokeSubId : Option Text} {r : Reconciled}
    (h : s.reconcileSubscriptionEvent sub grant revokeSubId = some (r, s')) :
    ∃ grants : GrantTable, grants = grant.elim s.grants s.grants.put ∧
      s'.grants = revokeSubId.elim grants (fun subId => grants.filter fun g => !tied subId g) ∧
      s'.subscriptions = (s.putSubscription sub).subscriptions ∧ s'.configs = s.configs ∧
      s'.eventsSeen = s.eventsSeen := by
  rw [reconcileSubscriptionEvent, map_eq_some_iff] at h
  obtain ⟨s₁, hgrant, h⟩ := h
  have hs₁ : s₁.grants = grant.elim s.grants s.grants.put ∧ s₁.configs = s.configs ∧
      s₁.subscriptions = s.subscriptions ∧ s₁.eventsSeen = s.eventsSeen := by
    cases grant with
    | none => cases hgrant; exact ⟨rfl, rfl, rfl, rfl⟩
    | some g => exact upsertGrant_eq hgrant
  obtain ⟨hgrants, hconfigs, hsubs, hseen⟩ := hs₁
  refine ⟨s₁.grants, hgrants, ?_⟩
  cases revokeSubId with
  | none =>
    cases h
    exact ⟨rfl, by simp [putSubscription, hsubs], hconfigs, hseen⟩
  | some subId =>
    cases h
    exact ⟨rfl, by simp [putSubscription, dropGrants, hsubs], hconfigs, hseen⟩

end Store

/-! ## The empty store -/

/-- `str.lower` where there are no capitals. -/
def plainCasing : Casing where
  lower t := t
  lower_strip := Text.strip_strip

def emptyStore : Store where
  configs := .empty
  grants := .empty
  tokensUnique := by simp [TokensUnique, Table.empty]
  subscriptions := .empty
  eventsSeen := []

end CivicCast.Paywall
