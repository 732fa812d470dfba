import CivicCast.Paywall.Webhook

/-!
# Access follows the subscription

The events of one subscription, handled one after the other with nothing failing. A created or
updated event that is active or past due puts the grant of the subscription, with the end of the
stored period; a deleted one revokes it. A created or updated event of another status writes the
subscription and leaves the grant alone: it revokes nothing.

So the grant follows the events if and only if no event that grants access is directly followed by
one that should take it away without a deletion (`access_follows_iff`).
-/

namespace CivicCast.Paywall.Entitlement

open Lib Lib.Prog Webhook List

/-! ## Handling without failures -/

/-- A delivery, with what the secret getter and the clock say during it. -/
structure Handling where
  delivery : Delivery
  secret : Option Text
  now : ℤ

/-- A call that works; `none` is an `IntegrityError`. -/
def answer (e : Handling) (s : Store) : (o : Op) → Option (o.Res × Store)
  | .secret _ => some (e.secret, s)
  | .clock => some (e.now, s)
  | .recordStripeEventSeen eventId _ _ => some (s.recordStripeEventSeen eventId)
  | .getSubscription subId => some (s.getSubscription subId, s)
  | .reconcile sub grant revokeSubId => s.reconcileSubscriptionEvent sub grant revokeSubId
  | .revokeGrants subId => some (s.revokeGrantsForSubscription subId)

/-- What a program returns, and the store then; `none` where it raises. -/
def perform (e : Handling) {α : Type} : PayM α → Store → Option (α × Store)
  | .ret a, s => some (a, s)
  | .raise _, _ => none
  | .call o k, s =>
    match answer e s o with
    | some (x, s₁) => perform e (k (.value x)) s₁
    | none => none

/-- The store after a delivery that is processed: it returns, and not as a duplicate. -/
def handle (casing : Casing) (s : Store) (e : Handling) : Option Store :=
  match perform e (handleStripeWebhook casing e.delivery) s with
  | some (ack, s') => if ack = .duplicate then none else some s'
  | none => none

/-- Deliveries one after the other, each with the store it leaves. -/
def handleAll (casing : Casing) : Store → List Handling → Option (List (Handling × Store))
  | _, [] => some []
  | s, e :: es =>
    match handle casing s e with
    | some s₁ => (handleAll casing s₁ es).map ((e, s₁) :: ·)
    | none => none

section Perform

variable {e : Handling} {s s' : Store} {casing : Casing} {object : SubscriptionObject}
  {stationId : Text} {type : EventType}

lemma perform_bind {α β : Type} {p : PayM α} {f : α → PayM β} {b : β}
    (h : perform e (p >>= f) s = some (b, s')) :
    ∃ a s₁, perform e p s = some (a, s₁) ∧ perform e (f a) s₁ = some (b, s') := by
  induction p generalizing s with
  | ret a => exact ⟨a, s, rfl, h⟩
  | raise _ => cases h
  | call o k ih =>
    have hcall : (Prog.call o k >>= f : PayM β) = .call o fun x => k x >>= f := rfl
    rw [hcall] at h
    simp only [perform] at h ⊢
    split at h
    · exact ih _ h
    · cases h

lemma perform_ask {o : Op} {x : o.Res} (h : perform e (ask o) s = some (x, s')) :
    answer e s o = some (x, s') := by
  simp only [ask, perform] at h
  split at h
  · rename_i y s₁ hanswer
    cases h
    exact hanswer
  · cases h

lemma gives_of_perform {α : Type} {φ : α → Prop} {p : PayM α} {a : α} (hp : p.Gives φ)
    (h : perform e p s = some (a, s')) : φ a := by
  induction p generalizing s with
  | ret b =>
    cases h
    exact hp
  | raise _ => cases h
  | call o k ih =>
    simp only [perform] at h
    split at h
    · exact ih _ (hp _) h
    · cases h

lemma periodEndOf_store {status : SubscriptionStatus} {n : Option Number} {t : ℤ}
    (h : perform e (periodEndOf status n) s = some (t, s')) : s' = s := by
  unfold periodEndOf at h
  split at h
  · split at h
    · cases h
      rfl
    · cases h
  · by_cases hgrants : grants status = true
    · rw [if_pos hgrants] at h
      cases h
    · rw [if_neg hgrants] at h
      have hclock := perform_ask h
      cases hclock
      rfl

lemma fieldsOf_store {x : Fields}
    (h : perform e (fieldsOf casing object) s = some (x, s')) : s' = s := by
  unfold fieldsOf at h
  split at h
  · cases h
  · obtain ⟨t, s₁, hend, h⟩ := perform_bind h
    rw [periodEndOf_store hend] at h
    dsimp only at h
    split at h
    · cases h
    · cases h
      rfl

/-- `_reconcile_subscription` puts the rows of the fields of the object. -/
lemma reconcileSubscription_performed {r : Subscription × Option AccessGrant}
    (h : perform e (reconcileSubscription casing stationId object) s = some (r, s')) :
    ∃ x : Fields, x.From casing object ∧ ∃ sub grant stored,
      rowsOf casing stationId (x.notBefore (s.getSubscription x.subId)) = some (sub, grant) ∧
        s.reconcileSubscriptionEvent sub grant none = some (stored, s') := by
  obtain ⟨x, s₁, hx, h⟩ := perform_bind h
  have hfrom := gives_of_perform fieldsOf_gives hx
  rw [fieldsOf_store hx] at h
  obtain ⟨existing, s₂, hget, h⟩ := perform_bind h
  have hexisting := perform_ask hget
  cases hexisting
  split at h
  · cases h
  · rename_i sub grant hrows
    obtain ⟨stored, s₃, hput, h⟩ := perform_bind h
    cases h
    exact ⟨x, hfrom, sub, grant, stored, hrows, perform_ask hput⟩

/-- A deletion leaves no grant of the subscription, and every other one. -/
lemma deleteSubscription_performed {ack : Ack}
    {subId : Text} (hid : strOrNone object.id = some subId)
    (h : perform e (deleteSubscription casing object) s = some (ack, s')) :
    s'.grants = s.grants.filter fun g => !Store.tied subId g := by
  unfold deleteSubscription at h
  rw [hid] at h
  dsimp only at h
  split at h
  · obtain ⟨existing, s₁, hget, h⟩ := perform_bind h
    have hexisting := perform_ask hget
    cases hexisting
    split at h
    · split at h
      · cases h
      · obtain ⟨stored, s₂, hput, h⟩ := perform_bind h
        cases h
        have hstored : s.reconcileSubscriptionEvent _ none (some subId) = some (stored, s') :=
          perform_ask hput
        obtain ⟨_, hgrants, hrevoked, _⟩ := Store.reconcileSubscriptionEvent_eq hstored
        rw [hrevoked, hgrants]
        rfl
    · obtain ⟨removed, s₂, hrevoke, h⟩ := perform_bind h
      cases h
      have hrevoked := perform_ask hrevoke
      cases hrevoked
      rfl
  · cases h

lemma recordSeen_store {id : Option Text} {fresh : Bool}
    (h : perform e (recordSeen stationId type id) s = some (fresh, s')) : s'.grants = s.grants := by
  unfold recordSeen at h
  split at h
  · cases h
    rfl
  · rename_i id
    have hrecorded : some (s.recordStripeEventSeen id) = some (fresh, s') := perform_ask h
    unfold Store.recordStripeEventSeen at hrecorded
    split at hrecorded
    · cases hrecorded
      rfl
    · cases hrecorded
      rfl

lemma dispatch_of_handle (htype : e.delivery.event.type = some type)
    (hobject : e.delivery.event.object = some object) (h : handle casing s e = some s') :
    ∃ s₁ ack, s₁.grants = s.grants ∧
      perform e (dispatch casing e.delivery.stationId type object) s₁ = some (ack, s') := by
  unfold handle at h
  split at h
  · rename_i ack s₂ hperform
    split at h
    · cases h
    · rename_i hack
      cases h
      obtain ⟨secret, s₃, hsecret, hperform⟩ := perform_bind hperform
      have hs₃ := perform_ask hsecret
      cases hs₃
      split at hperform
      · cases hperform
      · unfold process at hperform
        rw [htype, hobject] at hperform
        obtain ⟨fresh, s₁, hrecord, hperform⟩ := perform_bind hperform
        cases fresh with
        | true => exact ⟨s₁, ack, recordSeen_store hrecord, hperform⟩
        | false =>
          cases hperform
          exact absurd rfl hack
  · cases h

end Perform

/-! ## What an event should do -/

/-- The event is a created, updated or deleted one of the subscription. -/
def EventOf (subId : Text) (event : Event) : Prop :=
  ∃ type object, event.type = some type ∧ event.object = some object ∧
    (type = .created ∨ type = .updated ∨ type = .deleted) ∧ strOrNone object.id = some subId

def statusIn (event : Event) : Option SubscriptionStatus :=
  match event.type, event.object with
  | some .created, some object | some .updated, some object => some (statusOf object.status)
  | _, _ => none

/-- A created or updated event with status active or past due. -/
def GrantsAccess (event : Event) : Bool := (statusIn event).any grants

/-- A created or updated event with any other status. -/
def Lapses (event : Event) : Bool := (statusIn event).any fun status => !grants status

def HasGrant (subId : Text) (s : Store) : Prop := ∃ g ∈ s.grants.rows, Store.tied subId g = true

/-- A grant is put that ends with the period of the subscription. -/
def Regrants (subId : Text) (s s' : Store) : Prop :=
  ∃ (g : AccessGrant) (sub : Subscription), g.grantId = grantIdOf subId ∧
    Store.tied subId g = true ∧ g.expiresAt = some sub.currentPeriodEnd ∧
    s'.grants = s.grants.put g ∧ s'.getSubscription subId = some sub

variable {subId : Text} {casing : Casing} {s : Store} {e : Handling}

/-- A reconciliation puts a grant that ends with the period, or leaves the grants alone. -/
lemma reconciled_cases {s₁ s' : Store}
    {object : SubscriptionObject} (hid : strOrNone object.id = some subId)
    (hstatus : statusIn e.delivery.event = some (statusOf object.status))
    (hgrants : s₁.grants = s.grants)
    (h : ∃ r, perform e (reconcileSubscription casing e.delivery.stationId object) s₁ =
      some (r, s')) :
    (GrantsAccess e.delivery.event = true ∧ Lapses e.delivery.event = false ∧
      Regrants subId s s') ∨
    (GrantsAccess e.delivery.event = false ∧ Lapses e.delivery.event = true ∧
      s'.grants = s.grants) := by
  obtain ⟨r, hperform⟩ := h
  obtain ⟨x, hfrom, sub, grant, stored, hrows, hstored⟩ := reconcileSubscription_performed hperform
  obtain ⟨_, hput, hafter, hsubscriptions, _⟩ := Store.reconcileSubscriptionEvent_eq hstored
  obtain ⟨hgranting, hnone, hsub⟩ := rowsOf_eq hrows
  obtain rfl : x.subId = subId := Option.some.inj (hfrom.subId.symm.trans hid)
  have hsub' := Subscription.make_eq hsub
  have hkey : sub.subId = x.subId := by rw [hsub']; rfl
  have hrow : s'.getSubscription x.subId = some sub := by
    rw [Store.getSubscription, hsubscriptions, ← hkey]
    exact Store.get_putSubscription_self s₁ sub
  have hxstatus : (x.notBefore (s₁.getSubscription x.subId)).status = statusOf object.status :=
    hfrom.status
  cases hcase : grants (statusOf object.status) with
  | true =>
    -- the status grants: a row comes with the subscription
    obtain ⟨g, rfl, hmake⟩ := hgranting (hxstatus ▸ hcase)
    have hg := AccessGrant.make_eq hmake
    refine .inl ⟨by simp [GrantsAccess, hstatus, hcase], by simp [Lapses, hstatus, hcase], g, sub,
      by rw [hg]; rfl, by rw [hg]; simp [Store.tied, grantRow, Fields.notBefore], ?_, ?_, hrow⟩
    · rw [hg, hsub']
      rfl
    · rw [hafter, hput, hgrants]
      rfl
  | false =>
    -- nothing is granted and nothing revoked
    obtain rfl := hnone (hxstatus ▸ hcase)
    refine .inr ⟨by simp [GrantsAccess, hstatus, hcase], by simp [Lapses, hstatus, hcase], ?_⟩
    rw [hafter, hput, hgrants]
    rfl

lemma handle_cases {s' : Store}
    (hevent : EventOf subId e.delivery.event) (h : handle casing s e = some s') :
    (GrantsAccess e.delivery.event = true ∧ Lapses e.delivery.event = false ∧
      Regrants subId s s') ∨
    (GrantsAccess e.delivery.event = false ∧ Lapses e.delivery.event = true ∧
      s'.grants = s.grants) ∨
    (GrantsAccess e.delivery.event = false ∧ Lapses e.delivery.event = false ∧
      s'.grants = s.grants.filter fun g => !Store.tied subId g) := by
  obtain ⟨type, object, htype, hobject, hkind, hid⟩ := hevent
  obtain ⟨s₁, ack, hgrants, hdispatch⟩ := dispatch_of_handle htype hobject h
  have hput : type = .created ∨ type = .updated →
      ∃ r, perform e (reconcileSubscription casing e.delivery.stationId object) s₁ =
        some (r, s') := by
    intro hkind
    rcases hkind with rfl | rfl
    · obtain ⟨r, s₂, hput, hret⟩ := perform_bind hdispatch
      cases hret
      exact ⟨r, hput⟩
    · obtain ⟨r, s₂, hput, hret⟩ := perform_bind hdispatch
      cases hret
      exact ⟨r, hput⟩
  have hstatusIn : type = .created ∨ type = .updated →
      statusIn e.delivery.event = some (statusOf object.status) := by
    intro hkind
    rcases hkind with rfl | rfl
    · simp [statusIn, htype, hobject]
    · simp [statusIn, htype, hobject]
  rcases hkind with hkind | hkind | rfl
  · exact .imp_right .inl
      (reconciled_cases hid (hstatusIn (.inl hkind)) hgrants (hput (.inl hkind)))
  · exact .imp_right .inl
      (reconciled_cases hid (hstatusIn (.inr hkind)) hgrants (hput (.inr hkind)))
  · -- a deleted subscription has no status
    have hnone : statusIn e.delivery.event = none := by simp [statusIn, htype, hobject]
    refine .inr (.inr ⟨by simp [GrantsAccess, hnone], by simp [Lapses, hnone], ?_⟩)
    rw [← hgrants]
    exact deleteSubscription_performed hid hdispatch

/-! ## The gate -/

def hasAccess (casing : Casing) (s : Store) (stationId : Text) (email : Option Text)
    (scopeKind : ScopeKind) (scopeId : Text) (now : ℤ) : Bool :=
  match (s.getConfigForStation stationId).filter PaywallConfig.enabled with
  | none => true
  | some _ =>
    match email.filter fun email => Text.strip email ≠ [] with
    | none => false
    | some email =>
      s.hasGrantFor stationId (casing.lower (Text.strip email)) scopeKind scopeId now

/-- After an event of the subscription: a grant tied to it exists exactly if the event grants
access, and ends with the stored period; where the event does not, the gate answers as if there
were only the other grants. -/
structure Follows (casing : Casing) (subId : Text) (event : Event) (s : Store) : Prop where
  exists_iff : HasGrant subId s ↔ GrantsAccess event = true
  expiry : ∀ g ∈ s.grants.rows, Store.tied subId g = true →
    ∃ sub, s.getSubscription subId = some sub ∧ g.expiresAt = some sub.currentPeriodEnd
  access : GrantsAccess event = false → ∀ stationId email scopeKind scopeId now,
    hasAccess casing s stationId email scopeKind scopeId now =
      hasAccess casing (s.dropGrants (Store.tied subId)) stationId email scopeKind scopeId now

/-- No event that lapses comes directly after one that grants access; `granted` says whether the
one before the list did. -/
def NoLapse : Bool → List Event → Prop
  | _, [] => True
  | granted, event :: events =>
    (granted = true → Lapses event = false) ∧ NoLapse (GrantsAccess event) events

/-- Every grant tied to the subscription is the one the webhook puts. -/
def Tidy (subId : Text) (s : Store) : Prop :=
  ∀ g ∈ s.grants.rows, Store.tied subId g = true → g.grantId = grantIdOf subId

lemma tidy_of_no_grant (h : ¬ HasGrant subId s) : Tidy subId s :=
  fun g hg htied => absurd ⟨g, hg, htied⟩ h

/-- Without a grant of the subscription the gate has nothing to lose. -/
lemma hasAccess_of_no_grant (h : ¬ HasGrant subId s) (stationId : Text) (email : Option Text)
    (scopeKind : ScopeKind) (scopeId : Text) (now : ℤ) :
    hasAccess casing s stationId email scopeKind scopeId now =
      hasAccess casing (s.dropGrants (Store.tied subId)) stationId email scopeKind scopeId now := by
  have hrows : (s.dropGrants (Store.tied subId)).grants.rows = s.grants.rows := by
    have hfree : ∀ g ∈ s.grants.rows, (!Store.tied subId g) = true := by
      intro g hg
      cases htied : Store.tied subId g with
      | false => rfl
      | true => exact absurd ⟨g, hg, htied⟩ h
    exact filter_eq_self.mpr hfree
  have hgrant : ∀ email, (s.dropGrants (Store.tied subId)).hasGrantFor stationId email scopeKind
      scopeId now = s.hasGrantFor stationId email scopeKind scopeId now := by
    intro email
    simp only [Store.hasGrantFor, Store.listGrantsForEmail, hrows]
  have hconfig : (s.dropGrants (Store.tied subId)).getConfigForStation stationId =
      s.getConfigForStation stationId := rfl
  simp only [hasAccess, hconfig, hgrant]

/-! ## One event -/

section Step

variable {casing : Casing} {subId : Text} {s s' : Store} {event : Event}

/-- An event that grants access: the grant is there, and it is the only one. -/
lemma follows_of_put {g : AccessGrant} {sub : Subscription} (htidy : Tidy subId s)
    (hid : g.grantId = grantIdOf subId) (htied : Store.tied subId g = true)
    (hexpiry : g.expiresAt = some sub.currentPeriodEnd) (hput : s'.grants = s.grants.put g)
    (hsub : s'.getSubscription subId = some sub) (hevent : GrantsAccess event = true) :
    Follows casing subId event s' ∧ Tidy subId s' := by
  have hget : s'.grants.get g.grantId = some g := by
    rw [hput]
    exact GrantTable.get_put_self
  -- a tied row is an old one, which has the same id, or the new one
  have hrows : ∀ g' ∈ s'.grants.rows, Store.tied subId g' = true → g' = g := by
    intro g' hg' htied'
    by_cases hsame : g'.grantId = g.grantId
    · exact Table.eq_of_key_eq hg' (Table.mem_of_get hget) hsame
    · have hget' : s'.grants.get g'.grantId = some g' := Table.get_eq_some_iff.mpr ⟨hg', rfl⟩
      rw [hput, GrantTable.get_put_of_ne hsame] at hget'
      have hold := htidy g' (Table.mem_of_get hget') htied'
      exact absurd (hold.trans hid.symm) hsame
  refine ⟨⟨?_, ?_, ?_⟩, ?_⟩
  · exact ⟨fun _ => hevent, fun _ => ⟨g, Table.mem_of_get hget, htied⟩⟩
  · intro g' hg' htied'
    rw [hrows g' hg' htied']
    exact ⟨sub, hsub, hexpiry⟩
  · intro hnot
    rw [hevent] at hnot
    cases hnot
  · intro g' hg' htied'
    rw [hrows g' hg' htied']
    exact hid

lemma follows_of_no_grant (hnone : ¬ HasGrant subId s') (hevent : GrantsAccess event = false) :
    Follows casing subId event s' where
  exists_iff := by
    rw [hevent]
    exact ⟨fun h => absurd h hnone, by simp⟩
  expiry := fun g hg htied => absurd ⟨g, hg, htied⟩ hnone
  access := fun _ => hasAccess_of_no_grant hnone

lemma no_grant_of_filter
    (hfilter : s'.grants = s.grants.filter fun g => !Store.tied subId g) : ¬ HasGrant subId s' := by
  rintro ⟨g, hg, htied⟩
  rw [hfilter] at hg
  have hkept := of_mem_filter hg
  simp [htied] at hkept

/-- The event is followed if and only if it does not lapse where there is a grant; and then the
next one meets a grant if and only if this one grants access. -/
lemma handle_follows {e : Handling} (htidy : Tidy subId s)
    (hevent : EventOf subId e.delivery.event) (h : handle casing s e = some s') :
    (Follows casing subId e.delivery.event s' ↔
      (HasGrant subId s → Lapses e.delivery.event = false)) ∧ Tidy subId s' := by
  rcases handle_cases hevent h with
    ⟨hgrants, hlapses, g, sub, hid, htied, hexpiry, hput, hsub⟩ | ⟨hgrants, hlapses, hsame⟩ |
    ⟨hgrants, hlapses, hfilter⟩
  · obtain ⟨hfollows, htidy'⟩ := follows_of_put htidy hid htied hexpiry hput hsub hgrants
    exact ⟨⟨fun _ _ => hlapses, fun _ => hfollows⟩, htidy'⟩
  · -- a lapse leaves the grants: it is followed if there is none
    have hhas : HasGrant subId s' ↔ HasGrant subId s := by rw [HasGrant, hsame, HasGrant]
    refine ⟨⟨?_, ?_⟩, by rw [Tidy, hsame]; exact htidy⟩
    · intro hfollows hbefore
      have hgranting := hfollows.exists_iff.mp (hhas.mpr hbefore)
      rw [hgrants] at hgranting
      cases hgranting
    · intro hlapse
      apply follows_of_no_grant _ hgrants
      intro hafter
      have hnot := hlapse (hhas.mp hafter)
      rw [hlapses] at hnot
      cases hnot
  · have hnone := no_grant_of_filter hfilter
    exact ⟨⟨fun _ _ => hlapses, fun _ => follows_of_no_grant hnone hgrants⟩, tidy_of_no_grant hnone⟩

end Step

/-! ## Whole sequences -/

/-- The run lemma, from any store whose grant of the subscription is as the last event had it. -/
lemma follows_all_iff {es : List Handling} :
    ∀ {s : Store} {history : List (Handling × Store)} {granted : Bool}, Tidy subId s →
      (HasGrant subId s ↔ granted = true) → (∀ e ∈ es, EventOf subId e.delivery.event) →
      handleAll casing s es = some history →
      ((∀ e ∈ history, Follows casing subId e.1.delivery.event e.2) ↔
        NoLapse granted (es.map fun e => e.delivery.event)) := by
  induction es with
  | nil =>
    intro s history granted _ _ _ h
    cases h
    simp [NoLapse]
  | cons e es ih =>
    intro s history granted htidy hgranted hevents h
    rw [handleAll] at h
    split at h
    · rename_i s₁ hhandle
      obtain ⟨later, hlater, rfl⟩ := Option.map_eq_some_iff.mp h
      have hevent := hevents e mem_cons_self
      obtain ⟨hiff, htidy₁⟩ := handle_follows htidy hevent hhandle
      -- the first event decides what the later ones start from
      rw [forall_mem_cons, map_cons, NoLapse, ← hgranted]
      constructor
      · rintro ⟨hfirst, hrest⟩
        have hlater' := ih htidy₁ hfirst.exists_iff
          (fun e' he' => hevents e' (mem_cons_of_mem _ he')) hlater
        exact ⟨hiff.mp hfirst, hlater'.mp hrest⟩
      · rintro ⟨hfirst, hrest⟩
        have hfollows := hiff.mpr hfirst
        have hlater' := ih htidy₁ hfollows.exists_iff
          (fun e' he' => hevents e' (mem_cons_of_mem _ he')) hlater
        exact ⟨hfollows, hlater'.mpr hrest⟩
    · cases h

/-- The grant follows the events of a subscription if and only if none that lapses comes directly
after one that grants access. -/
theorem access_follows_iff {es : List Handling}
    {history : List (Handling × Store)} (hstart : ¬ HasGrant subId s)
    (hevents : ∀ e ∈ es, EventOf subId e.delivery.event)
    (h : handleAll casing s es = some history) :
    (∀ e ∈ history, Follows casing subId e.1.delivery.event e.2) ↔
      NoLapse false (es.map fun e => e.delivery.event) := by
  apply follows_all_iff (tidy_of_no_grant hstart) _ hevents h
  exact ⟨fun hgrant => absurd hgrant hstart, by simp⟩

/-! ## A subscription that is paid, and one that is canceled -/

def sampleEvent (id : String) (type : EventType) (status : String) : Handling where
  delivery :=
    { sampleDelivery with
      event := ⟨some id.toList, some type,
        some { sampleObject with status := some status.toList }⟩ }
  secret := some "whsec".toList
  now := 0

/-- Paid for, past due, and deleted. -/
def paidEvents : List Handling :=
  [sampleEvent "evt_1" .created "active", sampleEvent "evt_2" .updated "past_due",
    sampleEvent "evt_3" .deleted "canceled"]

def canceledEvents : List Handling :=
  [sampleEvent "evt_1" .created "active", sampleEvent "evt_2" .updated "canceled"]

lemma sampleEvent_of {id : String} {type : EventType} {status : String}
    (h : type = .created ∨ type = .updated ∨ type = .deleted) :
    EventOf "sub_a1".toList (sampleEvent id type status).delivery.event := by
  have hid : strOrNone sampleObject.id = some "sub_a1".toList := by decide
  exact ⟨type, _, rfl, rfl, h, hid⟩

lemma no_grant_emptyStore {subId : Text} : ¬ HasGrant subId emptyStore := by
  rintro ⟨g, hg, _⟩
  cases hg

theorem access_follows_paid :
    ∃ history, handleAll plainCasing emptyStore paidEvents = some history ∧
    ∀ e ∈ history, Follows plainCasing "sub_a1".toList e.1.delivery.event e.2 := by
  have hrun : (handleAll plainCasing emptyStore paidEvents).isSome = true := by decide +kernel
  rcases Option.isSome_iff_exists.mp hrun with ⟨history, hhistory⟩
  refine ⟨history, hhistory, ?_⟩
  rw [access_follows_iff no_grant_emptyStore _ hhistory]
  · exact ⟨by decide, by decide, by decide, trivial⟩
  · intro e he
    simp only [paidEvents, mem_cons, not_mem_nil, or_false] at he
    rcases he with rfl | rfl | rfl
    · exact sampleEvent_of (.inl rfl)
    · exact sampleEvent_of (.inr (.inl rfl))
    · exact sampleEvent_of (.inr (.inr rfl))

theorem canceled_keeps_access :
    ¬ ∀ (es : List Handling) (history : List (Handling × Store)),
      (∀ e ∈ es, EventOf "sub_a1".toList e.delivery.event) →
      handleAll plainCasing emptyStore es = some history →
      ∀ e ∈ history, Follows plainCasing "sub_a1".toList e.1.delivery.event e.2 := by
  intro hall
  have hrun : (handleAll plainCasing emptyStore canceledEvents).isSome = true := by decide +kernel
  rcases Option.isSome_iff_exists.mp hrun with ⟨history, hhistory⟩
  have hevents : ∀ e ∈ canceledEvents, EventOf "sub_a1".toList e.delivery.event := by
    intro e he
    simp only [canceledEvents, mem_cons, not_mem_nil, or_false] at he
    rcases he with rfl | rfl
    · exact sampleEvent_of (.inl rfl)
    · exact sampleEvent_of (.inr (.inl rfl))
  have hfollows := hall canceledEvents history hevents hhistory
  -- the grant that the first event put is still there after the second
  have hview : (handleAll plainCasing emptyStore canceledEvents).any (fun history =>
      history.any fun e => e.2.grants.rows.any (Store.tied "sub_a1".toList) &&
        !GrantsAccess e.1.delivery.event) = true := by decide +kernel
  rw [hhistory, Option.any_some, any_eq_true] at hview
  obtain ⟨second, hmem, hview⟩ := hview
  rw [Bool.and_eq_true, any_eq_true, Bool.not_eq_true'] at hview
  have hgrants := (hfollows second hmem).exists_iff.mp hview.1
  rw [hview.2] at hgrants
  cases hgrants

end CivicCast.Paywall.Entitlement
