import CivicCast.Lib.Runs
import CivicCast.Paywall.Store

/-!
# Redeeming a magic link

`verify_magic_link` checks a token, looks for a grant that was made from it before, and then puts
the grant of the token: two calls of the store, with anything of other redemptions and of the
staff in between. The row of the grant is named after the token, and an upsert that meets the row
updates it, so that the unique index is never hit by a second redemption of one token.

A token is redeemed at most once in a run in which nobody else redeems it between the two calls of
a redemption, and in which the grant of a redeemed token is still there when the token is
presented again (`redeemed_at_most_once`). Two redemptions that overlap both return a grant
(`racing_redemptions_both_return`).
-/

namespace CivicCast.Paywall.MagicLink

open Lib List Function

/-- `now.timestamp() > float(exp)`. -/
def isPast (now : ℤ) : Number → Bool
  | .finite micros => micros < now
  | .negInfinity => true
  | .nan | .infinity => false

/-- What the service reads of a payload: `none` where the key is missing or its value is of
another type. -/
structure Claims where
  tokenId : Option Text
  stationId : Option Text
  email : Option Text
  scopeKind : Option ScopeKind
  scopeId : Option Text
  exp : Option Number
  deriving DecidableEq

/-- The token format: JSON in base64url and its HMAC. -/
structure Codec (Token Payload Mac : Type) where
  /-- `_split_token`; `none` where it raises. -/
  splitToken : Token → Option (Payload × Mac)
  /-- `_sign_payload`. -/
  signPayload : Payload → Text → Mac
  claims : Payload → Claims

/-- What `verify_magic_link` raises: the three messages of a `MagicLinkInvalidError`, the
other two magic-link errors, and the `ValidationError` of a grant. -/
inductive VerifyError where
  | malformed
  | notForThisStation
  | badSignature
  | expired
  | alreadyRedeemed
  | validation
  deriving DecidableEq

/-- One call: its arguments, and what the secret getter and the clock say during it. -/
structure Call (Token : Type) where
  token : Token
  expectedStationId : Option Text
  secretGetter : Text → Option Text
  now : ℤ

/-- The claims of a token that passes all checks. -/
structure Verified where
  tokenId : Text
  stationId : Text
  email : Text
  scopeKind : ScopeKind
  scopeId : Text
  deriving DecidableEq

/-! ## The function -/

section Verify

variable {Token Payload Mac : Type} [DecidableEq Mac] (codec : Codec Token Payload Mac)
  (casing : Casing) (grantTtl : ℤ)

def raiseUnless (b : Bool) (e : VerifyError) : Except VerifyError Unit :=
  if b then .ok () else .error e

def orRaise {α : Type} (a : Option α) (e : VerifyError) : Except VerifyError α :=
  a.elim (.error e) .ok

/-- `verify_magic_link` up to its first use of the store. -/
def checkToken (call : Call Token) : Except VerifyError Verified := do
  let (payload, mac) ← orRaise (codec.splitToken call.token) .malformed
  let claims := codec.claims payload
  let stationId ← orRaise claims.stationId .malformed
  raiseUnless (call.expectedStationId.all fun expected => stationId = expected) .notForThisStation
  let secret ← orRaise ((call.secretGetter stationId).filter fun secret => secret ≠ [])
    .notForThisStation
  raiseUnless (mac = codec.signPayload payload secret) .badSignature
  let exp ← orRaise claims.exp .malformed
  raiseUnless (!isPast call.now exp) .expired
  let tokenId ← orRaise claims.tokenId .malformed
  let email ← orRaise claims.email .malformed
  let scopeKind ← orRaise claims.scopeKind .malformed
  let scopeId ← orRaise claims.scopeId .malformed
  return ⟨tokenId, stationId, email, scopeKind, scopeId⟩

def grantIdOf (tokenId : Text) : Text := "mlg-".toList ++ tokenId

def grantOf (now : ℤ) (v : Verified) : AccessGrant where
  grantId := grantIdOf v.tokenId
  stationId := v.stationId
  email := v.email
  scopeKind := v.scopeKind
  scopeId := v.scopeId
  grantedVia := .magicLink
  subscriptionId := none
  magicLinkTokenId := some v.tokenId
  expiresAt := some (now + grantTtl)

def isRedeemed (s : Store) (v : Verified) : Bool :=
  (s.listGrantsForEmail v.stationId v.email).any fun g => g.magicLinkTokenId = some v.tokenId

/-- `verify_magic_link` up to its write: the checks, the look for an earlier redemption, and the
grant to be put. -/
def readSide (call : Call Token) (s : Store) : Except VerifyError AccessGrant := do
  let v ← checkToken codec call
  raiseUnless (!isRedeemed s v) .alreadyRedeemed
  orRaise ((grantOf grantTtl call.now v).make casing) .validation

/-- The rest of `verify_magic_link`: the upsert, whose `IntegrityError` is a redemption as well. -/
def writeSide (grant : AccessGrant) (s : Store) : Except VerifyError (AccessGrant × Store) :=
  match s.upsertGrant grant with
  | some s => .ok (grant, s)
  | none => .error .alreadyRedeemed

end Verify

/-! ## What is minted -/

/-- One `mint_magic_link`: its arguments, the `uuid4` it drew and the end of the token's life. -/
structure Mint where
  stationId : Text
  email : Text
  scopeKind : ScopeKind
  scopeId : Text
  uuid : Text
  exp : ℤ

/-- The payload that it signs. -/
def Mint.claims (casing : Casing) (m : Mint) : Claims where
  tokenId := some m.uuid
  stationId := some m.stationId
  email := some (casing.lower (Text.strip m.email))
  scopeKind := some m.scopeKind
  scopeId := some m.scopeId
  exp := some (.finite m.exp)

/-- The payload of the token makes these claims. -/
def Carries {Token Payload Mac : Type} (codec : Codec Token Payload Mac) (token : Token)
    (claims : Claims) : Prop :=
  ∃ payload mac, codec.splitToken token = some (payload, mac) ∧ codec.claims payload = claims

/-- What was minted: no two mints drew the same `uuid4`, and no other token of a call passes the
checks, the signature among them. -/
structure Mints {Token Payload Mac C : Type} [DecidableEq Mac] (codec : Codec Token Payload Mac)
    (casing : Casing) (calls : C → Call Token) where
  minted : Set Mint
  uuid_unique : ∀ m ∈ minted, ∀ m' ∈ minted, m.uuid = m'.uuid → m = m'
  unforged : ∀ c v, checkToken codec (calls c) = .ok v →
    ∃ m ∈ minted, Carries codec (calls c).token (m.claims casing)

/-! ## Interleavings -/

/-- Where a call is. At work it has a grant to put; `seen` is how many redemptions there were when
it looked for one of its token. -/
inductive Phase where
  | ready
  | atWork (grant : AccessGrant) (seen : ℕ)
  | returned (grant : AccessGrant)
  | raised (e : VerifyError)
  deriving DecidableEq

/-- The calls, the store, and the redemptions so far with their tokens. -/
structure State (C : Type) where
  store : Store
  phase : C → Phase
  redeemed : List (C × Text)

/-- A statement of a call, or a deletion by the staff. -/
inductive Action (C : Type) where
  | read (c : C)
  | write (c : C)
  | delete (grantId : Text)

section Interleave

variable {Token Payload Mac C : Type} [DecidableEq Mac] [DecidableEq C]
  (codec : Codec Token Payload Mac) (casing : Casing) (grantTtl : ℤ) (calls : C → Call Token)

def State.withPhase (s : State C) (c : C) (phase : Phase) : State C :=
  { s with phase := update s.phase c phase }

def State.redeem (s : State C) (c : C) (grant : AccessGrant) (store : Store) : State C :=
  { store := store
    phase := update s.phase c (.returned grant)
    redeemed := s.redeemed ++ grant.magicLinkTokenId.toList.map (c, ·) }

/-- Statements that are not next do nothing. -/
def act (s : State C) : Action C → State C
  | .read c =>
    match s.phase c with
    | .ready =>
      match readSide codec casing grantTtl (calls c) s.store with
      | .ok grant => s.withPhase c (.atWork grant s.redeemed.length)
      | .error e => s.withPhase c (.raised e)
    | _ => s
  | .write c =>
    match s.phase c with
    | .atWork grant _ =>
      match writeSide grant s.store with
      | .ok (grant, store) => s.redeem c grant store
      | .error e => s.withPhase c (.raised e)
    | _ => s
  | .delete grantId => { s with store := (s.store.deleteGrant grantId).getD s.store }

def start (store : Store) : State C := ⟨store, fun _ => .ready, []⟩

/-- The condition of a run. A call that looks for an earlier redemption of its token meets the grant
of it, if there was one; a call that puts its grant was not overtaken by another redemption
of its token since it looked. -/
def Orderly (s : State C) : Action C → Prop
  | .read c =>
    match checkToken codec (calls c) with
    | .ok v =>
      v.tokenId ∈ s.redeemed.map Prod.snd → s.store.grants.get (grantIdOf v.tokenId) ≠ none
    | .error _ => True
  | .write c =>
    match s.phase c with
    | .atWork grant seen => ∀ r ∈ s.redeemed.drop seen, some r.2 ≠ grant.magicLinkTokenId
    | _ => True
  | .delete _ => True

instance (s : State C) (a : Action C) : Decidable (Orderly codec calls s a) := by
  unfold Orderly
  split
  · split <;> infer_instance
  · split <;> infer_instance
  · infer_instance

end Interleave

/-! ## What a call does -/

section Facts

variable {Token Payload Mac C : Type} [DecidableEq Mac] {codec : Codec Token Payload Mac}
  {casing : Casing} {grantTtl : ℤ} {calls : C → Call Token} {v v' : Verified} {e : VerifyError}
  {call : Call Token}

lemma orRaise_eq_ok {α : Type} {a : Option α} {x : α} : orRaise a e = .ok x ↔ a = some x := by
  cases a with
  | none | some y => simp [orRaise]

lemma raiseUnless_eq_ok {b : Bool} {u : Unit} : raiseUnless b e = .ok u ↔ b = true := by
  cases b <;> simp [raiseUnless]

/-- A token that passes the checks says what its payload says. -/
lemma carries_of_checkToken (h : checkToken codec call = .ok v) :
    ∃ claims, Carries codec call.token claims ∧ claims.tokenId = some v.tokenId ∧
      claims.stationId = some v.stationId ∧ claims.email = some v.email := by
  obtain ⟨⟨payload, mac⟩, hsplit, h⟩ := bind_ok h
  obtain ⟨stationId, hstation, h⟩ := bind_ok h
  obtain ⟨_, _, h⟩ := bind_ok h
  obtain ⟨secret, _, h⟩ := bind_ok h
  obtain ⟨_, _, h⟩ := bind_ok h
  obtain ⟨exp, _, h⟩ := bind_ok h
  obtain ⟨_, _, h⟩ := bind_ok h
  obtain ⟨tokenId, htoken, h⟩ := bind_ok h
  obtain ⟨email, hemail, h⟩ := bind_ok h
  obtain ⟨scopeKind, _, h⟩ := bind_ok h
  obtain ⟨scopeId, _, h⟩ := bind_ok h
  cases h
  rw [orRaise_eq_ok] at hsplit hstation htoken hemail
  exact ⟨codec.claims payload, ⟨payload, mac, hsplit, rfl⟩, htoken, hstation, hemail⟩

omit [DecidableEq Mac] in
lemma Carries.unique {token : Token} {claims claims' : Claims} (h : Carries codec token claims)
    (h' : Carries codec token claims') : claims = claims' := by
  rcases h with ⟨payload, mac, hsplit, rfl⟩
  rcases h' with ⟨payload', mac', hsplit', rfl⟩
  rw [hsplit] at hsplit'
  cases hsplit'
  rfl

lemma tokenId_eq {call' : Call Token} (htoken : call.token = call'.token)
    (h : checkToken codec call = .ok v) (h' : checkToken codec call' = .ok v') :
    v.tokenId = v'.tokenId := by
  obtain ⟨claims, hcarries, hid, -⟩ := carries_of_checkToken h
  obtain ⟨claims', hcarries', hid', -⟩ := carries_of_checkToken h'
  rw [← htoken] at hcarries'
  rw [hcarries.unique hcarries', hid'] at hid
  exact (Option.some.inj hid).symm

/-- The grant is the one of the token. -/
structure GrantFor (v : Verified) (g : AccessGrant) : Prop where
  grantId : g.grantId = grantIdOf v.tokenId
  tokenId : g.magicLinkTokenId = some v.tokenId
  stationId : g.stationId = v.stationId
  email : g.email = v.email

lemma grantIdOf_inj {t t' : Text} : grantIdOf t = grantIdOf t' ↔ t = t' :=
  append_right_inj _

lemma GrantFor.isRedeemed {g : AccessGrant} (h : GrantFor v g) {s : Store}
    (hget : s.grants.get (grantIdOf v.tokenId) = some g) : isRedeemed s v = true := by
  rw [MagicLink.isRedeemed, any_eq_true]
  refine ⟨g, ?_, by simp [h.tokenId]⟩
  rw [Store.listGrantsForEmail, mem_filter]
  exact ⟨Table.mem_of_get hget, by simp [h.stationId, h.email]⟩

lemma writeSide_ok {grant grant' : AccessGrant} {s s' : Store}
    (h : writeSide grant s = .ok (grant', s')) :
    grant' = grant ∧ s'.grants = s.grants.put grant := by
  unfold writeSide Store.upsertGrant at h
  split at h
  · rename_i stored hupsert
    cases h
    split at hupsert
    · cases hupsert
      exact ⟨rfl, rfl⟩
    · cases hupsert
  · cases h

variable (mints : Mints codec casing calls)

include mints

/-- One token id, one station and one address, which is in normal form. -/
lemma Mints.verified_eq {c c' : C}
    (h : checkToken codec (calls c) = .ok v) (h' : checkToken codec (calls c') = .ok v')
    (hid : v.tokenId = v'.tokenId) : v.stationId = v'.stationId ∧ v.email = v'.email := by
  obtain ⟨m, hm, hcarries⟩ := mints.unforged c v h
  obtain ⟨m', hm', hcarries'⟩ := mints.unforged c' v' h'
  obtain ⟨claims, hclaims, htoken, hstation, hemail⟩ := carries_of_checkToken h
  obtain ⟨claims', hclaims', htoken', hstation', hemail'⟩ := carries_of_checkToken h'
  obtain rfl := hclaims.unique hcarries
  obtain rfl := hclaims'.unique hcarries'
  have huuid : m.uuid = m'.uuid := by
    rw [Option.some.inj htoken, Option.some.inj htoken', hid]
  have hmm : m = m' := mints.uuid_unique m hm m' hm' huuid
  rw [hmm] at hstation hemail
  exact ⟨Option.some.inj (hstation.symm.trans hstation'),
    Option.some.inj (hemail.symm.trans hemail')⟩

lemma Mints.normal_email {c : C} (h : checkToken codec (calls c) = .ok v) :
    casing.lower (Text.strip v.email) = v.email := by
  obtain ⟨m, _, hcarries⟩ := mints.unforged c v h
  obtain ⟨claims, hclaims, _, _, hemail⟩ := carries_of_checkToken h
  obtain rfl := hclaims.unique hcarries
  rw [← Option.some.inj hemail]
  exact casing.lower_strip m.email

/-- What the read side gives: the grant of a token nobody is found to have redeemed. -/
lemma Mints.readSide_ok {c : C} {s : Store} {grant : AccessGrant}
    (h : readSide codec casing grantTtl (calls c) s = .ok grant) :
    ∃ v, checkToken codec (calls c) = .ok v ∧ isRedeemed s v = false ∧ GrantFor v grant := by
  obtain ⟨v, hv, h⟩ := bind_ok h
  obtain ⟨_, hfree, h⟩ := bind_ok h
  rw [raiseUnless_eq_ok, Bool.not_eq_true'] at hfree
  rw [orRaise_eq_ok] at h
  refine ⟨v, hv, hfree, ?_⟩
  rw [AccessGrant.make_eq h]
  exact ⟨rfl, rfl, rfl, mints.normal_email hv⟩

end Facts

/-! ## The invariant -/

section Invariant

variable {Token Payload Mac C : Type} [DecidableEq Mac] [DecidableEq C]
  {codec : Codec Token Payload Mac} {casing : Casing} {grantTtl : ℤ} {calls : C → Call Token}

variable (codec calls) in
structure Inv (s : State C) : Prop where
  /-- A call at work has the grant of its token, which nobody had redeemed when it looked. -/
  atWork : ∀ c grant seen, s.phase c = .atWork grant seen → seen ≤ s.redeemed.length ∧
    ∃ v, checkToken codec (calls c) = .ok v ∧ GrantFor v grant ∧
      ∀ r ∈ s.redeemed.take seen, r.2 ≠ v.tokenId
  /-- A call that has returned is a redemption of its token. -/
  returned : ∀ c grant, s.phase c = .returned grant →
    ∃ v, checkToken codec (calls c) = .ok v ∧ (c, v.tokenId) ∈ s.redeemed
  once : (s.redeemed.map Prod.snd).Nodup
  /-- The row of a redeemed token, while it is there, is the grant of its redemption. -/
  rows : ∀ r ∈ s.redeemed, ∃ v, checkToken codec (calls r.1) = .ok v ∧ r.2 = v.tokenId ∧
    ∀ g, s.store.grants.get (grantIdOf v.tokenId) = some g → GrantFor v g

omit [DecidableEq C] in
lemma Inv.start (store : Store) : Inv codec calls (start store : State C) where
  atWork := by simp [MagicLink.start]
  returned := by simp [MagicLink.start]
  once := nodup_nil
  rows := by simp [MagicLink.start]

lemma phase_of_withPhase {s : State C} {c c' : C} {x y : Phase}
    (h : (s.withPhase c x).phase c' = y) (hne : x ≠ y) : s.phase c' = y := by
  by_cases hc : c' = c
  · subst hc
    exact absurd ((update_self ..).symm.trans h) hne
  · exact (update_of_ne hc _ _).symm.trans h

lemma Inv.raised {s : State C} (h : Inv codec calls s) (c : C) (e : VerifyError) :
    Inv codec calls (s.withPhase c (.raised e)) where
  __ := h
  atWork := fun c' grant seen hphase => h.atWork c' grant seen (phase_of_withPhase hphase (by simp))
  returned := fun c' grant hphase => h.returned c' grant (phase_of_withPhase hphase (by simp))

omit [DecidableEq C] in
/-- The grant of a redeemed token that is still there turns its token down. -/
lemma Inv.not_redeemed (mints : Mints codec casing calls) {s : State C}
    (h : Inv codec calls s) {c : C} {v : Verified} (hv : checkToken codec (calls c) = .ok v)
    (hfree : isRedeemed s.store v = false)
    (horderly : v.tokenId ∈ s.redeemed.map Prod.snd →
      s.store.grants.get (grantIdOf v.tokenId) ≠ none) :
    ∀ r ∈ s.redeemed, r.2 ≠ v.tokenId := by
  intro r hr hid
  obtain ⟨v', hv', hid', hrow⟩ := h.rows r hr
  have hvv : v.tokenId = v'.tokenId := hid.symm.trans hid'
  obtain ⟨g, hget⟩ := Option.ne_none_iff_exists'.mp (horderly (mem_map.mpr ⟨r, hr, hid⟩))
  have hsame := mints.verified_eq hv hv' hvv
  have hgrant := hrow g (hvv ▸ hget)
  have hours : GrantFor v g :=
    ⟨hvv ▸ hgrant.grantId, hvv ▸ hgrant.tokenId, hgrant.stationId.trans hsame.1.symm,
      hgrant.email.trans hsame.2.symm⟩
  rw [hours.isRedeemed hget] at hfree
  cases hfree

lemma Inv.read (mints : Mints codec casing calls) {s : State C} (h : Inv codec calls s) (c : C)
    (horderly : Orderly codec calls s (.read c)) :
    Inv codec calls (act codec casing grantTtl calls s (.read c)) := by
  simp only [act]
  split
  · split
    · rename_i grant hread
      obtain ⟨v, hv, hfree, hgrant⟩ := mints.readSide_ok hread
      have hnew := h.not_redeemed mints hv hfree (by simpa [Orderly, hv] using horderly)
      refine ⟨?_, ?_, h.once, h.rows⟩
      · intro c' grant' seen hphase
        by_cases hc : c' = c
        · subst hc
          simp only [State.withPhase, update_self, Phase.atWork.injEq] at hphase
          obtain ⟨rfl, rfl⟩ := hphase
          refine ⟨le_refl _, v, hv, hgrant, ?_⟩
          simpa [State.withPhase] using hnew
        · simp only [State.withPhase, update_of_ne hc] at hphase
          exact h.atWork c' grant' seen hphase
      · intro c' grant' hphase
        exact h.returned c' grant' (phase_of_withPhase hphase (by simp))
    · exact h.raised c _
  · exact h

lemma Inv.redeem {s : State C} (h : Inv codec calls s) {c : C} {v : Verified}
    {grant : AccessGrant} {store : Store} (hv : checkToken codec (calls c) = .ok v)
    (hgrant : GrantFor v grant) (hput : store.grants = s.store.grants.put grant)
    (hnew : ∀ r ∈ s.redeemed, r.2 ≠ v.tokenId) : Inv codec calls (s.redeem c grant store) := by
  have hredeemed : (s.redeem c grant store).redeemed = s.redeemed ++ [(c, v.tokenId)] := by
    simp [State.redeem, hgrant.tokenId]
  constructor
  · intro c' grant' seen hphase
    by_cases hc : c' = c
    · subst hc
      simp [State.redeem] at hphase
    · simp only [State.redeem, update_of_ne hc] at hphase
      obtain ⟨hseen, hwork⟩ := h.atWork c' grant' seen hphase
      rw [hredeemed, take_append_of_le_length hseen, length_append]
      exact ⟨by omega, hwork⟩
  · intro c' grant' hphase
    rw [hredeemed]
    by_cases hc : c' = c
    · subst hc
      exact ⟨v, hv, by simp⟩
    · simp only [State.redeem, update_of_ne hc] at hphase
      obtain ⟨v', hv', hmem⟩ := h.returned c' grant' hphase
      exact ⟨v', hv', mem_append_left _ hmem⟩
  · rw [hredeemed, map_append, nodup_append]
    refine ⟨h.once, nodup_singleton _, ?_⟩
    intro t ht t' ht' heq
    obtain ⟨r, hr, rfl⟩ := mem_map.mp ht
    have hlast : t' = v.tokenId := by simpa using ht'
    exact hnew r hr (heq.trans hlast)
  · intro r hr
    rw [hredeemed, mem_append, mem_singleton] at hr
    have hstore : (s.redeem c grant store).store.grants = s.store.grants.put grant := hput
    rw [hstore]
    rcases hr with hr | rfl
    · -- the row of another token
      obtain ⟨v', hv', hid, hrow⟩ := h.rows r hr
      have hne : grantIdOf v'.tokenId ≠ grant.grantId := by
        rw [hgrant.grantId, Ne, grantIdOf_inj, ← hid]
        exact hnew r hr
      refine ⟨v', hv', hid, ?_⟩
      rw [GrantTable.get_put_of_ne hne]
      exact hrow
    · refine ⟨v, hv, rfl, ?_⟩
      intro g hget
      rw [← hgrant.grantId, GrantTable.get_put_self] at hget
      cases hget
      exact hgrant

/-- The upsert: the token was redeemed neither before the call looked nor since. -/
lemma Inv.write {s : State C} (h : Inv codec calls s) (c : C)
    (horderly : Orderly codec calls s (.write c)) :
    Inv codec calls (act codec casing grantTtl calls s (.write c)) := by
  simp only [act]
  split
  · rename_i grant seen hphase
    split
    · rename_i grant' store hwrite
      obtain ⟨rfl, hput⟩ := writeSide_ok hwrite
      obtain ⟨_, v, hv, hgrant, hbefore⟩ := h.atWork c grant' seen hphase
      have hsince : ∀ r ∈ s.redeemed.drop seen, some r.2 ≠ grant'.magicLinkTokenId := by
        simpa only [Orderly, hphase] using horderly
      apply h.redeem hv hgrant hput
      intro r hr
      rw [← take_append_drop seen s.redeemed, mem_append] at hr
      rcases hr with hr | hr
      · exact hbefore r hr
      · intro hid
        exact hsince r hr (by rw [hgrant.tokenId, hid])
    · exact h.raised c _
  · exact h

lemma Inv.delete {s : State C} (h : Inv codec calls s) (grantId : Text) :
    Inv codec calls (act codec casing grantTtl calls s (.delete grantId)) := by
  refine ⟨h.atWork, h.returned, h.once, ?_⟩
  intro r hr
  obtain ⟨v, hv, hid, hrow⟩ := h.rows r hr
  refine ⟨v, hv, hid, ?_⟩
  intro g hget
  apply hrow g
  simp only [act, Store.deleteGrant] at hget
  cases hstored : s.store.grants.get grantId with
  | none => simpa [hstored] using hget
  | some old =>
    simp only [hstored, Option.getD_some, Store.dropGrants, Table.get_filter,
      Option.filter_eq_some_iff] at hget
    exact hget.1

lemma Inv.step (mints : Mints codec casing calls) {s : State C} (h : Inv codec calls s)
    (a : Action C) (horderly : Orderly codec calls s a) :
    Inv codec calls (act codec casing grantTtl calls s a) := by
  cases a with
  | read c => exact h.read mints c horderly
  | write c => exact h.write c horderly
  | delete grantId => exact h.delete grantId

end Invariant

/-! ## Whole runs -/

def Phase.ended : Phase → Bool
  | ready | atWork _ _ => false
  | returned _ | raised _ => true

section Runs

variable {Token Payload Mac C : Type} [DecidableEq Mac] [DecidableEq C]
  {codec : Codec Token Payload Mac} {casing : Casing} {grantTtl : ℤ} {calls : C → Call Token}

/-- At most one call on a token returns a grant: where one has returned, every other one that has
ended has raised. -/
def SingleUse (calls : C → Call Token) (s : State C) : Prop :=
  ∀ c c' grant, (calls c).token = (calls c').token → c ≠ c' → s.phase c = .returned grant →
    (s.phase c').ended = true → ∃ e, s.phase c' = .raised e

omit [DecidableEq C] in
lemma Inv.singleUse {s : State C} (h : Inv codec calls s) : SingleUse calls s := by
  intro c c' grant htoken hne hphase hended
  cases hphase' : s.phase c' with
  | ready | atWork _ _ => rw [hphase'] at hended; cases hended
  | raised e => exact ⟨e, rfl⟩
  | returned grant' =>
    -- two redemptions of one token would be one entry of the list
    exfalso
    obtain ⟨v, hv, hmem⟩ := h.returned c grant hphase
    obtain ⟨v', hv', hmem'⟩ := h.returned c' grant' hphase'
    have hid : v.tokenId = v'.tokenId := tokenId_eq htoken hv hv'
    have hentry := inj_on_of_nodup_map h.once hmem hmem' hid
    exact hne (congrArg Prod.fst hentry)

/-- In an orderly run a magic link is redeemed at most once. -/
theorem redeemed_at_most_once (mints : Mints codec casing calls) (store : Store) {s : State C}
    (h : Runs.Reached (act codec casing grantTtl calls) (Orderly codec calls) (start store) s) :
    SingleUse calls s := by
  have hinv : Inv codec calls s :=
    h.invariant (Inv.start store) fun s a hs ha => hs.step mints a ha
  exact hinv.singleUse

end Runs

/-! ## Runs of two calls -/

/-- Tokens as they are before the encoding; the signature is the secret itself. -/
def plainCodec : Codec (Claims × Text) Claims Text where
  splitToken token := some token
  signPayload _ secret := secret
  claims payload := payload

def sampleMint : Mint where
  stationId := "brookfield".toList
  email := "viewer@example.org".toList
  scopeKind := .series
  scopeId := "council".toList
  uuid := "5f0c".toList
  exp := 900

def sampleCall : Call (Claims × Text) where
  token := (sampleMint.claims plainCasing, "secret".toList)
  expectedStationId := some "brookfield".toList
  secretGetter _ := some "secret".toList
  now := 60

/-- Nobody has presented another token. -/
def sampleMints : Mints plainCodec plainCasing (fun _ : Bool => sampleCall) where
  minted := {sampleMint}
  uuid_unique := by
    intro m hm m' hm' _
    rw [hm, hm']
  unforged := by
    intro c v _
    exact ⟨sampleMint, rfl, _, _, rfl, rfl⟩

abbrev sampleAct : State Bool → Action Bool → State Bool :=
  act plainCodec plainCasing 2592000 fun _ => sampleCall

def sampleGrant : AccessGrant where
  grantId := "mlg-5f0c".toList
  stationId := "brookfield".toList
  email := "viewer@example.org".toList
  scopeKind := .series
  scopeId := "council".toList
  grantedVia := .magicLink
  subscriptionId := none
  magicLinkTokenId := some "5f0c".toList
  expiresAt := some 2592060

/-- The link is used twice, one call after the other. -/
def sampleRun : List (Action Bool) := [.read true, .write true, .read false, .write false]

theorem second_redemption_raises :
    SingleUse (fun _ : Bool => sampleCall) (sampleRun.foldl sampleAct (start emptyStore)) ∧
      (sampleRun.foldl sampleAct (start emptyStore)).phase true = .returned sampleGrant ∧
      (sampleRun.foldl sampleAct (start emptyStore)).phase false = .raised .alreadyRedeemed :=
  ⟨redeemed_at_most_once sampleMints emptyStore (Runs.reached_of_meets (by decide)), by decide,
    by decide⟩

/-- Two calls that both look before either of them puts its grant. -/
def racingRun : List (Action Bool) := [.read true, .read false, .write true, .write false]

theorem racing_redemptions_both_return :
    ¬ ∀ s, Runs.Reached sampleAct (fun _ _ => True) (start emptyStore) s →
        SingleUse (fun _ => sampleCall) s := by
  intro hsingle
  have hreached : Runs.Reached sampleAct (fun _ _ => True) (start emptyStore)
      (racingRun.foldl sampleAct (start emptyStore)) :=
    Runs.reached_of_meets (by decide)
  obtain ⟨e, he⟩ := hsingle _ hreached true false sampleGrant rfl (by decide) (by decide)
    (by decide)
  have hreturned : (racingRun.foldl sampleAct (start emptyStore)).phase false =
      .returned sampleGrant := by decide
  rw [hreturned] at he
  cases he

end CivicCast.Paywall.MagicLink
