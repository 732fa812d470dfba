import CivicCast.Station.State

/-!
# Staff bearer tokens

A bearer token is looked for in three places: the token store, the sessions of the
station-state file, and the environment. `auth/tokens.py` asks them twice. `verify_bearer_token`
is the authoritative answer; `token_matches_exactly` is the cheap one, asked first when a peer
has spent its guesses. `matches_of_verified` is what makes the cheap one safe to ask: whatever
the verifier accepts, it recognises.

Hashes are taken as what they are hashes of. `hmac.compare_digest` raises `TypeError` on texts
that are not ASCII; digests are ASCII, tokens need not be.
-/

namespace CivicCast.Auth

open Lib Option
open Station (Time Digest RawState)

/-- The errors of `CIVICCAST_STAFF_TOKENS`, with the values their texts quote. -/
inductive ConfigError where
  | notConfigured
  | malformed
  | noRoles (operatorId : Text)
  | unknownScopes (operatorId : Text) (scopes : List Text)
  | unversioned
  deriving DecidableEq

inductive StaffAuthError where
  | missingCredential
  | malformedHeader
  | revoked
  | upgradeRequired (tokenId : Text)
  | invalid
  | config (error : ConfigError)
  deriving DecidableEq

/-- What the verifiers raise. Only a `StaffAuthError` is caught by their callers. -/
inductive Raised where
  | staffAuth (error : StaffAuthError)
  | typeError
  deriving DecidableEq

/-- The identity a token stands for: a station session's, or one with scopes by name. -/
inductive OperatorIdentity where
  | session (identity : Station.OperatorIdentity)
  | named (operatorId displayName tokenId : Text) (scopes : List Text)
  deriving DecidableEq

def compareDigest (a b : Text) : Except Raised Bool :=
  if Text.isAscii a && Text.isAscii b then .ok (a = b) else .error .typeError

/-! ## Tokens of the environment -/

/-- The environment variables that are read. -/
structure Environment where
  staffTokens : Text
  allowDeterministic : Bool
  fallbackWithDb : Bool
  deriving DecidableEq

def configuredTokenPrefix : Text := ['c', 'c', 'e', 'n', 'v', '1', '_']

def isTokenChar (c : Char) : Bool := c.isAlphanum || c = '_' || c = '-'

def isConfiguredStaffToken (token : Text) : Bool :=
  let material := token.drop configuredTokenPrefix.length
  configuredTokenPrefix.isPrefixOf token && material.length = 43 && material.all isTokenChar &&
    8 ≤ material.dedup.length

/-- The keys of `_ROLE_ALIASES`. -/
def roleAliases : List Text :=
  ["admin", "operator", "setup", "setup-admin", "setup_admin", "meeting", "meeting-operator",
    "meeting_operator", "records", "records-clerk", "records_clerk", "publish",
    "publish-operator", "publish_operator", "support", "support-admin",
    "support_admin"].map String.toList

def unknownRoleScopes (scopes : List Text) : List Text :=
  scopes.filter fun scope =>
    let key := Text.lower (Text.strip scope)
    key ≠ [] && key ∉ roleAliases

/-- `identities[token] = identity`: a token given twice keeps its place. -/
def setItem (identities : List (Text × OperatorIdentity)) (token : Text)
    (identity : OperatorIdentity) : List (Text × OperatorIdentity) :=
  if token ∈ identities.map Prod.fst then
    identities.map fun entry => if entry.1 = token then (token, identity) else entry
  else identities ++ [(token, identity)]

def deterministicToken : Text := "operator-token-a".toList

section Environment

-- the first sixteen hex digits of the token's SHA-256
variable (shortSha256 : Text → Text)

/-- One entry `token:operator_id:display_name:role[,role]`. -/
def configuredEntry (env : Environment) (item : Text) :
    Except ConfigError (Text × OperatorIdentity) :=
  let (token, sep, rest) := Text.partition ':' item
  let (operatorId, sep2, displayAndScopes) := Text.partition ':' rest
  let (displayName, _, scopesText) := Text.partition ':' displayAndScopes
  if token = [] || !sep || operatorId = [] || !sep2 || displayName = [] then .error .malformed
  else
    let scopes := ((Text.fields scopesText).map Text.strip).filter fun scope => scope ≠ []
    if scopes = [] then .error (.noRoles operatorId)
    else if unknownRoleScopes scopes ≠ [] then
      .error (.unknownScopes operatorId (unknownRoleScopes scopes))
    else if !isConfiguredStaffToken token && !env.allowDeterministic then .error .unversioned
    else
      .ok (token, .named operatorId displayName (['e', 'n', 'v', '-'] ++ shortSha256 token) scopes)

def configuredTokens (env : Environment) : Except ConfigError (List (Text × OperatorIdentity)) :=
  let configured := Text.strip env.staffTokens
  if configured = [] then
    if env.allowDeterministic then
      .ok [(deterministicToken, .named deterministicToken "Token Identity A".toList
        "default-local-operator".toList ["operator".toList])]
    else .error .notConfigured
  else
    (configured.splitOn ';').foldlM (fun identities item => do
      let (token, identity) ← configuredEntry shortSha256 env item
      return setItem identities token identity) []

/-- `validate_staff_token_config`, at startup: no tokens at all are as good as tokens that parse. -/
def validateStaffTokenConfig (env : Environment) : Except ConfigError Unit :=
  if Text.strip env.staffTokens = [] then .ok ()
  else (configuredTokens shortSha256 env).map fun _ => ()

/-- The tokens are compared in their order; the first that is equal decides. -/
def firstMatch (token : Text) :
    List (Text × OperatorIdentity) → Except Raised (Option OperatorIdentity)
  | [] => .ok none
  | (candidate, identity) :: rest => do
    if ← compareDigest candidate token then return some identity
    else firstMatch token rest

def verifyConfiguredToken (env : Environment) (token : Text) :
    Except Raised (Option OperatorIdentity) :=
  match configuredTokens shortSha256 env with
  | .error error => .error (.staffAuth (.config error))
  | .ok tokens => firstMatch token tokens

def configuredTokenMatchesWithoutError (env : Environment) (token : Text) : Except Raised Bool :=
  match verifyConfiguredToken shortSha256 env token with
  | .ok identity => .ok identity.isSome
  | .error (.staffAuth _) => .ok false
  | .error .typeError => .error .typeError

end Environment

/-! ## Tokens of the store -/

/-- A row of `staff_tokens`. `token_hash` holds the derived hash and, since tokens are admitted
exactly, a fingerprint; both are made from one secret. -/
structure StoredStaffToken where
  tokenId : Text
  operatorId : Text
  displayName : Text
  scopes : List Text
  revoked : Bool
  hash : Digest
  fingerprint : Option Text
  fingerprint_eq : ∀ secret, fingerprint = some secret → secret = hash.secret

/-- The rows of `staff_tokens`. -/
abbrev TokenStore : Type := List StoredStaffToken

def tokenPrefix : Text := ['c', 'c', 's', 't', '_']

def extractTokenId (secret : Text) : Option Text :=
  if tokenPrefix.isPrefixOf secret then
    let (tokenId, sep, _) := Text.partition '_' (secret.drop tokenPrefix.length)
    if !sep || tokenId = [] then none else some tokenId
  else none

def loadToken (store : TokenStore) (tokenId : Text) : Option StoredStaffToken :=
  store.find? fun stored => stored.tokenId = tokenId

inductive StoreRefusal where
  | invalid
  | revoked
  | upgradeRequired (tokenId : Text)
  deriving DecidableEq

def verifyStoredToken (secret : Text) (stored : StoredStaffToken) :
    Except StoreRefusal OperatorIdentity :=
  if stored.revoked then .error .revoked
  else if stored.fingerprint = none then .error (.upgradeRequired stored.tokenId)
  else if stored.hash.matches secret then
    .ok (.named stored.operatorId stored.displayName stored.tokenId stored.scopes)
  else .error .invalid

/-- `verify_token`. What it writes of an accepted token, when it was last used, is read by no
verifier; the hash it writes is the one it read. -/
def verifyToken (store : TokenStore) (secret : Text) : Except StoreRefusal OperatorIdentity :=
  match (extractTokenId secret).bind (loadToken store) with
  | none => .error .invalid
  | some stored => verifyStoredToken secret stored

def matchesTokenFingerprint (store : TokenStore) (secret : Text) : Bool :=
  match (extractTokenId secret).bind (loadToken store) with
  | none => false
  | some stored =>
    if stored.revoked then false
    else
      match stored.fingerprint with
      | none => false
      | some fingerprint => fingerprint = secret

/-! ## The two verifiers -/

def bearer : Text := ['b', 'e', 'a', 'r', 'e', 'r']

/-- `_bearer_token`; a header that is missing is the empty text. -/
def bearerToken (authorization : Text) : Except StaffAuthError Text :=
  if authorization = [] then .error .missingCredential
  else
    let (scheme, sep, token) := Text.partition ' ' authorization
    if !sep || Text.lower scheme ≠ bearer || Text.strip token = [] then .error .malformedHeader
    else .ok (Text.strip token)

/-- `verify_station_operator_token` from a load to a save: the answer and the file it leaves. -/
def verifyStation (now : Time) (drawn token : Text) (raw : RawState) :
    Option Station.OperatorIdentity × RawState :=
  let reply := Station.verifyStationOperatorToken now drawn token raw
  match reply.result with
  | .ok identity => (identity, reply.saved.getD raw)
  | .error _ => (none, reply.saved.getD raw)

section Verifiers

variable (shortSha256 : Text → Text) (env : Environment) (store : Option TokenStore) (now : Time)
  (drawn : Text) (raw : RawState)

/-- The tokens of the environment, as the last place to look. -/
def verifyEnvironment (token : Text) : Except Raised OperatorIdentity := do
  match ← verifyConfiguredToken shortSha256 env token with
  | some identity => return identity
  | none => throw (.staffAuth .invalid)

def verifyBearerToken (authorization : Text) : Except Raised OperatorIdentity :=
  match bearerToken authorization with
  | .error error => .error (.staffAuth error)
  | .ok token =>
    match store with
    | some store =>
      match verifyToken store token with
      | .ok identity => .ok identity
      | .error .revoked => .error (.staffAuth .revoked)
      | .error (.upgradeRequired tokenId) => .error (.staffAuth (.upgradeRequired tokenId))
      | .error .invalid =>
        match (verifyStation now drawn token raw).1 with
        | some identity => .ok (.session identity)
        | none =>
          if env.fallbackWithDb then verifyEnvironment shortSha256 env token
          else .error (.staffAuth .invalid)
    | none =>
      match (verifyStation now drawn token raw).1 with
      | some identity => .ok (.session identity)
      | none => verifyEnvironment shortSha256 env token

/-- The answer, and the station-state file it leaves. -/
def tokenMatchesExactly (authorization : Text) : Except Raised Bool × RawState :=
  match bearerToken authorization with
  | .error _ => (.ok false, raw)
  | .ok token =>
    match store with
    | some store =>
      if matchesTokenFingerprint store token then (.ok true, raw)
      else
        let (identity, raw) := verifyStation now drawn token raw
        if identity.isSome then (.ok true, raw)
        else if env.fallbackWithDb then
          (configuredTokenMatchesWithoutError shortSha256 env token, raw)
        else (.ok false, raw)
    | none =>
      let (identity, raw) := verifyStation now drawn token raw
      if identity.isSome then (.ok true, raw)
      else (configuredTokenMatchesWithoutError shortSha256 env token, raw)

end Verifiers

/-! ## Where a comparison raises -/

/-- Before a token of the environment is found equal, one is compared that cannot be. -/
def Incomparable (token : Text) (tokens : List (Text × OperatorIdentity)) : Prop :=
  ∃ before entry after, tokens = before ++ entry :: after ∧
    (∀ earlier ∈ before, earlier.1 ≠ token) ∧
    (Text.isAscii entry.1 && Text.isAscii token) = false

variable {token drawn : Text} {raw : RawState} {rest : List (Text × OperatorIdentity)}

lemma incomparable_cons {entry : Text × OperatorIdentity} :
    Incomparable token (entry :: rest) ↔
      (Text.isAscii entry.1 && Text.isAscii token) = false ∨
        entry.1 ≠ token ∧ Incomparable token rest := by
  constructor
  · rintro ⟨before, other, after, hsplit, hbefore, hother⟩
    cases before with
    | nil =>
      obtain ⟨rfl, rfl⟩ := List.cons_eq_cons.mp hsplit
      exact .inl hother
    | cons first before =>
      obtain ⟨rfl, rfl⟩ := List.cons_eq_cons.mp hsplit
      obtain ⟨hne, hbefore⟩ := List.forall_mem_cons.mp hbefore
      exact .inr ⟨hne, before, other, after, rfl, hbefore, hother⟩
  · rintro (hentry | ⟨hne, before, other, after, rfl, hbefore, hother⟩)
    · exact ⟨[], entry, rest, rfl, by simp, hentry⟩
    · exact ⟨entry :: before, other, after, rfl, List.forall_mem_cons.mpr ⟨hne, hbefore⟩, hother⟩

lemma firstMatch_cons {candidate : Text} {identity : OperatorIdentity} :
    firstMatch token ((candidate, identity) :: rest) =
      if Text.isAscii candidate && Text.isAscii token then
        if candidate = token then .ok (some identity) else firstMatch token rest
      else .error .typeError := by
  rw [firstMatch, compareDigest]
  split
  · by_cases heq : candidate = token
    · simp only [heq, decide_true, if_true]
      rfl
    · simp only [heq, decide_false, if_false]
      rfl
  · rfl

lemma firstMatch_error_iff {tokens : List (Text × OperatorIdentity)} {raised : Raised} :
    firstMatch token tokens = .error raised ↔
      raised = .typeError ∧ Incomparable token tokens := by
  induction tokens with
  | nil =>
    constructor
    · intro h
      cases h
    · rintro ⟨-, before, entry, after, hsplit, -⟩
      simp at hsplit
  | cons entry rest ih =>
    obtain ⟨candidate, identity⟩ := entry
    rw [firstMatch_cons, incomparable_cons]
    by_cases hascii : (Text.isAscii candidate && Text.isAscii token) = true
    · rw [if_pos hascii]
      by_cases heq : candidate = token
      · simp [heq] at hascii ⊢
        simp [hascii]
      · rw [if_neg heq, ih]
        simp [hascii, heq]
    · rw [if_neg hascii]
      simp [hascii, eq_comm]

section Environment

variable {shortSha256 : Text → Text} {env : Environment} {token : Text}

/-- The environment holds tokens, and comparing them with this one raises. -/
def Environment.Raises (shortSha256 : Text → Text) (env : Environment) (token : Text) : Prop :=
  ∃ tokens, configuredTokens shortSha256 env = .ok tokens ∧ Incomparable token tokens

lemma verifyConfiguredToken_typeError_iff :
    verifyConfiguredToken shortSha256 env token = .error .typeError ↔
      env.Raises shortSha256 token := by
  unfold verifyConfiguredToken Environment.Raises
  cases configuredTokens shortSha256 env with
  | error error => simp
  | ok tokens => simp [firstMatch_error_iff]

lemma verifyEnvironment_typeError_iff :
    verifyEnvironment shortSha256 env token = .error .typeError ↔
      env.Raises shortSha256 token := by
  rw [← verifyConfiguredToken_typeError_iff, verifyEnvironment]
  cases verifyConfiguredToken shortSha256 env token with
  | error raised => exact ⟨fun h => by cases h; rfl, fun h => by cases h; rfl⟩
  | ok identity =>
    cases identity with
    | none | some identity => exact ⟨nofun, nofun⟩

lemma configuredTokenMatches_error_iff {raised : Raised} :
    configuredTokenMatchesWithoutError shortSha256 env token = .error raised ↔
      raised = .typeError ∧ env.Raises shortSha256 token := by
  rw [← verifyConfiguredToken_typeError_iff, configuredTokenMatchesWithoutError]
  rcases verifyConfiguredToken shortSha256 env token with (error | -) | identity
  · simp
  · simp [eq_comm]
  · simp

lemma configuredTokenMatches_of_verified {identity : OperatorIdentity}
    (h : verifyEnvironment shortSha256 env token = .ok identity) :
    configuredTokenMatchesWithoutError shortSha256 env token = .ok true := by
  unfold verifyEnvironment at h
  unfold configuredTokenMatchesWithoutError
  cases hverify : verifyConfiguredToken shortSha256 env token with
  | error raised =>
    rw [hverify] at h
    cases h
  | ok found =>
    cases found with
    | none =>
      rw [hverify] at h
      cases h
    | some found => rfl

end Environment

/-! ## The store and the station agree with themselves -/

lemma matchesTokenFingerprint_iff {store : TokenStore} {secret : Text} :
    matchesTokenFingerprint store secret = true ↔
      ∃ identity, verifyToken store secret = .ok identity := by
  unfold matchesTokenFingerprint verifyToken
  cases (extractTokenId secret).bind (loadToken store) with
  | none => simp
  | some stored =>
    simp only [verifyStoredToken]
    cases stored.revoked with
    | true => simp
    | false =>
      cases hfingerprint : stored.fingerprint with
      | none => simp
      | some fingerprint =>
        -- the fingerprint and the hash are of one secret
        have hsame := stored.fingerprint_eq fingerprint hfingerprint
        by_cases hsecret : stored.hash.secret = secret
        · simp [hsame, hsecret]
        · simp [hsame, hsecret]

/-- A session of the token lets in: it is not over, and its account may. -/
def admitsSession (now : Time) (raw : RawState) (entry : Station.SessionEntry) : Bool :=
  now < entry.expiresAt.getD (entry.issuedAt.getD now + Station.operatorSessionTtl) &&
    (Station.identityOf raw entry).isSome

lemma identityOf_isSome_congr {raw' : RawState} {entry entry' : Station.SessionEntry}
    (hadmin : raw'.admin = raw.admin) (hstaff : raw'.staffAccounts = raw.staffAccounts)
    (haccount :
      entry'.accountId.getD Station.firstAdmin = entry.accountId.getD Station.firstAdmin) :
    (Station.identityOf raw' entry').isSome = (Station.identityOf raw entry).isSome := by
  simp only [Station.identityOf, Station.findStaffAccount, hadmin, hstaff, haccount]
  split
  · simp
  · split
    · rfl
    · split
      · rfl
      · rfl

lemma verifyStation_isSome {now : Time} :
    (verifyStation now drawn token raw).1.isSome =
      (raw.entries.find? fun entry => entry.token.matches token).any (admitsSession now raw) := by
  unfold verifyStation Station.verifyStationOperatorToken
  cases hconsole : raw.console with
  | none => simp [RawState.entries, hconsole]
  | some console =>
    cases raw.entries.find? fun entry => entry.token.matches token with
    | none => rfl
    | some entry =>
      have hidentity : (Station.identityOf raw
          (Station.ensureSessionMetadata now drawn entry)).isSome =
            (Station.identityOf raw entry).isSome :=
        identityOf_isSome_congr rfl rfl rfl
      have hexpired : Station.sessionIsExpired now
          (Station.ensureSessionMetadata now drawn entry) =
            decide (entry.expiresAt.getD
              (entry.issuedAt.getD now + Station.operatorSessionTtl) ≤ now) := rfl
      simp only [hexpired, any_some, admitsSession, ← hidentity]
      by_cases hover : entry.expiresAt.getD
          (entry.issuedAt.getD now + Station.operatorSessionTtl) ≤ now
      · simp [hover]
      · simp [hover, not_le.mp hover]

lemma find?_replaceF_self {α : Type} {p : α → Bool} {b : α} (hb : p b = true) (l : List α) :
    (l.replaceF fun a => if p a then some b else none).find? p = (l.find? p).map fun _ => b := by
  induction l with
  | nil => rfl
  | cons a l ih =>
    rw [List.replaceF_cons]
    by_cases ha : p a = true
    · simp [ha, hb]
    · simp only [ha, Bool.false_eq_true, if_false, List.find?_cons]
      exact ih

/-- The metadata that verifying a session saves does not change the answer. -/
lemma verifyStation_again {now : Time} {drawn' : Text} :
    (verifyStation now drawn' token (verifyStation now drawn token raw).2).1.isSome =
      (verifyStation now drawn' token raw).1.isSome := by
  rw [verifyStation_isSome, verifyStation_isSome]
  unfold verifyStation Station.verifyStationOperatorToken
  cases hconsole : raw.console with
  | none => simp [RawState.entries, hconsole]
  | some console =>
    cases hfind : raw.entries.find? fun entry => entry.token.matches token with
    | none => simp [hfind]
    | some entry =>
      dsimp only
      split
      · simp [hfind]
      · -- the session found again is the one with its metadata
        set ensured := Station.ensureSessionMetadata now drawn entry with hensured
        have hmatches : entry.token.matches token = true := by simpa using List.find?_some hfind
        have hagain := find?_replaceF_self (b := ensured)
          (p := fun entry => entry.token.matches token) hmatches raw.entries
        rw [hfind] at hagain
        simp only [getD_some, RawState.entries, elim_some, Station.operatorTokenEntries] at hagain ⊢
        rw [hagain]
        simp only [map_some, any_some, admitsSession]
        have haccount : ensured.accountId.getD Station.firstAdmin =
            entry.accountId.getD Station.firstAdmin := rfl
        rw [identityOf_isSome_congr rfl rfl haccount]
        rfl

/-! ## The two verifiers agree -/

section Agreement

variable {shortSha256 : Text → Text} {env : Environment} {store : Option TokenStore} {now : Time}
  {drawn drawn' authorization : Text} {raw raw' : RawState}

/-- What a session is answered does not depend on what is drawn for it. -/
lemma verifyStation_none_iff {token : Text} :
    (verifyStation now drawn token raw).1 = none ↔
      (verifyStation now drawn' token raw).1 = none := by
  rw [← not_isSome_iff_eq_none, ← not_isSome_iff_eq_none, verifyStation_isSome,
    verifyStation_isSome]

lemma verifyBearerToken_typeError_iff :
    verifyBearerToken shortSha256 env store now drawn raw authorization = .error .typeError ↔
      ∃ token, bearerToken authorization = .ok token ∧
        (verifyStation now drawn token raw).1 = none ∧ env.Raises shortSha256 token ∧
        ∀ rows, store = some rows →
          env.fallbackWithDb = true ∧ verifyToken rows token = .error .invalid := by
  unfold verifyBearerToken
  cases bearerToken authorization with
  | error error => simp
  | ok token =>
    simp only [Except.ok.injEq, exists_eq_left']
    cases store with
    | none =>
      cases (verifyStation now drawn token raw).1 with
      | some identity => simp
      | none => simp [verifyEnvironment_typeError_iff]
    | some rows =>
      simp only [some.injEq, forall_eq']
      rcases hstore : verifyToken rows token with (- | - | tokenId) | identity
      · -- the store does not know the token: sessions, then the fallback
        cases (verifyStation now drawn token raw).1 with
        | some identity => simp
        | none =>
          cases env.fallbackWithDb with
          | false => simp
          | true => simp [verifyEnvironment_typeError_iff]
      · simp
      · simp
      · simp

lemma tokenMatchesExactly_error_iff {raised : Raised} :
    (tokenMatchesExactly shortSha256 env store now drawn raw authorization).1 = .error raised ↔
      raised = .typeError ∧ ∃ token, bearerToken authorization = .ok token ∧
        (verifyStation now drawn token raw).1 = none ∧ env.Raises shortSha256 token ∧
        ∀ rows, store = some rows →
          env.fallbackWithDb = true ∧ matchesTokenFingerprint rows token = false := by
  unfold tokenMatchesExactly
  cases bearerToken authorization with
  | error error => simp
  | ok token =>
    simp only [Except.ok.injEq, exists_eq_left']
    cases store with
    | none =>
      cases (verifyStation now drawn token raw).1 with
      | some identity => simp
      | none => simp [configuredTokenMatches_error_iff]
    | some rows =>
      simp only [some.injEq, forall_eq']
      cases matchesTokenFingerprint rows token with
      | true => simp
      | false =>
        cases (verifyStation now drawn token raw).1 with
        | some identity => simp
        | none =>
          cases env.fallbackWithDb with
          | false => simp
          | true => simp [configuredTokenMatches_error_iff]

lemma matches_of_verified {identity : OperatorIdentity}
    (h : verifyBearerToken shortSha256 env store now drawn' raw authorization = .ok identity) :
    (tokenMatchesExactly shortSha256 env store now drawn raw authorization).1 = .ok true := by
  unfold verifyBearerToken at h
  unfold tokenMatchesExactly
  cases htoken : bearerToken authorization with
  | error error =>
    rw [htoken] at h
    cases h
  | ok token =>
    simp only [htoken] at h ⊢
    have hdraw : (verifyStation now drawn token raw).1.isSome =
        (verifyStation now drawn' token raw).1.isSome := by
      rw [verifyStation_isSome, verifyStation_isSome]
    cases store with
    | none =>
      cases hstation : (verifyStation now drawn' token raw).1 with
      | some found => simp [hdraw, hstation]
      | none =>
        simp only [hstation] at h
        simp [hdraw, hstation, configuredTokenMatches_of_verified h]
    | some rows =>
      dsimp only at h ⊢
      rcases hstore : verifyToken rows token with (- | - | tokenId) | found
      · -- not in the store: a session, or the environment as fallback
        rw [hstore] at h
        split
        · rfl
        · cases hstation : (verifyStation now drawn' token raw).1 with
          | some found => simp [hdraw, hstation]
          | none =>
            simp only [hstation] at h
            cases hfallback : env.fallbackWithDb with
            | false => simp [hfallback] at h
            | true =>
              simp only [hfallback, if_true] at h
              simp [hdraw, hstation, configuredTokenMatches_of_verified h]
      · rw [hstore] at h
        cases h
      · rw [hstore] at h
        cases h
      · -- the store knows it, and so does its fingerprint
        rw [if_pos (matchesTokenFingerprint_iff.mpr ⟨found, hstore⟩)]

/-- The verifier's answer, up to the identity it gives, depends on the station-state file only
through whether a session lets the token in. -/
lemma verifyBearerToken_congr
    (h : ∀ token, bearerToken authorization = .ok token →
      (verifyStation now drawn token raw').1.isSome =
        (verifyStation now drawn token raw).1.isSome) :
    (verifyBearerToken shortSha256 env store now drawn raw' authorization).map (fun _ => ()) =
      (verifyBearerToken shortSha256 env store now drawn raw authorization).map fun _ => () := by
  unfold verifyBearerToken
  cases htoken : bearerToken authorization with
  | error error => rfl
  | ok token =>
    have hsome := h token htoken
    revert hsome
    dsimp only
    cases (verifyStation now drawn token raw').1 with
    | none =>
      cases (verifyStation now drawn token raw).1 with
      | none => exact fun _ => rfl
      | some identity => exact nofun
    | some identity' =>
      cases (verifyStation now drawn token raw).1 with
      | none => exact nofun
      | some identity =>
        intro _
        -- a session decides only after the store was asked
        cases store with
        | none => rfl
        | some rows =>
          dsimp only
          rcases verifyToken rows token with (- | - | tokenId) | found
          · rfl
          · rfl
          · rfl
          · rfl

/-- The file the matcher leaves gives the verifier's answer. -/
lemma verifyBearerToken_after_match :
    (verifyBearerToken shortSha256 env store now drawn'
        (tokenMatchesExactly shortSha256 env store now drawn raw authorization).2
        authorization).map (fun _ => ()) =
      (verifyBearerToken shortSha256 env store now drawn' raw authorization).map fun _ => () := by
  apply verifyBearerToken_congr
  intro token htoken
  simp only [tokenMatchesExactly, htoken]
  cases store with
  | none =>
    dsimp only
    split
    · exact verifyStation_again
    · exact verifyStation_again
  | some rows =>
    dsimp only
    split
    · rfl
    · split
      · exact verifyStation_again
      · split
        · exact verifyStation_again
        · exact verifyStation_again

end Agreement

end CivicCast.Auth
