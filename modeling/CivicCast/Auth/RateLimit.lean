import CivicCast.Auth.Tokens
import CivicCast.Lib.Window

/-!
# The guessing budget of the staff API

`authenticate_staff_request` over whole histories of requests, one at a time. A peer has a
budget of failed tokens in a sliding window. While it is not spent the verifier is asked; once
it is spent the matcher is asked first, and what it does not recognise is turned away unasked.

`sound_iff` says when a history is as it should be: accepted tokens are let in, the others are
answered 401 or 429, and no window of a peer holds more answers 401 than the limit. That is so
exactly when no request gets as far as a comparison with the tokens of the environment that
raises; a token that is not ASCII does, wherever there are such tokens to compare it with.
-/

namespace CivicCast.Auth

open Lib List Function
open Station (Time RawState)

/-- `auth_rate_limit_config` and the environment of the process, as accepted at startup. -/
structure Settings where
  limit : ℕ
  windowSeconds : ℕ
  limit_pos : 0 < limit
  windowSeconds_pos : 0 < windowSeconds
  env : Environment

namespace Settings

variable (cfg : Settings)

def window : Time := cfg.windowSeconds * 1000000

end Settings

/-! ## The limiter -/

/-- `AuthRateLimiter._hits`. -/
abbrev AuthRateLimiter : Type := Text → Option (List Time)

namespace AuthRateLimiter

variable (cfg : Settings) (now : Time) (key : Text) (limiter : AuthRateLimiter)

def empty : AuthRateLimiter := fun _ => none

/-- The hits under a key; there are none under a key that is not there. -/
def hits : List Time := (limiter key).getD []

def allow : Bool × AuthRateLimiter :=
  let hits := prune (now - cfg.window) (limiter.hits key)
  if cfg.limit ≤ hits.length then
    (false, update limiter key (if hits = [] then none else some hits))
  else (true, update limiter key (some (hits ++ [now])))

def saturated : Bool × AuthRateLimiter :=
  match limiter key with
  | none => (false, limiter)
  | some hits =>
    let hits := prune (now - cfg.window) hits
    if hits = [] then (false, update limiter key none)
    else (cfg.limit ≤ hits.length, update limiter key (some hits))

/-- Whole seconds until the oldest hit of the window is out of it, at least one. -/
def retryAfterSeconds : ℤ :=
  match limiter.hits key with
  | [] => cfg.windowSeconds
  | oldest :: _ => max 1 ((cfg.window - (now - oldest)).tdiv 1000000 + 1)

end AuthRateLimiter

/-! ## One request -/

/-- A request, with what it finds: the token store, the station-state file, the readings of the
clock it takes and what is drawn for a session without an id. -/
structure Request where
  client : Option Text
  authorization : Text
  tokenStore : Option TokenStore
  station : RawState
  drawnFirst : Text
  drawnNext : Text
  saturatedAt : Time
  moment : Time
  allowedAt : Time
  retryAt : Time

inductive Answer where
  | admitted (identity : OperatorIdentity)
  | unauthorized (error : StaffAuthError)
  | rateLimited (retryAfter : ℤ)
  | raised (raised : Raised)
  deriving DecidableEq

def clientIp (client : Option Text) : Text := client.getD "unknown".toList

def failureKey (peer : Text) : Text := "staff-auth-fail:".toList ++ peer

namespace Request

variable (shortSha256 : Text → Text) (cfg : Settings) (request : Request)

def peer : Text := clientIp request.client

def readings : List Time :=
  [request.saturatedAt, request.moment, request.allowedAt, request.retryAt]

/-- The verifier's answer on this state-file. -/
def verified (raw : RawState) : Except Raised OperatorIdentity :=
  verifyBearerToken shortSha256 cfg.env request.tokenStore request.moment request.drawnNext raw
    request.authorization

/-- `verify_bearer_token` accepts the header at that moment. -/
def Accepted : Prop := ∃ identity, request.verified shortSha256 cfg request.station = .ok identity

/-- The matcher's answer, and the file it leaves. -/
def matched : Except Raised Bool × RawState :=
  tokenMatchesExactly shortSha256 cfg.env request.tokenStore request.moment request.drawnFirst
    request.station request.authorization

/-- What follows once the verifier is asked. -/
def answerVerified (raw : RawState) (limiter : AuthRateLimiter) : Answer × AuthRateLimiter :=
  let key := failureKey request.peer
  match request.verified shortSha256 cfg raw with
  | .ok identity => (.admitted identity, limiter)
  | .error .typeError => (.raised .typeError, limiter)
  | .error (.staffAuth .missingCredential) => (.unauthorized .missingCredential, limiter)
  | .error (.staffAuth error) =>
    let (allowed, limiter) := limiter.allow cfg request.allowedAt key
    if allowed then (.unauthorized error, limiter)
    else (.rateLimited (limiter.retryAfterSeconds cfg request.retryAt key), limiter)

def authenticateStaffRequest (limiter : AuthRateLimiter) : Answer × AuthRateLimiter :=
  if request.authorization = [] then (.unauthorized .missingCredential, limiter)
  else
    let key := failureKey request.peer
    let (spent, limiter) := limiter.saturated cfg request.saturatedAt key
    if spent then
      match request.matched shortSha256 cfg with
      | (.error raised, _) => (.raised raised, limiter)
      | (.ok false, _) =>
        (.rateLimited (limiter.retryAfterSeconds cfg request.retryAt key), limiter)
      | (.ok true, raw) => request.answerVerified shortSha256 cfg raw limiter
    else request.answerVerified shortSha256 cfg request.station limiter

/-- The request gets as far as a comparison with the environment's tokens, and that raises. No
session lets the token in. Where there is a token store, the environment is a fallback: behind
the fingerprint of the store while the budget is spent, behind its verifier while it is not. -/
def ReachesRaise (limiter : AuthRateLimiter) : Prop :=
  ∃ token, bearerToken request.authorization = .ok token ∧
    (verifyStation request.moment request.drawnNext token request.station).1 = none ∧
    cfg.env.Raises shortSha256 token ∧
    ∀ rows, request.tokenStore = some rows →
      cfg.env.fallbackWithDb = true ∧
        if (limiter.saturated cfg request.saturatedAt (failureKey request.peer)).1 then
          matchesTokenFingerprint rows token = false
        else verifyToken rows token = .error .invalid

end Request

/-! ## Histories -/

/-- A request handled: the limiter it met, and its answer. -/
structure Exchange where
  before : AuthRateLimiter
  request : Request
  answer : Answer

/-- The requests one after another, from a limiter without hits. -/
def serve (shortSha256 : Text → Text) (cfg : Settings) (history : List Request) :
    List Exchange × AuthRateLimiter :=
  history.foldl (fun (exchanges, limiter) request =>
    let (answer, next) := request.authenticateStaffRequest shortSha256 cfg limiter
    (exchanges ++ [⟨limiter, request, answer⟩], next)) ([], .empty)

/-- The clock does not go back: no reading is before an earlier one. -/
def Chronological (history : List Request) : Prop :=
  (history.flatMap Request.readings).Pairwise (· ≤ ·)

/-- When the answers 401 to a peer were given: the reading at which each was counted. -/
def unauthorizedAt (peer : Text) (exchanges : List Exchange) : List Time :=
  exchanges.filterMap fun exchange =>
    match exchange.answer with
    | .unauthorized _ =>
      if exchange.request.peer = peer then some exchange.request.allowedAt else none
    | _ => none

/-- The budget stops guesses and never operators. -/
structure Sound (shortSha256 : Text → Text) (cfg : Settings) (exchanges : List Exchange) :
    Prop where
  operators : ∀ exchange ∈ exchanges, exchange.request.Accepted shortSha256 cfg →
    ∃ identity, exchange.answer = .admitted identity
  guesses : ∀ exchange ∈ exchanges, ¬ exchange.request.Accepted shortSha256 cfg →
    (∃ error, exchange.answer = .unauthorized error) ∨
      ∃ retryAfter, exchange.answer = .rateLimited retryAfter
  budget : ∀ peer start, within cfg.window start (unauthorizedAt peer exchanges) ≤ cfg.limit

/-! ## Who is let in, and where it raises -/

namespace Request

variable {shortSha256 : Text → Text} {cfg : Settings} {request : Request}
  {limiter : AuthRateLimiter} {raw : RawState}

lemma answerVerified_admitted_iff :
    (∃ identity, (request.answerVerified shortSha256 cfg raw limiter).1 = .admitted identity) ↔
      ∃ identity, request.verified shortSha256 cfg raw = .ok identity := by
  unfold answerVerified
  dsimp only
  split
  · simp [*]
  · simp [*]
  · simp [*]
  · split
    · simp [*]
    · simp [*]

lemma answerVerified_raised_iff :
    (∃ raised, (request.answerVerified shortSha256 cfg raw limiter).1 = .raised raised) ↔
      request.verified shortSha256 cfg raw = .error .typeError := by
  unfold answerVerified
  dsimp only
  split
  · simp [*]
  · simp [*]
  · simp [*]
  · split
    · simp [*]
    · simp [*]

lemma ok_iff_of_map_eq {x y : Except Raised OperatorIdentity}
    (h : x.map (fun _ => ()) = y.map fun _ => ()) :
    ((∃ identity, x = .ok identity) ↔ ∃ identity, y = .ok identity) ∧
      ∀ raised, x = .error raised ↔ y = .error raised := by
  cases x with
  | error raised =>
    cases y with
    | error raised' =>
      obtain rfl : raised = raised' := by simpa [Except.map] using h
      exact ⟨.rfl, fun _ => .rfl⟩
    | ok identity => simp [Except.map] at h
  | ok identity =>
    cases y with
    | error raised => simp [Except.map] at h
    | ok identity' => simp

/-- With the budget spent: the verifier is asked on the file that the matcher left, and what it
accepts the matcher let through. -/
lemma verified_matched :
    ((∃ identity, request.verified shortSha256 cfg (request.matched shortSha256 cfg).2 =
        .ok identity) ↔ request.Accepted shortSha256 cfg) ∧
      ∀ raised, request.verified shortSha256 cfg (request.matched shortSha256 cfg).2 =
        .error raised ↔ request.verified shortSha256 cfg request.station = .error raised :=
  ok_iff_of_map_eq verifyBearerToken_after_match

lemma authenticate_admitted_iff (hauth : request.authorization ≠ []) :
    (∃ identity, (request.authenticateStaffRequest shortSha256 cfg limiter).1 =
      .admitted identity) ↔ request.Accepted shortSha256 cfg := by
  unfold authenticateStaffRequest
  rw [if_neg hauth]
  dsimp only
  split
  · -- the budget is spent: what is accepted gets past the matcher
    have hmatches : request.Accepted shortSha256 cfg →
        (request.matched shortSha256 cfg).1 = .ok true :=
      fun ⟨_, hverified⟩ => matches_of_verified hverified
    have hverified := @verified_matched shortSha256 cfg request
    revert hmatches hverified
    rcases request.matched shortSha256 cfg with ⟨raised | answer, file⟩
    · intro hmatches _
      constructor
      · rintro ⟨identity, h⟩
        cases h
      · intro haccepted
        cases hmatches haccepted
    · cases answer with
      | false =>
        intro hmatches _
        constructor
        · rintro ⟨identity, h⟩
          cases h
        · intro haccepted
          cases hmatches haccepted
      | true =>
        intro _ hverified
        rw [← hverified.1]
        exact answerVerified_admitted_iff
  · exact answerVerified_admitted_iff

/-- The budget is spent, and the environment's tokens are compared with one they raise on. -/
def MatcherRaises (shortSha256 : Text → Text) (cfg : Settings) (request : Request) : Prop :=
  ∃ token, bearerToken request.authorization = .ok token ∧
    (verifyStation request.moment request.drawnNext token request.station).1 = none ∧
    cfg.env.Raises shortSha256 token ∧
    ∀ rows, request.tokenStore = some rows →
      cfg.env.fallbackWithDb = true ∧ matchesTokenFingerprint rows token = false

lemma matched_error_iff {raised : Raised} :
    (request.matched shortSha256 cfg).1 = .error raised ↔
      raised = .typeError ∧ request.MatcherRaises shortSha256 cfg := by
  unfold matched MatcherRaises
  rw [tokenMatchesExactly_error_iff]
  refine and_congr_right fun _ => exists_congr fun token => and_congr_right fun _ => ?_
  exact and_congr_left fun _ => verifyStation_none_iff

lemma matcherRaises_of_verified
    (h : request.verified shortSha256 cfg request.station = .error .typeError) :
    request.MatcherRaises shortSha256 cfg := by
  obtain ⟨token, htoken, hstation, hraises, hstore⟩ := verifyBearerToken_typeError_iff.mp h
  refine ⟨token, htoken, hstation, hraises, fun rows hrows => ?_⟩
  obtain ⟨hfallback, hinvalid⟩ := hstore rows hrows
  refine ⟨hfallback, ?_⟩
  -- a fingerprint that matched would be a token the store accepts
  by_contra hmatches
  obtain ⟨identity, hok⟩ := matchesTokenFingerprint_iff.mp (Bool.not_eq_false _ ▸ hmatches)
  rw [hinvalid] at hok
  cases hok

lemma authenticate_raised_iff (hauth : request.authorization ≠ []) :
    (∃ raised, (request.authenticateStaffRequest shortSha256 cfg limiter).1 = .raised raised) ↔
      request.ReachesRaise shortSha256 cfg limiter := by
  unfold authenticateStaffRequest ReachesRaise
  rw [if_neg hauth]
  dsimp only
  split
  · -- a full budget: the matcher is asked first, and raises first
    change _ ↔ request.MatcherRaises shortSha256 cfg
    have hmatcher := fun raised => @matched_error_iff shortSha256 cfg request raised
    have hverified := (@verified_matched shortSha256 cfg request).2 .typeError
    revert hmatcher hverified
    rcases request.matched shortSha256 cfg with ⟨raised | answer, file⟩
    · intro hmatcher _
      have hraises := ((hmatcher raised).mp rfl).2
      exact ⟨fun _ => hraises, fun _ => ⟨raised, rfl⟩⟩
    · cases answer with
      | false =>
        intro hmatcher _
        constructor
        · rintro ⟨raised, h⟩
          cases h
        · intro hraises
          cases (hmatcher .typeError).mpr ⟨rfl, hraises⟩
      | true =>
        intro hmatcher hverified
        rw [answerVerified_raised_iff, hverified]
        constructor
        · exact matcherRaises_of_verified
        · intro hraises
          cases (hmatcher .typeError).mpr ⟨rfl, hraises⟩
  · -- room left: only the verifier is asked
    rw [answerVerified_raised_iff, verified, verifyBearerToken_typeError_iff]

end Request

/-! ## What the limiter counts -/

namespace AuthRateLimiter

variable {cfg : Settings} {now : Time} {key other : Text} {limiter : AuthRateLimiter}
  {log : List Time} {hits : Option (List Time)}

lemma hits_update_self :
    AuthRateLimiter.hits key (update limiter key hits) = hits.getD [] := by
  simp [AuthRateLimiter.hits]

lemma hits_update_of_ne (h : other ≠ key) :
    AuthRateLimiter.hits other (update limiter key hits) = limiter.hits other := by
  simp [AuthRateLimiter.hits, h]

lemma hits_saturated_of_ne (h : other ≠ key) :
    (limiter.saturated cfg now key).2.hits other = limiter.hits other := by
  unfold saturated
  split
  · rfl
  · dsimp only
    split
    · exact hits_update_of_ne h
    · exact hits_update_of_ne h

lemma hits_allow_of_ne (h : other ≠ key) :
    (limiter.allow cfg now key).2.hits other = limiter.hits other := by
  unfold allow
  dsimp only
  split
  · exact hits_update_of_ne h
  · exact hits_update_of_ne h

lemma tracks_saturated (h : Tracks (now - cfg.window) log (limiter.hits key)) :
    Tracks (now - cfg.window) log ((limiter.saturated cfg now key).2.hits key) := by
  unfold saturated
  split
  · exact h
  · rename_i hits hkey
    have hpruned : Tracks (now - cfg.window) log (prune (now - cfg.window) hits) := by
      simpa [AuthRateLimiter.hits, hkey] using h.prune
    dsimp only
    split
    · rename_i hempty
      rw [hempty] at hpruned
      simpa [hits_update_self] using hpruned
    · simpa [hits_update_self] using hpruned

/-- A hit that is refused is not counted; one that is taken had room. -/
lemma tracks_allow (h : Tracks (now - cfg.window) log (limiter.hits key)) :
    ((limiter.allow cfg now key).1 = false →
      Tracks (now - cfg.window) log ((limiter.allow cfg now key).2.hits key)) ∧
    ((limiter.allow cfg now key).1 = true →
      Tracks (now - cfg.window) (log ++ [now]) ((limiter.allow cfg now key).2.hits key) ∧
        ((∀ start, within cfg.window start log ≤ cfg.limit) →
          ∀ start, within cfg.window start (log ++ [now]) ≤ cfg.limit)) := by
  have hpruned := h.prune
  unfold allow
  dsimp only
  split
  · refine ⟨fun _ => ?_, nofun⟩
    rw [hits_update_self]
    split
    · rename_i hempty
      rw [hempty] at hpruned
      exact hpruned
    · exact hpruned
  · -- room left: the hit is added to what the window keeps
    rename_i hroom
    refine ⟨nofun, fun _ => ⟨?_, ?_⟩⟩
    · rw [hits_update_self]
      exact hpruned.append now
    · exact within_append_le hpruned (not_le.mp hroom)

end AuthRateLimiter

lemma verifyBearerToken_ne_missing {shortSha256 : Text → Text} {env : Environment}
    {store : Option TokenStore} {now : Time} {drawn authorization : Text} {raw : RawState}
    (hauth : authorization ≠ []) :
    verifyBearerToken shortSha256 env store now drawn raw authorization ≠
      .error (.staffAuth .missingCredential) := by
  -- the environment answers with an identity, `invalid` or `TypeError`
  have henv : ∀ token, verifyEnvironment shortSha256 env token ≠
      .error (.staffAuth .missingCredential) := by
    intro token
    unfold verifyEnvironment verifyConfiguredToken
    cases configuredTokens shortSha256 env with
    | error error => simp [bind, Except.bind]
    | ok tokens =>
      cases hfirst : firstMatch token tokens with
      | error raised =>
        obtain ⟨rfl, -⟩ := firstMatch_error_iff.mp hfirst
        simp [hfirst, bind, Except.bind]
      | ok found =>
        cases found with
        | none => simp [hfirst, bind, Except.bind, throw, throwThe, MonadExceptOf.throw]
        | some identity => simp [hfirst, bind, Except.bind, pure, Except.pure]
  unfold verifyBearerToken bearerToken
  rw [if_neg hauth]
  dsimp only
  split
  · rename_i error herror
    split at herror
    · cases herror
      simp
    · cases herror
  · rename_i token _
    split
    · split
      · simp
      · simp
      · simp
      · split
        · simp
        · split
          · exact henv token
          · simp
    · split
      · simp
      · exact henv token

namespace Request

variable {shortSha256 : Text → Text} {cfg : Settings} {request : Request}
  {limiter : AuthRateLimiter} {raw : RawState}

variable (hauth : request.authorization ≠ [])
include hauth

/-- An answer 401 took a hit; any other answer took none. -/
lemma answerVerified_cases :
    let key := failureKey request.peer
    let next := request.answerVerified shortSha256 cfg raw limiter
    ((∀ error, next.1 ≠ .unauthorized error) ∧
        (next.2 = limiter ∨ (limiter.allow cfg request.allowedAt key).1 = false ∧
          next.2 = (limiter.allow cfg request.allowedAt key).2)) ∨
      (∃ error, next.1 = .unauthorized error) ∧
        (limiter.allow cfg request.allowedAt key).1 = true ∧
        next.2 = (limiter.allow cfg request.allowedAt key).2 := by
  unfold answerVerified
  dsimp only
  split
  · simp
  · simp
  · rename_i hmissing
    exact absurd hmissing (verifyBearerToken_ne_missing hauth)
  · split
    · rename_i hallowed
      exact .inr ⟨⟨_, rfl⟩, hallowed, rfl⟩
    · rename_i hallowed
      exact .inl ⟨nofun, .inr ⟨by simpa using hallowed, rfl⟩⟩

lemma authenticate_cases :
    let key := failureKey request.peer
    let met := (limiter.saturated cfg request.saturatedAt key).2
    let next := request.authenticateStaffRequest shortSha256 cfg limiter
    ((∀ error, next.1 ≠ .unauthorized error) ∧
        (next.2 = met ∨ (met.allow cfg request.allowedAt key).1 = false ∧
          next.2 = (met.allow cfg request.allowedAt key).2)) ∨
      (∃ error, next.1 = .unauthorized error) ∧
        (met.allow cfg request.allowedAt key).1 = true ∧
        next.2 = (met.allow cfg request.allowedAt key).2 := by
  unfold authenticateStaffRequest
  rw [if_neg hauth]
  dsimp only
  split
  · split
    · exact .inl ⟨nofun, .inl rfl⟩
    · exact .inl ⟨nofun, .inl rfl⟩
    · exact answerVerified_cases hauth
  · exact answerVerified_cases hauth

lemma hits_authenticate_of_ne {other : Text} (h : other ≠ failureKey request.peer) :
    (request.authenticateStaffRequest shortSha256 cfg limiter).2.hits other =
      limiter.hits other := by
  have hmet := @AuthRateLimiter.hits_saturated_of_ne cfg request.saturatedAt _ other limiter h
  rcases @authenticate_cases shortSha256 cfg request limiter hauth with
    ⟨-, hnext | ⟨-, hnext⟩⟩ | ⟨-, -, hnext⟩
  · rw [hnext, hmet]
  · rw [hnext, AuthRateLimiter.hits_allow_of_ne h, hmet]
  · rw [hnext, AuthRateLimiter.hits_allow_of_ne h, hmet]

/-- Of the peer itself: an answer 401 is counted and had room, any other is not counted. -/
lemma authenticate_counts (hclock : request.saturatedAt ≤ request.allowedAt) {log : List Time}
    (h : Tracks (request.saturatedAt - cfg.window) log (limiter.hits (failureKey request.peer)))
    (hbound : ∀ start, within cfg.window start log ≤ cfg.limit) :
    let next := request.authenticateStaffRequest shortSha256 cfg limiter
    ∃ counted, Tracks (request.allowedAt - cfg.window) (log ++ counted)
        (next.2.hits (failureKey request.peer)) ∧
      (∀ start, within cfg.window start (log ++ counted) ≤ cfg.limit) ∧
      (counted = [request.allowedAt] ∧ (∃ error, next.1 = .unauthorized error) ∨
        counted = [] ∧ ∀ error, next.1 ≠ .unauthorized error) := by
  have hmet := (AuthRateLimiter.tracks_saturated h).mono (sub_le_sub_right hclock cfg.window)
  obtain ⟨hrefused, htaken⟩ := AuthRateLimiter.tracks_allow hmet
  rcases @authenticate_cases shortSha256 cfg request limiter hauth with
    ⟨hnone, hnext⟩ | ⟨hsome, hallowed, hnext⟩
  · -- any answer but 401 counts nothing
    refine ⟨[], ?_, ?_, .inr ⟨rfl, hnone⟩⟩
    · rw [append_nil]
      rcases hnext with hnext | ⟨hallowed, hnext⟩
      · rw [hnext]
        exact hmet
      · rw [hnext]
        exact hrefused hallowed
    · rw [append_nil]
      exact hbound
  · -- a 401 takes the hit it was allowed
    obtain ⟨htracks, hwithin⟩ := htaken hallowed
    refine ⟨[request.allowedAt], ?_, hwithin hbound, .inl ⟨rfl, hsome⟩⟩
    rw [hnext]
    exact htracks

end Request

/-! ## Every history -/

section History

variable {shortSha256 : Text → Text} {cfg : Settings}

/-- The limiter holds the answers 401 that are in the window ending now, and no window that
ended before held too many. -/
structure Counted (cfg : Settings) (now : Time) (exchanges : List Exchange)
    (limiter : AuthRateLimiter) : Prop where
  tracks : ∀ peer, Tracks (now - cfg.window) (unauthorizedAt peer exchanges)
    (limiter.hits (failureKey peer))
  bounded : ∀ peer start, within cfg.window start (unauthorizedAt peer exchanges) ≤ cfg.limit

variable {exchanges : List Exchange} {exchange : Exchange} {history : List Request} {peer : Text}
  {limiter : AuthRateLimiter} {request : Request}

lemma Counted.mono {now now' : Time} (h : Counted cfg now exchanges limiter) (hle : now ≤ now') :
    Counted cfg now' exchanges limiter where
  tracks peer := (h.tracks peer).mono (sub_le_sub_right hle _)
  bounded := h.bounded

lemma failureKey_inj {peer' : Text} : failureKey peer = failureKey peer' ↔ peer = peer' :=
  append_right_inj _

lemma unauthorizedAt_append :
    unauthorizedAt peer (exchanges ++ [exchange]) =
      unauthorizedAt peer exchanges ++ unauthorizedAt peer [exchange] :=
  filterMap_append

lemma unauthorizedAt_singleton :
    unauthorizedAt peer [exchange] =
      match exchange.answer with
      | .unauthorized _ =>
        if exchange.request.peer = peer then [exchange.request.allowedAt] else []
      | _ => [] := by
  unfold unauthorizedAt
  rw [filterMap_cons]
  cases exchange.answer with
  | unauthorized error =>
    split_ifs
    · rfl
    · rfl
  | _ => rfl

lemma Counted.step (h : Counted cfg request.saturatedAt exchanges limiter)
    (hclock : request.saturatedAt ≤ request.allowedAt) (hauth : request.authorization ≠ []) :
    let next := request.authenticateStaffRequest shortSha256 cfg limiter
    Counted cfg request.allowedAt (exchanges ++ [⟨limiter, request, next.1⟩]) next.2 := by
  intro next
  -- of every peer: the queue after the answer, and what the answer adds to its count
  have hpeer : ∀ peer,
      Tracks (request.allowedAt - cfg.window)
          (unauthorizedAt peer (exchanges ++ [⟨limiter, request, next.1⟩]))
          (next.2.hits (failureKey peer)) ∧
        ∀ start, within cfg.window start
          (unauthorizedAt peer (exchanges ++ [⟨limiter, request, next.1⟩])) ≤ cfg.limit := by
    intro peer
    rw [unauthorizedAt_append, unauthorizedAt_singleton]
    by_cases hsame : request.peer = peer
    · subst hsame
      obtain ⟨counted, htracks, hbound, hanswer⟩ :=
        @Request.authenticate_counts shortSha256 cfg request limiter hauth hclock _
          (h.tracks request.peer) (h.bounded request.peer)
      rcases hanswer with ⟨rfl, error, hanswer⟩ | ⟨rfl, hanswer⟩
      · simp only [next, hanswer, if_true]
        exact ⟨htracks, hbound⟩
      · have hnone : (match next.1 with
            | .unauthorized _ => if request.peer = request.peer then [request.allowedAt] else []
            | _ => []) = [] := by
          split
          · rename_i error herror
            exact absurd herror (hanswer error)
          · rfl
        rw [hnone]
        exact ⟨htracks, hbound⟩
    · have hnone : (match next.1 with
          | .unauthorized _ => if request.peer = peer then [request.allowedAt] else []
          | _ => []) = [] := by
        split
        · exact if_neg hsame
        · rfl
      rw [hnone, append_nil]
      have hne : failureKey peer ≠ failureKey request.peer :=
        fun heq => hsame (failureKey_inj.mp heq).symm
      rw [Request.hits_authenticate_of_ne hauth hne]
      exact ⟨(h.tracks peer).mono (sub_le_sub_right hclock _), h.bounded peer⟩
  exact ⟨fun peer => (hpeer peer).1, fun peer => (hpeer peer).2⟩

lemma serve_append :
    serve shortSha256 cfg (history ++ [request]) =
      let (exchanges, limiter) := serve shortSha256 cfg history
      let next := request.authenticateStaffRequest shortSha256 cfg limiter
      (exchanges ++ [⟨limiter, request, next.1⟩], next.2) := by
  simp only [serve, foldl_append, foldl_cons, foldl_nil]

/-- Each exchange is what the request makes of the limiter it met. -/
lemma answer_of_mem_serve (h : exchange ∈ (serve shortSha256 cfg history).1) :
    exchange.request ∈ history ∧ exchange.answer =
      (exchange.request.authenticateStaffRequest shortSha256 cfg exchange.before).1 := by
  induction history using reverseRecOn with
  | nil => cases h
  | append_singleton history request ih =>
    rw [serve_append] at h
    rcases mem_append.mp h with h | h
    · obtain ⟨hmem, hanswer⟩ := ih h
      exact ⟨mem_append_left _ hmem, hanswer⟩
    · obtain rfl := mem_singleton.mp h
      exact ⟨mem_append_right _ (mem_singleton_self _), rfl⟩

lemma counted_serve (hclock : Chronological history)
    (hauth : ∀ request ∈ history, request.authorization ≠ []) {now : Time}
    (hnow : ∀ t ∈ history.flatMap Request.readings, t ≤ now) :
    Counted cfg now (serve shortSha256 cfg history).1 (serve shortSha256 cfg history).2 := by
  induction history using reverseRecOn generalizing now with
  | nil =>
    constructor
    · intro peer
      exact ⟨[], rfl, by simp⟩
    · intro peer start
      exact Nat.zero_le _
  | append_singleton history request ih =>
    unfold Chronological at hclock
    rw [flatMap_append, flatMap_singleton] at hclock hnow
    obtain ⟨hearlier, hown, hafter⟩ := pairwise_append.mp hclock
    -- the readings before the request are no later than its first
    have hcounted := ih hearlier (fun r hr => hauth r (mem_append_left _ hr))
      (fun t ht => hafter t ht request.saturatedAt mem_cons_self)
    have hle : request.saturatedAt ≤ request.allowedAt := by
      simp only [Request.readings, pairwise_cons] at hown
      exact hown.1 _ (by simp)
    have hstep := @Counted.step shortSha256 cfg _ _ request hcounted hle
      (hauth request (mem_append_right _ (mem_singleton_self _)))
    rw [serve_append]
    exact hstep.mono (hnow _ (mem_append_right _ (by simp [Request.readings])))

/-- Where the history is as it should be, nothing is raised. -/
lemma Sound.ne_raised (h : Sound shortSha256 cfg exchanges) (hexchange : exchange ∈ exchanges)
    (raised : Raised) : exchange.answer ≠ .raised raised := by
  intro hraised
  by_cases haccepted : exchange.request.Accepted shortSha256 cfg
  · obtain ⟨identity, hadmitted⟩ := h.operators exchange hexchange haccepted
    rw [hraised] at hadmitted
    cases hadmitted
  · rcases h.guesses exchange hexchange haccepted with ⟨error, hother⟩ | ⟨retry, hother⟩
    · rw [hraised] at hother
      cases hother
    · rw [hraised] at hother
      cases hother

/-- A history is as it should be exactly when no request of it gets as far as a comparison that
raises. -/
theorem sound_iff (hclock : Chronological history)
    (hauth : ∀ request ∈ history, request.authorization ≠ []) :
    Sound shortSha256 cfg (serve shortSha256 cfg history).1 ↔
      ∀ exchange ∈ (serve shortSha256 cfg history).1,
        ¬ exchange.request.ReachesRaise shortSha256 cfg exchange.before := by
  constructor
  · intro hsound exchange hexchange hreaches
    obtain ⟨hmem, hanswer⟩ := answer_of_mem_serve hexchange
    obtain ⟨raised, hraised⟩ :=
      (Request.authenticate_raised_iff (hauth _ hmem)).mpr hreaches
    exact hsound.ne_raised hexchange raised (hanswer.trans hraised)
  · intro hquiet
    constructor
    · intro exchange hexchange haccepted
      obtain ⟨hmem, hanswer⟩ := answer_of_mem_serve hexchange
      rw [hanswer]
      exact (Request.authenticate_admitted_iff (hauth _ hmem)).mpr haccepted
    · intro exchange hexchange haccepted
      obtain ⟨hmem, hanswer⟩ := answer_of_mem_serve hexchange
      cases hcase : exchange.answer with
      | admitted identity =>
        rw [hanswer] at hcase
        exact absurd ((Request.authenticate_admitted_iff (hauth _ hmem)).mp ⟨_, hcase⟩) haccepted
      | raised raised =>
        rw [hanswer] at hcase
        exact absurd ((Request.authenticate_raised_iff (hauth _ hmem)).mp ⟨_, hcase⟩)
          (hquiet exchange hexchange)
      | unauthorized error => exact .inl ⟨error, rfl⟩
      | rateLimited retry => exact .inr ⟨retry, rfl⟩
    · -- the window at the last reading of the history
      obtain ⟨now, hnow⟩ : ∃ now, ∀ t ∈ history.flatMap Request.readings, t ≤ now :=
        (history.flatMap Request.readings).toFinset.exists_le.imp fun _ h t ht =>
          h t (mem_toFinset.mpr ht)
      exact (counted_serve hclock hauth hnow).bounded

end History

/-! ## A station with one token in its environment -/

def clerkToken : Text := "ccenv1_abcdefghijklmnopqrstuvwxyzABCDEFGHIJKLMNOPQ".toList

def clerkSha256 (_ : Text) : Text := "b6a4d6503c83bc26".toList

/-- One failure in a minute. -/
def strict : Settings where
  limit := 1
  windowSeconds := 60
  limit_pos := by decide
  windowSeconds_pos := by decide
  env := ⟨clerkToken ++ ":clerk:Town Clerk:operator".toList, false, false⟩

/-- A request from one peer to a station without sessions, all at one moment. -/
def presenting (token : Text) : Request where
  client := some ['p']
  authorization := ['B', 'e', 'a', 'r', 'e', 'r', ' '] ++ token
  tokenStore := none
  station := .empty
  drawnFirst := []
  drawnNext := []
  saturatedAt := 0
  moment := 0
  allowedAt := 0
  retryAt := 0

/-- A guess is counted, the next one turned away, and the clerk let in all the same. -/
theorem clerk_admitted_over_budget :
    Sound clerkSha256 strict
        (serve clerkSha256 strict [presenting ['x'], presenting ['x'], presenting clerkToken]).1 ∧
      ((serve clerkSha256 strict
          [presenting ['x'], presenting ['x'], presenting clerkToken]).1.map Exchange.answer) =
        [.unauthorized .invalid, .rateLimited 61,
          .admitted (.named "clerk".toList "Town Clerk".toList
            (['e', 'n', 'v', '-'] ++ clerkSha256 clerkToken) ["operator".toList])] := by
  have hanswers : ((serve clerkSha256 strict
      [presenting ['x'], presenting ['x'], presenting clerkToken]).1.map Exchange.answer) =
        [.unauthorized .invalid, .rateLimited 61,
          .admitted (.named "clerk".toList "Town Clerk".toList
            (['e', 'n', 'v', '-'] ++ clerkSha256 clerkToken) ["operator".toList])] := by
    decide +kernel
  refine ⟨(sound_iff ?_ ?_).mpr ?_, hanswers⟩
  · unfold Chronological
    decide +kernel
  · decide +kernel
  · -- none of the three answers is one that raises
    intro exchange hexchange hreaches
    obtain ⟨hmem, hanswer⟩ := answer_of_mem_serve hexchange
    have hauth : exchange.request.authorization ≠ [] := by
      simp only [mem_cons, not_mem_nil, or_false] at hmem
      rcases hmem with h | h | h
      · simp [h, presenting]
      · simp [h, presenting]
      · simp [h, presenting]
    obtain ⟨raised, hraised⟩ := (Request.authenticate_raised_iff hauth).mpr hreaches
    have hin := mem_map_of_mem (f := Exchange.answer) hexchange
    rw [hanswers, hanswer, hraised] at hin
    simp at hin

/-- A guess with a letter that is not ASCII gets neither 401 nor 429. -/
theorem accented_guess_raises :
    validateStaffTokenConfig clerkSha256 strict.env = .ok () ∧
      Chronological [presenting ['é']] ∧ (presenting ['é']).authorization ≠ [] ∧
      ¬ Sound clerkSha256 strict (serve clerkSha256 strict [presenting ['é']]).1 := by
  refine ⟨by decide +kernel, by unfold Chronological; decide +kernel, by decide, ?_⟩
  intro hsound
  have hanswers : (serve clerkSha256 strict [presenting ['é']]).1.map Exchange.answer =
      [.raised .typeError] := by decide +kernel
  have hraised : .raised .typeError ∈
      (serve clerkSha256 strict [presenting ['é']]).1.map Exchange.answer := by
    rw [hanswers]
    exact mem_singleton_self _
  obtain ⟨exchange, hexchange, hanswer⟩ := mem_map.mp hraised
  exact hsound.ne_raised hexchange _ hanswer

end CivicCast.Auth
