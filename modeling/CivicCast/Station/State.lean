import CivicCast.Lib.Python

/-!
# The station-state file

`installer/station_state.py` keeps sessions, accounts, passwords and recovery codes in one JSON
file, beside the station profile, the commissioning progress and the AI-model settings. Every
operation loads the whole file, works on that copy, and writes the whole copy back.

An operation is modelled as what it makes of the copy it loaded: a result, and the payload it
saves, if it saves one (`Reply`). Loading, saving and the lock around them are in
`Station/Withdrawal`. Digests are taken as what they are digests of: two are equal exactly when
salt and secret are. What `secrets` and the clock answer is passed in.
-/

namespace CivicCast.Station

open Lib

/-- Microseconds. -/
abbrev Time : Type := ℤ

/-- A salted hash of a secret: `_hash_secret` and `_hash_token`. -/
structure Digest where
  salt : Text
  secret : Text
  deriving DecidableEq

/-- `hmac.compare_digest(hash(secret, salt), stored)`, with the salt stored beside the hash. -/
def Digest.matches (d : Digest) (secret : Text) : Bool := (⟨d.salt, secret⟩ : Digest) = d

@[simp] lemma Digest.matches_iff {d : Digest} {secret : Text} :
    d.matches secret = true ↔ d.secret = secret := by
  cases d
  simp [Digest.matches, eq_comm]

inductive OperatorRole where
  | setupAdmin | meetingOperator | recordsClerk | publishOperator | supportAdmin
  deriving DecidableEq

/-- The scopes of an identity: those of the first administrator, or the roles of an account. -/
inductive Scopes where
  | admin
  | roles (roles : Finset OperatorRole)
  deriving DecidableEq

structure OperatorIdentity where
  operatorId : Text
  displayName : Text
  tokenId : Text
  scopes : Scopes
  deriving DecidableEq

/-- One entry of `operator_console.tokens`. Entries of older builds lack some of the fields. -/
structure SessionEntry where
  token : Digest
  sessionId : Option Text
  accountId : Option Text
  issuedAt : Option Time
  expiresAt : Option Time
  source : Option Text
  deriving DecidableEq

/-- `operator_console`: the list of sessions, or the single token of older builds. -/
structure Console where
  tokens : Option (List SessionEntry)
  legacyToken : Option Digest
  deriving DecidableEq

structure Admin where
  username : Text
  displayName : Text
  password : Digest
  deriving DecidableEq

structure StaffAccount where
  operatorId : Text
  username : Text
  displayName : Text
  password : Digest
  roles : Finset OperatorRole
  enabled : Bool
  deriving DecidableEq

structure Recovery where
  kitId : Option Text
  codeHashes : List Digest
  acknowledged : Bool
  deriving DecidableEq

/-- The part of the station profile that some operation reads or edits. -/
structure Profile where
  stationName : Text
  adminUsername : Text
  timezone : Text
  publicBaseUrl : Option Text
  defaultChannelId : Text
  storageLocations : Text × Text × Text
  liveCaptionsEnabled : Bool
  recoveryKitId : Text
  deriving DecidableEq

/-- The file. `commissioning` and `aiModels` are the JSON blocks under these keys. -/
structure RawState where
  setupComplete : Bool
  station : Option Profile
  admin : Option Admin
  recovery : Option Recovery
  console : Option Console
  staffAccounts : List StaffAccount
  commissioning : Option Text
  aiModels : Option Text
  deriving DecidableEq

/-- What a file that is not there loads as. -/
def RawState.empty : RawState where
  setupComplete := false
  station := none
  admin := none
  recovery := none
  console := none
  staffAccounts := []
  commissioning := none
  aiModels := none

inductive StationError where
  | auth (message : String)
  | accountNotFound (message : String)
  | setupNotComplete (message : String)
  | setupAlreadyComplete
  | value (message : String)
  deriving DecidableEq

/-- How an operation ends: what it returns or raises, and the payload it saved, if any. -/
structure Reply (α : Type) where
  result : Except StationError α
  saved : Option RawState

def Reply.raise {α : Type} (error : StationError) : Reply α := ⟨.error error, none⟩

def firstAdmin : Text := ['f', 'i', 'r', 's', 't', '-', 'a', 'd', 'm', 'i', 'n']

/-! ## Sessions -/

def operatorTokenEntries (console : Console) : List SessionEntry :=
  match console.tokens with
  | some tokens => tokens
  | none =>
    match console.legacyToken with
    | some token => [⟨token, none, none, none, none, none⟩]
    | none => []

def RawState.entries (raw : RawState) : List SessionEntry :=
  raw.console.elim [] operatorTokenEntries

def operatorSessionTtl : Time := 12 * 60 * 60 * 1000000

/-- `_ensure_session_metadata`: the entry with the fields an older build left out. -/
def ensureSessionMetadata (now : Time) (drawn : Text) (entry : SessionEntry) : SessionEntry :=
  let sessionId := (entry.sessionId.filter (· ≠ [])).getD drawn
  let issuedAt := entry.issuedAt.getD now
  { entry with
    sessionId := some sessionId
    accountId := some (entry.accountId.getD firstAdmin)
    issuedAt := some issuedAt
    expiresAt := some (entry.expiresAt.getD (issuedAt + operatorSessionTtl)) }

def sessionIsExpired (now : Time) (entry : SessionEntry) : Bool :=
  match entry.expiresAt with
  | none => true
  | some expires => expires ≤ now

/-- What `secrets` draws for a new session. -/
structure TokenDraw where
  token : Text
  salt : Text
  sessionId : Text
  deriving DecidableEq

def newOperatorTokenEntry (now : Time) (draw : TokenDraw) (source accountId : Text) :
    SessionEntry where
  token := ⟨draw.salt, draw.token⟩
  sessionId := some draw.sessionId
  accountId := some accountId
  issuedAt := some now
  expiresAt := some (now + operatorSessionTtl)
  source := some source

def maxOperatorSessions : ℕ := 20

/-- `operator_console` rewritten with these sessions; the single token of older builds goes. -/
def RawState.withSessions (raw : RawState) (tokens : List SessionEntry) : RawState :=
  { raw with console := some ⟨some tokens, none⟩ }

/-- `_issue_operator_token`: the oldest sessions go when there are more than twenty. -/
def issueOperatorToken (now : Time) (draw : TokenDraw) (source accountId : Text)
    (raw : RawState) : RawState :=
  let tokens := raw.entries ++ [newOperatorTokenEntry now draw source accountId]
  raw.withSessions (tokens.drop (tokens.length - maxOperatorSessions))

/-! ## Accounts -/

def findStaffAccount (raw : RawState) (operatorId : Text) : Option StaffAccount :=
  raw.staffAccounts.find? fun account => account.operatorId = operatorId

def findStaffAccountByUsername (casefold : Text → Text) (raw : RawState) (username : Text) :
    Option StaffAccount :=
  let normalized := casefold (Text.strip username)
  if normalized = [] then none
  else raw.staffAccounts.find? fun account => casefold account.username = normalized

def revokeStaffAccountSessions (operatorId : Text) (raw : RawState) : RawState :=
  let remaining := raw.entries.filter fun entry => entry.accountId ≠ some operatorId
  if remaining.length = raw.entries.length then raw else raw.withSessions remaining

/-- The account rewritten in place: the first one under its id. -/
def RawState.withAccount (raw : RawState) (account : StaffAccount) : RawState :=
  { raw with
    staffAccounts := raw.staffAccounts.replaceF fun other =>
      if other.operatorId = account.operatorId then some account else none }

/-- `_ensure_active_administrator_remains`: the administrators besides the account changed. -/
def activeAdministrators (raw : RawState) (changed : Text) : ℕ :=
  (if raw.admin.any fun admin => admin.username ≠ [] && admin.password.salt ≠ [] then 1 else 0) +
    raw.staffAccounts.countP fun account =>
      account.operatorId ≠ changed && account.enabled && (.setupAdmin ∈ account.roles : Bool)

/-! ## Operations on sessions -/

/-- The identity a session that is not expired stands for. -/
def identityOf (raw : RawState) (entry : SessionEntry) : Option OperatorIdentity :=
  let sessionId := entry.sessionId.getD []
  if entry.accountId.getD firstAdmin = firstAdmin then
    raw.admin.map fun admin =>
      let username := if admin.username = [] then firstAdmin else admin.username
      { operatorId := username
        displayName := if admin.displayName = [] then username else admin.displayName
        tokenId := sessionId
        scopes := .admin }
  else
    match findStaffAccount raw (entry.accountId.getD firstAdmin) with
    | none => none
    | some account =>
      if account.enabled = false || account.roles = ∅ then none
      else some ⟨account.operatorId, account.displayName, sessionId, .roles account.roles⟩

/-- The first session of the token decides; metadata an older build left out is saved. -/
def verifyStationOperatorToken (now : Time) (drawn token : Text) (raw : RawState) :
    Reply (Option OperatorIdentity) :=
  match raw.console, raw.entries.find? fun entry => entry.token.matches token with
  | some console, some entry =>
    let ensured := ensureSessionMetadata now drawn entry
    let tokens := raw.entries.replaceF fun other =>
      if other.token.matches token then some ensured else none
    { result := .ok (if sessionIsExpired now ensured then none else identityOf raw ensured)
      saved :=
        if ensured = entry then none
        else some { raw with console := some { console with tokens := some tokens } } }
  | _, _ => ⟨.ok none, none⟩

/-- The effect of `list_operator_sessions` on the file; the list it returns is the sessions
with their metadata. -/
def listOperatorSessions (now : Time) (drawn : SessionEntry → Text) (raw : RawState) :
    Reply (List SessionEntry) :=
  match raw.console with
  | none => ⟨.ok [], none⟩
  | some console =>
    let tokens := raw.entries.map fun entry => ensureSessionMetadata now (drawn entry) entry
    ⟨.ok tokens, some { raw with console := some { console with tokens := some tokens } }⟩

def revokeOperatorSessionById (now : Time) (drawn : SessionEntry → Text) (sessionId : Text)
    (raw : RawState) : Reply Unit :=
  let entries := raw.entries.map fun entry => ensureSessionMetadata now (drawn entry) entry
  let remaining := entries.filter fun entry => entry.sessionId ≠ some sessionId
  if remaining.length = entries.length then .raise (.accountNotFound "Staff session was not found.")
  else ⟨.ok (), some (raw.withSessions remaining)⟩

def revokeOtherOperatorSessions (token : Text) (raw : RawState) : Reply ℕ :=
  if raw.console = none then .raise (.auth "No operator-console session exists to revoke.")
  else
    match raw.entries.find? fun entry => entry.token.matches token with
    | none => .raise (.auth "Invalid staff bearer token.")
    | some caller => ⟨.ok (raw.entries.length - 1), some (raw.withSessions [caller])⟩

def revokeOperatorSession (token : Text) (raw : RawState) : Reply Unit :=
  if raw.console = none then .raise (.auth "No operator-console session exists to revoke.")
  else
    let remaining := raw.entries.filter fun entry => !entry.token.matches token
    if remaining.length = raw.entries.length then .raise (.auth "Invalid staff bearer token.")
    else ⟨.ok (), some (raw.withSessions remaining)⟩

/-! ## Signing in -/

structure StaffLoginResponse where
  accessToken : Text
  operatorId : Text
  displayName : Text
  roles : Finset OperatorRole
  deriving DecidableEq

def staffLogin : Text := ['s', 't', 'a', 'f', 'f', '-', 'l', 'o', 'g', 'i', 'n']

def loginStaffAccount (casefold : Text → Text) (now : Time) (draw : TokenDraw)
    (username password : Text) (raw : RawState) : Reply StaffLoginResponse :=
  match findStaffAccountByUsername casefold raw username with
  | none => .raise (.auth "Invalid staff username or password.")
  | some account =>
    if !account.password.matches password || !account.enabled || account.roles = ∅ then
      .raise (.auth "Invalid staff username or password.")
    else
      { result := .ok ⟨draw.token, account.operatorId, account.displayName, account.roles⟩
        saved := some (issueOperatorToken now draw staffLogin account.operatorId raw) }

def verifyAdminPassword (raw : RawState) (username password : Text) : Bool :=
  raw.admin.any fun admin =>
    admin.username = Text.strip username && admin.password.matches password

structure StationAuthResponse where
  status : String
  profile : Profile
  operatorConsoleToken : Text
  deriving DecidableEq

def login : Text := ['l', 'o', 'g', 'i', 'n']

def loginStationAdmin (now : Time) (draw : TokenDraw) (username password : Text)
    (raw : RawState) : Reply StationAuthResponse :=
  match raw.station with
  | none => .raise (.auth "Invalid admin username or password.")
  | some profile =>
    if verifyAdminPassword raw username password then
      { result := .ok ⟨"authenticated", profile, draw.token⟩
        saved := some (issueOperatorToken now draw login firstAdmin raw) }
    else .raise (.auth "Invalid admin username or password.")

/-- `_consume_recovery_code`: the codes left, where one of them is the code given. -/
def consumeRecoveryCode (code : Text) (recovery : Recovery) : Option Recovery :=
  match recovery.kitId with
  | none => none
  | some kitId =>
    let observed : Digest := ⟨kitId, Text.strip code⟩
    if observed ∈ recovery.codeHashes then
      some { recovery with codeHashes := recovery.codeHashes.erase observed }
    else none

def recoveryText : Text := ['r', 'e', 'c', 'o', 'v', 'e', 'r', 'y']

def recoverStationAdmin (now : Time) (draw : TokenDraw) (salt username code newPassword : Text)
    (raw : RawState) : Reply StationAuthResponse :=
  match raw.station with
  | none => .raise (.auth "Invalid recovery code or admin username.")
  | some profile =>
    if Text.strip username ≠ profile.adminUsername then
      .raise (.auth "Invalid recovery code or admin username.")
    else
      match raw.recovery.bind (consumeRecoveryCode code) with
      | none => .raise (.auth "Invalid recovery code or admin username.")
      | some recovery =>
        match raw.admin with
        | none => .raise (.auth "Station admin state is missing.")
        | some admin =>
          let rotated :=
            { raw with
              recovery := some recovery
              admin := some { admin with password := ⟨salt, newPassword⟩ } }
          { result := .ok ⟨"recovered", profile, draw.token⟩
            saved := some (issueOperatorToken now draw recoveryText firstAdmin rotated) }

/-! ## Operations on accounts -/

def createStaffAccount (casefold : Text → Text)
    (operatorId salt username displayName password : Text) (roles : Finset OperatorRole)
    (raw : RawState) : Reply StaffAccount :=
  let username := casefold (Text.strip username)
  let displayName := Text.strip displayName
  if username = [] || displayName = [] then
    .raise (.auth "A staff username and display name are required.")
  else if raw.admin.any fun admin => casefold admin.username = username then
    .raise (.auth "That username is reserved for the first administrator.")
  else if (findStaffAccountByUsername casefold raw username).isSome then
    .raise (.auth "A staff account already uses that username.")
  else
    let account : StaffAccount :=
      ⟨operatorId, username, displayName, ⟨salt, password⟩, roles, true⟩
    ⟨.ok account, some { raw with staffAccounts := raw.staffAccounts ++ [account] }⟩

structure StaffAccountUpdate where
  displayName : Option Text
  roles : Option (Finset OperatorRole)
  enabled : Option Bool
  deriving DecidableEq

def updateStaffAccount (operatorId : Text) (request : StaffAccountUpdate) (raw : RawState) :
    Reply StaffAccount :=
  if operatorId = firstAdmin then
    .raise (.auth "The first administrator is managed through the recovery flow.")
  else
    match findStaffAccount raw operatorId with
    | none => .raise (.accountNotFound "Staff account was not found.")
    | some account =>
      let newRoles := request.roles.getD account.roles
      let newEnabled := request.enabled.getD account.enabled
      if account.enabled && (.setupAdmin ∈ account.roles : Bool) &&
          (!newEnabled || (.setupAdmin ∉ newRoles : Bool)) &&
          activeAdministrators raw operatorId ≤ 1 then
        .raise (.auth "At least one active setup administrator must remain.")
      else if (request.displayName.map Text.strip) = some [] then
        .raise (.auth "A staff display name is required.")
      else
        let updated :=
          { account with
            displayName := (request.displayName.map Text.strip).getD account.displayName
            roles := newRoles
            enabled := newEnabled }
        let raw := raw.withAccount updated
        if newRoles ≠ account.roles || newEnabled ≠ account.enabled then
          ⟨.ok updated, some (revokeStaffAccountSessions operatorId raw)⟩
        else ⟨.ok updated, some raw⟩

def resetStaffAccountPassword (operatorId salt newPassword : Text) (raw : RawState) : Reply Unit :=
  match findStaffAccount raw operatorId with
  | none => .raise (.accountNotFound "Staff account was not found.")
  | some account =>
    let raw := raw.withAccount { account with password := ⟨salt, newPassword⟩ }
    ⟨.ok (), some (revokeStaffAccountSessions operatorId raw)⟩

/-! ## Setup and the recovery kit -/

structure FirstAdminSetup where
  profile : Profile
  displayName : Text
  password : Text
  deriving DecidableEq

def setupText : Text := ['s', 'e', 't', 'u', 'p']

/-- With `CIVICCAST_ALLOW_FIRST_ADMIN_RESET` off. The payload starts from nothing: accounts,
commissioning and AI settings of a file whose setup was not complete do not survive. -/
def completeFirstAdminSetup (now : Time) (draw : TokenDraw) (salt kitId : Text)
    (codes : List Text) (request : FirstAdminSetup) (raw : RawState) : Reply (List Text) :=
  if raw.setupComplete then .raise .setupAlreadyComplete
  else
    { result := .ok codes
      saved := some
        { RawState.empty with
          setupComplete := true
          station := some { request.profile with recoveryKitId := kitId }
          admin :=
            some ⟨request.profile.adminUsername, request.displayName, ⟨salt, request.password⟩⟩
          recovery := some ⟨some kitId, codes.map fun code => ⟨kitId, code⟩, false⟩
          console := some ⟨some [newOperatorTokenEntry now draw setupText firstAdmin], none⟩ } }

def regenerateRecoveryKit (kitId : Text) (codes : List Text) (raw : RawState) :
    Reply (List Text) :=
  match raw.station with
  | none =>
    .raise (.setupNotComplete
      "First-admin setup is not complete, so there is no recovery kit to regenerate.")
  | some profile =>
    if raw.setupComplete then
      { result := .ok codes
        saved := some
          { raw with
            recovery := some ⟨some kitId, codes.map fun code => ⟨kitId, code⟩, false⟩
            station := some { profile with recoveryKitId := kitId } } }
    else
      .raise (.setupNotComplete
        "First-admin setup is not complete, so there is no recovery kit to regenerate.")

def acknowledgeRecoveryKit (raw : RawState) : Reply Unit :=
  if raw.setupComplete then
    let recovery := raw.recovery.getD ⟨none, [], false⟩
    ⟨.ok (), some { raw with recovery := some { recovery with acknowledged := true } }⟩
  else
    .raise (.setupNotComplete
      "First-admin setup is not complete, so there is no recovery kit to confirm.")

/-! ## The settings in the same file -/

structure ProfileUpdate where
  stationName : Option Text
  timezone : Option Text
  publicBaseUrl : Option (Option Text)
  defaultChannelId : Option Text
  storageLocations : Option (Text × Text × Text)
  liveCaptionsEnabled : Option Bool
  deriving DecidableEq

def updateStationProfileFields (update : ProfileUpdate) (raw : RawState) : Reply Profile :=
  match raw.station with
  | none =>
    .raise (.setupNotComplete
      "First-admin setup is not complete, so there is no station profile to edit.")
  | some station =>
    if raw.setupComplete then
      let station :=
        { station with
          stationName := (update.stationName.map Text.strip).getD station.stationName
          timezone := (update.timezone.map Text.strip).getD station.timezone
          publicBaseUrl := update.publicBaseUrl.getD station.publicBaseUrl
          defaultChannelId := (update.defaultChannelId.map Text.strip).getD station.defaultChannelId
          storageLocations := update.storageLocations.getD station.storageLocations
          liveCaptionsEnabled := update.liveCaptionsEnabled.getD station.liveCaptionsEnabled }
      ⟨.ok station, some { raw with station := some station }⟩
    else
      .raise (.setupNotComplete
        "First-admin setup is not complete, so there is no station profile to edit.")

/-- `_save_commissioning_state`, the end of each of the four commissioning saves. The progress
it writes was made from an earlier load of its own. -/
def saveCommissioningState (state : Text) (raw : RawState) : Reply Unit :=
  ⟨.ok (), some { raw with commissioning := some state }⟩

def resetCommissioningState (raw : RawState) : Reply Unit :=
  ⟨.ok (), some { raw with commissioning := none }⟩

/-- The end of `seed_ai_model_default` and of `set_ai_model_override`: the block is rewritten. -/
def saveAiModels (seed : Text) (raw : RawState) : Reply Unit :=
  ⟨.ok (), some { raw with aiModels := some seed }⟩

end CivicCast.Station
