import CivicCast.Station.State

/-!
# Withdrawn access stays withdrawn

Calls of the station-state operations in one process, interleaved at their loads and saves. An
operation that holds the state lock loads when the lock is free and gives it back when it has
saved; the profile edits, the commissioning saves and the AI-model settings never take it. They
rewrite the whole file from the copy they loaded, so one of them that loaded before a session
was revoked and saves after it puts the session back.

A withdrawal (`Op.withdraws`) is a session revoked, an account disabled, a password replaced or
a recovery code used. `withdrawn_stays_withdrawn` is about every interleaving in which no
operation without the lock saves a copy that is older than a withdrawal: no call that loads
later is granted what is withdrawn.
-/

namespace CivicCast.Station

open Lib List Function

/-- What a call can be let in by. -/
inductive Grant where
  | session (token : Text)
  | account (operatorId : Text)
  | staffPassword (operatorId password : Text)
  | adminPassword (password : Text)
  | recoveryCode (code : Text)
  deriving DecidableEq

/-- The calls, with what `secrets` draws for each. -/
inductive Op where
  | verify (drawn token : Text)
  | listSessions (drawn : SessionEntry → Text)
  | revokeById (drawn : SessionEntry → Text) (sessionId : Text)
  | revokeOthers (token : Text)
  | revoke (token : Text)
  | loginStaff (draw : TokenDraw) (username password : Text)
  | loginAdmin (draw : TokenDraw) (username password : Text)
  | recover (draw : TokenDraw) (salt username code newPassword : Text)
  | createAccount (operatorId salt username displayName password : Text)
      (roles : Finset OperatorRole)
  | updateAccount (operatorId : Text) (request : StaffAccountUpdate)
  | resetPassword (operatorId salt newPassword : Text)
  | setup (draw : TokenDraw) (salt kitId : Text) (codes : List Text) (request : FirstAdminSetup)
  | regenerateKit (kitId : Text) (codes : List Text)
  | acknowledgeKit
  | updateProfile (update : ProfileUpdate)
  | saveCommissioning (state : Text)
  | resetCommissioning
  | saveAiModels (seed : Text)

namespace Op

/-- Where the code holds `_STATE_MUTATION_LOCK`. -/
def locked : Op → Bool
  | updateProfile _ | saveCommissioning _ | resetCommissioning | saveAiModels _ => false
  | _ => true

variable (casefold : Text → Text) (now : Time)

/-- The payload a call saves, made from the copy it loaded. -/
def saved : Op → RawState → Option RawState
  | verify drawn token, raw => (verifyStationOperatorToken now drawn token raw).saved
  | listSessions drawn, raw => (listOperatorSessions now drawn raw).saved
  | revokeById drawn sessionId, raw => (revokeOperatorSessionById now drawn sessionId raw).saved
  | revokeOthers token, raw => (revokeOtherOperatorSessions token raw).saved
  | revoke token, raw => (revokeOperatorSession token raw).saved
  | loginStaff draw username password, raw =>
    (loginStaffAccount casefold now draw username password raw).saved
  | loginAdmin draw username password, raw =>
    (loginStationAdmin now draw username password raw).saved
  | recover draw salt username code newPassword, raw =>
    (recoverStationAdmin now draw salt username code newPassword raw).saved
  | createAccount operatorId salt username displayName password roles, raw =>
    (createStaffAccount casefold operatorId salt username displayName password roles raw).saved
  | updateAccount operatorId request, raw => (updateStaffAccount operatorId request raw).saved
  | resetPassword operatorId salt newPassword, raw =>
    (resetStaffAccountPassword operatorId salt newPassword raw).saved
  | setup draw salt kitId codes request, raw =>
    (completeFirstAdminSetup now draw salt kitId codes request raw).saved
  | regenerateKit kitId codes, raw => (regenerateRecoveryKit kitId codes raw).saved
  | acknowledgeKit, raw => (acknowledgeRecoveryKit raw).saved
  | updateProfile update, raw => (updateStationProfileFields update raw).saved
  | saveCommissioning state, raw => (saveCommissioningState state raw).saved
  | resetCommissioning, raw => (resetCommissioningState raw).saved
  | saveAiModels seed, raw => (Station.saveAiModels seed raw).saved

/-- What a call that is let in was let in by. A session of the first administrator has no
account behind it. -/
def grants : Op → RawState → List Grant
  | verify drawn token, raw =>
    match (verifyStationOperatorToken now drawn token raw).result with
    | .ok (some identity) =>
      match identity.scopes with
      | .admin => [.session token]
      | .roles _ => [.session token, .account identity.operatorId]
    | _ => []
  | loginStaff draw username password, raw =>
    match (loginStaffAccount casefold now draw username password raw).result with
    | .ok response =>
      [.account response.operatorId, .staffPassword response.operatorId password]
    | .error _ => []
  | loginAdmin draw username password, raw =>
    match (loginStationAdmin now draw username password raw).result with
    | .ok _ => [.adminPassword password]
    | .error _ => []
  | recover draw salt username code newPassword, raw =>
    match (recoverStationAdmin now draw salt username code newPassword raw).result with
    | .ok _ => [.recoveryCode (Text.strip code)]
    | .error _ => []
  | _, _ => []

end Op

def RawState.tokens (raw : RawState) : List Text := raw.entries.map fun entry => entry.token.secret

def RawState.tokensOf (raw : RawState) (operatorId : Text) : List Text :=
  (raw.entries.filter fun entry => entry.accountId = some operatorId).map fun entry =>
    entry.token.secret

namespace Op

variable (now : Time)

/-- What a call withdraws when it saves: the sessions it revokes, the account it leaves
disabled, the password it replaces by another, the code it uses. -/
def withdraws : Op → RawState → List Grant
  | revokeById drawn sessionId, raw =>
    (raw.entries.filter fun entry =>
      (ensureSessionMetadata now (drawn entry) entry).sessionId = some sessionId).map fun entry =>
        .session entry.token.secret
  | revokeOthers token, raw => (raw.tokens.filter (· ≠ token)).map .session
  | revoke token, _ => [.session token]
  | recover _ _ _ code newPassword, raw =>
    .recoveryCode (Text.strip code) ::
      (raw.admin.toList.filter fun admin => admin.password.secret ≠ newPassword).map fun admin =>
        .adminPassword admin.password.secret
  | updateAccount operatorId request, raw =>
    match findStaffAccount raw operatorId with
    | none => []
    | some account =>
      let newEnabled := request.enabled.getD account.enabled
      (if newEnabled then [] else [.account operatorId]) ++
        if request.roles.getD account.roles ≠ account.roles ∨ newEnabled ≠ account.enabled then
          (raw.tokensOf operatorId).map .session
        else []
  | resetPassword operatorId _ newPassword, raw =>
    match findStaffAccount raw operatorId with
    | none => []
    | some account =>
      (if account.password.secret = newPassword then []
        else [.staffPassword operatorId account.password.secret]) ++
        (raw.tokensOf operatorId).map .session
  | _, _ => []

/-- What a call gives back: an account an update enables, a password that is set. -/
def restores : Op → List Grant
  | updateAccount operatorId request =>
    if request.enabled = some true then [.account operatorId] else []
  | resetPassword operatorId _ newPassword => [.staffPassword operatorId newPassword]
  | recover _ _ _ _ newPassword => [.adminPassword newPassword]
  | setup _ _ _ _ request => [.adminPassword request.password]
  | _ => []

def newTokens : Op → List Text
  | loginStaff draw _ _ | loginAdmin draw _ _ | recover draw _ _ _ _ | setup draw _ _ _ _ =>
    [draw.token]
  | _ => []

def newAccounts : Op → List Text
  | createAccount operatorId _ _ _ _ _ => [operatorId]
  | _ => []

/-- The recovery codes a call draws. -/
def newCodes : Op → List Text
  | setup _ _ _ codes _ | regenerateKit _ codes => codes
  | _ => []

end Op

/-! ## Interleavings -/

/-- A call between its load and its end: the copy it loaded, and how many withdrawals had been
saved then. -/
structure Call where
  op : Op
  copy : RawState
  seen : ℕ

/-- The file, the lock, the calls in flight, and what is withdrawn. -/
structure Config (T : Type) where
  file : RawState
  holder : Option T
  calls : T → Option Call
  withdrawn : List Grant
  withdrawals : ℕ

/-- `secrets` draws nothing that was drawn before. -/
structure Op.Fresh (op : Op) (withdrawn : List Grant) (copy : RawState) : Prop where
  tokens : ∀ token ∈ op.newTokens, token ∉ copy.tokens ∧ .session token ∉ withdrawn
  accounts : ∀ operatorId ∈ op.newAccounts,
    (∀ account ∈ copy.staffAccounts, account.operatorId ≠ operatorId) ∧
      .account operatorId ∉ withdrawn ∧ ∀ password, .staffPassword operatorId password ∉ withdrawn
  codes : op.newCodes.Nodup ∧ ∀ code ∈ op.newCodes, .recoveryCode code ∉ withdrawn

namespace Config

variable {T : Type} [DecidableEq T] (casefold : Text → Text)

/-- Thread `t` starts a call: where the operation holds the lock it waits for it. -/
def load (c : Config T) (t : T) (op : Op) : Config T :=
  { c with
    holder := if op.locked then some t else c.holder
    calls := update c.calls t (some ⟨op, c.file, c.withdrawals⟩) }

/-- The call of thread `t` ends, with the payload it saves. -/
def finish (c : Config T) (t : T) (call : Call) (now : Time) : Config T :=
  let done :=
    { c with
      holder := if call.op.locked then none else c.holder
      calls := update c.calls t none }
  match call.op.saved casefold now call.copy with
  | none => done
  | some payload =>
    { done with
      file := payload
      withdrawn := (c.withdrawn.filter fun g => g ∉ call.op.restores) ++
        call.op.withdraws now call.copy
      withdrawals := c.withdrawals + if call.op.withdraws now call.copy = [] then 0 else 1 }

/-- The interleavings. `careful` is what is asked of the saves. -/
inductive Reached (careful : Config T → Call → Prop) (c₀ : Config T) : Config T → Prop where
  | start : Reached careful c₀ c₀
  | load {c : Config T} (t : T) (op : Op) (h : Reached careful c₀ c) (hidle : c.calls t = none)
      (hlock : op.locked = true → c.holder = none) : Reached careful c₀ (c.load t op)
  | finish {c : Config T} (t : T) (call : Call) (now : Time) (h : Reached careful c₀ c)
      (hcall : c.calls t = some call) (hfresh : call.op.Fresh c.withdrawn call.copy)
      (hcareful : (call.op.saved casefold now call.copy).isSome → careful c call) :
      Reached careful c₀ (c.finish casefold t call now)

/-- An operation without the lock saves no copy older than a withdrawal. -/
def Current (c : Config T) (call : Call) : Prop :=
  call.op.locked = false → call.seen = c.withdrawals

def initial (file : RawState) : Config T where
  file := file
  holder := none
  calls := fun _ => none
  withdrawn := []
  withdrawals := 0

end Config

/-! ## What a state lets in -/

/-- The grants a file honours. -/
def RawState.Admits (raw : RawState) : Grant → Prop
  | .session token => token ∈ raw.tokens
  | .account operatorId =>
    ∃ account ∈ raw.staffAccounts, account.operatorId = operatorId ∧ account.enabled = true
  | .staffPassword operatorId password =>
    ∃ account ∈ raw.staffAccounts,
      account.operatorId = operatorId ∧ account.password.secret = password
  | .adminPassword password =>
    ∃ admin, raw.admin = some admin ∧ admin.password.secret = password
  | .recoveryCode code =>
    ∃ recovery kitId, raw.recovery = some recovery ∧ recovery.kitId = some kitId ∧
      ⟨kitId, code⟩ ∈ recovery.codeHashes

/-- No token, account id or recovery code is in the file twice. -/
structure RawState.Proper (raw : RawState) : Prop where
  tokens : raw.tokens.Nodup
  accounts : (raw.staffAccounts.map StaffAccount.operatorId).Nodup
  codes : ∀ recovery, raw.recovery = some recovery → recovery.codeHashes.Nodup

variable {raw copy : RawState} {account : StaffAccount} {entry : SessionEntry}
  {withdrawn : List Grant}

lemma mem_of_findStaffAccount {operatorId : Text}
    (h : findStaffAccount raw operatorId = some account) :
    account ∈ raw.staffAccounts ∧ account.operatorId = operatorId :=
  ⟨mem_of_find?_eq_some h, by simpa using find?_some h⟩

lemma mem_of_findStaffAccountByUsername {casefold : Text → Text} {username : Text}
    (h : findStaffAccountByUsername casefold raw username = some account) :
    account ∈ raw.staffAccounts := by
  simp only [findStaffAccountByUsername] at h
  split at h
  · cases h
  · exact mem_of_find?_eq_some h

lemma mem_tokens_of_find {token : Text}
    (h : (raw.entries.find? fun entry => entry.token.matches token) = some entry) :
    token ∈ raw.tokens := by
  have hsecret : entry.token.secret = token := by simpa using find?_some h
  exact hsecret ▸ mem_map_of_mem (mem_of_find?_eq_some h)

lemma account_of_identityOf {identity : OperatorIdentity}
    {roles : Finset OperatorRole} (h : identityOf raw entry = some identity)
    (hroles : identity.scopes = .roles roles) : raw.Admits (.account identity.operatorId) := by
  unfold identityOf at h
  split at h
  · obtain ⟨admin, -, rfl⟩ := Option.map_eq_some_iff.mp h
    cases hroles
  · split at h
    · cases h
    · rename_i account hfind
      obtain ⟨hmem, -⟩ := mem_of_findStaffAccount hfind
      split at h
      · cases h
      · rename_i hopen
        cases h
        refine ⟨account, hmem, rfl, ?_⟩
        cases henabled : account.enabled with
        | true => rfl
        | false => simp [henabled] at hopen

section Grants

variable {casefold : Text → Text} {now : Time} {raw : RawState} {draw : TokenDraw}
  {username code password salt newPassword : Text} {response : StationAuthResponse}

lemma admits_of_verify {drawn token : Text} {identity : OperatorIdentity}
    (h : (verifyStationOperatorToken now drawn token raw).result = .ok (some identity)) :
    token ∈ raw.tokens ∧
      ∀ roles, identity.scopes = .roles roles → raw.Admits (.account identity.operatorId) := by
  unfold verifyStationOperatorToken at h
  split at h
  · rename_i console entry _ hfind
    refine ⟨mem_tokens_of_find hfind, fun roles hroles => ?_⟩
    dsimp only at h
    split at h
    · cases h
    · exact account_of_identityOf (Except.ok.inj h) hroles
  · cases h

lemma admits_of_loginStaff {response : StaffLoginResponse}
    (h : (loginStaffAccount casefold now draw username password raw).result = .ok response) :
    raw.Admits (.account response.operatorId) ∧
      raw.Admits (.staffPassword response.operatorId password) := by
  unfold loginStaffAccount at h
  split at h
  · cases h
  · rename_i account hfind
    have hmem := mem_of_findStaffAccountByUsername hfind
    split at h
    · cases h
    · rename_i hopen
      simp only [Bool.or_eq_true, Bool.not_eq_true', decide_eq_true_eq, not_or,
        Bool.not_eq_false, Digest.matches_iff] at hopen
      cases h
      exact ⟨⟨account, hmem, rfl, hopen.1.2⟩, ⟨account, hmem, rfl, hopen.1.1⟩⟩

lemma admits_of_loginAdmin
    (h : (loginStationAdmin now draw username password raw).result = .ok response) :
    raw.Admits (.adminPassword password) := by
  unfold loginStationAdmin at h
  split at h
  · cases h
  · split at h
    · rename_i hverify
      unfold verifyAdminPassword at hverify
      cases hadmin : raw.admin with
      | none => simp [hadmin] at hverify
      | some admin =>
        simp only [hadmin, Option.any_some, Bool.and_eq_true, Digest.matches_iff] at hverify
        exact ⟨admin, hadmin, hverify.2⟩
    · cases h

lemma consumeRecoveryCode_eq_some {recovery left : Recovery}
    (h : consumeRecoveryCode code recovery = some left) :
    ∃ kitId, recovery.kitId = some kitId ∧ ⟨kitId, Text.strip code⟩ ∈ recovery.codeHashes ∧
      left =
        { recovery with codeHashes := recovery.codeHashes.erase ⟨kitId, Text.strip code⟩ } := by
  unfold consumeRecoveryCode at h
  split at h
  · cases h
  · rename_i kitId hkit
    dsimp only at h
    split at h
    · rename_i hmem
      exact ⟨kitId, hkit, hmem, (Option.some.inj h).symm⟩
    · cases h

/-- What a recovery that goes through found in the file, and what it saves. -/
lemma recoverStationAdmin_saved {payload : RawState}
    (h : (recoverStationAdmin now draw salt username code newPassword raw).saved = some payload) :
    ∃ recovery left admin, raw.recovery = some recovery ∧
      consumeRecoveryCode code recovery = some left ∧ raw.admin = some admin ∧
      payload = issueOperatorToken now draw recoveryText firstAdmin
        { raw with
          recovery := some left
          admin := some { admin with password := ⟨salt, newPassword⟩ } } := by
  unfold recoverStationAdmin at h
  split at h
  · cases h
  · split at h
    · cases h
    · split at h
      · cases h
      · rename_i left hconsume
        obtain ⟨recovery, hrecovery, hleft⟩ := Option.bind_eq_some_iff.mp hconsume
        split at h
        · cases h
        · rename_i admin hadmin
          exact ⟨recovery, left, admin, hrecovery, hleft, hadmin, (Option.some.inj h).symm⟩

lemma admits_of_recover
    (h : (recoverStationAdmin now draw salt username code newPassword raw).result = .ok response) :
    raw.Admits (.recoveryCode (Text.strip code)) := by
  have hsaved : ∃ payload,
      (recoverStationAdmin now draw salt username code newPassword raw).saved = some payload := by
    unfold recoverStationAdmin at h ⊢
    split at h
    · cases h
    · split at h
      · cases h
      · split at h
        · cases h
        · split at h
          · cases h
          · simp_all
  obtain ⟨payload, hsaved⟩ := hsaved
  obtain ⟨recovery, left, admin, hrecovery, hconsume, -, -⟩ := recoverStationAdmin_saved hsaved
  obtain ⟨kitId, hkit, hmem, -⟩ := consumeRecoveryCode_eq_some hconsume
  exact ⟨recovery, kitId, hrecovery, hkit, hmem⟩

/-- A call is let in only by what the copy it loaded honours. -/
lemma Op.admits_of_mem_grants {op : Op} {g : Grant} (h : g ∈ op.grants casefold now raw) :
    raw.Admits g := by
  cases op with
  | verify drawn token =>
    simp only [Op.grants] at h
    split at h
    · rename_i identity hresult
      obtain ⟨htoken, haccount⟩ := admits_of_verify hresult
      split at h
      · obtain rfl := mem_singleton.mp h
        exact htoken
      · -- a staff session lets its account in as well
        rename_i roles hroles
        rcases mem_cons.mp h with rfl | h
        · exact htoken
        · obtain rfl := mem_singleton.mp h
          exact haccount roles hroles
    · cases h
  | loginStaff draw username password =>
    simp only [Op.grants] at h
    split at h
    · rename_i response hresult
      obtain ⟨haccount, hpassword⟩ := admits_of_loginStaff hresult
      rcases mem_cons.mp h with rfl | h
      · exact haccount
      · obtain rfl := mem_singleton.mp h
        exact hpassword
    · cases h
  | loginAdmin draw username password =>
    simp only [Op.grants] at h
    split at h
    · rename_i response hresult
      obtain rfl := mem_singleton.mp h
      exact admits_of_loginAdmin hresult
    · cases h
  | recover draw salt username code newPassword =>
    simp only [Op.grants] at h
    split at h
    · rename_i response hresult
      obtain rfl := mem_singleton.mp h
      exact admits_of_recover hresult
    · cases h
  | _ => cases h

end Grants

/-! ## What a save changes -/

/-- What a call draws, as grants. -/
def Op.Draws (op : Op) : Grant → Prop
  | .session token => token ∈ op.newTokens
  | .account operatorId | .staffPassword operatorId _ => operatorId ∈ op.newAccounts
  | .adminPassword _ => False
  | .recoveryCode code => code ∈ op.newCodes

lemma Op.Fresh.not_mem {op : Op}
    (h : op.Fresh withdrawn copy) {g : Grant} (hdraws : op.Draws g) : g ∉ withdrawn := by
  cases g with
  | session token => exact (h.tokens token hdraws).2
  | account operatorId => exact (h.accounts operatorId hdraws).2.1
  | staffPassword operatorId password => exact (h.accounts operatorId hdraws).2.2 password
  | adminPassword password => exact hdraws.elim
  | recoveryCode code => exact h.codes.2 code hdraws

/-- What a save lets in was let in by the copy, given back or drawn; it keeps the file proper. -/
structure Op.Saves (op : Op) (copy payload : RawState) : Prop where
  kept : ∀ g, payload.Admits g → copy.Admits g ∨ g ∈ op.restores ∨ op.Draws g
  proper : ∀ withdrawn, op.Fresh withdrawn copy → copy.Proper → payload.Proper

/-- The accounts, the first administrator and the recovery kit are as they were. -/
structure RawState.SamePeople (copy payload : RawState) : Prop where
  staffAccounts : payload.staffAccounts = copy.staffAccounts
  admin : payload.admin = copy.admin
  recovery : payload.recovery = copy.recovery

section Saves

variable {op : Op} {copy payload : RawState}

variable {now : Time} {account : StaffAccount} {salt kitId : Text} {codes : List Text}
  {operatorId : Text} {casefold : Text → Text} {raw : RawState} {other : StaffAccount}
  {newPassword token username : Text} {draw : TokenDraw}

lemma Op.Saves.sessions (hpeople : copy.SamePeople payload)
    (htokens : payload.tokens.Sublist (copy.tokens ++ op.newTokens)) (hone : op.newTokens.Nodup) :
    op.Saves copy payload := by
  obtain ⟨haccounts, hadmin, hrecovery⟩ := hpeople
  constructor
  · intro g hg
    cases g with
    | session token =>
      rcases mem_append.mp (htokens.subset hg) with hold | hnew
      · exact .inl hold
      · exact .inr (.inr hnew)
    | account operatorId | staffPassword operatorId password =>
      left
      simpa only [RawState.Admits, haccounts] using hg
    | adminPassword password =>
      left
      simpa only [RawState.Admits, hadmin] using hg
    | recoveryCode code =>
      left
      simpa only [RawState.Admits, hrecovery] using hg
  · intro withdrawn hfresh hproper
    constructor
    · refine List.Nodup.sublist htokens (nodup_append.mpr ⟨hproper.tokens, hone, ?_⟩)
      rintro token hold other hnew rfl
      exact (hfresh.tokens token hnew).1 hold
    · rw [haccounts]
      exact hproper.accounts
    · rw [hrecovery]
      exact hproper.codes

lemma Op.Saves.settings (hpeople : copy.SamePeople payload)
    (hconsole : payload.console = copy.console) (hone : op.newTokens = []) :
    op.Saves copy payload := by
  refine .sessions hpeople ?_ (by simp [hone])
  rw [RawState.tokens, RawState.entries, hconsole, hone, append_nil]
  exact List.Sublist.refl _

@[simp] lemma tokens_withSessions (raw : RawState) (tokens : List SessionEntry) :
    (raw.withSessions tokens).tokens = tokens.map fun entry => entry.token.secret :=
  rfl

lemma ensureSessionMetadata_token (now : Time) (drawn : Text) (entry : SessionEntry) :
    (ensureSessionMetadata now drawn entry).token = entry.token :=
  rfl

/-- Issuing a session drops the oldest ones and adds the new token at the end. -/
lemma tokens_issueOperatorToken (now : Time) (draw : TokenDraw) (source accountId : Text)
    (raw : RawState) :
    (issueOperatorToken now draw source accountId raw).tokens.Sublist
      (raw.tokens ++ [draw.token]) := by
  have hsub := (drop_sublist
    ((raw.entries ++ [newOperatorTokenEntry now draw source accountId]).length -
      maxOperatorSessions)
    (raw.entries ++ [newOperatorTokenEntry now draw source accountId])).map
      fun entry => entry.token.secret
  rw [map_append] at hsub
  exact hsub

lemma tokens_revokeStaffAccountSessions (operatorId : Text) (raw : RawState) :
    (revokeStaffAccountSessions operatorId raw).tokens =
      (raw.entries.filter fun entry => entry.accountId ≠ some operatorId).map fun entry =>
        entry.token.secret := by
  simp only [revokeStaffAccountSessions]
  split
  · rename_i hlength
    rw [RawState.tokens, filter_eq_self.mpr]
    exact fun entry hentry => length_filter_eq_length_iff.mp hlength entry hentry
  · rfl

lemma samePeople_revokeStaffAccountSessions (operatorId : Text) (raw : RawState) :
    raw.SamePeople (revokeStaffAccountSessions operatorId raw) := by
  simp only [revokeStaffAccountSessions]
  split
  · exact ⟨rfl, rfl, rfl⟩
  · exact ⟨rfl, rfl, rfl⟩

section Replace

variable {α : Type} {p : α → Prop} [DecidablePred p] {a b : α} {l : List α}

lemma mem_replaceF (h : b ∈ l.replaceF fun other => if p other then some a else none) :
    b = a ∨ b ∈ l := by
  induction l with
  | nil => cases h
  | cons first rest ih =>
    by_cases hp : p first
    · simp only [replaceF, hp, if_true, mem_cons] at h
      exact h.imp id (mem_cons_of_mem _)
    · simp only [replaceF, hp, if_false, mem_cons] at h
      rcases h with rfl | h
      · exact .inr mem_cons_self
      · exact (ih h).imp id (mem_cons_of_mem _)

lemma mem_replaceF_self (h : ∃ b ∈ l, p b) :
    a ∈ l.replaceF fun other => if p other then some a else none := by
  obtain ⟨b, hb, hp⟩ := h
  induction l with
  | nil => cases hb
  | cons first rest ih =>
    by_cases hfirst : p first
    · simp [replaceF, hfirst]
    · rcases mem_cons.mp hb with rfl | hrest
      · exact absurd hp hfirst
      · simp only [replaceF, hfirst, if_false, mem_cons]
        exact .inr (ih hrest)

lemma map_replaceF {β : Type} {f : α → β} (hf : ∀ b ∈ l, p b → f a = f b) :
    (l.replaceF fun other => if p other then some a else none).map f = l.map f := by
  induction l with
  | nil => rfl
  | cons first rest ih =>
    by_cases hp : p first
    · simp [replaceF, hp, hf first mem_cons_self hp]
    · have hrest := ih fun other hother => hf other (mem_cons_of_mem _ hother)
      simp [replaceF, hp, hrest]

end Replace

lemma operatorIds_withAccount (raw : RawState) (account : StaffAccount) :
    (raw.withAccount account).staffAccounts.map StaffAccount.operatorId =
      raw.staffAccounts.map StaffAccount.operatorId :=
  map_replaceF fun _ _ h => h.symm

lemma mem_withAccount (h : other ∈ (raw.withAccount account).staffAccounts) :
    other = account ∨ other ∈ raw.staffAccounts :=
  mem_replaceF h

/-- Where ids are not repeated, the account written is the only one under its id. -/
lemma eq_of_mem_withAccount
    (hproper : raw.Proper) (hthere : ∃ old ∈ raw.staffAccounts, old.operatorId = account.operatorId)
    (h : other ∈ (raw.withAccount account).staffAccounts)
    (hid : other.operatorId = account.operatorId) : other = account := by
  have hnodup := hproper.accounts
  rw [← operatorIds_withAccount raw account] at hnodup
  exact inj_on_of_nodup_map hnodup h (mem_replaceF_self hthere) hid

/-- The sessions of an account go when the account is rewritten. -/
def rewritten (account : StaffAccount) (revokes : Bool) (raw : RawState) : RawState :=
  if revokes then revokeStaffAccountSessions account.operatorId (raw.withAccount account)
  else raw.withAccount account

lemma staffAccounts_rewritten (account : StaffAccount) (revokes : Bool) (raw : RawState) :
    (rewritten account revokes raw).staffAccounts = (raw.withAccount account).staffAccounts := by
  cases revokes with
  | false => rfl
  | true => exact (samePeople_revokeStaffAccountSessions _ _).staffAccounts

lemma tokens_rewritten (account : StaffAccount) (revokes : Bool) (raw : RawState) :
    (rewritten account revokes raw).tokens.Sublist raw.tokens := by
  cases revokes with
  | false => exact List.Sublist.refl _
  | true =>
    simp only [rewritten, if_true]
    rw [tokens_revokeStaffAccountSessions]
    exact filter_sublist.map _

lemma Op.Saves.rewritten {old : StaffAccount} {revokes : Bool}
    (hold : old ∈ copy.staffAccounts) (hid : old.operatorId = account.operatorId)
    (henabled : account.enabled = true →
      old.enabled = true ∨ .account account.operatorId ∈ op.restores)
    (hpassword : old.password.secret = account.password.secret ∨
      .staffPassword account.operatorId account.password.secret ∈ op.restores) :
    op.Saves copy (Station.rewritten account revokes copy) := by
  have haccounts := staffAccounts_rewritten account revokes copy
  have htokens := tokens_rewritten account revokes copy
  have hpeople : (Station.rewritten account revokes copy).admin = copy.admin ∧
      (Station.rewritten account revokes copy).recovery = copy.recovery := by
    cases revokes with
    | false => exact ⟨rfl, rfl⟩
    | true =>
      have hsame := samePeople_revokeStaffAccountSessions account.operatorId
        (copy.withAccount account)
      exact ⟨hsame.admin, hsame.recovery⟩
  constructor
  · intro g hg
    cases g with
    | session token => exact .inl (htokens.subset hg)
    | account operatorId =>
      -- of the accounts only the one that is written may be let in anew
      obtain ⟨other, hother, rfl, hon⟩ := hg
      rcases mem_withAccount (haccounts ▸ hother) with rfl | hother
      · rcases henabled hon with hon | hrestored
        · exact .inl ⟨old, hold, hid, hon⟩
        · exact .inr (.inl hrestored)
      · exact .inl ⟨other, hother, rfl, hon⟩
    | staffPassword operatorId password =>
      obtain ⟨other, hother, rfl, rfl⟩ := hg
      rcases mem_withAccount (haccounts ▸ hother) with rfl | hother
      · rcases hpassword with hsame | hrestored
        · exact .inl ⟨old, hold, hid, hsame⟩
        · exact .inr (.inl hrestored)
      · exact .inl ⟨other, hother, rfl, rfl⟩
    | adminPassword password =>
      left
      simpa only [RawState.Admits, hpeople.1] using hg
    | recoveryCode code =>
      left
      simpa only [RawState.Admits, hpeople.2] using hg
  · intro withdrawn _ hproper
    constructor
    · exact hproper.tokens.sublist htokens
    · rw [haccounts, operatorIds_withAccount]
      exact hproper.accounts
    · rw [hpeople.2]
      exact hproper.codes

lemma updateStaffAccount_saved {request : StaffAccountUpdate}
    (h : (updateStaffAccount operatorId request copy).saved = some payload) :
    ∃ old account, findStaffAccount copy operatorId = some old ∧
      account.operatorId = operatorId ∧ account.password = old.password ∧
      account.enabled = request.enabled.getD old.enabled ∧
      payload = rewritten account
        (request.roles.getD old.roles ≠ old.roles ∨ request.enabled.getD old.enabled ≠ old.enabled)
        copy := by
  simp only [updateStaffAccount] at h
  split at h
  · cases h
  · split at h
    · cases h
    · rename_i old hfind
      obtain rfl := (mem_of_findStaffAccount hfind).2
      refine ⟨old,
        { old with
          displayName := (request.displayName.map Text.strip).getD old.displayName
          roles := request.roles.getD old.roles
          enabled := request.enabled.getD old.enabled }, hfind, rfl, rfl, rfl, ?_⟩
      split at h
      · cases h
      · split at h
        · cases h
        · split at h
          · -- a change of roles or of access ends the sessions of the account
            rename_i hchanged
            rw [rewritten, if_pos (by simpa using hchanged)]
            exact (Option.some.inj h).symm
          · rename_i hchanged
            rw [rewritten, if_neg (by simpa using hchanged)]
            exact (Option.some.inj h).symm

lemma resetStaffAccountPassword_saved
    (h : (resetStaffAccountPassword operatorId salt newPassword copy).saved = some payload) :
    ∃ old account, findStaffAccount copy operatorId = some old ∧
      account.operatorId = operatorId ∧ account.password = ⟨salt, newPassword⟩ ∧
      account.enabled = old.enabled ∧ payload = rewritten account true copy := by
  simp only [resetStaffAccountPassword] at h
  split at h
  · cases h
  · rename_i old hfind
    obtain rfl := (mem_of_findStaffAccount hfind).2
    refine ⟨old, { old with password := ⟨salt, newPassword⟩ }, hfind, rfl, rfl, rfl, ?_⟩
    rw [rewritten, if_pos rfl]
    exact (Option.some.inj h).symm

lemma verifyStationOperatorToken_saved {drawn : Text}
    (h : (verifyStationOperatorToken now drawn token copy).saved = some payload) :
    copy.SamePeople payload ∧ payload.tokens = copy.tokens := by
  unfold verifyStationOperatorToken at h
  split at h
  · rename_i console entry _ hfind
    dsimp only at h
    split at h
    · cases h
    · cases h
      refine ⟨⟨rfl, rfl, rfl⟩, ?_⟩
      have hsecret : entry.token.secret = token := by simpa using find?_some hfind
      show map (fun entry : SessionEntry => entry.token.secret) (copy.entries.replaceF _) = _
      refine map_replaceF fun other _ hmatch => ?_
      rw [ensureSessionMetadata_token, hsecret]
      exact (Digest.matches_iff.mp hmatch).symm
  · cases h

lemma recover_saves {code : Text}
    (h : (recoverStationAdmin now draw salt username code newPassword copy).saved = some payload) :
    (Op.recover draw salt username code newPassword).Saves copy payload := by
  obtain ⟨recovery, left, admin, hrecovery, hconsume, hadmin, rfl⟩ := recoverStationAdmin_saved h
  obtain ⟨kitId, hkit, hmem, rfl⟩ := consumeRecoveryCode_eq_some hconsume
  have htokens := tokens_issueOperatorToken now draw recoveryText firstAdmin
    { copy with
      recovery := some { recovery with
        codeHashes := recovery.codeHashes.erase ⟨kitId, Text.strip code⟩ }
      admin := some { admin with password := ⟨salt, newPassword⟩ } }
  constructor
  · intro g hg
    cases g with
    | session token =>
      rcases mem_append.mp (htokens.subset hg) with hold | hnew
      · exact .inl hold
      · exact .inr (.inr hnew)
    | account operatorId | staffPassword operatorId password => exact .inl hg
    | adminPassword password =>
      obtain ⟨_, ⟨⟩, rfl⟩ := hg
      exact .inr (.inl mem_cons_self)
    | recoveryCode other =>
      obtain ⟨_, otherKit, ⟨⟩, hother, hcode⟩ := hg
      exact .inl ⟨recovery, otherKit, hrecovery, hother, mem_of_mem_erase hcode⟩
  · -- nothing drawn was there before
    intro withdrawn hfresh hproper
    constructor
    · refine List.Nodup.sublist htokens (nodup_append.mpr ⟨hproper.tokens, nodup_singleton _, ?_⟩)
      rintro token hold other hnew rfl
      exact (hfresh.tokens token hnew).1 hold
    · exact hproper.accounts
    · rintro _ ⟨⟩
      exact (hproper.codes recovery hrecovery).erase _

/-- A new kit lets in the codes it was made of, and no others. -/
lemma mem_codes_of_kit {otherKit other : Text} (hkit : some kitId = some otherKit)
    (h : (⟨otherKit, other⟩ : Digest) ∈ codes.map fun code => ⟨kitId, code⟩) : other ∈ codes := by
  obtain ⟨code, hcode, heq⟩ := mem_map.mp h
  cases heq
  exact hcode

lemma nodup_kit (h : codes.Nodup) : (codes.map fun code => (⟨kitId, code⟩ : Digest)).Nodup :=
  h.map fun _ _ heq => by
    cases heq
    rfl

lemma setup_saves {request : FirstAdminSetup}
    (h : (completeFirstAdminSetup now draw salt kitId codes request copy).saved = some payload) :
    (Op.setup draw salt kitId codes request).Saves copy payload := by
  unfold completeFirstAdminSetup at h
  split at h
  · cases h
  · cases h
    constructor
    · intro g hg
      cases g with
      | session token => exact .inr (.inr hg)
      | account operatorId | staffPassword operatorId password =>
        obtain ⟨_, hmem, -⟩ := hg
        cases hmem
      | adminPassword password =>
        obtain ⟨_, ⟨⟩, rfl⟩ := hg
        exact .inr (.inl mem_cons_self)
      | recoveryCode code =>
        obtain ⟨_, otherKit, ⟨⟩, hkit, hcode⟩ := hg
        exact .inr (.inr (mem_codes_of_kit hkit hcode))
    · intro withdrawn hfresh _
      constructor
      · exact nodup_singleton _
      · exact nodup_nil
      · rintro _ ⟨⟩
        exact nodup_kit hfresh.codes.1

lemma regenerateKit_saves (h : (regenerateRecoveryKit kitId codes copy).saved = some payload) :
    (Op.regenerateKit kitId codes).Saves copy payload := by
  unfold regenerateRecoveryKit at h
  split at h
  · cases h
  · split at h
    · cases h
      constructor
      · intro g hg
        cases g with
        | recoveryCode code =>
          obtain ⟨_, otherKit, ⟨⟩, hkit, hcode⟩ := hg
          exact .inr (.inr (mem_codes_of_kit hkit hcode))
        | _ => exact .inl hg
      · intro withdrawn hfresh hproper
        refine ⟨hproper.tokens, hproper.accounts, ?_⟩
        rintro _ ⟨⟩
        exact nodup_kit hfresh.codes.1
    · cases h

lemma createAccount_saves {displayName password : Text} {roles : Finset OperatorRole}
    (h : (createStaffAccount casefold operatorId salt username displayName password roles
      copy).saved = some payload) :
    (Op.createAccount operatorId salt username displayName password roles).Saves copy payload := by
  simp only [createStaffAccount] at h
  split at h
  · cases h
  · split at h
    · cases h
    · split at h
      · cases h
      · cases h
        constructor
        · intro g hg
          cases g with
          | account other =>
            obtain ⟨account, hmem, rfl, hon⟩ := hg
            rcases mem_append.mp hmem with hold | hnew
            · exact .inl ⟨account, hold, rfl, hon⟩
            · obtain rfl := mem_singleton.mp hnew
              exact .inr (.inr mem_cons_self)
          | staffPassword other password =>
            obtain ⟨account, hmem, rfl, rfl⟩ := hg
            rcases mem_append.mp hmem with hold | hnew
            · exact .inl ⟨account, hold, rfl, rfl⟩
            · obtain rfl := mem_singleton.mp hnew
              exact .inr (.inr mem_cons_self)
          | _ => exact .inl hg
        · intro withdrawn hfresh hproper
          refine ⟨hproper.tokens, ?_, hproper.codes⟩
          rw [map_append, nodup_append]
          refine ⟨hproper.accounts, nodup_singleton _, ?_⟩
          -- the id is new
          rintro other hold _ hnew rfl
          obtain rfl := mem_singleton.mp hnew
          obtain ⟨account, hmem, hid⟩ := mem_map.mp hold
          exact (hfresh.accounts other mem_cons_self).1 account hmem hid

lemma acknowledgeKit_saves (h : (acknowledgeRecoveryKit copy).saved = some payload) :
    Op.acknowledgeKit.Saves copy payload := by
  unfold acknowledgeRecoveryKit at h
  split at h
  · cases h
    cases hrecovery : copy.recovery with
    | none =>
      constructor
      · intro g hg
        cases g with
        | recoveryCode code =>
          obtain ⟨_, otherKit, ⟨⟩, hkit, hcode⟩ := hg
          cases hcode
        | _ => exact .inl hg
      · intro withdrawn _ hproper
        refine ⟨hproper.tokens, hproper.accounts, ?_⟩
        rintro _ ⟨⟩
        exact nodup_nil
    | some recovery =>
      constructor
      · intro g hg
        cases g with
        | recoveryCode code =>
          obtain ⟨_, otherKit, ⟨⟩, hkit, hcode⟩ := hg
          exact .inl ⟨recovery, otherKit, hrecovery, hkit, hcode⟩
        | _ => exact .inl hg
      · intro withdrawn _ hproper
        refine ⟨hproper.tokens, hproper.accounts, ?_⟩
        rintro _ ⟨⟩
        exact hproper.codes recovery hrecovery
  · cases h

lemma Op.saves_of_saved
    (h : op.saved casefold now copy = some payload) : op.Saves copy payload := by
  cases op with
  | verify drawn token =>
    obtain ⟨hpeople, htokens⟩ := verifyStationOperatorToken_saved h
    refine .sessions hpeople ?_ nodup_nil
    rw [htokens]
    exact sublist_append_left _ _
  | listSessions drawn =>
    simp only [Op.saved, listOperatorSessions] at h
    split at h
    · cases h
    · cases h
      refine .sessions ⟨rfl, rfl, rfl⟩ ?_ nodup_nil
      show List.Sublist (map _ (map _ _)) _
      rw [map_map]
      exact sublist_append_left _ _
  | revokeById drawn sessionId =>
    simp only [Op.saved, revokeOperatorSessionById] at h
    split at h
    · cases h
    · cases h
      refine .sessions ⟨rfl, rfl, rfl⟩ ?_ nodup_nil
      rw [tokens_withSessions]
      refine (filter_sublist.map _).trans ?_
      rw [map_map]
      exact sublist_append_left _ _
  | revokeOthers token =>
    simp only [Op.saved, revokeOtherOperatorSessions] at h
    split at h
    · cases h
    · split at h
      · cases h
      · rename_i caller hfind
        cases h
        refine .sessions ⟨rfl, rfl, rfl⟩ ?_ nodup_nil
        rw [tokens_withSessions]
        have hone : List.Sublist [caller] copy.entries :=
          singleton_sublist.mpr (mem_of_find?_eq_some hfind)
        exact (hone.map _).trans (sublist_append_left _ _)
  | revoke token =>
    simp only [Op.saved, revokeOperatorSession] at h
    split at h
    · cases h
    · split at h
      · cases h
      · cases h
        refine .sessions ⟨rfl, rfl, rfl⟩ ?_ nodup_nil
        rw [tokens_withSessions]
        exact (filter_sublist.map _).trans (sublist_append_left _ _)
  | loginStaff draw username password =>
    simp only [Op.saved, loginStaffAccount] at h
    split at h
    · cases h
    · split at h
      · cases h
      · cases h
        exact .sessions ⟨rfl, rfl, rfl⟩ (tokens_issueOperatorToken _ _ _ _ _) (nodup_singleton _)
  | loginAdmin draw username password =>
    simp only [Op.saved, loginStationAdmin] at h
    split at h
    · cases h
    · split at h
      · cases h
        exact .sessions ⟨rfl, rfl, rfl⟩ (tokens_issueOperatorToken _ _ _ _ _) (nodup_singleton _)
      · cases h
  | recover draw salt username code newPassword => exact recover_saves h
  | createAccount operatorId salt username displayName password roles =>
    exact createAccount_saves h
  | updateAccount operatorId request =>
    obtain ⟨old, account, hfind, rfl, hpassword, henabled, rfl⟩ := updateStaffAccount_saved h
    obtain ⟨hold, hid⟩ := mem_of_findStaffAccount hfind
    refine .rewritten hold hid (fun hon => ?_) (.inl (by rw [hpassword]))
    -- an account that is enabled now was, or the request enables it
    rw [henabled] at hon
    cases hrequest : request.enabled with
    | none => exact .inl (by simpa [hrequest] using hon)
    | some enabled =>
      obtain rfl : enabled = true := by simpa [hrequest] using hon
      exact .inr (by simp [Op.restores, hrequest])
  | resetPassword operatorId salt newPassword =>
    obtain ⟨old, account, hfind, rfl, hpassword, henabled, rfl⟩ := resetStaffAccountPassword_saved h
    obtain ⟨hold, hid⟩ := mem_of_findStaffAccount hfind
    refine .rewritten hold hid (fun hon => .inl (henabled ▸ hon)) (.inr ?_)
    rw [hpassword]
    exact mem_cons_self
  | setup draw salt kitId codes request => exact setup_saves h
  | regenerateKit kitId codes => exact regenerateKit_saves h
  | acknowledgeKit => exact acknowledgeKit_saves h
  | updateProfile update =>
    simp only [Op.saved, updateStationProfileFields] at h
    split at h
    · cases h
    · split at h
      · cases h
        exact .settings ⟨rfl, rfl, rfl⟩ rfl rfl
      · cases h
  | saveCommissioning state | resetCommissioning | saveAiModels seed =>
    cases h
    exact .settings ⟨rfl, rfl, rfl⟩ rfl rfl

/-! ## What a save withdraws -/

lemma not_mem_of_filter_tokens {entries : List SessionEntry} {p : SessionEntry → Bool}
    (hnodup : (entries.map fun entry => entry.token.secret).Nodup) {entry : SessionEntry}
    (hentry : entry ∈ entries) (hp : p entry = false) :
    entry.token.secret ∉ (entries.filter p).map fun entry => entry.token.secret := by
  intro hmem
  obtain ⟨other, hother, hsame⟩ := mem_map.mp hmem
  obtain ⟨hmem, hkept⟩ := mem_filter.mp hother
  obtain rfl := inj_on_of_nodup_map hnodup hmem hentry hsame
  rw [hp] at hkept
  cases hkept

lemma tokensOf_gone (hproper : copy.Proper) (h : token ∈ copy.tokensOf account.operatorId) :
    token ∉ (rewritten account true copy).tokens := by
  obtain ⟨entry, hentry, rfl⟩ := mem_map.mp h
  obtain ⟨hmem, hid⟩ := mem_filter.mp hentry
  simp only [rewritten, if_true]
  rw [tokens_revokeStaffAccountSessions]
  exact not_mem_of_filter_tokens hproper.tokens hmem (by simpa using hid)

lemma Op.gone_of_saved (h : op.saved casefold now copy = some payload) (hproper : copy.Proper)
    {g : Grant} (hg : g ∈ op.withdraws now copy) : ¬ payload.Admits g := by
  cases op with
  | revokeById drawn sessionId =>
    simp only [Op.saved, revokeOperatorSessionById] at h
    split at h
    · cases h
    · cases h
      obtain ⟨entry, hentry, rfl⟩ := mem_map.mp hg
      obtain ⟨hmem, hid⟩ := mem_filter.mp hentry
      show entry.token.secret ∉ (RawState.withSessions _ _).tokens
      rw [tokens_withSessions]
      -- the entries are compared after their metadata is filled in; the tokens are the same
      intro hkept
      obtain ⟨other, hother, hsame⟩ := mem_map.mp hkept
      obtain ⟨hensured, hne⟩ := mem_filter.mp hother
      obtain ⟨original, horiginal, rfl⟩ := mem_map.mp hensured
      obtain rfl := inj_on_of_nodup_map hproper.tokens horiginal hmem hsame
      simp only [decide_eq_true_eq] at hid hne
      exact hne hid
  | revokeOthers token =>
    simp only [Op.saved, revokeOtherOperatorSessions] at h
    split at h
    · cases h
    · split at h
      · cases h
      · rename_i caller hfind
        cases h
        obtain ⟨other, hother, rfl⟩ := mem_map.mp hg
        obtain ⟨-, hne⟩ := mem_filter.mp hother
        have hcaller : caller.token.secret = token := by simpa using find?_some hfind
        show other ∉ (RawState.withSessions _ _).tokens
        rw [tokens_withSessions, map_singleton, mem_singleton, hcaller]
        simpa using hne
  | revoke token =>
    simp only [Op.saved, revokeOperatorSession] at h
    split at h
    · cases h
    · split at h
      · cases h
      · cases h
        obtain rfl := mem_singleton.mp hg
        show token ∉ (RawState.withSessions _ _).tokens
        rw [tokens_withSessions]
        intro hkept
        obtain ⟨entry, hentry, hsecret⟩ := mem_map.mp hkept
        have hno := (mem_filter.mp hentry).2
        rw [Digest.matches_iff.mpr hsecret] at hno
        cases hno
  | recover draw salt username code newPassword =>
    obtain ⟨recovery, left, admin, hrecovery, hconsume, hadmin, rfl⟩ := recoverStationAdmin_saved h
    obtain ⟨kitId, hkit, -, rfl⟩ := consumeRecoveryCode_eq_some hconsume
    rcases mem_cons.mp hg with rfl | hg
    · rintro ⟨_, otherKit, ⟨⟩, hother, hcode⟩
      obtain rfl : kitId = otherKit := Option.some.inj (hkit.symm.trans hother)
      exact (hproper.codes recovery hrecovery).not_mem_erase hcode
    · obtain ⟨old, hold, rfl⟩ := mem_map.mp hg
      obtain ⟨-, hne⟩ := mem_filter.mp hold
      rintro ⟨_, ⟨⟩, hsame⟩
      simp only [decide_eq_true_eq] at hne
      exact hne hsame.symm
  | updateAccount operatorId request =>
    obtain ⟨old, account, hfind, rfl, hpassword, henabled, rfl⟩ := updateStaffAccount_saved h
    obtain ⟨hold, hid⟩ := mem_of_findStaffAccount hfind
    simp only [Op.withdraws, hfind] at hg
    rcases mem_append.mp hg with hg | hg
    · split at hg
      · cases hg
      · rename_i hdisabled
        obtain rfl := mem_singleton.mp hg
        rintro ⟨other, hother, hsame, hon⟩
        rw [staffAccounts_rewritten] at hother
        obtain rfl := eq_of_mem_withAccount hproper ⟨old, hold, hid⟩ hother hsame
        rw [henabled] at hon
        exact hdisabled hon
    · split at hg
      · rename_i hchanged
        obtain ⟨token, htoken, rfl⟩ := mem_map.mp hg
        rw [decide_eq_true hchanged]
        exact tokensOf_gone hproper htoken
      · cases hg
  | resetPassword operatorId salt newPassword =>
    obtain ⟨old, account, hfind, rfl, hpassword, -, rfl⟩ := resetStaffAccountPassword_saved h
    obtain ⟨hold, hid⟩ := mem_of_findStaffAccount hfind
    simp only [Op.withdraws, hfind] at hg
    rcases mem_append.mp hg with hg | hg
    · split at hg
      · cases hg
      · rename_i hne
        obtain rfl := mem_singleton.mp hg
        rintro ⟨other, hother, hsame, hsecret⟩
        rw [staffAccounts_rewritten] at hother
        obtain rfl := eq_of_mem_withAccount hproper ⟨old, hold, hid⟩ hother hsame
        rw [hpassword] at hsecret
        exact hne hsecret.symm
    · obtain ⟨token, htoken, rfl⟩ := mem_map.mp hg
      exact tokensOf_gone hproper htoken
  | _ => cases hg

lemma Op.withdraws_of_unlocked (h : op.locked = false) : op.withdraws now copy = [] := by
  cases op <;> first | rfl | cases h

end Saves

/-! ## Every interleaving -/

namespace Config

variable {T : Type} [DecidableEq T] {casefold : Text → Text} {c c₀ : Config T} {t : T}
  {call other : Call}

/-- The file honours nothing that is withdrawn, and neither does a copy that is no older than
the last withdrawal; such is the copy of the call that holds the lock. -/
structure Inv (c : Config T) : Prop where
  proper : c.file.Proper
  honours : ∀ g ∈ c.withdrawn, ¬ c.file.Admits g
  copies : ∀ t call, c.calls t = some call → call.copy.Proper ∧ call.seen ≤ c.withdrawals
  current : ∀ t call, c.calls t = some call → call.seen = c.withdrawals →
    ∀ g ∈ c.withdrawn, ¬ call.copy.Admits g
  lock : ∀ t call, c.calls t = some call → call.op.locked = true →
    c.holder = some t ∧ call.seen = c.withdrawals

omit [DecidableEq T] in
lemma inv_initial {file : RawState} (h : file.Proper) : (initial file : Config T).Inv := by
  have hidle : ∀ t call, (initial file : Config T).calls t ≠ some call := by
    intro t call hcall
    cases hcall
  constructor
  · exact h
  · intro g hg
    cases hg
  · intro t call hcall
    exact absurd hcall (hidle t call)
  · intro t call hcall
    exact absurd hcall (hidle t call)
  · intro t call hcall
    exact absurd hcall (hidle t call)

lemma Inv.load (h : c.Inv) {op : Op} (hlock : op.locked = true → c.holder = none) :
    (c.load t op).Inv := by
  have hcases : ∀ s call, (c.load t op).calls s = some call →
      s = t ∧ call = ⟨op, c.file, c.withdrawals⟩ ∨ s ≠ t ∧ c.calls s = some call := by
    intro s call hcall
    by_cases hs : s = t
    · subst hs
      simp only [Config.load, update_self] at hcall
      exact .inl ⟨rfl, (Option.some.inj hcall).symm⟩
    · simp only [Config.load, update_of_ne hs] at hcall
      exact .inr ⟨hs, hcall⟩
  constructor
  · exact h.proper
  · exact h.honours
  · intro s call hcall
    rcases hcases s call hcall with ⟨-, rfl⟩ | ⟨-, hcall⟩
    · exact ⟨h.proper, le_rfl⟩
    · exact h.copies s call hcall
  · intro s call hcall hseen
    rcases hcases s call hcall with ⟨-, rfl⟩ | ⟨-, hcall⟩
    · exact h.honours
    · exact h.current s call hcall hseen
  · intro s call hcall hlocked
    rcases hcases s call hcall with ⟨rfl, rfl⟩ | ⟨-, hcall⟩
    · refine ⟨?_, rfl⟩
      simp only [Config.load]
      rw [if_pos hlocked]
    · obtain ⟨hholder, hseen⟩ := h.lock s call hcall hlocked
      refine ⟨?_, hseen⟩
      simp only [Config.load]
      split
      · -- the lock is not free while another call holds it
        rename_i hop
        rw [hlock hop] at hholder
        cases hholder
      · exact hholder

lemma calls_finish {s : T} {now : Time} (h : (c.finish casefold t call now).calls s = some other) :
    s ≠ t ∧ c.calls s = some other := by
  have hcalls : (c.finish casefold t call now).calls = update c.calls t none := by
    unfold Config.finish
    dsimp only
    split
    · rfl
    · rfl
  rw [hcalls] at h
  by_cases hs : s = t
  · subst hs
    rw [update_self] at h
    cases h
  · rw [update_of_ne hs] at h
    exact ⟨hs, h⟩

/-- A call that does not hold the lock leaves it, and whoever ends while another call holds the
lock does not. -/
lemma holder_finish (h : c.Inv) {s : T} (now : Time) (hcall : c.calls t = some call) (hs : s ≠ t)
    (hother : c.calls s = some other) (hlocked : other.op.locked = true) :
    call.op.locked = false ∧ (c.finish casefold t call now).holder = some s := by
  have hholder := (h.lock s other hother hlocked).1
  have hunlocked : call.op.locked = false := by
    cases hop : call.op.locked with
    | false => rfl
    | true =>
      have hmine := (h.lock t call hcall hop).1
      rw [hholder] at hmine
      exact absurd (Option.some.inj hmine) hs
  refine ⟨hunlocked, ?_⟩
  unfold Config.finish
  dsimp only
  split
  · simpa [hunlocked] using hholder
  · simpa [hunlocked] using hholder

lemma Inv.finish (h : c.Inv) {now : Time} (hcall : c.calls t = some call)
    (hfresh : call.op.Fresh c.withdrawn call.copy)
    (hcareful : (call.op.saved casefold now call.copy).isSome → c.Current call) :
    (c.finish casefold t call now).Inv := by
  cases hsaved : call.op.saved casefold now call.copy with
  | none =>
    -- nothing is saved: the call is gone and the rest is as it was
    have hfinish : c.finish casefold t call now =
        { c with
          holder := if call.op.locked then none else c.holder
          calls := update c.calls t none } := by
      simp only [Config.finish, hsaved]
    constructor
    · rw [hfinish]
      exact h.proper
    · rw [hfinish]
      exact h.honours
    · intro s other hother
      obtain ⟨-, hother⟩ := calls_finish hother
      rw [hfinish]
      exact h.copies s other hother
    · intro s other hother hseen
      obtain ⟨-, hother⟩ := calls_finish hother
      rw [hfinish] at hseen ⊢
      exact h.current s other hother hseen
    · intro s other hother hlocked
      obtain ⟨hs, hother⟩ := calls_finish hother
      refine ⟨(holder_finish h now hcall hs hother hlocked).2, ?_⟩
      rw [hfinish]
      exact (h.lock s other hother hlocked).2
  | some payload =>
    have hsaves := Op.saves_of_saved hsaved
    have hproper := (h.copies t call hcall).1
    have hseen : call.seen = c.withdrawals := by
      cases hop : call.op.locked with
      | true => exact (h.lock t call hcall hop).2
      | false => exact hcareful (by simp [hsaved]) hop
    have hfinish : c.finish casefold t call now =
        { c with
          holder := if call.op.locked then none else c.holder
          calls := update c.calls t none
          file := payload
          withdrawn := (c.withdrawn.filter fun g => g ∉ call.op.restores) ++
            call.op.withdraws now call.copy
          withdrawals :=
            c.withdrawals + if call.op.withdraws now call.copy = [] then 0 else 1 } := by
      simp only [Config.finish, hsaved]
    constructor
    · rw [hfinish]
      exact hsaves.proper c.withdrawn hfresh hproper
    · rw [hfinish]
      intro g hg
      rcases mem_append.mp hg with hg | hg
      · obtain ⟨hg, hnot⟩ := mem_filter.mp hg
        intro hadmits
        rcases hsaves.kept g hadmits with hold | hrestored | hdrawn
        · exact h.current t call hcall hseen g hg hold
        · simp [hrestored] at hnot
        · exact hfresh.not_mem hdrawn hg
      · exact Op.gone_of_saved hsaved hproper hg
    · intro s other hother
      obtain ⟨-, hother⟩ := calls_finish hother
      obtain ⟨hcopy, hle⟩ := h.copies s other hother
      rw [hfinish]
      exact ⟨hcopy, hle.trans (Nat.le_add_right _ _)⟩
    · intro s other hother hcurrent
      obtain ⟨-, hother⟩ := calls_finish hother
      rw [hfinish] at hcurrent ⊢
      -- a copy that is still current was not overtaken by a withdrawal
      have hnone : call.op.withdraws now call.copy = [] := by
        by_contra hsome
        have hle := (h.copies s other hother).2
        simp only [hsome, if_false] at hcurrent
        omega
      simp only [hnone, if_true, Nat.add_zero, append_nil] at hcurrent ⊢
      intro g hg
      exact h.current s other hother hcurrent g (mem_filter.mp hg).1
    · intro s other hother hlocked
      obtain ⟨hs, hother⟩ := calls_finish hother
      obtain ⟨hunlocked, hholder⟩ := holder_finish h now hcall hs hother hlocked
      refine ⟨hholder, ?_⟩
      rw [hfinish]
      simpa [Op.withdraws_of_unlocked hunlocked] using (h.lock s other hother hlocked).2

lemma Reached.inv (h : Reached casefold Current c₀ c) (h₀ : c₀.Inv) : c.Inv := by
  induction h with
  | start => exact h₀
  | load t op _ _ hlock ih => exact ih.load hlock
  | finish t call now _ hcall hfresh hcareful ih => exact ih.finish hcall hfresh hcareful

/-- In every interleaving in which no operation without the lock saves a copy older than a
withdrawal, no call that loads the file is let in by what is withdrawn then. -/
theorem withdrawn_stays_withdrawn {file : RawState} (hfile : file.Proper)
    (h : Reached casefold Current (initial file) c) (op : Op) (now : Time) {g : Grant}
    (hg : g ∈ c.withdrawn) : g ∉ op.grants casefold now c.file :=
  fun hgrants => (h.inv (inv_initial hfile)).honours g hg (Op.admits_of_mem_grants hgrants)

end Config

/-! ## A profile edit around a revocation -/

lemma Op.fresh_of_draws_nothing {op : Op} (htokens : op.newTokens = [])
    (haccounts : op.newAccounts = []) (hcodes : op.newCodes = []) : op.Fresh withdrawn copy := by
  constructor
  · simp [htokens]
  · simp [haccounts]
  · simp [hcodes]

def lostLaptop : Text := ['t']

/-- A station with one session, that of a laptop that is lost. -/
def signedIn : RawState :=
  { RawState.empty with
    setupComplete := true
    station := some ⟨['S'], ['a'], ['l'], none, ['g'], (['m'], ['r'], ['b']), false, ['k']⟩
    admin := some ⟨['a'], ['A'], ⟨['s'], ['p']⟩⟩
    console := some
      ⟨some [newOperatorTokenEntry 0 ⟨lostLaptop, ['x'], ['i']⟩ login firstAdmin], none⟩ }

def renameStation : Op := .updateProfile ⟨some ['N'], none, none, none, none, none⟩

/-- The edit loads, the session is revoked, the edit saves. -/
def editedOver : Config Bool :=
  let loaded := ((Config.initial signedIn).load true renameStation).load false (.revoke lostLaptop)
  let revoked := loaded.finish id false ⟨.revoke lostLaptop, signedIn, 0⟩ 0
  revoked.finish id true ⟨renameStation, signedIn, 0⟩ 0

/-- The revoked session is let in again. -/
theorem lost_laptop_back :
    Config.Reached id (fun _ _ => True) (Config.initial signedIn) editedOver ∧
      .session lostLaptop ∈ editedOver.withdrawn ∧
      .session lostLaptop ∈ (Op.verify [] lostLaptop).grants id 1 editedOver.file := by
  have hloaded : Config.Reached id (fun _ _ => True) (Config.initial signedIn : Config Bool)
      (((Config.initial signedIn).load true renameStation).load false (.revoke lostLaptop)) :=
    .load false _ (.load true _ .start rfl (nomatch ·)) rfl fun _ => rfl
  refine ⟨?_, by decide, by decide⟩
  refine .finish true _ 0 (.finish false _ 0 hloaded rfl ?_ fun _ => trivial) rfl ?_
    fun _ => trivial
  · exact Op.fresh_of_draws_nothing rfl rfl rfl
  · exact Op.fresh_of_draws_nothing rfl rfl rfl

/-- The edit loads, the revocation loads, the edit saves, and then the revocation. -/
def editedBefore : Config Bool :=
  let loaded := ((Config.initial signedIn).load true renameStation).load false (.revoke lostLaptop)
  let edited := loaded.finish id true ⟨renameStation, signedIn, 0⟩ 0
  edited.finish id false ⟨.revoke lostLaptop, signedIn, 0⟩ 0

/-- Where the edit saves before the revocation, the session stays out. -/
theorem lost_laptop_out :
    .session lostLaptop ∈ editedBefore.withdrawn ∧
      .session lostLaptop ∉ (Op.verify [] lostLaptop).grants id 1 editedBefore.file := by
  have hproper : signedIn.Proper := by
    constructor
    · decide
    · decide
    · intro recovery hrecovery
      cases hrecovery
  have hloaded : Config.Reached id Config.Current (Config.initial signedIn : Config Bool)
      (((Config.initial signedIn).load true renameStation).load false (.revoke lostLaptop)) :=
    .load false _ (.load true _ .start rfl (nomatch ·)) rfl fun _ => rfl
  have hreached : Config.Reached id Config.Current (Config.initial signedIn) editedBefore := by
    refine .finish false _ 0 (.finish true _ 0 hloaded rfl ?_ ?_) rfl ?_ ?_
    · exact Op.fresh_of_draws_nothing rfl rfl rfl
    · exact fun _ _ => rfl
    · exact Op.fresh_of_draws_nothing rfl rfl rfl
    · intro _ hunlocked
      cases hunlocked
  exact ⟨by decide, Config.withdrawn_stays_withdrawn hproper hreached _ 1 (by decide)⟩

end CivicCast.Station
