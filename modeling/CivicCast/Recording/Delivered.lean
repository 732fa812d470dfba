import CivicCast.Lib.Interleave
import CivicCast.Recording.Service

/-! # A delivered recording

A recording can be ended by the tick that finds its window over, by an operator, and by the
drain of a shutdown, all at one time. The pipeline lets one of them take the capture. The
others find it gone, and write the job down as failed: `finalizing` allows that, so that the
one that took the capture and made an asset of it is then refused its last write.

`delivered_kept` is about any number of requests that end recordings in any interleaving: if
no failure is written for the job while a request has its capture or its asset in hand
(`Undisturbed`), a job with an asset is done and carries it, once all requests have ended.
Capture and finalizer succeed for whoever takes the capture (`Succeeds`).

A request has a `Role` in ending the job, which follows from its own calls and their answers,
and each program is checked for its role alone (`ending`). `Stage` says where the job is with
all of their roles.
-/

namespace CivicCast.Recording

open Lib Lib.Prog Function Jobs Option

/-! ## Roles -/

/-- What a request has of the job: nothing, that it is finalizing, that the capture is gone,
the capture, or the asset. -/
inductive Role where
  | idle
  | closing
  | lost
  | took
  | made (assetId : String)
deriving DecidableEq

namespace Role

/-- Neither the capture nor the asset is in hand. -/
def Free : Role → Prop
  | took => False
  | made _ => False
  | _ => True

instance : (role : Role) → Decidable role.Free
  | idle => .isTrue trivial
  | closing => .isTrue trivial
  | lost => .isTrue trivial
  | took => .isFalse id
  | made _ => .isFalse id

variable (id : JobId)

/-- What a request does with the job `id` in its role; what it does with other jobs is free. -/
def Allows (role : Role) : Op → Prop
  | .clock => True
  | .deadlinePassed => True
  | .listJobs _ => True
  | .getJob k => k = id → role.Free
  | .setJobState k state u => k = id →
      (state = .finalizing ∧ role.Free) ∨ (state = .failed ∧ role = .lost) ∨
        (state = .done ∧ ∃ assetId, role = .made assetId ∧ u.assetId = some assetId)
  | .takeCapture k => k = id → role = .closing
  | .mergeCapture _ => True
  | .finalizeToAsset k => k = id → role = .took
  | .stopArming k => k ≠ id
  | _ => False

/-- What it can rely on. -/
def Relies : (o : Op) → Except Failure o.Res → Prop
  | .clock, .error _ => False
  | .getJob k, .ok (some row) => k = id → row.state ≠ .arming
  | .setJobState k .done _, .error _ => k ≠ id
  | .mergeCapture _, .ok (bytes : ℕ) => bytes ≠ 0
  | .mergeCapture k, .error _ => k ≠ id
  | .finalizeToAsset k, .error _ => k ≠ id
  | _, _ => True

def next (role : Role) : (o : Op) → Except Failure o.Res → Role
  | .getJob k, .ok (some row) => if k = id ∧ row.state = .finalizing then .closing else role
  | .setJobState k .finalizing _, .ok _ => if k = id then .closing else role
  | .setJobState k .done _, .ok _ => if k = id then .idle else role
  | .takeCapture k, .ok _ => if k = id then .took else role
  | .takeCapture k, .error _ => if k = id then .lost else role
  | .finalizeToAsset k, .ok assetId => if k = id then .made assetId else role
  | _, _ => role

def contract : Machine recordingIface Role where
  pre := fun role o => role.Allows id o
  legal := fun _ o reply => Relies id o reply
  next := fun role o reply => role.next id o reply

end Role

/-! ## Programs in their roles -/

section Programs

variable {id k : JobId} {role : Role}

/-- A call that a free request can make at any time, and stays free. -/
structure Harmless (id : JobId) (o : Op) : Prop where
  allowed : ∀ role : Role, role.Free → role.Allows id o
  free : ∀ (role : Role) (reply : Except Failure o.Res), role.Free → (role.next id o reply).Free

/-- A program that begins free and ends free. -/
abbrev KeepsFree {α : Type} (id : JobId) (p : RecordingM α) : Prop :=
  p.Keeps (Role.contract id) Role.Free fun _ => True

lemma keepsFree_of_uses {α : Type} {p : RecordingM α}
    (h : p.Uses (Harmless id) fun _ => True) : KeepsFree id p :=
  h.keeps (fun role _ ho hrole => ho.allowed role hrole)
    fun role _ reply ho hrole _ => ho.free role reply hrole

lemma uses_ask {o : Op} (ho : Harmless id o) : (ask o).Uses (Harmless id) fun _ => True := by
  refine ⟨ho, ?_⟩
  rintro (failure | a)
  · exact uses_raise trivial
  · exact uses_pure

lemma harmless_clock : Harmless id .clock := ⟨fun _ _ => trivial, fun _ _ h => h⟩

lemma harmless_deadlinePassed : Harmless id .deadlinePassed := ⟨fun _ _ => trivial, fun _ _ h => h⟩

lemma harmless_listJobs (state : JobState) : Harmless id (.listJobs state) :=
  ⟨fun _ _ => trivial, fun _ _ h => h⟩

lemma harmless_getJob (k : JobId) : Harmless id (.getJob k) := by
  constructor
  · intro role hrole _
    exact hrole
  · rintro role (failure | _ | row) hrole
    · exact hrole
    · exact hrole
    · show (if k = id ∧ row.state = .finalizing then Role.closing else role).Free
      split
      · trivial
      · exact hrole

lemma harmless_other (hk : k ≠ id) :
    (∀ state u, Harmless id (.setJobState k state u)) ∧ Harmless id (.takeCapture k) ∧
      Harmless id (.mergeCapture k) ∧ Harmless id (.finalizeToAsset k) ∧
      Harmless id (.stopArming k) := by
  refine ⟨?_, ⟨fun _ _ h => absurd h hk, ?_⟩, ⟨fun _ _ => trivial, fun _ _ h => h⟩,
    ⟨fun _ _ h => absurd h hk, ?_⟩, ⟨fun _ _ => hk, fun _ _ h => h⟩⟩
  · intro state u
    refine ⟨fun _ _ h => absurd h hk, ?_⟩
    rintro role (failure | row) hrole
    · cases state <;> exact hrole
    · cases state <;> first | exact hrole | (simp only [Role.next, if_neg hk]; exact hrole)
  · rintro role (failure | endedAt) hrole
    · simp only [Role.next, if_neg hk]
      exact hrole
    · simp only [Role.next, if_neg hk]
      exact hrole
  · rintro role (failure | assetId) hrole
    · exact hrole
    · simp only [Role.next, if_neg hk]
      exact hrole

lemma uses_requireJob (k : JobId) : (requireJob k).Uses (Harmless id) fun _ => True := by
  refine uses_bind (uses_ask (harmless_getJob k)) ?_
  rintro (_ | row)
  · exact uses_raise trivial
  · exact uses_pure

section Other

variable (hk : k ≠ id)

include hk

lemma uses_writeFailure {phase : Phase} : (writeFailure k phase).Uses (Harmless id) fun _ => True :=
  uses_bind (uses_ask harmless_clock) fun _ =>
    uses_bind (uses_ask ((harmless_other hk).1 _ _)) fun _ => uses_pure

lemma uses_deliver : (deliver k).Uses (Harmless id) fun _ => True := by
  obtain ⟨-, htake, hmerge, hasset, -⟩ := harmless_other hk
  refine uses_bind (uses_bind (uses_ask htake) fun _ =>
    uses_bind (uses_ask hmerge) fun _ => uses_pure) fun _ => ?_
  exact uses_bind (uses_ask hasset) fun _ => uses_pure

lemma uses_complete {result : CaptureResult} {assetId : String} :
    (complete k result assetId).Uses (Harmless id) fun _ => True :=
  uses_bind (uses_ask harmless_clock) fun _ => uses_ask ((harmless_other hk).1 _ _)

lemma uses_finalizeJob : (finalizeJob k).Uses (Harmless id) fun _ => True := by
  refine uses_bind (uses_requireJob k) fun job => ?_
  refine uses_ite (uses_raise trivial) ?_
  refine uses_bind (uses_ask ((harmless_other hk).1 _ _)) fun _ => ?_
  refine uses_bind (uses_attempt (uses_deliver hk)) ?_
  rintro (failure | ⟨result, assetId⟩)
  · exact uses_bind (uses_writeFailure hk) fun _ => uses_raise trivial
  · exact uses_complete hk

lemma uses_stopFinalizing : (stopFinalizing k).Uses (Harmless id) fun _ => True := by
  refine uses_bind (uses_attempt (uses_deliver hk)) ?_
  rintro (failure | ⟨result, assetId⟩)
  · exact uses_bind (uses_writeFailure hk) fun _ => uses_requireJob k
  · refine uses_ite ?_ (uses_complete hk)
    exact uses_bind (uses_ask harmless_clock) fun _ => uses_ask ((harmless_other hk).1 _ _)

lemma uses_stopPrearmed : (stopPrearmed k).Uses (Harmless id) fun _ => True := by
  obtain ⟨hset, -, -, -, hstop⟩ := harmless_other hk
  refine uses_bind (uses_attempt (uses_ask hstop)) ?_
  rintro (failure | _)
  · exact uses_bind (uses_writeFailure hk) fun _ => uses_raise trivial
  · exact uses_bind (uses_ask harmless_clock) fun _ => uses_ask (hset _ _)

lemma uses_stopJob : (stopJob k).Uses (Harmless id) fun _ => True := by
  refine uses_bind (uses_requireJob k) fun job => ?_
  refine uses_ite (uses_ite (uses_stopPrearmed hk) ?_) (uses_raise trivial)
  exact uses_ite (uses_bind (uses_ask ((harmless_other hk).1 _ _)) fun _ => uses_stopFinalizing hk)
    (uses_stopFinalizing hk)

end Other

/-! For the job itself: the capture is taken or lost, and made an asset of or failed. -/

lemma wp_requireJob (hrole : role.Free) :
    (requireJob id).wp (Role.contract id)
      (fun r role' => role'.Free ∧ ∀ job, r = .ok job → job.state ≠ .arming ∧
        (job.state = .finalizing → role' = .closing)) role := by
  refine ⟨fun _ => hrole, ?_⟩
  rintro (failure | _ | row) hrelies
  · exact ⟨hrole, fun _ h => nomatch h⟩
  · exact ⟨hrole, fun _ h => nomatch h⟩
  · show (if id = id ∧ row.state = .finalizing then Role.closing else role).Free ∧ _
    constructor
    · split
      · trivial
      · exact hrole
    · intro job hjob
      cases hjob
      refine ⟨hrelies rfl, ?_⟩
      intro hstate
      exact if_pos ⟨rfl, hstate⟩

/-- A request that is closing takes the capture and makes an asset, or has lost it. -/
lemma wp_deliver_closing :
    (deliver id).wp (Role.contract id)
      (fun r role' => (∀ e, r = .error e → role' = .lost) ∧
        ∀ result assetId, r = .ok (result, assetId) →
          role' = .made assetId ∧ result.bytesWritten ≠ 0) .closing := by
  refine ⟨fun _ => rfl, ?_⟩
  rintro (failure | endedAt) _
  · refine ⟨fun _ _ => if_pos rfl, ?_⟩
    intro result assetId h
    cases h
  · refine ⟨trivial, ?_⟩
    rintro (failure | bytes) hmerge
    · exact absurd rfl hmerge
    · have htook : Role.next id .closing (.takeCapture id) (.ok endedAt) = .took := if_pos rfl
      show ((ask (.finalizeToAsset id) >>= fun assetId => pure _ : RecordingM _)).wp _ _
        (Role.next id .closing (.takeCapture id) (.ok endedAt))
      rw [htook]
      refine ⟨fun _ => rfl, ?_⟩
      rintro (failure | assetId) hasset
      · exact absurd rfl hasset
      · constructor
        · intro e h
          cases h
        · intro result assetId' h
          cases h
          exact ⟨if_pos rfl, hmerge⟩

lemma wp_complete {result : CaptureResult} {assetId : String} :
    (complete id result assetId).wp (Role.contract id) (fun _ role' => role'.Free)
      (.made assetId) := by
  refine ⟨trivial, ?_⟩
  rintro (failure | now) hclock
  · exact hclock.elim
  · refine ⟨fun _ => .inr (.inr ⟨rfl, assetId, rfl, rfl⟩), ?_⟩
    rintro (failure | row) hwrite
    · exact absurd rfl hwrite
    · show (if id = id then Role.idle else .made assetId).Free
      rw [if_pos rfl]
      trivial

lemma wp_writeFailure {phase : Phase} :
    (writeFailure id phase).wp (Role.contract id) (fun _ role' => role' = .lost) .lost := by
  refine ⟨trivial, ?_⟩
  rintro (failure | now) hclock
  · exact hclock.elim
  · refine ⟨fun _ => .inr (.inl ⟨rfl, rfl⟩), ?_⟩
    rintro (failure | row) _
    · rfl
    · rfl

lemma wp_setFinalizing {u : Jobs.Update} (hrole : role.Free) :
    (ask (.setJobState id .finalizing u)).wp (Role.contract id)
      (fun r role' => role'.Free ∧ ∀ row, r = .ok row → role' = .closing) role := by
  refine ⟨fun _ => .inl ⟨rfl, hrole⟩, ?_⟩
  rintro (failure | row) _
  · exact ⟨hrole, fun _ h => nomatch h⟩
  · have hclosing : Role.next id role (.setJobState id .finalizing u) (.ok row) = .closing :=
      if_pos rfl
    show (Role.next id role (.setJobState id .finalizing u) (.ok row)).Free ∧ _
    rw [hclosing]
    exact ⟨trivial, fun _ _ => hclosing⟩

lemma keepsFree_finalizeJob (k : JobId) : KeepsFree id (finalizeJob k) := by
  by_cases hk : k ≠ id
  · exact keepsFree_of_uses (uses_finalizeJob hk)
  obtain rfl := not_not.mp hk
  refine keeps_iff.mpr ?_
  intro role hrole
  refine wp_seq (wp_requireJob hrole) ?_ fun _ _ h => h.1
  rintro job role₁ ⟨hfree, -⟩
  refine wp_ite (fun _ => hfree) fun _ => ?_
  refine wp_seq (wp_setFinalizing hfree) ?_ fun _ _ h => h.1
  rintro row role₂ ⟨-, hclosing⟩
  obtain rfl := hclosing row rfl
  refine wp_attempt_seq (wp_mono ?_ wp_deliver_closing)
  rintro (failure | ⟨result, assetId⟩) role₃ ⟨hlost, hmade⟩
  · obtain rfl := hlost failure rfl
    refine wp_seq wp_writeFailure ?_ ?_
    · rintro _ _ rfl
      trivial
    · rintro _ _ rfl
      trivial
  · obtain ⟨rfl, -⟩ := hmade result assetId rfl
    exact wp_complete

lemma wp_stopFinalizing :
    (stopFinalizing id).wp (Role.contract id) (fun _ role' => role'.Free) .closing := by
  refine wp_attempt_seq (wp_mono ?_ wp_deliver_closing)
  rintro (failure | ⟨result, assetId⟩) role ⟨hlost, hmade⟩
  · obtain rfl := hlost failure rfl
    refine wp_seq wp_writeFailure ?_ ?_
    · rintro _ _ rfl
      exact wp_mono (fun _ _ h => h.1) (wp_requireJob trivial)
    · rintro _ _ rfl
      trivial
  · obtain ⟨rfl, hbytes⟩ := hmade result assetId rfl
    exact wp_ite (fun hzero => absurd hzero hbytes) fun _ => wp_complete

lemma keepsFree_stopJob {k : JobId} : KeepsFree id (stopJob k) := by
  by_cases hk : k ≠ id
  · exact keepsFree_of_uses (uses_stopJob hk)
  obtain rfl := not_not.mp hk
  refine keeps_iff.mpr ?_
  intro role hrole
  refine wp_seq (wp_requireJob hrole) ?_ fun _ _ h => h.1
  rintro job role₁ ⟨hfree, hjob⟩
  obtain ⟨hnot, hclosing⟩ := hjob job rfl
  refine wp_ite (fun hactive => ?_) fun _ => hfree
  refine wp_ite (fun harming => absurd harming hnot) fun _ => ?_
  -- it is recording, or finalizing by now
  refine wp_ite (fun _ => ?_) fun hrecording => ?_
  · refine wp_seq (wp_setFinalizing hfree) ?_ fun _ _ h => h.1
    rintro row role₂ ⟨-, hclosed⟩
    obtain rfl := hclosed row rfl
    exact wp_stopFinalizing
  · have hstate : job.state = .finalizing := by
      cases hstate : job.state <;> simp_all [JobState.isActive]
    obtain rfl := hclosing hstate
    exact wp_stopFinalizing

lemma keepsFree_ask {o : Op} (ho : Harmless id o) : KeepsFree id (ask o) :=
  keepsFree_of_uses (uses_ask ho)

lemma keepsFree_drainJobs (list : List RecordingJob) : ∀ n, KeepsFree id (drainJobs list n) := by
  induction list with
  | nil => exact fun n => keeps_pure
  | cons job rest ih =>
    intro n
    refine (keepsFree_ask harmless_deadlinePassed).bind fun (passed : Bool) => ?_
    refine .ite (ih _) (keepsFree_stopJob.attempt.bind ?_)
    rintro (failure | stopped)
    · exact ih _
    · exact .ite (ih _) (ih _)

lemma keepsFree_drainInFlight {states : List JobState} :
    ∀ n, KeepsFree id (drainInFlight states n) := by
  induction states with
  | nil => exact fun n => keeps_pure
  | cons state rest ih =>
    intro n
    exact (keepsFree_ask (harmless_listJobs state)).bind fun jobs =>
      (keepsFree_drainJobs jobs n).bind ih

end Programs

/-! ## The job and its requests -/

/-- The calls that end recordings. -/
inductive EndingCall where
  | finalize (jobId : JobId)
  | stop (jobId : JobId)
  | drain

def EndingCall.toServiceCall : EndingCall → ServiceCall
  | finalize jobId => .finalize jobId
  | stop jobId => .stop jobId
  | drain => .drain

lemma keepsFree_requests (id : JobId) {calls : List EndingCall} :
    KeepsFree id (requests (calls.map EndingCall.toServiceCall)) := by
  have hdiscard : ∀ {α : Type} {p : RecordingM α}, KeepsFree id p → KeepsFree id (discard p) :=
    fun hp => hp.attempt.bind fun _ => keeps_pure
  induction calls with
  | nil => exact keeps_pure
  | cons ending rest ih =>
    have hcode : KeepsFree id ending.toServiceCall.code := by
      cases ending with
      | finalize jobId => exact hdiscard (keepsFree_finalizeJob jobId)
      | stop jobId => exact hdiscard keepsFree_stopJob
      | drain => exact hdiscard (keepsFree_drainInFlight {})
    exact hcode.bind fun _ => ih

section Stage

variable (id : JobId)

/-- Whoever gets the capture stops it, merges it and has an asset made of it. -/
def Succeeds (w : World) : (o : Op) → Except Failure o.Res → Prop
  | .takeCapture k, .error _ => k = id → w.active k ≠ some true
  | .mergeCapture k, .error _ => k ≠ id
  | .finalizeToAsset k, .error _ => k ≠ id
  | _, _ => True

def World.succeeding (c : Station) : Machine recordingIface World where
  pre := fun _ _ => True
  legal := fun w o reply => w.Replies c o reply ∧ Succeeds id w o reply
  next := fun w o reply => w.next c o reply

variable {T : Type}

/-- No failure is written for the job while a request has its capture or its asset in hand. -/
def Undisturbed (roles : T → Role) : Op → Prop
  | .setJobState k .failed _ => k = id → ∀ t, (roles t).Free
  | _ => True

/-- Where the job is, with the roles of the requests. -/
inductive Stage (roles : T → Role) (w : World) : Prop where
  | recording {row : RecordingJob} (hget : w.jobs.get id = some row)
      (hstate : row.state = .recording ∨ row.state = .finalizing)
      (hactive : w.active id = some true)
      (hroles : ∀ t, roles t = .idle ∨ (roles t = .closing ∧ row.state = .finalizing))
      (hassets : ∀ assetId, (id, assetId) ∉ w.assets)
  | taken {row : RecordingJob} (t : T) (hget : w.jobs.get id = some row)
      (hstate : row.state = .finalizing) (hactive : w.active id = none) (htook : roles t = .took)
      (hothers : ∀ t', t' ≠ t → (roles t').Free) (hassets : ∀ assetId, (id, assetId) ∉ w.assets)
  | delivering {row : RecordingJob} (t : T) (assetId : String) (hget : w.jobs.get id = some row)
      (hstate : row.state = .finalizing) (hactive : w.active id = none)
      (hmade : roles t = .made assetId) (hothers : ∀ t', t' ≠ t → (roles t').Free)
      (hassets : ∀ assetId', (id, assetId') ∈ w.assets → assetId' = assetId)
  | done {row : RecordingJob} (assetId : String) (hget : w.jobs.get id = some row)
      (hstate : row.state = .done) (hasset : row.assetId = some assetId)
      (hactive : w.active id = none) (hfree : ∀ t, (roles t).Free)
      (hassets : ∀ assetId', (id, assetId') ∈ w.assets → assetId' = assetId)

variable {id} {roles : T → Role} {w w' : World}

variable (h : Stage id roles w)
include h

lemma Stage.frame (hjobs : w'.jobs.get id = w.jobs.get id) (hactive : w'.active id = w.active id)
    (hassets : ∀ assetId, (id, assetId) ∈ w'.assets ↔ (id, assetId) ∈ w.assets) :
    Stage id roles w' := by
  cases h with
  | recording hget hstate hact hroles hnone =>
    exact .recording (hjobs.trans hget) hstate (hactive.trans hact) hroles
      fun assetId hmem => hnone assetId ((hassets assetId).mp hmem)
  | taken t hget hstate hact htook hothers hnone =>
    exact .taken t (hjobs.trans hget) hstate (hactive.trans hact) htook hothers
      fun assetId hmem => hnone assetId ((hassets assetId).mp hmem)
  | delivering t assetId hget hstate hact hmade hothers hone =>
    exact .delivering t assetId (hjobs.trans hget) hstate (hactive.trans hact) hmade hothers
      fun assetId' hmem => hone assetId' ((hassets assetId').mp hmem)
  | done assetId hget hstate hasset hact hfree hone =>
    exact .done assetId (hjobs.trans hget) hstate hasset (hactive.trans hact) hfree
      fun assetId' hmem => hone assetId' ((hassets assetId').mp hmem)

lemma Stage.get :
    ∃ row, w.jobs.get id = some row ∧
      (row.state = .recording ∨ row.state = .finalizing ∨ row.state = .done) := by
  cases h with
  | recording hget hstate => exact ⟨_, hget, hstate.imp (fun h => h) .inl⟩
  | taken t hget hstate | delivering t assetId hget hstate => exact ⟨_, hget, .inr (.inl hstate)⟩
  | done assetId hget hstate => exact ⟨_, hget, .inr (.inr hstate)⟩

lemma Stage.active : w.active id = some true ∨ w.active id = none := by
  cases h with
  | recording hget hstate hactive => exact .inl hactive
  | taken t hget hstate hactive | delivering t assetId hget hstate hactive
  | done assetId hget hstate hasset hactive => exact .inr hactive

variable [DecidableEq T] {t : T} {u : Jobs.Update} {jobs : Jobs}

/-- A free request may take another free role; while the capture is there, only that of one
who knows that the job is finalizing. -/
lemma Stage.relabel {role : Role} (hfree : (roles t).Free)
    (hrole : role.Free)
    (hknown : w.active id = some true →
      role = .closing ∧ ∀ row, w.jobs.get id = some row → row.state = .finalizing) :
    Stage id (update roles t role) w := by
  -- the others stay as free as they were
  have hfrees : ∀ {P : T → Prop}, (∀ t', P t' → (roles t').Free) →
      ∀ t', P t' → (update roles t role t').Free := by
    intro P hP t' ht'
    by_cases heq : t' = t
    · subst heq
      rw [update_self]
      exact hrole
    · rw [update_of_ne heq]
      exact hP t' ht'
  have hholder : ∀ t₀, ¬ (roles t₀).Free → update roles t role t₀ = roles t₀ := by
    intro t₀ hheld
    refine update_of_ne ?_ _ _
    rintro rfl
    exact hheld hfree
  cases h with
  | recording hget hstate hactive hroles hassets =>
    obtain ⟨rfl, hfinalizing⟩ := hknown hactive
    refine .recording hget hstate hactive ?_ hassets
    intro t'
    by_cases heq : t' = t
    · subst heq
      rw [update_self]
      exact .inr ⟨rfl, hfinalizing _ hget⟩
    · rw [update_of_ne heq]
      exact hroles t'
  | taken t₀ hget hstate hactive htook hothers hassets =>
    have hkept := hholder t₀ (by rw [htook]; exact fun h => h)
    exact .taken t₀ hget hstate hactive (hkept.trans htook) (hfrees hothers) hassets
  | delivering t₀ assetId hget hstate hactive hmade hothers hassets =>
    have hkept := hholder t₀ (by rw [hmade]; exact fun h => h)
    exact .delivering t₀ assetId hget hstate hactive (hkept.trans hmade) (hfrees hothers) hassets
  | done assetId hget hstate hasset hactive hall hassets =>
    refine .done assetId hget hstate hasset hactive ?_ hassets
    intro t'
    exact hfrees (P := fun _ => True) (fun t' _ => hall t') t' trivial

lemma Stage.setFinalizing (hfree : (roles t).Free)
    (hset : w.jobs.setJobState id .finalizing u = .ok jobs) :
    Stage id (update roles t .closing) { w with jobs := jobs } := by
  have hsame : Stage id roles { w with jobs := jobs } := by
    cases h with
    | @recording row hget hstate hactive hroles hassets =>
      refine .recording (get_setJobState hget hset).1 (.inr rfl) hactive ?_ hassets
      intro t'
      rcases hroles t' with hidle | ⟨hclosing, -⟩
      · exact .inl hidle
      · exact .inr ⟨hclosing, rfl⟩
    | taken t₀ hget hstate hactive htook hothers hassets =>
      exact .taken t₀ (get_setJobState hget hset).1 rfl hactive htook hothers hassets
    | delivering t₀ assetId hget hstate hactive hmade hothers hassets =>
      exact .delivering t₀ assetId (get_setJobState hget hset).1 rfl hactive hmade hothers hassets
    | done assetId hget hstate =>
      have hallowed := (get_setJobState hget hset).2
      rw [hstate] at hallowed
      exact absurd hallowed (by decide)
  obtain ⟨row, hget, -⟩ := h.get
  refine hsame.relabel hfree trivial ?_
  intro _
  refine ⟨rfl, ?_⟩
  intro row' hget'
  have hrow : some row' = some (u.apply .finalizing row) :=
    hget'.symm.trans (get_setJobState hget hset).1
  cases hrow
  rfl

omit [DecidableEq T] in
/-- A request that has the capture or the asset in hand is alone with it. -/
lemma Stage.of_held (hheld : ¬ (roles t).Free) :
    ∃ row, w.jobs.get id = some row ∧ row.state = .finalizing ∧ w.active id = none ∧
      (∀ t', t' ≠ t → (roles t').Free) ∧
      ((roles t = .took ∧ ∀ assetId, (id, assetId) ∉ w.assets) ∨
        ∃ assetId, roles t = .made assetId ∧
          ∀ assetId', (id, assetId') ∈ w.assets → assetId' = assetId) := by
  cases h with
  | recording hget hstate hactive hroles =>
    refine absurd ?_ hheld
    rcases hroles t with hidle | ⟨hclosing, -⟩
    · rw [hidle]
      trivial
    · rw [hclosing]
      trivial
  | @taken row t₀ hget hstate hactive htook hothers hassets =>
    have ht : t = t₀ := not_not.mp fun hne => hheld (hothers t hne)
    subst ht
    exact ⟨row, hget, hstate, hactive, hothers, .inl ⟨htook, hassets⟩⟩
  | @delivering row t₀ assetId hget hstate hactive hmade hothers hassets =>
    have ht : t = t₀ := not_not.mp fun hne => hheld (hothers t hne)
    subst ht
    exact ⟨row, hget, hstate, hactive, hothers, .inr ⟨assetId, hmade, hassets⟩⟩
  | done assetId hget hstate hasset hactive hfree => exact absurd (hfree t) hheld

omit [DecidableEq T] in
/-- A failure that disturbs nobody is refused: the job is done. -/
lemma Stage.setFailed (hlost : roles t = .lost) (hfree : ∀ t, (roles t).Free)
    (hset : w.jobs.setJobState id .failed u = .ok jobs) : False := by
  cases h with
  | recording hget hstate hactive hroles =>
    rcases hroles t with hidle | ⟨hclosing, -⟩
    · rw [hlost] at hidle
      cases hidle
    · rw [hlost] at hclosing
      cases hclosing
  | taken t₀ hget hstate hactive htook =>
    have hfree := hfree t₀
    rw [htook] at hfree
    exact hfree
  | delivering t₀ assetId hget hstate hactive hmade =>
    have hfree := hfree t₀
    rw [hmade] at hfree
    exact hfree
  | done assetId hget hstate =>
    have hallowed := (get_setJobState hget hset).2
    rw [hstate] at hallowed
    exact absurd hallowed (by decide)

lemma Stage.setDone {assetId : String} (hmade : roles t = .made assetId)
    (hu : u.assetId = some assetId) :
    ∃ jobs, w.jobs.setJobState id .done u = .ok jobs ∧
      Stage id (update roles t .idle) { w with jobs := jobs } := by
  have hheld : ¬ (roles t).Free := by
    rw [hmade]
    exact fun hfree => hfree
  obtain ⟨row, hget, hstate, hactive, hothers, hrest⟩ := h.of_held hheld
  have hset : w.jobs.setJobState id .done u = .ok _ :=
    setJobState_of_get hget (.inl (by rw [hstate]; decide))
  refine ⟨_, hset, ?_⟩
  rcases hrest with ⟨htook, -⟩ | ⟨assetId', hmade', hassets⟩
  · rw [hmade] at htook
    cases htook
  · rw [hmade] at hmade'
    cases hmade'
    refine .done assetId (get_setJobState hget hset).1 rfl ?_ hactive ?_ hassets
    · show u.assetId.or row.assetId = some assetId
      rw [hu]
      rfl
    · intro t'
      by_cases ht : t' = t
      · subst ht
        rw [update_self]
        trivial
      · rw [update_of_ne ht]
        exact hothers t' ht

lemma Stage.take (hclosing : roles t = .closing) (hactive : w.active id = some true) :
    Stage id (update roles t .took) (w.dropCapture id) := by
  cases h with
  | @recording row hget hstate hactive' hroles hassets =>
    have hfinalizing : row.state = .finalizing := by
      rcases hroles t with hidle | ⟨-, hstate⟩
      · rw [hclosing] at hidle
        cases hidle
      · exact hstate
    refine .taken t hget hfinalizing (if_pos rfl) (update_self _ _ _) ?_ hassets
    intro t' ht'
    rw [update_of_ne ht']
    rcases hroles t' with hidle | ⟨hclosing', -⟩
    · rw [hidle]
      trivial
    · rw [hclosing']
      trivial
  | taken t₀ hget hstate hgone | delivering t₀ assetId hget hstate hgone
  | done assetId hget hstate hasset hgone =>
    rw [hgone] at hactive
    cases hactive

lemma Stage.make (htook : roles t = .took) (assetId : String) :
    Stage id (update roles t (.made assetId))
      { w with assets := (id, assetId) :: w.assets } := by
  have hheld : ¬ (roles t).Free := by
    rw [htook]
    exact fun hfree => hfree
  obtain ⟨row, hget, hstate, hactive, hothers, hrest⟩ := h.of_held hheld
  rcases hrest with ⟨-, hassets⟩ | ⟨assetId', hmade, -⟩
  · refine .delivering t assetId hget hstate hactive (update_self _ _ _) ?_ ?_
    · intro t' ht'
      rw [update_of_ne ht']
      exact hothers t' ht'
    · intro assetId' hmem
      rcases List.mem_cons.mp hmem with heq | hold
      · exact (Prod.mk.inj heq).2
      · exact absurd hold (hassets assetId')
  · rw [htook] at hmade
    cases hmade

variable {c : Station}

lemma Stage.step_write {k : JobId} {state : JobState}
    {reply : Except Failure (Op.setJobState k state u).Res}
    (hok : Undisturbed id roles (.setJobState k state u))
    (hallows : (roles t).Allows id (.setJobState k state u))
    (hwrites : World.Writes (w.jobs.setJobState k state u) k reply) :
    Role.Relies id (.setJobState k state u) reply ∧
      Stage id (update roles t ((roles t).next id (.setJobState k state u) reply))
        (w.wrote (w.jobs.setJobState k state u)) := by
  by_cases hk : k = id
  -- a write about another job
  swap
  · have hnext : (roles t).next id (.setJobState k state u) reply = roles t := by
      cases state <;> cases reply <;> first | rfl | exact if_neg hk
    refine ⟨?_, ?_⟩
    · cases state <;> cases reply <;> trivial
    · rw [hnext, update_eq_self]
      cases hset : w.jobs.setJobState k state u with
      | error error => exact h
      | ok jobs => exact h.frame (get_setJobState_of_ne hset hk) rfl fun _ => .rfl
  subst hk
  rcases hallows rfl with ⟨rfl, hfree⟩ | ⟨rfl, hlost⟩ | ⟨rfl, assetId, hmade, hu⟩
  · cases hset : w.jobs.setJobState k .finalizing u with
    | error error =>
      rw [hset] at hwrites
      rcases reply with failure | row
      · refine ⟨trivial, ?_⟩
        show Stage k (update roles t (roles t)) w
        rw [update_eq_self]
        exact h
      · obtain ⟨jobs, hjobs, -⟩ := hwrites
        cases hjobs
    | ok jobs =>
      rw [hset] at hwrites
      rcases reply with failure | row
      · obtain ⟨error, herror, -⟩ := hwrites
        cases herror
      · refine ⟨trivial, ?_⟩
        show Stage k (update roles t (if k = k then .closing else roles t)) _
        rw [if_pos rfl]
        exact h.setFinalizing hfree hset
  · cases hset : w.jobs.setJobState k .failed u with
    | error error =>
      refine ⟨by cases reply <;> trivial, ?_⟩
      have hnext : (roles t).next k (.setJobState k .failed u) reply = roles t := by
        cases reply <;> rfl
      rw [hnext, update_eq_self]
      exact h
    | ok jobs => exact (h.setFailed hlost (hok rfl) hset).elim
  · obtain ⟨jobs, hset, hdone⟩ := h.setDone hmade hu
    rw [hset] at hwrites ⊢
    rcases reply with failure | row
    · obtain ⟨error, herror, -⟩ := hwrites
      cases herror
    · refine ⟨trivial, ?_⟩
      show Stage k (update roles t (if k = k then .idle else roles t)) _
      rw [if_pos rfl]
      exact hdone

/-- Every call of a request in its role keeps the stage, and is answered as it relies on. -/
lemma Stage.step {o : Op} {reply : Except Failure o.Res} (hok : Undisturbed id roles o)
    (hallows : (roles t).Allows id o) (hlegal : (World.succeeding id c).legal w o reply) :
    Role.Relies id o reply ∧
      Stage id (update roles t ((roles t).next id o reply)) (w.next c o reply) := by
  obtain ⟨hreplies, hsucceeds⟩ := hlegal
  -- calls that the request learns nothing from
  have hplain : (roles t).next id o reply = roles t → Stage id roles (w.next c o reply) →
      Stage id (update roles t ((roles t).next id o reply)) (w.next c o reply) := by
    intro hnext hstage
    rw [hnext, update_eq_self]
    exact hstage
  cases o with
  | clock =>
    cases reply with
    | ok now => exact ⟨trivial, hplain rfl (h.frame rfl rfl fun _ => .rfl)⟩
    | error failure => exact absurd hreplies fun h => h
  | deadlinePassed | listJobs state => exact ⟨trivial, hplain rfl h⟩
  | getJob k =>
    rcases reply with failure | _ | row
    · exact ⟨trivial, hplain rfl h⟩
    · exact ⟨trivial, hplain rfl h⟩
    · have hrow : some row = w.jobs.get k := hreplies
      have hstate : k = id →
          row.state = .recording ∨ row.state = .finalizing ∨ row.state = .done := by
        rintro rfl
        obtain ⟨row', hget, hstate⟩ := h.get
        rw [hget] at hrow
        cases hrow
        exact hstate
      refine ⟨?_, ?_⟩
      · intro hk harming
        rcases hstate hk with hs | hs | hs <;> rw [harming] at hs <;> cases hs
      · by_cases hk : k = id ∧ row.state = .finalizing
        · obtain ⟨rfl, hfinalizing⟩ := hk
          show Stage k (update roles t (if _ then _ else _)) w
          rw [if_pos ⟨rfl, hfinalizing⟩]
          refine h.relabel (hallows rfl) trivial ?_
          intro _
          refine ⟨rfl, ?_⟩
          intro row' hget
          rw [← hrow] at hget
          cases hget
          exact hfinalizing
        · exact hplain (if_neg hk) h
  | setJobState k state u => exact h.step_write hok hallows hreplies
  | takeCapture k =>
    by_cases hk : k = id
    · subst hk
      have hclosing := hallows rfl
      rcases reply with failure | endedAt
      · -- the capture is not there: a capture that is there would have been stopped
        have hgone : w.active k = none := by
          rcases h.active with hactive | hgone
          · exact absurd hactive (hsucceeds rfl)
          · exact hgone
        have hlost : (roles t).next k (.takeCapture k) (.error failure) = .lost := if_pos rfl
        rw [hlost]
        refine ⟨trivial, ?_⟩
        have hframe : Stage k roles (w.dropCapture k) :=
          h.frame rfl ((if_pos rfl).trans hgone.symm) fun _ => .rfl
        refine hframe.relabel (by rw [hclosing]; trivial) trivial ?_
        intro hactive
        rw [show (w.dropCapture k).active k = none from if_pos rfl] at hactive
        cases hactive
      · have htook : (roles t).next k (.takeCapture k) (.ok endedAt) = .took := if_pos rfl
        rw [htook]
        exact ⟨trivial, h.take hclosing hreplies⟩
    · have hframe : Stage id roles (w.dropCapture k) :=
        h.frame rfl (if_neg fun heq => hk heq.symm) fun _ => .rfl
      rcases reply with failure | endedAt
      · exact ⟨trivial, hplain (if_neg hk) hframe⟩
      · exact ⟨trivial, hplain (if_neg hk) hframe⟩
  | mergeCapture k =>
    rcases reply with failure | bytes
    · exact ⟨hsucceeds, hplain rfl h⟩
    · exact ⟨hreplies, hplain rfl h⟩
  | finalizeToAsset k =>
    rcases reply with failure | assetId
    · exact ⟨hsucceeds, hplain rfl h⟩
    · refine ⟨trivial, ?_⟩
      by_cases hk : k = id
      · subst hk
        have hmade : (roles t).next k (.finalizeToAsset k) (.ok assetId) = .made assetId :=
          if_pos rfl
        rw [hmade]
        exact h.make (hallows rfl) assetId
      · refine hplain (if_neg hk) (h.frame rfl rfl ?_)
        intro assetId'
        constructor
        · intro hmem
          rcases List.mem_cons.mp hmem with heq | hold
          · exact absurd (Prod.mk.inj heq).1.symm hk
          · exact hold
        · exact List.mem_cons_of_mem _
  | stopArming k =>
    have hk : k ≠ id := hallows
    exact ⟨trivial, hplain rfl (h.frame rfl (if_neg fun heq => hk heq.symm) fun _ => .rfl)⟩
  | _ => exact absurd hallows fun h => h

end Stage

/-! ## Interleavings -/

section Runs

variable {T : Type} [DecidableEq T]

abbrev Endings (T : Type) := Config T recordingIface Failure Role World

def Endings.initial (calls : T → List EndingCall) (w : World) : Endings T where
  code := fun t => requests ((calls t).map EndingCall.toServiceCall)
  ghost := fun _ => .idle
  world := w

/-- The interleavings of requests that end recordings, whose calls all meet a condition. -/
def Endings.Reached (c : Station) (id : JobId) (cond : (T → Role) → Op → Prop)
    (calls : T → List EndingCall) (w : World) : Endings T → Prop :=
  Config.Reach (fun _ => World.succeeding id c) (fun _ => (Role.contract id).toMonitor) cond
    (Endings.initial calls w)

def ended : RecordingM Unit → Bool
  | .call _ _ => false
  | _ => true

lemma post_of_ended {G : Type} {B : Machine recordingIface G} {p : RecordingM Unit}
    {Q : Except Failure Unit → G → Prop} {g : G} (hwp : p.wp B Q g) (hended : ended p = true) :
    ∃ r, Q r g := by
  cases p with
  | ret a => exact ⟨.ok a, hwp⟩
  | raise e => exact ⟨.error e, hwp⟩
  | call o k => cases hended

/-- The job is being captured. -/
structure Captured (id : JobId) (w : World) : Prop where
  recording : ∃ row, w.jobs.get id = some row ∧ row.state = .recording
  active : w.active id = some true
  fresh : ∀ assetId, (id, assetId) ∉ w.assets

/-- The job is done and carries the asset. -/
def Carries (jobs : Jobs) (id : JobId) (assetId : String) : Prop :=
  ∃ row, jobs.get id = some row ∧ row.state = .done ∧ row.assetId = some assetId

/-- Whatever requests end a recording at one time: if no failure is written for it while one
of them has its capture or its asset in hand, an asset that was made of it is carried by the
job, which is done, once all of them have ended. -/
theorem delivered_kept (c : Station) (id : JobId) (calls : T → List EndingCall) (w : World)
    (hw : Captured id w) (r : Endings T)
    (hrun : Endings.Reached c id (Undisturbed id) calls w r)
    (hended : ∀ t, ended (r.code t) = true) (assetId : String)
    (hasset : (id, assetId) ∈ r.world.assets) : Carries r.world.jobs id assetId := by
  obtain ⟨row, hget, hstate⟩ := hw.recording
  have hinit : Stage id (fun _ : T => .idle) w :=
    .recording hget (.inl hstate) hw.active (fun _ => .inl rfl) hw.fresh
  obtain ⟨hcode, hstage⟩ := Config.Reach.contract hrun
    (fun t => keeps_iff.mp (keepsFree_requests id) .idle trivial) hinit
    fun roles w t o reply h hok hallows hlegal => h.step hok hallows hlegal
  -- a request that has ended has nothing in hand
  have hfree : ∀ t, (r.ghost t).Free := by
    intro t
    obtain ⟨_, hpost⟩ := post_of_ended (hcode t) (hended t)
    exact hpost
  cases hstage with
  | recording _ _ _ _ hnone => exact absurd hasset (hnone assetId)
  | taken t _ _ _ htook =>
    have hfree := hfree t
    rw [htook] at hfree
    exact hfree.elim
  | delivering t assetId' _ _ _ hmade =>
    have hfree := hfree t
    rw [hmade] at hfree
    exact hfree.elim
  | done assetId' hget hstate hcarries _ _ hone =>
    rw [hone assetId hasset]
    exact ⟨_, hget, hstate, hcarries⟩

end Runs

/-! ## A stop at the end of the window -/

namespace StopAtEnd

def station : Station := ⟨"main", 0, .utc, 500, true⟩

def council : JobId := .adhoc "council"

/-- The council is being recorded. -/
def world : World where
  schedules := []
  jobs :=
    { rows := [{ RecordingJob.planned council "main" none 0 3600000000 ⟨.sdi, "sdi-1", ""⟩ with
        state := .recording }]
      nodup := by decide }
  active := fun _ => some true
  assets := []
  now := 3600000000

/-- The tick that finds the window over, and the operator. -/
def calls : Bool → List EndingCall
  | true => [.finalize council]
  | false => [.stop council]

instance (roles : Bool → Role) (o : Op) : Decidable (Undisturbed council roles o) :=
  match o with
  | .setJobState k .failed _ => inferInstanceAs (Decidable (k = council → ∀ t, (roles t).Free))
  | .setJobState _ .scheduled _ | .setJobState _ .arming _ | .setJobState _ .recording _
  | .setJobState _ .finalizing _ | .setJobState _ .done _ | .setJobState _ .skipped _
  | .clock | .deadlinePassed | .expand _ | .getSchedule _ | .getJob _ | .listJobs _
  | .listJobsOf _ _ | .createJob _ | .probeArming _ | .commitArming _ | .findOverlapping _
  | .recordDropout _ | .armCapture _ | .startCapture _ | .takeCapture _ | .mergeCapture _
  | .stopArming _ | .checkDropout _ | .finalizeToAsset _ => .isTrue trivial

lemma succeeds_of_reply {w : World} {o : Op}
    {x : {x : Except Failure o.Res // w.Replies station o x}} (h : w.reply station o = some x) :
    Succeeds council w o x.1 := by
  cases o with
  | takeCapture k =>
    simp only [World.reply] at h
    split at h
    · cases h
      trivial
    · rename_i hactive
      cases h
      intro _
      simp [hactive]
    · rename_i hactive
      cases h
      intro _
      simp [hactive]
  | mergeCapture k | finalizeToAsset k =>
    cases h
    trivial
  | _ => trivial

def answers (_ : Bool) (w : World) (o : Op) :
    Option {x : Except Failure o.Res // (World.succeeding council station).legal w o x} :=
  match h : w.reply station o with
  | some x => some ⟨x.1, x.2, succeeds_of_reply h⟩
  | none => none

variable (cond : (Bool → Role) → Op → Prop) [∀ roles o, Decidable (cond roles o)]

def run (schedule : List Bool) : Option (Endings Bool) :=
  Config.drive (fun _ => World.succeeding council station)
    (fun _ => (Role.contract council).toMonitor) answers cond schedule (Endings.initial calls world)

lemma reached_run {schedule : List Bool} {r : Endings Bool} (h : run cond schedule = some r) :
    Endings.Reached station council cond calls world r :=
  Config.reach_of_drive .refl h

/-- The operator comes second, and writes the failure before the asset is made. -/
def early : List Bool :=
  [true, true, true, false, false, false, false, false, true, true, true, true]

/-- The operator comes second, and is refused the failure. -/
def late : List Bool :=
  [true, true, true, false, false, true, true, true, true, false, false]

end StopAtEnd

open StopAtEnd in
/-- The council is failed, and its asset is nobody's. -/
theorem stopped_recording_lost :
    ∃ r : Endings Bool, Endings.Reached station council (fun _ _ => True) calls world r ∧
      (∀ t, ended (r.code t) = true) ∧ (council, "asset") ∈ r.world.assets ∧
        ¬ Carries r.world.jobs council "asset" := by
  have hsome : (run (fun _ _ => True) early).isSome = true := by decide +kernel
  obtain ⟨r, hr⟩ := isSome_iff_exists.mp hsome
  have hfacts : (run (fun _ _ => True) early).all (fun r : Endings Bool =>
      ended (r.code true) && ended (r.code false) &&
        decide (r.world.assets = [(council, "asset")]) &&
        decide ((r.world.jobs.get council).map (·.state) = some .failed)) = true := by
    decide +kernel
  rw [hr] at hfacts
  simp only [all_some, Bool.and_eq_true, decide_eq_true_eq] at hfacts
  obtain ⟨⟨⟨htick, hoperator⟩, hassets⟩, hstate⟩ := hfacts
  refine ⟨r, reached_run _ hr, ?_, ?_, ?_⟩
  · intro t
    cases t
    · exact hoperator
    · exact htick
  · rw [hassets]
    exact List.mem_singleton_self _
  · rintro ⟨row, hget, hdone, -⟩
    rw [hget] at hstate
    simp [hdone] at hstate

open StopAtEnd in
/-- The council is done with its asset. -/
theorem stopped_recording_kept :
    ∃ r : Endings Bool, run (Undisturbed council) late = some r ∧
      Carries r.world.jobs council "asset" := by
  have hsome : (run (Undisturbed council) late).isSome = true := by decide +kernel
  obtain ⟨r, hr⟩ := isSome_iff_exists.mp hsome
  have hfacts : (run (Undisturbed council) late).all (fun r : Endings Bool =>
      ended (r.code true) && ended (r.code false) &&
        decide (r.world.assets = [(council, "asset")])) = true := by decide +kernel
  rw [hr] at hfacts
  simp only [all_some, Bool.and_eq_true, decide_eq_true_eq] at hfacts
  obtain ⟨⟨htick, hoperator⟩, hassets⟩ := hfacts
  have hcaptured : Captured council world := by
    refine ⟨⟨_, rfl, rfl⟩, rfl, ?_⟩
    intro assetId hmem
    cases hmem
  refine ⟨r, hr,
    delivered_kept station council calls world hcaptured r (reached_run _ hr) ?_ "asset" ?_⟩
  · intro t
    cases t
    · exact hoperator
    · exact htick
  · rw [hassets]
    exact List.mem_singleton_self _

end CivicCast.Recording
