import CivicCast.Supervisor.Children

/-! # Who is in the job

`assign_child` is about a pid; what is in a job is a process. The host gives a pid to one process
after another, and the controller remembers every pid that it has assigned until the job is closed:
of such a pid it takes the process for assigned, whichever it is.

A `Host` keeps, beside what the controller remembers, the process that had the pid then. As long as
no call is about a remembered pid that has gone to another process, every call that returns has the
process in the job.
-/

namespace CivicCast.Supervisor

open Lib Lib.Prog Function Option

/-- A pid that the controller remembers, with the process that had it then; that one was in a
foreign job only, if the call accepted this. -/
structure Remembered where
  pid : ℕ
  process : Option ℕ
  foreign : Bool

/-- `jobs` are the jobs of a process. -/
structure Host where
  sup : Sup
  owner : ℕ → Option ℕ
  jobs : ℕ → List ℕ
  fresh : ℕ
  remembered : List Remembered

namespace Host

def inJob (w : Host) (pid job : ℕ) : Bool := (w.owner pid).any fun p => job ∈ w.jobs p

def inAnyJob (w : Host) (pid : ℕ) : Bool := (w.owner pid).any fun p => w.jobs p ≠ []

/-- The process of the pid is in the controller's job. -/
def ours (w : Host) (pid : ℕ) : Bool := w.sup.jobHandle.any (w.inJob pid)

/-- The process of the pid is in the job, or in some job where this is accepted. -/
def Contained (w : Host) (pid : ℕ) (acceptForeign : Bool) : Prop :=
  w.ours pid = true ∨ acceptForeign = true ∧ w.inAnyJob pid = true

def noted (w : Host) : Write → List Remembered
  | .assignedPid pid => w.remembered ++ [⟨pid, w.owner pid, !w.ours pid⟩]
  | .assignedPidsReset => []
  | _ => w.remembered

def write (w : Host) (x : Write) : Host :=
  { w with sup := x.apply w.sup, remembered := w.noted x }

/-- The process that has the pid comes to the job. -/
def assign (w : Host) (job pid : ℕ) : Host :=
  { w with jobs := fun p => if w.owner pid = some p then job :: w.jobs p else w.jobs p }

/-- Closing the job kills whatever is in it. -/
def reap (w : Host) (job : ℕ) : Host :=
  { w with owner := fun pid => (w.owner pid).filter fun p => job ∉ w.jobs p }

def machine : Machine supIface Host where
  pre := fun _ _ => True
  legal := fun w o x => match o, x with
    | .self, s => s = w.sup
    | .assignProcess _ pid, .ok () => (w.owner pid).isSome = true
    | .isProcessInJob job pid, .ok b => b = w.inJob pid job
    | .isProcessInAnyJob pid, .ok b => b = w.inAnyJob pid
    | _, _ => True
  next := fun w o x => match o, x with
    | .write x, _ => w.write x
    | .assignProcess job pid, .ok () => w.assign job pid
    | .closeJob job, _ => w.reap job
    | _, _ => w

/-- A process starts under a pid that is free, in the jobs of its parent. -/
def spawn (w : Host) (pid : ℕ) (inherited : List ℕ) : Host :=
  { w with
    owner := update w.owner pid (some w.fresh)
    jobs := update w.jobs w.fresh inherited
    fresh := w.fresh + 1 }

def exit (w : Host) (pid : ℕ) : Host := { w with owner := update w.owner pid none }

/-- A remembered pid has its process still, and one that was let in from a foreign job is
accepted as such again. -/
def Careful (w : Host) (pid : ℕ) (acceptForeign : Bool) : Prop :=
  ∀ r ∈ w.remembered, r.pid = pid →
    w.owner pid = r.process ∧ (r.foreign = true → acceptForeign = true)

/-- The histories of a supervisor run whose calls are all careful. -/
inductive Run : Host → Prop where
  | start {owner : ℕ → Option ℕ} {jobs : ℕ → List ℕ} {fresh : ℕ}
      (hfresh : ∀ pid p, owner pid = some p → p < fresh) : Run ⟨Sup.fresh, owner, jobs, fresh, []⟩
  | spawn {w : Host} {pid : ℕ} (inherited : List ℕ) (h : Run w) (hfree : w.owner pid = none) :
      Run (w.spawn pid inherited)
  | exit {w : Host} (pid : ℕ) (h : Run w) : Run (w.exit pid)
  | assign {w w' : Host} {pid : ℕ} {acceptForeign : Bool} {r : Except PyError Unit} (h : Run w)
      (hcareful : w.Careful pid acceptForeign)
      (hexec : Exec machine (assignChild pid acceptForeign) w r w') : Run w'
  | close {w w' : Host} {r : Except PyError Unit} (h : Run w)
      (hexec : Exec machine closeJob w r w') : Run w'

/-! ## The invariant -/

structure Inv (w : Host) : Prop where
  pids : w.sup.assignedPids = w.remembered.map (·.pid)
  kept : ∀ r ∈ w.remembered, ∃ p, r.process = some p ∧ p < w.fresh ∧
    (w.owner r.pid = some p → w.Contained r.pid r.foreign)
  closed : w.sup.jobHandle = none → w.remembered = []
  owners : ∀ pid p, w.owner pid = some p → p < w.fresh

variable {w w' : Host} {pid job : ℕ} {acceptForeign : Bool}

lemma Contained.mono {p : ℕ} (h : w.Contained pid acceptForeign) (hsup : w'.sup = w.sup)
    (hpid : w.owner pid = some p) (hpid' : w'.owner pid = some p) (hjobs : w.jobs p ⊆ w'.jobs p) :
    w'.Contained pid acceptForeign := by
  simp only [Contained, ours, inJob, inAnyJob, hsup, hpid, hpid', any_some,
    any_eq_true, decide_eq_true_eq] at h ⊢
  rcases h with ⟨job, hjob, hin⟩ | ⟨haccept, hany⟩
  · exact .inl ⟨job, hjob, hjobs hin⟩
  · exact .inr ⟨haccept, fun hnone => hany (List.subset_nil.mp (hnone ▸ hjobs))⟩

variable (h : w.Inv)
include h

/-- A move of the host: a pid goes to no process, or to a new one, and nothing leaves its jobs. -/
lemma Inv.moved (hsup : w'.sup = w.sup) (hremembered : w'.remembered = w.remembered)
    (hfresh : w.fresh ≤ w'.fresh)
    (howner : ∀ pid p, w'.owner pid = some p →
      w.owner pid = some p ∧ w.jobs p ⊆ w'.jobs p ∨ w.fresh ≤ p ∧ p < w'.fresh) : w'.Inv where
  pids := by
    rw [hsup, hremembered]
    exact h.pids
  kept := by
    rw [hremembered]
    intro r hr
    obtain ⟨p, hp, hlt, hkept⟩ := h.kept r hr
    refine ⟨p, hp, hlt.trans_le hfresh, fun hpid => ?_⟩
    rcases howner _ _ hpid with ⟨hold, hjobs⟩ | ⟨hnew, -⟩
    · exact (hkept hold).mono hsup hold hpid hjobs
    · omega
  closed := by
    rw [hsup, hremembered]
    exact h.closed
  owners := by
    intro pid p hpid
    rcases howner _ _ hpid with ⟨hold, -⟩ | ⟨-, hnew⟩
    · exact (h.owners _ _ hold).trans_le hfresh
    · exact hnew

lemma Inv.spawn (pid : ℕ) (inherited : List ℕ) : (w.spawn pid inherited).Inv := by
  refine h.moved rfl rfl (Nat.le_succ _) fun other p hother => ?_
  by_cases hpid : other = pid
  · subst hpid
    simp only [Host.spawn, update_self] at hother
    cases hother
    exact .inr ⟨le_rfl, Nat.lt_succ_self _⟩
  · simp only [Host.spawn, update_of_ne hpid] at hother
    have hne : p ≠ w.fresh := (h.owners _ _ hother).ne
    exact .inl ⟨hother, by simp [Host.spawn, update_of_ne hne]⟩

lemma Inv.exit (pid : ℕ) : (w.exit pid).Inv := by
  refine h.moved rfl rfl le_rfl fun other p hother => ?_
  by_cases hpid : other = pid
  · simp [Host.exit, hpid] at hother
  · simp only [Host.exit, update_of_ne hpid] at hother
    exact .inl ⟨hother, List.Subset.refl _⟩

lemma Inv.assign (job pid : ℕ) : (w.assign job pid).Inv := by
  refine h.moved rfl rfl le_rfl fun other p hother => .inl ⟨hother, fun x hx => ?_⟩
  unfold Host.assign
  dsimp only
  split
  · exact List.mem_cons_of_mem _ hx
  · exact hx

lemma Inv.note (hjob : w.sup.jobHandle ≠ none) (hcontained : w.Contained pid acceptForeign) :
    (w.write (.assignedPid pid)).Inv ∧
      (w.write (.assignedPid pid)).Contained pid acceptForeign := by
  refine ⟨⟨?_, ?_, fun hnone => absurd hnone hjob, h.owners⟩, hcontained⟩
  · simp [Host.write, Write.apply, noted, h.pids]
  · intro r hr
    rcases List.mem_append.mp hr with hold | hnew
    · exact h.kept r hold
    · rw [List.mem_singleton.mp hnew]
      have hany : (w.owner pid).isSome = true := by
        cases howner : w.owner pid with
        | none =>
          simp [Contained, ours, any_eq_true, inJob, inAnyJob, howner] at hcontained
        | some p => rfl
      obtain ⟨p, hp⟩ := isSome_iff_exists.mp hany
      refine ⟨p, hp, h.owners _ _ hp, fun _ => ?_⟩
      cases hours : w.ours pid with
      | true => exact .inl hours
      | false =>
        rcases hcontained with hin | ⟨-, hin⟩
        · rw [hin] at hours
          cases hours
        · exact .inr ⟨rfl, hin⟩

/-! ## The calls -/

lemma ensureJob_wp : ensureJob.wp machine
    (fun r w' => w'.Inv ∧ ∀ job, r = .ok job → w'.sup.jobHandle = some job) w := by
  refine ⟨trivial, ?_⟩
  rintro _ rfl
  dsimp only [Prog.bind]
  split
  · rename_i job hjob
    exact ⟨h, by rintro _ ⟨⟩; exact hjob⟩
  · rename_i hnone
    refine ⟨trivial, fun created _ => ?_⟩
    cases created with
    | error e => exact ⟨h, nofun⟩
    | ok job =>
      refine ⟨trivial, fun configured _ => ?_⟩
      cases configured with
      | error e => exact ⟨h, nofun⟩
      | ok _ =>
        have hremembered := h.closed hnone
        refine ⟨trivial, fun _ _ => ⟨⟨h.pids, ?_, nofun, h.owners⟩, by rintro _ ⟨⟩; rfl⟩⟩
        intro r hr
        exact absurd (hremembered ▸ hr) List.not_mem_nil

/-- What holds after a call, however it ends. -/
def After (pid : ℕ) (acceptForeign : Bool) (r : Except PyError Unit) (w : Host) : Prop :=
  w.Inv ∧ (r = .ok () → w.Contained pid acceptForeign)

lemma acceptMembership_wp {fault : Fault} (hjob : w.sup.jobHandle = some job) :
    (acceptMembership job pid acceptForeign fault).wp machine
      (fun r w' => After pid acceptForeign r w' ∧ w'.sup = w.sup) w := by
  refine wp_ite (fun _ => ⟨⟨h, nofun⟩, rfl⟩) fun _ => ⟨trivial, fun inThis hthis => ?_⟩
  cases inThis with
  | error e => exact ⟨⟨h, nofun⟩, rfl⟩
  | ok isOurs =>
    cases isOurs with
    | true =>
      have hours : w.ours pid = true := by simpa [ours, hjob] using hthis.symm
      exact ⟨⟨h, fun _ => .inl hours⟩, rfl⟩
    | false =>
      refine wp_ite (fun _ => ⟨⟨h, nofun⟩, rfl⟩) fun haccept => ⟨trivial, fun inAny hany => ?_⟩
      cases inAny with
      | error e => exact ⟨⟨h, nofun⟩, rfl⟩
      | ok isIn =>
        cases isIn with
        | true => exact ⟨⟨h, fun _ => .inr ⟨by simpa using haccept, hany.symm⟩⟩, rfl⟩
        | false => exact ⟨⟨h, nofun⟩, rfl⟩

lemma assignChildBody_wp (hcareful : w.Careful pid acceptForeign) :
    (assignChildBody pid acceptForeign).wp machine (After pid acceptForeign) w := by
  refine ⟨trivial, ?_⟩
  rintro _ rfl
  dsimp only [Prog.bind]
  split
  · -- a pid that is remembered
    rename_i hmem
    rw [h.pids] at hmem
    obtain ⟨r, hr, hpid⟩ := List.mem_map.mp hmem
    obtain ⟨hsame, hforeign⟩ := hcareful r hr hpid
    obtain ⟨p, hp, -, hkept⟩ := h.kept r hr
    rw [hpid] at hkept
    refine ⟨h, fun _ => ?_⟩
    exact (hkept (hsame.trans hp)).imp_right fun hin => ⟨hforeign hin.1, hin.2⟩
  · refine wp_seq (ensureJob_wp h) ?_ fun e w₁ h₁ => ⟨h₁.1, nofun⟩
    rintro job w₁ ⟨h₁, hjob⟩
    have hhandle := hjob job rfl
    have hnote : ∀ w₂ : Host, After pid acceptForeign (.ok ()) w₂ → w₂.sup = w₁.sup →
        (Supervisor.write (.assignedPid pid)).wp machine (After pid acceptForeign) w₂ := by
      rintro w₂ ⟨h₂, hcontained⟩ hsup
      have hnoted := h₂.note (by simp [hsup, hhandle]) (hcontained rfl)
      exact ⟨trivial, fun _ _ => ⟨hnoted.1, fun _ => hnoted.2⟩⟩
    refine ⟨trivial, fun assigned hassigned => ?_⟩
    cases assigned with
    | ok _ =>
      obtain ⟨p, hp⟩ := isSome_iff_exists.mp hassigned
      refine hnote (w₁.assign job pid) ⟨h₁.assign job pid, fun _ => .inl ?_⟩ rfl
      simp [ours, Host.assign, inJob, hhandle, hp]
    | error fault =>
      show (acceptMembership job pid acceptForeign fault >>= fun _ =>
        Supervisor.write (.assignedPid pid)).wp machine (After pid acceptForeign) w₁
      refine wp_seq (acceptMembership_wp h₁ hhandle) (fun _ w₂ h₂ => hnote w₂ h₂.1 h₂.2) ?_
      exact fun e w₂ h₂ => ⟨h₂.1.1, nofun⟩

lemma assignChild_wp (hcareful : w.Careful pid acceptForeign) :
    (assignChild pid acceptForeign).wp machine (After pid acceptForeign) w := by
  refine ⟨trivial, fun _ _ => wp_andFinally ?_⟩
  exact wp_mono (fun r w' hr => ⟨trivial, fun _ _ => hr⟩) (assignChildBody_wp h hcareful)

lemma closeJob_wp : closeJob.wp machine (fun _ w' => w'.Inv) w := by
  refine ⟨trivial, ?_⟩
  rintro _ rfl
  dsimp only [Prog.bind]
  split
  · exact ⟨trivial, fun _ _ => h⟩
  · refine ⟨trivial, fun _ _ => ⟨trivial, fun _ _ => ⟨trivial, fun _ _ => ⟨trivial, ?_⟩⟩⟩⟩
    intro _ _
    refine ⟨rfl, fun r hr => absurd hr List.not_mem_nil, fun _ => rfl, fun pid p hpid => ?_⟩
    exact h.owners pid p (filter_eq_some_iff.mp hpid).1

omit h

lemma Run.inv (h : Run w) : w.Inv := by
  induction h with
  | start hfresh => exact ⟨rfl, fun _ hr => absurd hr List.not_mem_nil, fun _ => rfl, hfresh⟩
  | spawn inherited _ _ ih => exact ih.spawn _ inherited
  | exit pid _ ih => exact ih.exit pid
  | assign _ hcareful hexec ih => exact (hexec.post (assignChild_wp ih hcareful)).1
  | close _ hexec ih => exact hexec.post (closeJob_wp ih)

/-- After careful calls only, a careful call that returns has the process of its pid contained. -/
theorem assigned_process_contained (hrun : Run w) (hcareful : w.Careful pid acceptForeign)
    (hexec : Exec machine (assignChild pid acceptForeign) w (.ok ()) w') :
    w'.Contained pid acceptForeign :=
  (hexec.post (assignChild_wp hrun.inv hcareful)).2 rfl

def idle : Host := ⟨Sup.fresh, fun _ => none, fun _ => [], 0, []⟩

lemma exec_first (job : ℕ) (hsup : w.sup = Sup.fresh) (howner : (w.owner pid).isSome = true)
    {acceptForeign : Bool} : Exec machine (assignChild pid acceptForeign) w (.ok ())
      (((w.write (.jobHandle (some job))).assign job pid).write (.assignedPid pid)) := by
  refine .call () trivial (.call Sup.fresh hsup.symm (.call Sup.fresh hsup.symm ?_))
  refine .call (.ok job) trivial (.call (.ok ()) trivial (.call () trivial ?_))
  exact .call (.ok ()) howner (.call () trivial (.call () trivial (.ret _ _)))

/-- A second child has exited and its pid has gone to a third one; a call about the first, which
is remembered, finds it in the job. -/
theorem assigned_process_contained_again : ∃ w₁ w₂ : Host,
    Exec machine (assignChild 7 false) (idle.spawn 7 []) (.ok ()) w₁ ∧
      Exec machine (assignChild 7 false) (((w₁.spawn 8 []).exit 8).spawn 8 []) (.ok ()) w₂ ∧
      w₂.Contained 7 false ∧ w₂.remembered.map (·.pid) = [7] ∧ w₂.owner 8 = some 2 := by
  have hfirst : Exec machine (assignChild 7 false) (idle.spawn 7 []) (.ok ()) _ :=
    exec_first 1 rfl rfl
  let host : Host := ((((((idle.spawn 7 []).write (.jobHandle (some 1))).assign 1 7).write
    (.assignedPid 7)).spawn 8 []).exit 8).spawn 8 []
  have hagain : Exec machine (assignChild 7 false) host (.ok ()) host :=
    .call () trivial (.call host.sup rfl (.call () trivial (.ret _ _)))
  refine ⟨_, host, hfirst, hagain, assigned_process_contained ?_ ?_ hagain, rfl, rfl⟩
  · have hstart : Run (idle.spawn 7 []) := .spawn [] (.start nofun) rfl
    exact .spawn [] (.exit 8 (.spawn [] (.assign hstart nofun hfirst) rfl)) rfl
  · intro r hr _
    rw [List.mem_singleton.mp hr]
    exact ⟨rfl, nofun⟩

/-- A child exits, and the next one gets its pid: the call returns, and nothing has the child in
the job. -/
theorem reused_pid_escapes_job : ∃ w₁ w₂ : Host,
    Exec machine (assignChild 7 false) (idle.spawn 7 []) (.ok ()) w₁ ∧
      Exec machine (assignChild 7 false) ((w₁.exit 7).spawn 7 []) (.ok ()) w₂ ∧
      ¬ w₂.Contained 7 false ∧ w₂.owner 7 = some 1 := by
  refine ⟨_, _, exec_first 1 rfl rfl,
    .call () trivial (.call _ rfl (.call () trivial (.ret _ _))), ?_, rfl⟩
  simp [Contained, ours, inJob, machine, Host.spawn, Host.exit, Host.assign, Host.write,
    Write.apply]

end Host

end CivicCast.Supervisor
