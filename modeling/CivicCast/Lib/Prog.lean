import Mathlib

/-! # Programs over an interface, and their weakest preconditions

A program that only touches the world through calls is a tree: a value, an
exception, or a call followed by one continuation per answer. What a call
means is not part of the tree; a `Machine` says which answers a call can get
in a given world, what the world is afterwards, and which calls are allowed at
all (`pre`).

* `Prog.wp` is the weakest precondition of a program for a postcondition on
  its outcome (value or exception) and the final world, under every legal
  answer. A call whose `pre` fails has precondition `False`.
* `Exec` is a completed run of one program; `Exec.post` is soundness.
* `Prog.Uses` bounds the calls a program can make and the exceptions it can
  raise at all, whatever the answers; `Uses.keeps` turns such a bound into an
  invariant.
* `Prog.Safe` says that a program makes allowed calls only, from any world on.
* `Visits` relates a program to every world its runs pass through, `Makes` to every call
  they come to.
* `Prog.play` runs a program against a strategy that picks every answer, so
  that a concrete run is evaluated rather than constructed by hand.
-/

namespace Lib

open Except

/-- The operations a program may call, and the type of each answer. -/
structure Iface where
  Op : Type
  Ans : Op → Type

/-- A program over `I` that raises exceptions in `ε` and returns values in `α`. -/
inductive Prog (I : Iface) (ε α : Type) where
  | ret (a : α)
  | raise (e : ε)
  | call (o : I.Op) (k : I.Ans o → Prog I ε α)

namespace Prog

variable {I : Iface} {ε α β : Type}

/-- Sequencing: an exception skips the rest. -/
def bind : Prog I ε α → (α → Prog I ε β) → Prog I ε β
  | .ret a, f => f a
  | .raise e, _ => .raise e
  | .call o k, f => .call o fun x => (k x).bind f

instance : Monad (Prog I ε) where
  pure := .ret
  bind := bind

lemma bind_assoc {γ : Type} {p : Prog I ε α} {f : α → Prog I ε β} {g : β → Prog I ε γ} :
    p >>= f >>= g = p >>= fun a => f a >>= g := by
  induction p with
  | ret a | raise e => rfl
  | call o k ih => exact congrArg (Prog.call o) (funext ih)

lemma ret_bind (a : α) (f : α → Prog I ε β) : (pure a : Prog I ε α) >>= f = f a := rfl

lemma bind_unit {p : Prog I ε Unit} : (p >>= fun _ => pure ()) = p := by
  induction p with
  | ret a | raise e => rfl
  | call o k ih => exact congrArg (Prog.call o) (funext ih)

lemma ite_bind {c : Prop} [Decidable c] (p q : Prog I ε α) (f : α → Prog I ε β) :
    (if c then p else q) >>= f = if c then p >>= f else q >>= f :=
  apply_ite (· >>= f) c p q

/-- The program that makes one call and returns its answer. -/
def lift (o : I.Op) : Prog I ε (I.Ans o) := .call o .ret

/-- Run `p` and return its outcome instead of raising. -/
def attempt : Prog I ε α → Prog I ε (Except ε α)
  | .ret a => .ret (.ok a)
  | .raise e => .ret (.error e)
  | .call o k => .call o fun x => (k x).attempt

/-- Turn an outcome back into a program. -/
def ofExcept : Except ε α → Prog I ε α
  | .ok a => .ret a
  | .error e => .raise e

/-- Run `p`, then `q` whether or not `p` raised. -/
def andFinally (p : Prog I ε α) (q : Prog I ε Unit) : Prog I ε α := do
  let r ← p.attempt
  q
  ofExcept r

/-- Under any answers, every value `p` returns satisfies `φ`. -/
def Gives (φ : α → Prop) : Prog I ε α → Prop
  | .ret a => φ a
  | .raise _ => True
  | .call _ k => ∀ x, (k x).Gives φ

/-- Under any answers, every call `p` makes satisfies `φ` and every exception
it raises satisfies `ψ`. -/
def Uses (φ : I.Op → Prop) (ψ : ε → Prop) : Prog I ε α → Prop
  | .ret _ => True
  | .raise e => ψ e
  | .call o k => φ o ∧ ∀ x, (k x).Uses φ ψ

end Prog

/-- The meaning of the calls over worlds `W`: which calls are allowed, which
answers they can get, and the world after an answer. -/
structure Machine (I : Iface) (W : Type) where
  pre : W → I.Op → Prop
  legal : W → (o : I.Op) → I.Ans o → Prop
  next : W → (o : I.Op) → I.Ans o → W

namespace Prog

variable {I : Iface} {ε α β W : Type} (M : Machine I W)

/-- Weakest precondition for a postcondition on the outcome and the world. -/
def wp : Prog I ε α → (Except ε α → W → Prop) → W → Prop
  | .ret a, Q, w => Q (.ok a) w
  | .raise e, Q, w => Q (.error e) w
  | .call o k, Q, w => M.pre w o ∧ ∀ x, M.legal w o x → (k x).wp Q (M.next w o x)

variable {M} {p : Prog I ε α} {f : α → Prog I ε β} {w : W} {c : Prop} {q : Prog I ε α}
  {Q : Except ε α → W → Prop} {ψ' : ε → Prop} {R : Except ε α → W → Prop}

lemma wp_mono {Q' : Except ε α → W → Prop}
    (hQ : ∀ r w, Q r w → Q' r w) (h : p.wp M Q w) : p.wp M Q' w := by
  induction p generalizing w with
  | ret a | raise e => exact hQ _ _ h
  | call o k ih => exact ⟨h.1, fun x hx => ih x (h.2 x hx)⟩

lemma wp_and (hQ : p.wp M Q w) (hR : p.wp M R w) : p.wp M (fun r w' => Q r w' ∧ R r w') w := by
  induction p generalizing w with
  | ret a | raise e => exact ⟨hQ, hR⟩
  | call o k ih => exact ⟨hQ.1, fun x hx => ih x (hQ.2 x hx) (hR.2 x hx)⟩

variable (M) in
/-- The postcondition `p >>= f` imposes on `p`. -/
def bindPost (f : α → Prog I ε β) (Q : Except ε β → W → Prop) :
    Except ε α → W → Prop
  | .ok a, w => (f a).wp M Q w
  | .error e, w => Q (.error e) w

lemma wp_bind {Q : Except ε β → W → Prop} : (p >>= f).wp M Q w ↔ p.wp M (bindPost M f Q) w := by
  induction p generalizing w with
  | ret a | raise e => rfl
  | call o k ih =>
    constructor
    · intro h
      exact ⟨h.1, fun x hx => (ih x).mp (h.2 x hx)⟩
    · intro h
      exact ⟨h.1, fun x hx => (ih x).mpr (h.2 x hx)⟩

lemma wp_attempt {Q : Except ε (Except ε α) → W → Prop} :
    p.attempt.wp M Q w ↔ p.wp M (fun r w' => Q (.ok r) w') w := by
  induction p generalizing w with
  | ret a | raise e => rfl
  | call o k ih =>
    constructor
    · intro h
      exact ⟨h.1, fun x hx => (ih x).mp (h.2 x hx)⟩
    · intro h
      exact ⟨h.1, fun x hx => (ih x).mpr (h.2 x hx)⟩

/-- What follows an attempt is asked of every outcome. -/
lemma wp_attempt_seq {f : Except ε α → Prog I ε β} {Q : Except ε β → W → Prop}
    (h : p.wp M (fun r w' => (f r).wp M Q w') w) : (p.attempt >>= f).wp M Q w :=
  wp_bind.mpr (wp_attempt.mpr h)

@[simp] lemma wp_ofExcept {r : Except ε α} :
    (ofExcept r : Prog I ε α).wp M Q w ↔ Q r w := by
  cases r <;> rfl

/-- The sequencing rule: establish an intermediate assertion `R` and go on
from it. -/
lemma wp_seq {Q : Except ε β → W → Prop} (hp : p.wp M R w)
    (hok : ∀ a w', R (.ok a) w' → (f a).wp M Q w')
    (herr : ∀ e w', R (.error e) w' → Q (.error e) w') : (p >>= f).wp M Q w := by
  rw [wp_bind]
  refine wp_mono ?_ hp
  intro r w' hr
  cases r with
  | ok a => exact hok a w' hr
  | error e => exact herr e w' hr

/-- The sequencing rule after a program that raises nothing. -/
lemma wp_seq_returning {Q : Except ε β → W → Prop}
    {R : W → Prop} (hp : p.wp M (fun r w' => R w' ∧ ∀ e, r = .error e → False) w)
    (hf : ∀ a w', R w' → (f a).wp M Q w') : (p >>= f).wp M Q w :=
  wp_seq hp (fun a w' h => hf a w' h.1) fun e _ h => (h.2 e rfl).elim

lemma wp_andFinally {q : Prog I ε Unit}
    (h : p.wp M (fun r w' => q.wp M (fun s w'' => Q (s.bind fun _ => r) w'') w') w) :
    (p.andFinally q).wp M Q w := by
  unfold andFinally
  rw [wp_bind, wp_attempt]
  refine wp_mono ?_ h
  intro r w' hr
  show ((q >>= fun _ => ofExcept r) : Prog I ε α).wp M Q w'
  rw [wp_bind]
  refine wp_mono ?_ hr
  intro s w'' hs
  cases s with
  | ok u => exact wp_ofExcept.mpr hs
  | error e => exact hs

lemma wp_ite [Decidable c]
    (ht : c → p.wp M Q w) (he : ¬ c → q.wp M Q w) : (if c then p else q).wp M Q w := by
  by_cases hc : c
  · rw [if_pos hc]; exact ht hc
  · rw [if_neg hc]; exact he hc

/-! ## The values of a program -/

section Gives

variable {χ : α → Prop} {χ' : β → Prop}

lemma gives_pure {a : α} (h : χ a) : (pure a : Prog I ε α).Gives χ := h

lemma gives_raise {e : ε} : (Prog.raise e : Prog I ε α).Gives χ := trivial

/-- The last program of a sequence decides. -/
lemma gives_bind (hf : ∀ a, (f a).Gives χ') : (p >>= f).Gives χ' := by
  induction p with
  | ret a => exact hf a
  | raise e => trivial
  | call o k ih => exact fun x => ih x

/-- The last program of a sequence, on what the first one gives. -/
lemma Gives.bind (hp : p.Gives χ) (hf : ∀ a, χ a → (f a).Gives χ') : (p >>= f).Gives χ' := by
  induction p with
  | ret a => exact hf a hp
  | raise e => trivial
  | call o k ih => exact fun x => ih x (hp x)

lemma Gives.attempt (hp : p.Gives χ) : p.attempt.Gives fun r => ∀ a, r = .ok a → χ a := by
  induction p with
  | ret a => exact fun b hb => ok.inj hb ▸ hp
  | raise e => exact nofun
  | call o k ih => exact fun x => ih x (hp x)

lemma gives_ite [Decidable c] (hp : p.Gives χ) (hq : q.Gives χ) : (if c then p else q).Gives χ := by
  by_cases hc : c
  · rw [if_pos hc]; exact hp
  · rw [if_neg hc]; exact hq

/-- What a program gives may be used after any of its runs. -/
lemma Gives.wp (hp : p.Gives χ)
    (h : p.wp M Q w) : p.wp M (fun r w' => Q r w' ∧ ∀ a, r = .ok a → χ a) w := by
  induction p generalizing w with
  | ret a => exact ⟨h, fun b hb => ok.inj hb ▸ hp⟩
  | raise e => exact ⟨h, nofun⟩
  | call o k ih => exact ⟨h.1, fun x hx => ih x (hp x) (h.2 x hx)⟩

end Gives

/-! ## Bounding the calls of a program -/

variable {φ : I.Op → Prop} {ψ : ε → Prop}

lemma uses_pure {a : α} : (pure a : Prog I ε α).Uses φ ψ := trivial

lemma uses_raise {e : ε} (h : ψ e) : (Prog.raise e : Prog I ε α).Uses φ ψ := h

lemma uses_bind (hp : p.Uses φ ψ) (hf : ∀ a, (f a).Uses φ ψ) : (p >>= f).Uses φ ψ := by
  induction p with
  | ret a => exact hf a
  | raise e => exact hp
  | call o k ih => exact ⟨hp.1, fun x => ih x (hp.2 x)⟩

/-- The outcome of an attempt is a value, so nothing is raised any more. -/
lemma uses_attempt (hp : p.Uses φ ψ) : p.attempt.Uses φ ψ' := by
  induction p with
  | ret a | raise e => trivial
  | call o k ih => exact ⟨hp.1, fun x => ih x (hp.2 x)⟩

lemma uses_andFinally {q : Prog I ε Unit}
    (hp : p.Uses φ ψ) (hq : q.Uses φ ψ) : (p.andFinally q).Uses φ ψ := by
  induction p with
  | ret a =>
    change (q >>= fun _ => (Prog.ret a : Prog I ε α)).Uses φ ψ
    exact uses_bind hq fun _ => trivial
  | raise e =>
    change (q >>= fun _ => (Prog.raise e : Prog I ε α)).Uses φ ψ
    exact uses_bind hq fun _ => hp
  | call o k ih => exact ⟨hp.1, fun x => ih x (hp.2 x)⟩

lemma uses_ite [Decidable c]
    (hp : p.Uses φ ψ) (hq : q.Uses φ ψ) : (if c then p else q).Uses φ ψ := by
  by_cases hc : c
  · rw [if_pos hc]; exact hp
  · rw [if_neg hc]; exact hq

lemma Uses.mono {φ' : I.Op → Prop} (hφ : ∀ o, φ o → φ' o)
    (hψ : ∀ e, ψ e → ψ' e) (hp : p.Uses φ ψ) : p.Uses φ' ψ' := by
  induction p with
  | ret a => trivial
  | raise e => exact hψ e hp
  | call o k ih => exact ⟨hφ o hp.1, fun x => ih x (hp.2 x)⟩

/-! ## Kept assertions

`Keeps J ψ p` is the special case of `wp` most proofs need: `p` takes `J` to
`J` however it ends, and raises only exceptions in `ψ`. -/

variable (M) in
/-- Every run of `p` from a world in `J` ends in `J`, raising only `ψ`. -/
def Keeps (J : W → Prop) (ψ : ε → Prop) (p : Prog I ε α) : Prop :=
  ∀ w, J w → p.wp M (fun r w' => J w' ∧ ∀ e, r = .error e → ψ e) w

variable (M) in
/-- Every run of `p` from a world in `J` ends in `K`, raising only `ψ`. -/
def Leads (J K : W → Prop) (ψ : ε → Prop) (p : Prog I ε α) : Prop :=
  ∀ w, J w → p.wp M (fun r w' => K w' ∧ ∀ e, r = .error e → ψ e) w

variable {J : W → Prop}

/-- With every exception allowed, only the assertion matters. -/
lemma keeps_iff : p.Keeps M J (fun _ => True) ↔
    ∀ w, J w → p.wp M (fun _ w' => J w') w := by
  constructor
  · intro h w hw
    exact wp_mono (fun _ _ hr => hr.1) (h w hw)
  · intro h w hw
    exact wp_mono (fun _ _ hr => ⟨hr, fun _ _ => trivial⟩) (h w hw)

lemma keeps_pure {a : α} : (pure a : Prog I ε α).Keeps M J ψ :=
  fun _ hw => ⟨hw, nofun⟩

lemma keeps_raise {e : ε} (h : ψ e) : (Prog.raise e : Prog I ε α).Keeps M J ψ :=
  fun _ hw => ⟨hw, fun _ he => error.inj he ▸ h⟩

lemma Keeps.bind (hp : p.Keeps M J ψ) (hf : ∀ a, (f a).Keeps M J ψ) : (p >>= f).Keeps M J ψ := by
  intro w hw
  refine wp_seq (hp w hw) (fun a w' hw' => hf a w' hw'.1) fun e w' hw' => ?_
  exact ⟨hw'.1, fun e' he' => error.inj he' ▸ hw'.2 e rfl⟩

lemma Keeps.ite [Decidable c] (hp : p.Keeps M J ψ)
    (hq : q.Keeps M J ψ) : (if c then p else q).Keeps M J ψ := by
  intro w hw
  exact wp_ite (fun _ => hp w hw) (fun _ => hq w hw)

/-- An attempt raises nothing any more. -/
lemma Keeps.attempt (hp : p.Keeps M J ψ) : p.attempt.Keeps M J ψ' := by
  intro w hw
  rw [wp_attempt]
  refine wp_mono ?_ (hp w hw)
  exact fun _ _ h => ⟨h.1, nofun⟩

variable {K : W → Prop}

lemma Keeps.leads (hp : p.Keeps M J ψ) (hJK : ∀ w, J w → K w) : p.Leads M J K ψ := by
  intro w hw
  exact wp_mono (fun _ w' h => ⟨hJK w' h.1, h.2⟩) (hp w hw)

/-- Lead to `L`, then on to `K`; an exception of the first part already ends
in `K`. -/
lemma Leads.bind {L : W → Prop} (hp : p.Leads M J L ψ) (hLK : ∀ w, L w → K w)
    (hf : ∀ a, (f a).Leads M L K ψ) : (p >>= f).Leads M J K ψ := by
  intro w hw
  refine wp_seq (hp w hw) (fun a w' hw' => hf a w' hw'.1) fun e w' hw' => ?_
  exact ⟨hLK w' hw'.1, fun e' he' => error.inj he' ▸ hw'.2 e rfl⟩

lemma Keeps.bindLeads (hp : p.Keeps M J ψ)
    (hJK : ∀ w, J w → K w) (hf : ∀ a, (f a).Leads M J K ψ) : (p >>= f).Leads M J K ψ :=
  .bind hp hJK hf

lemma Leads.bindKeeps (hp : p.Leads M J K ψ)
    (hf : ∀ a, (f a).Keeps M K ψ) : (p >>= f).Leads M J K ψ :=
  .bind hp (fun _ => id) hf

/-- Lead to `K`, then clean up in `K`. -/
lemma Leads.andFinally {q : Prog I ε Unit} (hp : p.Leads M J K ψ)
    (hq : q.Keeps M K ψ) : (p.andFinally q).Leads M J K ψ := by
  intro w hw
  refine wp_andFinally (wp_mono ?_ (hp w hw))
  intro r w' hr
  refine wp_mono ?_ (hq w' hr.1)
  intro s w'' hs
  refine ⟨hs.1, fun e he => ?_⟩
  cases s with
  | ok u => exact hr.2 e he
  | error e' =>
    have he' : e' = e := error.inj he
    exact he' ▸ hs.2 e' rfl

lemma Leads.ite [Decidable c] (hp : p.Leads M J K ψ)
    (hq : q.Leads M J K ψ) : (if c then p else q).Leads M J K ψ := by
  intro w hw
  exact wp_ite (fun _ => hp w hw) (fun _ => hq w hw)

/-- A program keeps what each of its calls keeps. -/
lemma Uses.keeps (hp : p.Uses φ ψ) (hpre : ∀ w o, φ o → J w → M.pre w o)
    (hstep : ∀ w o x, φ o → J w → M.legal w o x → J (M.next w o x)) : p.Keeps M J ψ := by
  induction p with
  | ret a => exact keeps_pure
  | raise e => exact keeps_raise hp
  | call o k ih =>
    intro w hw
    exact ⟨hpre w o hp.1 hw, fun x hx => ih x (hp.2 x) _ (hstep w o x hp.1 hw hx)⟩

/-! ## Safe programs -/

variable (M) in
/-- All calls of `p` are allowed, from any world on. -/
def Safe (p : Prog I ε α) : Prop := ∀ w, p.wp M (fun _ _ => True) w

lemma safe_pure {a : α} : (pure a : Prog I ε α).Safe M := fun _ => trivial

lemma safe_raise {e : ε} : (Prog.raise e : Prog I ε α).Safe M := fun _ => trivial

lemma Safe.bind (hp : p.Safe M) (hf : ∀ a, (f a).Safe M) : (p >>= f).Safe M :=
  fun w => wp_seq (hp w) (fun a w' _ => hf a w') fun _ _ _ => trivial

lemma Safe.attempt (hp : p.Safe M) : p.attempt.Safe M :=
  fun w => wp_attempt.mpr (hp w)

lemma Safe.ite [Decidable c] (hp : p.Safe M) (hq : q.Safe M) : (if c then p else q).Safe M :=
  fun w => wp_ite (fun _ => hp w) fun _ => hq w

end Prog

/-! ## Completed runs -/

/-- `Exec M p w r w'`: one completed run of `p` from `w`, with outcome `r`. -/
inductive Exec {I : Iface} {ε α W : Type} (M : Machine I W) :
    Prog I ε α → W → Except ε α → W → Prop where
  | ret (a : α) (w : W) : Exec M (.ret a) w (.ok a) w
  | raise (e : ε) (w : W) : Exec M (.raise e) w (.error e) w
  | call {o : I.Op} {k : I.Ans o → Prog I ε α} {w w' : W} {r : Except ε α} (x : I.Ans o)
      (hx : M.legal w o x) (h : Exec M (k x) (M.next w o x) r w') : Exec M (.call o k) w r w'

variable {I : Iface} {ε α W : Type} {M : Machine I W} {p : Prog I ε α} {w w' : W} {β : Type}
  {f : α → Prog I ε β} {r : Except ε α} {w₁ : W}

/-- Soundness of `wp` for completed runs. -/
lemma Exec.post {Q : Except ε α → W → Prop} (h : Exec M p w r w') (hp : p.wp M Q w) : Q r w' := by
  induction h with
  | ret a w | raise e w => exact hp
  | call x hx _ ih => exact ih (hp.2 x hx)

/-- The machine with those answers only that satisfy `φ`. -/
def Machine.promising {I : Iface} {W : Type} (M : Machine I W) (φ : (o : I.Op) → I.Ans o → Prop) :
    Machine I W where
  pre := M.pre
  legal := fun w o x => M.legal w o x ∧ φ o x
  next := M.next

lemma Exec.of_promising {φ : (o : I.Op) → I.Ans o → Prop} (h : Exec (M.promising φ) p w r w') :
    Exec M p w r w' := by
  induction h with
  | ret a w => exact .ret a w
  | raise e w => exact .raise e w
  | call x hx _ ih => exact .call x hx.1 ih

lemma Exec.mono {legal : W → (o : I.Op) → I.Ans o → Prop}
    (h : Exec { M with legal := legal } p w r w') (hlegal : ∀ w o x, legal w o x → M.legal w o x) :
    Exec M p w r w' := by
  induction h with
  | ret a w => exact .ret a w
  | raise e w => exact .raise e w
  | call x hx _ ih => exact .call x (hlegal _ _ x hx) ih

/-- Where every call has an answer, every program has a run. -/
lemma Exec.exists_of_answered (hanswered : ∀ w o, ∃ x, M.legal w o x) (p : Prog I ε α) :
    ∀ w, ∃ r w', Exec M p w r w' := by
  induction p with
  | ret a => exact fun w => ⟨.ok a, w, .ret a w⟩
  | raise e => exact fun w => ⟨.error e, w, .raise e w⟩
  | call o k ih =>
    intro w
    obtain ⟨x, hx⟩ := hanswered w o
    obtain ⟨r, w', hrun⟩ := ih x (M.next w o x)
    exact ⟨r, w', .call x hx hrun⟩

lemma Exec.bind {w₂ : W} {a : α} {r : Except ε β} (hp : Exec M p w (.ok a) w₁)
    (hf : Exec M (f a) w₁ r w₂) : Exec M (p >>= f) w r w₂ := by
  generalize hr : ok a = ra at hp
  induction hp with
  | ret b w =>
    cases hr
    exact hf
  | raise e w => cases hr
  | call x hx _ ih => exact .call x hx (ih hf hr)

lemma Exec.bindError {e : ε} (hp : Exec M p w (.error e) w₁) :
    Exec M (p >>= f) w (.error e) w₁ := by
  generalize hr : error e = re at hp
  induction hp with
  | ret b w => cases hr
  | raise e' w =>
    cases hr
    exact .raise _ _
  | call x hx _ ih => exact .call x hx (ih hr)

/-- A run of a sequence goes through both parts, or the first one raises. -/
lemma Exec.bind_cases {r : Except ε β} (h : Exec M (p >>= f) w r w') :
    (∃ a w₁, Exec M p w (.ok a) w₁ ∧ Exec M (f a) w₁ r w') ∨
      ∃ e, r = .error e ∧ Exec M p w (.error e) w' := by
  induction p generalizing w with
  | ret a => exact .inl ⟨a, w, .ret a w, h⟩
  | raise e =>
    cases h
    exact .inr ⟨e, rfl, .raise e _⟩
  | call o k ih =>
    cases h with
    | call x hx h =>
      rcases ih x h with ⟨a, w₁, hp, hf⟩ | ⟨e, hr, hp⟩
      · exact .inl ⟨a, w₁, .call x hx hp, hf⟩
      · exact .inr ⟨e, hr, .call x hx hp⟩

/-- A run of a sequence that returns is a run of each part. -/
lemma Exec.of_bind {b : β} (h : Exec M (p >>= f) w (.ok b) w') :
    ∃ a w₁, Exec M p w (.ok a) w₁ ∧ Exec M (f a) w₁ (.ok b) w' := by
  rcases h.bind_cases with hboth | ⟨e, hr, _⟩
  · exact hboth
  · cases hr

/-! ## Every world on the way

`wp` speaks about the worlds a program ends in. What holds all along is a
precondition of every call: `watch` adds it, and `Visits.holds` reads it back for
every world a run passes through, whether or not the run completes. -/

/-- The worlds a run of `p` from `w` passes through. -/
inductive Visits {I : Iface} {ε α W : Type} (M : Machine I W) : Prog I ε α → W → W → Prop where
  | here (p : Prog I ε α) (w : W) : Visits M p w w
  | call {o : I.Op} {k : I.Ans o → Prog I ε α} {w w' : W} (x : I.Ans o)
      (hx : M.legal w o x) (h : Visits M (k x) (M.next w o x) w') : Visits M (.call o k) w w'

lemma Visits.bind {w₂ : W} {a : α} (hp : Exec M p w (.ok a) w₁)
    (hf : Visits M (f a) w₁ w₂) : Visits M (p >>= f) w w₂ := by
  generalize hr : ok a = ra at hp
  induction hp with
  | ret b w =>
    cases hr
    exact hf
  | raise e w => cases hr
  | call x hx _ ih => exact .call x hx (ih hf hr)

lemma Exec.visits (h : Exec M p w r w') : Visits M p w w' := by
  induction h with
  | ret a w | raise e w => exact .here _ w
  | call x hx _ ih => exact .call x hx ih

/-- The machine that also demands `φ` before every call. -/
def Machine.watch {I : Iface} {W : Type} (M : Machine I W) (φ : W → Prop) : Machine I W where
  pre := fun w o => M.pre w o ∧ φ w
  legal := M.legal
  next := M.next

section Watch

variable {I : Iface} {ε α W : Type} {M : Machine I W} {φ : W → Prop} {p : Prog I ε α} {w w' : W}
  {Q : Except ε α → W → Prop}

lemma Prog.wp_of_watch (h : p.wp (M.watch φ) Q w) : p.wp M Q w := by
  induction p generalizing w with
  | ret a | raise e => exact h
  | call o k ih =>
    constructor
    · exact h.1.1
    · intro x hx
      exact ih x (h.2 x hx)

lemma Visits.holds (hv : Visits M p w w') (hφ : ∀ r w, Q r w → φ w)
    (h : p.wp (M.watch φ) Q w) : φ w' := by
  induction hv with
  | here p w =>
    cases p with
    | ret a | raise e => exact hφ _ _ h
    | call o k => exact h.1.2
  | call x hx _ ih => exact ih (h.2 x hx)

end Watch

/-! ## The calls on the way -/

/-- A run of `p` from `w` comes to the call `o`, in the world `w'`. -/
inductive Makes {I : Iface} {ε α W : Type} (M : Machine I W) :
    Prog I ε α → W → W → I.Op → Prop where
  | here (o : I.Op) (k : I.Ans o → Prog I ε α) (w : W) : Makes M (.call o k) w w o
  | call {o o' : I.Op} {k : I.Ans o → Prog I ε α} {w w' : W} (x : I.Ans o) (hx : M.legal w o x)
      (h : Makes M (k x) (M.next w o x) w' o') : Makes M (.call o k) w w' o'

lemma Makes.visits {o : I.Op} (h : Makes M p w w' o) : Visits M p w w' := by
  induction h with
  | here o k w => exact .here _ w
  | call x hx _ ih => exact .call x hx ih

/-- A run of `p` from `w` comes to be `p'` in the world `w'`. -/
inductive Comes {I : Iface} {ε α W : Type} (M : Machine I W) :
    Prog I ε α → W → Prog I ε α → W → Prop where
  | here (p : Prog I ε α) (w : W) : Comes M p w p w
  | call {o : I.Op} {k : I.Ans o → Prog I ε α} {w w' : W} {p' : Prog I ε α} (x : I.Ans o)
      (hx : M.legal w o x) (h : Comes M (k x) (M.next w o x) p' w') : Comes M (.call o k) w p' w'

section Comes

variable {I : Iface} {ε α W : Type} {M : Machine I W} {p p' : Prog I ε α} {w w' w'' : W}

lemma Comes.exec {r : Except ε α} (h : Comes M p w p' w') (hrun : Exec M p' w' r w'') :
    Exec M p w r w'' := by
  induction h with
  | here p w => exact hrun
  | call x hx _ ih => exact .call x hx (ih hrun)

lemma Comes.makes {o : I.Op} (h : Comes M p w p' w') (hmakes : Makes M p' w' w'' o) :
    Makes M p w w'' o := by
  induction h with
  | here p w => exact hmakes
  | call x hx _ ih => exact .call x hx (ih hmakes)

lemma Comes.trans {q : Prog I ε α} (h : Comes M p w p' w') (h' : Comes M p' w' q w'') :
    Comes M p w q w'' := by
  induction h with
  | here p w => exact h'
  | call x hx _ ih => exact .call x hx (ih h')

end Comes

/-- What every answer keeps holds all along. -/
lemma Visits.keeps {J : W → Prop} (hv : Visits M p w w')
    (hstep : ∀ w o x, J w → M.legal w o x → J (M.next w o x)) (hw : J w) : J w' := by
  induction hv with
  | here p w => exact hw
  | call x hx _ ih => exact ih (hstep _ _ x hw hx)

/-- The machine that demands `φ` of every call. -/
def Machine.guard {I : Iface} {W : Type} (M : Machine I W) (φ : W → I.Op → Prop) :
    Machine I W where
  pre := fun w o => M.pre w o ∧ φ w o
  legal := M.legal
  next := M.next

section Guard

variable {I : Iface} {ε α W : Type} {M : Machine I W} {φ : W → I.Op → Prop} {p : Prog I ε α}
  {w w' : W} {Q : Except ε α → W → Prop}

lemma Prog.wp_of_guard (h : p.wp (M.guard φ) Q w) : p.wp M Q w := by
  induction p generalizing w with
  | ret a | raise e => exact h
  | call o k ih =>
    constructor
    · exact h.1.1
    · intro x hx
      exact ih x (h.2 x hx)

/-- Every call that a run makes is guarded. -/
lemma Makes.guarded {o : I.Op} (hm : Makes M p w w' o) (h : p.wp (M.guard φ) Q w) : φ w' o := by
  induction hm with
  | here o k w => exact h.1.2
  | call x hx _ ih => exact ih (h.2 x hx)

/-- What every guarded call keeps holds all along. -/
lemma Visits.invariant {J : W → Prop} (hv : Visits M p w w') (h : p.wp (M.guard φ) Q w)
    (hstep : ∀ w o x, J w → φ w o → M.legal w o x → J (M.next w o x)) (hw : J w) : J w' := by
  induction hv with
  | here p w => exact hw
  | call x hx _ ih => exact ih (h.2 x hx) (hstep _ _ x hw h.1.2 hx)

/-- What guards every call, and holds at the end, holds all along. -/
lemma Visits.guarded {ψ : W → Prop} (hv : Visits M p w w') (hφ : ∀ w o, φ w o → ψ w)
    (hQ : ∀ r w, Q r w → ψ w) (h : p.wp (M.guard φ) Q w) : ψ w' := by
  induction hv with
  | here p w =>
    cases p with
    | ret a | raise e => exact hQ _ _ h
    | call o k => exact hφ _ o h.1.2
  | call x hx _ ih => exact ih (h.2 x hx)

end Guard

/-! ## Two endings -/

namespace Prog

variable {I : Iface} {ε α β W : Type} {M : Machine I W}

/-- A value satisfies `K`, and an exception leaves the world in `R`. -/
def Either (K : α → W → Prop) (R : W → Prop) : Except ε α → W → Prop
  | .ok a, w => K a w
  | .error _, w => R w

lemma either_bind {p : Prog I ε α} {f : α → Prog I ε β} {K : α → W → Prop}
    {L : β → W → Prop} {R : W → Prop} {w : W} (hp : p.wp M (Either K R) w)
    (hf : ∀ a w', K a w' → (f a).wp M (Either L R) w') : (p >>= f).wp M (Either L R) w :=
  wp_seq hp hf fun _ _ h => h

lemma either_mono {p : Prog I ε α} {K K' : α → W → Prop} {R R' : W → Prop} {w : W}
    (hp : p.wp M (Either K R) w) (hK : ∀ a w', K a w' → K' a w') (hR : ∀ w', R w' → R' w') :
    p.wp M (Either K' R') w := by
  refine wp_mono ?_ hp
  intro r w' hr
  cases r with
  | ok a => exact hK a w' hr
  | error e => exact hR w' hr

end Prog

namespace Prog

variable {I : Iface} {ε α W : Type} (M : Machine I W)

/-- Run `p` from `w`, answering every call by the strategy `σ`; `none` when
the strategy has no answer. -/
def play (σ : (w : W) → (o : I.Op) → Option {x : I.Ans o // M.legal w o x}) :
    Prog I ε α → W → Option (Except ε α × W)
  | .ret a, w => some (.ok a, w)
  | .raise e, w => some (.error e, w)
  | .call o k, w =>
    match σ w o with
    | some x => (k x.1).play σ (M.next w o x.1)
    | none => none

variable {M} {σ : (w : W) → (o : I.Op) → Option {x : I.Ans o // M.legal w o x}}

lemma exec_of_play {p : Prog I ε α} {r : Except ε α} {w' : W} :
    ∀ {w}, p.play M σ w = some (r, w') → Exec M p w r w' := by
  induction p with
  | ret a =>
    intro w h
    cases h
    exact .ret a _
  | raise e =>
    intro w h
    cases h
    exact .raise e _
  | call o k ih =>
    intro w h
    rw [play] at h
    split at h
    · rename_i x _
      exact .call x.1 x.2 (ih _ h)
    · cases h

variable (M σ)

/-- The world a run by strategy ends in. -/
def finish (p : Prog I ε α) (w : W) : W := ((p.play M σ w).map Prod.snd).getD w

/-- Does the run by strategy return? -/
def returns (p : Prog I ε α) (w : W) : Bool :=
  match p.play M σ w with
  | some (.ok _, _) => true
  | _ => false

variable {M σ}

lemma exec_of_plays {p : Prog I ε α} {w : W} (h : (p.play M σ w).isSome = true) :
    ∃ r, Exec M p w r (p.finish M σ w) := by
  obtain ⟨⟨r, w'⟩, hplay⟩ := Option.isSome_iff_exists.mp h
  have hw' : p.finish M σ w = w' := by
    unfold finish
    rw [hplay]
    rfl
  exact ⟨r, hw' ▸ exec_of_play hplay⟩

lemma exec_of_returns {p : Prog I ε α} {w : W} (h : p.returns M σ w = true) :
    ∃ a, Exec M p w (.ok a) (p.finish M σ w) := by
  unfold returns at h
  split at h
  · rename_i a w' hplay
    have hw' : p.finish M σ w = w' := by
      unfold finish
      rw [hplay]
      rfl
    exact ⟨a, hw' ▸ exec_of_play hplay⟩
  · cases h

end Prog

end Lib
