import CivicCast.Lib.Prog

/-! # Interleaving programs call by call

Several threads, each a program over one interface, share one world: a step
makes the next call of one thread. Every thread carries an auxiliary state, moved
by a `Monitor` along the calls of that thread alone; it never blocks a step.

A monitor splits a proof about interleavings in two. Each program is checked
against its own monitor, with no other thread in sight (`Monitor.Admits`, which
is a `wp`); and an invariant of the world and all the auxiliary states is kept
by every call a monitor allows (`Reach.invariant`). With a machine over the auxiliary
state in place of the monitor a thread may also rely on answers (`Reach.contract`).
-/

namespace Lib

open Function

/-- An automaton over the calls of one thread: which calls it allows, and how
an answer moves it. -/
structure Monitor (I : Iface) (G : Type) where
  allows : G → I.Op → Prop
  next : G → (o : I.Op) → I.Ans o → G

namespace Monitor

variable {I : Iface} {G : Type} {ε α : Type}

/-- A monitor as a machine in which every answer is legal. -/
def toMachine (A : Monitor I G) : Machine I G where
  pre := A.allows
  legal := fun _ _ _ => True
  next := A.next

/-- Every call of `p` from the auxiliary state `g` on is allowed. -/
def Admits (A : Monitor I G) (p : Prog I ε α) (g : G) : Prop :=
  p.wp A.toMachine (fun _ _ => True) g

end Monitor

/-- A machine over the auxiliary state of one thread: what it may call, and what it can
rely on in the answers. -/
def Machine.toMonitor {I : Iface} {G : Type} (B : Machine I G) : Monitor I G where
  allows := B.pre
  next := B.next

/-- The threads' remaining programs, their auxiliary states, and the world. -/
structure Config (T : Type) (I : Iface) (ε G W : Type) where
  code : T → Prog I ε Unit
  ghost : T → G
  world : W

namespace Config

variable {T : Type} [DecidableEq T] {I : Iface} {ε G W : Type} (M : T → Machine I W)
  (A : T → Monitor I G)

/-- Thread `t` gets the answer `x` to its call of `o` and goes on with `p`. -/
def advance (c : Config T I ε G W) (t : T) (o : I.Op) (x : I.Ans o) (p : Prog I ε Unit) :
    Config T I ε G W where
  code := update c.code t p
  ghost := update c.ghost t ((A t).next (c.ghost t) o x)
  world := (M t).next c.world o x

/-- The configurations reached from `c₀` by calls that all satisfy `ok` in the
auxiliary states they are made in. -/
inductive Reach (ok : (T → G) → I.Op → Prop) (c₀ : Config T I ε G W) :
    Config T I ε G W → Prop where
  | refl : Reach ok c₀ c₀
  | step {c : Config T I ε G W} {t : T} {o : I.Op} {k : I.Ans o → Prog I ε Unit}
      (hc : Reach ok c₀ c) (hcode : c.code t = .call o k) (hok : ok c.ghost o) (x : I.Ans o)
      (hx : (M t).legal c.world o x) : Reach ok c₀ (c.advance M A t o x (k x))

variable {M A} {ok : (T → G) → I.Op → Prop} {c₀ c : Config T I ε G W}

/-- A run under a condition is a run under a weaker one. -/
lemma Reach.mono {ok' : (T → G) → I.Op → Prop} (h : Reach M A ok c₀ c)
    (hok : ∀ g o, ok g o → ok' g o) : Reach M A ok' c₀ c := by
  induction h with
  | refl => exact .refl
  | step _ hcall hcond x hx ih => exact ih.step hcall (hok _ _ hcond) x hx

/-- A program that its monitor admits stays admitted. -/
lemma Reach.admits (h : Reach M A ok c₀ c) (hcode : ∀ t, (A t).Admits (c₀.code t) (c₀.ghost t)) :
    ∀ t, (A t).Admits (c.code t) (c.ghost t) := by
  induction h with
  | refl => exact hcode
  | @step c t o k _ hcall _ x _ ih =>
    intro t'
    by_cases ht : t' = t
    · subst ht
      have hwp := ih t'
      rw [hcall] at hwp
      simp only [advance, update_self]
      exact hwp.2 x trivial
    · simp only [advance, update_of_ne ht]
      exact ih t'

/-- The invariant rule: programs admitted by their monitors, and a fact about
the world and the auxiliary states that every allowed call keeps. -/
lemma Reach.invariant {J : (T → G) → W → Prop} (h : Reach M A ok c₀ c)
    (hcode : ∀ t, (A t).Admits (c₀.code t) (c₀.ghost t)) (hinit : J c₀.ghost c₀.world)
    (hstep : ∀ g w t o x, J g w → ok g o → (A t).allows (g t) o → (M t).legal w o x →
      J (update g t ((A t).next (g t) o x)) ((M t).next w o x)) :
    J c.ghost c.world := by
  induction h with
  | refl => exact hinit
  | @step c t o k hreach hcall hok x hx ih =>
    have hadmits := hreach.admits hcode t
    rw [hcall] at hadmits
    exact hstep c.ghost c.world t o x ih hok hadmits.1 hx

/-- The contract rule: every thread meets its own contract, and the invariant gives
each of them the answers it relies on. -/
lemma Reach.contract {B : T → Machine I G} {Q : T → Except ε Unit → G → Prop}
    {J : (T → G) → W → Prop} (h : Reach M (fun t => (B t).toMonitor) ok c₀ c)
    (hcode : ∀ t, (c₀.code t).wp (B t) (Q t) (c₀.ghost t)) (hinit : J c₀.ghost c₀.world)
    (hstep : ∀ g w t o x, J g w → ok g o → (B t).pre (g t) o → (M t).legal w o x →
      (B t).legal (g t) o x ∧
        J (update g t ((B t).next (g t) o x)) ((M t).next w o x)) :
    (∀ t, (c.code t).wp (B t) (Q t) (c.ghost t)) ∧ J c.ghost c.world := by
  induction h with
  | refl => exact ⟨hcode, hinit⟩
  | @step c t o k _ hcall hok x hx ih =>
    rcases ih with ⟨hwp, hJ⟩
    have hcalled := hwp t
    rw [hcall] at hcalled
    rcases hstep c.ghost c.world t o x hJ hok hcalled.1 hx with ⟨hlegal, hkept⟩
    refine ⟨?_, hkept⟩
    intro t'
    by_cases ht : t' = t
    · subst ht
      simp only [advance, update_self]
      exact hcalled.2 x hlegal
    · simp only [advance, update_of_ne ht]
      exact hwp t'

/-! ## Driving a schedule -/

section Drive

variable (M A)
variable (σ : (t : T) → (w : W) → (o : I.Op) → Option {x : I.Ans o // (M t).legal w o x})
  (ok : (T → G) → I.Op → Prop) [∀ g o, Decidable (ok g o)]

/-- Let the threads of the schedule make one call each, in order, answered by
the strategy. A thread that has finished does nothing; `none` when a call is
not `ok` or the strategy has no answer. -/
def drive : List T → Config T I ε G W → Option (Config T I ε G W)
  | [], c => some c
  | t :: rest, c =>
    match c.code t with
    | .call o k =>
      if ok c.ghost o then
        match σ t c.world o with
        | some x => drive rest (c.advance M A t o x.1 (k x.1))
        | none => none
      else none
    | _ => drive rest c

variable {M A σ ok}

lemma reach_of_drive {schedule : List T} :
    ∀ {c}, Reach M A ok c₀ c → ∀ {c'}, drive M A σ ok schedule c = some c' →
      Reach M A ok c₀ c' := by
  induction schedule with
  | nil =>
    intro c hc c' h
    cases h
    exact hc
  | cons t rest ih =>
    intro c hc c' h
    rw [drive] at h
    split at h
    · rename_i o k hcall
      split at h
      · rename_i hok
        split at h
        · rename_i x _
          exact ih (hc.step hcall hok x.1 x.2) h
        · cases h
      · cases h
    · exact ih hc h

end Drive

end Config

end Lib
