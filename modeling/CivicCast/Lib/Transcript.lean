import CivicCast.Lib.Prog

/-! # Transcripts

What a run did is the list of its calls with their answers, in their order. The `transcript`
machine answers anything and writes every call down. A run on any other machine has a transcript
too (`Exec.transcribed`), so what holds of every transcript holds of every run.
-/

namespace Lib

/-- A call and its answer. -/
abbrev Iface.Entry (I : Iface) : Type := (o : I.Op) × I.Ans o

/-- Anything may be answered, and every call is written down. -/
def transcript (I : Iface) : Machine I (List I.Entry) where
  pre := fun _ _ => True
  legal := fun _ _ _ => True
  next := fun log o x => log ++ [⟨o, x⟩]

variable {I : Iface} {ε α W : Type} {p : Prog I ε α} {r : Except ε α}

/-- Every run has a transcript. -/
lemma Exec.transcribed {M : Machine I W} {w w' : W} (h : Exec M p w r w') :
    ∀ log, ∃ log', Exec (transcript I) p log r log' := by
  induction h with
  | ret a w => exact fun log => ⟨log, .ret a log⟩
  | raise e w => exact fun log => ⟨log, .raise e log⟩
  | call x hx _ ih =>
    intro log
    obtain ⟨log', h⟩ := ih (log ++ [⟨_, x⟩])
    exact ⟨log', .call x trivial h⟩

/-! ## Reading a run backwards -/

section

variable {M : Machine I W} {w w' : W}

lemma Exec.of_pure {a b : α} (h : Exec M (pure a : Prog I ε α) w (.ok b) w') : b = a ∧ w' = w := by
  cases h
  exact ⟨rfl, rfl⟩

lemma Exec.of_ite {c : Prop} [Decidable c] {q : Prog I ε α}
    (h : Exec M (if c then p else q) w r w') : (c ∧ Exec M p w r w') ∨ (¬c ∧ Exec M q w r w') := by
  by_cases hc : c
  · exact .inl ⟨hc, by simpa [hc] using h⟩
  · exact .inr ⟨hc, by simpa [hc] using h⟩

/-- An attempt returns the outcome of the run. -/
lemma Exec.of_attempt (h : Exec M p.attempt w (.ok r) w') : Exec M p w r w' := by
  induction p generalizing w with
  | ret a =>
    cases h
    exact .ret a _
  | raise e =>
    cases h
    exact .raise e _
  | call o k ih =>
    cases h with
    | call x hx h => exact .call x hx (ih x h)

end

section

variable {log log' : List I.Entry}

lemma Exec.extends (h : Exec (transcript I) p log r log') : ∃ more, log' = log ++ more := by
  induction h with
  | ret a log | raise e log => exact ⟨[], by simp⟩
  | call x _ _ ih =>
    obtain ⟨more, rfl⟩ := ih
    exact ⟨⟨_, x⟩ :: more, by simp [transcript]⟩

lemma Exec.of_lift {o : I.Op} {x : I.Ans o}
    (h : Exec (transcript I) (Prog.lift o : Prog I ε (I.Ans o)) log (.ok x) log') :
    log' = log ++ [⟨o, x⟩] := by
  cases h with
  | call y _ h =>
    cases h
    rfl

end

end Lib
