import Mathlib

/-!
# A sliding window of hits

A limiter that keeps the times of its hits in a queue, drops from the front what is older than
the window, and takes another hit only while fewer than `limit` are left. `within_append_le`
is the bound it keeps: no closed interval as long as the window holds more than `limit` of all
the hits it ever took.
-/

namespace Lib

open List

variable {τ : Type} [AddCommGroup τ] [LinearOrder τ]

/-- The queue without the hits at its front that are before `start`. -/
def prune (start : τ) (hits : List τ) : List τ := hits.dropWhile (· < start)

/-- The queue holds all hits of the log but some that are before `start`. -/
def Tracks (start : τ) (log hits : List τ) : Prop :=
  ∃ gone, log = gone ++ hits ∧ ∀ t ∈ gone, t < start

/-- How many hits of the log are in the closed interval of length `w` from `t` on. -/
def within (w t : τ) (log : List τ) : ℕ := log.countP fun x => t ≤ x ∧ x ≤ t + w

namespace Tracks

variable {start start' : τ} {log hits : List τ}

omit [AddCommGroup τ] in
lemma mono (h : Tracks start log hits) (hle : start ≤ start') : Tracks start' log hits := by
  obtain ⟨gone, hlog, hold⟩ := h
  exact ⟨gone, hlog, fun t ht => (hold t ht).trans_le hle⟩

omit [AddCommGroup τ] in
lemma prune (h : Tracks start log hits) : Tracks start log (prune start hits) := by
  obtain ⟨gone, hlog, hold⟩ := h
  refine ⟨gone ++ hits.takeWhile (· < start), ?_, ?_⟩
  · rw [hlog, append_assoc]
    congr 1
    exact takeWhile_append_dropWhile.symm
  · intro t ht
    rcases mem_append.mp ht with ht | ht
    · exact hold t ht
    · simpa using mem_takeWhile_imp ht

omit [AddCommGroup τ] in
lemma append (h : Tracks start log hits) (now : τ) :
    Tracks start (log ++ [now]) (hits ++ [now]) := by
  obtain ⟨gone, hlog, hold⟩ := h
  exact ⟨gone, by rw [hlog, append_assoc], hold⟩

end Tracks

variable [IsOrderedAddMonoid τ] {w now : τ} {log hits : List τ} {limit : ℕ}

/-- A hit taken while the queue is shorter than the limit keeps every interval within it. -/
lemma within_append_le (h : Tracks (now - w) log hits) (hroom : hits.length < limit)
    (hbound : ∀ t, within w t log ≤ limit) (t : τ) : within w t (log ++ [now]) ≤ limit := by
  unfold within at hbound ⊢
  rw [countP_append]
  by_cases hin : t ≤ now ∧ now ≤ t + w
  · -- what is in the interval with this hit is still in the queue
    obtain ⟨gone, rfl, hold⟩ := h
    have hgone : gone.countP (fun x => t ≤ x ∧ x ≤ t + w) = 0 := by
      rw [countP_eq_zero]
      intro x hx
      have hlt : x < t := (hold x hx).trans_le (sub_le_iff_le_add.mpr hin.2)
      simp [hlt]
    have hkept : hits.countP (fun x => t ≤ x ∧ x ≤ t + w) ≤ hits.length := countP_le_length
    have hone : [now].countP (fun x => t ≤ x ∧ x ≤ t + w) ≤ 1 := countP_le_length
    rw [countP_append, hgone]
    omega
  · have hnone : [now].countP (fun x => t ≤ x ∧ x ≤ t + w) = 0 := by
      simpa [countP_singleton] using hin
    rw [hnone]
    exact hbound t

end Lib
