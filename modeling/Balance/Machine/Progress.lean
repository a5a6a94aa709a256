import Balance.Machine.Tally
import Mathlib.Data.Finset.Max

/-! Runs that get somewhere, because wherever they have not arrived a step brings them nearer. -/

namespace Machine

section Progress

variable {σ α : Type*} {step : σ → α → Option σ} {cond : σ → α → Prop}

/-- A state leads to the goal if, as long as it is not reached, some step lowers the distance. -/
theorem leads_of_progress {goal : σ → Prop} (distance : σ → Nat → Prop)
    (progress : ∀ state far, distance state far → goal state ∨
      ∃ label next near, cond state label ∧ step state label = some next ∧ distance next near ∧
        near < far)
    {state : σ} {far : Nat} (away : distance state far) :
    ∃ final, Leads step cond state final ∧ goal final := by
  -- The distance is a number, and each step makes it smaller.
  induction far using Nat.strong_induction_on generalizing state with
  | h far ih =>
    rcases progress state far away with arrived | ⟨label, next, near, met, taken, nearer, less⟩
    · exact ⟨state, .refl state, arrived⟩
    · obtain ⟨final, leads, arrived⟩ := ih near less nearer
      exact ⟨final, .head label met taken leads, arrived⟩

end Progress

namespace Threads

variable {σ τ : Type*} {measure : σ → Int} {share : τ → Int} {world : Threads σ τ}

/-- Where only finitely many threads have a share, some thread has none. -/
theorem Counts.exists_free (counts : Counts measure share world) :
    ∃ thread, share (world.frame thread) = 0 := by
  obtain ⟨parties, others, _⟩ := counts
  obtain ⟨thread, outside⟩ := parties.exists_notMem
  exact ⟨thread, others thread outside⟩

/-- Where no share is negative and the measure is zero, no thread has a share. -/
theorem Counts.forall_zero (counts : Counts measure share world)
    (ordered : ∀ frame, 0 ≤ share frame) (zero : measure world.shared = 0) (thread : Nat) :
    share (world.frame thread) = 0 := by
  obtain ⟨parties, others, sums⟩ := counts
  rw [zero] at sums
  by_cases member : thread ∈ parties
  · exact (Finset.sum_eq_zero_iff_of_nonneg fun party _ => ordered _).mp sums thread member
  · exact others thread member

/-- Where no thread has a share, the measure is zero. -/
theorem Counts.eq_zero (counts : Counts measure share world)
    (free : ∀ thread, share (world.frame thread) = 0) : measure world.shared = 0 := by
  obtain ⟨parties, _, sums⟩ := counts
  rw [← sums]
  exact Finset.sum_eq_zero fun thread _ => free thread

/-- Where no share is negative, a thread's share is no larger than the measure. -/
theorem Counts.share_le (counts : Counts measure share world)
    (ordered : ∀ frame, 0 ≤ share frame) (thread : Nat) :
    share (world.frame thread) ≤ measure world.shared := by
  obtain ⟨parties, others, sums⟩ := counts
  rw [← sums]
  by_cases member : thread ∈ parties
  · exact Finset.single_le_sum (f := fun party => share (world.frame party))
      (fun party _ => ordered _) member
  · have none : share (world.frame thread) = 0 := others thread member
    rw [none]
    exact Finset.sum_nonneg fun party _ => ordered _

/-- Only finitely many threads have a share after a run if only finitely many had one before. -/
theorem exists_tallies_of_exec (share : τ → Int) {χ : Type*} {advance : σ → τ → χ → Option (σ × τ)}
    {start final : Threads σ τ} {trace : List (Nat × χ)}
    (initial : ∃ total, Tallies (fun thread => share (start.frame thread)) total)
    (ran : exec (step advance) start trace = some final) :
    ∃ total, Tallies (fun thread => share (final.frame thread)) total := by
  refine exec_invariant
    (fun world : Threads σ τ => ∃ total, Tallies (fun thread => share (world.frame thread)) total)
    ?_ initial ran
  intro world label next counted taken
  obtain ⟨total, tallies⟩ := counted
  obtain ⟨shared, frame, _, rfl⟩ := step_eq_some.mp taken
  have changed := tallies.update label.1 (share frame)
  rw [← read_update] at changed
  exact ⟨_, changed⟩

end Threads

end Machine
