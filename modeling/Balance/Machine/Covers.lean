import Balance.Machine.Threads
import Mathlib.Algebra.BigOperators.Group.Finset.Piecewise
import Mathlib.Algebra.Order.BigOperators.Group.Finset

/-! Shared counters that are never smaller than what the threads are owed together. -/

namespace Machine.Threads

variable {σ τ : Type*} {measure : σ → Int} {share : τ → Int} {world : Threads σ τ}

/-- The shares of any threads add up to no more than the measure. -/
def Covers (measure : σ → Int) (share : τ → Int) (world : Threads σ τ) : Prop :=
  ∀ threads : Finset Nat, ∑ thread ∈ threads, share (world.frame thread) ≤ measure world.shared

/-- A measure that covers all shares is not negative. -/
theorem Covers.nonneg (covers : Covers measure share world) : 0 ≤ measure world.shared := by
  simpa using covers ∅

/-- A measure that covers all shares is at least the number of threads with a whole share. -/
theorem Covers.card_le (covers : Covers measure share world) (threads : Finset Nat)
    (whole : ∀ thread ∈ threads, 1 ≤ share (world.frame thread)) :
    (threads.card : Int) ≤ measure world.shared := by
  -- Each of the threads contributes one to the sum of the shares.
  calc (threads.card : Int) = ∑ _thread ∈ threads, (1 : Int) := by simp
    _ ≤ ∑ thread ∈ threads, share (world.frame thread) := Finset.sum_le_sum whole
    _ ≤ measure world.shared := covers threads

/-- A thread that has a share finds the measure positive. -/
theorem Covers.pos (covers : Covers measure share world) {thread : Nat}
    (whole : 1 ≤ share (world.frame thread)) : 1 ≤ measure world.shared := by
  simpa using covers.card_le {thread} (by simpa using whole)

/-- A measure goes on covering all shares if it grows by as much as the share of the mover does. -/
theorem Covers.advance (nonneg : ∀ frame, 0 ≤ share frame) (covers : Covers measure share world)
    {shared : σ} {thread : Nat} {after : τ}
    (booked : share after - share (world.frame thread) ≤ measure shared - measure world.shared) :
    Covers measure share ⟨shared, Function.update world.frame thread after⟩ := by
  intro threads
  -- Counting the mover in only makes the sum larger, and its share is then known.
  have moved : (fun reader => share (Function.update world.frame thread after reader)) =
      Function.update (fun reader => share (world.frame reader)) thread (share after) :=
    read_update share world thread after
  have before := covers (insert thread threads)
  have mover : thread ∈ insert thread threads := Finset.mem_insert_self thread threads
  calc ∑ reader ∈ threads, share (Function.update world.frame thread after reader)
      ≤ ∑ reader ∈ insert thread threads, share (Function.update world.frame thread after reader) :=
        Finset.sum_le_sum_of_subset_of_nonneg (Finset.subset_insert thread threads)
          fun reader _ _ => nonneg _
    _ = share after + ∑ reader ∈ insert thread threads \ {thread}, share (world.frame reader) := by
        rw [moved, Finset.sum_update_of_mem mover]
    _ ≤ measure shared := by
        rw [← Finset.add_sum_erase _ _ mover, ← Finset.sdiff_singleton_eq_erase] at before
        omega

end Machine.Threads
