import Balance.Machine.Threads
import Mathlib.Algebra.BigOperators.Group.Finset.Piecewise
import Mathlib.Algebra.BigOperators.Ring.Finset
import Mathlib.Algebra.Order.BigOperators.Group.Finset

/-! Counters that are exactly what finitely many parties contribute to them. -/

namespace Machine

section Tallies

variable {ι : Type*} {amount other : ι → Int} {total less : Int}

/-- Only finitely many parties contribute, and their amounts add up to the total. -/
def Tallies (amount : ι → Int) (total : Int) : Prop :=
  ∃ parties : Finset ι, (∀ party, party ∉ parties → amount party = 0) ∧
    ∑ party ∈ parties, amount party = total

/-- Where nobody contributes, the total is zero. -/
theorem tallies_zero : Tallies (fun _ : ι => 0) 0 := ⟨∅, by simp, by simp⟩

/-- A total may be taken over any parties that include all that contribute. -/
theorem Tallies.sum_of_superset (tallies : Tallies amount total) :
    ∃ parties : Finset ι, ∀ more, parties ⊆ more → ∑ party ∈ more, amount party = total := by
  obtain ⟨parties, others, rfl⟩ := tallies
  refine ⟨parties, ?_⟩
  intro more within
  exact (Finset.sum_subset within fun party _ outside => others party outside).symm

/-- Whoever contributes no more gives no larger total. -/
theorem Tallies.le (smaller : Tallies amount less) (larger : Tallies other total)
    (ordered : ∀ party, amount party ≤ other party) : less ≤ total := by
  classical
  -- Both totals are taken over the parties of either.
  obtain ⟨left, first⟩ := smaller.sum_of_superset
  obtain ⟨right, second⟩ := larger.sum_of_superset
  rw [← first (left ∪ right) Finset.subset_union_left,
    ← second (left ∪ right) Finset.subset_union_right]
  exact Finset.sum_le_sum fun party _ => ordered party

/-- There is one total only. -/
theorem Tallies.unique (left : Tallies amount less) (right : Tallies amount total) :
    less = total :=
  le_antisymm (left.le right fun _ => le_rfl) (right.le left fun _ => le_rfl)

/-- Parties that contribute nothing negative give no negative total. -/
theorem Tallies.nonneg (tallies : Tallies amount total) (ordered : ∀ party, 0 ≤ amount party) :
    0 ≤ total :=
  tallies_zero.le tallies ordered

/-- When one party changes its amount, the total changes by as much. -/
theorem Tallies.update [DecidableEq ι] (tallies : Tallies amount total) (party : ι) (new : Int) :
    Tallies (Function.update amount party new) (total + (new - amount party)) := by
  obtain ⟨parties, sums⟩ := tallies.sum_of_superset
  obtain ⟨own, others, _⟩ := tallies
  -- The party is counted among those that contribute, whether it did before or not.
  have mover : party ∈ insert party (parties ∪ own) := Finset.mem_insert_self _ _
  refine ⟨insert party (parties ∪ own), ?_, ?_⟩
  · intro reader outside
    simp only [Finset.mem_insert, Finset.mem_union, not_or] at outside
    rw [Function.update_of_ne outside.1]
    exact others reader outside.2.2
  · rw [Finset.sum_update_of_mem mover, Finset.sdiff_singleton_eq_erase]
    have before := sums (insert party (parties ∪ own))
      (Finset.subset_union_left.trans (Finset.subset_insert _ _))
    rw [← Finset.add_sum_erase _ _ mover] at before
    omega

/-- A total is taken over exactly the parties that contribute. -/
theorem Tallies.support (tallies : Tallies amount total) :
    ∃ parties : Finset ι, (∀ party, party ∈ parties ↔ amount party ≠ 0) ∧
      total = ∑ party ∈ parties, amount party := by
  obtain ⟨parties, others, rfl⟩ := tallies
  refine ⟨parties.filter fun party => amount party ≠ 0, ?_, ?_⟩
  · -- A party that contributes is among those that may.
    intro party
    rw [Finset.mem_filter, and_iff_right_iff_imp]
    intro own
    by_contra outside
    exact own (others party outside)
  · rw [Finset.sum_filter_ne_zero]

/-- If each party contributes one or nothing, the total is the number of those that contribute. -/
theorem Tallies.card {marked : ι → Bool}
    (tallies : Tallies (fun party => if marked party then 1 else 0) total) :
    ∃ parties : Finset ι, (∀ party, party ∈ parties ↔ marked party = true) ∧
      total = parties.card := by
  obtain ⟨parties, listed, rfl⟩ := tallies.support
  have marks : ∀ party, party ∈ parties ↔ marked party = true := by
    intro party
    rw [listed]
    cases marked party <;> simp
  refine ⟨parties, marks, ?_⟩
  -- Every party in the sum contributes one.
  rw [Finset.sum_congr rfl fun party member => if_pos ((marks party).mp member)]
  simp

end Tallies

namespace Threads

variable {σ τ : Type*} {measure : σ → Int} {share : τ → Int} {world : Threads σ τ}

/-- The measure is what the shares of all threads add up to. -/
def Counts (measure : σ → Int) (share : τ → Int) (world : Threads σ τ) : Prop :=
  Tallies (fun thread => share (world.frame thread)) (measure world.shared)

/-- The shares go on being counted by what changes by as much as the share of the mover. -/
theorem Counts.advance {later : σ → Int} (counts : Counts measure share world) {shared : σ}
    {thread : Nat} {after : τ}
    (booked : share after - share (world.frame thread) = later shared - measure world.shared) :
    Counts later share ⟨shared, Function.update world.frame thread after⟩ := by
  have moved : (fun reader => share (Function.update world.frame thread after reader)) =
      Function.update (fun reader => share (world.frame reader)) thread (share after) :=
    read_update share world thread after
  have changed := Tallies.update counts thread (share after)
  rw [booked, add_sub_cancel, ← moved] at changed
  exact changed

end Threads

end Machine
