import Balance.Go.Collections
import Mathlib.Order.Defs.LinearOrder
import Mathlib.Data.List.GetD
import Mathlib.Data.List.Pairwise
import Mathlib.Data.Set.Basic

/-! Points on a ring, and the next of them clockwise, as a sorted slice gives it. -/

namespace Go

/-- Words of 32 bits are ordered by their value. -/
scoped instance linearOrderUInt32 : LinearOrder UInt32 where
  le_refl := UInt32.le_refl
  le_trans := fun _ _ _ => UInt32.le_trans
  le_antisymm := fun _ _ => UInt32.le_antisymm
  le_total := UInt32.le_total
  lt_iff_le_not_ge := fun first second => by
    -- Both orders are those of the values.
    simp only [UInt32.lt_iff_toNat_lt, UInt32.le_iff_toNat_le]
    omega
  toDecidableLE := inferInstance

section Clockwise

variable {α : Type*} [LinearOrder α]

/--
The next point at or after a place, going clockwise.

Past the last point, the ring goes on with the first.
-/
structure IsNext (points : Set α) (place point : α) : Prop where
  mem : point ∈ points
  first : place ≤ point → ∀ other ∈ points, place ≤ other → point ≤ other
  around : point < place → ∀ other ∈ points, other < place ∧ point ≤ other

/-- There is one next point at most. -/
theorem IsNext.unique {points : Set α} {place first second : α} (left : IsNext points place first)
    (right : IsNext points place second) : first = second := by
  -- A point past the last one excludes any point at or after the place.
  rcases le_or_gt place first with ahead | behind
  · rcases le_or_gt place second with also | past
    · exact le_antisymm (left.first ahead second right.mem also)
        (right.first also first left.mem ahead)
    · exact absurd ahead (not_le.mpr (right.around past first left.mem).1)
  · have past := (left.around behind second right.mem).1
    exact le_antisymm (left.around behind second right.mem).2
      (right.around past first left.mem).2

/-- Taking points away leaves the next point the next, as long as it is still there. -/
theorem IsNext.of_subset {smaller larger : Set α} {place point : α} (within : smaller ⊆ larger)
    (next : IsNext larger place point) (mem : point ∈ smaller) : IsNext smaller place point where
  mem := mem
  first := fun ahead other member => next.first ahead other (within member)
  around := fun behind other member => next.around behind other (within member)

/-- In a sorted slice, the next point is where the points before the place end, or the first. -/
theorem isNext_getD {ring : List α} (sorted : ring.Pairwise (· ≤ ·)) {place : α} (zero : α)
    (occupied : ring ≠ []) {idx : Nat} (short : idx ≤ ring.length)
    (before : 0 < idx → ring.getD (idx - 1) zero < place)
    (reached : idx < ring.length → place ≤ ring.getD idx zero) :
    IsNext {point | point ∈ ring} place
      (ring.getD (if idx ≥ ring.length then 0 else idx) zero) := by
  have length : 0 < ring.length := List.length_pos_iff.mpr occupied
  have ordered {i j : Nat} (le : i ≤ j) (within : j < ring.length) :
      ring.getD i zero ≤ ring.getD j zero := by
    rw [List.getD_eq_getElem _ _ (by omega), List.getD_eq_getElem _ _ within]
    exact sorted.rel_get_of_le (a := ⟨i, by omega⟩) (b := ⟨j, within⟩) le
  have present {i : Nat} (within : i < ring.length) : ring.getD i zero ∈ ring := by
    rw [List.getD_eq_getElem _ _ within]
    exact List.getElem_mem within
  have listed {point : α} (member : point ∈ ring) :
      ∃ i, i < ring.length ∧ ring.getD i zero = point := by
    obtain ⟨i, within, found⟩ := List.getElem_of_mem member
    exact ⟨i, within, by rw [List.getD_eq_getElem _ _ within, found]⟩
  -- Points further back than the one before the position lie before the place all the more.
  have behind {i : Nat} (earlier : i < idx) : ring.getD i zero < place :=
    lt_of_le_of_lt (ordered (by omega) (by omega)) (before (by omega))
  by_cases past : idx ≥ ring.length
  · -- Every point lies before the place, so the ring starts over.
    rw [if_pos past]
    refine ⟨present length, ?_, ?_⟩
    · intro ahead
      exact absurd ahead (not_le.mpr (behind (by omega)))
    · intro _ other member
      obtain ⟨i, within, rfl⟩ := listed member
      exact ⟨behind (by omega), ordered (Nat.zero_le i) within⟩
  · rw [if_neg past]
    refine ⟨present (by omega), ?_, ?_⟩
    · intro _ other member ahead
      obtain ⟨i, within, rfl⟩ := listed member
      rcases Nat.lt_or_ge i idx with earlier | later
      · exact absurd ahead (not_le.mpr (behind earlier))
      · exact ordered later within
    · intro before
      exact absurd (reached (by omega)) (not_le.mpr before)

/-- Binary search for a place in a sorted slice finds the next point. -/
theorem isNext_search {ring : List α} (sorted : ring.Pairwise (· ≤ ·)) (place zero : α)
    (occupied : ring ≠ []) :
    let idx := search (fun i => decide (ring.getD i zero ≥ place)) ring.length
    IsNext {point | point ∈ ring} place
      (ring.getD (if idx ≥ ring.length then 0 else idx) zero) := by
  -- The search ends between a point before the place and one that has reached it.
  obtain ⟨short, before, reached⟩ :=
    search_spec (fun i => decide (ring.getD i zero ≥ place)) ring.length
  apply isNext_getD sorted zero occupied short
  · intro positive
    exact not_le.mp (of_decide_eq_false (before positive))
  · intro inside
    exact of_decide_eq_true (reached inside)

end Clockwise

end Go
