import Balance.Go.Clockwise
import Mathlib.Data.List.Sort
import Mathlib.Data.List.Rotate

/-! A ring of points with their owners, kept as a sorted slice and a map, and the way around it. -/

namespace Go

section Ring

variable {α ν : Type*} (points : ν → List α)

/-- The points of all owners, each with its owner, in the order in which they are added. -/
def ringNodes (owners : List ν) : List (α × ν) :=
  owners.flatMap fun owner => (points owner).map fun point => (point, owner)

/-- The slice of a ring, sorted after all points have been added. -/
def ringOf [LinearOrder α] (owners : List ν) : List α :=
  ((ringNodes points owners).map Prod.fst).insertionSort (· ≤ ·)

/-- The map of a ring, in which a later owner takes a point over from an earlier one. -/
def ownerOf [DecidableEq α] (owners : List ν) : α → Option ν :=
  writeAll (ringNodes points owners) fun _ => none

variable {points} {owners : List ν} {point : α}

/-- Only the points of the owners themselves matter. -/
theorem ringNodes_congr {other : ν → List α} (same : ∀ owner ∈ owners, points owner = other owner) :
    ringNodes points owners = ringNodes other owners := by
  -- The nodes are listed owner by owner.
  induction owners with
  | nil => rfl
  | cons first rest ih =>
    obtain ⟨here, later⟩ := List.forall_mem_cons.mp same
    simp only [ringNodes, List.flatMap_cons] at ih ⊢
    rw [here, ih later]

/-- The slice of a ring is sorted. -/
theorem ringOf_sorted [LinearOrder α] : (ringOf points owners).Pairwise (· ≤ ·) :=
  List.pairwise_insertionSort _ _

/-- The points of a ring are those of its owners. -/
theorem mem_ringOf [LinearOrder α] :
    point ∈ ringOf points owners ↔ ∃ owner ∈ owners, point ∈ points owner := by
  -- Sorting neither adds nor drops a point.
  simp [ringOf, ringNodes, List.mem_insertionSort]

variable [DecidableEq α]

/-- An owner who comes last has all of their points, and leaves the others as they were. -/
theorem ownerOf_concat (owners : List ν) (last : ν) (point : α) :
    ownerOf points (owners ++ [last]) point =
      if point ∈ points last then some last else ownerOf points owners point := by
  -- The nodes of the last owner are written last.
  have split : ringNodes points (owners ++ [last]) =
      ringNodes points owners ++ (points last).map fun point => (point, last) := by
    simp [ringNodes]
  rw [ownerOf, split, writeAll_append]
  by_cases own : point ∈ points last
  · rw [if_pos own]
    apply writeAll_of_forall_eq
    · exact ⟨(point, last), List.mem_map.mpr ⟨point, own, rfl⟩, rfl⟩
    · intro node member
      obtain ⟨_, _, rfl⟩ := List.mem_map.mp member
      rfl
  · rw [if_neg own]
    apply writeAll_of_not_mem
    intro node member here
    obtain ⟨other, listed, rfl⟩ := List.mem_map.mp member
    exact own (here ▸ listed)

/-- The owner of a point is found among the owners from the end. -/
theorem ownerOf_eq_find? (owners : List ν) (point : α) :
    ownerOf points owners point = owners.reverse.find? fun owner => point ∈ points owner := by
  -- The owner at the end comes first in the search.
  induction owners using List.reverseRecOn with
  | nil => rfl
  | append_singleton earlier last ih =>
    rw [ownerOf_concat, ih, List.reverse_concat, List.find?_cons]
    by_cases own : point ∈ points last <;> simp [own]

/-- The owner of a point is the last one to have it. -/
theorem ownerOf_eq_some_iff {owner : ν} :
    ownerOf points owners point = some owner ↔
      ∃ before after, owners = before ++ owner :: after ∧ point ∈ points owner ∧
        ∀ other ∈ after, point ∉ points other := by
  rw [ownerOf_eq_find?, List.find?_eq_some_iff_append]
  constructor
  · -- What comes before the owner from the end comes after it from the front.
    rintro ⟨has, after, before, split, none_after⟩
    refine ⟨before.reverse, after.reverse, ?_, by simpa using has, by simpa using none_after⟩
    simpa using congrArg List.reverse split
  · rintro ⟨before, after, rfl, has, none_after⟩
    exact ⟨by simpa using has, after.reverse, before.reverse, by simp, by simpa using none_after⟩

/-- Every point of a ring has an owner. -/
theorem exists_ownerOf [LinearOrder α] (member : point ∈ ringOf points owners) :
    ∃ owner ∈ owners, ownerOf points owners point = some owner := by
  -- Whoever put the point on the ring is found, if nobody later is.
  obtain ⟨first, listed, has⟩ := mem_ringOf.mp member
  rw [ownerOf_eq_find?]
  have found : (owners.reverse.find? fun owner => point ∈ points owner).isSome := by
    rw [List.find?_isSome]
    exact ⟨first, by simpa using listed, by simpa using has⟩
  obtain ⟨owner, same⟩ := Option.isSome_iff_exists.mp found
  exact ⟨owner, by simpa using List.mem_of_find?_eq_some same, same⟩

end Ring

section Walk

variable {α β : Type*}

/-- A slice seen from one of its positions begins with the element there and ends before it. -/
theorem rotate_eq_cons {ring : List α} {idx : Nat} (within : idx < ring.length) (zero : α) :
    ∃ rest, ring.rotate idx = ring.getD idx zero :: rest ∧
      ring.rotate (idx + 1) = rest ++ [ring.getD idx zero] := by
  -- Going on by one moves the element in front to the end.
  cases shape : ring.rotate idx with
  | nil =>
    have empty := List.rotate_eq_nil_iff.mp shape
    simp [empty] at within
  | cons first rest =>
    have front : (ring.rotate idx)[0]? = ring[(0 + idx) % ring.length]? :=
      List.getElem?_rotate (by omega)
    rw [shape, List.getElem?_cons_zero, Nat.zero_add, Nat.mod_eq_of_lt within] at front
    have head : ring.getD idx zero = first := by
      rw [List.getD_eq_getElem?_getD, ← front, Option.getD_some]
    refine ⟨rest, by rw [head], ?_⟩
    rw [← List.rotate_rotate, shape, head, List.rotate_cons_succ, List.rotate_zero]

/-- A slice seen from its end is the slice seen from its start. -/
theorem rotate_wrap {ring : List α} (occupied : ring ≠ []) {idx : Nat}
    (within : idx ≤ ring.length) :
    (if idx ≥ ring.length then 0 else idx) < ring.length ∧
      ring.rotate idx = ring.rotate (if idx ≥ ring.length then 0 else idx) := by
  -- Only the position right behind the slice wraps.
  rcases Nat.lt_or_ge idx ring.length with inside | past
  · rw [if_neg (by omega)]
    exact ⟨inside, rfl⟩
  · obtain rfl : idx = ring.length := by omega
    rw [if_pos past, List.rotate_length, List.rotate_zero]
    exact ⟨List.length_pos_iff.mpr occupied, rfl⟩

/-- An element without a result can be put off to the end of a search. -/
theorem findSome?_take_concat {find : α → Option β} {first : α} (nothing : find first = none)
    (rest : List α) (n : Nat) :
    ((rest ++ [first]).take n).findSome? find = (rest.take n).findSome? find := by
  -- Whether or not the search comes to the element, it finds nothing there.
  have last : (([first].take (n - rest.length)).findSome? find) = none := by
    rw [List.findSome?_eq_none_iff]
    intro other member
    obtain rfl : other = first := by simpa using List.mem_of_mem_take member
    exact nothing
  rw [List.take_append, List.findSome?_append, last, Option.or_none]

variable [LinearOrder α]

/-- All points of a sorted slice, in the order in which the way around from a place meets them. -/
def clockwise (place : α) (ring : List α) : List α :=
  ring.filter (fun point => place ≤ point) ++ ring.filter fun point => point < place

/-- The way around goes through the points at or after the place first. -/
theorem clockwise_append {place : α} {behind ahead : List α}
    (before : ∀ point ∈ behind, point < place) (after : ∀ point ∈ ahead, place ≤ point) :
    clockwise place (behind ++ ahead) = ahead ++ behind := by
  -- Each part passes one of the two filters as a whole.
  have none_ahead : behind.filter (fun point => place ≤ point) = [] := by
    simpa using before
  have none_behind : ahead.filter (fun point => point < place) = [] := by
    simpa using after
  have all_ahead : ahead.filter (fun point => place ≤ point) = ahead := by
    simpa using after
  have all_behind : behind.filter (fun point => point < place) = behind := by
    simpa using before
  simp only [clockwise, List.filter_append, none_ahead, none_behind, all_ahead, all_behind,
    List.nil_append, List.append_nil]

/-- Seen from the position that binary search finds, a sorted slice goes clockwise. -/
theorem rotate_search {ring : List α} (sorted : ring.Pairwise (· ≤ ·)) (place zero : α) :
    ring.rotate (search (fun i => decide (ring.getD i zero ≥ place)) ring.length) =
      clockwise place ring := by
  -- The points before the position lie before the place, and the others do not.
  obtain ⟨short, before, reached⟩ :=
    search_spec (fun i => decide (ring.getD i zero ≥ place)) ring.length
  generalize search (fun i => decide (ring.getD i zero ≥ place)) ring.length = idx at *
  have behind : ∀ point ∈ ring.take idx, point < place := by
    intro point member
    obtain ⟨i, within, rfl⟩ := List.mem_take_iff_getElem.mp member
    have last := of_decide_eq_false (before (by omega))
    rw [List.getD_eq_getElem _ _ (by omega)] at last
    refine lt_of_le_of_lt ?_ (not_le.mp last)
    exact sorted.rel_get_of_le (a := ⟨i, by omega⟩) (b := ⟨idx - 1, by omega⟩)
      (show i ≤ idx - 1 by omega)
  have ahead : ∀ point ∈ ring.drop idx, place ≤ point := by
    intro point member
    obtain ⟨i, within, rfl⟩ := List.mem_drop_iff_getElem.mp member
    have first := of_decide_eq_true (reached (by omega))
    rw [List.getD_eq_getElem _ _ (by omega)] at first
    refine le_trans first ?_
    exact sorted.rel_get_of_le (a := ⟨idx, by omega⟩) (b := ⟨idx + i, by omega⟩)
      (show idx ≤ idx + i by omega)
  rw [List.rotate_eq_drop_append_take short, ← clockwise_append behind ahead,
    List.take_append_drop]

/-- Binary search in a sorted slice finds where the way around from a place begins. -/
theorem clockwise_search {ring : List α} (sorted : ring.Pairwise (· ≤ ·)) (occupied : ring ≠ [])
    (place zero : α) :
    let idx := search (fun i => decide (ring.getD i zero ≥ place)) ring.length
    ∃ rest, clockwise place ring =
      ring.getD (if idx ≥ ring.length then 0 else idx) zero :: rest := by
  -- The search finds the first point at or after the place, or runs off the end.
  intro idx
  obtain ⟨inside, same⟩ := rotate_wrap occupied (search_spec _ _).1
  obtain ⟨rest, here, _⟩ := rotate_eq_cons inside zero
  exact ⟨rest, by rw [← rotate_search sorted place zero, same, here]⟩

end Walk

end Go
