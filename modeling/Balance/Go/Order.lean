import Balance.Machine.History
import Mathlib.Data.List.Sort
import Mathlib.Data.Set.Finite.Basic

/-! Orders that Go leaves open: of the keys in a loop over a map, of equal elements in a sort. -/

namespace Go

section Scans

variable {κ ν : Type*} {contents : κ → Option ν} {test : κ → Bool}

/-- An order in which a loop over a map meets its keys, which may be any. -/
structure Scan (contents : κ → Option ν) where
  order : List κ
  once : order.Nodup
  registered : ∀ key, key ∈ order ↔ (contents key).isSome

namespace Scan

/-- A map with finitely many entries can be scanned. -/
theorem nonempty_of_finite (finite : {key | (contents key).isSome}.Finite) :
    Nonempty (Scan contents) := by
  refine ⟨finite.toFinset.toList, Finset.nodup_toList _, ?_⟩
  intro key
  simp

/-- The entry of the first key that passes a test. -/
def find (scan : Scan contents) (test : κ → Bool) : Option ν :=
  (scan.order.find? test).bind contents

/-- What is found stands under a key that passes. -/
theorem find_eq_some {scan : Scan contents} {value : ν} (found : scan.find test = some value) :
    ∃ key, test key ∧ contents key = some value := by
  obtain ⟨key, first, entry⟩ := Option.bind_eq_some_iff.mp found
  exact ⟨key, by simpa using List.find?_some first, entry⟩

/-- Nothing is found exactly if no key passes, in whatever order. -/
theorem find_eq_none_iff {scan : Scan contents} :
    scan.find test = none ↔ ∀ key, (contents key).isSome → ¬ test key := by
  -- A scan meets exactly the keys that have an entry.
  constructor
  · -- A key that is met has an entry, so the search for a key came to nothing.
    intro missed key present
    rcases found : scan.order.find? test with _ | first
    · exact List.find?_eq_none.mp found key ((scan.registered key).mpr present)
    · have entry := (scan.registered first).mp (List.mem_of_find?_eq_some found)
      rw [find, found, Option.bind_some] at missed
      rw [missed] at entry
      cases entry
  · intro fails
    have missed : scan.order.find? test = none :=
      List.find?_eq_none.mpr fun key met => fails key ((scan.registered key).mp met)
    rw [find, missed, Option.bind_none]

/-- The scan that meets a given key before all others. -/
def startAt [DecidableEq κ] (scan : Scan contents) (key : κ) (present : (contents key).isSome) :
    Scan contents where
  order := key :: scan.order.erase key
  once := List.nodup_cons.mpr ⟨scan.once.not_mem_erase, scan.once.erase key⟩
  registered := by
    intro other
    by_cases same : other = key
    · subst same
      simp [present]
    · rw [List.mem_cons, List.mem_erase_of_ne same, scan.registered other]
      simp [same]

/-- A scan that starts at a key which passes finds its entry. -/
theorem find_startAt [DecidableEq κ] (scan : Scan contents) {key : κ} {value : ν}
    (passes : test key) (entry : contents key = some value) :
    (scan.startAt key (by simp [entry])).find test = some value := by
  simp [startAt, find, passes, entry]

/-- Keys that pass and all have the same entry lead every order to that entry. -/
theorem find_eq_of_same
    (same : ∀ key key' value value', test key → test key' → contents key = some value →
      contents key' = some value' → value = value') (scan scan' : Scan contents) :
    scan.find test = scan'.find test := by
  -- Both scans find nothing, or each finds the entry of some key that passes.
  rcases found : scan.find test with _ | value
  · exact (find_eq_none_iff.mpr (find_eq_none_iff.mp found)).symm
  · obtain ⟨key, passes, entry⟩ := find_eq_some found
    rcases found' : scan'.find test with _ | value'
    · exact absurd passes (find_eq_none_iff.mp found' key (by simp [entry]))
    · obtain ⟨key', passes', entry'⟩ := find_eq_some found'
      rw [same key key' value value' passes passes' entry entry']

/-- All orders lead to the same, with a fallback, exactly if all keys that pass have the same
entry. -/
theorem find_getD_same_iff (scan : Scan contents) (fallback : ν) :
    (∀ scan scan' : Scan contents,
        (scan.find test).getD fallback = (scan'.find test).getD fallback) ↔
      ∀ key key' value value', test key → test key' → contents key = some value →
        contents key' = some value' → value = value' := by
  classical
  constructor
  · -- Two scans start at the two keys.
    intro same key key' value value' passes passes' entry entry'
    have equal := same (scan.startAt key (by simp [entry])) (scan.startAt key' (by simp [entry']))
    rwa [find_startAt scan passes entry, find_startAt scan passes' entry'] at equal
  · intro same scan scan'
    rw [find_eq_of_same same scan scan']

/-- One round of a loop that gathers entries which pass a test, each where it is seen first. -/
def gather [DecidableEq ν] (pick : ν → Bool) (gathered : List ν × (ν → Bool)) (value : ν) :
    List ν × (ν → Bool) :=
  if !gathered.2 value && pick value then
    (gathered.1 ++ [value], Function.update gathered.2 value true)
  else gathered

/-- What such a loop over a map gathers. -/
def distinct [DecidableEq ν] (scan : Scan contents) (pick : ν → Bool) : List ν :=
  ((scan.order.filterMap contents).foldl (gather pick) ([], fun _ => false)).1

/-- What has been gathered is what has been met and passes, without repetition. -/
structure Gathered (pick : ν → Bool) (met : List ν) (gathered : List ν × (ν → Bool)) : Prop where
  once : gathered.1.Nodup
  seen : ∀ value, gathered.2 value = true ↔ value ∈ gathered.1
  members : ∀ value, value ∈ gathered.1 ↔ value ∈ met ∧ pick value

/-- A round gathers the value that it meets, unless that has been seen or does not pass. -/
theorem Gathered.gather [DecidableEq ν] {pick : ν → Bool} {met : List ν}
    {gathered : List ν × (ν → Bool)} (holds : Gathered pick met gathered) (value : ν) :
    Gathered pick (met ++ [value]) (gather pick gathered value) := by
  rw [Scan.gather]
  split
  case isTrue fresh =>
    simp only [Bool.and_eq_true, Bool.not_eq_true', ← Bool.not_eq_true, holds.seen] at fresh
    obtain ⟨absent, picked⟩ := fresh
    refine ⟨List.nodup_append.mpr ⟨holds.once, List.nodup_singleton value, ?_⟩, ?_, ?_⟩
    · intro old listed last single same
      rw [← List.mem_singleton.mp single, ← same] at absent
      exact absent listed
    · intro other
      by_cases same : other = value
      · simp [same]
      · simp [same, holds.seen]
    · intro other
      rw [List.mem_append, holds.members, List.mem_append, List.mem_singleton]
      constructor
      · rintro (⟨old, picks⟩ | rfl)
        · exact ⟨.inl old, picks⟩
        · exact ⟨.inr rfl, picked⟩
      · rintro ⟨old | rfl, picks⟩
        · exact .inl ⟨old, picks⟩
        · exact .inr rfl
  case isFalse stale =>
    -- A value that passes has been gathered when it was met before.
    refine ⟨holds.once, holds.seen, ?_⟩
    intro other
    rw [List.mem_append, List.mem_singleton, holds.members]
    constructor
    · rintro ⟨old, picks⟩
      exact ⟨.inl old, picks⟩
    · rintro ⟨old | rfl, picks⟩
      · exact ⟨old, picks⟩
      · rw [← holds.members, ← holds.seen]
        simpa [picks] using stale

/-- A loop over a map has gathered from all entries when it ends. -/
theorem gathered_distinct [DecidableEq ν] (scan : Scan contents) (pick : ν → Bool) :
    Gathered pick (scan.order.filterMap contents)
      ((scan.order.filterMap contents).foldl (gather pick) ([], fun _ => false)) :=
  Machine.foldl_history (Gathered pick) ⟨List.nodup_nil, by simp, by simp⟩
    (fun _ _ value holds => holds.gather value) _

/-- The loop gathers the entries that pass, under whatever keys. -/
theorem mem_distinct [DecidableEq ν] {scan : Scan contents} {pick : ν → Bool} {value : ν} :
    value ∈ scan.distinct pick ↔ (∃ key, contents key = some value) ∧ pick value := by
  rw [distinct, (scan.gathered_distinct pick).members, List.mem_filterMap]
  refine and_congr_left' (exists_congr fun key => ?_)
  rw [scan.registered]
  constructor
  · exact And.right
  · intro entry
    exact ⟨by simp [entry], entry⟩

/-- The loop gathers nothing twice. -/
theorem nodup_distinct [DecidableEq ν] (scan : Scan contents) (pick : ν → Bool) :
    (scan.distinct pick).Nodup := (scan.gathered_distinct pick).once

end Scan

end Scans

section Sorts

variable {α : Type*} {less : α → α → Bool} {elements : List α} {test : α → Bool}

/-- In an ordered list the first element that passes a test stands before the others that do. -/
theorem related_of_find {related : α → α → Prop} (ordered : elements.Pairwise related)
    {first other : α} (found : elements.find? test = some first) (listed : other ∈ elements)
    (passes : test other) : other = first ∨ related first other := by
  -- What stands before the first one fails the test, so the other comes after it.
  obtain ⟨_, front, back, split, fails⟩ := List.find?_eq_some_iff_append.mp found
  rw [split] at ordered listed
  rcases List.mem_append.mp listed with before | after
  · exact absurd passes (by simpa using fails other before)
  · rcases List.mem_cons.mp after with same | later
    · exact Or.inl same
    · right
      exact (List.pairwise_cons.mp (List.pairwise_append.mp ordered).2.1).1 other later

/-- What `sort.Slice` may make of a list: an order in which nothing is less than what stands
before it. -/
structure Sorting (less : α → α → Bool) (elements : List α) where
  result : List α
  perm : result.Perm elements
  sorted : result.Pairwise fun before after => less after before = false

namespace Sorting

/-- The search finds nothing exactly if nothing passes, however the list is sorted. -/
theorem find_eq_none_iff (sorting : Sorting less elements) :
    sorting.result.find? test = none ↔ ∀ element ∈ elements, ¬ test element := by
  rw [List.find?_eq_none]
  exact forall_congr' fun element => imp_congr_left sorting.perm.mem_iff

/-- Nothing else that passes a test is less than the first that does. -/
theorem not_less_find (sorting : Sorting less elements) {first other : α}
    (found : sorting.result.find? test = some first) (listed : other ∈ elements)
    (passes : test other) : other = first ∨ less other first = false :=
  related_of_find sorting.sorted found (sorting.perm.mem_iff.mpr listed) passes

section Chosen

variable (less) (chosen : α)

/-- The order of a comparison in which a chosen element comes before those that compare equal. -/
def Ahead (a b : α) : Prop :=
  less b a = false ∧ (less a b = false → a = chosen ∨ b ≠ chosen)

variable {less chosen}

/-- The order with the chosen element ahead is transitive. -/
theorem Ahead.trans (transitive : ∀ a b c, less b a = false → less c b = false → less c a = false)
    {a b c : α} (first : Ahead less chosen a b) (second : Ahead less chosen b c) :
    Ahead less chosen a c := by
  refine ⟨transitive a b c first.1 second.1, ?_⟩
  -- If the ends compare equal, then so does what is between them.
  intro equal
  have left := first.2 (transitive b c a second.1 equal)
  have right := second.2 (transitive c a b equal first.1)
  rcases left with same | other
  · exact Or.inl same
  · exact Or.inr fun same => other (right.resolve_right (not_not.mpr same))

/-- Of two elements one is before the other. -/
theorem Ahead.total (asymmetric : ∀ a b, less a b → less b a = false) (a b : α) :
    Ahead less chosen a b ∨ Ahead less chosen b a := by
  -- The comparison decides unless it finds two elements equal.
  unfold Ahead
  rcases smaller : less a b with _ | _
  · rcases larger : less b a with _ | _
    · -- Of two that compare equal the chosen one is before the other.
      by_cases same : a = chosen
      · exact Or.inl ⟨rfl, fun _ => Or.inl same⟩
      · exact Or.inr ⟨rfl, fun _ => Or.inr same⟩
    · exact Or.inr ⟨rfl, fun equal => by cases equal⟩
  · exact Or.inl ⟨asymmetric a b smaller, fun equal => by cases equal⟩

end Chosen

/-- Some way to sort a list lets the search find a given element, if nothing that passes is less. -/
theorem exists_find (asymmetric : ∀ a b, less a b → less b a = false)
    (transitive : ∀ a b c, less b a = false → less c b = false → less c a = false)
    {chosen : α} (listed : chosen ∈ elements) (passes : test chosen)
    (top : ∀ other ∈ elements, test other → less other chosen = false) :
    ∃ sorting : Sorting less elements, sorting.result.find? test = some chosen := by
  classical
  -- The list is sorted with the chosen element ahead of those that compare equal.
  have ordered : (elements.mergeSort fun a b => Ahead less chosen a b).Pairwise
      (Ahead less chosen) := by
    refine (List.pairwise_mergeSort ?_ ?_ elements).imp of_decide_eq_true
    · intro a b c first second
      simp only [decide_eq_true_eq] at first second ⊢
      exact first.trans transitive second
    · intro a b
      simpa using Ahead.total asymmetric a b
  let sorting : Sorting less elements :=
    { result := elements.mergeSort fun a b => Ahead less chosen a b
      perm := List.mergeSort_perm elements _
      sorted := ordered.imp And.left }
  refine ⟨sorting, ?_⟩
  -- What is found is the chosen element or ahead of it, and only that element is ahead.
  rcases found : sorting.result.find? test with _ | first
  · exact absurd passes (sorting.find_eq_none_iff.mp found chosen listed)
  · have firstListed := sorting.perm.mem_iff.mp (List.mem_of_find?_eq_some found)
    have firstPasses : test first := by simpa using List.find?_some found
    rcases related_of_find ordered found (sorting.perm.mem_iff.mpr listed) passes with same | ahead
    · rw [same]
    · have placed := ahead.2 (top first firstListed firstPasses)
      rw [placed.resolve_right (not_not.mpr rfl)]

end Sorting

end Sorts

end Go
