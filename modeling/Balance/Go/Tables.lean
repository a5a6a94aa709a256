import Mathlib.Algebra.BigOperators.Group.List.Basic
import Mathlib.Algebra.GroupWithZero.Nat
import Mathlib.Data.List.AList

/-! Maps as association lists: how many entries they have, and what their keys add up to. -/

namespace Go

variable {κ ν : Type*} [DecidableEq κ] {entries : AList fun _ : κ => ν} {key : κ}

/-- An entry written under a key makes the table longer unless the key had one. -/
theorem length_keys_insert (entries : AList fun _ : κ => ν) (key : κ) (value : ν) :
    ((entries.insert key value).keys.length : Int) =
      entries.keys.length + (if key ∈ entries then 0 else 1) := by
  -- The key goes in front, and is taken out where it was.
  rw [AList.keys_insert, List.length_cons]
  by_cases present : key ∈ entries
  · -- The entry that the key had goes.
    have listed := AList.mem_keys.mp present
    have positive := List.length_pos_of_mem listed
    rw [List.length_erase_of_mem listed, if_pos present]
    omega
  · rw [List.erase_of_not_mem (AList.mem_keys.not.mp present), if_neg present]
    push_cast
    omega

/-- Taking out an entry makes the table shorter by one. -/
theorem length_keys_erase (present : key ∈ entries) :
    ((entries.erase key).keys.length : Int) = entries.keys.length - 1 := by
  have listed := AList.mem_keys.mp present
  have positive := List.length_pos_of_mem listed
  rw [AList.keys_erase, List.length_erase_of_mem listed]
  omega

/-- What the keys of a table weigh together. -/
def weigh (weight : κ → Nat) (entries : AList fun _ : κ => ν) : Nat :=
  (entries.keys.map weight).sum

/-- A new key adds its weight. -/
theorem weigh_insert (weight : κ → Nat) (absent : key ∉ entries) (value : ν) :
    weigh weight (entries.insert key value) = weight key + weigh weight entries := by
  rw [weigh, AList.keys_insert, List.erase_of_not_mem (AList.mem_keys.not.mp absent),
    List.map_cons, List.sum_cons, weigh]

/-- A key that is taken out takes its weight along. -/
theorem weigh_erase (weight : κ → Nat) (present : key ∈ entries) :
    weight key + weigh weight (entries.erase key) = weigh weight entries := by
  rw [weigh, weigh, AList.keys_erase]
  exact List.sum_map_erase weight (AList.mem_keys.mp present)

end Go
