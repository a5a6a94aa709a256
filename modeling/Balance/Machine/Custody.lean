import Mathlib.Data.List.Nodup
import Mathlib.Logic.Function.Basic

/-! Items that wait in a queue or are in the hands of one thread, and never in two places. -/

namespace Machine

variable {α : Type*}

/-- An item is kept while it waits in the queue or is in the hands of some thread. -/
def Kept (queue : List α) (hands : Nat → Option α) (item : α) : Prop :=
  item ∈ queue ∨ ∃ thread, hands thread = some item

/-- Every item kept is in one place only. -/
structure Custody (queue : List α) (hands : Nat → Option α) : Prop where
  queued : queue.Nodup
  apart : ∀ thread item, hands thread = some item → item ∉ queue
  alone : ∀ thread other item, hands thread = some item → hands other = some item → thread = other

section Hands

variable {queue rest : List α} {hands : Nat → Option α} {thread : Nat} {item other : α}

/-- After its hands have been filled, a thread has exactly what was put there. -/
theorem update_hands_eq_some {reader : Nat} {filled : Option α}
    (has : Function.update hands thread filled reader = some item) :
    reader = thread ∧ filled = some item ∨ reader ≠ thread ∧ hands reader = some item := by
  -- The update is seen by the thread itself and by nobody else.
  by_cases same : reader = thread
  · subst same
    rw [Function.update_self] at has
    exact .inl ⟨rfl, has⟩
  · rw [Function.update_of_ne same] at has
    exact .inr ⟨same, has⟩

/-- Emptying the hands of a thread puts nothing into other hands. -/
theorem update_none_eq_some {reader : Nat}
    (has : Function.update hands thread none reader = some item) :
    reader ≠ thread ∧ hands reader = some item := by
  -- The thread itself has nothing any more, so the reader is another one.
  rcases update_hands_eq_some has with ⟨_, filled⟩ | elsewhere
  · cases filled
  · exact elsewhere

/-- Filling empty hands adds one item to those that are in some hands. -/
theorem exists_update_some_iff (empty : hands thread = none) :
    (∃ reader, Function.update hands thread (some item) reader = some other) ↔
      other = item ∨ ∃ reader, hands reader = some other := by
  constructor
  · rintro ⟨reader, has⟩
    rcases update_hands_eq_some has with ⟨_, filled⟩ | ⟨_, has⟩
    · exact .inl (Option.some.inj filled).symm
    · exact .inr ⟨reader, has⟩
  · rintro (rfl | ⟨reader, has⟩)
    · exact ⟨thread, Function.update_self _ _ _⟩
    · -- Whoever had something is another thread.
      have differs : reader ≠ thread := by
        intro same
        rw [same, empty] at has
        cases has
      exact ⟨reader, (Function.update_of_ne differs _ _).trans has⟩

/-- A thread gives up what it has, which then is nowhere. -/
theorem Custody.drop (held : Custody queue hands) :
    Custody queue (Function.update hands thread none) := by
  -- Whoever still has something had it before.
  refine ⟨held.queued, ?_, ?_⟩
  · intro reader found has
    exact held.apart reader found (update_none_eq_some has).2
  · intro reader second found has also
    exact held.alone reader second found (update_none_eq_some has).2 (update_none_eq_some also).2

/-- A thread puts what it has at the end of the queue. -/
theorem Custody.give (held : Custody queue hands) (mine : hands thread = some item) :
    Custody (queue ++ [item]) (Function.update hands thread none) := by
  -- The item leaves the hands at the moment in which it joins the queue.
  refine ⟨?_, ?_, held.drop.alone⟩
  · rw [← List.concat_eq_append]
    exact held.queued.concat (held.apart thread item mine)
  · intro reader found has
    obtain ⟨differs, has⟩ := update_none_eq_some has
    simp only [List.mem_append, List.mem_singleton, not_or]
    refine ⟨held.apart reader found has, ?_⟩
    -- Nobody else has the item that is given.
    intro same
    subst same
    exact differs (held.alone reader thread found has mine)

/-- A thread gets hold of an item that has been nowhere before. -/
theorem Custody.add (held : Custody queue hands) (new : ¬ Kept queue hands item) :
    Custody queue (Function.update hands thread (some item)) := by
  -- The new item collides with nothing, since it was neither queued nor in any hands.
  have absent : ∀ reader, hands reader ≠ some item := fun reader has => new (.inr ⟨reader, has⟩)
  refine ⟨held.queued, ?_, ?_⟩
  · intro reader found has
    rcases update_hands_eq_some has with ⟨_, filled⟩ | ⟨_, has⟩
    · cases filled
      exact fun within => new (.inl within)
    · exact held.apart reader found has
  · intro reader second found has also
    rcases update_hands_eq_some has with ⟨here, filled⟩ | ⟨_, has⟩
    · cases filled
      rcases update_hands_eq_some also with ⟨there, _⟩ | ⟨_, also⟩
      · rw [here, there]
      · exact absurd also (absent second)
    · rcases update_hands_eq_some also with ⟨_, filled⟩ | ⟨_, also⟩
      · cases filled
        exact absurd has (absent reader)
      · exact held.alone reader second found has also

/-- A thread takes the oldest item of the queue into its hands. -/
theorem Custody.take (held : Custody (item :: rest) hands) :
    Custody rest (Function.update hands thread (some item)) := by
  obtain ⟨front, queued⟩ := List.nodup_cons.mp held.queued
  -- Once off the queue the item is nowhere, and the thread gets hold of it like of a new one.
  have others : Custody rest hands := by
    refine ⟨queued, ?_, held.alone⟩
    intro reader found has within
    exact held.apart reader found has (List.mem_cons_of_mem item within)
  apply others.add
  intro given
  rcases given with within | ⟨reader, has⟩
  · exact front within
  · exact held.apart reader item has List.mem_cons_self

/-- The order of the queue does not matter. -/
theorem Custody.perm {other : List α} (held : Custody queue hands) (same : queue.Perm other) :
    Custody other hands :=
  ⟨same.nodup_iff.mp held.queued,
    fun thread item has within => held.apart thread item has (same.mem_iff.mpr within), held.alone⟩

/-- Items that leave the queue are nowhere. -/
theorem Custody.lose (held : Custody queue hands) (fewer : rest.Sublist queue) :
    Custody rest hands :=
  ⟨held.queued.sublist fewer,
    fun thread item has within => held.apart thread item has (fewer.subset within), held.alone⟩

/-- Taking an item from the queue keeps nothing that was not kept before. -/
theorem Kept.of_take (kept : Kept rest (Function.update hands thread (some item)) other) :
    Kept (item :: rest) hands other := by
  -- The item taken was at the front of the queue.
  rcases kept with within | ⟨reader, has⟩
  · exact .inl (List.mem_cons_of_mem item within)
  · rcases update_hands_eq_some has with ⟨_, filled⟩ | ⟨_, has⟩
    · cases filled
      exact .inl List.mem_cons_self
    · exact .inr ⟨reader, has⟩

/-- Giving an item to the queue keeps nothing that was not kept before. -/
theorem Kept.of_give (mine : hands thread = some item)
    (kept : Kept (queue ++ [item]) (Function.update hands thread none) other) :
    Kept queue hands other := by
  -- The item at the end of the queue is the one that was in the thread's hands.
  rcases kept with within | ⟨reader, has⟩
  · rcases List.mem_append.mp within with within | last
    · exact .inl within
    · rw [List.mem_singleton.mp last]
      exact .inr ⟨thread, mine⟩
  · exact .inr ⟨reader, (update_none_eq_some has).2⟩

/-- What is still kept after an item has been dropped is another item. -/
theorem Kept.of_drop (held : Custody queue hands) (mine : hands thread = some item)
    (kept : Kept queue (Function.update hands thread none) other) :
    Kept queue hands other ∧ other ≠ item := by
  -- The dropped item was in one place only, and is gone from there.
  rcases kept with within | ⟨reader, has⟩
  · refine ⟨.inl within, ?_⟩
    intro same
    subst same
    exact held.apart thread other mine within
  · obtain ⟨differs, has⟩ := update_none_eq_some has
    refine ⟨.inr ⟨reader, has⟩, ?_⟩
    intro same
    subst same
    exact differs (held.alone reader thread other has mine)

/-- What is kept after an item has been added was kept before, or is that item. -/
theorem Kept.of_add (kept : Kept queue (Function.update hands thread (some item)) other) :
    other = item ∨ Kept queue hands other := by
  -- Only the hands of one thread have changed.
  rcases kept with within | ⟨reader, has⟩
  · exact .inr (.inl within)
  · rcases update_hands_eq_some has with ⟨_, filled⟩ | ⟨_, has⟩
    · cases filled
      exact .inl rfl
    · exact .inr (.inr ⟨reader, has⟩)

end Hands

/-- Items are issued one after the other, and each is in the hands of exactly one thread. -/
structure Owned (issued : Nat) (hands : Nat → Option Nat) : Prop where
  custody : Custody [] hands
  known : ∀ thread item, hands thread = some item → item < issued
  owned : ∀ item, item < issued → ∃ thread, hands thread = some item

/-- Nothing is owned before anything is issued. -/
theorem owned_zero : Owned 0 fun _ => none where
  custody := ⟨List.nodup_nil, nofun, nofun⟩
  known := nofun
  owned := nofun

/-- A thread whose hands are empty gets the next item. -/
theorem Owned.issue {issued : Nat} {hands : Nat → Option Nat} (owned : Owned issued hands)
    {thread : Nat} (empty : hands thread = none) :
    Owned (issued + 1) (Function.update hands thread (some issued)) := by
  refine ⟨owned.custody.add ?_, ?_, ?_⟩
  · -- Nobody has an item that is still to be issued.
    intro kept
    rcases kept with within | ⟨reader, has⟩
    · cases within
    · exact Nat.lt_irrefl _ (owned.known reader issued has)
  · intro reader item has
    rcases update_hands_eq_some has with ⟨_, filled⟩ | ⟨_, has⟩
    · cases filled
      exact Nat.lt_succ_self issued
    · exact Nat.lt_succ_of_lt (owned.known reader item has)
  · intro item within
    rw [exists_update_some_iff empty]
    rcases Nat.lt_succ_iff_lt_or_eq.mp within with before | new
    · exact .inr (owned.owned item before)
    · exact .inl new

end Machine
