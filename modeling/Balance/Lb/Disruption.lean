import Balance.Lb.Successor
import Balance.Lb.RingCache

/-! What a joining or leaving backend does to the keys of the others. -/

namespace Balance

open scoped Go

/-- A list from which another one comes by putting in copies of one element, at any positions. -/
inductive Joins {α : Type*} (b : α) : List α → List α → Prop where
  | nil : Joins b [] []
  | keep (c : α) {fewer more : List α} (rest : Joins b fewer more) :
    Joins b (c :: fewer) (c :: more)
  | insert {fewer more : List α} (rest : Joins b fewer more) : Joins b fewer (b :: more)

namespace Joins

variable {α : Type*} {b : α} {fewer more : List α}

/-- Nothing needs to be put in. -/
@[simp] theorem refl (backends : List α) : Joins b backends backends := by
  induction backends with
  | nil => exact .nil
  | cons c rest ih => exact .keep c ih

/-- What is put in further back goes in behind what comes first. -/
theorem append (before : List α) (rest : Joins b fewer more) :
    Joins b (before ++ fewer) (before ++ more) := by
  induction before with
  | nil => exact rest
  | cons c before ih => exact .keep c ih

/-- One copy may go in anywhere. -/
theorem single (before after : List α) : Joins b (before ++ after) (before ++ b :: after) :=
  append before (.insert (refl after))

/-- Everything else was there before. -/
theorem mem_or_eq (joins : Joins b fewer more) {c : α} (member : c ∈ more) :
    c ∈ fewer ∨ c = b := by
  -- An element of the longer list was kept or put in.
  induction joins with
  | nil => exact .inl member
  | keep d _ ih =>
    rcases List.mem_cons.mp member with rfl | later
    · exact .inl List.mem_cons_self
    · exact (ih later).imp_left (List.mem_cons_of_mem d)
  | insert _ ih =>
    rcases List.mem_cons.mp member with rfl | later
    · exact .inr rfl
    · exact ih later

/-- Nothing that was there is lost. -/
theorem sublist (joins : Joins b fewer more) : fewer.Sublist more := by
  induction joins with
  | nil => exact .refl []
  | keep c _ ih => exact ih.cons_cons c
  | insert _ ih => exact ih.cons b

end Joins

namespace ConsistentHash

variable {hash : List UInt8 → UInt32} {heap : BackendHeap} {virtualNodes : Int}

/-- All nodes of a backend are its own. -/
theorem nodesOf_snd {b : Nat} {node : UInt32 × Nat}
    (member : node ∈ nodesOf hash heap virtualNodes b) : node.2 = b := by
  obtain ⟨i, _, rfl⟩ := List.mem_map.mp member
  rfl

/-- The owner of a point after the nodes of a backend are written is that backend or the old one. -/
theorem writeAll_nodesOf (b : Nat) (contents : UInt32 → Option Nat) (point : UInt32) :
    Go.writeAll (nodesOf hash heap virtualNodes b) contents point =
      if ∃ node ∈ nodesOf hash heap virtualNodes b, node.1 = point then some b
      else contents point := by
  -- The backend has a node at the point, or it writes elsewhere only.
  split
  · rename_i present
    exact Go.writeAll_of_forall_eq present (fun _ member => nodesOf_snd member) contents
  · rename_i absent
    apply Go.writeAll_of_not_mem
    intro node member here
    exact absent ⟨node, member, here⟩

/-- A joining backend takes points over, and leaves the other points to their owners. -/
theorem writeAll_joins {b : Nat} {fewer more : List Nat} (joins : Joins b fewer more)
    {old new : UInt32 → Option Nat} {point : UInt32}
    (agree : new point = some b ∨ new point = old point) :
    Go.writeAll (nodes hash heap virtualNodes more) new point = some b ∨
      Go.writeAll (nodes hash heap virtualNodes more) new point =
        Go.writeAll (nodes hash heap virtualNodes fewer) old point := by
  -- Both maps are filled backend by backend, and agree up to the joining one throughout.
  induction joins generalizing old new with
  | nil => exact agree
  | keep c _ ih =>
    simp only [nodes, List.flatMap_cons, Go.writeAll_append]
    apply ih
    rw [writeAll_nodesOf, writeAll_nodesOf]
    split
    · exact .inr rfl
    · exact agree
  | insert _ ih =>
    simp only [nodes, List.flatMap_cons, Go.writeAll_append]
    apply ih
    rw [writeAll_nodesOf]
    split
    · exact .inl rfl
    · exact agree

namespace BuiltFrom

variable {ch fuller : ConsistentHash} {backends fewer more : List Nat} {b : Nat}

/-- The points of a ring are those at which one of its backends has a node. -/
theorem mem_ring (built : BuiltFrom hash heap ch backends) {point : UInt32} :
    point ∈ ch.ring ↔ ∃ c ∈ backends, ∃ node ∈ nodesOf hash heap ch.virtualNodes c,
      node.1 = point := by
  -- Sorting neither adds nor drops a point.
  rw [built.ring, List.mem_insertionSort, List.mem_map]
  constructor
  · intro given
    rcases given with ⟨node, member, here⟩
    obtain ⟨c, listed, found⟩ := List.mem_flatMap.mp member
    exact ⟨c, listed, node, found, here⟩
  · intro given
    rcases given with ⟨c, listed, node, found, here⟩
    exact ⟨node, List.mem_flatMap.mpr ⟨c, listed, found⟩, here⟩

/-- Every point of a ring has an owner, and the owner has a node there. -/
theorem exists_owner (built : BuiltFrom hash heap ch backends) {point : UInt32}
    (member : point ∈ ch.ring) :
    ∃ c ∈ backends, ch.ringMap point = some c ∧
      ∃ node ∈ nodesOf hash heap ch.virtualNodes c, node.1 = point := by
  -- The owner is the value of one of the nodes written at the point.
  rw [built.ring, List.mem_insertionSort, List.mem_map] at member
  obtain ⟨owner, written, found⟩ := Go.writeAll_of_mem member fun _ => none
  obtain ⟨c, listed, node⟩ := List.mem_flatMap.mp written
  obtain rfl : owner = c := nodesOf_snd node
  exact ⟨owner, listed, by rw [built.ringMap, found], (point, owner), node, rfl⟩

/-- A lookup in a ring that has points ends at the owner of the next point clockwise. -/
theorem exists_next (built : BuiltFrom hash heap ch backends) (occupied : ch.ring ≠ [])
    (key : List UInt8) :
    ∃ point, Go.IsNext {point | point ∈ ch.ring} (hash key) point ∧
      ch.lookup hash key = ch.ringMap point := by
  -- The ring is sorted, so the binary search finds that point.
  have sorted : ch.ring.Pairwise (· ≤ ·) := by
    rw [built.ring]
    exact List.pairwise_insertionSort _ _
  exact exists_next_of_sorted sorted occupied key

/-- A lookup in a ring without points finds nothing. -/
theorem lookup_of_empty {ch : ConsistentHash} (empty : ch.ring = []) (key : List UInt8) :
    ch.lookup hash key = none := by
  rw [lookup, if_pos (by simp [empty])]

/--
A joining backend takes keys over, and leaves the other keys where they are.

The next point of a key that is not taken over was there before, and so it was the next point then.
-/
theorem lookup_joins (joins : Joins b fewer more) (built : BuiltFrom hash heap ch fewer)
    (grown : BuiltFrom hash heap fuller more) (same : fuller.virtualNodes = ch.virtualNodes)
    (key : List UInt8) :
    fuller.lookup hash key = some b ∨ fuller.lookup hash key = ch.lookup hash key := by
  -- Every point of the smaller ring is one of the larger ring.
  have within : {point | point ∈ ch.ring} ⊆ {point | point ∈ fuller.ring} := by
    intro point member
    obtain ⟨c, listed, node⟩ := built.mem_ring.mp member
    exact grown.mem_ring.mpr ⟨c, joins.sublist.subset listed, same ▸ node⟩
  by_cases occupied : fuller.ring = []
  · -- A ring without points had none before either.
    right
    have empty : ch.ring = [] := by
      apply List.eq_nil_iff_forall_not_mem.mpr
      intro point member
      have present : point ∈ fuller.ring := within member
      simp [occupied] at present
    rw [lookup_of_empty occupied, lookup_of_empty empty]
  · obtain ⟨point, next, found⟩ := grown.exists_next occupied key
    obtain ⟨c, listed, owner, node⟩ := grown.exists_owner next.mem
    rcases joins.mem_or_eq listed with stayed | rfl
    · -- The owner was on the smaller ring, and so was the point.
      have kept : point ∈ ch.ring := built.mem_ring.mpr ⟨c, stayed, same ▸ node⟩
      obtain ⟨before, earlier, answered⟩ := built.exists_next (List.ne_nil_of_mem kept) key
      obtain rfl : before = point := earlier.unique (next.of_subset within kept)
      rw [found, answered, grown.ringMap, built.ringMap, same]
      exact writeAll_joins joins (.inr rfl)
    · exact .inl (by rw [found, owner])

end BuiltFrom

end ConsistentHash

namespace Pool

variable (heap : BackendHeap) (pool : Pool) (b : Nat)

/-- Adding a backend puts it last in rotation, if it is healthy. -/
theorem add_joins : Joins b (pool.healthy heap) ((pool.add b).healthy heap) := by
  -- The backend is appended to the pool, and so to what is left of it.
  simp only [healthy, add, List.filter_append]
  cases flag : heap.isHealthy b with
  | false => simp [flag]
  | true =>
    rw [List.filter_cons_of_pos (by simpa using flag), List.filter_nil]
    simpa using Joins.single (b := b) (pool.filter fun b => heap.isHealthy b) []

/-- Removing a backend takes it out of rotation once, if it is healthy. -/
theorem remove_joins {heap : BackendHeap} {name : String} {pool : Pool} {b : Nat}
    (found : pool.get heap name = some b) :
    Joins b ((pool.remove heap name).1.healthy heap) (pool.healthy heap) := by
  -- The walk along the pool drops the backend that the name finds.
  induction pool with
  | nil => cases found
  | cons c rest ih =>
    by_cases here : (heap c).name = name
    · obtain rfl : c = b := by simpa [get, here] using found
      simp only [remove, here, if_true, healthy, List.filter_cons]
      split
      · exact .insert (.refl _)
      · exact .refl _
    · have later : Pool.get heap rest name = some b := by simpa [get, here] using found
      simp only [remove, here, if_false, healthy, List.filter_cons]
      split
      · exact .keep c (ih later)
      · exact ih later

/-- Raising the flag of one backend puts its copies in the pool into rotation. -/
theorem healthy_joins {heap other : BackendHeap} {b : Nat}
    (others : ∀ c, c ≠ b → other.isHealthy c = heap.isHealthy c)
    (raised : heap.isHealthy b = true → other.isHealthy b = true) (pool : Pool) :
    Joins b (pool.healthy heap) (pool.healthy other) := by
  -- Each entry of the pool stays in or out of rotation, unless it is the backend.
  induction pool with
  | nil => exact .nil
  | cons c rest ih =>
    simp only [healthy, List.filter_cons] at ih ⊢
    by_cases same : c = b
    · subst same
      cases before : heap.isHealthy c with
      | true =>
        rw [raised before]
        exact .keep c ih
      | false =>
        cases after : other.isHealthy c with
        | true => exact .insert ih
        | false => exact ih
    · rw [others c same]
      split
      · exact .keep c ih
      · exact ih

end Pool

namespace Hashing

variable {hash : List UInt8 → UInt32} {state next : Hashing} {b : Nat}

/-- The backends in rotation. -/
def rotation (state : Hashing) : List Nat := state.pool.healthy state.heap

/-- The ring is the one that the backends in rotation give. -/
def InSync (hash : List UInt8 → UInt32) (state : Hashing) : Prop :=
  ConsistentHash.BuiltFrom hash state.heap state.ch state.rotation

/-- The pool and the flags of backends may have changed, and nothing else has. -/
structure Rearranged (state next : Hashing) : Prop where
  ch : next.ch = state.ch
  nodes : ∀ c, (next.heap c).address = (state.heap c).address ∧
    (next.heap c).weight = (state.heap c).weight

/-- An answer comes from a ring of the backends in rotation, if their number shows any change. -/
theorem answer_builtFrom {backends : List Nat}
    (built : ConsistentHash.BuiltFrom hash state.heap state.ch backends)
    (shows : state.rotation.length = backends.length → state.rotation = backends) :
    ConsistentHash.BuiltFrom hash state.heap
      (state.ch.rebuildRing hash state.heap state.pool) state.rotation := by
  -- A ring that is kept was built from as many backends.
  have after : ConsistentHash.BuiltFrom hash state.heap
      (state.ch.rebuildRing hash state.heap state.pool) _ := built.rebuildRing
  split at after
  · rename_i kept
    rw [shows kept.1]
    exact after
  · exact after

/-- The first answer after a change comes from a ring of the backends in rotation by then. -/
theorem InSync.next_builtFrom (sync : state.InSync hash) (same : state.Rearranged next)
    (shows : next.rotation.length = state.rotation.length → next.rotation = state.rotation) :
    ConsistentHash.BuiltFrom hash state.heap
      (next.ch.rebuildRing hash next.heap next.pool) next.rotation := by
  -- The ring from before is one of the same backends, as their addresses and weights have stayed.
  have built : ConsistentHash.BuiltFrom hash next.heap next.ch state.rotation := by
    rw [same.ch]
    exact ConsistentHash.BuiltFrom.congr_heap sync same.nodes
  exact (answer_builtFrom built shows).congr_heap fun c =>
    ⟨(same.nodes c).1.symm, (same.nodes c).2.symm⟩

/-- After a backend joins, a key is answered with it or as before. -/
theorem InSync.answer_of_joins (sync : state.InSync hash) (same : state.Rearranged next)
    (joins : Joins b state.rotation next.rotation) (key : List UInt8) :
    next.answer hash key = some b ∨ next.answer hash key = state.answer hash key := by
  -- A backend that joins without changing the number in rotation changes nothing.
  have before := answer_builtFrom sync fun _ => rfl
  have after := sync.next_builtFrom same fun lengths =>
    (joins.sublist.eq_of_length lengths.symm).symm
  exact before.lookup_joins joins after (by simp [same.ch]) key

/-- After a backend leaves, a key that was not answered with it is answered as before. -/
theorem InSync.answer_of_leaves (sync : state.InSync hash) (same : state.Rearranged next)
    (leaves : Joins b next.rotation state.rotation) {key : List UInt8}
    (other : state.answer hash key ≠ some b) : next.answer hash key = state.answer hash key := by
  -- Seen backwards, the backend joins and does not take the key over.
  have before := answer_builtFrom sync fun _ => rfl
  have after := sync.next_builtFrom same fun lengths => leaves.sublist.eq_of_length lengths
  rcases after.lookup_joins leaves before (by simp [same.ch]) key with taken | kept
  · exact absurd taken other
  · exact kept.symm

/-- A change of the pool or of a flag affects the keys of the backend it is about, and no others. -/
theorem InSync.answer_apply (sync : state.InSync hash) (b : Nat) (key : List UInt8) :
    ((state.apply hash (.add b)).answer hash key = some b ∨
      (state.apply hash (.add b)).answer hash key = state.answer hash key) ∧
    ((state.apply hash (.markHealthy b)).answer hash key = some b ∨
      (state.apply hash (.markHealthy b)).answer hash key = state.answer hash key) ∧
    (state.answer hash key ≠ some b →
      (state.apply hash (.markUnhealthy b)).answer hash key = state.answer hash key) ∧
    ∀ name, state.pool.get state.heap name = some b → state.answer hash key ≠ some b →
      (state.apply hash (.remove name)).answer hash key = state.answer hash key := by
  -- Each change touches the pool or one flag, and neither addresses nor weights.
  have pooled (pool : Pool) : state.Rearranged { state with pool := pool } :=
    ⟨rfl, fun _ => ⟨rfl, rfl⟩⟩
  have marked (healthy : Bool) :
      state.Rearranged { state with heap := state.heap.storeHealthy b healthy } :=
    ⟨rfl, fun c => by simp⟩
  refine ⟨?_, ?_, ?_, ?_⟩
  · exact sync.answer_of_joins (pooled _) (Pool.add_joins state.heap state.pool b) key
  · apply sync.answer_of_joins (marked true) _ key
    apply Pool.healthy_joins
    · intro c other
      simp [other]
    · simp
  · apply sync.answer_of_leaves (marked false)
    apply Pool.healthy_joins
    · intro c other
      simp [other]
    · simp
  · intro name found
    exact sync.answer_of_leaves (pooled _) (Pool.remove_joins found)

/--
A backend that joins takes over keys for itself only, and one that leaves gives up its own only.

The ring is in sync with the backends in rotation before, and copies of the backend go in at, or
come out of, any positions. Virtual nodes may collide, and addresses need not differ.
-/
theorem disruption_is_minimal (sync : state.InSync hash) (same : state.Rearranged next) (b : Nat) :
    (Joins b state.rotation next.rotation → ∀ key,
      next.answer hash key = some b ∨ next.answer hash key = state.answer hash key) ∧
    (Joins b next.rotation state.rotation → ∀ key,
      state.answer hash key ≠ some b → next.answer hash key = state.answer hash key) := by
  -- Both directions come from the same fact about lookups.
  constructor
  · intro joins key
    exact sync.answer_of_joins same joins key
  · intro leaves key other
    exact sync.answer_of_leaves same leaves other

/-- A second backend that comes into rotation takes one key over and leaves another where it was. -/
theorem second_backend_takes_over_one_of_two_keys :
    let heap : BackendHeap := fun b =>
      if b = 0 then newBackend "a" "a:80" 1 else { newBackend "b" "b:80" 1 with healthy := false }
    let state := start fnv1a heap [0, 1] 1 ""
    let next := state.apply fnv1a (.markHealthy 1)
    (∀ key, next.answer fnv1a key = some 1 ∨ next.answer fnv1a key = state.answer fnv1a key) ∧
      state.answer fnv1a (bytesOf "1") = some 0 ∧ next.answer fnv1a (bytesOf "1") = some 1 ∧
      state.answer fnv1a (bytesOf "k") = some 0 ∧ next.answer fnv1a (bytesOf "k") = some 0 := by
  -- The ring is built from the first backend, and the second is told apart by its flag.
  intro heap state next
  have sync : state.InSync fnv1a :=
    ConsistentHash.newConsistentHash_builtFrom fnv1a heap [0, 1] 1 ""
  have same : state.Rearranged next :=
    ⟨rfl, fun c => by simp [next, Hashing.apply, BackendHeap.markHealthy]⟩
  have joins : Joins 1 state.rotation next.rotation := Joins.single [0] []
  exact ⟨(disruption_is_minimal sync same 1).1 joins, by decide, by decide, by decide, by decide⟩

end Hashing

end Balance
