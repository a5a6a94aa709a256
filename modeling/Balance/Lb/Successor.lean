import Balance.Lb.Consistent

/-! A lookup on the ring finds the clockwise successor of the key. -/

namespace Balance

open scoped Go

namespace ConsistentHash

variable {count : Int → Int → Nat} {hash : List UInt8 → UInt32} {heap : BackendHeap} {pool : Pool}
  {ch : ConsistentHash} {backends : List Nat}

/-- The ring is the one that a list of backends gives, with nodes counted in a given way. -/
structure FilledBy (count : Int → Int → Nat) (hash : List UInt8 → UInt32) (heap : BackendHeap)
    (ch : ConsistentHash) (backends : List Nat) : Prop where
  ring : ch.ring = Go.ringOf (virtualPoints hash heap count ch.virtualNodes) backends
  ringMap : ch.ringMap = Go.ownerOf (virtualPoints hash heap count ch.virtualNodes) backends
  lastKnownSize : ch.lastKnownSize = backends.length

/-- With nodes counted as the code does, this is how rings are built. -/
theorem builtFrom_iff_filledBy :
    BuiltFrom hash heap ch backends ↔ FilledBy numVirtualNodes hash heap ch backends := by
  -- The two say the same with other words for the nodes.
  constructor
  · rintro ⟨ring, ringMap, lastKnownSize⟩
    rw [nodes_eq_ringNodes] at ring ringMap
    exact ⟨ring, ringMap, lastKnownSize⟩
  · rintro ⟨ring, ringMap, lastKnownSize⟩
    refine ⟨?_, ?_, lastKnownSize⟩ <;> rw [nodes_eq_ringNodes]
    · exact ring
    · exact ringMap

/-- A rebuild that takes place fills the ring from the backends in rotation. -/
theorem rebuildRingBy_filledBy
    (changed : ¬((pool.healthy heap).length = ch.lastKnownSize ∧ ch.ring.length > 0)) :
    FilledBy count hash heap (ch.rebuildRingBy count hash heap pool) (pool.healthy heap) := by
  simp only [rebuildRingBy, if_neg changed]
  rw [foldl_addNodesBy_eq]
  exact ⟨rfl, rfl, rfl⟩

/-- A ring of the backends in rotation stays one when it is brought up to date. -/
theorem FilledBy.rebuildRingBy (filled : FilledBy count hash heap ch (pool.healthy heap)) :
    FilledBy count hash heap (ch.rebuildRingBy count hash heap pool) (pool.healthy heap) := by
  by_cases kept : (pool.healthy heap).length = ch.lastKnownSize ∧ ch.ring.length > 0
  · rw [ConsistentHash.rebuildRingBy, if_pos kept]
    exact filled
  · exact rebuildRingBy_filledBy kept

/-- A new balancer fills its ring from the backends in rotation. -/
theorem newConsistentHashBy_filledBy (virtualNodes : Int) (hashKey : String) :
    FilledBy count hash heap (newConsistentHashBy count hash heap pool virtualNodes hashKey)
      (pool.healthy heap) := by
  -- The empty ring of a new balancer never counts as up to date.
  apply rebuildRingBy_filledBy
  simp

/-- A lookup in a sorted ring that has points ends at the owner of the next point clockwise. -/
theorem exists_next_of_sorted (sorted : ch.ring.Pairwise (· ≤ ·)) (occupied : ch.ring ≠ [])
    (key : List UInt8) :
    ∃ point, Go.IsNext {point | point ∈ ch.ring} (hash key) point ∧
      ch.lookup hash key = ch.ringMap point := by
  refine ⟨_, Go.isNext_search sorted (hash key) 0 occupied, ?_⟩
  rw [lookup, if_neg (by simpa using occupied)]

/-- A lookup in a ring that has points ends at the last backend to have the next of them. -/
theorem FilledBy.lookup_successor (filled : FilledBy count hash heap ch backends)
    (occupied : ch.ring ≠ []) (key : List UInt8) :
    ∃ point b, ch.lookup hash key = some b ∧
      Go.IsNext {point | ∃ c ∈ backends, point ∈ virtualPoints hash heap count ch.virtualNodes c}
        (hash key) point ∧
      ∃ before after, backends = before ++ b :: after ∧
        point ∈ virtualPoints hash heap count ch.virtualNodes b ∧
        ∀ c ∈ after, point ∉ virtualPoints hash heap count ch.virtualNodes c := by
  -- The binary search stops at a point of the sorted ring, and the map has its owner.
  have sorted : ch.ring.Pairwise (· ≤ ·) := by
    rw [filled.ring]
    exact Go.ringOf_sorted
  have points : {point | point ∈ ch.ring} =
      {point | ∃ c ∈ backends, point ∈ virtualPoints hash heap count ch.virtualNodes c} := by
    ext point
    rw [filled.ring]
    exact Go.mem_ringOf
  obtain ⟨point, next, found⟩ := exists_next_of_sorted sorted occupied key
  have member : point ∈ ch.ring := next.mem
  rw [filled.ring] at member
  obtain ⟨b, _, owner⟩ := Go.exists_ownerOf member
  refine ⟨point, b, ?_, points ▸ next, Go.ownerOf_eq_some_iff.mp owner⟩
  rw [found, filled.ringMap, owner]

/-- Counting nodes in another way makes no difference if the backends in rotation get as many. -/
theorem rebuildRingBy_congr {other : Int → Int → Nat}
    (same : ∀ b ∈ pool.healthy heap,
      count ch.virtualNodes (heap b).weight = other ch.virtualNodes (heap b).weight) :
    ch.rebuildRingBy count hash heap pool = ch.rebuildRingBy other hash heap pool := by
  -- The ring is made from the nodes alone.
  have nodes : Go.ringNodes (virtualPoints hash heap count ch.virtualNodes) (pool.healthy heap) =
      Go.ringNodes (virtualPoints hash heap other ch.virtualNodes) (pool.healthy heap) := by
    apply Go.ringNodes_congr
    intro b member
    rw [virtualPoints, virtualPoints, same b member]
  simp only [rebuildRingBy, foldl_addNodesBy_eq, nodes]

/-- Where a backend has a virtual node if no product of ints overflows. -/
def HasNode (hash : List UInt8 → UInt32) (heap : BackendHeap) (virtualNodes : Int) (b : Nat)
    (point : UInt32) : Prop :=
  ∃ i : Nat, i < virtualNodes * max (heap b).weight 1 ∧ hash (nodeKey (heap b).address i) = point

/-- Virtual nodes that are counted without overflow are those up to the product. -/
theorem mem_virtualPoints {virtualNodes : Int} {b : Nat} {point : UInt32} :
    point ∈ virtualPoints hash heap unboundedVirtualNodes virtualNodes b ↔
      HasNode hash heap virtualNodes b point := by
  have normal : (if (heap b).weight ≤ 0 then 1 else (heap b).weight) = max (heap b).weight 1 := by
    omega
  simp only [virtualPoints, unboundedVirtualNodes, normal, List.mem_map, List.mem_range, HasNode,
    Int.lt_toNat]

/-- Every backend has a first virtual node. -/
theorem hasNode_first {virtualNodes : Int} (positive : 1 ≤ virtualNodes) (b : Nat) :
    HasNode hash heap virtualNodes b (hash (nodeKey (heap b).address 0)) := by
  refine ⟨0, ?_, rfl⟩
  have product := Int.mul_pos (show 0 < virtualNodes by omega)
    (show 0 < max (heap b).weight 1 by omega)
  simpa using product

/-- The ring of any backends has points, if products of ints cannot overflow. -/
theorem FilledBy.ring_ne_nil (filled : FilledBy unboundedVirtualNodes hash heap ch backends)
    (positive : 1 ≤ ch.virtualNodes) (listed : backends ≠ []) : ch.ring ≠ [] := by
  -- The first virtual node of any backend is on the ring.
  obtain ⟨b, member⟩ := List.exists_mem_of_ne_nil _ listed
  have point : hash (nodeKey (heap b).address 0) ∈ ch.ring := by
    rw [filled.ring, Go.mem_ringOf]
    exact ⟨b, member, mem_virtualPoints.mpr (hasNode_first positive b)⟩
  exact List.ne_nil_of_mem point

/-- As long as the product fits, the code counts as if it could not overflow. -/
theorem numVirtualNodes_of_fits {virtualNodes weight : Int} (positive : 0 ≤ virtualNodes)
    (fits : virtualNodes * max weight 1 < 2 ^ 63) :
    numVirtualNodes virtualNodes weight = unboundedVirtualNodes virtualNodes weight := by
  have normal : (if weight ≤ 0 then 1 else weight) = max weight 1 := by omega
  have product := Int.mul_nonneg positive (show 0 ≤ max weight 1 by omega)
  simp only [numVirtualNodes, unboundedVirtualNodes, normal]
  rw [Go.wrap64_of_fits (by omega) fits]

/-- As long as no product overflows, a new balancer has the ring of unbounded numbers. -/
theorem newConsistentHash_of_fits {virtualNodes : Int} (positive : 1 ≤ virtualNodes)
    (fits : ∀ b ∈ pool.healthy heap, virtualNodes * max (heap b).weight 1 < 2 ^ 63)
    (hashKey : String) :
    newConsistentHash hash heap pool virtualNodes hashKey =
      newConsistentHashBy unboundedVirtualNodes hash heap pool virtualNodes hashKey := by
  apply rebuildRingBy_congr
  intro b member
  simp only [if_neg (show ¬virtualNodes ≤ 0 by omega)]
  exact numVirtualNodes_of_fits (by omega) (fits b member)

/--
A new ring is sorted, every point on it has an owner, and a key is answered with the owner of the
next virtual node clockwise, which is the last backend to have one there.
-/
theorem select_clockwise_successor (hash : List UInt8 → UInt32) (heap : BackendHeap) (pool : Pool)
    (virtualNodes : Int) (positive : 1 ≤ virtualNodes) (listed : pool.healthy heap ≠ [])
    (hashKey : String) :
    let ch := newConsistentHashBy unboundedVirtualNodes hash heap pool virtualNodes hashKey
    ch.ring.Pairwise (· ≤ ·) ∧
      (∀ point ∈ ch.ring, ∃ b, ch.ringMap point = some b) ∧
      ∀ key, ∃ point b,
        (ch.selectWithKeyBy unboundedVirtualNodes hash heap pool key).2 = some b ∧
        Go.IsNext {point | ∃ c ∈ pool.healthy heap, HasNode hash heap virtualNodes c point}
          (hash key) point ∧
        ∃ before after, pool.healthy heap = before ++ b :: after ∧
          HasNode hash heap virtualNodes b point ∧
          ∀ c ∈ after, ¬HasNode hash heap virtualNodes c point := by
  -- Bringing the ring up to date leaves it a ring of the same backends.
  intro ch
  have filled : FilledBy unboundedVirtualNodes hash heap ch (pool.healthy heap) :=
    newConsistentHashBy_filledBy virtualNodes hashKey
  have nodes : ch.virtualNodes = virtualNodes := by
    simp [ch, newConsistentHashBy, show ¬virtualNodes ≤ 0 by omega]
  refine ⟨?_, ?_, ?_⟩
  · rw [filled.ring]
    exact Go.ringOf_sorted
  · intro point member
    rw [filled.ring] at member
    obtain ⟨b, _, owner⟩ := Go.exists_ownerOf member
    exact ⟨b, by rw [filled.ringMap, owner]⟩
  · intro key
    have current := filled.rebuildRingBy
    have occupied := current.ring_ne_nil (by simpa [nodes]) listed
    have successor := current.lookup_successor occupied key
    simp only [mem_virtualPoints, rebuildRingBy_virtualNodes, nodes] at successor
    exact successor

/-- A key is answered with the one of two backends that has the next virtual node. -/
theorem select_clockwise_successor_two :
    let heap : BackendHeap := fun b => newBackend "" (["a:80", "b:80"].getD b "") 1
    let ch := newConsistentHashBy unboundedVirtualNodes fnv1a heap [0, 1] 1 ""
    ∃ point b, (ch.selectWithKeyBy unboundedVirtualNodes fnv1a heap [0, 1] (bytesOf "k")).2 = some b ∧
      Go.IsNext {point | ∃ c ∈ Pool.healthy heap [0, 1], HasNode fnv1a heap 1 c point}
        (fnv1a (bytesOf "k")) point ∧ HasNode fnv1a heap 1 b point := by
  intro heap ch
  obtain ⟨_, _, answers⟩ :=
    select_clockwise_successor fnv1a heap [0, 1] 1 (by decide) (by decide) ""
  obtain ⟨point, b, selected, next, _, _, _, has, _⟩ := answers (bytesOf "k")
  exact ⟨point, b, selected, next, has⟩

end ConsistentHash

end Balance
