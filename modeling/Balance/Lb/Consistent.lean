import Balance.Backend.Backend
import Balance.Go.HashRing
import Balance.Proxy.Header

/-! Consistent hashing over a ring of virtual nodes, which is cached between selections. -/

namespace Balance

/-- The number of virtual nodes of a backend of weight one, unless one is given. -/
def defaultVirtualNodes : Int := 150

/-- The FNV-1a hash of the bytes of a key. -/
def fnv1a (key : List UInt8) : UInt32 :=
  key.foldl (fun hash byte => (hash ^^^ byte.toUInt32) * 16777619) 2166136261

example : fnv1a (bytesOf "a") = 0xe40c292c := by decide

/-- The text that is hashed for one virtual node of a backend. -/
def nodeKey (address : String) (i : Nat) : List UInt8 :=
  bytesOf (address ++ "-" ++ toString i)

/-- The number of virtual nodes of a backend, in proportion to its weight. -/
def numVirtualNodes (virtualNodes weight : Int) : Nat :=
  let weight := if weight ≤ 0 then 1 else weight
  -- A product that overflows into the negative gives a loop without rounds.
  (Go.wrap64 (virtualNodes * weight)).toNat

/-- The number of virtual nodes of a backend, as it would be if no product overflowed. -/
def unboundedVirtualNodes (virtualNodes weight : Int) : Nat :=
  let weight := if weight ≤ 0 then 1 else weight
  (virtualNodes * weight).toNat

/-- A consistent hash balancer with its cached ring. -/
structure ConsistentHash where
  virtualNodes : Int
  ring : List UInt32
  ringMap : UInt32 → Option Nat
  lastKnownSize : Nat
  hashKey : String

namespace ConsistentHash

section Counted

-- How the number of virtual nodes is computed.
variable (count : Int → Int → Nat) (hash : List UInt8 → UInt32)

/-- Append one virtual node, which takes over from an earlier one of the same hash. -/
def addNode (ch : ConsistentHash) (point : UInt32) (b : Nat) : ConsistentHash :=
  { ch with
    ring := ch.ring ++ [point]
    ringMap := Function.update ch.ringMap point (some b) }

/-- Append the virtual nodes of one backend. -/
def addNodesBy (heap : BackendHeap) (ch : ConsistentHash) (b : Nat) : ConsistentHash :=
  (List.range (count ch.virtualNodes (heap b).weight)).foldl
    (fun ch i => ch.addNode (hash (nodeKey (heap b).address i)) b) ch

/-- Rebuild the ring from the backends in rotation, if their number has changed. -/
def rebuildRingBy (ch : ConsistentHash) (heap : BackendHeap) (pool : Pool) : ConsistentHash :=
  let backends := pool.healthy heap
  let currentSize := backends.length
  -- The number of backends is all that is compared.
  if currentSize = ch.lastKnownSize ∧ ch.ring.length > 0 then ch
  else
    let cleared := { ch with ring := [], ringMap := fun _ => none }
    let filled := backends.foldl (addNodesBy count hash heap) cleared
    { filled with
      ring := filled.ring.insertionSort (· ≤ ·)
      lastKnownSize := currentSize }

/-- The owner of the first node at or after the hash of a key, going round the ring. -/
def lookup (ch : ConsistentHash) (key : List UInt8) : Option Nat :=
  if ch.ring.length = 0 then none
  else
    let idx := Go.search (fun i => ch.ring.getD i 0 ≥ hash key) ch.ring.length
    let idx := if idx ≥ ch.ring.length then 0 else idx
    ch.ringMap (ch.ring.getD idx 0)

/-- Bring the ring up to date, as far as the number of backends tells, and look the key up. -/
def selectWithKeyBy (ch : ConsistentHash) (heap : BackendHeap) (pool : Pool) (key : List UInt8) :
    ConsistentHash × Option Nat :=
  let ch := ch.rebuildRingBy count hash heap pool
  (ch, ch.lookup hash key)

end Counted

variable (hash : List UInt8 → UInt32)

@[inherit_doc rebuildRingBy]
def rebuildRing (ch : ConsistentHash) (heap : BackendHeap) (pool : Pool) : ConsistentHash :=
  ch.rebuildRingBy numVirtualNodes hash heap pool

@[inherit_doc selectWithKeyBy]
def selectWithKey (ch : ConsistentHash) (heap : BackendHeap) (pool : Pool) (key : List UInt8) :
    ConsistentHash × Option Nat :=
  ch.selectWithKeyBy numVirtualNodes hash heap pool key

/-- Select for the empty key. -/
def select (ch : ConsistentHash) (heap : BackendHeap) (pool : Pool) :
    ConsistentHash × Option Nat :=
  ch.selectWithKey hash heap pool []

end ConsistentHash

/-- A new balancer builds its ring at once. -/
def newConsistentHashBy (count : Int → Int → Nat) (hash : List UInt8 → UInt32) (heap : BackendHeap)
    (pool : Pool) (virtualNodes : Int) (hashKey : String) : ConsistentHash :=
  let ch : ConsistentHash :=
    { virtualNodes := if virtualNodes ≤ 0 then defaultVirtualNodes else virtualNodes
      ring := []
      ringMap := fun _ => none
      lastKnownSize := 0
      hashKey := if hashKey = "" then "source-ip" else hashKey }
  ch.rebuildRingBy count hash heap pool

@[inherit_doc newConsistentHashBy]
def newConsistentHash (hash : List UInt8 → UInt32) (heap : BackendHeap) (pool : Pool)
    (virtualNodes : Int) (hashKey : String) : ConsistentHash :=
  newConsistentHashBy numVirtualNodes hash heap pool virtualNodes hashKey

/-- The separator tells where the address ends, since no number contains it. -/
theorem nodeKey_address {first second : String} {i j : Nat}
    (same : nodeKey first i = nodeKey second j) : first = second := by
  -- Both texts are compared as lists of characters.
  have digits (n : Nat) : '-' ∉ Nat.toDigits 10 n := by
    intro member
    have digit := Nat.isDigit_of_mem_toDigits (by omega) (by omega) member
    simp [Char.isDigit] at digit
  have lists : first.toList ++ '-' :: Nat.toDigits 10 i =
      second.toList ++ '-' :: Nat.toDigits 10 j := by
    have texts := congrArg String.toList (bytesOf_inj same)
    simpa [String.toList_append, Nat.toList_repr] using texts
  -- If one address went on past the other, its separator would lie within a number.
  apply String.toList_inj.mp
  rcases List.append_eq_append_iff.mp lists with ⟨extra, longer, tail⟩ | ⟨extra, longer, tail⟩
  · cases extra with
    | nil => simpa using longer.symm
    | cons char rest =>
      simp only [List.cons_append, List.cons.injEq] at tail
      exact absurd (by simp [tail.2]) (digits i)
  · cases extra with
    | nil => simpa using longer
    | cons char rest =>
      simp only [List.cons_append, List.cons.injEq] at tail
      exact absurd (by simp [tail.2]) (digits j)

namespace ConsistentHash

variable (hash : List UInt8 → UInt32) (heap : BackendHeap)

/-- The virtual nodes of one backend, each with its hash. -/
def nodesOf (virtualNodes : Int) (b : Nat) : List (UInt32 × Nat) :=
  (List.range (numVirtualNodes virtualNodes (heap b).weight)).map fun i =>
    (hash (nodeKey (heap b).address i), b)

/-- The virtual nodes of the backends, in the order in which they are added. -/
def nodes (virtualNodes : Int) (backends : List Nat) : List (UInt32 × Nat) :=
  backends.flatMap (nodesOf hash heap virtualNodes)

/-- The ring is the one that a list of backends gives. -/
structure BuiltFrom (ch : ConsistentHash) (backends : List Nat) : Prop where
  ring : ch.ring =
    ((nodes hash heap ch.virtualNodes backends).map Prod.fst).insertionSort (· ≤ ·)
  ringMap : ch.ringMap = Go.writeAll (nodes hash heap ch.virtualNodes backends) fun _ => none
  lastKnownSize : ch.lastKnownSize = backends.length

/-- Where the virtual nodes of one backend lie, their number computed in a given way. -/
def virtualPoints (count : Int → Int → Nat) (virtualNodes : Int) (b : Nat) : List UInt32 :=
  (List.range (count virtualNodes (heap b).weight)).map fun i =>
    hash (nodeKey (heap b).address i)

/-- Adding the nodes of a backend appends them to the ring and writes them to the map. -/
theorem addNodesBy_eq (count : Int → Int → Nat) (ch : ConsistentHash) (b : Nat) :
    addNodesBy count hash heap ch b =
      { ch with
        ring := ch.ring ++ virtualPoints hash heap count ch.virtualNodes b
        ringMap := Go.writeAll ((virtualPoints hash heap count ch.virtualNodes b).map
          fun point => (point, b)) ch.ringMap } := by
  -- The loop over the nodes is the same whichever indices it goes through.
  have general (indices : List Nat) (ch : ConsistentHash) :
      indices.foldl (fun ch i => ch.addNode (hash (nodeKey (heap b).address i)) b) ch =
        { ch with
          ring := ch.ring ++ indices.map fun i => hash (nodeKey (heap b).address i)
          ringMap := Go.writeAll
            (indices.map fun i => (hash (nodeKey (heap b).address i), b)) ch.ringMap } := by
    induction indices generalizing ch with
    | nil => simp [Go.writeAll]
    | cons i rest ih =>
      rw [List.foldl_cons, ih]
      simp [addNode, Go.writeAll_cons]
  rw [addNodesBy, general]
  simp [virtualPoints, Function.comp_def]

/-- Adding backends appends all their nodes. -/
theorem foldl_addNodesBy_eq (count : Int → Int → Nat) (backends : List Nat) (ch : ConsistentHash) :
    backends.foldl (addNodesBy count hash heap) ch =
      { ch with
        ring := ch.ring ++
          (Go.ringNodes (virtualPoints hash heap count ch.virtualNodes) backends).map Prod.fst
        ringMap := Go.writeAll
          (Go.ringNodes (virtualPoints hash heap count ch.virtualNodes) backends) ch.ringMap } := by
  -- The nodes of the first backend come before those of the rest.
  induction backends generalizing ch with
  | nil => simp [Go.ringNodes, Go.writeAll]
  | cons b rest ih =>
    rw [List.foldl_cons, ih, addNodesBy_eq]
    simp [Go.ringNodes, Go.writeAll_append, Function.comp_def]

/-- The virtual nodes of backends are those of a ring that they own. -/
theorem nodes_eq_ringNodes (virtualNodes : Int) (backends : List Nat) :
    nodes hash heap virtualNodes backends =
      Go.ringNodes (virtualPoints hash heap numVirtualNodes virtualNodes) backends := by
  simp only [Go.ringNodes, virtualPoints, List.map_map, Function.comp_def]
  rfl

/-- A backend that has virtual nodes has a first one. -/
theorem first_node_mem {virtualNodes : Int} {b : Nat}
    (occupied : 0 < numVirtualNodes virtualNodes (heap b).weight) :
    (hash (nodeKey (heap b).address 0), b) ∈ nodesOf hash heap virtualNodes b := by
  -- The loop over its virtual nodes has at least one round.
  apply List.mem_map.mpr
  exact ⟨0, List.mem_range.mpr occupied, rfl⟩

variable {hash heap}

/-- The ring has a point exactly when one of its backends has a virtual node. -/
theorem BuiltFrom.ring_length_pos {ch : ConsistentHash} {backends : List Nat}
    (built : BuiltFrom hash heap ch backends) :
    ch.ring.length > 0 ↔ ∃ b ∈ backends, 0 < numVirtualNodes ch.virtualNodes (heap b).weight := by
  -- Sorting keeps the number of points, and every point is a node of some backend.
  rw [built.ring, List.length_insertionSort, List.length_map, gt_iff_lt, List.length_pos_iff]
  constructor
  · intro occupied
    obtain ⟨node, member⟩ := List.exists_mem_of_ne_nil _ occupied
    obtain ⟨b, listed, found⟩ := List.mem_flatMap.mp member
    obtain ⟨i, within, _⟩ := List.mem_map.mp found
    exact ⟨b, listed, Nat.zero_lt_of_lt (List.mem_range.mp within)⟩
  · intro given
    rcases given with ⟨b, listed, occupied⟩
    exact List.ne_nil_of_mem (List.mem_flatMap.mpr ⟨b, listed, first_node_mem hash heap occupied⟩)

/-- No rebuild changes the number of virtual nodes, however they are counted. -/
@[simp] theorem rebuildRingBy_virtualNodes {count : Int → Int → Nat} (ch : ConsistentHash)
    (pool : Pool) : (ch.rebuildRingBy count hash heap pool).virtualNodes = ch.virtualNodes := by
  -- Filling the ring sets the ring and its map only.
  simp only [rebuildRingBy]
  split
  · rfl
  · rw [foldl_addNodesBy_eq]

@[simp, inherit_doc rebuildRingBy_virtualNodes]
theorem rebuildRing_virtualNodes (ch : ConsistentHash) (pool : Pool) :
    (ch.rebuildRing hash heap pool).virtualNodes = ch.virtualNodes :=
  rebuildRingBy_virtualNodes ch pool

/-- A selection looks the key up in the ring that a rebuild leaves. -/
theorem selectWithKey_eq (ch : ConsistentHash) (pool : Pool) (key : List UInt8) :
    ch.selectWithKey hash heap pool key =
      (ch.rebuildRing hash heap pool, (ch.rebuildRing hash heap pool).lookup hash key) :=
  rfl

/-- A ring with points is kept while the number of backends in rotation stays the same. -/
theorem rebuildRing_of_kept {ch : ConsistentHash} {pool : Pool}
    (kept : (pool.healthy heap).length = ch.lastKnownSize ∧ ch.ring.length > 0) :
    ch.rebuildRing hash heap pool = ch :=
  if_pos kept

/-- A rebuild that takes place builds from the backends in rotation. -/
theorem rebuildRing_builtFrom_healthy {ch : ConsistentHash} {pool : Pool}
    (changed : ¬ ((pool.healthy heap).length = ch.lastKnownSize ∧ ch.ring.length > 0)) :
    BuiltFrom hash heap (ch.rebuildRing hash heap pool) (pool.healthy heap) := by
  -- The cleared ring contributes nothing of its own.
  simp only [rebuildRing, rebuildRingBy, if_neg changed]
  rw [foldl_addNodesBy_eq, ← nodes_eq_ringNodes]
  exact ⟨rfl, rfl, rfl⟩

/-- A rebuild keeps the backends of a ring that has points, or takes those in rotation. -/
theorem BuiltFrom.rebuildRing {ch : ConsistentHash} {backends : List Nat} {pool : Pool}
    (built : BuiltFrom hash heap ch backends) :
    BuiltFrom hash heap (ch.rebuildRing hash heap pool)
      (if (pool.healthy heap).length = backends.length ∧
          ∃ b ∈ backends, 0 < numVirtualNodes ch.virtualNodes (heap b).weight then backends
        else pool.healthy heap) := by
  -- The test of the code is rephrased in terms of the backends of the ring.
  simp only [← built.ring_length_pos, ← built.lastKnownSize]
  by_cases kept : (pool.healthy heap).length = ch.lastKnownSize ∧ ch.ring.length > 0
  · rw [if_pos kept, rebuildRing_of_kept kept]
    exact built
  · rw [if_neg kept]
    exact rebuildRing_builtFrom_healthy kept

/-- A ring is built the same from backends that keep their addresses and weights. -/
theorem BuiltFrom.congr_heap {ch : ConsistentHash} {backends : List Nat}
    (built : BuiltFrom hash heap ch backends) {other : BackendHeap}
    (same : ∀ c, (other c).address = (heap c).address ∧ (other c).weight = (heap c).weight) :
    BuiltFrom hash other ch backends := by
  -- Nodes are made of addresses and weights.
  have nodes : nodes hash other ch.virtualNodes backends =
      nodes hash heap ch.virtualNodes backends := by
    unfold ConsistentHash.nodes nodesOf
    simp only [same]
  exact ⟨by rw [nodes, built.ring], by rw [nodes, built.ringMap], built.lastKnownSize⟩

/-- A new balancer has a positive number of virtual nodes, and the given one if that is positive. -/
theorem newConsistentHash_virtualNodes (hash : List UInt8 → UInt32) (heap : BackendHeap) (pool : Pool)
    (virtualNodes : Int) (hashKey : String) :
    (newConsistentHash hash heap pool virtualNodes hashKey).virtualNodes =
      if virtualNodes ≤ 0 then defaultVirtualNodes else virtualNodes := by
  simp [newConsistentHash, newConsistentHashBy]

/-- A new balancer builds its ring from the backends in rotation. -/
theorem newConsistentHash_builtFrom (hash : List UInt8 → UInt32) (heap : BackendHeap) (pool : Pool)
    (virtualNodes : Int) (hashKey : String) :
    BuiltFrom hash heap (newConsistentHash hash heap pool virtualNodes hashKey)
      (pool.healthy heap) := by
  -- The empty ring of a new balancer never counts as up to date.
  apply rebuildRing_builtFrom_healthy
  simp

/-- Rings built from the same backends give the same answers. -/
theorem BuiltFrom.lookup_eq {first second : ConsistentHash} {backends : List Nat}
    (left : BuiltFrom hash heap first backends) (right : BuiltFrom hash heap second backends)
    (same : first.virtualNodes = second.virtualNodes) (key : List UInt8) :
    first.lookup hash key = second.lookup hash key := by
  -- The lookup reads the ring and its map, and both are functions of the backends.
  have rings : first.ring = second.ring := by rw [left.ring, right.ring, same]
  have maps : first.ringMap = second.ringMap := by rw [left.ringMap, right.ringMap, same]
  simp only [lookup, rings, maps]

/-- Every point belongs to one of the backends that the ring was built from. -/
theorem BuiltFrom.owner_mem {ch : ConsistentHash} {backends : List Nat}
    (built : BuiltFrom hash heap ch backends) {point : UInt32} {b : Nat}
    (owner : ch.ringMap point = some b) : b ∈ backends := by
  -- The owner was written for a node of its own.
  rw [built.ringMap] at owner
  rcases Go.writeAll_mem _ owner with member | absent
  · obtain ⟨backend, listed, node⟩ := List.mem_flatMap.mp member
    obtain ⟨i, _, equal⟩ := List.mem_map.mp node
    cases equal
    exact listed
  · cases absent

/-- An answer is the owner of some point. -/
theorem lookup_owner {ch : ConsistentHash} {key : List UInt8} {b : Nat}
    (found : ch.lookup hash key = some b) : ∃ point, ch.ringMap point = some b := by
  -- The lookup ends in the map, whichever position it finds.
  unfold lookup at found
  split at found
  · cases found
  · exact ⟨_, found⟩

/-- Every answer is one of the backends that the ring was built from. -/
theorem BuiltFrom.lookup_mem {ch : ConsistentHash} {backends : List Nat}
    (built : BuiltFrom hash heap ch backends) {key : List UInt8} {b : Nat}
    (found : ch.lookup hash key = some b) : b ∈ backends := by
  -- An answer owns a point, and every owner is one of the backends.
  obtain ⟨point, owner⟩ := lookup_owner found
  exact built.owner_mem owner

/-- A key that hashes to the smallest point finds the last backend that has a node there. -/
theorem BuiltFrom.lookup_zero {ch : ConsistentHash} {before after : List Nat} {b : Nat}
    (built : BuiltFrom hash heap ch (before ++ b :: after))
    (occupied : 0 < numVirtualNodes ch.virtualNodes (heap b).weight)
    {key : List UInt8} (low : hash key = 0)
    (here : ∀ i, hash (nodeKey (heap b).address i) = 0)
    (beyond : ∀ c ∈ after, ∀ i, hash (nodeKey (heap c).address i) ≠ 0) :
    ch.lookup hash key = some b := by
  -- The search stops at the first position, which holds the smallest point.
  have owner : ch.ringMap 0 = some b := by
    rw [built.ringMap, nodes, List.flatMap_append, List.flatMap_cons, Go.writeAll_append,
      Go.writeAll_append, Go.writeAll_of_not_mem]
    · -- All nodes of the backend lie at the smallest point, and it has one.
      apply Go.writeAll_of_forall_eq
      · exact ⟨_, first_node_mem hash heap occupied, here 0⟩
      · intro node member
        obtain ⟨i, _, rfl⟩ := List.mem_map.mp member
        rfl
    · intro node member
      obtain ⟨c, listed, found⟩ := List.mem_flatMap.mp member
      obtain ⟨i, _, rfl⟩ := List.mem_map.mp found
      exact beyond c listed i
  have point : (0 : UInt32) ∈ ch.ring := by
    rw [built.ring, List.mem_insertionSort, List.mem_map]
    exact ⟨_, List.mem_flatMap.mpr ⟨b, by simp, first_node_mem hash heap occupied⟩, here 0⟩
  have sorted : ch.ring.Pairwise (· ≤ ·) := by
    rw [built.ring]
    exact List.pairwise_insertionSort _ _
  -- Nothing on the ring lies before the smallest point, so it comes first.
  cases shape : ch.ring with
  | nil => simp [shape] at point
  | cons first rest =>
    have smallest : first = 0 := by
      rw [shape] at point sorted
      rcases List.mem_cons.mp point with same | later
      · exact same.symm
      · exact UInt32.le_antisymm ((List.pairwise_cons.mp sorted).1 0 later) UInt32.zero_le
    have all : Go.search (fun i => decide (ch.ring.getD i 0 ≥ hash key)) ch.ring.length = 0 := by
      apply Go.searchBetween_of_all
      · intro i
        simp [low]
      · omega
    unfold lookup
    rw [all]
    simp [shape, smallest, owner]

end ConsistentHash

end Balance
