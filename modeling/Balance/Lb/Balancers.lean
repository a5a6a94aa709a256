import Balance.Lb.Consistent
import Mathlib.Data.Rat.Defs
import Mathlib.Algebra.Order.Ring.Rat

/-! The balancing algorithms that a server can be configured with. -/

namespace Balance

section Least

variable {α : Type} [LT α] [DecidableEq α] [DecidableLT α] (unset : α) (measure : Nat → α)

/-- Compare one backend with the best so far, whose measure starts as a value standing for none. -/
def leastStep (best : Option Nat × α) (b : Nat) : Option Nat × α :=
  -- A best measure equal to the starting value is taken for none and replaced.
  if best.2 = unset ∨ measure b < best.2 then (some b, measure b) else best

/-- The first backend of least measure, found in one pass. -/
def leastBy (backends : List Nat) : Option Nat :=
  (backends.foldl (leastStep unset measure) (none, unset)).1

end Least

/-- Round robin counts its selections in 64 bits. -/
structure RoundRobin where
  current : UInt64

/-- The next backend in rotation. -/
def RoundRobin.select (rr : RoundRobin) (heap : BackendHeap) (pool : Pool) :
    RoundRobin × Option Nat :=
  let backends := pool.healthy heap
  if backends.length = 0 then (rr, none)
  else
    let next := rr.current + 1
    let index := (next - 1) % UInt64.ofNat backends.length
    (⟨next⟩, backends[index.toNat]?)

/-- The backend in rotation with the least active connections. -/
def leastConnectionsSelect (heap : BackendHeap) (pool : Pool) : Option Nat :=
  leastBy (-1) (fun b => (heap b).activeConnections) (pool.healthy heap)

/-- Weighted round robin counts its selections in a signed 64-bit integer. -/
structure WeightedRoundRobin where
  current : Int

/-- The first backend whose share of the weights lies beyond an offset. -/
def weightedAt (heap : BackendHeap) (offset : Int) : Int → List Nat → Option Nat
  | _, [] => none
  | currentOffset, b :: rest =>
    let currentOffset := Go.wrap64 (currentOffset + (heap b).weight)
    if offset < currentOffset then some b else weightedAt heap offset currentOffset rest

/-- The next backend in rotation by weight, or the error of an index out of range. -/
def WeightedRoundRobin.select (wrr : WeightedRoundRobin) (heap : BackendHeap) (pool : Pool) :
    WeightedRoundRobin × Except String (Option Nat) :=
  let backends := pool.healthy heap
  if backends.length ≤ 1 then (wrr, .ok backends.head?)
  else
    let totalWeight :=
      backends.foldl (fun total b => Go.wrap64 (total + (heap b).weight)) 0
    let next := Go.wrap64 (wrr.current + 1)
    let previous := Go.wrap64 (next - 1)
    if totalWeight = 0 then
      let index := previous.tmod backends.length
      -- The remainder of a counter that has wrapped to the negative is negative.
      if index < 0 then
        (⟨next⟩, .error ("runtime error: index out of range [" ++ toString index ++ "]"))
      else (⟨next⟩, .ok backends[index.toNat]?)
    else
      let offset := previous.tmod totalWeight
      (⟨next⟩, .ok ((weightedAt heap offset 0 backends).or backends.head?))

/-- The backend in rotation with the least ratio of connections to weight. -/
def weightedLeastConnectionsSelect (heap : BackendHeap) (pool : Pool) : Option Nat :=
  let backends := pool.healthy heap
  if backends.length ≤ 1 then backends.head?
  else
    let ratio := fun b =>
      let weight := if (heap b).weight ≤ 0 then 1 else (heap b).weight
      ((heap b).activeConnections : Rat) / (weight : Rat)
    leastBy (-1) ratio backends

namespace ConsistentHash

variable (hash : List UInt8 → UInt32)

/-- The first owner within the load bound, looking at a number of ring positions in turn. -/
def walkBounded (ch : ConsistentHash) (heap : BackendHeap) (maxLoad : Rat) :
    Nat → Nat → Option Nat
  | 0, _ => none
  | rounds + 1, idx =>
    let idx := if idx ≥ ch.ring.length then 0 else idx
    match ch.ringMap (ch.ring.getD idx 0) with
    | some b =>
      if ((heap b).activeConnections : Rat) ≤ maxLoad then some b
      else walkBounded ch heap maxLoad rounds (idx + 1)
    | none => walkBounded ch heap maxLoad rounds (idx + 1)

/-- Select like `selectWithKey`, but pass over backends above a multiple of the average load. -/
def selectWithKeyBounded (ch : ConsistentHash) (loadFactor : Rat) (heap : BackendHeap)
    (pool : Pool) (key : List UInt8) : ConsistentHash × Option Nat :=
  let ch := ch.rebuildRing hash heap pool
  let backends := pool.healthy heap
  if ch.ring.length = 0 ∨ backends.length = 0 then (ch, none)
  else
    let connections := fun b => (heap b).activeConnections
    let totalConnections := (backends.map connections).sum
    let avgLoad : Rat := (totalConnections : Rat) / (backends.length : Rat)
    let maxLoad := avgLoad * loadFactor
    let idx := Go.search (fun i => ch.ring.getD i 0 ≥ hash key) ch.ring.length
    -- As many positions are tried as there are backends, whoever owns them.
    let selected := ch.walkBounded heap maxLoad backends.length idx
    (ch, selected.or (leastBy (-1) connections backends))

end ConsistentHash

/-- A balancer of one of the six algorithms, with its state. -/
inductive LoadBalancer where
  | roundRobin (rr : RoundRobin)
  | leastConnections
  | weightedRoundRobin (wrr : WeightedRoundRobin)
  | weightedLeastConnections
  | consistentHash (ch : ConsistentHash)
  | boundedConsistentHash (ch : ConsistentHash) (loadFactor : Rat)

/-- The balancer that a configuration names. -/
def newLoadBalancer (heap : BackendHeap) (pool : Pool) (algorithm hashKey : String) :
    Except String LoadBalancer :=
  if algorithm = "round-robin" then .ok (.roundRobin ⟨0⟩)
  else if algorithm = "least-connections" then .ok .leastConnections
  else if algorithm = "weighted-round-robin" then .ok (.weightedRoundRobin ⟨0⟩)
  else if algorithm = "weighted-least-connections" then .ok .weightedLeastConnections
  else if algorithm = "consistent-hash" then
    .ok (.consistentHash (newConsistentHash fnv1a heap pool defaultVirtualNodes hashKey))
  else if algorithm = "bounded-consistent-hash" then
    .ok (.boundedConsistentHash
      (newConsistentHash fnv1a heap pool defaultVirtualNodes hashKey) (5 / 4))
  else .error ("unsupported load balancer algorithm: " ++ algorithm)

/-- Select for a client: by its address where the algorithm takes a key, and else in turn. -/
def LoadBalancer.selectFor (balancer : LoadBalancer) (heap : BackendHeap) (pool : Pool)
    (clientIP : List UInt8) : LoadBalancer × Except String (Option Nat) :=
  match balancer with
  | .roundRobin rr =>
    let (rr, selected) := rr.select heap pool
    (.roundRobin rr, .ok selected)
  | .leastConnections => (.leastConnections, .ok (leastConnectionsSelect heap pool))
  | .weightedRoundRobin wrr =>
    let (wrr, selected) := wrr.select heap pool
    (.weightedRoundRobin wrr, selected)
  | .weightedLeastConnections =>
    (.weightedLeastConnections, .ok (weightedLeastConnectionsSelect heap pool))
  | .consistentHash ch =>
    let (ch, selected) := ch.selectWithKey fnv1a heap pool clientIP
    (.consistentHash ch, .ok selected)
  | .boundedConsistentHash ch loadFactor =>
    let (ch, selected) := ch.selectWithKeyBounded fnv1a loadFactor heap pool clientIP
    (.boundedConsistentHash ch loadFactor, .ok selected)

/-- Select for nobody in particular, which is by the empty key where the algorithm takes one. -/
def LoadBalancer.select (balancer : LoadBalancer) (heap : BackendHeap) (pool : Pool) :
    LoadBalancer × Except String (Option Nat) :=
  balancer.selectFor heap pool []

/-- The least backend is one of those compared. -/
theorem leastBy_mem {α : Type} [LT α] [DecidableEq α] [DecidableLT α] {unset : α}
    {measure : Nat → α} {backends : List Nat} {b : Nat}
    (found : leastBy unset measure backends = some b) : b ∈ backends := by
  -- The pass keeps a backend that it has seen, or the one it started with.
  have general (best : Option Nat × α) (rest : List Nat)
      (kept : (rest.foldl (leastStep unset measure) best).1 = some b) :
      b ∈ rest ∨ best.1 = some b := by
    induction rest generalizing best with
    | nil => exact .inr kept
    | cons c rest ih =>
      rcases ih _ kept with later | earlier
      · exact .inl (by simp [later])
      · unfold leastStep at earlier
        split at earlier
        · obtain rfl := Option.some.inj earlier
          exact .inl (by simp)
        · exact .inr earlier
  rcases general _ _ found with member | impossible
  · exact member
  · cases impossible

/-- A backend is found among measures that the starting value is not one of, and none is less. -/
theorem leastBy_spec {α : Type} [LinearOrder α] {unset : α} {measure : Nat → α}
    {backends : List Nat} (measured : ∀ b ∈ backends, measure b ≠ unset) (listed : backends ≠ []) :
    ∃ b ∈ backends, leastBy unset measure backends = some b ∧
      ∀ other ∈ backends, measure b ≤ measure other := by
  -- Once the pass has a best backend, it keeps the lesser of that one and the next.
  have general (rest : List Nat) (best : Nat) (measured : ∀ b ∈ best :: rest, measure b ≠ unset) :
      ∃ b ∈ best :: rest,
        rest.foldl (leastStep unset measure) (some best, measure best) = (some b, measure b) ∧
          ∀ other ∈ best :: rest, measure b ≤ measure other := by
    induction rest generalizing best with
    | nil => exact ⟨best, by simp⟩
    | cons c rest ih =>
      simp only [List.forall_mem_cons] at measured
      obtain ⟨known, next, later⟩ := measured
      rw [List.foldl_cons]
      by_cases less : measure c < measure best
      · obtain ⟨b, member, found, least⟩ := ih c (List.forall_mem_cons.mpr ⟨next, later⟩)
        obtain ⟨below, rest_below⟩ := List.forall_mem_cons.mp least
        refine ⟨b, List.mem_cons_of_mem best member, ?_, ?_⟩
        · rw [leastStep, if_pos (.inr less), found]
        · exact List.forall_mem_cons.mpr ⟨le_trans below less.le, least⟩
      · obtain ⟨b, member, found, least⟩ := ih best (List.forall_mem_cons.mpr ⟨known, later⟩)
        obtain ⟨below, rest_below⟩ := List.forall_mem_cons.mp least
        refine ⟨b, ?_, ?_, ?_⟩
        · rcases List.mem_cons.mp member with rfl | member <;> simp [*]
        · rw [leastStep, if_neg (by simp [known, less]), found]
        · simp only [List.forall_mem_cons]
          exact ⟨below, le_trans below (not_lt.mp less), rest_below⟩
  cases backends with
  | nil => exact absurd rfl listed
  | cons first rest =>
    obtain ⟨b, member, found, least⟩ := general rest first measured
    refine ⟨b, member, ?_, least⟩
    rw [leastBy, List.foldl_cons, leastStep, if_pos (.inl rfl), found]

/-- The backend at an offset is one of those listed. -/
theorem weightedAt_mem {heap : BackendHeap} {offset currentOffset : Int} {backends : List Nat}
    {b : Nat} (found : weightedAt heap offset currentOffset backends = some b) :
    b ∈ backends := by
  -- The walk returns a backend at which it stops.
  induction backends generalizing currentOffset with
  | nil => cases found
  | cons c rest ih =>
    simp only [weightedAt] at found
    split at found
    · obtain rfl := Option.some.inj found
      simp
    · simp [ih found]

/-- A backend selected by weight is in rotation. -/
theorem WeightedRoundRobin.select_mem {wrr : WeightedRoundRobin} {heap : BackendHeap} {pool : Pool}
    {b : Nat} (found : (wrr.select heap pool).2 = .ok (some b)) : b ∈ pool.healthy heap := by
  -- A lone backend, an index, a share of the weights, or the first one for lack of a share.
  simp only [select] at found
  split at found
  · exact List.mem_of_mem_head? (Except.ok.inj found)
  · split at found
    · split at found
      · cases found
      · exact List.mem_of_getElem? (Except.ok.inj found)
    · rcases Option.or_eq_some_iff.mp (Except.ok.inj found) with share | ⟨_, first⟩
      · exact weightedAt_mem share
      · exact List.mem_of_mem_head? first

namespace ConsistentHash

variable {hash : List UInt8 → UInt32}

/-- Every point of the ring belongs to a backend of the pool. -/
def OwnedBy (ch : ConsistentHash) (pool : Pool) : Prop :=
  ∀ point b, ch.ringMap point = some b → b ∈ pool

/-- Bringing the ring up to date leaves it to the pool. -/
theorem OwnedBy.rebuildRing {ch : ConsistentHash} {pool : Pool} (owned : ch.OwnedBy pool)
    (heap : BackendHeap) : (ch.rebuildRing hash heap pool).OwnedBy pool := by
  -- A kept ring has its old owners, and a rebuilt one has those in rotation.
  by_cases kept : (pool.healthy heap).length = ch.lastKnownSize ∧ ch.ring.length > 0
  · rw [rebuildRing_of_kept kept]
    exact owned
  · intro point b owner
    have built : BuiltFrom hash heap (ch.rebuildRing hash heap pool) (pool.healthy heap) :=
      rebuildRing_builtFrom_healthy kept
    exact (Pool.mem_healthy.mp (built.owner_mem owner)).1

/-- A ring that would be kept belongs to backends in rotation. -/
def Fresh (ch : ConsistentHash) (heap : BackendHeap) (pool : Pool) : Prop :=
  (pool.healthy heap).length = ch.lastKnownSize ∧ ch.ring.length > 0 →
    ∀ point b, ch.ringMap point = some b → b ∈ pool.healthy heap

/-- A fresh ring that is brought up to date belongs to backends in rotation. -/
theorem Fresh.rebuildRing {ch : ConsistentHash} {heap : BackendHeap} {pool : Pool}
    (fresh : ch.Fresh heap pool) (point : UInt32) (b : Nat)
    (owner : (ch.rebuildRing hash heap pool).ringMap point = some b) :
    b ∈ pool.healthy heap := by
  -- A ring that is not kept is built from the backends in rotation.
  by_cases kept : (pool.healthy heap).length = ch.lastKnownSize ∧ ch.ring.length > 0
  · rw [rebuildRing_of_kept kept] at owner
    exact fresh kept point b owner
  · have built : BuiltFrom hash heap (ch.rebuildRing hash heap pool) (pool.healthy heap) :=
      rebuildRing_builtFrom_healthy kept
    exact built.owner_mem owner

/-- Whoever is found within the load bound owns a point of the ring. -/
theorem walkBounded_owner {ch : ConsistentHash} {heap : BackendHeap} {maxLoad : Rat}
    {rounds idx b : Nat} (found : ch.walkBounded heap maxLoad rounds idx = some b) :
    ∃ point, ch.ringMap point = some b := by
  -- Each round looks one owner up in the map.
  induction rounds generalizing idx with
  | zero => cases found
  | succ rounds ih =>
    simp only [walkBounded] at found
    split at found
    · rename_i owner owned
      split at found
      · obtain rfl := Option.some.inj found
        exact ⟨_, owned⟩
      · exact ih found
    · exact ih found

end ConsistentHash

namespace LoadBalancer

/-- A ring that the balancer may have cached belongs to the pool. -/
def OwnedBy (balancer : LoadBalancer) (pool : Pool) : Prop :=
  match balancer with
  | .consistentHash ch => ch.OwnedBy pool
  | .boundedConsistentHash ch _ => ch.OwnedBy pool
  | _ => True

/-- Selecting leaves a cached ring to the pool. -/
theorem OwnedBy.selectFor {balancer : LoadBalancer} {pool : Pool} (owned : balancer.OwnedBy pool)
    (heap : BackendHeap) (clientIP : List UInt8) :
    (balancer.selectFor heap pool clientIP).1.OwnedBy pool := by
  -- Only the two hashing balancers have a ring.
  cases balancer with
  | roundRobin rr => trivial
  | leastConnections => trivial
  | weightedRoundRobin wrr => trivial
  | weightedLeastConnections => trivial
  | consistentHash ch => exact ConsistentHash.OwnedBy.rebuildRing owned heap
  | boundedConsistentHash ch loadFactor =>
    simp only [LoadBalancer.selectFor, ConsistentHash.selectWithKeyBounded]
    split <;> exact ConsistentHash.OwnedBy.rebuildRing owned heap

/-- Whoever owns a point of the ring that a selection goes by has a property. -/
def RingOwners (good : Nat → Prop) (balancer : LoadBalancer) (heap : BackendHeap) (pool : Pool) :
    Prop :=
  match balancer with
  | .consistentHash ch =>
    ∀ point b, (ch.rebuildRing fnv1a heap pool).ringMap point = some b → good b
  | .boundedConsistentHash ch _ =>
    ∀ point b, (ch.rebuildRing fnv1a heap pool).ringMap point = some b → good b
  | _ => True

/-- What backends in rotation and owners of the ring have in common, the selected one has. -/
theorem selectFor_of_owners {good : Nat → Prop} {balancer : LoadBalancer} {heap : BackendHeap}
    {pool : Pool} (rotation : ∀ b ∈ pool.healthy heap, good b)
    (owners : RingOwners good balancer heap pool) {clientIP : List UInt8} {b : Nat}
    (found : (balancer.selectFor heap pool clientIP).2 = .ok (some b)) : good b := by
  -- Each algorithm picks from the backends in rotation, or from the owners of its ring.
  cases balancer with
  | roundRobin rr =>
    simp only [selectFor, RoundRobin.select] at found
    split at found
    · cases found
    · exact rotation b (List.mem_of_getElem? (Except.ok.inj found))
  | leastConnections => exact rotation b (leastBy_mem (Except.ok.inj found))
  | weightedRoundRobin wrr => exact rotation b (WeightedRoundRobin.select_mem found)
  | weightedLeastConnections =>
    simp only [selectFor, weightedLeastConnectionsSelect] at found
    split at found
    · exact rotation b (List.mem_of_mem_head? (Except.ok.inj found))
    · exact rotation b (leastBy_mem (Except.ok.inj found))
  | consistentHash ch =>
    obtain ⟨point, owner⟩ := ConsistentHash.lookup_owner (Except.ok.inj found)
    exact owners point b owner
  | boundedConsistentHash ch loadFactor =>
    simp only [selectFor, ConsistentHash.selectWithKeyBounded] at found
    split at found
    · cases found
    · -- Either the walk along the ring or the search for the least load ends in one of them.
      rcases Option.or_eq_some_iff.mp (Except.ok.inj found) with walked | ⟨_, least⟩
      · obtain ⟨point, owner⟩ := ConsistentHash.walkBounded_owner walked
        exact owners point b owner
      · exact rotation b (leastBy_mem least)

/-- Whatever is selected is in the pool. -/
theorem selectFor_mem {balancer : LoadBalancer} {pool : Pool} (owned : balancer.OwnedBy pool)
    {heap : BackendHeap} {clientIP : List UInt8} {b : Nat}
    (found : (balancer.selectFor heap pool clientIP).2 = .ok (some b)) : b ∈ pool := by
  -- A ring that the pool owns belongs to it after a selection as well.
  have owners : RingOwners (· ∈ pool) balancer heap pool := by
    cases balancer with
    | consistentHash ch => exact ConsistentHash.OwnedBy.rebuildRing owned heap
    | boundedConsistentHash ch _ => exact ConsistentHash.OwnedBy.rebuildRing owned heap
    | _ => trivial
  exact selectFor_of_owners (fun _ member => (Pool.mem_healthy.mp member).1) owners found

/-- A ring that a selection would keep belongs to backends in rotation. -/
def Fresh (balancer : LoadBalancer) (heap : BackendHeap) (pool : Pool) : Prop :=
  match balancer with
  | .consistentHash ch => ch.Fresh heap pool
  | .boundedConsistentHash ch _ => ch.Fresh heap pool
  | _ => True

/-- Whatever is selected by a fresh ring, or without one, is in rotation. -/
theorem selectFor_healthy {balancer : LoadBalancer} {heap : BackendHeap} {pool : Pool}
    (fresh : balancer.Fresh heap pool) {clientIP : List UInt8} {b : Nat}
    (found : (balancer.selectFor heap pool clientIP).2 = .ok (some b)) :
    b ∈ pool.healthy heap := by
  -- A ring that is fresh has owners in rotation only.
  have owners : RingOwners (· ∈ pool.healthy heap) balancer heap pool := by
    cases balancer with
    | consistentHash ch => exact ConsistentHash.Fresh.rebuildRing fresh
    | boundedConsistentHash ch _ => exact ConsistentHash.Fresh.rebuildRing fresh
    | _ => trivial
  exact selectFor_of_owners (fun _ member => member) owners found

end LoadBalancer

/-- A new balancer has cached nothing but the pool. -/
theorem newLoadBalancer_ownedBy {heap : BackendHeap} {pool : Pool} {algorithm hashKey : String}
    {balancer : LoadBalancer} (made : newLoadBalancer heap pool algorithm hashKey = .ok balancer) :
    balancer.OwnedBy pool := by
  -- The two hashing balancers start with a ring of the backends in rotation.
  have ring : (newConsistentHash fnv1a heap pool defaultVirtualNodes hashKey).OwnedBy pool := by
    intro point b owner
    have built := ConsistentHash.newConsistentHash_builtFrom fnv1a heap pool
      defaultVirtualNodes hashKey
    exact (Pool.mem_healthy.mp (built.owner_mem owner)).1
  unfold newLoadBalancer at made
  repeat' split at made
  all_goals cases made
  all_goals first | exact ring | trivial

end Balance
