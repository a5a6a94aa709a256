import Balance.Lb.Consistent
import Balance.Machine.Run

/-! A cached hash ring against one that is built anew for each selection. -/

namespace Balance

open Machine

/-- What happens to a pool, the flags of its backends, and the balancer over it. -/
inductive RingEvent where
  | add (b : Nat)
  | remove (name : String)
  | markHealthy (b : Nat)
  | markUnhealthy (b : Nat)
  | selectWithKey (key : List UInt8)

/-- A pool, its backends, and a consistent hash balancer over them. -/
structure Hashing where
  heap : BackendHeap
  pool : Pool
  ch : ConsistentHash

namespace Hashing

variable (hash : List UInt8 → UInt32)

/-- A new balancer over a pool. -/
def start (heap : BackendHeap) (pool : Pool) (virtualNodes : Int) (hashKey : String) : Hashing :=
  ⟨heap, pool, newConsistentHash hash heap pool virtualNodes hashKey⟩

/-- Apply one event. -/
def apply (state : Hashing) : RingEvent → Hashing
  | .add b => { state with pool := state.pool.add b }
  | .remove name => { state with pool := (state.pool.remove state.heap name).1 }
  | .markHealthy b => { state with heap := state.heap.markHealthy b }
  | .markUnhealthy b => { state with heap := state.heap.markUnhealthy b }
  | .selectWithKey key =>
    { state with ch := (state.ch.selectWithKey hash state.heap state.pool key).1 }

/-- Every event can happen at any time. -/
def step (state : Hashing) (event : RingEvent) : Option Hashing := some (state.apply hash event)

/-- What the balancer answers for a key. -/
def answer (state : Hashing) (key : List UInt8) : Option Nat :=
  (state.ch.selectWithKey hash state.heap state.pool key).2

/-- What a balancer answers that is built over the same pool at this moment. -/
def freshAnswer (state : Hashing) (key : List UInt8) : Option Nat :=
  ((newConsistentHash hash state.heap state.pool state.ch.virtualNodes
    state.ch.hashKey).selectWithKey hash state.heap state.pool key).2

/-- A selection agrees with a new balancer on every key, and finds backends in rotation only. -/
def Agrees (state : Hashing) : RingEvent → Prop
  | .selectWithKey _ => ∀ key, state.answer hash key = state.freshAnswer hash key ∧
      ∀ b, state.answer hash key = some b → b ∈ state.pool ∧ state.heap.isHealthy b = true
  | _ => True

end Hashing

/-- A pool with its backends, and the backends that the ring was last built from. -/
structure RingHistory where
  heap : BackendHeap
  pool : Pool
  virtualNodes : Int
  built : List Nat

namespace RingHistory

/-- A ring is first built from the backends in rotation. -/
def start (heap : BackendHeap) (pool : Pool) (virtualNodes : Int) : RingHistory where
  heap := heap
  pool := pool
  virtualNodes := if virtualNodes ≤ 0 then defaultVirtualNodes else virtualNodes
  built := pool.healthy heap

/-- The ring has points, and the number of backends in rotation gives no reason to rebuild it. -/
def Kept (history : RingHistory) : Prop :=
  (history.pool.healthy history.heap).length = history.built.length ∧
    ∃ b ∈ history.built, 0 < numVirtualNodes history.virtualNodes (history.heap b).weight

instance (history : RingHistory) : Decidable history.Kept := inferInstanceAs (Decidable (_ ∧ _))

/-- The backends that the ring is built from after a selection. -/
def rebuilt (history : RingHistory) : List Nat :=
  if history.Kept then history.built else history.pool.healthy history.heap

/-- Apply one event. -/
def apply (history : RingHistory) : RingEvent → RingHistory
  | .add b => { history with pool := history.pool.add b }
  | .remove name => { history with pool := (history.pool.remove history.heap name).1 }
  | .markHealthy b => { history with heap := history.heap.markHealthy b }
  | .markUnhealthy b => { history with heap := history.heap.markUnhealthy b }
  | .selectWithKey _ => { history with built := history.rebuilt }

/-- Every event can happen at any time. -/
def step (history : RingHistory) (event : RingEvent) : Option RingHistory :=
  some (history.apply event)

/-- A selection that keeps the ring finds the backends in rotation to be those of the ring. -/
def Current (history : RingHistory) : RingEvent → Prop
  | .selectWithKey _ => history.Kept → history.pool.healthy history.heap = history.built
  | _ => True

end RingHistory

namespace Hashing

variable {hash : List UInt8 → UInt32}

/-- The ring of a balancer is the one that its history says. -/
structure Tracks (hash : List UInt8 → UInt32) (state : Hashing) (history : RingHistory) : Prop where
  heap : state.heap = history.heap
  pool : state.pool = history.pool
  virtualNodes : state.ch.virtualNodes = history.virtualNodes
  positive : 1 ≤ state.ch.virtualNodes
  built : ConsistentHash.BuiltFrom hash state.heap state.ch history.built

/-- A new balancer has the ring that its history says. -/
theorem start_tracks (heap : BackendHeap) (pool : Pool) (virtualNodes : Int) (hashKey : String) :
    Tracks hash (start hash heap pool virtualNodes hashKey)
      (RingHistory.start heap pool virtualNodes) := by
  -- The default stands in for a number of virtual nodes that is not positive.
  refine ⟨rfl, rfl, ConsistentHash.newConsistentHash_virtualNodes _ _ _ _ _, ?_,
    ConsistentHash.newConsistentHash_builtFrom _ _ _ _ _⟩
  simp only [start, ConsistentHash.newConsistentHash_virtualNodes, defaultVirtualNodes]
  split <;> omega

/-- Flags play no part in what a ring is built to. -/
theorem builtFrom_storeHealthy {heap : BackendHeap} {ch : ConsistentHash} {backends : List Nat}
    (built : ConsistentHash.BuiltFrom hash heap ch backends) (b : Nat) (healthy : Bool) :
    ConsistentHash.BuiltFrom hash (heap.storeHealthy b healthy) ch backends := by
  -- Addresses and weights are read through the mark.
  apply built.congr_heap
  simp

/-- Every event keeps the balancer to its history. -/
theorem Tracks.apply {state : Hashing} {history : RingHistory} (tracks : Tracks hash state history)
    (event : RingEvent) : Tracks hash (state.apply hash event) (history.apply event) := by
  -- Only a selection touches the ring, and marks touch neither addresses nor weights.
  obtain ⟨heap, pool, nodes, positive, built⟩ := tracks
  cases event with
  | add b => exact ⟨heap, by simp [Hashing.apply, RingHistory.apply, pool], nodes, positive, built⟩
  | remove name =>
    exact ⟨heap, by simp [Hashing.apply, RingHistory.apply, pool, heap], nodes, positive, built⟩
  | markHealthy b =>
    exact ⟨by simp [Hashing.apply, RingHistory.apply, heap], pool, nodes, positive,
      builtFrom_storeHealthy built b true⟩
  | markUnhealthy b =>
    exact ⟨by simp [Hashing.apply, RingHistory.apply, heap], pool, nodes, positive,
      builtFrom_storeHealthy built b false⟩
  | selectWithKey key =>
    refine ⟨heap, pool, ?_, ?_, ?_⟩
    · simpa [Hashing.apply, RingHistory.apply, ConsistentHash.selectWithKey_eq] using nodes
    · simpa [Hashing.apply, ConsistentHash.selectWithKey_eq] using positive
    · simp only [RingHistory.apply, RingHistory.rebuilt, RingHistory.Kept, ← heap, ← pool, ← nodes]
      exact built.rebuildRing

/-- The answer comes from the ring that the history says a selection leaves. -/
theorem Tracks.answer_builtFrom {state : Hashing} {history : RingHistory}
    (tracks : Tracks hash state history) :
    ConsistentHash.BuiltFrom hash state.heap
      (state.ch.rebuildRing hash state.heap state.pool) history.rebuilt := by
  -- The history keeps or replaces its backends by the same test as the code.
  simp only [RingHistory.rebuilt, RingHistory.Kept, ← tracks.heap, ← tracks.pool,
    ← tracks.virtualNodes]
  exact tracks.built.rebuildRing

/-- The answer of a new balancer comes from a ring of the backends in rotation. -/
theorem Tracks.freshAnswer_builtFrom {state : Hashing} {history : RingHistory}
    (tracks : Tracks hash state history) :
    let fresh := newConsistentHash hash state.heap state.pool state.ch.virtualNodes state.ch.hashKey
    fresh.virtualNodes = state.ch.virtualNodes ∧
      ConsistentHash.BuiltFrom hash state.heap
        (fresh.rebuildRing hash state.heap state.pool) (state.pool.healthy state.heap) := by
  -- A new balancer that is asked at once keeps or repeats the ring it has just built.
  intro fresh
  have nodes : fresh.virtualNodes = state.ch.virtualNodes := by
    have given : ¬ state.ch.virtualNodes ≤ 0 := by
      have := tracks.positive
      omega
    rw [ConsistentHash.newConsistentHash_virtualNodes, if_neg given]
  refine ⟨nodes, ?_⟩
  have built := ConsistentHash.newConsistentHash_builtFrom hash state.heap state.pool
    state.ch.virtualNodes state.ch.hashKey
  have again : ConsistentHash.BuiltFrom hash state.heap
      (fresh.rebuildRing hash state.heap state.pool) _ := built.rebuildRing
  rw [ite_self] at again
  exact again

/-- A selection of a ring that is up to date agrees with a new balancer. -/
theorem Tracks.agrees {state : Hashing} {history : RingHistory} (tracks : Tracks hash state history)
    {event : RingEvent} (current : history.Current event) : state.Agrees hash event := by
  -- Only selections are asked to agree.
  cases event with
  | selectWithKey key =>
    intro other
    have left := tracks.answer_builtFrom
    obtain ⟨nodes, right⟩ := tracks.freshAnswer_builtFrom
    -- Up to date means that both rings come from the backends in rotation.
    have rotation : history.rebuilt = state.pool.healthy state.heap := by
      rw [tracks.heap, tracks.pool, RingHistory.rebuilt]
      split
      · rename_i kept
        exact (current kept).symm
      · rfl
    rw [rotation] at left
    refine ⟨left.lookup_eq right (by simp [nodes]) other, ?_⟩
    intro b found
    exact Pool.mem_healthy.mp (left.lookup_mem found)
  | add b => trivial
  | remove name => trivial
  | markHealthy b => trivial
  | markUnhealthy b => trivial

end Hashing

/-- Two lists of one length that differ have a last position at which they differ. -/
theorem exists_last_difference {α : Type*} {first second : List α}
    (lengths : first.length = second.length) (differ : first ≠ second) :
    ∃ before x others y after,
      first = before ++ x :: after ∧ second = others ++ y :: after ∧ x ≠ y := by
  -- If the tails agree, the heads are the last difference.
  induction first generalizing second with
  | nil =>
    have empty : second = [] := List.length_eq_zero_iff.mp lengths.symm
    exact absurd empty.symm differ
  | cons x rest ih =>
    cases second with
    | nil => simp at lengths
    | cons y others =>
      by_cases same : rest = others
      · subst same
        refine ⟨[], x, [], y, rest, rfl, rfl, ?_⟩
        intro equal
        exact differ (by rw [equal])
      · obtain ⟨before, a, heads, c, after, left, right, apart⟩ :=
          ih (by simpa using lengths) same
        exact ⟨x :: before, a, y :: heads, c, after, by simp [left], by simp [right], apart⟩

open Classical in
/-- A hash that puts the nodes of some backends at one, and every other text at zero. -/
noncomputable def separatingHash (heap : BackendHeap) (backends : List Nat)
    (text : List UInt8) : UInt32 :=
  if ∃ c ∈ backends, ∃ i, text = nodeKey (heap c).address i then 1 else 0

/-- Some hash tells two lists of as many backends apart, if each of them has virtual nodes. -/
theorem exists_hash_apart {heap : BackendHeap} {virtualNodes : Int}
    (addresses : Function.Injective fun b => (heap b).address)
    (occupied : ∀ b, 0 < numVirtualNodes virtualNodes (heap b).weight) {first second : List Nat}
    (firstOnce : first.Nodup) (secondOnce : second.Nodup)
    (lengths : first.length = second.length) (differ : first ≠ second) :
    ∃ hash : List UInt8 → UInt32, ∀ left right : ConsistentHash,
      left.virtualNodes = virtualNodes → right.virtualNodes = virtualNodes →
      ConsistentHash.BuiltFrom hash heap left first →
      ConsistentHash.BuiltFrom hash heap right second →
      left.lookup hash [] ≠ right.lookup hash [] := by
  -- The last difference decides who owns the smallest point.
  obtain ⟨before, x, others, y, after, rfl, rfl, apart⟩ := exists_last_difference lengths differ
  have firstAbsent : x ∉ after := (List.nodup_cons.mp firstOnce.of_append_right).1
  have secondAbsent : y ∉ after := (List.nodup_cons.mp secondOnce.of_append_right).1
  -- Everything behind the last difference is put out of the way of the smallest point.
  refine ⟨separatingHash heap after, ?_⟩
  have low : separatingHash heap after [] = 0 := by
    apply if_neg
    intro given
    rcases given with ⟨c, _, i, same⟩
    have texts := bytesOf_inj (show bytesOf "" = _ from same)
    have lists := congrArg String.toList texts
    simp [String.toList_append] at lists
  have here {b : Nat} (absent : b ∉ after) (i : Nat) :
      separatingHash heap after (nodeKey (heap b).address i) = 0 := by
    apply if_neg
    intro given
    rcases given with ⟨c, listed, j, same⟩
    have equal : b = c := addresses (nodeKey_address same)
    exact absent (equal ▸ listed)
  have beyond : ∀ c ∈ after, ∀ i,
      separatingHash heap after (nodeKey (heap c).address i) ≠ 0 := by
    intro c listed i
    have one : separatingHash heap after (nodeKey (heap c).address i) = 1 :=
      if_pos ⟨c, listed, i, rfl⟩
    rw [one]
    decide
  intro left right leftNodes rightNodes leftBuilt rightBuilt
  rw [leftBuilt.lookup_zero (by rw [leftNodes]; exact occupied x) low (here firstAbsent) beyond,
    rightBuilt.lookup_zero (by rw [rightNodes]; exact occupied y) low (here secondAbsent) beyond]
  intro equal
  exact apart (Option.some.inj equal)

namespace RingHistory

/-- Addresses differ from one another, and every backend has virtual nodes. -/
structure Regular (history : RingHistory) : Prop where
  addresses : Function.Injective fun b => (history.heap b).address
  occupied : ∀ b, 0 < numVirtualNodes history.virtualNodes (history.heap b).weight

/-- Marking a backend changes neither addresses nor weights. -/
theorem Regular.storeHealthy {history : RingHistory} (regular : history.Regular) (b : Nat)
    (healthy : Bool) : Regular { history with heap := history.heap.storeHealthy b healthy } := by
  -- Reading an address or a weight sees through the mark.
  constructor
  · intro c d same
    apply regular.addresses
    simpa only [BackendHeap.storeHealthy_address] using same
  · intro c
    simpa only [BackendHeap.storeHealthy_weight] using regular.occupied c

/-- No event changes addresses or weights. -/
theorem Regular.apply {history : RingHistory} (regular : history.Regular) (event : RingEvent) :
    (history.apply event).Regular := by
  -- Only marks write to the backends at all.
  cases event with
  | add other => exact ⟨regular.addresses, regular.occupied⟩
  | remove name => exact ⟨regular.addresses, regular.occupied⟩
  | markHealthy other => exact regular.storeHealthy other true
  | markUnhealthy other => exact regular.storeHealthy other false
  | selectWithKey key => exact ⟨regular.addresses, regular.occupied⟩

/-- A ring built from a pool without duplicates has none either. -/
theorem apply_built_nodup {history : RingHistory} (pool : history.pool.Nodup)
    (built : history.built.Nodup) (event : RingEvent) : (history.apply event).built.Nodup := by
  -- A selection takes over the backends in rotation, which are part of the pool.
  cases event with
  | selectWithKey key =>
    simp only [apply, rebuilt]
    split
    · exact built
    · exact pool.filter _
  | add other => exact built
  | remove name => exact built
  | markHealthy other => exact built
  | markUnhealthy other => exact built

/-- A selection that agrees with a new balancer for every hash finds its ring up to date. -/
theorem current_of_agrees {history : RingHistory} (regular : history.Regular)
    (pool : history.pool.Nodup) (built : history.built.Nodup)
    {state : (List UInt8 → UInt32) → Hashing}
    (tracks : ∀ hash, Hashing.Tracks hash (state hash) history) {event : RingEvent}
    (agrees : ∀ hash, (state hash).Agrees hash event) : history.Current event := by
  -- A stale ring is told apart from a new one by some hash.
  cases event with
  | selectWithKey key =>
    intro kept
    by_contra differ
    obtain ⟨hash, separates⟩ := exists_hash_apart regular.addresses regular.occupied built
      (pool.filter _) kept.1.symm (Ne.symm differ)
    -- The cached ring is still the old one, and a new one tells the difference.
    have left := (tracks hash).answer_builtFrom
    obtain ⟨nodes, right⟩ := (tracks hash).freshAnswer_builtFrom
    rw [rebuilt, if_pos kept] at left
    rw [(tracks hash).heap, (tracks hash).pool] at left right nodes
    apply separates _ _ _ _ left right
    · have same := ((agrees hash) []).1
      simpa only [Hashing.answer, Hashing.freshAnswer, ConsistentHash.selectWithKey_eq,
        (tracks hash).heap, (tracks hash).pool] using same
    · simpa using (tracks hash).virtualNodes
    · simpa [nodes] using (tracks hash).virtualNodes
  | add other => trivial
  | remove name => trivial
  | markHealthy other => trivial
  | markUnhealthy other => trivial

/-- If a whole run agrees with new balancers for every hash, each selection is up to date. -/
theorem along_current_of_agrees {history : RingHistory} (regular : history.Regular)
    (built : history.built.Nodup) {state : (List UInt8 → UInt32) → Hashing}
    (tracks : ∀ hash, Hashing.Tracks hash (state hash) history) {trace : List RingEvent}
    (once : Along step (fun history _ => history.pool.Nodup) history trace)
    (agrees : ∀ hash, Along (Hashing.step hash) (Hashing.Agrees hash) (state hash) trace) :
    Along step Current history trace := by
  -- Event by event, all balancers keep to the one history.
  induction trace generalizing history state with
  | nil => trivial
  | cons event rest ih =>
    refine ⟨current_of_agrees regular once.1 built tracks fun hash => (agrees hash).1, ?_⟩
    intro next given
    cases given
    exact ih (regular.apply event) (apply_built_nodup once.1 built event)
      (fun hash => (tracks hash).apply event) (once.2 _ rfl) fun hash => (agrees hash).2 _ rfl

/--
The cached ring answers like a new one, for every hash and every key, if each selection that keeps
the ring finds the backends in rotation to be those of the ring; and only then, in a pool that
lists no backend twice, with different addresses and a virtual node for every backend.
-/
theorem agrees_iff_current (heap : BackendHeap) (pool : Pool) (virtualNodes : Int)
    (hashKey : String) (trace : List RingEvent) :
    (Along step Current (start heap pool virtualNodes) trace →
      ∀ hash, Along (Hashing.step hash) (Hashing.Agrees hash)
        (Hashing.start hash heap pool virtualNodes hashKey) trace) ∧
    ((start heap pool virtualNodes).Regular →
      Along step (fun history _ => history.pool.Nodup) (start heap pool virtualNodes) trace →
      (∀ hash, Along (Hashing.step hash) (Hashing.Agrees hash)
        (Hashing.start hash heap pool virtualNodes hashKey) trace) →
      Along step Current (start heap pool virtualNodes) trace) := by
  -- The history simulates the balancer of every hash, whose answers decide back.
  constructor
  · intro current hash
    refine along_simulation (Hashing.Tracks hash) ?_ ?_
      (Hashing.start_tracks heap pool virtualNodes hashKey) current
    · intro state history event next tracks given
      cases given
      exact ⟨_, rfl, tracks.apply event⟩
    · intro state history event tracks here
      exact tracks.agrees here
  · intro regular once agrees
    cases trace with
    | nil => trivial
    | cons event rest =>
      exact along_current_of_agrees regular (once.1.filter _)
        (fun hash => Hashing.start_tracks heap pool virtualNodes hashKey) once agrees

end RingHistory

namespace Hashing

/-- A selection returns a backend that is out of rotation, with another one in rotation. -/
theorem swapped_backends_keep_old_ring :
    let heap : BackendHeap := fun b =>
      if b = 0 then newBackend "a" "10.0.0.1:80" 1
      else { newBackend "b" "10.0.0.2:80" 1 with healthy := false }
    let swapped := ((start fnv1a heap [0, 1] 1 "").apply fnv1a (.markUnhealthy 0)).apply fnv1a
      (.markHealthy 1)
    swapped.answer fnv1a (bytesOf "10.1.1.1") = some 0 ∧ swapped.heap.isHealthy 0 = false ∧
      swapped.freshAnswer fnv1a (bytesOf "10.1.1.1") = some 1 := by
  -- Both rings have a single point, and both lookups evaluate.
  decide

end Hashing

end Balance
