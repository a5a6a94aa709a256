import Balance.Lb.Disruption
import Balance.Proxy.Server

/-! Whether the server of an accepted configuration can serve its first client. -/

namespace Balance

open scoped Go

/-- A pass over some backends ends with one of them. -/
theorem leastBy_isSome {α : Type} [LT α] [DecidableEq α] [DecidableLT α] (unset : α)
    (measure : Nat → α) {backends : List Nat} (occupied : backends ≠ []) :
    ∃ b, leastBy unset measure backends = some b := by
  -- The first backend is taken, and from then on there always is one.
  have general (b : Nat) (least : α) (rest : List Nat) :
      ∃ c, (rest.foldl (leastStep unset measure) (some b, least)).1 = some c := by
    induction rest generalizing b least with
    | nil => exact ⟨b, rfl⟩
    | cons c rest ih =>
      rw [List.foldl_cons, leastStep]
      split
      · exact ih c (measure c)
      · exact ih b least
  cases backends with
  | nil => exact absurd rfl occupied
  | cons b rest =>
    have first : leastStep unset measure (none, unset) b = (some b, measure b) := if_pos (.inl rfl)
    rw [leastBy, List.foldl_cons, first]
    exact general b (measure b) rest

/-- Backends in rotation have a first one. -/
theorem exists_head? {backends : List Nat} (occupied : backends ≠ []) :
    ∃ b, backends.head? = some b := ⟨_, List.head?_eq_some_head occupied⟩

namespace ConsistentHash

variable {hash : List UInt8 → UInt32} {heap : BackendHeap} {ch : ConsistentHash} {backends : List Nat}

/-- A lookup finds a backend exactly if one of those that the ring was built from has a node. -/
theorem BuiltFrom.lookup_isSome_iff (built : BuiltFrom hash heap ch backends) (key : List UInt8) :
    (∃ b, ch.lookup hash key = some b) ↔
      ∃ b ∈ backends, 0 < numVirtualNodes ch.virtualNodes (heap b).weight := by
  -- The next point on a ring that has points is owned.
  rw [← built.ring_length_pos, gt_iff_lt, List.length_pos_iff]
  constructor
  · intro given empty
    obtain ⟨b, found⟩ := given
    rw [lookup_of_empty empty] at found
    cases found
  · intro occupied
    obtain ⟨point, next, found⟩ := built.exists_next occupied key
    obtain ⟨b, _, owner, _⟩ := built.exists_owner next.mem
    exact ⟨b, found.trans owner⟩

/-- A new balancer selects from a ring of the backends in rotation. -/
theorem newConsistentHash_rebuilt (hash : List UInt8 → UInt32) (heap : BackendHeap) (pool : Pool)
    (virtualNodes : Int) (hashKey : String) :
    BuiltFrom hash heap
      ((newConsistentHash hash heap pool virtualNodes hashKey).rebuildRing hash heap pool)
      (pool.healthy heap) := by
  -- A new ring is up to date, and kept or built once more.
  have built := newConsistentHash_builtFrom hash heap pool virtualNodes hashKey
  have again : BuiltFrom hash heap
      ((newConsistentHash hash heap pool virtualNodes hashKey).rebuildRing hash heap pool) _ :=
    built.rebuildRing
  rwa [ite_self] at again

end ConsistentHash

/-- A new count by weight selects a backend in rotation. -/
theorem WeightedRoundRobin.select_fresh {heap : BackendHeap} {pool : Pool}
    (occupied : pool.healthy heap ≠ []) :
    ∃ b, (WeightedRoundRobin.select ⟨0⟩ heap pool).2 = .ok (some b) := by
  -- The first count is zero, whatever the weights add up to.
  obtain ⟨first, head⟩ := exists_head? occupied
  have count : Go.wrap64 (Go.wrap64 (0 + 1) - 1) = 0 := by decide
  simp only [select, count, Int.zero_tmod, lt_irrefl, if_false, Int.toNat_zero,
    ← List.head?_eq_getElem?, head]
  split
  · exact ⟨first, rfl⟩
  · split
    · exact ⟨first, rfl⟩
    · cases weightedAt heap 0 0 (pool.healthy heap) with
      | none => exact ⟨first, rfl⟩
      | some b => exact ⟨b, rfl⟩

/-- The balancers that a configuration can name, each with its state when it is new. -/
theorem newLoadBalancer_cases (heap : BackendHeap) (pool : Pool) (hashKey : String)
    {algorithm : String} (valid : algorithm ∈ Config.validAlgorithms) :
    ∃ balancer, newLoadBalancer heap pool algorithm hashKey = .ok balancer ∧
      ((algorithm = "round-robin" ∧ balancer = .roundRobin ⟨0⟩) ∨
        (algorithm = "least-connections" ∧ balancer = .leastConnections) ∨
        (algorithm = "weighted-round-robin" ∧ balancer = .weightedRoundRobin ⟨0⟩) ∨
        (algorithm = "weighted-least-connections" ∧ balancer = .weightedLeastConnections) ∨
        (algorithm = "consistent-hash" ∧ balancer = .consistentHash
          (newConsistentHash fnv1a heap pool defaultVirtualNodes hashKey)) ∨
        (algorithm = "bounded-consistent-hash" ∧ balancer = .boundedConsistentHash
          (newConsistentHash fnv1a heap pool defaultVirtualNodes hashKey) (5 / 4))) := by
  -- What can be configured is what can be built.
  simp only [Config.validAlgorithms, List.mem_cons, List.not_mem_nil, or_false] at valid
  rcases valid with rfl | rfl | rfl | rfl | rfl | rfl
  all_goals simp [newLoadBalancer]

/-- The algorithm selects by a hash ring. -/
def Hashes (algorithm : String) : Prop :=
  algorithm = "consistent-hash" ∨ algorithm = "bounded-consistent-hash"

namespace ConsistentHash

variable {heap : BackendHeap} {pool : Pool}

/-- The ring of a new balancer has points exactly if some backend in rotation has a node. -/
theorem newConsistentHash_occupied_iff (hashKey : String) :
    ((newConsistentHash fnv1a heap pool defaultVirtualNodes hashKey).rebuildRing
        fnv1a heap pool).ring.length > 0 ↔
      ∃ b ∈ pool.healthy heap, 0 < numVirtualNodes defaultVirtualNodes (heap b).weight := by
  rw [(newConsistentHash_rebuilt fnv1a heap pool defaultVirtualNodes hashKey).ring_length_pos,
    rebuildRing_virtualNodes, newConsistentHash_virtualNodes, if_neg (by decide)]

/-- A new balancer finds a backend for a key exactly if some backend in rotation has a node. -/
theorem selectWithKey_fresh_iff (hashKey : String) (key : List UInt8) :
    (∃ b, ((newConsistentHash fnv1a heap pool defaultVirtualNodes hashKey).selectWithKey
        fnv1a heap pool key).2 = some b) ↔
      ∃ b ∈ pool.healthy heap, 0 < numVirtualNodes defaultVirtualNodes (heap b).weight := by
  -- The ring is that of the backends the balancer was made with.
  have built := newConsistentHash_rebuilt fnv1a heap pool defaultVirtualNodes hashKey
  rw [← newConsistentHash_occupied_iff hashKey, built.ring_length_pos]
  exact built.lookup_isSome_iff key

/-- So does a new balancer with a bound on the load, which falls back on the least load. -/
theorem selectWithKeyBounded_fresh_iff (loadFactor : Rat) (occupied : pool.healthy heap ≠ [])
    (hashKey : String) (key : List UInt8) :
    (∃ b, ((newConsistentHash fnv1a heap pool defaultVirtualNodes hashKey).selectWithKeyBounded
        fnv1a loadFactor heap pool key).2 = some b) ↔
      ∃ b ∈ pool.healthy heap, 0 < numVirtualNodes defaultVirtualNodes (heap b).weight := by
  -- With points on the ring and backends in rotation, the fallback makes up for a failed walk.
  rw [← newConsistentHash_occupied_iff hashKey]
  have rotation : (pool.healthy heap).length ≠ 0 := by simpa using occupied
  obtain ⟨least, fallback⟩ :=
    leastBy_isSome (-1) (fun b => (heap b).activeConnections) occupied
  simp only [selectWithKeyBounded, rotation, or_false]
  split
  · rename_i empty
    simp [empty]
  · rename_i points
    simp only [fallback]
    constructor
    · intro _
      omega
    · intro _
      exact Option.isSome_iff_exists.mp (by simp)

end ConsistentHash

/--
A new balancer selects a backend exactly if it needs no ring, or some backend in rotation has a
virtual node.
-/
theorem newLoadBalancer_selects_iff (heap : BackendHeap) (pool : Pool) (hashKey : String)
    {algorithm : String} (valid : algorithm ∈ Config.validAlgorithms)
    (occupied : pool.healthy heap ≠ []) :
    ∃ balancer, newLoadBalancer heap pool algorithm hashKey = .ok balancer ∧ ∀ key,
      ((∃ b ∈ pool, (balancer.selectFor heap pool key).2 = .ok (some b)) ↔
        (Hashes algorithm → ∃ b ∈ pool.healthy heap,
          0 < numVirtualNodes defaultVirtualNodes (heap b).weight)) := by
  obtain ⟨balancer, made, shape⟩ := newLoadBalancer_cases heap pool hashKey valid
  refine ⟨balancer, made, fun key => ?_⟩
  -- Whatever is selected is in the pool.
  have within : (∃ b ∈ pool, (balancer.selectFor heap pool key).2 = .ok (some b)) ↔
      ∃ b, (balancer.selectFor heap pool key).2 = .ok (some b) := by
    constructor
    · intro given
      obtain ⟨b, _, found⟩ := given
      exact ⟨b, found⟩
    · intro given
      obtain ⟨b, found⟩ := given
      exact ⟨b, LoadBalancer.selectFor_mem (newLoadBalancer_ownedBy made) found, found⟩
  obtain ⟨first, head⟩ := exists_head? occupied
  have plain (free : ¬Hashes algorithm)
      (found : ∃ b, (balancer.selectFor heap pool key).2 = .ok (some b)) :
      (∃ b, (balancer.selectFor heap pool key).2 = .ok (some b)) ↔
        (Hashes algorithm → ∃ b ∈ pool.healthy heap,
          0 < numVirtualNodes defaultVirtualNodes (heap b).weight) :=
    iff_of_true found fun hashes => absurd hashes free
  rw [within]
  rcases shape with ⟨rfl, rfl⟩ | ⟨rfl, rfl⟩ | ⟨rfl, rfl⟩ | ⟨rfl, rfl⟩ | ⟨rfl, rfl⟩ | ⟨rfl, rfl⟩
  · refine plain (by simp [Hashes]) ⟨first, ?_⟩
    have rotation : (pool.healthy heap).length ≠ 0 := by simpa using occupied
    simp [LoadBalancer.selectFor, RoundRobin.select, rotation, ← List.head?_eq_getElem?, head]
  · obtain ⟨b, least⟩ := leastBy_isSome (-1) (fun b => (heap b).activeConnections) occupied
    exact plain (by simp [Hashes]) ⟨b, congrArg Except.ok least⟩
  · obtain ⟨b, found⟩ := WeightedRoundRobin.select_fresh occupied
    exact plain (by simp [Hashes]) ⟨b, found⟩
  · refine plain (by simp [Hashes]) ?_
    simp only [LoadBalancer.selectFor, weightedLeastConnectionsSelect]
    split
    · exact ⟨first, congrArg Except.ok head⟩
    · obtain ⟨b, least⟩ := leastBy_isSome (-1 : Rat) _ occupied
      exact ⟨b, congrArg Except.ok least⟩
  · simp only [Hashes, true_or, forall_const, LoadBalancer.selectFor, Except.ok.injEq]
    exact ConsistentHash.selectWithKey_fresh_iff hashKey key
  · simp only [Hashes, or_true, forall_const, LoadBalancer.selectFor, Except.ok.injEq]
    exact ConsistentHash.selectWithKeyBounded_fresh_iff (5 / 4) occupied hashKey key

/-- All configured backends start in rotation. -/
theorem configuredBackends_healthy (backends : List BackendConfig) (pool : Pool) :
    pool.healthy (configuredBackends backends) = pool := by
  apply List.filter_eq_self.mpr
  intro b _
  simp only [BackendHeap.isHealthy, configuredBackends]
  split <;> rfl

/-- Some configured backend has a virtual node exactly if the product for its weight is positive. -/
theorem configuredBackends_node_iff {backends : List BackendConfig}
    (weighted : ∀ b ∈ backends, 0 < b.weight) :
    (∃ b ∈ List.range backends.length,
      0 < numVirtualNodes defaultVirtualNodes (configuredBackends backends b).weight) ↔
      ∃ b ∈ backends, 0 < Go.wrap64 (defaultVirtualNodes * b.weight) := by
  -- A positive weight is not replaced, so that the nodes number what the product wraps to.
  have nodes {weight : Int} (positive : 0 < weight) :
      0 < numVirtualNodes defaultVirtualNodes weight ↔
        0 < Go.wrap64 (defaultVirtualNodes * weight) := by
    rw [numVirtualNodes, if_neg (by omega), Int.lt_toNat]
    rfl
  constructor
  · intro given
    obtain ⟨i, within, occupied⟩ := given
    have place := List.getElem?_eq_getElem (List.mem_range.mp within)
    have listed := List.mem_of_getElem? place
    refine ⟨_, listed, (nodes (weighted _ listed)).mp ?_⟩
    simpa only [configuredBackends, place, newBackend] using occupied
  · intro given
    obtain ⟨b, listed, positive⟩ := given
    obtain ⟨i, place⟩ := List.getElem?_of_mem listed
    obtain ⟨within, _⟩ := List.getElem?_eq_some_iff.mp place
    refine ⟨i, List.mem_range.mpr within, ?_⟩
    have occupied := (nodes (weighted b listed)).mpr positive
    simpa only [configuredBackends, place, newBackend] using occupied

/-- A server is built whenever its balancer is, in HTTP mode with HTTP settings. -/
theorem startup_eq {c config : Config} (accepted : c.setDefaults.validate = .ok config)
    {balancer : LoadBalancer}
    (made : newLoadBalancer (configuredBackends config.backends)
      (List.range config.backends.length) config.loadBalancer.algorithm
      config.loadBalancer.hashKey = .ok balancer) :
    ∃ http, startup c = .ok ⟨http, configuredBackends config.backends,
      List.range config.backends.length, balancer, ⟨0, 0, 0⟩, false⟩ := by
  -- The two modes differ in the HTTP settings alone.
  obtain ⟨mode, _, _, _, hashKey, shape⟩ := Config.validate_ok accepted
  have same : config.mode = c.setDefaults.mode := by rw [shape]
  have settings : config.http = c.setDefaults.http := by rw [shape]
  unfold startup
  rw [accepted]
  dsimp only
  rcases mode with tcp | http
  · refine ⟨none, ?_⟩
    rw [if_pos (same.trans tcp), newTCPServer, newServer]
    simp only [made]
  · refine ⟨config.http, ?_⟩
    have given : config.http.isNone = false := by
      rw [settings, Option.isNone_eq_false_iff]
      exact Config.setDefaults_http http
    rw [if_neg (by rw [same, http]; decide), if_pos (same.trans http), newHTTPServer, newServer]
    simp only [made, given, Bool.false_eq_true, if_false]

/--
A configuration that is accepted builds a server, and this selects a configured backend for every
key exactly if it does not hash or, for the weight of some backend, the number of virtual nodes
does not wrap around to zero or below.
-/
theorem accepted_config_serves_iff {c config : Config}
    (accepted : c.setDefaults.validate = .ok config) :
    ∃ server, startup c = .ok server ∧ server.heap = configuredBackends config.backends ∧
      server.pool = List.range config.backends.length ∧
      (((∀ key, ∃ b ∈ server.pool,
          (server.balancer.selectFor server.heap server.pool key).2 = .ok (some b)) ∧
        ∃ b ∈ server.pool, (server.balancer.select server.heap server.pool).2 = .ok (some b)) ↔
        (Hashes config.loadBalancer.algorithm →
          ∃ b ∈ config.backends, 0 < Go.wrap64 (defaultVirtualNodes * b.weight))) := by
  -- Every weight is positive: zero has been filled in, and negative ones are refused.
  obtain ⟨_, occupied, nonneg, algorithm, hashKey, shape⟩ := Config.validate_ok accepted
  have backends : config.backends = c.setDefaults.backends := by rw [shape]
  have valid : config.loadBalancer.algorithm ∈ Config.validAlgorithms := by
    rw [shape]
    exact algorithm
  have weighted : ∀ b ∈ config.backends, 0 < b.weight := by
    intro b listed
    rw [backends] at listed
    have nonzero := Config.setDefaults_weight listed
    have checked := nonneg b listed
    omega
  have rotation := configuredBackends_healthy config.backends (List.range config.backends.length)
  have some_rotation : Pool.healthy (configuredBackends config.backends)
      (List.range config.backends.length) ≠ [] := by
    rw [rotation, ne_eq, List.range_eq_nil, List.length_eq_zero_iff, backends]
    exact occupied
  obtain ⟨balancer, made, selects⟩ := newLoadBalancer_selects_iff
    (configuredBackends config.backends) (List.range config.backends.length)
    config.loadBalancer.hashKey valid some_rotation
  rw [rotation, configuredBackends_node_iff weighted] at selects
  obtain ⟨http, started⟩ := startup_eq accepted made
  refine ⟨_, started, rfl, rfl, ?_, ?_⟩
  · intro serves
    exact (selects []).mp serves.2
  · intro given
    exact ⟨fun key => (selects key).mpr given, (selects []).mpr given⟩

/-- One TCP backend of some weight, under an algorithm. -/
def singleConfig (algorithm : String) (weight : Int) : Config where
  mode := ""
  listen := ""
  backends := [⟨"b", "127.0.0.1:9000", weight⟩]
  loadBalancer := ⟨algorithm, ""⟩
  http := none
  tls := none
  healthCheck := none
  rateLimit := none

/-- A single backend that is given no weight serves every client by its hash. -/
theorem unweighted_backend_serves :
    ∃ server, startup (singleConfig "consistent-hash" 0) = .ok server ∧
      ∀ key, ∃ b ∈ server.pool,
        (server.balancer.selectFor server.heap server.pool key).2 = .ok (some b) := by
  -- A weight that is left out becomes one.
  obtain ⟨server, started, _, _, serves⟩ :=
    accepted_config_serves_iff
      (show (singleConfig "consistent-hash" 0).setDefaults.validate = .ok _ from rfl)
  refine ⟨server, started, (serves.mpr fun _ => ?_).1⟩
  exact ⟨_, List.mem_cons_self, by decide⟩

/-- A single backend of great weight is accepted, and nothing is ever selected. -/
theorem heavy_backend_never_selected :
    ∃ server, startup (singleConfig "consistent-hash" (2 ^ 62)) = .ok server ∧
      ∀ key, (server.balancer.selectFor server.heap server.pool key).2 = .ok none := by
  -- The number of its virtual nodes wraps around to a negative one, and the ring stays empty.
  refine ⟨_, rfl, fun key => ?_⟩
  rfl

end Balance
