import Balance.Lb.Balancers
import Balance.Lb.Successor
import Mathlib.Algebra.Order.BigOperators.Group.List
import Mathlib.Algebra.Order.Field.Rat
import Mathlib.Tactic.FieldSimp
import Mathlib.Tactic.Positivity

/-! Consistent hashing that passes over backends above a bound on their load. -/

namespace Balance

open scoped Go

/-- The load that no backend should be above: so many times the average of those in rotation. -/
def loadBound (heap : BackendHeap) (backends : List Nat) (loadFactor : Rat) : Rat :=
  ((backends.map fun b => (heap b).activeConnections).sum : Rat) / (backends.length : Rat) *
    loadFactor

/-- A backend with the least connections of all has no more than they have on average. -/
theorem least_le_average {heap : BackendHeap} {backends : List Nat} {b : Nat}
    (listed : backends ≠ [])
    (least : ∀ c ∈ backends, (heap b).activeConnections ≤ (heap c).activeConnections) :
    ((heap b).activeConnections : Rat) ≤
      ((backends.map fun c => (heap c).activeConnections).sum : Rat) / backends.length := by
  -- As many times the least count as there are backends is no more than all counts together.
  have total : (backends.length : Int) * (heap b).activeConnections ≤
      (backends.map fun c => (heap c).activeConnections).sum := by
    have each := List.card_nsmul_le_sum (backends.map fun c => (heap c).activeConnections)
      (heap b).activeConnections (by simpa using least)
    simpa using each
  have positive : (0 : Rat) < backends.length := by
    exact_mod_cast List.length_pos_iff.mpr listed
  rw [le_div_iff₀ positive, mul_comm]
  exact_mod_cast total

namespace ConsistentHash

variable {count : Int → Int → Nat} {hash : List UInt8 → UInt32} {ch : ConsistentHash}
  {heap : BackendHeap} {pool : Pool}

/-- The part of a bounded selection that follows once the ring is up to date. -/
def pickBounded (hash : List UInt8 → UInt32) (ch : ConsistentHash) (loadFactor : Rat)
    (heap : BackendHeap) (backends : List Nat) (key : List UInt8) : Option Nat :=
  if ch.ring.length = 0 ∨ backends.length = 0 then none
  else
    let idx := Go.search (fun i => ch.ring.getD i 0 ≥ hash key) ch.ring.length
    let selected := ch.walkBounded heap (loadBound heap backends loadFactor) backends.length idx
    selected.or (leastBy (-1) (fun b => (heap b).activeConnections) backends)

/-- Like `selectWithKeyBounded`, with the number of virtual nodes computed in a given way. -/
def selectWithKeyBoundedBy (count : Int → Int → Nat) (hash : List UInt8 → UInt32)
    (ch : ConsistentHash) (loadFactor : Rat) (heap : BackendHeap) (pool : Pool) (key : List UInt8) :
    ConsistentHash × Option Nat :=
  let ch := ch.rebuildRingBy count hash heap pool
  (ch, ch.pickBounded hash loadFactor heap (pool.healthy heap) key)

/-- With nodes counted as the code does, this is the selection of the code. -/
theorem selectWithKeyBounded_eq (loadFactor : Rat) (key : List UInt8) :
    ch.selectWithKeyBounded hash loadFactor heap pool key =
      ch.selectWithKeyBoundedBy numVirtualNodes hash loadFactor heap pool key := by
  have same : ch.rebuildRing hash heap pool = ch.rebuildRingBy numVirtualNodes hash heap pool := rfl
  simp only [selectWithKeyBounded, same, selectWithKeyBoundedBy, pickBounded]
  split <;> rfl

/-- The owner of a point, if its load is within a bound. -/
def ownerWithin (ch : ConsistentHash) (heap : BackendHeap) (bound : Rat) (point : UInt32) :
    Option Nat :=
  (ch.ringMap point).filter fun b => ((heap b).activeConnections : Rat) ≤ bound

/-- A round of the walk takes the owner of one point, or else goes on with the next. -/
theorem walkBounded_succ (bound : Rat) (rounds idx : Nat) :
    ch.walkBounded heap bound (rounds + 1) idx =
      (ch.ownerWithin heap bound (ch.ring.getD (if idx ≥ ch.ring.length then 0 else idx) 0)).or
        (ch.walkBounded heap bound rounds
          ((if idx ≥ ch.ring.length then 0 else idx) + 1)) := by
  -- A point without an owner, and one whose owner is above the bound, are passed over alike.
  simp only [walkBounded, ownerWithin]
  cases ch.ringMap (ch.ring.getD (if idx ≥ ch.ring.length then 0 else idx) 0) with
  | none => rfl
  | some b =>
    rw [Option.filter_some]
    by_cases within : ((heap b).activeConnections : Rat) ≤ bound <;> simp [within]

/-- The walk along the ring looks at as many of its points as there are rounds. -/
theorem walkBounded_eq {bound : Rat} (occupied : ch.ring ≠ []) {idx : Nat}
    (within : idx ≤ ch.ring.length) (rounds : Nat) :
    ch.walkBounded heap bound rounds idx =
      ((ch.ring.rotate idx).take rounds).findSome? (ch.ownerWithin heap bound) := by
  -- A point that is passed over may as well come last, where the walk starts over.
  induction rounds generalizing idx with
  | zero => simp [walkBounded]
  | succ rounds ih =>
    obtain ⟨inside, same⟩ := Go.rotate_wrap occupied within
    rw [walkBounded_succ, same]
    generalize (if idx ≥ ch.ring.length then 0 else idx) = start at inside
    obtain ⟨rest, here, next⟩ := Go.rotate_eq_cons inside 0
    rw [ih (by omega), here, next, List.take_succ_cons, List.findSome?_cons]
    cases owner : ch.ownerWithin heap bound (ch.ring.getD start 0) with
    | some b => rfl
    | none => exact Go.findSome?_take_concat owner rest rounds

/-- Whoever the walk finds is within the bound. -/
theorem walkBounded_within {bound : Rat} {rounds idx b : Nat}
    (found : ch.walkBounded heap bound rounds idx = some b) :
    ((heap b).activeConnections : Rat) ≤ bound := by
  -- Every round makes the same comparison.
  induction rounds generalizing idx with
  | zero => cases found
  | succ rounds ih =>
    rw [walkBounded_succ] at found
    rcases Option.or_eq_some_iff.mp found with here | ⟨_, later⟩
    · simpa using (Option.filter_eq_some_iff.mp here).2
    · exact ih later

/-- A bounded selection is within the bound, or a least one of those in rotation. -/
theorem pickBounded_spec {backends : List Nat} (occupied : ch.ring ≠ []) (listed : backends ≠ [])
    (nonneg : ∀ b ∈ backends, 0 ≤ (heap b).activeConnections) (hash : List UInt8 → UInt32)
    (loadFactor : Rat) (key : List UInt8) :
    ∃ b, ch.pickBounded hash loadFactor heap backends key = some b ∧
      (((heap b).activeConnections : Rat) ≤ loadBound heap backends loadFactor ∨
        b ∈ backends ∧
          ∀ c ∈ backends, (heap b).activeConnections ≤ (heap c).activeConnections) := by
  -- The walk finds someone within the bound, or the fallback takes a least one.
  have some_points : ¬(ch.ring.length = 0 ∨ backends.length = 0) := by simp [occupied, listed]
  simp only [pickBounded, if_neg some_points]
  cases walked : ch.walkBounded heap (loadBound heap backends loadFactor) backends.length
      (Go.search (fun i => ch.ring.getD i 0 ≥ hash key) ch.ring.length) with
  | some b => exact ⟨b, rfl, .inl (walkBounded_within walked)⟩
  | none =>
    have counted : ∀ b ∈ backends, (heap b).activeConnections ≠ -1 := by
      intro b member
      have known := nonneg b member
      omega
    obtain ⟨b, member, found, least⟩ := leastBy_spec counted listed
    exact ⟨b, found, .inr ⟨member, least⟩⟩

/-- Bringing a ring up to date leaves it with points, if there are backends in rotation. -/
theorem rebuildRingBy_occupied (nodes : 0 < ch.virtualNodes) (listed : pool.healthy heap ≠ []) :
    (ch.rebuildRingBy unboundedVirtualNodes hash heap pool).ring ≠ [] := by
  by_cases kept : (pool.healthy heap).length = ch.lastKnownSize ∧ ch.ring.length > 0
  · rw [rebuildRingBy, if_pos kept]
    exact List.length_pos_iff.mp kept.2
  · apply (rebuildRingBy_filledBy kept).ring_ne_nil _ listed
    rwa [rebuildRingBy_virtualNodes]

/--
A bounded selection returns a backend within the bound on the load, or a least loaded backend in
rotation if all of them are above it, which they cannot be if the load factor is at least one.
-/
theorem bounded_selection (hash : List UInt8 → UInt32) (ch : ConsistentHash)
    (nodes : 0 < ch.virtualNodes) (heap : BackendHeap) (pool : Pool)
    (listed : pool.healthy heap ≠ [])
    (nonneg : ∀ b ∈ pool.healthy heap, 0 ≤ (heap b).activeConnections) (loadFactor : Rat)
    (key : List UInt8) :
    ∃ b, (ch.selectWithKeyBoundedBy unboundedVirtualNodes hash loadFactor heap pool key).2 =
        some b ∧
      (((heap b).activeConnections : Rat) ≤ loadBound heap (pool.healthy heap) loadFactor ∨
        (∀ c ∈ pool.healthy heap,
          loadBound heap (pool.healthy heap) loadFactor < (heap c).activeConnections) ∧
        b ∈ pool.healthy heap ∧
        ∀ c ∈ pool.healthy heap, (heap b).activeConnections ≤ (heap c).activeConnections) ∧
      (1 ≤ loadFactor →
        ((heap b).activeConnections : Rat) ≤ loadBound heap (pool.healthy heap) loadFactor) := by
  -- Only the fallback can return a backend above the bound.
  have occupied : (ch.rebuildRingBy unboundedVirtualNodes hash heap pool).ring ≠ [] :=
    rebuildRingBy_occupied nodes listed
  obtain ⟨b, found, within | ⟨member, least⟩⟩ :=
    pickBounded_spec occupied listed nonneg hash loadFactor key
  · exact ⟨b, found, .inl within, fun _ => within⟩
  · refine ⟨b, found, ?_, ?_⟩
    · -- If anyone is within the bound, the least loaded backend is.
      by_cases full : ∀ c ∈ pool.healthy heap,
          loadBound heap (pool.healthy heap) loadFactor < (heap c).activeConnections
      · exact .inr ⟨full, member, least⟩
      · left
        push Not at full
        obtain ⟨c, listed, within⟩ := full
        exact le_trans (by exact_mod_cast least c listed) within
    · intro factor
      have average := least_le_average listed least
      have own : (0 : Rat) ≤ (heap b).activeConnections := by exact_mod_cast nonneg b member
      exact le_trans average (le_mul_of_one_le_right (le_trans own average) factor)

/-- Three backends with ten, one and no connections: a key is answered within the bound. -/
theorem bounded_selection_three :
    let heap : BackendHeap := fun b =>
      { newBackend "" (["a:80", "c:80", "b:80"].getD b "") 1 with
        activeConnections := [10, 1, 0].getD b 0 }
    let ch := newConsistentHash fnv1a heap [0, 1, 2] 3 ""
    ∃ b, (ch.selectWithKeyBoundedBy unboundedVirtualNodes fnv1a (5 / 4) heap [0, 1, 2]
        (bytesOf "a")).2 = some b ∧
      ((heap b).activeConnections : Rat) ≤
        loadBound heap (Pool.healthy heap [0, 1, 2]) (5 / 4) := by
  intro heap ch
  obtain ⟨b, selected, _, within⟩ := bounded_selection fnv1a ch (by decide) heap [0, 1, 2]
    (by decide) (by decide) (5 / 4) (bytesOf "a")
  exact ⟨b, selected, within (by norm_num)⟩

/-- As long as no product overflows, a bounded selection is the one of unbounded numbers. -/
theorem selectWithKeyBounded_of_fits (nodes : 0 ≤ ch.virtualNodes)
    (fits : ∀ b ∈ pool.healthy heap, ch.virtualNodes * max (heap b).weight 1 < 2 ^ 63)
    (loadFactor : Rat) (key : List UInt8) :
    ch.selectWithKeyBounded hash loadFactor heap pool key =
      ch.selectWithKeyBoundedBy unboundedVirtualNodes hash loadFactor heap pool key := by
  have same : ch.rebuildRingBy numVirtualNodes hash heap pool =
      ch.rebuildRingBy unboundedVirtualNodes hash heap pool :=
    rebuildRingBy_congr fun b member => numVirtualNodes_of_fits nodes (fits b member)
  rw [selectWithKeyBounded_eq, selectWithKeyBoundedBy, selectWithKeyBoundedBy, same]

/-- The first backend within a bound on the way around the whole ring from a key. -/
def firstWithin (hash : List UInt8 → UInt32) (ch : ConsistentHash) (heap : BackendHeap) (bound : Rat)
    (key : List UInt8) : Option Nat :=
  (Go.clockwise (hash key) ch.ring).findSome? (ch.ownerWithin heap bound)

/-- Within as many points of the way around as there are backends, one belongs to a backend
within the bound. -/
def FoundEarly (hash : List UInt8 → UInt32) (ch : ConsistentHash) (heap : BackendHeap)
    (backends : List Nat) (bound : Rat) (key : List UInt8) : Prop :=
  ∃ point ∈ (Go.clockwise (hash key) ch.ring).take backends.length,
    ∃ b, ch.ringMap point = some b ∧ ((heap b).activeConnections : Rat) ≤ bound

/-- A backend is found early if a search of those points finds one. -/
theorem foundEarly_iff {backends : List Nat} {bound : Rat} {key : List UInt8} :
    FoundEarly hash ch heap backends bound key ↔
      (((Go.clockwise (hash key) ch.ring).take backends.length).findSome?
        (ch.ownerWithin heap bound)).isSome := by
  simp only [FoundEarly, List.findSome?_isSome_iff, ownerWithin, Option.isSome_filter,
    Option.any_eq_true, decide_eq_true_eq]

/-- What a bounded selection returns, in terms of the way around the ring. -/
theorem pickBounded_eq {backends : List Nat} (sorted : ch.ring.Pairwise (· ≤ ·))
    (occupied : ch.ring ≠ []) (listed : backends ≠ []) (loadFactor : Rat) (key : List UInt8) :
    ch.pickBounded hash loadFactor heap backends key =
      (((Go.clockwise (hash key) ch.ring).take backends.length).findSome?
        (ch.ownerWithin heap (loadBound heap backends loadFactor))).or
        (leastBy (-1) (fun b => (heap b).activeConnections) backends) := by
  -- The walk goes around the ring from where the search ends.
  have some_points : ¬(ch.ring.length = 0 ∨ backends.length = 0) := by simp [occupied, listed]
  have within : Go.search (fun i => decide (ch.ring.getD i 0 ≥ hash key)) ch.ring.length ≤
      ch.ring.length := (Go.search_spec _ _).1
  simp only [pickBounded, if_neg some_points]
  rw [walkBounded_eq occupied within, Go.rotate_search sorted]

/-- Up to where a first backend within the bound is found, the whole way around is the same. -/
theorem firstWithin_of_early {backends : List Nat} {bound : Rat} {key : List UInt8} {b : Nat}
    (found : ((Go.clockwise (hash key) ch.ring).take backends.length).findSome?
      (ch.ownerWithin heap bound) = some b) : ch.firstWithin hash heap bound key = some b := by
  rw [firstWithin, ← List.take_append_drop backends.length (Go.clockwise (hash key) ch.ring),
    List.findSome?_append, found, Option.some_or]

/-- A ring that is in sync with the backends in rotation is left as it is. -/
theorem BuiltFrom.rebuildRing_eq (sync : BuiltFrom hash heap ch (pool.healthy heap)) :
    ch.rebuildRing hash heap pool = ch := by
  simp only [ConsistentHash.rebuildRing, rebuildRingBy]
  split
  · rfl
  · rw [foldl_addNodesBy_eq, ← nodes_eq_ringNodes]
    simp only [List.nil_append, ← sync.ring, ← sync.ringMap, ← sync.lastKnownSize]

/-- A bounded selection returns the first backend within the bound on the way around the ring. -/
def FollowsRing (hash : List UInt8 → UInt32) (ch : ConsistentHash) (loadFactor : Rat)
    (heap : BackendHeap) (pool : Pool) (key : List UInt8) : Prop :=
  ∃ b, ch.firstWithin hash heap (loadBound heap (pool.healthy heap) loadFactor) key = some b ∧
    (ch.selectWithKeyBounded hash loadFactor heap pool key).2 = some b

section InSync

variable (sync : BuiltFrom hash heap ch (pool.healthy heap)) (loadFactor : Rat) (key : List UInt8)

include sync

/-- The slice of a ring in sync is sorted. -/
theorem BuiltFrom.ring_sorted : ch.ring.Pairwise (· ≤ ·) := by
  rw [sync.ring]
  exact List.pairwise_insertionSort _ _

/-- Selecting by a ring in sync takes the ring as it is. -/
theorem BuiltFrom.selectWithKeyBounded_snd :
    (ch.selectWithKeyBounded hash loadFactor heap pool key).2 =
      ch.pickBounded hash loadFactor heap (pool.healthy heap) key := by
  rw [selectWithKeyBounded_eq]
  show (ch.rebuildRing hash heap pool).pickBounded hash loadFactor heap _ key = _
  rw [sync.rebuildRing_eq]

/-- A bounded selection goes by the ring if the walk is long enough, or the fallback agrees. -/
theorem BuiltFrom.followsRing_iff (occupied : ch.ring ≠ []) (listed : pool.healthy heap ≠ []) :
    FollowsRing hash ch loadFactor heap pool key ↔
      ∃ b, ch.firstWithin hash heap (loadBound heap (pool.healthy heap) loadFactor) key =
          some b ∧
        (FoundEarly hash ch heap (pool.healthy heap)
            (loadBound heap (pool.healthy heap) loadFactor) key ∨
          leastConnectionsSelect heap pool = some b) := by
  rw [FollowsRing, sync.selectWithKeyBounded_snd, foundEarly_iff,
    pickBounded_eq sync.ring_sorted occupied listed]
  cases early : ((Go.clockwise (hash key) ch.ring).take (pool.healthy heap).length).findSome?
      (ch.ownerWithin heap (loadBound heap (pool.healthy heap) loadFactor)) with
  | some b =>
    -- The walk and the whole way around come to the same backend first.
    have first := firstWithin_of_early early
    exact iff_of_true ⟨b, first, rfl⟩ ⟨b, first, .inl rfl⟩
  | none =>
    -- The walk has come to nobody, and the least loaded backend is returned.
    simp only [Option.none_or, Option.isSome_none, Bool.false_eq_true, false_or,
      leastConnectionsSelect]

/-- A key whose own backend is within the bound stays with it. -/
theorem BuiltFrom.selectWithKeyBounded_of_within {b : Nat}
    (own : (ch.selectWithKey hash heap pool key).2 = some b)
    (within : (heap b).activeConnections ≤ loadBound heap (pool.healthy heap) loadFactor) :
    (ch.selectWithKeyBounded hash loadFactor heap pool key).2 = some b := by
  have found : ch.lookup hash key = some b := by
    simpa only [selectWithKey_eq, sync.rebuildRing_eq] using own
  have listed : pool.healthy heap ≠ [] := List.ne_nil_of_mem (sync.lookup_mem found)
  have occupied : ch.ring ≠ [] := by
    intro empty
    simp [lookup, empty] at found
  -- The way around begins at the point where a lookup ends.
  obtain ⟨rest, around⟩ := Go.clockwise_search sync.ring_sorted occupied (hash key) 0
  rw [lookup, if_neg (by simpa using occupied)] at found
  obtain ⟨first, others, shape⟩ := List.exists_cons_of_ne_nil listed
  rw [sync.selectWithKeyBounded_snd, pickBounded_eq sync.ring_sorted occupied listed, around,
    shape, List.length_cons, List.take_succ_cons, List.findSome?_cons, ← shape]
  have owner : ch.ownerWithin heap (loadBound heap (pool.healthy heap) loadFactor)
      (ch.ring.getD _ 0) = some b := Option.filter_eq_some_iff.mpr ⟨found, by simpa using within⟩
  rw [owner, Option.some_or]

end InSync

/--
A bounded selection goes by the ring exactly if the walk, which looks at no more points than there
are backends, comes to a backend within the bound, or else the least loaded backend is the one.

A key whose own backend is within the bound stays with it.
-/
theorem bounded_affinity_iff (sync : BuiltFrom hash heap ch (pool.healthy heap))
    (loadFactor : Rat) (key : List UInt8) :
    (((∃ b ∈ pool.healthy heap,
          (heap b).activeConnections ≤ loadBound heap (pool.healthy heap) loadFactor) →
        FollowsRing hash ch loadFactor heap pool key) ↔
      ((∃ b ∈ pool.healthy heap,
          (heap b).activeConnections ≤ loadBound heap (pool.healthy heap) loadFactor) →
        ∃ b, ch.firstWithin hash heap (loadBound heap (pool.healthy heap) loadFactor) key =
            some b ∧
          (FoundEarly hash ch heap (pool.healthy heap)
              (loadBound heap (pool.healthy heap) loadFactor) key ∨
            leastConnectionsSelect heap pool = some b))) ∧
    ∀ b, (ch.selectWithKey hash heap pool key).2 = some b →
      (heap b).activeConnections ≤ loadBound heap (pool.healthy heap) loadFactor →
      (ch.selectWithKeyBounded hash loadFactor heap pool key).2 = some b := by
  -- The condition is about the ring before the call, which a rebuild leaves as it is.
  refine ⟨?_, fun b => sync.selectWithKeyBounded_of_within loadFactor key⟩
  by_cases occupied : ch.ring = []
  · -- Nobody is found on a ring without points, neither by the walk nor on the way around.
    have nobody : ch.firstWithin hash heap (loadBound heap (pool.healthy heap) loadFactor) key =
        none := by
      simp [firstWithin, Go.clockwise, occupied]
    simp only [FollowsRing, nobody, reduceCtorEq, false_and, exists_false]
  · apply imp_congr_right
    rintro ⟨b, member, _⟩
    exact sync.followsRing_iff loadFactor key occupied (List.ne_nil_of_mem member)

/-- An overloaded key goes to its ring successor where that is the next point already. -/
theorem bounded_affinity_two :
    let heap : BackendHeap := fun b =>
      { newBackend "" (["a:80", "c:80"].getD b "") 1 with
        activeConnections := [10, 1].getD b 0 }
    let ch := newConsistentHash fnv1a heap [0, 1] 1 ""
    FollowsRing fnv1a ch (5 / 4) heap [0, 1] (bytesOf "a") := by
  intro heap ch
  have sync : BuiltFrom fnv1a heap ch (Pool.healthy heap [0, 1]) :=
    newConsistentHash_builtFrom fnv1a heap [0, 1] 1 ""
  refine (bounded_affinity_iff sync (5 / 4) (bytesOf "a")).1.mpr ?_
    ⟨1, by decide, by decide +kernel⟩
  intro _
  exact ⟨1, by decide +kernel, .inr (by decide +kernel)⟩

/--
With three virtual nodes each, the nodes of an overloaded backend take up the whole walk.

The next backend clockwise is within the bound, but the least loaded backend is returned.
-/
theorem overload_skips_ring_successor :
    let heap : BackendHeap := fun b =>
      { newBackend "" (["a:80", "c:80", "b:80"].getD b "") 1 with
        activeConnections := [10, 1, 0].getD b 0 }
    let ch := newConsistentHash fnv1a heap [0, 1, 2] 3 ""
    BuiltFrom fnv1a heap ch (Pool.healthy heap [0, 1, 2]) ∧
      (∃ b ∈ Pool.healthy heap [0, 1, 2],
        (heap b).activeConnections ≤ loadBound heap (Pool.healthy heap [0, 1, 2]) (5 / 4)) ∧
      ch.firstWithin fnv1a heap (loadBound heap (Pool.healthy heap [0, 1, 2]) (5 / 4))
        (bytesOf "a") = some 1 ∧
      (ch.selectWithKeyBounded fnv1a (5 / 4) heap [0, 1, 2] (bytesOf "a")).2 = some 2 := by
  intro heap ch
  exact ⟨newConsistentHash_builtFrom fnv1a heap [0, 1, 2] 3 "", ⟨1, by decide, by decide +kernel⟩,
    by decide +kernel, by decide +kernel⟩

end ConsistentHash

end Balance
