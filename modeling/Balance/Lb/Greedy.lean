import Balance.Lb.Balancers
import Balance.Machine.Run
import Mathlib.Algebra.Order.Field.Rat
import Mathlib.Tactic.Linarith

/-! How even the balancers by least connections keep the counts of their backends. -/

namespace Balance

open Machine

section Shares

variable {ι : Type*} {weight count : ι → Int} {parties : List ι}

/-- No party is more than one ahead of its share, as another party has it. -/
def EvenlyShared (weight count : ι → Int) (parties : List ι) : Prop :=
  ∀ i ∈ parties, ∀ j ∈ parties, (count i - 1) * weight j ≤ count j * weight i

/-- Counting one up where the ratio of count to weight is least keeps the counts even. -/
theorem EvenlyShared.update [DecidableEq ι] (even : EvenlyShared weight count parties)
    (weighted : ∀ i ∈ parties, 0 ≤ weight i) {b : ι}
    (least : ∀ j ∈ parties, count b * weight j ≤ count j * weight b) :
    EvenlyShared weight (Function.update count b (count b + 1)) parties := by
  intro i listed j other
  have own := weighted i listed
  have before := even i listed j other
  -- The chosen party had the least ratio, and against it the others only fall behind.
  by_cases first : i = b <;> by_cases second : j = b
  · subst first second
    simp only [Function.update_self]
    linarith
  · subst first
    simp only [Function.update_self, Function.update_of_ne second]
    linarith [least j other]
  · subst second
    simp only [Function.update_self, Function.update_of_ne first]
    linarith
  · simpa only [Function.update_of_ne first, Function.update_of_ne second] using before

end Shares

/-- The connection counts of the backends. -/
def connectionCounts (heap : BackendHeap) (b : Nat) : Int := (heap b).activeConnections

/-- One round: select a backend and count one more connection on it. -/
def fillRound (select : BackendHeap → Option Nat) (heap : BackendHeap) (_ : Unit) :
    Option BackendHeap :=
  (select heap).map heap.incrementConnections

/-- A new connection is counted at its own backend. -/
theorem connectionCounts_increment (heap : BackendHeap) (b : Nat) :
    connectionCounts (heap.incrementConnections b) =
      Function.update (connectionCounts heap) b (connectionCounts heap b + 1) := by
  -- The update is visible at its own pointer only.
  funext other
  unfold connectionCounts BackendHeap.incrementConnections BackendHeap.addConnections
  by_cases same : other = b
  · subst same
    simp
  · simp [same]

/-- A new connection changes no weight. -/
theorem incrementConnections_weight (heap : BackendHeap) (b other : Nat) :
    (heap.incrementConnections b other).weight = (heap other).weight := by
  unfold BackendHeap.incrementConnections BackendHeap.addConnections
  by_cases same : other = b
  · subst same
    simp
  · simp [same]

/-- A new connection takes no backend out of rotation, and puts none into it. -/
theorem healthy_incrementConnections (heap : BackendHeap) (pool : Pool) (b : Nat) :
    pool.healthy (heap.incrementConnections b) = pool.healthy heap := by
  simp [Pool.healthy, BackendHeap.incrementConnections]

/-- A selection by least connections, each backend weighted by a share of its own. -/
def SelectsLeast (select : BackendHeap → Option Nat) (pool : Pool) (share : Int → Int) : Prop :=
  ∀ heap, pool.healthy heap ≠ [] → (∀ b ∈ pool.healthy heap, 0 ≤ connectionCounts heap b) →
    ∃ b ∈ pool.healthy heap, select heap = some b ∧ ∀ other ∈ pool.healthy heap,
      connectionCounts heap b * share (heap other).weight ≤
        connectionCounts heap other * share (heap b).weight

/-- The heap after some rounds: only counts have changed, and they are even. -/
structure Filled (heap : BackendHeap) (pool : Pool) (share : Int → Int) (filled : BackendHeap) :
    Prop where
  rotation : pool.healthy filled = pool.healthy heap
  weight : ∀ b, (filled b).weight = (heap b).weight
  nonneg : ∀ b ∈ pool.healthy heap, 0 ≤ connectionCounts filled b
  even : EvenlyShared (fun b => share (heap b).weight) (connectionCounts filled) (pool.healthy heap)

section Rounds

variable {heap filled : BackendHeap} {pool : Pool} {share : Int → Int}
  {select : BackendHeap → Option Nat}

/-- One more round can be played, and keeps the counts even. -/
theorem Filled.fillRound (kept : Filled heap pool share filled)
    (positive : ∀ weight, 0 ≤ share weight) (least : SelectsLeast select pool share)
    (listed : pool.healthy heap ≠ []) :
    ∃ next, fillRound select filled () = some next ∧ Filled heap pool share next := by
  -- The selected backend has the least ratio among those in rotation from the start.
  obtain ⟨rotation, weight, nonneg, even⟩ := kept
  obtain ⟨b, member, selected, lowest⟩ :=
    least filled (by rwa [rotation]) (by rwa [rotation])
  simp only [rotation, weight] at member lowest
  refine ⟨filled.incrementConnections b, by simp [Balance.fillRound, selected], ?_⟩
  constructor
  · rw [healthy_incrementConnections, rotation]
  · intro other
    rw [incrementConnections_weight, weight]
  · intro other listed
    have before := nonneg other listed
    rw [connectionCounts_increment, Function.update_apply]
    split
    · have own := nonneg b member
      omega
    · exact before
  · rw [connectionCounts_increment]
    exact even.update (fun i _ => positive _) lowest

/-- Any number of rounds can be played from backends without connections, and is even. -/
theorem exists_filled (positive : ∀ weight, 0 ≤ share weight)
    (least : SelectsLeast select pool share) (listed : pool.healthy heap ≠ [])
    (idle : ∀ b ∈ pool.healthy heap, (heap b).activeConnections = 0) (rounds : Nat) :
    ∃ filled, exec (Balance.fillRound select) heap (List.replicate rounds ()) = some filled ∧
      Filled heap pool share filled := by
  -- Each round can be played, and keeps the counts even.
  have start : Filled heap pool share heap := by
    constructor
    · rfl
    · intro b
      rfl
    · intro b member
      exact (idle b member).ge
    · -- Backends without connections are behind every share.
      intro i first j second
      have weighted := positive (heap j).weight
      simp only [connectionCounts, idle i first, idle j second]
      linarith
  exact exec_total (Filled heap pool share)
    (fun _ _ kept => kept.fillRound positive least listed) start _

end Rounds

/-- Least connections compares the counts as they are. -/
theorem leastConnectionsSelect_least (pool : Pool) :
    SelectsLeast (leastConnectionsSelect · pool) pool fun _ => 1 := by
  intro heap listed nonneg
  obtain ⟨b, member, found, least⟩ := leastBy_spec
    (fun b member => (lt_of_lt_of_le (by decide) (nonneg b member) : (-1 : Int) < _).ne') listed
  exact ⟨b, member, found, fun other listed => by simpa using least other listed⟩

/-- The connections of a backend by its weight, which counts as one if it is less. -/
def connectionRatio (heap : BackendHeap) (b : Nat) : Rat :=
  connectionCounts heap b / (max (heap b).weight 1 : Int)

/-- Several backends are compared by their ratios. -/
theorem weightedLeastConnectionsSelect_eq {heap : BackendHeap} {pool : Pool}
    (several : ¬(pool.healthy heap).length ≤ 1) :
    weightedLeastConnectionsSelect heap pool =
      leastBy (-1) (connectionRatio heap) (pool.healthy heap) := by
  have normal (weight : Int) : (if weight ≤ 0 then 1 else weight) = max weight 1 := by omega
  simp only [weightedLeastConnectionsSelect, if_neg several, normal]
  rfl

/-- Ratios compare like the counts, each multiplied with the weight of the other. -/
theorem connectionRatio_le_iff (heap : BackendHeap) (b other : Nat) :
    connectionRatio heap b ≤ connectionRatio heap other ↔
      connectionCounts heap b * max (heap other).weight 1 ≤
        connectionCounts heap other * max (heap b).weight 1 := by
  have positive (weight : Int) : (0 : Rat) < (max weight 1 : Int) := by
    exact_mod_cast lt_of_lt_of_le Int.zero_lt_one (le_max_right weight 1)
  rw [connectionRatio, connectionRatio, div_le_div_iff₀ (positive _) (positive _)]
  exact_mod_cast Iff.rfl

/-- Weighted least connections compares the counts by weight. -/
theorem weightedLeastConnectionsSelect_least (pool : Pool) :
    SelectsLeast (weightedLeastConnectionsSelect · pool) pool fun weight => max weight 1 := by
  -- More than one backend are compared by their ratios, none of which is the mark for none.
  intro heap listed nonneg
  by_cases alone : (pool.healthy heap).length ≤ 1
  · -- A lone backend is compared with itself.
    obtain ⟨b, single⟩ := List.length_eq_one_iff.mp
      (Nat.le_antisymm alone (List.length_pos_iff.mpr listed))
    refine ⟨b, by simp [single], by simp [weightedLeastConnectionsSelect, single], ?_⟩
    intro other listed
    obtain rfl : other = b := by simpa [single] using listed
    exact le_refl _
  · have measured : ∀ b ∈ pool.healthy heap, connectionRatio heap b ≠ -1 := by
      intro b member
      have ratio : 0 ≤ connectionRatio heap b := by
        apply div_nonneg
        · exact_mod_cast nonneg b member
        · exact_mod_cast le_trans Int.one_nonneg (le_max_right _ _)
      linarith
    obtain ⟨b, member, found, least⟩ := leastBy_spec measured listed
    refine ⟨b, member, (weightedLeastConnectionsSelect_eq alone).trans found, ?_⟩
    intro other listed
    exact (connectionRatio_le_iff heap b other).mp (least other listed)

/--
Rounds of selecting a backend and connecting to it keep the counts even, by weight or as they are.

Without weights no two counts are then more than one apart.
-/
theorem greedy_rounds_even (heap : BackendHeap) (pool : Pool)
    (idle : ∀ b ∈ pool.healthy heap, (heap b).activeConnections = 0) (rounds : Nat) :
    (∀ i ∈ pool.healthy heap, ∀ j ∈ pool.healthy heap, ∃ filled,
      exec (fillRound (weightedLeastConnectionsSelect · pool)) heap (List.replicate rounds ()) =
          some filled ∧
        (1 ≤ (filled i).activeConnections →
          ((filled i).activeConnections - 1) * max (heap j).weight 1 ≤
            (filled j).activeConnections * max (heap i).weight 1)) ∧
    ∀ i ∈ pool.healthy heap, ∀ j ∈ pool.healthy heap, ∃ filled,
      exec (fillRound (leastConnectionsSelect · pool)) heap (List.replicate rounds ()) =
          some filled ∧
        (1 ≤ (filled i).activeConnections →
          ((filled i).activeConnections - 1) * 1 ≤ (filled j).activeConnections * 1) ∧
        (filled i).activeConnections ≤ (filled j).activeConnections + 1 := by
  -- Both balancers select a least backend, each by its own share.
  constructor
  · intro i first j second
    obtain ⟨filled, ran, kept⟩ := exists_filled
      (fun weight => le_trans Int.one_nonneg (le_max_right weight 1))
      (weightedLeastConnectionsSelect_least pool) (List.ne_nil_of_mem first) idle rounds
    exact ⟨filled, ran, fun _ => kept.even i first j second⟩
  · intro i first j second
    obtain ⟨filled, ran, kept⟩ := exists_filled (fun _ => Int.one_nonneg)
      (leastConnectionsSelect_least pool) (List.ne_nil_of_mem first) idle rounds
    have even : ((filled i).activeConnections - 1) * 1 ≤ (filled j).activeConnections * 1 :=
      kept.even i first j second
    exact ⟨filled, ran, fun _ => even, by omega⟩

/-- Two new backends of weights two and one share five connections evenly. -/
theorem greedy_rounds_even_five :
    ∃ filled, exec (fillRound (weightedLeastConnectionsSelect · [0, 1]))
        (fun b => newBackend "" "" ([2, 1].getD b 0)) (List.replicate 5 ()) = some filled ∧
      (1 ≤ (filled 0).activeConnections →
        ((filled 0).activeConnections - 1) * max 1 1 ≤ (filled 1).activeConnections * max 2 1) :=
  (greedy_rounds_even (fun b => newBackend "" "" ([2, 1].getD b 0)) [0, 1]
    (fun _ _ => rfl) 5).1 0 (by decide) 1 (by decide)

end Balance
