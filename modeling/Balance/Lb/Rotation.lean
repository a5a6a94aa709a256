import Balance.Lb.Balancers
import Balance.Machine.Turns
import Mathlib.Algebra.Order.BigOperators.Group.List

/-! How often the rotating balancers come to each backend. -/

namespace Balance

open Machine

/-- Each backend as often as its weight says, one after the other. -/
def shares (heap : BackendHeap) (backends : List Nat) : List Nat :=
  backends.flatMap fun b => List.replicate (heap b).weight.toNat b

/-- The weights of backends, added up. -/
def weightSum (heap : BackendHeap) (backends : List Nat) : Int :=
  (backends.map fun b => (heap b).weight).sum

section Weights

variable {heap : BackendHeap} {backends : List Nat}

/-- A backend adds its own weight. -/
theorem weightSum_cons (b : Nat) :
    weightSum heap (b :: backends) = (heap b).weight + weightSum heap backends :=
  List.sum_cons

/-- Weights that are not negative add up to nothing negative. -/
theorem weightSum_nonneg (nonneg : ∀ b ∈ backends, 0 ≤ (heap b).weight) :
    0 ≤ weightSum heap backends := by
  apply List.sum_nonneg
  intro weight member
  obtain ⟨b, listed, rfl⟩ := List.mem_map.mp member
  exact nonneg b listed

/-- There are as many shares as the weights add up to. -/
theorem length_shares (nonneg : ∀ b ∈ backends, 0 ≤ (heap b).weight) :
    ((shares heap backends).length : Int) = weightSum heap backends := by
  -- Each backend adds its own weight, which loses nothing as a natural number.
  induction backends with
  | nil => rfl
  | cons b rest ih =>
    obtain ⟨here, there⟩ := List.forall_mem_cons.mp nonneg
    have later := ih there
    unfold shares weightSum at later ⊢
    simp only [List.flatMap_cons, List.length_append, List.length_replicate, List.map_cons,
      List.sum_cons]
    omega

/-- The loop over the weights adds them up, as long as the sum fits. -/
theorem foldl_weights {total : Int} (nonneg : ∀ b ∈ backends, 0 ≤ (heap b).weight)
    (start : 0 ≤ total) (fits : total + weightSum heap backends < 2 ^ 63) :
    backends.foldl (fun total b => Go.wrap64 (total + (heap b).weight)) total =
      total + weightSum heap backends := by
  -- No partial sum is larger than the whole.
  induction backends generalizing total with
  | nil => simp [weightSum]
  | cons b rest ih =>
    obtain ⟨here, there⟩ := List.forall_mem_cons.mp nonneg
    have later := weightSum_nonneg there
    rw [weightSum_cons] at fits ⊢
    rw [List.foldl_cons, Go.wrap64_of_fits (by omega) (by omega), ih there (by omega) (by omega)]
    omega

/-- The walk along the weights finds the backend whose share an offset is. -/
theorem weightedAt_eq_shares {offset currentOffset : Int}
    (nonneg : ∀ b ∈ backends, 0 ≤ (heap b).weight) (start : 0 ≤ currentOffset)
    (ahead : currentOffset ≤ offset) (fits : currentOffset + weightSum heap backends < 2 ^ 63) :
    weightedAt heap offset currentOffset backends =
      (shares heap backends)[(offset - currentOffset).toNat]? := by
  -- The shares of a backend are those up to its weight, and the rest is counted from there.
  induction backends generalizing currentOffset with
  | nil => simp [weightedAt, shares]
  | cons b rest ih =>
    obtain ⟨here, there⟩ := List.forall_mem_cons.mp nonneg
    have later := weightSum_nonneg there
    have own : shares heap (b :: rest) =
        List.replicate (heap b).weight.toNat b ++ shares heap rest := rfl
    rw [weightSum_cons] at fits
    have next : Go.wrap64 (currentOffset + (heap b).weight) = currentOffset + (heap b).weight :=
      Go.wrap64_of_fits (by omega) (by omega)
    simp only [weightedAt, next]
    rw [own]
    by_cases reached : offset < currentOffset + (heap b).weight
    · rw [if_pos reached, List.getElem?_append_left (by simp; omega), List.getElem?_replicate,
        if_pos (by omega)]
    · rw [if_neg reached, ih there (by omega) (by omega) (by omega),
        List.getElem?_append_right (by simp; omega), List.length_replicate]
      congr 1
      omega

end Weights

/-- A counter that is far from overflowing counts one up, and one down again. -/
theorem wrap64_counted {counted : Nat} (fits : (counted : Int) + 1 < 2 ^ 63) :
    Go.wrap64 ((counted : Int) + 1) = (counted + 1 : Nat) ∧
      Go.wrap64 ((counted + 1 : Nat) - 1) = (counted : Int) := by
  rw [Go.wrap64_of_fits (by omega) (by omega), Go.wrap64_of_fits (by omega) (by omega)]
  omega

namespace WeightedRoundRobin

variable {heap : BackendHeap} {pool : Pool}

/-- A lone backend is selected without counting. -/
theorem select_of_single {b : Nat} (single : pool.healthy heap = [b]) (wrr : WeightedRoundRobin) :
    wrr.select heap pool = (wrr, .ok (some b)) := by
  simp [select, single]

/-- Among several backends without any weight the count points to the next one. -/
theorem select_of_weightless (several : 1 < (pool.healthy heap).length)
    (weights : ∀ b ∈ pool.healthy heap, 0 ≤ (heap b).weight)
    (weightless : weightSum heap (pool.healthy heap) = 0) {counted : Nat}
    (fits : (counted : Int) + 1 < 2 ^ 63) :
    select ⟨counted⟩ heap pool =
      (⟨(counted + 1 : Nat)⟩,
        .ok (pool.healthy heap)[counted % (pool.healthy heap).length]?) := by
  -- Nothing overflows, and the remainder of a count is not negative.
  obtain ⟨next, previous⟩ := wrap64_counted fits
  have total := foldl_weights weights (Int.le_refl 0) (by omega)
  rw [weightless, Int.add_zero] at total
  have index : (counted : Int).tmod (pool.healthy heap).length =
      (counted % (pool.healthy heap).length : Nat) := Int.ofNat_tmod _ _
  simp only [select, if_neg (Nat.not_le_of_lt several), total, if_true, next, previous, index]
  rw [if_neg (by omega), Int.toNat_natCast]

/-- Among several backends the count points to the next share of the weights. -/
theorem select_of_weighted (several : 1 < (pool.healthy heap).length)
    (weights : ∀ b ∈ pool.healthy heap, 0 ≤ (heap b).weight)
    (weighted : 0 < weightSum heap (pool.healthy heap))
    (small : weightSum heap (pool.healthy heap) < 2 ^ 63) {counted : Nat}
    (fits : (counted : Int) + 1 < 2 ^ 63) :
    select ⟨counted⟩ heap pool =
      (⟨(counted + 1 : Nat)⟩, .ok (shares heap (pool.healthy heap))[counted %
        (shares heap (pool.healthy heap)).length]?) := by
  -- Nothing overflows, and the remainder of a count is one of the shares.
  obtain ⟨next, previous⟩ := wrap64_counted fits
  have size := length_shares weights
  have total := foldl_weights weights (Int.le_refl 0) (by omega)
  rw [Int.zero_add] at total
  have offset : (counted : Int).tmod (weightSum heap (pool.healthy heap)) =
      (counted % (shares heap (pool.healthy heap)).length : Nat) := by
    rw [← size]
    exact Int.ofNat_tmod _ _
  have within : counted % (shares heap (pool.healthy heap)).length <
      (shares heap (pool.healthy heap)).length := Nat.mod_lt counted (by omega)
  have share : weightedAt heap (counted % (shares heap (pool.healthy heap)).length : Nat) 0
      (pool.healthy heap) = some (shares heap (pool.healthy heap))[counted %
        (shares heap (pool.healthy heap)).length] := by
    rw [weightedAt_eq_shares weights (Int.le_refl 0) (by omega) (by omega), Int.sub_zero,
      Int.toNat_natCast, List.getElem?_eq_getElem within]
  simp only [select, if_neg (Nat.not_le_of_lt several), total, next, previous, offset,
    if_neg (ne_of_gt weighted), share, Option.some_or, List.getElem?_eq_getElem within]

/-- Answers come in turn from a list if every count is answered with the element it points to. -/
theorem servedInTurn_of_select {elements : List Nat} {first : Nat}
    (answers : ∀ counted : Nat, counted < first + elements.length →
      select ⟨counted⟩ heap pool =
        (⟨(counted + 1 : Nat)⟩, .ok elements[counted % elements.length]?)) :
    ServedInTurn (fun wrr => select wrr heap pool) (elements.map fun b => .ok (some b))
      (fun counted => ⟨counted⟩) first (first + elements.length) := by
  constructor
  · intro counted _ before
    simp only [answers counted before]
  · intro counted begun before
    -- A list that is asked for an element at all has one at every remainder.
    have within : counted % elements.length < elements.length :=
      Nat.mod_lt counted (by omega)
    simp only [answers counted before, List.length_map, List.getElem?_map,
      List.getElem?_eq_getElem within, Option.map_some]

/-- A lone backend is all that so many calls return. -/
theorem calls_of_single {b : Nat} (single : pool.healthy heap = [b]) (wrr : WeightedRoundRobin)
    (n : Nat) :
    calls (fun wrr => select wrr heap pool) n wrr = List.replicate n (.ok (some b)) := by
  induction n with
  | zero => rfl
  | succ n ih =>
    show (select wrr heap pool).2 :: calls _ n (select wrr heap pool).1 = _
    rw [select_of_single single, ih, List.replicate_succ]

end WeightedRoundRobin

/-- Round robin answers each count with the backend it points to. -/
theorem RoundRobin.select_of_counted {heap : BackendHeap} {pool : Pool}
    (listed : pool.healthy heap ≠ []) {counted : Nat} (fits : counted < 2 ^ 64)
    (small : (pool.healthy heap).length < 2 ^ 64) :
    select ⟨UInt64.ofNat counted⟩ heap pool =
      (⟨UInt64.ofNat (counted + 1)⟩,
        (pool.healthy heap)[counted % (pool.healthy heap).length]?) := by
  -- The unsigned remainder is that of the numbers.
  have some_backend : (pool.healthy heap).length ≠ 0 := by simpa using listed
  have back : UInt64.ofNat counted + 1 - 1 = UInt64.ofNat counted := by
    rw [UInt64.add_sub_cancel]
  have index : (UInt64.ofNat counted % UInt64.ofNat (pool.healthy heap).length).toNat =
      counted % (pool.healthy heap).length := by
    rw [UInt64.toNat_mod, UInt64.toNat_ofNat_of_lt' fits, UInt64.toNat_ofNat_of_lt' small]
  simp only [select, if_neg some_backend, back, index, UInt64.ofNat_add]
  rfl

/-- Round robin serves its backends in turn. -/
theorem RoundRobin.servedInTurn {heap : BackendHeap} {pool : Pool}
    (listed : pool.healthy heap ≠ []) {first : Nat}
    (fits : first + (pool.healthy heap).length < 2 ^ 64) :
    ServedInTurn (fun rr => select rr heap pool) ((pool.healthy heap).map some)
      (fun counted => ⟨UInt64.ofNat counted⟩) first (first + (pool.healthy heap).length) := by
  -- The counter is the number of calls, as long as it does not overflow.
  constructor
  · intro counted _ before
    simp only [select_of_counted listed (show counted < 2 ^ 64 by omega) (by omega)]
  · intro counted _ before
    have within : counted % (pool.healthy heap).length < (pool.healthy heap).length :=
      Nat.mod_lt counted (List.length_pos_iff.mpr listed)
    simp only [select_of_counted listed (show counted < 2 ^ 64 by omega) (by omega),
      List.length_map, List.getElem?_map, List.getElem?_eq_getElem within, Option.map_some]

/--
As many calls in a row as the weights add up to return each backend as often as its weight is,
and without weights, or by round robin, one round of calls returns each backend once.
-/
theorem rotation_shares (heap : BackendHeap) (pool : Pool) (listed : pool.healthy heap ≠ [])
    (weights : ∀ b ∈ pool.healthy heap, 0 ≤ (heap b).weight) :
    (∀ counted : Nat, 0 < weightSum heap (pool.healthy heap) →
      (pool.healthy heap).length = 1 ∨
        counted + weightSum heap (pool.healthy heap) < 2 ^ 63 →
      (calls (fun wrr => WeightedRoundRobin.select wrr heap pool)
        (weightSum heap (pool.healthy heap)).toNat ⟨counted⟩).Perm
          ((shares heap (pool.healthy heap)).map fun b => .ok (some b))) ∧
    (∀ counted : Nat, weightSum heap (pool.healthy heap) = 0 →
      (pool.healthy heap).length = 1 ∨ counted + (pool.healthy heap).length < 2 ^ 63 →
      (calls (fun wrr => WeightedRoundRobin.select wrr heap pool)
        (pool.healthy heap).length ⟨counted⟩).Perm
          ((pool.healthy heap).map fun b => .ok (some b))) ∧
    ∀ rr : RoundRobin, rr.current.toNat + (pool.healthy heap).length < 2 ^ 64 →
      (calls (fun rr => RoundRobin.select rr heap pool) (pool.healthy heap).length rr).Perm
        ((pool.healthy heap).map some) := by
  -- One round of turns goes through the whole list, wherever it begins.
  have size := length_shares weights
  have some_backend := List.length_pos_iff.mpr listed
  refine ⟨?_, ?_, ?_⟩
  · intro counted weighted fits
    have rounds : (weightSum heap (pool.healthy heap)).toNat =
        (shares heap (pool.healthy heap)).length := by omega
    by_cases alone : (pool.healthy heap).length = 1
    · -- A lone backend has all the shares.
      obtain ⟨b, single⟩ := List.length_eq_one_iff.mp alone
      rw [WeightedRoundRobin.calls_of_single single]
      simp [single, weightSum, shares]
    · rw [rounds]
      refine (WeightedRoundRobin.servedInTurn_of_select ?_).calls_perm (List.length_map _)
      intro k before
      exact WeightedRoundRobin.select_of_weighted (by omega) weights weighted (by omega) (by omega)
  · intro counted weightless fits
    by_cases alone : (pool.healthy heap).length = 1
    · obtain ⟨b, single⟩ := List.length_eq_one_iff.mp alone
      rw [WeightedRoundRobin.calls_of_single single]
      simp [single]
    · refine (WeightedRoundRobin.servedInTurn_of_select ?_).calls_perm (List.length_map _)
      intro k before
      exact WeightedRoundRobin.select_of_weightless (by omega) weights weightless (by omega)
  · intro rr fits
    have turns := (RoundRobin.servedInTurn listed fits).calls_perm (List.length_map some)
    rwa [UInt64.ofNat_toNat] at turns

/-- Backends of weights two, none and one get their shares from the second call on as well. -/
theorem rotation_shares_two_none_one :
    (calls (fun wrr => WeightedRoundRobin.select wrr
      (fun b => newBackend "" "" ([2, 0, 1].getD b 0)) [0, 1, 2]) 3 ⟨1⟩).Perm
        [.ok (some 0), .ok (some 0), .ok (some 2)] :=
  (rotation_shares (fun b => newBackend "" "" ([2, 0, 1].getD b 0)) [0, 1, 2]
    (by decide) (by decide)).1 1 (by decide) (.inr (by decide))

end Balance
