import Balance.Go.Collections
import Balance.Go.Tables
import Balance.Machine.History
import Balance.Machine.Run

/-! The table of interned strings, and what it counts. -/

namespace Balance

open Machine

/-- What an interner counts. -/
structure InternStats where
  hits : UInt64
  misses : UInt64
  evictions : UInt64
  totalSize : Int
  uniqueKeys : Int
  deriving DecidableEq

/-- Nothing has been counted. -/
def InternStats.zero : InternStats := ⟨0, 0, 0, 0, 0⟩

/-- A table of strings, which are bytes, under themselves. -/
structure StringInterner where
  strings : AList fun _ : List UInt8 => List UInt8
  maxSize : Int
  stats : InternStats

/-- A new interner, with a default for a size that is not positive. -/
def newStringInterner (maxSize : Int) : StringInterner where
  strings := ∅
  maxSize := if maxSize ≤ 0 then 10000 else maxSize
  stats := .zero

namespace StringInterner

/-- How many strings are interned. -/
def size (si : StringInterner) : Nat := si.strings.keys.length

/-- How long the interned strings are together. -/
def bytes (si : StringInterner) : Nat := Go.weigh List.length si.strings

/-- One round of an eviction deletes a key. -/
def evictKey (si : StringInterner) (key : List UInt8) : StringInterner :=
  { si with
    strings := si.strings.erase key
    stats := { si.stats with totalSize := Go.wrap64 (si.stats.totalSize - key.length) } }

/--
The loop of an eviction over the keys that the map produces, and how many it has deleted.

A key is deleted as soon as it is produced, so that any key that is there may be the next one.
-/
def evictLoop (toEvict : Int) :
    StringInterner → Nat → List (List UInt8) → Option (StringInterner × Nat)
  -- The loop ends by itself only when there are no more keys.
  | si, evicted, [] => if si.strings.keys = [] then some (si, evicted) else none
  | si, evicted, key :: rest =>
    if key ∈ si.strings then
      if ((evicted + 1 : Nat) : Int) ≥ toEvict then
        if rest = [] then some (si.evictKey key, evicted + 1) else none
      else evictLoop toEvict (si.evictKey key) (evicted + 1) rest
    else none

/-- How many strings an eviction is to delete. -/
def toEvict (si : StringInterner) : Int :=
  if si.maxSize.tdiv 10 = 0 then 1 else si.maxSize.tdiv 10

/-- Deletes one string in ten, or one at least, with the keys that the map produces. -/
def evictLRU (si : StringInterner) (keys : List (List UInt8)) : Option StringInterner :=
  (evictLoop si.toEvict si 0 keys).map fun (si, evicted) =>
    { si with
      stats := { si.stats with
        evictions := si.stats.evictions + .ofNat evicted
        uniqueKeys := si.size } }

/-- A string was found. -/
def hit (si : StringInterner) : StringInterner :=
  { si with stats := { si.stats with hits := si.stats.hits + 1 } }

/-- A string that was not found is stored. -/
def store (si : StringInterner) (s : List UInt8) : StringInterner :=
  let strings := si.strings.insert s s
  { si with
    strings := strings
    stats := { si.stats with
      misses := si.stats.misses + 1
      totalSize := Go.wrap64 (si.stats.totalSize + s.length)
      uniqueKeys := strings.keys.length } }

/-- Interns a string, with the keys that the map produces if there has to be an eviction. -/
def intern (si : StringInterner) (s : List UInt8) (keys : List (List UInt8)) :
    Option (StringInterner × List UInt8) :=
  -- Between the two lookups nothing happens, so that the second finds no more than the first.
  match si.strings.lookup s with
  | some interned => some (si.hit, interned)
  | none =>
    (if (si.size : Int) ≥ si.maxSize then si.evictLRU keys else some si).map fun si =>
      (si.store s, s)

/-- Interns the bytes of a slice. -/
def internBytes (si : StringInterner) (b : List UInt8) (keys : List (List UInt8)) :
    Option (StringInterner × List UInt8) :=
  let s := b
  si.intern s keys

/-- Forgets all strings and all that was counted. -/
def clear (si : StringInterner) : StringInterner :=
  { si with strings := ∅, stats := .zero }

end StringInterner

/-- A call of an interner, with the keys that the map produces if there is an eviction. -/
inductive InternCall where
  | intern (s : List UInt8) (keys : List (List UInt8))
  | internBytes (b : List UInt8) (keys : List (List UInt8))
  | clear
  deriving DecidableEq

namespace InternCall

/-- The call clears the interner. -/
def clears (call : InternCall) : Bool := call = .clear

/-- The call interns a string. -/
def interns (call : InternCall) : Bool := call ≠ .clear

end InternCall

namespace StringInterner

/-- The interner after a call. -/
def step (si : StringInterner) : InternCall → Option StringInterner
  | .intern s keys => (si.intern s keys).map Prod.fst
  | .internBytes b keys => (si.internBytes b keys).map Prod.fst
  | .clear => some si.clear

variable {si next : StringInterner} {key s : List UInt8} {keys : List (List UInt8)}

/-- The strings are filed under themselves, and their lengths add up to the total. -/
structure Sound (si : StringInterner) : Prop where
  own : ∀ key value, si.strings.lookup key = some value → value = key
  total : si.stats.totalSize = Go.wrap64 si.bytes

section Eviction

/-- A round of an eviction takes one string out. -/
theorem size_evictKey (present : key ∈ si.strings) : (si.evictKey key).size + 1 = si.size := by
  have shorter := Go.length_keys_erase present
  simp only [size, evictKey]
  omega

/-- A round of an eviction takes a string and its length out. -/
theorem Sound.evictKey (sound : si.Sound) (present : key ∈ si.strings) :
    (si.evictKey key).Sound := by
  -- The other strings stay where they are, and the total goes down by the length of this one.
  constructor
  case own =>
    intro other value found
    by_cases same : other = key
    · rw [same, StringInterner.evictKey, AList.lookup_erase] at found
      cases found
    · rw [StringInterner.evictKey, AList.lookup_erase_ne same] at found
      exact sound.own other value found
  case total =>
    have weight := Go.weigh_erase List.length present
    have less : (si.bytes : Int) - key.length = (si.evictKey key).bytes := by
      simp only [bytes, StringInterner.evictKey]
      omega
    -- The total was wrapped before, so that the difference is wrapped from there.
    rw [← less, sub_eq_add_neg, ← Go.wrap64_add, ← sound.total, ← sub_eq_add_neg]
    rfl

/-- An eviction deletes as many strings as it counts, and one at least unless there are none. -/
structure Evicted (before : StringInterner) (earlier : Nat) (after : StringInterner)
    (evicted : Nat) : Prop where
  sound : after.Sound
  fewer : ∀ key ∈ after.strings, key ∈ before.strings
  size : after.size + evicted = before.size + earlier
  progress : after.size = 0 ∨ earlier < evicted
  maxSize : after.maxSize = before.maxSize
  hits : after.stats.hits = before.stats.hits
  misses : after.stats.misses = before.stats.misses
  evictions : after.stats.evictions = before.stats.evictions

/-- The loop of an eviction, whichever keys it meets. -/
theorem evicted_of_evictLoop {toEvict : Int} {earlier evicted : Nat} (sound : si.Sound)
    (ran : evictLoop toEvict si earlier keys = some (next, evicted)) :
    Evicted si earlier next evicted := by
  -- The induction is on the keys, each of which the loop deletes in one round.
  induction keys generalizing si earlier with
  | nil =>
    obtain ⟨empty, same⟩ := Option.ite_none_right_eq_some.mp ran
    have none : si.size = 0 := by rw [size, empty, List.length_nil]
    cases same
    exact ⟨sound, fun _ listed => listed, rfl, .inl none, rfl, rfl, rfl, rfl⟩
  | cons key rest ih =>
    obtain ⟨present, ran⟩ := Option.ite_none_right_eq_some.mp ran
    have shorter := size_evictKey present
    have fewer : ∀ other ∈ (si.evictKey key).strings, other ∈ si.strings :=
      fun _ listed => (AList.mem_erase.mp listed).2
    split at ran
    · obtain ⟨_, same⟩ := Option.ite_none_right_eq_some.mp ran
      cases same
      exact ⟨sound.evictKey present, fewer, by omega, .inr (by omega), rfl, rfl, rfl, rfl⟩
    · have later := ih (sound.evictKey present) ran
      refine ⟨later.sound, ?_, ?_, ?_, later.maxSize, later.hits, later.misses, later.evictions⟩
      · exact fun other listed => fewer other (later.fewer other listed)
      · have size := later.size
        omega
      · exact later.progress.imp_right fun more => by omega

/-- The map always has keys with which the loop comes to an end. -/
theorem exists_evictLoop (toEvict : Int) (si : StringInterner) (earlier : Nat) :
    ∃ keys result, evictLoop toEvict si earlier keys = some result := by
  -- With each round there is one string less.
  induction count : si.size generalizing si earlier with
  | zero =>
    have empty : si.strings.keys = [] := List.eq_nil_of_length_eq_zero count
    exact ⟨[], _, if_pos empty⟩
  | succ size ih =>
    obtain ⟨key, listed⟩ := List.exists_mem_of_length_pos (by
      rw [show si.strings.keys.length = size + 1 from count]
      omega : 0 < si.strings.keys.length)
    have present : key ∈ si.strings := AList.mem_keys.mpr listed
    have shorter := size_evictKey present
    by_cases enough : ((earlier + 1 : Nat) : Int) ≥ toEvict
    · refine ⟨[key], (si.evictKey key, earlier + 1), ?_⟩
      rw [evictLoop, if_pos present, if_pos enough, if_pos rfl]
    · obtain ⟨keys, result, ran⟩ := ih (si.evictKey key) (earlier + 1) (by omega)
      refine ⟨key :: keys, result, ?_⟩
      rw [evictLoop, if_pos present, if_neg enough, ran]

end Eviction

section Counting

variable {hits misses evictions : Nat}

/--
What an interner has counted since it was cleared.

Its own counters are these numbers as far as 64 bits hold them.
-/
structure Counts (si : StringInterner) (hits misses evictions : Nat) : Prop extends Sound si where
  found : si.stats.hits = .ofNat hits
  missed : si.stats.misses = .ofNat misses
  evicted : si.stats.evictions = .ofNat evictions
  stored : misses = evictions + si.size

/-- An interner without strings has counted nothing. -/
theorem counts_empty (maxSize : Int) : Counts ⟨∅, maxSize, .zero⟩ 0 0 0 where
  own := by
    intro key value found
    rw [AList.lookup_empty] at found
    cases found
  total := Go.wrap64_zero.symm
  found := rfl
  missed := rfl
  evicted := rfl
  stored := rfl

/-- A string that is found counts as a hit. -/
theorem Counts.hit (counts : si.Counts hits misses evictions) :
    si.hit.Counts (hits + 1) misses evictions where
  own := counts.own
  total := counts.total
  found := by rw [StringInterner.hit, counts.found, UInt64.ofNat_add]; rfl
  missed := counts.missed
  evicted := counts.evicted
  stored := counts.stored

/-- A string that is stored takes the room of one. -/
theorem size_store (absent : s ∉ si.strings) : (si.store s).size = si.size + 1 := by
  have longer := Go.length_keys_insert si.strings s s
  rw [if_neg absent] at longer
  simp only [size, StringInterner.store]
  omega

/-- A string that is stored counts as a miss. -/
theorem Counts.store (counts : si.Counts hits misses evictions) (absent : s ∉ si.strings) :
    (si.store s).Counts hits (misses + 1) evictions where
  own := by
    -- What is found is the new string, or something that was there before.
    intro key value found
    by_cases same : key = s
    · rw [same, StringInterner.store, AList.lookup_insert] at found
      rw [same, Option.some.inj found]
    · rw [StringInterner.store, AList.lookup_insert_ne same] at found
      exact counts.own key value found
  total := by
    have weight := Go.weigh_insert List.length absent s
    have more : (si.bytes : Int) + s.length = (si.store s).bytes := by
      simp only [bytes, StringInterner.store]
      omega
    rw [← more, ← Go.wrap64_add, ← counts.total]
    rfl
  found := counts.found
  missed := by rw [StringInterner.store, counts.missed, UInt64.ofNat_add]; rfl
  evicted := counts.evicted
  stored := by
    have stored := counts.stored
    rw [size_store absent]
    omega

/-- There is room for one more string, without any new ones, and what was counted is still so. -/
structure MadeRoom (before after : StringInterner) (hits misses : Nat) : Prop where
  maxSize : after.maxSize = before.maxSize
  room : (after.size : Int) < after.maxSize
  fewer : ∀ key ∈ after.strings, key ∈ before.strings
  counts : ∃ evictions, after.Counts hits misses evictions

/-- An eviction makes room, and counts the strings that it deletes. -/
theorem Counts.evictLRU (counts : si.Counts hits misses evictions) (positive : 1 ≤ si.maxSize)
    (bounded : (si.size : Int) ≤ si.maxSize) (ran : si.evictLRU keys = some next) :
    MadeRoom si next hits misses := by
  obtain ⟨⟨after, evicted⟩, looped, rfl⟩ := Option.map_eq_some_iff.mp ran
  have evicts := evicted_of_evictLoop counts.toSound looped
  have size := evicts.size
  -- A table that was full is not any more, since one string at least is gone or all are.
  have room : (after.size : Int) < after.maxSize := by
    rw [evicts.maxSize]
    rcases evicts.progress with empty | some <;> omega
  refine ⟨evicts.maxSize, room, evicts.fewer, evictions + evicted,
    ⟨evicts.sound.own, evicts.sound.total⟩, ?_, ?_, ?_, ?_⟩
  · exact evicts.hits.trans counts.found
  · exact evicts.misses.trans counts.missed
  · -- The loop leaves the counter alone, and what it has deleted is added at its end.
    change after.stats.evictions + .ofNat evicted = .ofNat (evictions + evicted)
    rw [evicts.evictions, counts.evicted, UInt64.ofNat_add]
  · have stored := counts.stored
    change misses = evictions + evicted + after.size
    omega

/-- A call returns the string that it was given, and counts as a hit or as a miss. -/
theorem Counts.intern (counts : si.Counts hits misses evictions) (positive : 1 ≤ si.maxSize)
    (bounded : (si.size : Int) ≤ si.maxSize) {t : List UInt8}
    (ran : si.intern s keys = some (next, t)) :
    t = s ∧ next.maxSize = si.maxSize ∧ (next.size : Int) ≤ next.maxSize ∧
      ∃ hits' misses' evictions', next.Counts hits' misses' evictions' ∧
        hits' + misses' = hits + misses + 1 := by
  rw [StringInterner.intern] at ran
  split at ran
  case h_1 interned found =>
    cases ran
    exact ⟨counts.own s t found, rfl, bounded, _, _, _, counts.hit, by omega⟩
  case h_2 missing =>
    obtain ⟨after, made, same⟩ := Option.map_eq_some_iff.mp ran
    cases same
    -- Either there is room from the start, or an eviction makes it.
    have makes : MadeRoom si after hits misses := by
      split at made
      · exact counts.evictLRU positive bounded made
      case isFalse room =>
        cases made
        exact ⟨rfl, Int.not_le.mp room, fun _ listed => listed, _, counts⟩
    have absent : s ∉ after.strings := fun listed =>
      AList.lookup_eq_none.mp missing (makes.fewer s listed)
    obtain ⟨evictions', still⟩ := makes.counts
    have room := makes.room
    refine ⟨rfl, makes.maxSize, ?_, _, _, _, still.store absent, by omega⟩
    rw [size_store absent]
    change ((after.size + 1 : Nat) : Int) ≤ after.maxSize
    omega

/-- Every string can be interned. -/
theorem exists_intern (si : StringInterner) (s : List UInt8) :
    ∃ keys result, si.intern s keys = some result := by
  -- The keys matter only if the string is new and the table is full.
  obtain ⟨keys, ⟨after, evicted⟩, looped⟩ := exists_evictLoop si.toEvict si 0
  refine ⟨keys, ?_⟩
  rw [← Option.isSome_iff_exists, StringInterner.intern]
  split
  · rfl
  · rw [Option.isSome_map]
    split
    · rw [StringInterner.evictLRU, Option.isSome_map, looped]
      rfl
    · rfl

end Counting

section Runs

variable {calls : List InternCall} {maxSize : Int}

/-- After a history of calls, an interner is within its bound and has counted them. -/
def Tallied (maxSize : Int) (calls : List InternCall) (si : StringInterner) : Prop :=
  si.maxSize = maxSize ∧ (si.size : Int) ≤ maxSize ∧
    ∃ hits misses evictions, si.Counts hits misses evictions ∧
      hits + misses = countSince InternCall.clears InternCall.interns calls

/-- In an interner without strings, no calls are counted. -/
theorem tallied_empty (positive : 1 ≤ maxSize)
    (none : countSince InternCall.clears InternCall.interns calls = 0) :
    Tallied maxSize calls ⟨∅, maxSize, .zero⟩ := by
  refine ⟨rfl, ?_, 0, 0, 0, counts_empty maxSize, none.symm⟩
  change (0 : Int) ≤ maxSize
  omega

/-- One more string is interned. -/
theorem Tallied.intern (tallied : Tallied maxSize calls si) (positive : 1 ≤ maxSize)
    {call : InternCall} (interns : call.interns = true) {t : List UInt8}
    (ran : si.intern s keys = some (next, t)) : Tallied maxSize (calls ++ [call]) next := by
  -- The call is no clearing, so that it adds one to what was counted.
  obtain ⟨rfl, bounded, hits, misses, evictions, counts, counted⟩ := tallied
  obtain ⟨_, same, within, hits', misses', evictions', after, more⟩ :=
    counts.intern positive bounded ran
  have keeps : call.clears = false := by simpa [InternCall.interns, InternCall.clears] using interns
  refine ⟨same, same ▸ within, hits', misses', evictions', after, ?_⟩
  rw [countSince_concat, keeps, if_neg Bool.false_ne_true, if_pos interns, ← counted, more]

/-- Every history leaves an interner within its bound, with all calls counted. -/
theorem tallied_exec (positive : 1 ≤ maxSize)
    (ran : exec step (newStringInterner maxSize) calls = some si) : Tallied maxSize calls si := by
  have given : newStringInterner maxSize = ⟨∅, maxSize, .zero⟩ := by
    rw [newStringInterner, if_neg (by omega)]
  -- The induction is on the history, and a clearing begins a new one.
  refine exec_history (Tallied maxSize) ?_ ?_ (given ▸ ran)
  · exact tallied_empty positive rfl
  · rintro past si (⟨s, keys⟩ | ⟨b, keys⟩ | _) next _ tallied taken
    · obtain ⟨⟨after, t⟩, interned, rfl⟩ := Option.map_eq_some_iff.mp taken
      exact tallied.intern positive rfl interned
    · obtain ⟨⟨after, t⟩, interned, rfl⟩ := Option.map_eq_some_iff.mp taken
      exact tallied.intern positive rfl interned
    · cases taken
      rw [clear, tallied.1]
      refine tallied_empty positive ?_
      rw [countSince_concat]
      rfl

/-- The counters agree with what was counted, as far as 64 bits go. -/
theorem Counts.wrapped {hits misses evictions : Nat} (counts : si.Counts hits misses evictions) :
    si.stats.misses - si.stats.evictions = .ofNat si.size ∧
      si.stats.hits + si.stats.misses = .ofNat (hits + misses) := by
  constructor
  · rw [counts.missed, counts.evicted, counts.stored, UInt64.ofNat_add, UInt64.add_comm,
      UInt64.add_sub_cancel]
  · rw [counts.found, counts.missed, UInt64.ofNat_add]

/-- The counters are what was counted until then. -/
theorem Counts.exact {hits misses evictions : Nat} (counts : si.Counts hits misses evictions)
    (fits : hits + misses < 2 ^ 64) :
    si.stats.misses.toNat = si.stats.evictions.toNat + si.size ∧
      si.stats.hits.toNat + si.stats.misses.toNat = hits + misses := by
  have stored := counts.stored
  -- No counter is above the number of calls.
  have exact {number : Nat} (small : number < 2 ^ 64) : (UInt64.ofNat number).toNat = number :=
    UInt64.toNat_ofNat_of_lt' small
  rw [counts.found, counts.missed, counts.evicted, exact (by omega), exact (by omega),
    exact (by omega)]
  exact ⟨stored, rfl⟩

/--
An interner returns what it is given, stays within its size, and counts its strings and calls.

Which keys its evictions meet makes no difference. The counters are exact up to 2^64 calls, and the
total up to 2^63 bytes; beyond, they are so in the arithmetic of their types.
-/
theorem interned_strings_counted (positive : 1 ≤ maxSize)
    (ran : exec step (newStringInterner maxSize) calls = some si) :
    let called := countSince InternCall.clears InternCall.interns calls
    (∀ s, (∃ keys result, si.intern s keys = some result) ∧
      ∀ keys next t, si.intern s keys = some (next, t) → t = s) ∧
    (si.size : Int) ≤ maxSize ∧
    (si.stats.totalSize = Go.wrap64 si.bytes ∧
      (si.bytes < 2 ^ 63 → si.stats.totalSize = si.bytes)) ∧
    (si.stats.misses - si.stats.evictions = .ofNat si.size ∧
      si.stats.hits + si.stats.misses = .ofNat called) ∧
    (called < 2 ^ 64 → si.stats.misses.toNat = si.stats.evictions.toNat + si.size ∧
      si.stats.hits.toNat + si.stats.misses.toNat = called) := by
  -- The calls are counted by the hits and the misses of the history.
  obtain ⟨rfl, bounded, hits, misses, evictions, counts, counted⟩ := tallied_exec positive ran
  rw [← counted]
  refine ⟨?_, bounded, ⟨counts.total, ?_⟩, counts.wrapped, counts.exact⟩
  · intro s
    refine ⟨exists_intern si s, ?_⟩
    intro keys next t interned
    exact (counts.intern positive bounded interned).1
  · intro fits
    rw [counts.total, Go.wrap64_of_fits (by omega) (by omega)]

/-- Three strings for a table of two, and one of them again. -/
def evictingCalls : List InternCall :=
  [.intern [97] [], .intern [98] [], .intern [99] [[97]], .internBytes [98] []]

/-- The table has two strings after one was evicted. -/
theorem interned_strings_counted_evicting :
    ∃ si, exec step (newStringInterner 2) evictingCalls = some si ∧ si.stats.evictions = 1 ∧
      si.size = 2 ∧ si.stats.misses - si.stats.evictions = .ofNat si.size := by
  have ran : exec step (newStringInterner 2) evictingCalls = some _ := rfl
  exact ⟨_, ran, rfl, rfl, (interned_strings_counted (by decide) ran).2.2.2.1.1⟩

end Runs

end StringInterner

end Balance
