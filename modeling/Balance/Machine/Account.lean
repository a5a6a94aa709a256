import Mathlib.Data.Int.Cast.Lemmas
import Mathlib.Algebra.Order.Ring.Cast
import Mathlib.Tactic.Linarith

/-! An account that fills up at a steady pace, and what can be drawn from it in any interval. -/

namespace Machine

/-- An account with its level, and the instants at which one unit each was drawn from it. -/
structure Account (K : Type*) where
  clock : Int
  level : K
  drawn : List Int

namespace Account

variable {K : Type*} [CommRing K] [LinearOrder K] [IsStrictOrderedRing K]

/-- How many units were drawn from an instant on. -/
def since (account : Account K) (first : Int) : Nat :=
  account.drawn.countP fun instant => decide (first ≤ instant)

/-- How many units were drawn between two instants, both included. -/
def between (account : Account K) (first last : Int) : Nat :=
  account.drawn.countP fun instant => decide (first ≤ instant ∧ instant ≤ last)

/-- The account at a later instant, at a level that its owner says. -/
def wait (account : Account K) (now : Int) (level : K) : Account K :=
  { account with clock := now, level := level }

/-- The account after one unit is drawn. -/
def draw (account : Account K) : Account K :=
  { account with level := account.level - 1, drawn := account.clock :: account.drawn }

/--
The account has been kept within its limits.

What was drawn since an instant, together with what is left, is no more than a full account and
what has come in since.
-/
structure Sound (cap pace : K) (account : Account K) : Prop where
  nonneg : 0 ≤ account.level
  capped : account.level ≤ cap
  past : ∀ instant ∈ account.drawn, instant ≤ account.clock
  balance : ∀ first ≤ account.clock,
    (account.since first : K) + account.level ≤ cap + pace * ((account.clock - first : Int) : K)
  within : ∀ first last, first ≤ last →
    (account.between first last : K) ≤ cap + pace * ((last - first : Int) : K)

variable {cap pace : K} {account : Account K}

/-- An account from which nothing was drawn is within its limits. -/
theorem sound_new {clock : Int} {level : K} (steady : 0 ≤ pace) (nonneg : 0 ≤ level)
    (capped : level ≤ cap) : Sound cap pace ⟨clock, level, []⟩ := by
  -- Nothing drawn is within any limit, as what comes in is not negative.
  have income {first last : Int} (ordered : first ≤ last) :
      0 ≤ pace * ((last - first : Int) : K) :=
    mul_nonneg steady (Int.cast_nonneg (by omega))
  refine ⟨nonneg, capped, by simp, ?_, ?_⟩
  · intro first ordered
    have := income ordered
    simp only [since, List.countP_nil, Nat.cast_zero]
    linarith
  · intro first last ordered
    have := income ordered
    simp only [between, List.countP_nil, Nat.cast_zero]
    linarith

omit [IsStrictOrderedRing K] in
/-- Nothing has been drawn from an instant in the future on. -/
theorem Sound.since_future (sound : Sound cap pace account) {first : Int}
    (future : account.clock < first) : account.since first = 0 := by
  -- All that was drawn was drawn by now.
  apply List.countP_eq_zero.mpr
  intro instant member
  have := sound.past instant member
  simp only [decide_eq_true_eq]
  omega

/-- Waiting keeps the limits, if the level rises by no more than what comes in. -/
theorem Sound.wait (sound : Sound cap pace account) (steady : 0 ≤ pace) {now : Int} {level : K}
    (later : account.clock ≤ now) (nonneg : 0 ≤ level) (capped : level ≤ cap)
    (risen : level ≤ account.level + pace * ((now - account.clock : Int) : K)) :
    Sound cap pace (account.wait now level) := by
  -- Only the level and the clock have changed.
  refine ⟨nonneg, capped, ?_, ?_, sound.within⟩
  · intro instant member
    exact le_trans (sound.past instant member) later
  · intro first ordered
    change first ≤ now at ordered
    change (account.since first : K) + level ≤ cap + pace * ((now - first : Int) : K)
    rcases le_or_gt first account.clock with before | future
    · -- What came in while waiting is added on both sides.
      have balance := sound.balance first before
      push_cast at balance risen ⊢
      linarith
    · rw [sound.since_future future]
      have income : 0 ≤ pace * ((now - first : Int) : K) :=
        mul_nonneg steady (Int.cast_nonneg (by omega))
      simp only [Nat.cast_zero]
      linarith

/-- Drawing a unit that is there keeps the limits. -/
theorem Sound.draw (sound : Sound cap pace account) (steady : 0 ≤ pace)
    (enough : 1 ≤ account.level) : Sound cap pace account.draw := by
  -- The unit drawn counts towards every interval that has begun and goes off the level.
  have balance : ∀ first ≤ account.clock,
      (account.draw.since first : K) + account.draw.level ≤
        cap + pace * ((account.clock - first : Int) : K) := by
    intro first ordered
    have counted : account.draw.since first = account.since first + 1 := by
      simp [Account.draw, since, ordered]
    have before := sound.balance first ordered
    rw [counted]
    simp only [Account.draw, Nat.cast_add, Nat.cast_one]
    linarith
  refine ⟨?_, ?_, ?_, balance, ?_⟩
  · simp only [Account.draw]
    linarith
  · have := sound.capped
    simp only [Account.draw]
    linarith
  · intro instant member
    rcases List.mem_cons.mp member with rfl | earlier
    · exact le_refl _
    · exact sound.past instant earlier
  · intro first last ordered
    by_cases inside : first ≤ account.clock ∧ account.clock ≤ last
    · -- Up to now, the interval holds no more than was drawn since it began.
      have fewer : account.draw.between first last ≤ account.draw.since first := by
        apply List.countP_mono_left
        intro instant _ member
        simp only [decide_eq_true_eq] at member ⊢
        exact member.1
      have bound := balance first inside.1
      have left : 0 ≤ account.draw.level := by
        simp only [Account.draw]
        linarith
      have longer : pace * ((account.clock - first : Int) : K) ≤
          pace * ((last - first : Int) : K) :=
        mul_le_mul_of_nonneg_left (Int.cast_le.mpr (by omega)) steady
      have count : (account.draw.between first last : K) ≤ account.draw.since first :=
        Nat.cast_le.mpr fewer
      linarith
    · have same : account.draw.between first last = account.between first last := by
        simp [Account.draw, between, inside]
      rw [same]
      exact sound.within first last ordered

/--
Nothing that came into the account was wasted since it was last full.

What was drawn since then, together with what is left, is no less than a full account and what has
come in.
-/
def Tight (cap pace : K) (account : Account K) : Prop :=
  ∃ full ≤ account.clock,
    cap + pace * ((account.clock - full : Int) : K) ≤ (account.since full : K) + account.level

/-- An account that is full has wasted nothing since. -/
theorem tight_of_full (full : cap ≤ account.level) : Tight cap pace account := by
  refine ⟨account.clock, le_refl _, ?_⟩
  have drawn : (0 : K) ≤ account.since account.clock := Nat.cast_nonneg _
  simp only [sub_self, Int.cast_zero, mul_zero, add_zero]
  linarith

/-- Waiting wastes nothing, if all that comes in is added as far as it fits. -/
theorem Tight.wait (tight : Tight cap pace account) {now : Int} {level : K}
    (later : account.clock ≤ now)
    (risen : min cap (account.level + pace * ((now - account.clock : Int) : K)) ≤ level) :
    Tight cap pace (account.wait now level) := by
  -- Either the account is full now, or the sum goes on from where it was last full.
  rcases min_le_iff.mp risen with filled | added
  · exact tight_of_full filled
  · obtain ⟨full, past, balance⟩ := tight
    refine ⟨full, le_trans past later, ?_⟩
    change cap + pace * ((now - full : Int) : K) ≤ (account.since full : K) + level
    push_cast at balance added ⊢
    linarith

/-- Drawing a unit wastes nothing. -/
theorem Tight.draw (tight : Tight cap pace account) : Tight cap pace account.draw := by
  obtain ⟨full, past, balance⟩ := tight
  have counted : account.draw.since full = account.since full + 1 := by
    simp [Account.draw, since, past]
  refine ⟨full, past, ?_⟩
  rw [counted]
  simp only [Account.draw, Nat.cast_add, Nat.cast_one]
  linarith

/-- If there is not a unit left, then one more would be too many in some interval until now. -/
theorem Tight.exceeds (tight : Tight cap pace account) (short : account.level < 1) :
    ∃ first ≤ account.clock,
      cap + pace * ((account.clock - first : Int) : K) < (account.since first : K) + 1 := by
  obtain ⟨full, past, balance⟩ := tight
  exact ⟨full, past, by linarith⟩

end Account

end Machine
