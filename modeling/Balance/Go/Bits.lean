import Mathlib.Data.Nat.Bitwise
import Mathlib.Order.Bounds.Defs

/-! Bits that are spread downwards by shifting a number and joining it with itself. -/

namespace Go

/-- The bits of one number, each copied to a number of places from its own downwards. -/
def Spread (width number spread : Nat) : Prop :=
  ∀ i, spread.testBit i = true ↔ ∃ d < width, number.testBit (i + d) = true

namespace Spread

variable {width number spread : Nat}

/-- Every number is its own bits, each in one place. -/
theorem refl (number : Nat) : Spread 1 number number := by
  intro i
  simp

/-- Shifting by the width and joining doubles it. -/
theorem double (spreads : Spread width number spread) :
    Spread (2 * width) number (spread ||| spread >>> width) := by
  -- A bit is found at its own place in one half of the width, or shifted in the other.
  intro i
  rw [Nat.testBit_or, Nat.testBit_shiftRight, Bool.or_eq_true, spreads i, spreads (width + i)]
  constructor
  · -- A copy comes from the lower half of the places, or from the upper one.
    rintro (⟨d, near, bit⟩ | ⟨d, near, bit⟩)
    · exact ⟨d, by omega, bit⟩
    · exact ⟨width + d, by omega, by rwa [show i + (width + d) = width + i + d by omega]⟩
  · rintro ⟨d, near, bit⟩
    by_cases lower : d < width
    · exact .inl ⟨d, lower, bit⟩
    · refine .inr ⟨d - width, by omega, ?_⟩
      rwa [show width + i + (d - width) = i + d by omega]

/-- Bits are spread downwards only. -/
theorem lt_two_pow (spreads : Spread width number spread) {bits : Nat} (small : number < 2 ^ bits) :
    spread < 2 ^ bits := by
  -- A bit that high would come from one that is at least as high.
  refine Nat.lt_pow_two_of_testBit spread fun i high => ?_
  rw [← Bool.not_eq_true, spreads i]
  rintro ⟨d, _, bit⟩
  have larger : number < 2 ^ (i + d) :=
    small.trans_le (Nat.pow_le_pow_right (by omega) (by omega))
  rw [Nat.testBit_lt_two_pow larger] at bit
  cases bit

/-- A number of ones comes out just if there is a bit to copy within reach of every place. -/
theorem eq_two_pow_sub_one_iff (spreads : Spread width number spread) :
    spread = 2 ^ (number.log2 + 1) - 1 ↔
      ∀ i ≤ number.log2, ∃ d < width, number.testBit (i + d) = true := by
  constructor
  · -- Each one below the highest bit was copied from somewhere.
    intro same i low
    refine (spreads i).mp ?_
    rw [same, Nat.testBit_two_pow_sub_one, decide_eq_true_iff]
    omega
  · -- The places below the highest bit are filled, and nothing stands above.
    intro reached
    refine Nat.eq_of_testBit_eq fun i => ?_
    rw [Nat.testBit_two_pow_sub_one]
    by_cases low : i < number.log2 + 1
    · rw [decide_eq_true low]
      exact (spreads i).mpr (reached i (by omega))
    · rw [decide_eq_false low]
      refine Nat.testBit_lt_two_pow ((spreads.lt_two_pow Nat.lt_log2_self).trans_le ?_)
      exact Nat.pow_le_pow_right (by omega) (by omega)

end Spread

/-- The next power of two is one place above the highest bit. -/
theorem isLeast_two_pow (number : Nat) (some : number ≠ 0) :
    IsLeast {power : Nat | power.isPowerOfTwo ∧ number < power} (2 ^ (number.log2 + 1)) := by
  refine ⟨⟨⟨_, rfl⟩, Nat.lt_log2_self⟩, ?_⟩
  rintro power ⟨⟨k, rfl⟩, above⟩
  exact Nat.pow_le_pow_right (by omega) ((Nat.log2_lt some).mpr above)

end Go
