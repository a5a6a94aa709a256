import Mathlib.Algebra.Order.Group.Defs
import Mathlib.Data.List.Count

/-! How many stamps of a log lie in a window of time, and logs that may forget the older ones. -/

namespace Machine

variable {α : Type*} [LinearOrder α]

/-- How many stamps lie beyond a cutoff. -/
def countAfter (cutoff : α) (stamps : List α) : Nat := stamps.countP fun x => cutoff < x

/-- A kept log counts no fewer stamps than the whole one, beyond any cutoff from a given one on. -/
def Remembers (cutoff : α) (kept all : List α) : Prop :=
  ∀ later, cutoff ≤ later → countAfter later all ≤ countAfter later kept

/-- Stamps up to a cutoff do not count beyond it. -/
theorem countAfter_eq_zero {cutoff : α} {stamps : List α} (old : ∀ x ∈ stamps, x ≤ cutoff) :
    countAfter cutoff stamps = 0 := by
  -- Nothing in the log is beyond the cutoff.
  apply List.countP_eq_zero.mpr
  intro x member
  simpa using old x member

/-- Taking stamps up to an earlier cutoff away changes no count. -/
theorem countAfter_filter {cutoff later : α} (ordered : cutoff ≤ later) (stamps : List α) :
    countAfter later (stamps.filter fun x => cutoff < x) = countAfter later stamps := by
  -- What counts beyond the later cutoff is not taken away.
  simp only [countAfter, List.countP_filter]
  apply List.countP_congr
  intro x _
  simp only [decide_eq_true_eq, Bool.and_eq_true]
  constructor
  · intro both
    exact both.1
  · intro after
    exact ⟨after, lt_of_le_of_lt ordered after⟩

/-- A stamp counts the same wherever it stands. -/
theorem countAfter_concat (cutoff now : α) (stamps : List α) :
    countAfter cutoff (stamps ++ [now]) = countAfter cutoff stamps + countAfter cutoff [now] := by
  simp only [countAfter, List.countP_append]

/-- A stamp in front adds its own count. -/
theorem countAfter_cons (cutoff now : α) (stamps : List α) :
    countAfter cutoff (now :: stamps) = countAfter cutoff stamps + countAfter cutoff [now] := by
  rw [← List.singleton_append, countAfter, List.countP_append, Nat.add_comm]
  rfl

namespace Remembers

variable {cutoff later now : α} {kept all : List α}

/-- A log remembers itself. -/
theorem refl (cutoff : α) (all : List α) : Remembers cutoff all all := fun _ _ => le_rfl

/-- What is remembered from a cutoff on is remembered from every later one on. -/
theorem mono (remembers : Remembers cutoff kept all) (ordered : cutoff ≤ later) :
    Remembers later kept all :=
  fun beyond above => remembers beyond (ordered.trans above)

/-- Stamps up to the cutoff can be taken out of the kept log. -/
theorem prune (remembers : Remembers cutoff kept all) :
    Remembers cutoff (kept.filter fun x => cutoff < x) all := by
  intro beyond above
  rw [countAfter_filter above]
  exact remembers beyond above

/-- A stamp that is added to both logs is remembered. -/
theorem push (remembers : Remembers cutoff kept all) (now : α) :
    Remembers cutoff (kept ++ [now]) (now :: all) := by
  intro beyond above
  rw [countAfter_concat, countAfter_cons]
  exact Nat.add_le_add_right (remembers beyond above) _

/-- A kept log that has no stamps beyond the cutoff can be dropped. -/
theorem drop (remembers : Remembers cutoff kept all) (old : ∀ x ∈ kept, x ≤ cutoff) :
    Remembers cutoff [] all := by
  -- Neither log has anything to count.
  intro beyond above
  apply (remembers beyond above).trans
  rw [countAfter_eq_zero fun x member => (old x member).trans above]
  exact Nat.zero_le _

/-- Beyond the cutoff there are at most as many stamps as are left of the kept log. -/
theorem count_le (remembers : Remembers cutoff kept all) :
    countAfter cutoff all ≤ (kept.filter fun x => cutoff < x).length := by
  -- The stamps left are those that count.
  rw [← List.countP_eq_length_filter]
  exact remembers cutoff le_rfl

end Remembers

/-- A kept log counts just the stamps of the whole one, beyond any cutoff from a given one on. -/
def Agrees (cutoff : α) (kept all : List α) : Prop :=
  ∀ later, cutoff ≤ later → countAfter later kept = countAfter later all

namespace Agrees

variable {cutoff later now : α} {kept all : List α}

/-- Logs that agree from a cutoff on agree from every later one on. -/
theorem mono (agrees : Agrees cutoff kept all) (ordered : cutoff ≤ later) :
    Agrees later kept all :=
  fun beyond above => agrees beyond (ordered.trans above)

/-- Stamps up to the cutoff can be taken out of the kept log. -/
theorem prune (agrees : Agrees cutoff kept all) :
    Agrees cutoff (kept.filter fun x => cutoff < x) all := by
  intro beyond above
  rw [countAfter_filter above, agrees beyond above]

/-- A stamp can be added to both logs. -/
theorem push (agrees : Agrees cutoff kept all) (now : α) :
    Agrees cutoff (kept ++ [now]) (now :: all) := by
  intro beyond above
  rw [countAfter_concat, countAfter_cons _ _ all, agrees beyond above]

/-- A kept log that has no stamps beyond the cutoff can be dropped. -/
theorem drop (agrees : Agrees cutoff kept all) (old : ∀ x ∈ kept, x ≤ cutoff) :
    Agrees cutoff [] all := by
  intro beyond above
  rw [← agrees beyond above, countAfter_eq_zero fun x member => (old x member).trans above]
  rfl

/-- What is left of the kept log is as long as the count beyond the cutoff. -/
theorem length_prune (agrees : Agrees cutoff kept all) :
    (kept.filter fun x => cutoff < x).length = countAfter cutoff all := by
  rw [← agrees cutoff le_rfl, countAfter, List.countP_eq_length_filter]

end Agrees

section Windows

variable [AddCommGroup α] [IsOrderedAddMonoid α] {window now : α} {limit : Nat} {stamps : List α}

/-- How many stamps lie in the window of a given length that ends at an instant. -/
def countWithin (window instant : α) (stamps : List α) : Nat :=
  stamps.countP fun x => instant - window < x ∧ x ≤ instant

/-- No window of a given length has more than a number of stamps in it. -/
def Sparse (window : α) (limit : Nat) (stamps : List α) : Prop :=
  ∀ instant, countWithin window instant stamps ≤ limit

/-- A window without length has no stamps in it. -/
theorem sparse_of_nonpos (empty : window ≤ 0) (limit : Nat) (stamps : List α) :
    Sparse window limit stamps := by
  -- An instant is not before itself.
  intro instant
  have none_within : countWithin window instant stamps = 0 := by
    apply List.countP_eq_zero.mpr
    intro x _ within
    simp only [decide_eq_true_eq] at within
    have ordered : instant ≤ instant - window := le_sub_self_iff instant |>.mpr empty
    exact absurd (lt_of_lt_of_le within.1 within.2) (not_lt_of_ge ordered)
  rw [none_within]
  exact Nat.zero_le limit

/-- A stamp that is no earlier than any other can be added if its own window has room for it. -/
theorem Sparse.push (sparse : Sparse window limit stamps)
    (room : countAfter (now - window) stamps < limit) : Sparse window limit (now :: stamps) := by
  -- Windows that end before the stamp do not see it, and later ones reach back less far.
  intro instant
  rcases lt_or_ge instant now with before | after
  · have unseen : ¬ (instant - window < now ∧ now ≤ instant) := by
      intro within
      exact absurd within.2 (not_le_of_gt before)
    simpa [countWithin, List.countP_cons, unseen] using sparse instant
  · have fewer : countWithin window instant stamps ≤ countAfter (now - window) stamps := by
      apply List.countP_mono_left
      intro x _ within
      simp only [decide_eq_true_eq] at within ⊢
      exact lt_of_le_of_lt (sub_le_sub_right after window) within.1
    have grows : countWithin window instant (now :: stamps) ≤
        countWithin window instant stamps + 1 := by
      simp only [countWithin, List.countP_cons]
      split <;> omega
    omega

omit [IsOrderedAddMonoid α] in
/-- As long as no stamp is in the future, a window has what lies beyond its start. -/
theorem countWithin_eq_countAfter {instant : α} (past : ∀ x ∈ stamps, x ≤ instant) :
    countWithin window instant stamps = countAfter (instant - window) stamps := by
  apply List.countP_congr
  intro x member
  simp [past x member]

/-- A stamp lies in the window that ends with it. -/
theorem countWithin_replicate (long : 0 < window) (instant : α) (n : Nat) (stamps : List α) :
    n ≤ countWithin window instant (List.replicate n instant ++ stamps) := by
  -- Each of the stamps that were put in front is counted.
  have within : instant - window < instant := sub_lt_self instant long
  simp [countWithin, List.countP_append, List.countP_replicate, within]

end Windows

end Machine
