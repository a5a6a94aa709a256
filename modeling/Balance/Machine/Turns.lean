import Mathlib.Data.List.Rotate

/-! Calls that are served in turn from a list, going round. -/

namespace Machine

variable {σ α : Type*}

/-- The answers of so many calls in a row. -/
def calls (serve : σ → σ × α) : Nat → σ → List α
  | 0, _ => []
  | n + 1, state => (serve state).2 :: calls serve n (serve state).1

/-- Calls served in turn: from each state on, the answer is where the count of calls points to. -/
structure ServedInTurn (serve : σ → σ × α) (elements : List α) (state : Nat → σ)
    (first last : Nat) : Prop where
  moves : ∀ k, first ≤ k → k < last → (serve (state k)).1 = state (k + 1)
  answers : ∀ k, first ≤ k → k < last →
    some (serve (state k)).2 = elements[k % elements.length]?

variable {serve : σ → σ × α} {elements : List α} {state : Nat → σ}

/-- Calls answer as often as they are made. -/
@[simp] theorem length_calls (serve : σ → σ × α) (n : Nat) (start : σ) :
    (calls serve n start).length = n := by
  induction n generalizing start with
  | zero => rfl
  | succ n ih => simp [calls, ih]

/-- Each call in turn is answered with the element that its number points to. -/
theorem ServedInTurn.getElem?_calls {first n : Nat}
    (turns : ServedInTurn serve elements state first (first + n)) {i : Nat} (within : i < n) :
    (calls serve n (state first))[i]? = elements[(first + i) % elements.length]? := by
  -- The first call is answered at once, and the others are in turn from the next state on.
  induction n generalizing first i with
  | zero => omega
  | succ n ih =>
    cases i with
    | zero =>
      rw [calls, List.getElem?_cons_zero, Nat.add_zero]
      exact turns.answers first (Nat.le_refl first) (by omega)
    | succ i =>
      have later : ServedInTurn serve elements state (first + 1) (first + 1 + n) := by
        constructor
        · intro k begun ended
          exact turns.moves k (by omega) (by omega)
        · intro k begun ended
          exact turns.answers k (by omega) (by omega)
      have shifted : first + 1 + i = first + (i + 1) := by omega
      rw [calls, List.getElem?_cons_succ, turns.moves first (Nat.le_refl first) (by omega),
        ih later (by omega), shifted]

/-- One round of calls goes through the list from where the count points to. -/
theorem ServedInTurn.calls_eq_rotate {first n : Nat}
    (turns : ServedInTurn serve elements state first (first + n)) (round : elements.length = n) :
    calls serve n (state first) = elements.rotate first := by
  -- The lists are compared position by position.
  subst round
  apply List.ext_getElem?
  intro i
  rcases Nat.lt_or_ge i elements.length with within | beyond
  · rw [turns.getElem?_calls within, List.getElem?_rotate within, Nat.add_comm]
  · -- Neither list has anything past one round.
    rw [List.getElem?_eq_none (by simpa using beyond),
      List.getElem?_eq_none (by simpa using beyond)]

/-- In one round of calls every element of the list comes up, as often as it is listed. -/
theorem ServedInTurn.calls_perm {first n : Nat}
    (turns : ServedInTurn serve elements state first (first + n)) (round : elements.length = n) :
    (calls serve n (state first)).Perm elements := by
  rw [turns.calls_eq_rotate round]
  exact List.rotate_perm elements first

end Machine
