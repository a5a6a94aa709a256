import Balance.Go.Time
import Mathlib.Order.Bounds.Basic

/-! Deadlines that are passed on from one context to the next. -/

namespace Balance

open Go

/-- A context, as far as its deadline goes. -/
structure DeadlineContext where
  deadline : Option Int
  deriving DecidableEq, Repr

namespace DeadlineContext

/-- `context.WithDeadline`: a parent that ends sooner keeps its own deadline. -/
def withDeadline (parent : DeadlineContext) (deadline : Int) : DeadlineContext :=
  match parent.deadline with
  | some current => if current < deadline then parent else ⟨some deadline⟩
  | none => ⟨some deadline⟩

/-- `context.WithTimeout`, at a reading of the clock. -/
def withTimeout (parent : DeadlineContext) (timeout now : Int) : DeadlineContext :=
  parent.withDeadline (now + timeout)

/-- `PropagateDeadline`, with its readings of the clock for the time left and for the timeout. -/
def propagateDeadline (parent : DeadlineContext) (timeout looked now : Int) : DeadlineContext :=
  match parent.deadline with
  | some deadline =>
    let remaining := since deadline looked
    if remaining < timeout then parent.withDeadline deadline else parent.withTimeout timeout now
  | none => parent.withTimeout timeout now

/-- A deadline that is closer than the timeout is sooner than the one that the timeout sets. -/
theorem lt_of_since_lt {deadline looked now timeout : Int} (fits : timeout ≤ maxDuration)
    (ordered : looked ≤ now) (less : since deadline looked < timeout) :
    deadline < now + timeout := by
  unfold since at less
  omega

/-- A propagated deadline is the one that a timeout alone would give. -/
theorem propagateDeadline_eq (parent : DeadlineContext) {timeout looked now : Int}
    (fits : timeout ≤ maxDuration) (ordered : looked ≤ now) :
    parent.propagateDeadline timeout looked now = parent.withTimeout timeout now := by
  unfold propagateDeadline
  cases known : parent.deadline with
  | none => rfl
  | some deadline =>
    simp only
    split
    · next less =>
      -- The parent ends sooner, and keeps its deadline in both cases.
      have sooner := lt_of_since_lt fits ordered less
      have same : parent = ⟨some deadline⟩ := by
        rw [← known]
      rw [withTimeout, withDeadline, withDeadline, known]
      simp only [lt_self_iff_false, if_false, if_pos sooner]
      exact same.symm
    · rfl

/-- The deadline of a context with a timeout is the sooner of the two. -/
theorem withTimeout_deadline (parent : DeadlineContext) (timeout now : Int) :
    (parent.withTimeout timeout now).deadline =
      some (match parent.deadline with
        | some current => min current (now + timeout)
        | none => now + timeout) := by
  unfold withTimeout withDeadline
  cases known : parent.deadline with
  | none => rfl
  | some current =>
    simp only
    split
    · next sooner => rw [known, min_eq_left sooner.le]
    · next later => rw [min_eq_right (not_lt.mp later)]

end DeadlineContext

/-- A call that passes its deadline on, with its readings of the clock. -/
structure DeadlineHop where
  timeout : Int
  looked : Int
  now : Int
  -- A timeout fits into a duration, and the clock does not go back.
  fits : timeout ≤ maxDuration
  ordered : looked ≤ now

/-- A call that reads the clock twice within one tick of it. -/
def DeadlineHop.prompt (timeout now : Int) (fits : timeout ≤ maxDuration) : DeadlineHop :=
  ⟨timeout, now, now, fits, Int.le_refl now⟩

namespace DeadlineContext

/-- The context at the end of a chain of calls, each of which passes its deadline on. -/
def propagate (parent : DeadlineContext) (hops : List DeadlineHop) : DeadlineContext :=
  hops.foldl (fun context hop => context.propagateDeadline hop.timeout hop.looked hop.now) parent

/-- The deadline that a chain of calls begins with, and those that its calls ask for. -/
def requested (parent : DeadlineContext) (hops : List DeadlineHop) : Set Int :=
  {deadline | parent.deadline = some deadline ∨ ∃ hop ∈ hops, deadline = hop.now + hop.timeout}

/-- A part of a set that comes as low as the set has the same least element. -/
theorem isLeast_iff_of_subset {part whole : Set Int} (within : part ⊆ whole)
    (below : ∀ high ∈ whole, ∃ low ∈ part, low ≤ high) (least : Int) :
    IsLeast part least ↔ IsLeast whole least := by
  constructor
  · rintro ⟨member, bounds⟩
    refine ⟨within member, ?_⟩
    intro high other
    obtain ⟨low, lower, ordered⟩ := below high other
    exact (bounds lower).trans ordered
  · rintro ⟨member, bounds⟩
    obtain ⟨low, lower, ordered⟩ := below least member
    have same : least = low := le_antisymm (bounds (within lower)) ordered
    rw [same] at bounds ⊢
    exact ⟨lower, fun high other => bounds (within other)⟩

/-- One call replaces the first deadline by the sooner of it and its own. -/
theorem isLeast_requested_cons (parent : DeadlineContext) (hop : DeadlineHop)
    (hops : List DeadlineHop) (deadline : Int) :
    IsLeast (requested (parent.withTimeout hop.timeout hop.now) hops) deadline ↔
      IsLeast (requested parent (hop :: hops)) deadline := by
  -- What the call leaves out of the two is not the least.
  have first := withTimeout_deadline parent hop.timeout hop.now
  apply isLeast_iff_of_subset
  · rintro low (begins | ⟨other, member, rfl⟩)
    · -- The sooner of two deadlines is one of them.
      obtain rfl := Option.some.inj (first.symm.trans begins)
      cases known : parent.deadline with
      | none => exact .inr ⟨hop, List.mem_cons_self, rfl⟩
      | some current =>
        rcases min_choice current (hop.now + hop.timeout) with same | same
        · exact .inl (by rw [known]; exact congrArg some same.symm)
        · exact .inr ⟨hop, List.mem_cons_self, same⟩
    · exact .inr ⟨other, List.mem_cons_of_mem hop member, rfl⟩
  · rintro high (begins | ⟨other, member, rfl⟩)
    · rw [begins] at first
      exact ⟨_, .inl first, min_le_left _ _⟩
    · rcases List.mem_cons.mp member with rfl | later
      · refine ⟨_, .inl first, ?_⟩
        cases parent.deadline with
        | none => exact le_rfl
        | some current => exact min_le_right _ _
      · exact ⟨_, .inr ⟨other, later, rfl⟩, le_rfl⟩

/--
At the end of every chain of calls that pass their deadline on, the deadline is the soonest of the
first one and of all that the calls have asked for.
-/
theorem propagate_deadline_iff (parent : DeadlineContext) (hops : List DeadlineHop)
    (deadline : Int) :
    (parent.propagate hops).deadline = some deadline ↔
      IsLeast (parent.requested hops) deadline := by
  -- The deadline that a call leaves is the first one for the rest of the chain.
  induction hops generalizing parent with
  | nil =>
    constructor
    · intro known
      refine ⟨.inl known, ?_⟩
      rintro other (also | ⟨hop, none, _⟩)
      · exact (Option.some.inj (known.symm.trans also)).le
      · cases none
    · rintro ⟨known | ⟨hop, none, _⟩, _⟩
      · exact known
      · cases none
  | cons hop hops ih =>
    rw [← isLeast_requested_cons, ← ih, propagate, List.foldl_cons,
      propagateDeadline_eq parent hop.fits hop.ordered]
    rfl

/-- A call at a time of two, with a timeout of five. -/
def shortHop : DeadlineHop := .prompt 5 2 (by decide)

/-- A call that comes later and asks for more time. -/
def longHop : DeadlineHop := .prompt 9 3 (by decide)

/-- The second call of a chain is held to the deadline of the first one. -/
theorem propagate_deadline_two :
    (propagate ⟨some 20⟩ [shortHop, longHop]).deadline = some 7 ∧
      IsLeast (requested ⟨some 20⟩ [shortHop, longHop]) 7 :=
  ⟨rfl, (propagate_deadline_iff _ _ _).mp rfl⟩

end DeadlineContext

end Balance
