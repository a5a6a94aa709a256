import Mathlib.Data.List.Basic
import Mathlib.Data.List.Chain

/-! Histories read from their end: runs of one kind, counts, switches, what stands, changes. -/

namespace Machine

section Fold

variable {σ α : Type*}

/-- What holds at first, and after each step of what came before, holds after every history. -/
theorem foldl_history {step : σ → α → σ} {start : σ} (inv : List α → σ → Prop)
    (initial : inv [] start)
    (kept : ∀ history state label, inv history state → inv (history ++ [label]) (step state label))
    (history : List α) : inv history (history.foldl step start) := by
  -- A history grows at its end.
  induction history using List.reverseRecOn with
  | nil => exact initial
  | append_singleton history label ih =>
    rw [List.foldl_append]
    exact kept history _ label ih

/-- What no step changes is unchanged after every history. -/
theorem foldl_unchanged {β : Type*} {step : σ → α → σ} (view : σ → β)
    (kept : ∀ state label, view (step state label) = view state) (start : σ) (history : List α) :
    view (history.foldl step start) = view start :=
  foldl_history (fun _ state => view state = view start) rfl
    (fun _ state label same => (kept state label).trans same) history

/-- The steps of a history, each with the state that it was taken from. -/
def trace (step : σ → α → σ) : σ → List α → List (σ × α)
  | _, [] => []
  | state, label :: rest => (state, label) :: trace step (step state label) rest

/-- The last step is taken from the state that the others have led to. -/
theorem trace_concat (step : σ → α → σ) (start : σ) (history : List α) (label : α) :
    trace step start (history ++ [label]) =
      trace step start history ++ [(history.foldl step start, label)] := by
  induction history generalizing start with
  | nil => rfl
  | cons first rest ih => simp [trace, ih]

/-- What holds at first, and after each step of what the trace was before, holds of every trace. -/
theorem foldl_trace {step : σ → α → σ} {start : σ} (inv : List (σ × α) → σ → Prop)
    (initial : inv [] start)
    (kept : ∀ past state label, inv past state → inv (past ++ [(state, label)]) (step state label))
    (history : List α) : inv (trace step start history) (history.foldl step start) := by
  -- A trace grows at its end, with the state before the last step.
  induction history using List.reverseRecOn with
  | nil => exact initial
  | append_singleton history label ih =>
    rw [trace_concat, List.foldl_append]
    exact kept _ _ label ih

end Fold

section Trailing

variable {α : Type*} (kind : α → Bool)

/-- How many elements at the end of a history are of one kind. -/
def trailing (history : List α) : Nat := (history.reverse.takeWhile kind).length

/-- At first there are none. -/
@[simp] theorem trailing_nil : trailing kind [] = 0 := rfl

/-- One more of the kind lengthens the run, and any other ends it. -/
@[simp] theorem trailing_concat (history : List α) (last : α) :
    trailing kind (history ++ [last]) =
      if kind last = true then trailing kind history + 1 else 0 := by
  rw [trailing, List.reverse_concat, List.takeWhile_cons]
  split
  · rw [List.length_cons, trailing]
  · rfl

/-- What ends with elements of the kind has at least that many. -/
theorem le_trailing {past recent : List α} (alike : ∀ element ∈ recent, kind element = true) :
    recent.length ≤ trailing kind (past ++ recent) := by
  have reversed : ∀ element ∈ recent.reverse, kind element = true := fun element member =>
    alike element (List.mem_reverse.mp member)
  rw [trailing, List.reverse_append, List.takeWhile_append_of_pos reversed, List.length_append,
    List.length_reverse]
  exact Nat.le_add_right _ _

/-- The elements of a history that count, of those since the last one that starts anew, latest
first. -/
def elementsSince (anew counts : α → Bool) (history : List α) : List α :=
  (history.reverse.takeWhile fun element => !anew element).filter counts

/-- At first there is nothing that counts. -/
@[simp] theorem elementsSince_nil (anew counts : α → Bool) : elementsSince anew counts [] = [] :=
  rfl

/-- All is forgotten, or the last element is added if it counts. -/
@[simp] theorem elementsSince_concat (anew counts : α → Bool) (history : List α) (last : α) :
    elementsSince anew counts (history ++ [last]) =
      if anew last = true then []
      else if counts last = true then last :: elementsSince anew counts history
      else elementsSince anew counts history := by
  -- The elements are read from the end to the first one that starts anew.
  rw [elementsSince, List.reverse_concat, List.takeWhile_cons]
  by_cases fresh : anew last = true
  · simp [fresh]
  · by_cases counted : counts last = true <;> simp [fresh, counted, elementsSince]

/-- What counts is in the history. -/
theorem mem_of_mem_elementsSince {anew counts : α → Bool} {history : List α} {element : α}
    (member : element ∈ elementsSince anew counts history) : element ∈ history := by
  have listed := List.takeWhile_prefix _ |>.subset (List.mem_filter.mp member).1
  exact List.mem_reverse.mp listed

/-- Leaving out elements that neither count nor start anew makes no difference. -/
theorem elementsSince_filter {anew counts keep : α → Bool}
    (kept : ∀ element, anew element = true ∨ counts element = true → keep element = true)
    (history : List α) :
    elementsSince anew counts (history.filter keep) = elementsSince anew counts history := by
  induction history using List.reverseRecOn with
  | nil => rfl
  | append_singleton history last ih =>
    rw [List.filter_append, elementsSince_concat]
    rcases left : keep last with _ | _
    · have stale : anew last = false := by
        by_contra fresh
        simp [kept last (.inl (by simpa using fresh))] at left
      have unseen : counts last = false := by
        by_contra counted
        simp [kept last (.inr (by simpa using counted))] at left
      simp [left, stale, unseen, ih]
    · rw [List.filter_singleton, left, cond_true, elementsSince_concat, ih]

/-- How many elements of a history count, of those since the last one that starts anew. -/
def countSince (anew counts : α → Bool) (history : List α) : Nat :=
  ((history.reverse.takeWhile fun element => !anew element).filter counts).length

/-- At first there is nothing to count. -/
@[simp] theorem countSince_nil (anew counts : α → Bool) : countSince anew counts [] = 0 := rfl

/-- The count starts anew, or goes up by one for an element that counts. -/
@[simp] theorem countSince_concat (anew counts : α → Bool) (history : List α) (last : α) :
    countSince anew counts (history ++ [last]) =
      if anew last = true then 0
      else if counts last = true then countSince anew counts history + 1
      else countSince anew counts history := by
  -- What is counted are the elements since the last one that starts anew.
  have length (history : List α) :
      countSince anew counts history = (elementsSince anew counts history).length := rfl
  rw [length, length, elementsSince_concat]
  split
  · rfl
  · split <;> rfl

end Trailing

section Latched

variable {α : Type*} {set clear : List α → Prop}

/-- At some point of a history a switch was set, and at no later point it was cleared. -/
def Latched (set clear : List α → Prop) (history : List α) : Prop :=
  ∃ point, point <+: history ∧ set point ∧
    ∀ later, point <+: later → later ≠ point → later <+: history → ¬clear later

/-- At first, the switch is as it is set at once. -/
theorem latched_nil : Latched set clear [] ↔ set [] := by
  constructor
  · rintro ⟨point, early, on, _⟩
    rwa [List.prefix_nil.mp early] at on
  · intro on
    refine ⟨[], List.prefix_refl [], on, ?_⟩
    intro later _ other early
    exact absurd (List.prefix_nil.mp early) other

/-- Each event sets the switch, or leaves it as it was unless the event clears it. -/
theorem latched_concat {history : List α} {last : α} :
    Latched set clear (history ++ [last]) ↔
      set (history ++ [last]) ∨ Latched set clear history ∧ ¬clear (history ++ [last]) := by
  -- The point where the switch was set is the whole history, or lies within the part before.
  constructor
  · rintro ⟨point, early, on, uncleared⟩
    rcases List.prefix_concat_iff.mp early with rfl | earlier
    · exact .inl on
    · right
      refine ⟨⟨point, earlier, on, ?_⟩, ?_⟩
      · intro later after other before
        exact uncleared later after other (before.trans (List.prefix_append _ _))
      · -- The whole history is a later point than the one where the switch was set.
        refine uncleared _ early ?_ (List.prefix_refl _)
        rintro rfl
        have longer := earlier.length_le
        rw [List.length_append, List.length_singleton] at longer
        omega
  · rintro (on | ⟨⟨point, earlier, on, uncleared⟩, kept⟩)
    · refine ⟨_, List.prefix_refl _, on, ?_⟩
      intro later after other before
      exact absurd (before.eq_of_length_le after.length_le) other
    · refine ⟨point, earlier.trans (List.prefix_append _ _), on, ?_⟩
      intro later after other before
      rcases List.prefix_concat_iff.mp before with rfl | inside
      · exact kept
      · exact uncleared later after other inside

end Latched

section Standing

variable {α : Type*} {ends : α → Prop} {history : List α} {element last : α}

/-- An element of a history after which nothing has ended what it began. -/
def Standing (ends : α → Prop) (history : List α) (element : α) : Prop :=
  ∃ earlier later, history = earlier ++ element :: later ∧ ∀ event ∈ later, ¬ ends event

/-- At first nothing stands. -/
@[simp] theorem not_standing_nil : ¬ Standing ends [] element := by
  rintro ⟨earlier, later, split, _⟩
  simp at split

/-- The last element stands, and so does what stood before unless the last one ends it. -/
theorem standing_concat : Standing ends (history ++ [last]) element ↔
    element = last ∨ Standing ends history element ∧ ¬ ends last := by
  -- What comes after the element is nothing, or ends with the last element.
  constructor
  · rintro ⟨earlier, later, split, kept⟩
    rcases List.eq_nil_or_concat' later with rfl | ⟨front, final, rfl⟩
    · exact .inl (List.singleton_injective (List.append_inj' split rfl).2).symm
    · right
      rw [← List.cons_append, ← List.append_assoc] at split
      obtain ⟨rest, same⟩ := List.append_inj' split rfl
      obtain rfl := List.singleton_injective same
      exact ⟨⟨earlier, front, rest, fun event listed => kept event (by simp [listed])⟩,
        kept last (by simp)⟩
  · rintro (rfl | ⟨⟨earlier, later, rfl, kept⟩, stays⟩)
    · exact ⟨history, [], rfl, by simp⟩
    · refine ⟨earlier, later ++ [last], by simp, ?_⟩
      intro event listed
      rcases List.mem_append.mp listed with before | here
      · exact kept event before
      · rwa [List.mem_singleton.mp here]

/-- Leaving out elements that end nothing makes no difference to what stands. -/
theorem standing_filter {keep : α → Bool} (kept : keep element)
    (harmless : ∀ event, ends event → keep event) :
    Standing ends (history.filter keep) element ↔ Standing ends history element := by
  -- An element that is left out is not the one in question, and ends nothing.
  induction history using List.reverseRecOn with
  | nil => simp
  | append_singleton history last ih =>
    rw [List.filter_append, standing_concat]
    rcases left : keep last with _ | _
    · have other : element ≠ last := fun same => by simp [same, left] at kept
      have ending : ¬ ends last := fun ended => by simp [harmless last ended] at left
      simp [left, ih, other, ending]
    · rw [List.filter_singleton, left, cond_true, standing_concat, ih]

end Standing

section Changes

variable {α : Type*} [DecidableEq α]

/-- The steps of a sequence at which it changes, each with the values before and after. -/
def changes : List α → List (α × α)
  | first :: second :: rest =>
    if first = second then changes (second :: rest) else (first, second) :: changes (second :: rest)
  | _ => []

/-- The first change is from the first value. -/
theorem changes_head {first : α} {rest : List α} {change : α × α}
    (found : (changes (first :: rest)).head? = some change) : change.1 = first := by
  -- Equal values in front are no change.
  induction rest generalizing first with
  | nil => cases found
  | cons second rest ih =>
    rw [changes] at found
    split at found
    · rename_i same
      rw [ih found, same]
    · cases found
      rfl

/-- Each change goes on from where the one before it ended. -/
theorem changes_chain (values : List α) :
    (changes values).IsChain fun earlier later => earlier.2 = later.1 := by
  -- Between two changes the value stays as it is.
  induction values with
  | nil => exact .nil
  | cons first rest ih =>
    cases rest with
    | nil => exact .nil
    | cons second rest =>
      rw [changes]
      split
      · exact ih
      · rw [List.isChain_cons]
        refine ⟨?_, ih⟩
        intro later next
        exact (changes_head (by simpa using next)).symm

end Changes

end Machine
