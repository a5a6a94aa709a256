import Mathlib.Data.List.Basic

/-! What can be learnt of the state of a machine from its answers to calls. -/

namespace Machine

variable {σ α β τ : Type*}

/-- The answers to calls that are made one after the other. -/
def answers (respond : σ → α → σ × β) : σ → List α → List β
  | _, [] => []
  | state, call :: rest => (respond state call).2 :: answers respond (respond state call).1 rest

/-- Each call can be made at the instant that the calls before it have led to. -/
def Paced (possible : τ → α → Prop) (advance : τ → α → τ) : τ → List α → Prop
  | _, [] => True
  | instant, call :: rest =>
    possible instant call ∧ Paced possible advance (advance instant call) rest

section Related

variable {respond : σ → α → σ × β} {possible : τ → α → Prop} {advance : τ → α → τ}

/-- States that stay related, and answer the same while they are, answer all calls the same. -/
theorem answers_eq_of_related (related : τ → σ → σ → Prop)
    (kept : ∀ instant state other call, related instant state other → possible instant call →
      (respond state call).2 = (respond other call).2 ∧
        related (advance instant call) (respond state call).1 (respond other call).1)
    {instant : τ} {state other : σ} (initial : related instant state other) {calls : List α}
    (paced : Paced possible advance instant calls) :
    answers respond state calls = answers respond other calls := by
  -- Each call is answered the same and hands the relation on.
  induction calls generalizing instant state other with
  | nil => rfl
  | cons call rest ih =>
    obtain ⟨same, still⟩ := kept instant state other call initial paced.1
    rw [answers, answers, same, ih still paced.2]

/-- A call that can be made again at the instant it leads to can be made any number of times. -/
theorem paced_replicate {instant : τ} {call : α} (now : possible instant call)
    (stays : advance instant call = instant) (count : Nat) :
    Paced possible advance instant (List.replicate count call) := by
  induction count with
  | zero => trivial
  | succ count ih => exact ⟨now, stays.symm ▸ ih⟩

end Related

/--
A call that is granted as long as a budget lasts tells what is left of the budget.

It is enough that the states which are compared belong to those for which this is so.
-/
theorem budget_eq_of_answers {respond : σ → α → σ × β} {call : α} {granted : β}
    (inv : σ → Prop) (budget : σ → Nat)
    (spends : ∀ state, inv state → inv (respond state call).1 ∧
      ((respond state call).2 = granted ↔ 0 < budget state) ∧
      budget (respond state call).1 = budget state - 1)
    {state other : σ} (first : inv state) (second : inv other)
    (same : ∀ count, answers respond state (List.replicate count call) =
      answers respond other (List.replicate count call)) : budget state = budget other := by
  induction left : budget state generalizing state other with
  | zero =>
    -- Nothing is left, which the first answer says of both.
    have answered := List.head_eq_of_cons_eq (same 1)
    have refused := (spends state first).2.1
    rw [answered, (spends other second).2.1] at refused
    omega
  | succ left ih =>
    have answered := List.head_eq_of_cons_eq (same 1)
    have accepted := (spends state first).2.1
    rw [answered, (spends other second).2.1] at accepted
    -- Both have spent one, and go on being compared.
    obtain ⟨kept, _, less⟩ := spends state first
    obtain ⟨kept', _, less'⟩ := spends other second
    have rest := ih kept kept' (fun count => List.tail_eq_of_cons_eq (same (count + 1))) (by omega)
    omega

end Machine
