import Balance.Go.Order
import Balance.Machine.Run

/-! Loops over a map whose body changes the map. -/

namespace Go

open Machine

/-- A loop over a map, with the keys that it has produced and those that it still has to. -/
structure Ranging (κ ν : Type*) where
  contents : κ → Option ν
  -- Only keys that have an entry, since one that is made anew may be produced again.
  produced : List κ
  -- The keys that have had an entry from the start and have not been produced.
  due : List κ

namespace Ranging

variable {κ ν : Type*} [DecidableEq κ] (body : (κ → Option ν) → κ → κ → Option ν)
  {original : κ → Option ν}

/-- At first all keys are due. -/
def start (scan : Scan original) : Ranging κ ν := ⟨original, [], scan.order⟩

/--
The loop goes on with any key that it has not produced.

An entry that is removed before it is reached is not produced, and one that is made may be or not.
-/
def step (state : Ranging κ ν) (key : κ) : Option (Ranging κ ν) :=
  if (state.contents key).isSome ∧ key ∉ state.produced then
    let contents := body state.contents key
    some {
      contents := contents
      produced := (key :: state.produced).filter fun other => (contents other).isSome
      due := (state.due.erase key).filter fun other => (contents other).isSome }
  else none

/-- The loop may produce the keys in this order, and then end with these contents. -/
def Ends (scan : Scan original) (order : List κ) (final : κ → Option ν) : Prop :=
  ∃ state, exec (step body) (start scan) order = some state ∧ state.due = [] ∧
    state.contents = final

/-- The body removes no entry but the one that it is at. -/
def Spares : Prop :=
  ∀ contents key other, other ≠ key → (contents other).isSome → (body contents key other).isSome

/-- The keys that are due are those of the start that have not been produced. -/
structure Due (original : κ → Option ν) (order : List κ) (state : Ranging κ ν) : Prop where
  once : state.due.Nodup
  due : ∀ key, key ∈ state.due ↔ (original key).isSome ∧ key ∉ order
  present : ∀ key ∈ state.due, (state.contents key).isSome
  produced : ∀ key ∈ state.produced, key ∈ order

variable {body} {scan : Scan original} {order : List κ} {state next : Ranging κ ν} {key : κ}

/-- A step produces a key that has an entry and was not produced before. -/
theorem step_eq_some : step body state key = some next ↔
    ((state.contents key).isSome ∧ key ∉ state.produced) ∧
      next = {
        contents := body state.contents key
        produced := (key :: state.produced).filter fun other =>
          (body state.contents key other).isSome
        due := (state.due.erase key).filter fun other =>
          (body state.contents key other).isSome } := by
  rw [step, Option.ite_none_right_eq_some, Option.some.injEq, eq_comm (a := next)]

omit [DecidableEq κ] in
/-- At the start all keys are due. -/
theorem due_start (scan : Scan original) : Due original [] (start scan) where
  once := scan.once
  due := by simp [start, scan.registered]
  present := fun key member => (scan.registered key).mp member
  produced := by simp [start]

/-- Producing a key makes it the one that is no longer due. -/
theorem Due.step (spares : Spares body) (due : Due original order state)
    (taken : Ranging.step body state key = some next) : Due original (order ++ [key]) next := by
  -- The body spares all keys that are due, so that only the one it is at goes.
  obtain ⟨_, rfl⟩ := step_eq_some.mp taken
  have spared {other : κ} (member : other ∈ state.due.erase key) :
      (body state.contents key other).isSome := by
    have differs : other ≠ key := fun same => due.once.not_mem_erase (same ▸ member)
    exact spares _ key other differs (due.present other (List.mem_of_mem_erase member))
  refine ⟨(due.once.erase key).filter _, ?_, ?_, ?_⟩
  · intro other
    rw [List.mem_filter, and_iff_left_of_imp spared, due.once.mem_erase_iff, due.due]
    simp only [List.mem_append, List.mem_singleton, not_or]
    tauto
  · intro other member
    exact (List.mem_filter.mp member).2
  · intro other member
    rcases List.mem_cons.mp (List.mem_filter.mp member).1 with rfl | earlier
    · simp
    · exact List.mem_append_left _ (due.produced other earlier)

/-- After any keys have been produced, the others of the start are due. -/
theorem due_exec (spares : Spares body)
    (ran : exec (step body) (start scan) order = some state) : Due original order state := by
  -- The keys are produced one after the other, and the last one is looked at.
  refine exec_history (Due original) (due_start scan) ?_ ran
  intro past before key next _ due taken
  exact due.step spares taken

/-- Keys of the start can be produced in any order, each of them once. -/
theorem exists_exec (spares : Spares body) (scan : Scan original) (once : order.Nodup)
    (present : ∀ key ∈ order, (original key).isSome) :
    ∃ state, exec (step body) (start scan) order = some state := by
  -- A key that has not been produced is due, and what is due can be produced.
  induction order using List.reverseRecOn with
  | nil => exact ⟨_, rfl⟩
  | append_singleton order key ih =>
    obtain ⟨before, ran⟩ := ih (List.nodup_append.mp once).1
      fun other member => present other (List.mem_append_left _ member)
    have due := due_exec spares ran
    have fresh : key ∉ order := fun member =>
      (List.nodup_append.mp once).2.2 key member key (by simp) rfl
    have waits : key ∈ before.due := (due.due key).mpr ⟨present key (by simp), fresh⟩
    have allowed : (before.contents key).isSome ∧ key ∉ before.produced :=
      ⟨due.present key waits, mt (due.produced key) fresh⟩
    exact ⟨_, exec_concat_eq_some.mpr ⟨before, ran, step_eq_some.mpr ⟨allowed, rfl⟩⟩⟩

/-- The loop may produce the keys of the start in any order, and then end. -/
theorem exists_ends (spares : Spares body) (perm : order.Perm scan.order) :
    ∃ final, Ends body scan order final := by
  -- All keys have been produced, so that none is due.
  have listed (key : κ) : key ∈ order ↔ (original key).isSome := by
    rw [perm.mem_iff, scan.registered]
  obtain ⟨state, ran⟩ := exists_exec spares scan (perm.nodup_iff.mpr scan.once)
    fun key member => (listed key).mp member
  refine ⟨state.contents, state, ran, ?_, rfl⟩
  rw [List.eq_nil_iff_forall_not_mem]
  intro key waits
  obtain ⟨present, fresh⟩ := ((due_exec spares ran).due key).mp waits
  exact fresh ((listed key).mpr present)

end Ranging

end Go
