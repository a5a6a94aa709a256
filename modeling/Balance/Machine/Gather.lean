import Balance.Machine.Run
import Mathlib.Data.List.Basic

/-! Tasks that run at once and send their results over one channel, and a loop that files them. -/

namespace Machine

/-- The tasks that have not sent, what is in the channel, and what has been filed of it. -/
structure Gather (α : Type*) where
  running : List Nat
  channel : List (Nat × α)
  results : List α
  received : Nat

/-- A task sends its result, or the loop receives one. -/
inductive GatherLabel where
  | send (task : Nat)
  | receive
  deriving DecidableEq

namespace Gather

variable {α : Type*} (outcomes : List α)

/-- At first all tasks run, and every place holds the zero value. -/
def start (zero : α) : Gather α where
  running := List.range outcomes.length
  channel := []
  results := List.replicate outcomes.length zero
  received := 0

/--
A task sends its result with its index, and the loop files what comes next.

The channel has room for one result of each task. To file a result outside of the list is a panic.
-/
def step (state : Gather α) : GatherLabel → Option (Gather α)
  | .send task =>
    match outcomes[task]? with
    | some outcome =>
      if task ∈ state.running ∧ state.channel.length < outcomes.length then
        some { state with
          running := state.running.erase task
          channel := state.channel ++ [(task, outcome)] }
      else none
    | none => none
  | .receive =>
    match state.channel with
    | [] => none
    | (task, outcome) :: rest =>
      if state.received < outcomes.length ∧ task < state.results.length then
        some { state with
          channel := rest
          results := state.results.set task outcome
          received := state.received + 1 }
      else none

/-- The loop has received as many results as there are tasks. -/
def Done (state : Gather α) : Prop := state.received = outcomes.length

/-- Every result is still to be sent, or on its way, or filed. -/
structure Holds (state : Gather α) : Prop where
  size : state.results.length = outcomes.length
  valid : ∀ task ∈ state.running, task < outcomes.length
  sent : ∀ message ∈ state.channel, outcomes[message.1]? = some message.2
  covered : ∀ task, task ∈ state.running ∨ task ∈ state.channel.map Prod.fst ∨
    state.results[task]? = outcomes[task]?
  count : state.running.length + state.channel.length + state.received = outcomes.length

variable {outcomes}

/-- At first every result is still to be sent. -/
theorem holds_start (zero : α) : Holds outcomes (start outcomes zero) where
  size := List.length_replicate
  valid := fun _ member => List.mem_range.mp member
  sent := by simp [start]
  covered := by
    intro task
    by_cases inside : task < outcomes.length
    · exact .inl (List.mem_range.mpr inside)
    · right; right
      simp [start, inside]
  count := by simp [start]

/-- What each step does, and when it is taken. -/
theorem step_cases {state next : Gather α} {label : GatherLabel}
    (taken : step outcomes state label = some next) :
    (∃ task outcome, label = .send task ∧ outcomes[task]? = some outcome ∧
      task ∈ state.running ∧ state.channel.length < outcomes.length ∧
      next = { state with
        running := state.running.erase task
        channel := state.channel ++ [(task, outcome)] }) ∨
    ∃ task outcome rest, label = .receive ∧ state.channel = (task, outcome) :: rest ∧
      state.received < outcomes.length ∧ task < state.results.length ∧
      next = { state with
        channel := rest
        results := state.results.set task outcome
        received := state.received + 1 } := by
  -- A step that is not enabled leads nowhere.
  cases label with
  | send task =>
    left
    simp only [step] at taken
    split at taken
    case h_1 outcome found =>
      obtain ⟨⟨runs, room⟩, reached⟩ := Option.ite_none_right_eq_some.mp taken
      exact ⟨task, outcome, rfl, found, runs, room, (Option.some.inj reached).symm⟩
    case h_2 => cases taken
  | receive =>
    right
    simp only [step] at taken
    split at taken
    case h_1 => cases taken
    case h_2 task outcome rest first =>
      obtain ⟨⟨waits, inside⟩, reached⟩ := Option.ite_none_right_eq_some.mp taken
      exact ⟨task, outcome, rest, rfl, first, waits, inside, (Option.some.inj reached).symm⟩

/-- Sending and filing lose no result. -/
theorem Holds.step {state next : Gather α} {label : GatherLabel} (holds : Holds outcomes state)
    (taken : Gather.step outcomes state label = some next) : Holds outcomes next := by
  -- A task moves from running to the channel, or from there to its place.
  have count := holds.count
  rcases step_cases taken with ⟨task, outcome, -, found, runs, -, rfl⟩ |
    ⟨task, outcome, rest, -, first, -, inside, rfl⟩
  · have shorter := List.length_erase_of_mem runs
    have some := List.length_pos_of_mem runs
    refine ⟨holds.size, fun other member => holds.valid other (List.mem_of_mem_erase member), ?_,
      ?_, ?_⟩
    · intro message member
      rcases List.mem_append.mp member with earlier | last
      · exact holds.sent message earlier
      · rw [List.mem_singleton.mp last]
        exact found
    · intro other
      by_cases same : other = task
      · simp [same]
      · rcases holds.covered other with waiting | moving | filed
        · exact .inl ((List.mem_erase_of_ne same).mpr waiting)
        · exact .inr (.inl (by simp only [List.map_append, List.mem_append, moving, true_or]))
        · exact .inr (.inr filed)
    · simp only [List.length_append, List.length_singleton]
      omega
  · -- The result that is filed is the one of the task.
    have right : outcomes[task]? = some outcome := holds.sent (task, outcome) (by simp [first])
    simp only [first, List.length_cons] at count
    refine ⟨by rw [List.length_set, holds.size], holds.valid,
      fun message member => holds.sent message (by simp [first, member]), ?_, ?_⟩
    · intro other
      by_cases same : other = task
      · right; right
        rw [same, List.getElem?_set_self inside, right]
      · rcases holds.covered other with waiting | moving | filed
        · exact .inl waiting
        · rw [first, List.map_cons, List.mem_cons] at moving
          exact .inr (.inl (moving.resolve_left same))
        · right; right
          rw [List.getElem?_set_ne (Ne.symm same), filed]
    · change state.running.length + rest.length + (state.received + 1) = outcomes.length
      omega

/-- After any steps, every result is still to be sent, or on its way, or filed. -/
theorem holds_exec {zero : α} {trace : List GatherLabel} {state : Gather α}
    (ran : exec (step outcomes) (start outcomes zero) trace = some state) :
    Holds outcomes state :=
  exec_invariant (Holds outcomes) (fun _ _ _ holds taken => holds.step taken) (holds_start zero)
    ran

/-- When the loop has ended, each result is in its place, whatever the order was. -/
theorem Holds.results_eq {state : Gather α} (holds : Holds outcomes state)
    (done : state.Done outcomes) : state.results = outcomes := by
  -- With all results received, none is still to be sent or on its way.
  have count := holds.count
  rw [Done] at done
  have idle : state.running = [] := List.eq_nil_of_length_eq_zero (by omega)
  have empty : state.channel = [] := List.eq_nil_of_length_eq_zero (by omega)
  refine List.ext_getElem? ?_
  intro task
  have covered := holds.covered task
  simpa [idle, empty] using covered

/-- No task waits for room in the channel. -/
theorem Holds.send_enabled {state : Gather α} (holds : Holds outcomes state) {task : Nat}
    (runs : task ∈ state.running) :
    ∃ next, Gather.step outcomes state (.send task) = some next := by
  -- Each result in the channel is of another task, so that there is room.
  have count := holds.count
  have some := List.length_pos_of_mem runs
  have inside := holds.valid task runs
  simp only [Gather.step, List.getElem?_eq_getElem inside]
  exact ⟨_, if_pos ⟨runs, by omega⟩⟩

/-- Until the loop has ended, a task can send or the loop can receive. -/
theorem Holds.progress {state : Gather α} (holds : Holds outcomes state)
    (unfinished : ¬ state.Done outcomes) :
    ∃ label next, Gather.step outcomes state label = some next := by
  -- A result that is on its way can be received.
  have count := holds.count
  rw [Done] at unfinished
  rcases first : state.channel with _ | ⟨⟨task, outcome⟩, rest⟩
  · -- Nothing is on its way, so some task has not sent yet.
    rw [first, List.length_nil] at count
    obtain ⟨task, runs⟩ := List.exists_mem_of_length_pos (show 0 < state.running.length by omega)
    exact ⟨.send task, holds.send_enabled runs⟩
  · have right : outcomes[task]? = some outcome := holds.sent (task, outcome) (by simp [first])
    obtain ⟨inside, _⟩ := List.getElem?_eq_some_iff.mp right
    rw [← holds.size] at inside
    refine ⟨.receive, ?_⟩
    simp only [Gather.step, first]
    exact ⟨_, if_pos ⟨by omega, inside⟩⟩

/-- The steps that are left: two for a task that has not sent, one for a result on its way. -/
def remaining (state : Gather α) : Nat := 2 * state.running.length + state.channel.length

/-- Every step leaves one less. -/
theorem remaining_step {state next : Gather α} {label : GatherLabel}
    (taken : step outcomes state label = some next) :
    next.remaining + 1 = state.remaining := by
  -- A task that sends has one step left, and a result that is received none.
  rcases step_cases taken with ⟨task, outcome, -, -, runs, -, rfl⟩ |
    ⟨task, outcome, rest, -, first, -, -, rfl⟩
  · have shorter := List.length_erase_of_mem runs
    have some := List.length_pos_of_mem runs
    simp only [remaining, List.length_append, List.length_singleton]
    omega
  · simp only [remaining, first, List.length_cons]
    omega

/-- No more steps can be taken than two for each task. -/
theorem length_le {zero : α} {trace : List GatherLabel} {state : Gather α}
    (ran : exec (step outcomes) (start outcomes zero) trace = some state) :
    trace.length ≤ 2 * outcomes.length := by
  -- What is left and what was taken add up to what there was.
  have general {first last : Gather α} {labels : List GatherLabel}
      (run : exec (step outcomes) first labels = some last) :
      labels.length + last.remaining = first.remaining := by
    induction labels generalizing first with
    | nil =>
      cases run
      simp
    | cons label rest ih =>
      obtain ⟨next, taken, later⟩ := exec_cons_eq_some.mp run
      have less := remaining_step taken
      have total := ih later
      rw [List.length_cons]
      omega
  have total := general ran
  simp only [remaining, start, List.length_range, List.length_nil] at total
  omega

end Gather

end Machine
