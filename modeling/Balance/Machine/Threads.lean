import Balance.Machine.Run
import Mathlib.Logic.Function.Basic

/-! Threads that take atomic steps on one shared state, in any order. -/

namespace Machine

variable {σ τ χ : Type*}

/-- A shared state and, for each thread, where it stands in its own code. -/
structure Threads (σ τ : Type*) where
  shared : σ
  frame : Nat → τ

namespace Threads

/-- One thread advances: the label names it and carries the choices made for it. -/
def step (advance : σ → τ → χ → Option (σ × τ)) (world : Threads σ τ) (label : Nat × χ) :
    Option (Threads σ τ) :=
  (advance world.shared (world.frame label.1) label.2).map fun reached =>
    ⟨reached.1, Function.update world.frame label.1 reached.2⟩

variable {advance : σ → τ → χ → Option (σ × τ)} {world next : Threads σ τ}

/-- A step is an advance of one thread that leaves the frames of all others alone. -/
theorem step_eq_some {thread : Nat} {choice : χ} :
    world.step advance (thread, choice) = some next ↔
      ∃ shared frame, advance world.shared (world.frame thread) choice = some (shared, frame) ∧
        next = ⟨shared, Function.update world.frame thread frame⟩ := by
  -- The step is the advance with its result put back into the thread's place.
  simp only [step, Option.map_eq_some_iff, Prod.exists]
  constructor
  · intro given
    rcases given with ⟨shared, frame, advanced, rfl⟩
    exact ⟨shared, frame, advanced, rfl⟩
  · intro given
    rcases given with ⟨shared, frame, advanced, rfl⟩
    exact ⟨shared, frame, advanced, rfl⟩

/-- What is known of every advance is known of the one behind a step. -/
theorem exists_advance {known : σ → τ → χ → σ → τ → Prop}
    (inversion : ∀ {shared : σ} {frame : τ} {choice : χ} {later : σ} {after : τ},
      advance shared frame choice = some (later, after) → known shared frame choice later after)
    {label : Nat × χ} (taken : world.step advance label = some next) :
    ∃ shared after, known world.shared (world.frame label.1) label.2 shared after ∧
      next = ⟨shared, Function.update world.frame label.1 after⟩ := by
  -- The step is an advance of the thread that its label names.
  obtain ⟨shared, after, advanced, same⟩ := step_eq_some.mp taken
  exact ⟨shared, after, inversion advanced, same⟩

/-- What all frames have in common they still have when the mover's new frame has it. -/
theorem forall_frame_update (good : τ → Prop) (all : ∀ thread, good (world.frame thread))
    {mover : Nat} {after : τ} (new : good after) (thread : Nat) :
    good (Function.update world.frame mover after thread) := by
  -- The mover has its new frame, and every other thread its old one.
  by_cases same : thread = mover
  · rw [same, Function.update_self]
    exact new
  · rw [Function.update_of_ne same]
    exact all thread

/-- What is read off the frames changes for the mover only. -/
theorem read_update {α : Type*} (read : τ → α) (world : Threads σ τ) (mover : Nat) (after : τ) :
    (fun thread => read (Function.update world.frame mover after thread)) =
      Function.update (fun thread => read (world.frame thread)) mover (read after) :=
  Function.comp_update read world.frame mover after

/-- What is read off the frames does not change if it does not for the mover. -/
theorem read_update_of_eq {α : Type*} {read : τ → α} {mover : Nat} {after : τ}
    (same : read after = read (world.frame mover)) :
    (fun thread => read (Function.update world.frame mover after thread)) =
      fun thread => read (world.frame thread) := by
  rw [read_update, same]
  exact Function.update_eq_self mover fun thread => read (world.frame thread)

/-- A thread that a run does not name stands where it stood, all along the run. -/
theorem along_bystanders (start : Threads σ τ) {trace : List (Nat × χ)} (named : List Nat)
    (names : ∀ label ∈ trace, label.1 ∈ named) :
    Along (step advance) (fun world _ => ∀ thread, thread ∉ named →
      world.frame thread = start.frame thread) start trace := by
  -- Each step writes the frame of a thread that it names.
  have mentioned : Along (step advance) (fun _ label => label.1 ∈ named) start trace :=
    along_of_forall_mem start fun label member _ => names label member
  refine along_of_invariant (fun world : Threads σ τ => ∀ thread, thread ∉ named →
    world.frame thread = start.frame thread) ?_ ?_ (fun _ _ => rfl) mentioned
  · intro world label next rest within taken thread outside
    obtain ⟨mover, choice⟩ := label
    obtain ⟨shared, frame, _, rfl⟩ := step_eq_some.mp taken
    have differs : thread ≠ mover := by
      intro same
      rw [same] at outside
      exact outside within
    rw [← rest thread outside]
    exact Function.update_of_ne differs _ _
  · intro world label rest _
    exact rest

/-- A thread that runs alone, from a shared state and its own frame. -/
def solo (advance : σ → τ → χ → Option (σ × τ)) : σ × τ → List χ → Option (σ × τ) :=
  exec fun reached choice => advance reached.1 reached.2 choice

/-- Steps of one thread in a row are that thread's solo run, seen by all the others. -/
theorem exec_solo (world : Threads σ τ) (thread : Nat) (choices : List χ) :
    exec (step advance) world (choices.map fun choice => (thread, choice)) =
      (solo advance (world.shared, world.frame thread) choices).map fun reached =>
        ⟨reached.1, Function.update world.frame thread reached.2⟩ := by
  -- Each step overwrites the frame that the step before it has written.
  induction choices generalizing world with
  | nil => simp [solo]
  | cons choice rest ih =>
    cases advanced : advance world.shared (world.frame thread) choice with
    | none => simp [solo, step, advanced]
    | some reached =>
      simp only [List.map_cons, exec_cons, step, solo, advanced, Option.map_some,
        Option.bind_some]
      simpa [solo] using ih ⟨reached.1, Function.update world.frame thread reached.2⟩

/-- Where a thread gets by itself, under a condition on its own steps, the threads together get. -/
theorem leads_solo (world : Threads σ τ) {cond : Threads σ τ → Nat × χ → Prop}
    (own : σ × τ → χ → Prop) {thread : Nat}
    (allows : ∀ (world : Threads σ τ) choice, own (world.shared, world.frame thread) choice →
      cond world (thread, choice))
    {frame : τ} (stands : world.frame thread = frame) {reached : σ × τ}
    (leads : Leads (fun reached choice => advance reached.1 reached.2 choice) own
      (world.shared, frame) reached) :
    Leads (step advance) cond world
      ⟨reached.1, Function.update world.frame thread reached.2⟩ := by
  -- Each step overwrites the frame that the step before it has written.
  subst stands
  obtain ⟨choices, meets, ran⟩ := leads
  induction choices generalizing world with
  | nil =>
    cases ran
    rw [Function.update_eq_self]
    exact .refl world
  | cons choice rest ih =>
    obtain ⟨⟨shared, frame⟩, taken, ran⟩ := exec_cons_eq_some.mp ran
    have moved : world.step advance (thread, choice) =
        some ⟨shared, Function.update world.frame thread frame⟩ :=
      step_eq_some.mpr ⟨shared, frame, taken, rfl⟩
    apply Leads.head _ (allows world choice meets.1) moved
    rw [← Function.update_idem frame reached.2 world.frame]
    apply ih
    · simpa only [Function.update_self] using meets.2 _ taken
    · simpa only [Function.update_self] using ran

/-- Two threads, among others that all stand at one place. -/
def duo (shared : σ) (first second others : τ) : Threads σ τ where
  shared := shared
  frame
    | 0 => first
    | 1 => second
    | _ + 2 => others

/-- Threads of which all but two stand at one place are a duo. -/
theorem eq_duo {world : Threads σ τ} {others : τ}
    (rest : ∀ thread, world.frame (thread + 2) = others) :
    world = duo world.shared (world.frame 0) (world.frame 1) others := by
  -- The two threads are told apart by their numbers.
  have frames : world.frame = (duo world.shared (world.frame 0) (world.frame 1) others).frame := by
    funext thread
    match thread with
    | 0 => rfl
    | 1 => rfl
    | thread + 2 => exact rest thread
  exact congrArg (mk world.shared) frames

section Duo

variable {shared : σ} {first second others : τ} {reached : σ × τ}

/-- Where the first thread gets by itself, it gets next to the second. -/
theorem leads_duo_first
    (leads : Leads (fun reached choice => advance reached.1 reached.2 choice) (fun _ _ => True)
      (shared, first) reached) :
    Leads (step advance) (fun _ _ => True) (duo shared first second others)
      (duo reached.1 reached.2 second others) := by
  -- Writing the frame of the first thread gives another duo.
  have moved : (duo reached.1 reached.2 second others).frame =
      Function.update (duo shared first second others).frame 0 reached.2 := by
    funext thread
    match thread with
    | 0 => rfl
    | 1 => rfl
    | _ + 2 => rfl
  have together : Leads (step advance) (fun _ _ => True) (duo shared first second others)
      ⟨reached.1, Function.update (duo shared first second others).frame 0 reached.2⟩ :=
    leads_solo _ (fun _ _ => True) (fun _ _ _ => trivial) rfl leads
  rw [← moved] at together
  exact together

/-- Where the second thread gets by itself, it gets next to the first. -/
theorem leads_duo_second
    (leads : Leads (fun reached choice => advance reached.1 reached.2 choice) (fun _ _ => True)
      (shared, second) reached) :
    Leads (step advance) (fun _ _ => True) (duo shared first second others)
      (duo reached.1 first reached.2 others) := by
  -- Writing the frame of the second thread gives another duo.
  have moved : (duo reached.1 first reached.2 others).frame =
      Function.update (duo shared first second others).frame 1 reached.2 := by
    funext thread
    match thread with
    | 0 => rfl
    | 1 => rfl
    | _ + 2 => rfl
  have together : Leads (step advance) (fun _ _ => True) (duo shared first second others)
      ⟨reached.1, Function.update (duo shared first second others).frame 1 reached.2⟩ :=
    leads_solo _ (fun _ _ => True) (fun _ _ _ => trivial) rfl leads
  rw [← moved] at together
  exact together

end Duo

/-- What the steps of one thread, and of no other, add to a measure of the shared state. -/
def contribution (advance : σ → τ → χ → Option (σ × τ)) (measure : σ → Int) (thread : Nat) :
    Threads σ τ → List (Nat × χ) → Int
  | _, [] => 0
  | world, label :: rest =>
    match world.step advance label with
    | none => 0
    | some next =>
      (if label.1 = thread then measure next.shared - measure world.shared else 0) +
        contribution advance measure thread next rest

/-- Two measures grow by the same amount exactly when their difference does not change. -/
theorem contribution_eq_iff {first second : σ → Int} {thread : Nat} (world : Threads σ τ)
    (trace : List (Nat × χ)) :
    contribution advance first thread world trace = contribution advance second thread world trace ↔
      contribution advance (fun shared => first shared - second shared) thread world trace = 0 := by
  -- Step by step, what is added to the difference is the difference of what is added.
  have split :
      contribution advance (fun shared => first shared - second shared) thread world trace =
        contribution advance first thread world trace -
          contribution advance second thread world trace := by
    induction trace generalizing world with
    | nil => rfl
    | cons label rest ih =>
      simp only [contribution]
      cases world.step advance label with
      | none => rfl
      | some next =>
        simp only [ih]
        by_cases own : label.1 = thread
        · simp only [if_pos own]
          omega
        · simp only [if_neg own]
          omega
  rw [split]
  omega

/--
A thread settles its accounts, up to the steps that are charged for.

What a step adds to the measure is made up for by what the thread owes before and after it,
except that each charged step adds one that is never made up for.
-/
theorem contribution_settled {measure : σ → Int} {owed : τ → Int} {charged : τ → χ → Bool}
    {inside : τ → Bool} {thread : Nat} (inv : Threads σ τ → Prop)
    (preserved : ∀ world label next, inv world → world.step advance label = some next → inv next)
    (ledger : ∀ world choice next, inv world → inside (world.frame thread) →
      world.step advance (thread, choice) = some next →
      measure next.shared - measure world.shared = owed (next.frame thread) -
        owed (world.frame thread) + if charged (world.frame thread) choice then 1 else 0)
    {start final : Threads σ τ} {trace : List (Nat × χ)} (initial : inv start)
    (within : Along (step advance)
      (fun world label => label.1 = thread → inside (world.frame thread)) start trace)
    (ran : exec (step advance) start trace = some final) :
    ∃ charges : Nat,
      contribution advance measure thread start trace =
        owed (final.frame thread) - owed (start.frame thread) + charges ∧
      (charges = 0 ↔ Along (step advance)
        (fun world label => label.1 = thread → charged (world.frame thread) label.2 = false)
        start trace) := by
  -- The charges of the rest of the run are those of the run, less what its first step is charged.
  induction trace generalizing start with
  | nil =>
    cases ran
    refine ⟨0, ?_, ?_⟩
    · simp [contribution]
    · simp [Along]
  | cons label rest ih =>
    obtain ⟨next, taken, ran⟩ := exec_cons_eq_some.mp ran
    obtain ⟨charges, settled, none_iff⟩ :=
      ih (preserved start label next initial taken) (within.2 next taken) ran
    simp only [contribution, taken, Along, Option.some.injEq, forall_eq']
    obtain ⟨mover, choice⟩ := label
    by_cases own : mover = thread
    · subst own
      have booked := ledger start choice next initial (within.1 rfl) taken
      cases charge : charged (start.frame mover) choice with
      | false =>
        refine ⟨charges, ?_, ?_⟩
        · simp only [charge, Bool.false_eq_true, if_false] at booked
          simp only [if_true]
          omega
        · simp only [none_iff, forall_const, true_and]
      | true =>
        refine ⟨charges + 1, ?_, ?_⟩
        · simp only [charge, if_true] at booked
          simp only [if_true]
          omega
        · simp
    · -- A step of another thread leaves this one where it was.
      obtain ⟨shared, frame, _, rfl⟩ := step_eq_some.mp taken
      refine ⟨charges, ?_, ?_⟩
      · simp only [Function.update_of_ne (Ne.symm own)] at settled
        simp only [if_neg own]
        omega
      · simp only [none_iff, own, false_imp_iff, true_and]

end Threads

end Machine
