import Mathlib.Data.List.Basic
import Mathlib.Data.List.Induction

/-! Runs of a partial step function whose labels carry every choice of the environment. -/

namespace Machine

variable {σ α : Type*}

/-- Take the labelled steps in order, giving up at the first one that is not enabled. -/
def exec (step : σ → α → Option σ) : σ → List α → Option σ
  | state, [] => some state
  | state, label :: rest => (step state label).bind fun next => exec step next rest

/-- Every step of the run meets a condition on its label and the state it is taken from. -/
def Along (step : σ → α → Option σ) (cond : σ → α → Prop) : σ → List α → Prop
  | _, [] => True
  | state, label :: rest =>
    cond state label ∧ ∀ next, step state label = some next → Along step cond next rest

/-- Whether a condition is met along a run can be found out by taking the run. -/
instance Along.decidable (step : σ → α → Option σ) (cond : σ → α → Prop)
    [∀ state label, Decidable (cond state label)] :
    ∀ state trace, Decidable (Along step cond state trace)
  | _, [] => isTrue trivial
  | state, label :: rest =>
    match taken : step state label with
    | none => decidable_of_iff (cond state label) (by simp [Along, taken])
    | some next =>
      have := Along.decidable step cond next rest
      decidable_of_iff (cond state label ∧ Along step cond next rest) (by simp [Along, taken])

/-- Every state the run passes through is good, its first and last states included. -/
def Always (step : σ → α → Option σ) (good : σ → Prop) : σ → List α → Prop
  | state, [] => good state
  | state, label :: rest =>
    good state ∧ ∀ next, step state label = some next → Always step good next rest

/-- The last observation made along a run, if any of its steps makes one. -/
def lastSeen {β : Type*} (step : σ → α → Option σ) (observe : σ → α → Option β) :
    σ → List α → Option β
  | _, [] => none
  | state, label :: rest =>
    -- Later observations hide earlier ones.
    match step state label with
    | none => none
    | some next => (lastSeen step observe next rest).or (observe state label)

section Exec

variable {step : σ → α → Option σ}

/-- The empty run stays where it is. -/
@[simp] theorem exec_nil (state : σ) : exec step state [] = some state := rfl

/-- A run takes its first step and continues from the state reached. -/
@[simp] theorem exec_cons (state : σ) (label : α) (rest : List α) :
    exec step state (label :: rest) = (step state label).bind fun next => exec step next rest := rfl

/-- A nonempty run consists of an enabled first step and a run of the rest. -/
theorem exec_cons_eq_some {state final : σ} {label : α} {rest : List α} :
    exec step state (label :: rest) = some final ↔
      ∃ next, step state label = some next ∧ exec step next rest = some final := by
  -- A bind yields a state only if both of its parts do.
  simp [Option.bind_eq_some_iff]

/-- Running two label sequences one after the other is running their concatenation. -/
theorem exec_append (state : σ) (first second : List α) :
    exec step state (first ++ second) =
      (exec step state first).bind fun middle => exec step middle second := by
  -- The first sequence is consumed label by label.
  induction first generalizing state with
  | nil => simp
  | cons label rest ih =>
    cases taken : step state label with
    | none => simp [taken]
    | some next => simp [taken, ih]

/-- Two runs that meet in the middle join into one. -/
theorem exec_trans {start middle final : σ} {first second : List α}
    (left : exec step start first = some middle) (right : exec step middle second = some final) :
    exec step start (first ++ second) = some final := by
  -- The joined run passes through the state in the middle.
  rw [exec_append, left]
  exact right

/-- A run that grows by one step at its end takes it from where the rest has led. -/
theorem exec_concat_eq_some {start final : σ} {trace : List α} {label : α} :
    exec step start (trace ++ [label]) = some final ↔
      ∃ middle, exec step start trace = some middle ∧ step middle label = some final := by
  rw [exec_append, Option.bind_eq_some_iff]
  simp

/-- What holds at first, and after each step of what came before, holds after every run. -/
theorem exec_history {start final : σ} {trace : List α} (inv : List α → σ → Prop)
    (initial : inv [] start)
    (kept : ∀ past state label next, exec step start past = some state → inv past state →
      step state label = some next → inv (past ++ [label]) next)
    (ran : exec step start trace = some final) : inv trace final := by
  -- A run grows at its end.
  induction trace using List.reverseRecOn generalizing final with
  | nil =>
    cases ran
    exact initial
  | append_singleton past label ih =>
    obtain ⟨middle, before, taken⟩ := exec_concat_eq_some.mp ran
    exact kept past middle label final before (ih before) taken

/-- A property kept by every step that meets the condition holds at the end of such a run. -/
theorem exec_invariant_along (inv : σ → Prop) {cond : σ → α → Prop}
    (preserved : ∀ state label next, inv state → cond state label →
      step state label = some next → inv next)
    {start final : σ} {trace : List α} (initial : inv start) (meets : Along step cond start trace)
    (ran : exec step start trace = some final) : inv final := by
  -- Each step hands the invariant to the state in which the rest of the run starts.
  induction trace generalizing start with
  | nil =>
    cases ran
    exact initial
  | cons label rest ih =>
    obtain ⟨next, taken, ran⟩ := exec_cons_eq_some.mp ran
    exact ih (preserved start label next initial meets.1 taken) (meets.2 next taken) ran

/-- The trivial condition is met along every run. -/
theorem along_true (start : σ) (trace : List α) : Along step (fun _ _ => True) start trace := by
  -- Nothing is asked of any step.
  induction trace generalizing start with
  | nil => trivial
  | cons label rest ih => exact ⟨trivial, fun next _ => ih next⟩

/-- A property kept by every step holds at the end of every run that starts with it. -/
theorem exec_invariant (inv : σ → Prop)
    (preserved : ∀ state label next, inv state → step state label = some next → inv next)
    {start final : σ} {trace : List α} (initial : inv start)
    (ran : exec step start trace = some final) : inv final :=
  exec_invariant_along inv
    (fun state label next holds _ taken => preserved state label next holds taken)
    initial (along_true start trace) ran

/-- Where an invariant lets every step be taken, every run can be completed within it. -/
theorem exec_total (inv : σ → Prop)
    (taken : ∀ state label, inv state → ∃ next, step state label = some next ∧ inv next)
    {start : σ} (initial : inv start) (trace : List α) :
    ∃ final, exec step start trace = some final ∧ inv final := by
  induction trace generalizing start with
  | nil => exact ⟨start, rfl, initial⟩
  | cons label rest ih =>
    obtain ⟨next, first, holds⟩ := taken start label initial
    obtain ⟨final, ran, reached⟩ := ih holds
    exact ⟨final, exec_cons_eq_some.mpr ⟨next, first, ran⟩, reached⟩

/-- Two conditions are met along a run together exactly when each of them is. -/
theorem along_and {cond other : σ → α → Prop} (start : σ) (trace : List α) :
    Along step (fun state label => cond state label ∧ other state label) start trace ↔
      Along step cond start trace ∧ Along step other start trace := by
  -- The conditions are told apart step by step.
  induction trace generalizing start with
  | nil => simp [Along]
  | cons label rest ih =>
    simp only [Along, ih]
    constructor
    · intro given
      rcases given with ⟨⟨here, there⟩, later⟩
      exact ⟨⟨here, fun next taken => (later next taken).1⟩,
        ⟨there, fun next taken => (later next taken).2⟩⟩
    · intro given
      rcases given with ⟨⟨here, left⟩, ⟨there, right⟩⟩
      exact ⟨⟨here, there⟩, fun next taken => ⟨left next taken, right next taken⟩⟩

/-- A condition that follows from an invariant and another condition is met wherever that one is. -/
theorem along_of_invariant (inv : σ → Prop) {given cond : σ → α → Prop}
    (preserved : ∀ state label next, inv state → given state label →
      step state label = some next → inv next)
    (follows : ∀ state label, inv state → given state label → cond state label)
    {start : σ} {trace : List α} (initial : inv start) (meets : Along step given start trace) :
    Along step cond start trace := by
  -- Each step hands the invariant on, whether or not the run can be completed.
  induction trace generalizing start with
  | nil => trivial
  | cons label rest ih =>
    refine ⟨follows start label initial meets.1, ?_⟩
    intro next taken
    exact ih (preserved start label next initial meets.1 taken) (meets.2 next taken)

/-- A condition met by every label of a trace is met along every run of it. -/
theorem along_of_forall_mem {cond : σ → α → Prop} (start : σ) {trace : List α}
    (meets : ∀ label ∈ trace, ∀ state, cond state label) : Along step cond start trace := by
  -- The state from which a label is taken plays no part.
  induction trace generalizing start with
  | nil => trivial
  | cons label rest ih =>
    refine ⟨meets label List.mem_cons_self start, ?_⟩
    intro next _
    exact ih next fun later member => meets later (List.mem_cons_of_mem label member)

/-- A run of one machine is matched by a run of a machine that simulates it. -/
theorem exec_simulation {τ : Type*} {other : τ → α → Option τ} (rel : σ → τ → Prop)
    (simulates : ∀ state image label next, rel state image → step state label = some next →
      ∃ after, other image label = some after ∧ rel next after)
    {start final : σ} {image : τ} {trace : List α} (related : rel start image)
    (ran : exec step start trace = some final) :
    ∃ reached, exec other image trace = some reached ∧ rel final reached := by
  -- Both runs are followed label by label, and stay related.
  induction trace generalizing start image with
  | nil =>
    cases ran
    exact ⟨image, rfl, related⟩
  | cons label rest ih =>
    obtain ⟨next, taken, ran⟩ := exec_cons_eq_some.mp ran
    obtain ⟨after, matched, kept⟩ := simulates start image label next related taken
    obtain ⟨reached, later, still⟩ := ih kept ran
    exact ⟨reached, exec_cons_eq_some.mpr ⟨after, matched, later⟩, still⟩

/-- A condition met along a run of one machine carries over to a machine that it simulates. -/
theorem along_simulation {τ : Type*} {other : τ → α → Option τ} (rel : σ → τ → Prop)
    {cond : σ → α → Prop} {otherCond : τ → α → Prop}
    (simulates : ∀ state image label next, rel state image → step state label = some next →
      ∃ after, other image label = some after ∧ rel next after)
    (transfers : ∀ state image label, rel state image → otherCond image label → cond state label)
    {start : σ} {image : τ} {trace : List α} (related : rel start image)
    (meets : Along other otherCond image trace) : Along step cond start trace := by
  -- Both runs are followed label by label, and stay related.
  induction trace generalizing start image with
  | nil => trivial
  | cons label rest ih =>
    refine ⟨transfers start image label related meets.1, ?_⟩
    intro next taken
    obtain ⟨after, matched, kept⟩ := simulates start image label next related taken
    exact ih kept (meets.2 after matched)

/-- Two conditions that agree at every step out of a state of the run are met along it together. -/
theorem along_congr (inv : σ → Prop) {cond other : σ → α → Prop}
    (preserved : ∀ state label next, inv state → step state label = some next → inv next)
    (agree : ∀ state label next, inv state → step state label = some next →
      (cond state label ↔ other state label))
    {start final : σ} {trace : List α} (initial : inv start)
    (ran : exec step start trace = some final) :
    Along step cond start trace ↔ Along step other start trace := by
  -- The run fixes the state from which each label is taken.
  induction trace generalizing start with
  | nil => exact Iff.rfl
  | cons label rest ih =>
    obtain ⟨next, taken, ran⟩ := exec_cons_eq_some.mp ran
    simp only [Along, taken, Option.some.injEq, forall_eq']
    rw [agree start label next initial taken, ih (preserved start label next initial taken) ran]

/-- What always holds along a run holds where it starts. -/
theorem Always.head {good : σ → Prop} {start : σ} {trace : List α}
    (always : Always step good start trace) : good start := by
  cases trace with
  | nil => exact always
  | cons _ _ => exact always.1

/--
A run stays good exactly when each of its steps meets the condition.

It is enough that the condition decides, at one step out of a good state, whether the next is good.
-/
theorem always_iff_along (inv : σ → Prop) {good : σ → Prop} {cond : σ → α → Prop}
    (preserved : ∀ state label next, inv state → step state label = some next → inv next)
    (decides : ∀ state label next, inv state → good state → step state label = some next →
      (good next ↔ cond state label))
    {start final : σ} {trace : List α} (initial : inv start) (fine : good start)
    (ran : exec step start trace = some final) :
    Always step good start trace ↔ Along step cond start trace := by
  -- The induction keeps both the invariant and the goodness of the state reached so far.
  induction trace generalizing start with
  | nil => simp [Always, Along, fine]
  | cons label rest ih =>
    obtain ⟨next, taken, ran⟩ := exec_cons_eq_some.mp ran
    have kept := preserved start label next initial taken
    have decided := decides start label next initial fine taken
    simp only [Always, Along, taken, Option.some.injEq, forall_eq']
    constructor
    · intro given
      rcases given with ⟨_, later⟩
      have reached : good next := by
        cases rest with
        | nil => exact later
        | cons _ _ => exact later.1
      exact ⟨decided.mp reached, (ih kept reached ran).mp later⟩
    · intro given
      rcases given with ⟨met, later⟩
      exact ⟨fine, (ih kept (decided.mpr met) ran).mpr later⟩

/--
A property that, once lost, is never regained holds at the end of a run exactly when it held
at the start and each step has kept it.
-/
theorem exec_iff_along_of_invariant (inv : σ → Prop) {good : σ → Prop} {cond : σ → α → Prop}
    (preserved : ∀ state label next, inv state → step state label = some next → inv next)
    (decides : ∀ state label next, inv state → step state label = some next →
      (good next ↔ good state ∧ cond state label))
    {start final : σ} {trace : List α} (initial : inv start)
    (ran : exec step start trace = some final) :
    good final ↔ good start ∧ Along step cond start trace := by
  -- The run fixes the state from which each label is taken.
  induction trace generalizing start with
  | nil =>
    cases ran
    simp [Along]
  | cons label rest ih =>
    obtain ⟨next, taken, ran⟩ := exec_cons_eq_some.mp ran
    simp only [Along, taken, Option.some.injEq, forall_eq']
    rw [ih (preserved start label next initial taken) ran,
      decides start label next initial taken, and_assoc]

/-- The same, if no invariant is needed to decide it. -/
theorem exec_iff_along {good : σ → Prop} {cond : σ → α → Prop}
    (decides : ∀ state label next, step state label = some next →
      (good next ↔ good state ∧ cond state label))
    {start final : σ} {trace : List α} (ran : exec step start trace = some final) :
    good final ↔ good start ∧ Along step cond start trace :=
  exec_iff_along_of_invariant (fun _ => True) (fun _ _ _ _ _ => trivial)
    (fun state label next _ => decides state label next) trivial ran

/-- A condition is met along two runs in a row exactly when it is met along each of them. -/
theorem along_append {cond : σ → α → Prop} {start middle : σ} {first second : List α}
    (ran : exec step start first = some middle) :
    Along step cond start (first ++ second) ↔
      Along step cond start first ∧ Along step cond middle second := by
  -- The steps of the first run are taken off one by one.
  induction first generalizing start with
  | nil =>
    cases ran
    simp [Along]
  | cons label rest ih =>
    obtain ⟨next, taken, ran⟩ := exec_cons_eq_some.mp ran
    simp only [List.cons_append, Along, taken, Option.some.injEq, forall_eq']
    rw [ih ran, and_assoc]

/-- One state leads to another by steps that meet a condition. -/
def Leads (step : σ → α → Option σ) (cond : σ → α → Prop) (start final : σ) : Prop :=
  ∃ trace, Along step cond start trace ∧ exec step start trace = some final

/-- Every state leads to itself. -/
theorem Leads.refl {cond : σ → α → Prop} (state : σ) : Leads step cond state state :=
  ⟨[], trivial, rfl⟩

/-- A step that meets the condition leads on from where it starts. -/
theorem Leads.head {cond : σ → α → Prop} {start next final : σ} (label : α)
    (met : cond start label) (taken : step start label = some next)
    (later : Leads step cond next final) : Leads step cond start final := by
  -- The step is put in front of the run.
  obtain ⟨trace, meets, ran⟩ := later
  refine ⟨label :: trace, ⟨met, ?_⟩, exec_cons_eq_some.mpr ⟨next, taken, ran⟩⟩
  intro reached also
  obtain rfl : next = reached := Option.some.inj (taken.symm.trans also)
  exact meets

/-- What leads to a state leads to where that state leads. -/
theorem Leads.trans {cond : σ → α → Prop} {start middle final : σ}
    (left : Leads step cond start middle) (right : Leads step cond middle final) :
    Leads step cond start final := by
  -- The two runs are put together.
  obtain ⟨first, before, ran⟩ := left
  obtain ⟨second, after, reached⟩ := right
  exact ⟨first ++ second, (along_append ran).mpr ⟨before, after⟩, exec_trans ran reached⟩

/-- Where steps lead, they still lead if another machine takes them under other names. -/
theorem Leads.relabel {β : Type*} {other : σ → β → Option σ} {cond : σ → α → Prop}
    {allowed : σ → β → Prop} (name : α → β)
    (same : ∀ state label, other state (name label) = step state label)
    (allows : ∀ state label, cond state label → allowed state (name label)) {start final : σ}
    (leads : Leads step cond start final) : Leads other allowed start final := by
  -- The steps are renamed one by one.
  obtain ⟨trace, meets, ran⟩ := leads
  induction trace generalizing start with
  | nil =>
    cases ran
    exact .refl _
  | cons label rest ih =>
    obtain ⟨next, taken, later⟩ := exec_cons_eq_some.mp ran
    exact .head (name label) (allows start label meets.1) ((same start label).trans taken)
      (ih (meets.2 next taken) later)

/-- A condition on steps that upholds a property, and that no single step can do without. -/
structure Guards (step : σ → α → Option σ) (cond : σ → α → Prop) (good : σ → Prop) (start : σ) :
    Prop where
  /-- Wherever steps that meet the condition lead, the property holds. -/
  keeps : ∀ final, Leads step cond start final → good final
  /-- A step from there leaves only good states to come exactly if it meets the condition too. -/
  sharp : ∀ state label next, Leads step cond start state → step state label = some next →
    ((∀ final, Leads step cond next final → good final) ↔ cond state label)

/--
A condition guards a property if it keeps an invariant that gives the property, and if a step
that does not meet it leads to a state without the property.
-/
theorem guards_of_invariant (inv : σ → Prop) {cond : σ → α → Prop} {good : σ → Prop}
    (preserved : ∀ state label next, inv state → cond state label →
      step state label = some next → inv next)
    (sound : ∀ state, inv state → good state)
    (strays : ∀ state label next, inv state → step state label = some next →
      ¬ cond state label → ∃ final, Leads step cond next final ∧ ¬ good final)
    {start : σ} (initial : inv start) : Guards step cond good start := by
  -- The invariant is carried along every run that meets the condition.
  have carried {first final : σ} (holds : inv first) (leads : Leads step cond first final) :
      inv final := by
    obtain ⟨trace, meets, ran⟩ := leads
    exact exec_invariant_along inv preserved holds meets ran
  constructor
  · intro final leads
    exact sound final (carried initial leads)
  · intro state label next leads taken
    have holds := carried initial leads
    constructor
    · intro fine
      by_contra unmet
      obtain ⟨final, later, bad⟩ := strays state label next holds taken unmet
      exact bad (fine final later)
    · intro met final later
      exact sound final (carried (preserved state label next holds met taken) later)

/-- A relation between the state and the last observation survives every run. -/
theorem exec_lastSeen {β : Type*} {observe : σ → α → Option β} (rel : σ → Option β → Prop)
    (preserved : ∀ state label next seen, rel state seen → step state label = some next →
      rel next ((observe state label).or seen))
    {start final : σ} {trace : List α} {seen : Option β} (initial : rel start seen)
    (ran : exec step start trace = some final) :
    rel final ((lastSeen step observe start trace).or seen) := by
  -- What the first step shows is kept until a later step shows something else.
  induction trace generalizing start seen with
  | nil =>
    cases ran
    exact initial
  | cons label rest ih =>
    obtain ⟨next, taken, ran⟩ := exec_cons_eq_some.mp ran
    have reached := ih (preserved start label next seen initial taken) ran
    rw [← Option.or_assoc] at reached
    simpa only [lastSeen, taken] using reached

/-- Every run from a state comes to an end, and where it ends the result holds. -/
inductive Ends (step : σ → α → Option σ) (result : σ → Prop) : σ → Prop
  | here {state : σ} (stuck : ∀ label, step state label = none) (holds : result state) :
      Ends step result state
  | next {state : σ} {label : α} {other : σ} (possible : step state label = some other)
      (all : ∀ label next, step state label = some next → Ends step result next) :
      Ends step result state

/-- A weaker result holds too where runs end. -/
theorem Ends.mono {result weaker : σ → Prop} (implies : ∀ state, result state → weaker state)
    {state : σ} (ends : Ends step result state) : Ends step weaker state := by
  induction ends with
  | here stuck holds => exact .here stuck (implies _ holds)
  | next possible _ ih => exact .next possible ih

/-- If every run ends, some run does. -/
theorem Ends.exists_run {result : σ → Prop} {state : σ} (ends : Ends step result state) :
    ∃ trace final, exec step state trace = some final ∧ result final := by
  induction ends with
  | here _ holds => exact ⟨[], _, rfl, holds⟩
  | @next _ label other possible _ ih =>
    obtain ⟨trace, final, ran, holds⟩ := ih label other possible
    exact ⟨label :: trace, final, exec_cons_eq_some.mpr ⟨other, possible, ran⟩, holds⟩

/-- A run that can go on for ever does not end. -/
theorem not_ends_of_invariant {result : σ → Prop} (inv : σ → Prop)
    (progress : ∀ state, inv state → ∃ label next, step state label = some next ∧ inv next)
    {start : σ} (initial : inv start) : ¬ Ends step result start := by
  intro ends
  -- Each step of the run leads to a state that has a step again.
  induction ends with
  | here stuck _ =>
    obtain ⟨label, next, taken, _⟩ := progress _ initial
    rw [stuck label] at taken
    cases taken
  | next _ _ ih =>
    obtain ⟨label, next, taken, kept⟩ := progress _ initial
    exact ih label next taken kept

end Exec

/--
What a part of the state shows after a run depends on the events that are its own only.

Other events do not change what it shows, and its own change it in a way that it decides alone.
-/
theorem foldl_view {ν : Type*} {apply : σ → α → σ} {view : σ → ν} {own : α → Bool}
    {legal : α → Prop} (inv : σ → Prop)
    (preserved : ∀ state event, inv state → legal event → inv (apply state event))
    (silent : ∀ state event, inv state → legal event → own event = false →
      view (apply state event) = view state)
    (congruent : ∀ state other event, inv state → inv other → legal event → own event = true →
      view state = view other → view (apply state event) = view (apply other event))
    {state other : σ} (left : inv state) (right : inv other) (same : view state = view other)
    {events : List α} (all : ∀ event ∈ events, legal event) :
    view (events.foldl apply state) = view ((events.filter own).foldl apply other) := by
  -- The second run leaves out the events of others, one by one.
  induction events generalizing state other with
  | nil => exact same
  | cons event rest ih =>
    have legal := all event List.mem_cons_self
    have later : ∀ event ∈ rest, _ := fun event member =>
      all event (List.mem_cons_of_mem _ member)
    have kept := preserved state event left legal
    cases mine : own event with
    | true =>
      rw [List.filter_cons_of_pos mine, List.foldl_cons, List.foldl_cons]
      exact ih kept (preserved other event right legal)
        (congruent state other event left right legal mine same) later
    | false =>
      rw [List.filter_cons_of_neg (by simp [mine]), List.foldl_cons]
      exact ih kept right ((silent state event left legal mine).trans same) later

end Machine
