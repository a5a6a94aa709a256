import Balance.Lb.Affinity
import Balance.Machine.Threads

/-! Concurrent requests of one client, and whether its session keeps them together. -/

namespace Balance

open Machine

/-- Where a goroutine stands in `SelectWithClientIP`. -/
inductive AffinityFrame where
  | idle
  /-- A valid session has been found, and its use is to be recorded. -/
  | touching (clientIP : List UInt8) (p : Nat)
  /-- There was no valid session. -/
  | missed (clientIP : List UInt8)
  /-- A backend has been selected, and the session is to be stored. -/
  | storing (clientIP : List UInt8) (b : Nat)
  | returned (clientIP : List UInt8) (answer : Option Nat)
  deriving DecidableEq

/-- The next section of a goroutine, with what it reads from outside. -/
inductive AffinityChoice (ε : Type*) where
  | lookup (clientIP : List UInt8) (now : Int)
  | touch (now : Int)
  | select (input : ε)
  | store (now : Int)
  /-- A call of `Select`, which asks the balancer and no session. -/
  | plain (input : ε)

/-- What the balancer is asked with, if a section asks it. -/
def AffinityChoice.input {ε : Type*} : AffinityChoice ε → Option ε
  | .select input => some input
  | .plain input => some input
  | _ => none

/-- Goroutines that call the methods of one wrapper. -/
abbrev AffinityCalls (β : Type*) := Threads (SessionAffinity β) AffinityFrame

namespace AffinityCalls

variable {β ε : Type*} (balance : ε → β → β × Option Nat) (heap : BackendHeap)

/-- One section of a call, over a balancer that answers by its state and some input. -/
def advance : SessionAffinity β → AffinityFrame → AffinityChoice ε →
    Option (SessionAffinity β × AffinityFrame)
  | sa, .idle, .lookup clientIP now =>
    match sa.lookup heap clientIP now with
    | some p => some (sa, .touching clientIP p)
    | none => some (sa, .missed clientIP)
  | sa, .touching clientIP p, .touch now =>
    some (sa.touch p now, .returned clientIP (some (sa.table p).backend))
  | sa, .missed clientIP, .select input =>
    match (balance input sa.balancer).2 with
    | some b => some (sa.withBalancer (balance input sa.balancer).1, .storing clientIP b)
    | none => some (sa.withBalancer (balance input sa.balancer).1, .returned clientIP none)
  | sa, .storing clientIP b, .store now =>
    some (sa.store clientIP b now, .returned clientIP (some b))
  | sa, .idle, .plain input => some (sa.withBalancer (balance input sa.balancer).1, .idle)
  | _, _, _ => none

/-- One goroutine takes the next section of its call. -/
def step (calls : AffinityCalls β) (label : Nat × AffinityChoice ε) : Option (AffinityCalls β) :=
  Threads.step (advance balance heap) calls label

/-- All calls that have returned for a client have returned the same. -/
def Agree (clientIP : List UInt8) (calls : AffinityCalls β) : Prop :=
  ∀ first second answer other, calls.frame first = .returned clientIP answer →
    calls.frame second = .returned clientIP other → answer = other

/-- No lookup for a client finds its session expired. -/
def Unexpired (clientIP : List UInt8) (calls : AffinityCalls β) (label : Nat × AffinityChoice ε) :
    Prop :=
  match label.2 with
  | .lookup other now => other = clientIP → ∀ p, calls.shared.sessions clientIP = some p →
      Go.since now (calls.shared.table p).lastAccess < calls.shared.timeout
  | _ => True

/-- No lookup for a client misses while another call is about to store its session. -/
def Serial (clientIP : List UInt8) (calls : AffinityCalls β) (label : Nat × AffinityChoice ε) : Prop :=
  match label.2 with
  | .lookup other now => other = clientIP → calls.shared.lookup heap clientIP now = none →
      ∀ thread, calls.frame thread ≠ .missed clientIP ∧
        ∀ b, calls.frame thread ≠ .storing clientIP b
  | _ => True

/-- The state of the balancer after some selections. -/
def after (balancer : β) (inputs : List ε) : β :=
  inputs.foldl (fun balancer input => (balance input balancer).1) balancer

/-- In any sequence of selections, all answers are that of the first. -/
def Steady (balancer : β) : Prop :=
  ∀ first between last,
    (balance last (after balance balancer (first :: between))).2 = (balance first balancer).2

/-- Every selection gives a healthy backend. -/
def Reliable (balancer : β) : Prop :=
  ∀ inputs input, ∃ b, (balance input (after balance balancer inputs)).2 = some b ∧
    heap.isHealthy b = true

/-- A client has a session with a healthy backend. -/
def Live (clientIP : List UInt8) (sa : SessionAffinity β) : Prop :=
  ∃ p, sa.sessions clientIP = some p ∧ heap.isHealthy (sa.table p).backend = true

/-- What one section does, told apart by what it finds. -/
inductive Moves (sa : SessionAffinity β) :
    AffinityFrame → AffinityChoice ε → SessionAffinity β → AffinityFrame → Prop where
  | hit {clientIP : List UInt8} {now : Int} {p : Nat} (found : sa.lookup heap clientIP now = some p) :
    Moves sa .idle (.lookup clientIP now) sa (.touching clientIP p)
  | miss {clientIP : List UInt8} {now : Int} (absent : sa.lookup heap clientIP now = none) :
    Moves sa .idle (.lookup clientIP now) sa (.missed clientIP)
  | touch {clientIP : List UInt8} {now : Int} {p : Nat} :
    Moves sa (.touching clientIP p) (.touch now) (sa.touch p now)
      (.returned clientIP (some (sa.table p).backend))
  | chosen {clientIP : List UInt8} {input : ε} {b : Nat}
    (answer : (balance input sa.balancer).2 = some b) :
    Moves sa (.missed clientIP) (.select input) (sa.withBalancer (balance input sa.balancer).1)
      (.storing clientIP b)
  | refused {clientIP : List UInt8} {input : ε} (answer : (balance input sa.balancer).2 = none) :
    Moves sa (.missed clientIP) (.select input) (sa.withBalancer (balance input sa.balancer).1)
      (.returned clientIP none)
  | store {clientIP : List UInt8} {now : Int} {b : Nat} :
    Moves sa (.storing clientIP b) (.store now) (sa.store clientIP b now)
      (.returned clientIP (some b))
  | plain {input : ε} :
    Moves sa .idle (.plain input) (sa.withBalancer (balance input sa.balancer).1) .idle

variable {balance heap} {calls next : AffinityCalls β} {clientIP : List UInt8}

/-- Every section does one of these. -/
theorem advance_moves {sa reached : SessionAffinity β} {frame result : AffinityFrame}
    {choice : AffinityChoice ε}
    (advanced : advance balance heap sa frame choice = some (reached, result)) :
    Moves balance heap sa frame choice reached result := by
  -- A frame allows the sections that its place in the code has.
  cases frame with
  | idle =>
    cases choice with
    | lookup other now =>
      simp only [advance] at advanced
      split at advanced
      · rename_i found
        cases advanced
        exact .hit found
      · rename_i absent
        cases advanced
        exact .miss absent
    | plain input =>
      cases advanced
      exact .plain
    | _ => cases advanced
  | touching other p =>
    cases choice with
    | touch now =>
      cases advanced
      exact .touch
    | _ => cases advanced
  | missed other =>
    cases choice with
    | select input =>
      simp only [advance] at advanced
      split at advanced
      · rename_i answer
        cases advanced
        exact .chosen answer
      · rename_i answer
        cases advanced
        exact .refused answer
    | _ => cases advanced
  | storing other b =>
    cases choice with
    | store now =>
      cases advanced
      exact .store
    | _ => cases advanced
  | returned other answer => cases choice <;> cases advanced

end AffinityCalls

namespace SessionAffinity

variable {β : Type*} {sa reached : SessionAffinity β}

/-- Sessions stay at their addresses, and bound to their backends. -/
structure Extends (sa reached : SessionAffinity β) : Prop where
  fresh : sa.fresh ≤ reached.fresh
  backend : ∀ p, p < sa.fresh → (reached.table p).backend = (sa.table p).backend

/-- Using a session again leaves it bound to its backend. -/
theorem extends_touch (sa : SessionAffinity β) (p : Nat) (now : Int) :
    sa.Extends (sa.touch p now) := by
  -- Only the time of its last use is written.
  refine ⟨le_refl _, ?_⟩
  intro q _
  by_cases same : q = p
  · simp [touch, same]
  · simp [touch, same]

/-- A new session gets an address of its own. -/
theorem extends_store (sa : SessionAffinity β) (clientIP : List UInt8) (b : Nat) (now : Int) :
    sa.Extends (sa.store clientIP b now) := by
  refine ⟨Nat.le_succ _, ?_⟩
  intro q before
  simp [store, before.ne]

end SessionAffinity

namespace AffinityCalls

variable {β ε : Type*} {balance : ε → β → β × Option Nat} {heap : BackendHeap}
  {calls next : AffinityCalls β} {clientIP : List UInt8}

/-- No section moves a session or binds it to another backend. -/
theorem Moves.extends {sa reached : SessionAffinity β} {frame result : AffinityFrame}
    {choice : AffinityChoice ε} (moves : Moves balance heap sa frame choice reached result) :
    sa.Extends reached := by
  -- Sessions are only ever used again or added.
  cases moves with
  | hit found => exact ⟨le_refl _, fun _ _ => rfl⟩
  | miss absent => exact ⟨le_refl _, fun _ _ => rfl⟩
  | touch => exact SessionAffinity.extends_touch _ _ _
  | chosen answer => exact ⟨le_refl _, fun _ _ => rfl⟩
  | refused answer => exact ⟨le_refl _, fun _ _ => rfl⟩
  | store => exact SessionAffinity.extends_store _ _ _ _
  | plain => exact ⟨le_refl _, fun _ _ => rfl⟩

/-- What a call for a client has in hand is the answer that has been decided on. -/
def Carries (decided : Option (Option Nat)) (clientIP : List UInt8) (sa : SessionAffinity β) :
    AffinityFrame → Prop
  | .touching other p =>
    other = clientIP → p < sa.fresh ∧ decided = some (some (sa.table p).backend)
  | .storing other b => other = clientIP → decided = some (some b)
  | .returned other answer => other = clientIP → decided = some answer
  | _ => True

/-- All calls for a client, and its session, have the answer that has been decided on. -/
structure Sticks (heap : BackendHeap) (decided : Option (Option Nat)) (clientIP : List UInt8)
    (calls : AffinityCalls β) : Prop where
  frames : ∀ thread, Carries decided clientIP calls.shared (calls.frame thread)
  session : ∀ p, calls.shared.sessions clientIP = some p →
    heap.isHealthy (calls.shared.table p).backend = true →
    decided = some (some (calls.shared.table p).backend)

variable {decided : Option (Option Nat)}

/-- Calls that stick to an answer agree. -/
theorem Sticks.agree (sticks : Sticks heap decided clientIP calls) : Agree clientIP calls := by
  -- There is only one answer that has been decided on.
  intro first second answer other left right
  have one := sticks.frames first
  have two := sticks.frames second
  rw [left] at one
  rw [right] at two
  exact Option.some.inj ((one rfl).symm.trans (two rfl))

/-- A call keeps what it has in hand while others move, once that is decided on. -/
theorem Carries.extend {sa reached : SessionAffinity β} {frame : AffinityFrame}
    {later : Option (Option Nat)} (carries : Carries decided clientIP sa frame)
    (kept : ∀ answer, decided = some answer → later = some answer)
    (extended : sa.Extends reached) : Carries later clientIP reached frame := by
  -- Only a session that is to be touched is read again.
  cases frame with
  | idle => trivial
  | missed other => trivial
  | touching other p =>
    intro same
    obtain ⟨before, answer⟩ := carries same
    rw [extended.backend p before]
    exact ⟨lt_of_lt_of_le before extended.fresh, kept _ answer⟩
  | storing other b =>
    intro same
    exact kept _ (carries same)
  | returned other answer =>
    intro same
    exact kept _ (carries same)

/--
A step sticks to the answer, if the balancer gives it to whoever asks for this client.

The answer may be decided on by this very step.
-/
theorem Sticks.step {thread : Nat} {choice : AffinityChoice ε} {later : Option (Option Nat)}
    (sticks : Sticks heap decided clientIP calls)
    (kept : ∀ answer, decided = some answer → later = some answer)
    (answers : ∀ input, choice = .select input → calls.frame thread = .missed clientIP →
      later = some (balance input calls.shared.balancer).2)
    (taken : AffinityCalls.step balance heap calls (thread, choice) = some next) :
    Sticks heap later clientIP next := by
  -- The mover aside, sessions keep their backends and calls what they have in hand.
  obtain ⟨reached, result, advanced, rfl⟩ := Threads.step_eq_some.mp taken
  have moves := advance_moves advanced
  have extended := moves.extends
  have bystanders (other : Nat) := (sticks.frames other).extend kept extended
  have mine := sticks.frames thread
  generalize stands : calls.frame thread = frame at moves mine answers
  constructor
  · -- The others have what they had, and the mover has found or decided on something.
    refine Threads.forall_frame_update (Carries later clientIP reached) bystanders ?_
    cases moves with
    | hit found =>
      intro same
      obtain ⟨filed, _, healthy⟩ := SessionAffinity.lookup_eq_some.mp found
      rw [same] at filed
      exact ⟨calls.shared.allocated _ _ filed, kept _ (sticks.session _ filed healthy)⟩
    | miss absent => trivial
    | touch =>
      intro same
      exact kept _ (mine same).2
    | @chosen other input b answer =>
      intro same
      rw [answers input rfl (by rw [same]), answer]
    | @refused other input answer =>
      intro same
      rw [answers input rfl (by rw [same]), answer]
    | store =>
      intro same
      exact kept _ (mine same)
    | plain => trivial
  · -- The session is an old one, or what a call for this client had selected.
    intro p found healthy
    have old (before : calls.shared.sessions clientIP = some p) :
        later = some (some (reached.table p).backend) := by
      have backend := extended.backend p (calls.shared.allocated _ _ before)
      simp only at healthy
      rw [backend] at healthy ⊢
      exact kept _ (sticks.session p before healthy)
    cases moves with
    | @store other now b =>
      by_cases same : clientIP = other
      · simp only [SessionAffinity.store, same, Function.update_self] at found
        cases found
        simpa [SessionAffinity.store] using kept _ (mine same.symm)
      · simp only [SessionAffinity.store, Function.update_of_ne same] at found
        exact old found
    | _ => exact old found

/-- The balancer remembers what it has been asked. -/
theorem Moves.balancer {sa reached : SessionAffinity β} {frame result : AffinityFrame}
    {choice : AffinityChoice ε} (moves : Moves balance heap sa frame choice reached result) :
    reached.balancer = after balance sa.balancer choice.input.toList := by
  cases moves <;> rfl

/-- Asking the balancer some more. -/
theorem after_append (balancer : β) (inputs more : List ε) :
    after balance balancer (inputs ++ more) = after balance (after balance balancer inputs) more :=
  List.foldl_append

/-- The answer to the first of some selections. -/
def firstAnswer (balance : ε → β → β × Option Nat) (balancer : β) (inputs : List ε) :
    Option (Option Nat) :=
  inputs.head?.map fun first => (balance first balancer).2

/-- More selections leave the first answer as it is. -/
theorem firstAnswer_append {balancer : β} {inputs : List ε} {answer : Option Nat}
    (first : firstAnswer balance balancer inputs = some answer) (more : List ε) :
    firstAnswer balance balancer (inputs ++ more) = some answer := by
  cases inputs with
  | nil => cases first
  | cons head rest => exact first

/-- A steady balancer gives its first answer to everyone. -/
theorem Steady.firstAnswer {balancer : β} (steady : Steady balance balancer) (inputs : List ε)
    (input : ε) :
    firstAnswer balance balancer (inputs ++ [input]) =
      some (balance input (after balance balancer inputs)).2 := by
  -- The first selection of all may be this one.
  cases inputs with
  | nil => rfl
  | cons first between => exact congrArg some (steady first between input).symm

/-- All calls stick to the first answer of the balancer. -/
def Follows (balance : ε → β → β × Option Nat) (heap : BackendHeap) (balancer : β)
    (clientIP : List UInt8) (calls : AffinityCalls β) : Prop :=
  ∃ inputs, calls.shared.balancer = after balance balancer inputs ∧
    Sticks heap (firstAnswer balance balancer inputs) clientIP calls

/-- Over a steady balancer, every step sticks to the first answer. -/
theorem Follows.step {balancer : β} (steady : Steady balance balancer)
    {label : Nat × AffinityChoice ε} (follows : Follows balance heap balancer clientIP calls)
    (taken : AffinityCalls.step balance heap calls label = some next) :
    Follows balance heap balancer clientIP next := by
  -- What the step asks the balancer comes behind what it has been asked before.
  obtain ⟨inputs, asked, sticks⟩ := follows
  obtain ⟨thread, choice⟩ := label
  obtain ⟨reached, result, advanced, shape⟩ := Threads.step_eq_some.mp taken
  refine ⟨inputs ++ choice.input.toList, ?_, ?_⟩
  · rw [shape, after_append, ← asked]
    exact (advance_moves advanced).balancer
  · refine sticks.step (fun answer first => firstAnswer_append first _) ?_ taken
    intro input selects _
    rw [selects, asked]
    exact steady.firstAnswer inputs input

/-- A client has a session that is bound to a backend. -/
def BoundTo (clientIP : List UInt8) (b : Nat) (sa : SessionAffinity β) : Prop :=
  ∃ p, sa.sessions clientIP = some p ∧ (sa.table p).backend = b

/-- An answer has been decided on, and nobody is about to ask for another. -/
structure Settled (heap : BackendHeap) (b : Nat) (clientIP : List UInt8) (calls : AffinityCalls β) :
    Prop where
  sticks : Sticks heap (some (some b)) clientIP calls
  healthy : heap.isHealthy b = true
  quiet : ∀ thread, calls.frame thread ≠ .missed clientIP

variable {b thread : Nat} {choice : AffinityChoice ε}

/-- A settled answer stays settled while lookups find it. -/
theorem Settled.step (settled : Settled heap b clientIP calls)
    (finds : ∀ now, choice = .lookup clientIP now → calls.shared.lookup heap clientIP now ≠ none)
    (taken : AffinityCalls.step balance heap calls (thread, choice) = some next) :
    Settled heap b clientIP next := by
  -- Nobody asks the balancer, since nobody has missed or misses now.
  refine ⟨?_, settled.healthy, ?_⟩
  · refine settled.sticks.step (fun answer same => same) ?_ taken
    intro input _ missed
    exact absurd missed (settled.quiet thread)
  · obtain ⟨reached, result, advanced, rfl⟩ := Threads.step_eq_some.mp taken
    have moves := advance_moves advanced
    refine Threads.forall_frame_update (fun frame => frame ≠ AffinityFrame.missed clientIP)
      settled.quiet ?_
    generalize calls.frame thread = frame at moves
    cases moves with
    | @miss other now absent =>
      intro same
      cases same
      exact finds now rfl absent
    | _ => nofun

/-- A session stays bound to the answer that its client's calls stick to. -/
theorem BoundTo.step (bound : BoundTo clientIP b calls.shared)
    (sticks : Sticks heap (some (some b)) clientIP calls)
    (taken : AffinityCalls.step balance heap calls (thread, choice) = some next) :
    BoundTo clientIP b next.shared := by
  -- Whatever takes the place of the session is bound to the same backend.
  obtain ⟨p, filed, backend⟩ := bound
  obtain ⟨reached, result, advanced, rfl⟩ := Threads.step_eq_some.mp taken
  have moves := advance_moves advanced
  have kept := moves.extends.backend p (calls.shared.allocated _ _ filed)
  rw [backend] at kept
  have mine := sticks.frames thread
  generalize calls.frame thread = frame at moves mine
  cases moves with
  | @store other now selected =>
    by_cases same : clientIP = other
    · have answer := Option.some.inj (Option.some.inj (mine same.symm))
      exact ⟨calls.shared.fresh, by simp [SessionAffinity.store, same],
        by simp [SessionAffinity.store, answer]⟩
    · exact ⟨p, by simp [SessionAffinity.store, same, filed], kept⟩
  | _ => exact ⟨p, filed, kept⟩

/-- A lookup that finds the session unexpired finds a healthy backend's session. -/
theorem BoundTo.lookup (bound : BoundTo clientIP b calls.shared) (healthy : heap.isHealthy b = true)
    (unexpired : Unexpired clientIP calls (thread, choice)) (now : Int)
    (looks : choice = .lookup clientIP now) : calls.shared.lookup heap clientIP now ≠ none := by
  -- The session is neither expired nor bound to a backend out of rotation.
  obtain ⟨p, filed, backend⟩ := bound
  rw [looks] at unexpired
  have found : calls.shared.lookup heap clientIP now = some p :=
    SessionAffinity.lookup_eq_some.mpr ⟨filed, unexpired rfl p filed, backend ▸ healthy⟩
  rw [found]
  exact Option.some_ne_none p

/-- A backend that is about to be stored is stored, or still about to be. -/
theorem storing_step {other : Nat} (waits : calls.frame other = .storing clientIP b)
    (taken : AffinityCalls.step balance heap calls (thread, choice) = some next) :
    BoundTo clientIP b next.shared ∨ next.frame other = .storing clientIP b := by
  -- The call waits until it is the one that moves.
  obtain ⟨reached, result, advanced, rfl⟩ := Threads.step_eq_some.mp taken
  have moves := advance_moves advanced
  by_cases same : other = thread
  · rw [← same, waits] at moves
    cases moves
    exact .inl ⟨calls.shared.fresh, by simp [SessionAffinity.store],
      by simp [SessionAffinity.store]⟩
  · exact .inr ((Function.update_of_ne same _ _).trans waits)

/-- Nothing has been decided on, and at most one call is about to ask the balancer. -/
structure Waiting (heap : BackendHeap) (clientIP : List UInt8) (calls : AffinityCalls β) : Prop where
  sticks : Sticks heap none clientIP calls
  alone : ∀ first second, calls.frame first = .missed clientIP →
    calls.frame second = .missed clientIP → first = second

/-- The calls for a client take turns. -/
def InTurn (balance : ε → β → β × Option Nat) (heap : BackendHeap) (balancer : β)
    (clientIP : List UInt8) (calls : AffinityCalls β) : Prop :=
  (∃ inputs, calls.shared.balancer = after balance balancer inputs) ∧
    (Waiting heap clientIP calls ∨ ∃ b, Settled heap b clientIP calls ∧
      (BoundTo clientIP b calls.shared ∨ ∃ thread, calls.frame thread = .storing clientIP b))

/-- The one call that asks a reliable balancer settles the answer. -/
theorem Waiting.asks {balancer : β} (reliable : Reliable balance heap balancer) {inputs : List ε}
    (asked : calls.shared.balancer = after balance balancer inputs)
    (waiting : Waiting heap clientIP calls) (asks : calls.frame thread = .missed clientIP)
    (taken : AffinityCalls.step balance heap calls (thread, choice) = some next) :
    ∃ b, Settled heap b clientIP next ∧ next.frame thread = .storing clientIP b := by
  -- A reliable balancer answers with a healthy backend.
  obtain ⟨reached, result, advanced, rfl⟩ := Threads.step_eq_some.mp taken
  have moves := advance_moves advanced
  rw [asks] at moves
  generalize missed : AffinityFrame.missed clientIP = frame at moves
  cases moves with
  | @chosen other input b answer =>
    cases missed
    obtain ⟨selected, gives, healthy⟩ := reliable inputs input
    rw [← asked, answer] at gives
    obtain rfl := Option.some.inj gives
    refine ⟨b, ⟨?_, healthy, ?_⟩, Function.update_self _ _ _⟩
    · refine waiting.sticks.step nofun ?_ taken
      intro same selects _
      cases selects
      rw [answer]
    · -- Whoever else had missed would be this very call.
      intro other
      by_cases same : other = thread
      · rw [same]
        simp
      · intro missed
        simp only [Function.update_of_ne same] at missed
        exact same (waiting.alone other thread missed asks)
  | @refused other input answer =>
    obtain ⟨selected, gives, _⟩ := reliable inputs input
    rw [← asked, answer] at gives
    cases gives
  | _ => cases missed

/-- Before the balancer is asked, calls that take turns leave at most one that will ask it. -/
theorem Waiting.step (waiting : Waiting heap clientIP calls)
    (idle : calls.frame thread ≠ .missed clientIP)
    (serial : Serial heap clientIP calls (thread, choice))
    (taken : AffinityCalls.step balance heap calls (thread, choice) = some next) :
    Waiting heap clientIP next := by
  -- A call that misses now is the only one that has.
  refine ⟨waiting.sticks.step nofun (fun _ _ missed => absurd missed idle) taken, ?_⟩
  obtain ⟨reached, result, advanced, rfl⟩ := Threads.step_eq_some.mp taken
  have moves := advance_moves advanced
  by_cases asks : result = .missed clientIP
  · -- Nobody else has missed at this moment.
    have nobody (other : Nat) : calls.frame other ≠ .missed clientIP := by
      subst asks
      generalize calls.frame thread = frame at moves
      cases moves with
      | miss absent => exact (serial rfl absent other).1
    have only {other : Nat}
        (missed : Function.update calls.frame thread result other = .missed clientIP) :
        other = thread := by
      by_contra differs
      rw [Function.update_of_ne differs] at missed
      exact nobody other missed
    intro first second left right
    exact (only left).trans (only right).symm
  · have before {other : Nat}
        (missed : Function.update calls.frame thread result other = .missed clientIP) :
        calls.frame other = .missed clientIP := by
      by_cases same : other = thread
      · rw [same, Function.update_self] at missed
        exact absurd missed asks
      · rwa [Function.update_of_ne same] at missed
    intro first second left right
    exact waiting.alone first second (before left) (before right)

/-- Calls that take turns go on doing so. -/
theorem InTurn.step {balancer : β} (reliable : Reliable balance heap balancer)
    {label : Nat × AffinityChoice ε} (inTurn : InTurn balance heap balancer clientIP calls)
    (unexpired : Unexpired clientIP calls label) (serial : Serial heap clientIP calls label)
    (taken : AffinityCalls.step balance heap calls label = some next) :
    InTurn balance heap balancer clientIP next := by
  -- The balancer is asked by the first call that misses, and found out by all others.
  obtain ⟨⟨inputs, asked⟩, phase⟩ := inTurn
  obtain ⟨thread, choice⟩ := label
  constructor
  · obtain ⟨reached, result, advanced, rfl⟩ := Threads.step_eq_some.mp taken
    refine ⟨inputs ++ choice.input.toList, ?_⟩
    rw [after_append, ← asked]
    exact (advance_moves advanced).balancer
  · rcases phase with waiting | ⟨b, settled, held⟩
    · by_cases asks : calls.frame thread = .missed clientIP
      · obtain ⟨b, settled, stores⟩ := waiting.asks reliable asked asks taken
        exact .inr ⟨b, settled, .inr ⟨thread, stores⟩⟩
      · exact .inl (waiting.step asks serial taken)
    · refine .inr ⟨b, settled.step ?_ taken, ?_⟩
      · -- Who misses would have to wait for a session that is about to be stored.
        intro now looks absent
        rcases held with bound | ⟨other, stores⟩
        · exact bound.lookup settled.healthy unexpired now looks absent
        · subst looks
          exact (serial rfl absent other).2 b stores
      · rcases held with bound | ⟨other, stores⟩
        · exact .inl (bound.step settled.sticks taken)
        · rcases storing_step stores taken with bound | stores
          · exact .inl bound
          · exact .inr ⟨other, stores⟩

/-- A call for a client without a live session can miss. -/
theorem leads_missed (absent : ¬Live heap clientIP calls.shared)
    (idle : calls.frame thread = .idle) :
    Leads (AffinityCalls.step balance heap) (Unexpired clientIP) calls
      ⟨calls.shared, Function.update calls.frame thread (.missed clientIP)⟩ := by
  -- A session that is left over from before is looked at when it was last used.
  let now := (calls.shared.sessions clientIP).elim 0 fun p => (calls.shared.table p).lastAccess
  have misses : calls.shared.lookup heap clientIP now = none := by
    apply Option.eq_none_iff_forall_ne_some.mpr
    intro p found
    obtain ⟨filed, _, healthy⟩ := SessionAffinity.lookup_eq_some.mp found
    exact absent ⟨p, filed, healthy⟩
  refine .head (thread, .lookup clientIP now) ?_ ?_ (.refl _)
  · intro _ p filed
    simp only [now, filed, Option.elim_some, Go.since_self]
    exact calls.shared.positive
  · refine Threads.step_eq_some.mpr ⟨_, _, ?_, rfl⟩
    simp only [idle, advance, misses]

/-- A call that has missed can return what the balancer answers. -/
theorem leads_returned (balance : ε → β → β × Option Nat) (heap : BackendHeap) {thread : Nat}
    (missed : calls.frame thread = .missed clientIP) (input : ε) :
    ∃ final, Leads (AffinityCalls.step balance heap) (Unexpired clientIP) calls final ∧
      final.frame = Function.update calls.frame thread
        (.returned clientIP (balance input calls.shared.balancer).2) ∧
      final.shared.balancer = (balance input calls.shared.balancer).1 := by
  -- A backend that is selected is stored at once.
  let asked := calls.shared.withBalancer (balance input calls.shared.balancer).1
  cases answer : (balance input calls.shared.balancer).2 with
  | none =>
    have taken : AffinityCalls.step balance heap calls (thread, .select input) =
        some ⟨asked, Function.update calls.frame thread (.returned clientIP none)⟩ := by
      refine Threads.step_eq_some.mpr ⟨_, _, ?_, rfl⟩
      simp only [missed, advance, answer, asked]
    exact ⟨_, .head (thread, .select input) trivial taken (.refl _), rfl, rfl⟩
  | some b =>
    have taken : AffinityCalls.step balance heap calls (thread, .select input) =
        some ⟨asked, Function.update calls.frame thread (.storing clientIP b)⟩ := by
      refine Threads.step_eq_some.mpr ⟨_, _, ?_, rfl⟩
      simp only [missed, advance, answer, asked]
    have stored : AffinityCalls.step balance heap
        ⟨asked, Function.update calls.frame thread (.storing clientIP b)⟩ (thread, .store 0) =
        some ⟨asked.store clientIP b 0,
          Function.update calls.frame thread (.returned clientIP (some b))⟩ := by
      refine Threads.step_eq_some.mpr
        ⟨asked.store clientIP b 0, .returned clientIP (some b), ?_, ?_⟩
      · simp only [Function.update_self, advance]
      · rw [Function.update_idem]
    exact ⟨_, .head (thread, .select input) trivial taken
      (.head (thread, .store 0) trivial stored (.refl _)), rfl, rfl⟩

/-- The balancer can be asked by others in the meantime. -/
theorem leads_plain (balance : ε → β → β × Option Nat) (heap : BackendHeap) (clientIP : List UInt8)
    {thread : Nat} (idle : calls.frame thread = .idle) (inputs : List ε) :
    ∃ final, Leads (AffinityCalls.step balance heap) (Unexpired clientIP) calls final ∧
      final.frame = calls.frame ∧
      final.shared.balancer = after balance calls.shared.balancer inputs := by
  -- Each plain call asks once and leaves all frames as they are.
  induction inputs generalizing calls with
  | nil => exact ⟨calls, .refl calls, rfl, rfl⟩
  | cons input rest ih =>
    let asked : AffinityCalls β :=
      ⟨calls.shared.withBalancer (balance input calls.shared.balancer).1, calls.frame⟩
    have taken : AffinityCalls.step balance heap calls (thread, .plain input) = some asked := by
      refine Threads.step_eq_some.mpr ⟨asked.shared, .idle, ?_, ?_⟩
      · rw [idle]
        rfl
      · rw [← idle, Function.update_eq_self]
    have still : asked.frame thread = .idle := idle
    obtain ⟨final, leads, frames, told⟩ := ih still
    exact ⟨final, .head (thread, .plain input) trivial taken leads, frames, told⟩

/-- If calls for a client without a live session always agree, the balancer is steady. -/
theorem steady_of_agree {sa : SessionAffinity β} (absent : ¬Live heap clientIP sa)
    (agree : ∀ final, Leads (AffinityCalls.step balance heap) (Unexpired clientIP)
      ⟨sa, fun _ => .idle⟩ final → Agree clientIP final) : Steady balance sa.balancer := by
  -- Two calls miss, and then ask the balancer with other selections between them.
  intro first between last
  let one : AffinityCalls β := ⟨sa, Function.update (fun _ => .idle) 0 (.missed clientIP)⟩
  let both : AffinityCalls β := ⟨sa, Function.update one.frame 1 (.missed clientIP)⟩
  have missedFirst : Leads (AffinityCalls.step balance heap) (Unexpired clientIP)
      ⟨sa, fun _ => .idle⟩ one := leads_missed absent rfl
  have missedSecond : Leads (AffinityCalls.step balance heap) (Unexpired clientIP) one both :=
    leads_missed absent rfl
  have missed : both.frame 0 = .missed clientIP := rfl
  obtain ⟨answered, leadsFirst, framesFirst, askedFirst⟩ := leads_returned balance heap missed first
  have idle : answered.frame 2 = .idle := by
    rw [framesFirst]
    rfl
  obtain ⟨later, leadsBetween, framesBetween, askedBetween⟩ :=
    leads_plain balance heap clientIP idle between
  have waits : later.frame 1 = .missed clientIP := by
    rw [framesBetween, framesFirst]
    rfl
  obtain ⟨final, leadsLast, framesLast, _⟩ := leads_returned balance heap waits last
  have reached := missedFirst.trans (missedSecond.trans
    (leadsFirst.trans (leadsBetween.trans leadsLast)))
  rw [framesBetween, framesFirst] at framesLast
  have same := agree final reached 0 1 _ _ (by rw [framesLast]; rfl) (by rw [framesLast]; rfl)
  rw [askedBetween, askedFirst] at same
  exact same.symm

/-- At the start nothing is decided for a client without a live session. -/
theorem sticks_start {sa : SessionAffinity β} (absent : ¬Live heap clientIP sa) :
    Sticks heap none clientIP (⟨sa, fun _ => .idle⟩ : AffinityCalls β) :=
  ⟨fun _ => trivial, fun p filed healthy => absurd ⟨p, filed, healthy⟩ absent⟩

/-- At the start a live session has decided for its backend. -/
theorem settled_start {sa : SessionAffinity β} {p : Nat} (filed : sa.sessions clientIP = some p)
    (healthy : heap.isHealthy (sa.table p).backend = true) :
    Settled heap (sa.table p).backend clientIP (⟨sa, fun _ => .idle⟩ : AffinityCalls β) := by
  refine ⟨⟨fun _ => trivial, ?_⟩, healthy, nofun⟩
  intro q also _
  obtain rfl := Option.some.inj (filed.symm.trans also)
  rfl

/-- A session that is there at the start answers all calls, as long as it does not expire. -/
theorem agree_of_live {sa : SessionAffinity β} (live : Live heap clientIP sa)
    {final : AffinityCalls β} (leads : Leads (AffinityCalls.step balance heap)
      (Unexpired clientIP) ⟨sa, fun _ => .idle⟩ final) : Agree clientIP final := by
  obtain ⟨trace, unexpired, ran⟩ := leads
  obtain ⟨p, filed, healthy⟩ := live
  -- The client stays bound to the backend of the session, to which all answers stick.
  have kept := exec_invariant_along
    (fun calls => Settled heap (sa.table p).backend clientIP calls ∧
      BoundTo clientIP (sa.table p).backend calls.shared)
    (fun calls label next held unexpired taken =>
      ⟨held.1.step (held.2.lookup held.1.healthy unexpired) taken,
        held.2.step held.1.sticks taken⟩)
    ⟨settled_start filed healthy, p, filed, rfl⟩ unexpired ran
  exact kept.1.sticks.agree

/-- Without a live session, the first answer of a steady balancer is that of all calls. -/
theorem agree_of_steady {sa : SessionAffinity β} (absent : ¬Live heap clientIP sa)
    (steady : Steady balance sa.balancer) {final : AffinityCalls β}
    (leads : Leads (AffinityCalls.step balance heap) (Unexpired clientIP) ⟨sa, fun _ => .idle⟩
      final) : Agree clientIP final := by
  obtain ⟨trace, unexpired, ran⟩ := leads
  have kept := exec_invariant_along (Follows balance heap sa.balancer clientIP)
    (fun calls label next follows _ taken => follows.step steady taken)
    ⟨[], rfl, sticks_start absent⟩ unexpired ran
  obtain ⟨inputs, _, sticks⟩ := kept
  exact sticks.agree

/-- Calls that miss one after the other agree, if the balancer always selects healthy backends. -/
theorem agree_of_serial {sa : SessionAffinity β} (reliable : Reliable balance heap sa.balancer)
    {final : AffinityCalls β} (leads : Leads (AffinityCalls.step balance heap)
      (fun calls label => Unexpired clientIP calls label ∧ Serial heap clientIP calls label)
      ⟨sa, fun _ => .idle⟩ final) : Agree clientIP final := by
  obtain ⟨trace, met, ran⟩ := leads
  -- A live session has decided at the start, and otherwise nothing is decided yet.
  have initial : InTurn balance heap sa.balancer clientIP
      (⟨sa, fun _ => .idle⟩ : AffinityCalls β) := by
    refine ⟨⟨[], rfl⟩, ?_⟩
    by_cases live : Live heap clientIP sa
    · obtain ⟨p, filed, healthy⟩ := live
      exact .inr ⟨_, settled_start filed healthy, .inl ⟨p, filed, rfl⟩⟩
    · exact .inl ⟨sticks_start live, nofun⟩
  have kept := exec_invariant_along (InTurn balance heap sa.balancer clientIP)
    (fun calls label next inTurn met taken => inTurn.step reliable met.1 met.2 taken)
    initial met ran
  rcases kept.2 with waiting | ⟨b, settled, _⟩
  · exact waiting.sticks.agree
  · exact settled.sticks.agree

/--
Calls for one client, in any order, return the same exactly if the client has a live session to
begin with or the balancer gives everyone the same answer.

With a balancer that always selects healthy backends, they also do if no lookup misses while
another call is between its own miss and the storing of the session.
-/
theorem calls_agree_iff (balance : ε → β → β × Option Nat) (heap : BackendHeap)
    (clientIP : List UInt8) (sa : SessionAffinity β) :
    ((∀ final, Leads (step balance heap) (Unexpired clientIP) ⟨sa, fun _ => .idle⟩ final →
      Agree clientIP final) ↔ Live heap clientIP sa ∨ Steady balance sa.balancer) ∧
    (Reliable balance heap sa.balancer → ∀ final,
      Leads (step balance heap)
        (fun calls label => Unexpired clientIP calls label ∧ Serial heap clientIP calls label)
        ⟨sa, fun _ => .idle⟩ final → Agree clientIP final) := by
  -- Either the session that is there or the balancer decides.
  refine ⟨⟨?_, ?_⟩, fun reliable final leads => agree_of_serial reliable leads⟩
  · intro agree
    by_cases live : Live heap clientIP sa
    · exact .inl live
    · exact .inr (steady_of_agree live agree)
  · intro given final leads
    by_cases live : Live heap clientIP sa
    · exact agree_of_live live leads
    · exact agree_of_steady live (given.resolve_left live) leads

section RoundRobin

variable {pool : Pool}

/-- Selections of round robin, which take no input. -/
def roundRobin (heap : BackendHeap) (pool : Pool) (_ : Unit) (rr : RoundRobin) :
    RoundRobin × Option Nat :=
  rr.select heap pool

/-- Round robin answers with the backend at its count, going round the backends in rotation. -/
theorem roundRobin_answer (rotation : 0 < (pool.healthy heap).length)
    (short : (pool.healthy heap).length < 2 ^ 64) (rr : RoundRobin) :
    (roundRobin heap pool () rr).2 =
      (pool.healthy heap)[rr.current.toNat % (pool.healthy heap).length]? := by
  -- The number of backends fits into the word that counts.
  have occupied : (pool.healthy heap).length ≠ 0 := by omega
  have index : ((rr.current + 1 - 1) % UInt64.ofNat (pool.healthy heap).length).toNat =
      rr.current.toNat % (pool.healthy heap).length := by
    rw [UInt64.add_sub_cancel, UInt64.toNat_mod, UInt64.toNat_ofNat', Nat.mod_eq_of_lt short]
  simp only [roundRobin, RoundRobin.select, if_neg occupied, index]

/-- Every selection counts one more. -/
theorem roundRobin_after (rotation : 0 < (pool.healthy heap).length) (rr : RoundRobin)
    (inputs : List Unit) :
    after (roundRobin heap pool) rr inputs = ⟨rr.current + UInt64.ofNat inputs.length⟩ := by
  -- The count wraps around with the word that holds it.
  have occupied : (pool.healthy heap).length ≠ 0 := by omega
  induction inputs generalizing rr with
  | nil => simp [after]
  | cons input rest ih =>
    have counted : (roundRobin heap pool input rr).1 = ⟨rr.current + 1⟩ := by
      simp only [roundRobin, RoundRobin.select, if_neg occupied]
    have later : after (roundRobin heap pool) rr (input :: rest) =
        after (roundRobin heap pool) (roundRobin heap pool input rr).1 rest := rfl
    rw [later, counted, ih, List.length_cons, UInt64.ofNat_add, UInt64.add_assoc,
      UInt64.add_comm 1]
    rfl

/-- Round robin selects a backend in rotation. -/
theorem roundRobin_mem (rotation : 0 < (pool.healthy heap).length)
    (short : (pool.healthy heap).length < 2 ^ 64) (rr : RoundRobin) :
    ∃ b ∈ pool.healthy heap, (roundRobin heap pool () rr).2 = some b := by
  have within := Nat.mod_lt rr.current.toNat rotation
  rw [roundRobin_answer rotation short, List.getElem?_eq_getElem within]
  exact ⟨_, List.getElem_mem within, rfl⟩

/-- Round robin over backends in rotation is reliable. -/
theorem roundRobin_reliable (rotation : 0 < (pool.healthy heap).length)
    (short : (pool.healthy heap).length < 2 ^ 64) (rr : RoundRobin) :
    Reliable (roundRobin heap pool) heap rr := by
  -- What it selects is in rotation.
  intro inputs input
  obtain ⟨b, member, answer⟩ :=
    roundRobin_mem rotation short (after (roundRobin heap pool) rr inputs)
  exact ⟨b, answer, (Pool.mem_healthy.mp member).2⟩

/-- Round robin is steady exactly where there is only one backend to select. -/
theorem roundRobin_steady_iff (rotation : 0 < (pool.healthy heap).length)
    (short : (pool.healthy heap).length < 2 ^ 64) (rr : RoundRobin) :
    Steady (roundRobin heap pool) rr ↔
      ∀ b ∈ pool.healthy heap, ∀ c ∈ pool.healthy heap, b = c := by
  constructor
  · intro steady
    have same (inputs : List Unit) :
        (roundRobin heap pool () (after (roundRobin heap pool) rr inputs)).2 =
          (roundRobin heap pool () rr).2 := by
      cases inputs with
      | nil => rfl
      | cons first between => exact steady first between ()
    -- Some number of selections brings the count to any position.
    have position {i : Nat} (within : i < (pool.healthy heap).length) :
        (pool.healthy heap)[i]? = (roundRobin heap pool () rr).2 := by
      let rounds := (UInt64.ofNat i - rr.current).toNat
      have count : rr.current + UInt64.ofNat rounds = UInt64.ofNat i := by
        rw [UInt64.ofNat_toNat, UInt64.add_comm, UInt64.sub_add_cancel]
      have answer := same (List.replicate rounds ())
      rw [roundRobin_after rotation, roundRobin_answer rotation short, List.length_replicate,
        count, UInt64.toNat_ofNat', Nat.mod_eq_of_lt (within.trans short),
        Nat.mod_eq_of_lt within] at answer
      exact answer
    intro b listed c also
    obtain ⟨i, within, rfl⟩ := List.getElem_of_mem listed
    obtain ⟨j, inside, rfl⟩ := List.getElem_of_mem also
    have equal := (position within).trans (position inside).symm
    rw [List.getElem?_eq_getElem within, List.getElem?_eq_getElem inside] at equal
    exact Option.some.inj equal
  · intro same first between last
    obtain ⟨b, listed, left⟩ :=
      roundRobin_mem rotation short (after (roundRobin heap pool) rr (first :: between))
    obtain ⟨c, also, right⟩ := roundRobin_mem rotation short rr
    rw [left, right, same b listed c also]

end RoundRobin

/-- Two requests of a client that has no session yet are sent to different backends. -/
theorem first_requests_part :
    let heap : BackendHeap := fun _ => newBackend "api" "10.0.0.1:80" 1
    let fresh : AffinityCalls RoundRobin :=
      ⟨newSessionAffinity ⟨0⟩ 0, fun _ => .idle⟩
    ∃ final, exec (step (roundRobin heap [0, 1]) heap) fresh
        [(0, .lookup (bytesOf "10.1.1.1") 0), (1, .lookup (bytesOf "10.1.1.1") 0), (0, .select ()), (1, .select ()),
          (0, .store 0), (1, .store 0)] = some final ∧
      final.frame 0 = .returned (bytesOf "10.1.1.1") (some 0) ∧
      final.frame 1 = .returned (bytesOf "10.1.1.1") (some 1) := by
  -- Both look for a session before either has stored one.
  refine ⟨_, rfl, ?_, ?_⟩
  · decide
  · decide

end AffinityCalls

end Balance
