import Balance.Go.Time
import Balance.Lb.Balancers
import Balance.Machine.Run

/-! Sticky sessions, which bind a client to a backend while the pool changes under them. -/

namespace Balance

open Machine

/-- The backend that a client is bound to, and when the session was last used. -/
structure Session where
  backend : Nat
  lastAccess : Int

/-- A balancer with a session for each client that it has answered. -/
structure SessionAffinity (β : Type*) where
  balancer : β
  -- The address of the session of a client.
  sessions : List UInt8 → Option Nat
  table : Nat → Session
  -- The address that the next session is made at.
  fresh : Nat
  timeout : Int
  positive : 0 < timeout
  allocated : ∀ clientIP p, sessions clientIP = some p → p < fresh

/-- A new wrapper has no sessions, and ten minutes for a timeout that is not positive. -/
def newSessionAffinity {β : Type*} (balancer : β) (timeout : Int) : SessionAffinity β where
  balancer := balancer
  sessions := fun _ => none
  table := fun _ => ⟨0, 0⟩
  fresh := 0
  timeout := if timeout ≤ 0 then 10 * Go.minute else timeout
  positive := by
    simp only [Go.minute, Go.second]
    split <;> omega
  allocated := nofun

namespace SessionAffinity

variable {β : Type*} (sa : SessionAffinity β)

/-- The read-locked section: the session of a client, if it is valid and its backend is healthy. -/
def lookup (heap : BackendHeap) (clientIP : List UInt8) (now : Int) : Option Nat :=
  (sa.sessions clientIP).filter fun p =>
    Go.since now (sa.table p).lastAccess < sa.timeout && heap.isHealthy (sa.table p).backend

/-- The write-locked section after a hit: the session has been used again. -/
def touch (p : Nat) (now : Int) : SessionAffinity β :=
  { sa with table := Function.update sa.table p { sa.table p with lastAccess := now } }

/-- The write-locked section after a selection: a new session takes the place of any older one. -/
def store (clientIP : List UInt8) (b : Nat) (now : Int) : SessionAffinity β :=
  { sa with
    sessions := Function.update sa.sessions clientIP (some sa.fresh)
    table := Function.update sa.table sa.fresh ⟨b, now⟩
    fresh := sa.fresh + 1
    allocated := by
      intro other p found
      by_cases same : other = clientIP
      · rw [same, Function.update_self] at found
        cases found
        exact Nat.lt_succ_self _
      · rw [Function.update_of_ne same] at found
        exact Nat.lt_succ_of_lt (sa.allocated other p found) }

/-- The wrapper with another state of its balancer. -/
def withBalancer (balancer : β) : SessionAffinity β := { sa with balancer := balancer }

/-- Select for a client: the backend of its session, or one that the balancer selects now. -/
def selectWithClientIP (select : β → β × Except String (Option Nat)) (heap : BackendHeap)
    (clientIP : List UInt8) (looked accessed : Int) :
    SessionAffinity β × Except String (Option Nat) :=
  match sa.lookup heap clientIP looked with
  | some p => (sa.touch p accessed, .ok (some (sa.table p).backend))
  | none =>
    let (balancer, selected) := select sa.balancer
    match selected with
    | .ok (some b) => ((sa.withBalancer balancer).store clientIP b accessed, .ok (some b))
    | .ok none => (sa.withBalancer balancer, .ok none)
    | .error message => (sa.withBalancer balancer, .error message)

/-- Keep the sessions that a test lets through. -/
def keepSessions (test : List UInt8 → Nat → Bool) : SessionAffinity β :=
  { sa with
    sessions := fun clientIP => (sa.sessions clientIP).filter (test clientIP)
    allocated := by
      intro clientIP p found
      exact sa.allocated clientIP p (Option.filter_eq_some_iff.mp found).1 }

/-- A cleanup pass deletes the sessions that have expired. -/
def cleanup (now : Int) : SessionAffinity β :=
  sa.keepSessions fun _ p => !(Go.since now (sa.table p).lastAccess > sa.timeout)

/-- Delete the session of one client. -/
def clearSession (clientIP : List UInt8) : SessionAffinity β :=
  sa.keepSessions fun other _ => other ≠ clientIP

/-- Delete all sessions. -/
def clearAllSessions : SessionAffinity β := sa.keepSessions fun _ _ => false

variable {sa}

/-- A hit is a session of the client that has not expired, bound to a healthy backend. -/
theorem lookup_eq_some {heap : BackendHeap} {clientIP : List UInt8} {now : Int} {p : Nat} :
    sa.lookup heap clientIP now = some p ↔
      sa.sessions clientIP = some p ∧ Go.since now (sa.table p).lastAccess < sa.timeout ∧
        heap.isHealthy (sa.table p).backend = true := by
  simp [lookup, Option.filter_eq_some_iff]

/-- Every session that has not expired is bound to a backend of the pool. -/
def BoundTo (sa : SessionAffinity β) (pool : Pool) (now : Int) : Prop :=
  ∀ clientIP p, sa.sessions clientIP = some p →
    Go.since now (sa.table p).lastAccess < sa.timeout → (sa.table p).backend ∈ pool

variable {pool : Pool} {now : Int}

/-- Sessions that have not expired later have not expired now. -/
theorem BoundTo.later (bound : sa.BoundTo pool now) {instant : Int} (ordered : now ≤ instant) :
    sa.BoundTo pool instant := by
  intro clientIP p found valid
  exact bound clientIP p found (lt_of_le_of_lt (Go.since_mono ordered _) valid)

/-- A session that is used again stays bound to its backend. -/
theorem BoundTo.touch (bound : sa.BoundTo pool now) {p : Nat}
    (member : (sa.table p).backend ∈ pool) (accessed : Int) :
    (sa.touch p accessed).BoundTo pool now := by
  -- Only the time of its last use is written.
  intro clientIP q found valid
  by_cases same : q = p
  · rw [same]
    simpa [SessionAffinity.touch] using member
  · simp only [SessionAffinity.touch, Function.update_of_ne same] at found valid ⊢
    exact bound clientIP q found valid

/-- A new session is bound to a backend of the pool if that is what is stored. -/
theorem BoundTo.store (bound : sa.BoundTo pool now) {b : Nat} (member : b ∈ pool)
    (clientIP : List UInt8) (accessed : Int) : (sa.store clientIP b accessed).BoundTo pool now := by
  intro other q found valid
  by_cases made : q = sa.fresh
  · rw [made]
    simpa [SessionAffinity.store] using member
  · -- The session of the client is the new one, so this one is of another client.
    have differs : other ≠ clientIP := by
      intro same
      simp only [SessionAffinity.store, same, Function.update_self] at found
      exact made (Option.some.inj found).symm
    simp only [SessionAffinity.store, Function.update_of_ne made,
      Function.update_of_ne differs] at found valid ⊢
    exact bound other q found valid

/-- Deleting sessions binds nobody. -/
theorem BoundTo.keepSessions (bound : sa.BoundTo pool now) (test : List UInt8 → Nat → Bool) :
    (sa.keepSessions test).BoundTo pool now := by
  intro clientIP p found valid
  exact bound clientIP p (Option.filter_eq_some_iff.mp found).1 valid

end SessionAffinity

/-- What happens to a pool, the flags of its backends, and the sticky sessions over it. -/
inductive StickyEvent where
  | add (b : Nat)
  | remove (name : String)
  | markHealthy (b : Nat)
  | markUnhealthy (b : Nat)
  -- The clock is read once more when the session is written.
  | selectWithClientIP (clientIP : List UInt8) (accessed : Int)
  | cleanup
  | clearSession (clientIP : List UInt8)
  | clearAllSessions

/-- A pool, its backends, sticky sessions over a balancer, and the latest clock reading. -/
structure Sticky where
  heap : BackendHeap
  pool : Pool
  affinity : SessionAffinity LoadBalancer
  clock : Int

namespace Sticky

/-- New sessions over a balancer on a pool. -/
def start (heap : BackendHeap) (pool : Pool) (balancer : LoadBalancer) (timeout now : Int) :
    Sticky where
  heap := heap
  pool := pool
  affinity := newSessionAffinity balancer timeout
  clock := now

variable (state : Sticky)

/-- Select for a client over the pool as it is. -/
def select (clientIP : List UInt8) (looked accessed : Int) :
    SessionAffinity LoadBalancer × Except String (Option Nat) :=
  state.affinity.selectWithClientIP (fun balancer => balancer.select state.heap state.pool)
    state.heap clientIP looked accessed

/-- Apply one event at an instant. -/
def apply (now : Int) : StickyEvent → Sticky
  | .add b => { state with pool := state.pool.add b, clock := now }
  | .remove name => { state with pool := (state.pool.remove state.heap name).1, clock := now }
  | .markHealthy b => { state with heap := state.heap.markHealthy b, clock := now }
  | .markUnhealthy b => { state with heap := state.heap.markUnhealthy b, clock := now }
  | .selectWithClientIP clientIP accessed =>
    { state with affinity := (state.select clientIP now accessed).1, clock := accessed }
  | .cleanup => { state with affinity := state.affinity.cleanup now, clock := now }
  | .clearSession clientIP =>
    { state with affinity := state.affinity.clearSession clientIP, clock := now }
  | .clearAllSessions => { state with affinity := state.affinity.clearAllSessions, clock := now }

/-- Events happen at times that do not decrease. -/
def step (event : Int × StickyEvent) : Option Sticky :=
  if state.clock ≤ event.1 ∧ event.1 ≤ (state.apply event.1 event.2).clock then
    some (state.apply event.1 event.2)
  else none

/-- Whatever is selected for a client is in the pool and healthy. -/
def Respects (state : Sticky) : Int × StickyEvent → Prop
  | (now, .selectWithClientIP clientIP accessed) =>
    ∀ b, (state.select clientIP now accessed).2 = .ok (some b) →
      b ∈ state.pool ∧ state.heap.isHealthy b = true
  | _ => True

/--
No backend leaves the pool while a session that is bound to it has not expired, and a selection
for a client without a valid session does not go by a ring with owners out of rotation.
-/
def Careful (state : Sticky) : Int × StickyEvent → Prop
  | (now, .remove name) => ∀ clientIP p, state.affinity.sessions clientIP = some p →
      Go.since now (state.affinity.table p).lastAccess < state.affinity.timeout →
      (state.affinity.table p).backend ∈ state.pool →
      (state.affinity.table p).backend ∈ (state.pool.remove state.heap name).1
  | (now, .selectWithClientIP clientIP _) =>
    state.affinity.lookup state.heap clientIP now = none →
      state.affinity.balancer.Fresh state.heap state.pool
  | _ => True

variable {state next : Sticky} {now : Int}

/-- A step happens at a time that is not past, and ends no earlier than it begins. -/
theorem step_eq_some {event : StickyEvent} :
    state.step (now, event) = some next ↔
      (state.clock ≤ now ∧ now ≤ (state.apply now event).clock) ∧
        state.apply now event = next := by
  simp [step]

/-- What is selected for a client is in the pool and healthy, if its session and the ring allow. -/
theorem select_mem (bound : state.affinity.BoundTo state.pool now) {clientIP : List UInt8}
    (fresh : state.affinity.lookup state.heap clientIP now = none →
      state.affinity.balancer.Fresh state.heap state.pool) {accessed : Int} {b : Nat}
    (found : (state.select clientIP now accessed).2 = .ok (some b)) :
    b ∈ state.pool.healthy state.heap := by
  simp only [select, SessionAffinity.selectWithClientIP] at found
  cases hit : state.affinity.lookup state.heap clientIP now with
  | some p =>
    -- The session is valid, and the flag of its backend has just been read.
    simp only [hit] at found
    obtain ⟨filed, valid, healthy⟩ := SessionAffinity.lookup_eq_some.mp hit
    obtain rfl := Option.some.inj (Except.ok.inj found)
    exact Pool.mem_healthy.mpr ⟨bound clientIP p filed valid, healthy⟩
  | none =>
    simp only [hit] at found
    apply LoadBalancer.selectFor_healthy (fresh hit)
    split at found
    · rename_i selected
      rw [← found]
      exact selected
    · cases found
    · cases found

/-- A selection for a client leaves every valid session bound to the pool. -/
theorem select_boundTo (bound : state.affinity.BoundTo state.pool now) {clientIP : List UInt8}
    (fresh : state.affinity.lookup state.heap clientIP now = none →
      state.affinity.balancer.Fresh state.heap state.pool) (accessed : Int) :
    (state.select clientIP now accessed).1.BoundTo state.pool now := by
  -- A session is used again or made, either way for the backend that is returned.
  have answered {b : Nat} (found : (state.select clientIP now accessed).2 = .ok (some b)) :
      b ∈ state.pool := (Pool.mem_healthy.mp (select_mem bound fresh found)).1
  simp only [select, SessionAffinity.selectWithClientIP] at answered ⊢
  cases hit : state.affinity.lookup state.heap clientIP now with
  | some p =>
    simp only [hit] at answered ⊢
    exact bound.touch (answered rfl) accessed
  | none =>
    simp only [hit] at answered ⊢
    split
    · rename_i b selected
      have member : b ∈ state.pool := by
        simp only [selected] at answered
        exact answered rfl
      exact SessionAffinity.BoundTo.store bound member clientIP accessed
    · exact bound
    · exact bound

/-- A careful step leaves every valid session bound to the pool. -/
theorem apply_boundTo {event : StickyEvent} (bound : state.affinity.BoundTo state.pool now)
    (careful : state.Careful (now, event)) (ordered : now ≤ (state.apply now event).clock) :
    (state.apply now event).affinity.BoundTo (state.apply now event).pool
      (state.apply now event).clock := by
  -- The pool shrinks by removals only, and sessions are made by selections only.
  cases event with
  | add b =>
    intro clientIP p found valid
    exact List.mem_append_left _ (bound clientIP p found valid)
  | remove name =>
    intro clientIP p found valid
    exact careful clientIP p found valid (bound clientIP p found valid)
  | markHealthy b => exact bound
  | markUnhealthy b => exact bound
  | selectWithClientIP clientIP accessed =>
    exact (select_boundTo bound careful accessed).later ordered
  | cleanup => exact bound.keepSessions _
  | clearSession clientIP => exact bound.keepSessions _
  | clearAllSessions => exact bound.keepSessions _

/-- Whatever is selected for a client next, with care, is in the pool and healthy. -/
def Serves (state : Sticky) : Prop :=
  ∀ event next, state.step event = some next → state.Careful event → state.Respects event

/-- The invariant of careful runs. -/
def Bound (state : Sticky) : Prop := state.affinity.BoundTo state.pool state.clock

/-- Careful steps keep valid sessions bound to the pool. -/
theorem Bound.step {event : Int × StickyEvent} (bound : state.Bound)
    (careful : state.Careful event) (taken : state.step event = some next) : next.Bound := by
  obtain ⟨⟨late, ordered⟩, rfl⟩ := step_eq_some.mp taken
  exact apply_boundTo (SessionAffinity.BoundTo.later bound late) careful ordered

/-- Careful runs keep valid sessions bound to the pool. -/
theorem Bound.leads {final : Sticky} (bound : state.Bound)
    (leads : Leads Sticky.step Careful state final) : final.Bound := by
  obtain ⟨trace, careful, ran⟩ := leads
  exact exec_invariant_along Bound (fun _ _ _ held met taken => held.step met taken)
    bound careful ran

/-- A client is served from the pool while valid sessions are bound to it. -/
theorem Bound.serves (bound : state.Bound) : state.Serves := by
  -- A session is valid only with a healthy backend, which is bound to be a member.
  intro event next taken careful
  obtain ⟨now, event⟩ := event
  obtain ⟨⟨late, _⟩, _⟩ := step_eq_some.mp taken
  cases event with
  | selectWithClientIP clientIP accessed =>
    intro b found
    exact Pool.mem_healthy.mp (select_mem (SessionAffinity.BoundTo.later bound late) careful found)
  | _ => trivial

/-- A session that outlives the membership of its backend brings the backend back. -/
theorem removed_backend_returns {name : String}
    (taken : state.step (now, .remove name) = some next)
    (careless : ¬state.Careful (now, .remove name)) :
    ∃ final, Leads step Careful next final ∧ ¬final.Serves := by
  -- The flag of the backend is set, in case it is not, and the client asks again.
  obtain ⟨_, rfl⟩ := step_eq_some.mp taken
  simp only [Careful, not_forall] at careless
  obtain ⟨clientIP, p, found, valid, _, gone⟩ := careless
  let marked := (state.apply now (.remove name)).apply now
    (.markHealthy (state.affinity.table p).backend)
  have hit : marked.affinity.lookup marked.heap clientIP now = some p := by
    apply SessionAffinity.lookup_eq_some.mpr
    refine ⟨found, valid, ?_⟩
    simp [marked, apply, BackendHeap.markHealthy]
  have answer : (marked.select clientIP now now).2 =
      .ok (some (state.affinity.table p).backend) := by
    simp only [select, SessionAffinity.selectWithClientIP, hit]
    rfl
  refine ⟨marked, ?_, ?_⟩
  · exact .head (now, .markHealthy (state.affinity.table p).backend) trivial
      (step_eq_some.mpr ⟨⟨le_refl now, le_refl now⟩, rfl⟩) (.refl marked)
  · intro serves
    have careful : marked.Careful (now, .selectWithClientIP clientIP now) := by
      intro missed
      rw [hit] at missed
      cases missed
    have respects := serves (now, .selectWithClientIP clientIP now) _
      (step_eq_some.mpr ⟨⟨le_refl now, le_refl now⟩, rfl⟩) careful
    exact gone (respects _ answer).1

/--
Sticky sessions over any balancer respect the pool as long as no backend leaves it while a session
bound to it has not expired, and no client is given a backend by a ring with owners out of
rotation.

No single removal can do without the condition: if one does not meet it, the client of the session
can be sent to the removed backend with no further carelessness.
-/
theorem sessions_respect_pool_of_careful (heap : BackendHeap) (pool : Pool)
    (balancer : LoadBalancer) (timeout now : Int) :
    let fresh := start heap pool balancer timeout now
    (∀ final, Leads step Careful fresh final → final.Serves) ∧
    ∀ state now name next, Leads step Careful fresh state →
      state.step (now, .remove name) = some next →
      ((∀ final, Leads step Careful next final → final.Serves) ↔
        state.Careful (now, .remove name)) := by
  -- There are no sessions to begin with.
  intro fresh
  have initial : fresh.Bound := nofun
  refine ⟨fun final leads => (initial.leads leads).serves, ?_⟩
  intro state now name next reached taken
  constructor
  · intro serves
    by_contra careless
    obtain ⟨final, leads, stray⟩ := removed_backend_returns taken careless
    exact stray (serves final leads)
  · intro careful final leads
    exact (((initial.leads reached).step careful taken).leads leads).serves

/-- A client of a removed backend is sent to it again. -/
theorem removed_backend_selected_again :
    let heap : BackendHeap := fun b => newBackend (if b = 0 then "a" else "b") "10.0.0.1:80" 1
    let fresh := start heap [0, 1] (.roundRobin ⟨0⟩) 0 0
    ∃ final, exec step fresh
        [(0, .selectWithClientIP (bytesOf "10.1.1.1") 0), (1, .remove "a")] = some final ∧
      (final.select (bytesOf "10.1.1.1") 2 2).2.toOption = some (some 0) ∧ final.pool = [1] := by
  -- Neither the session nor the flag knows of the removal.
  refine ⟨_, rfl, ?_, ?_⟩
  · decide
  · decide

end Sticky

end Balance
