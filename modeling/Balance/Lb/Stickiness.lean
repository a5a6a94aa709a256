import Balance.Lb.Affinity

/-! Clients that come back in time, and the backend that their session keeps them at. -/

namespace Balance

open Machine

/-- What happens to sticky sessions, to the backends under them and to the balancer. -/
inductive SessionsEvent (β : Type*) where
  -- The clock is read once more when the session is written.
  | selectWithClientIP (clientIP : List UInt8) (accessed : Int)
  | cleanup
  | clearSession (clientIP : List UInt8)
  | clearAllSessions
  -- Others write to the backends, and use the balancer.
  | backends (heap : BackendHeap)
  | balancer (balancer : β)

/-- Sticky sessions over a balancer of any kind, and the latest clock reading. -/
structure Sessions (β : Type*) where
  heap : BackendHeap
  affinity : SessionAffinity β
  clock : Int

namespace Sessions

variable {β : Type*} (select : BackendHeap → β → β × Except String (Option Nat))
  (state : Sessions β)

/-- Select for a client over the backends as they are. -/
def call (clientIP : List UInt8) (looked accessed : Int) :
    SessionAffinity β × Except String (Option Nat) :=
  state.affinity.selectWithClientIP (select state.heap) state.heap clientIP looked accessed

/-- Apply one event at an instant. -/
def apply (now : Int) : SessionsEvent β → Sessions β
  | .selectWithClientIP clientIP accessed =>
    { state with affinity := (state.call select clientIP now accessed).1, clock := accessed }
  | .cleanup => { state with affinity := state.affinity.cleanup now, clock := now }
  | .clearSession clientIP =>
    { state with affinity := state.affinity.clearSession clientIP, clock := now }
  | .clearAllSessions => { state with affinity := state.affinity.clearAllSessions, clock := now }
  | .backends heap => { state with heap := heap, clock := now }
  | .balancer balancer =>
    { state with affinity := state.affinity.withBalancer balancer, clock := now }

/-- Events happen at times that do not decrease. -/
def step (event : Int × SessionsEvent β) : Option (Sessions β) :=
  if state.clock ≤ event.1 ∧ event.1 ≤ (state.apply select event.1 event.2).clock then
    some (state.apply select event.1 event.2)
  else none

/-- When a client calls. -/
def callTimes (clientIP : List UInt8) (events : List (Int × SessionsEvent β)) : List Int :=
  events.filterMap fun event =>
    match event.2 with
    | .selectWithClientIP caller _ => if caller = clientIP then some event.1 else none
    | _ => none

/-- A call of a client gives a backend, and the balancer has no part in it. -/
def Sticks (clientIP : List UInt8) (b : Nat) (state : Sessions β) (event : Int × SessionsEvent β) :
    Prop :=
  ∀ accessed, event.2 = .selectWithClientIP clientIP accessed →
    ∀ select : BackendHeap → β → β × Except String (Option Nat),
      (state.call select clientIP event.1 accessed).2 = .ok (some b) ∧
        (state.call select clientIP event.1 accessed).1.balancer = state.affinity.balancer

end Sessions

namespace SessionAffinity

variable {β : Type*} {sa : SessionAffinity β} {clientIP : List UInt8} {b : Nat} {last clock : Int}

/-- A client has a session with a backend, used at some time since its last call. -/
def BoundSince (clientIP : List UInt8) (b : Nat) (last clock : Int) (sa : SessionAffinity β) : Prop :=
  ∃ p, sa.sessions clientIP = some p ∧ (sa.table p).backend = b ∧
    last ≤ (sa.table p).lastAccess ∧ (sa.table p).lastAccess ≤ clock

/-- Time goes on, and the session stays as it is. -/
theorem BoundSince.later (bound : BoundSince clientIP b last clock sa) {now : Int}
    (ordered : clock ≤ now) : BoundSince clientIP b last now sa := by
  obtain ⟨p, found, backend, early, late⟩ := bound
  exact ⟨p, found, backend, early, late.trans ordered⟩

/-- Whichever session is used again, the client keeps its own. -/
theorem BoundSince.touch (bound : BoundSince clientIP b last clock sa) {accessed : Int}
    (ordered : clock ≤ accessed) (q : Nat) :
    BoundSince clientIP b last accessed (sa.touch q accessed) := by
  -- If it is the session of the client, it has just been used.
  obtain ⟨p, found, backend, early, late⟩ := bound
  refine ⟨p, found, ?_⟩
  by_cases same : p = q
  · subst same
    simp only [SessionAffinity.touch, Function.update_self]
    exact ⟨backend, by omega, le_refl _⟩
  · simp only [SessionAffinity.touch, Function.update_of_ne same]
    exact ⟨backend, early, late.trans ordered⟩

/-- A session that is made for another client is made at another address. -/
theorem BoundSince.store (bound : BoundSince clientIP b last clock sa) {other : List UInt8}
    (differs : clientIP ≠ other) {accessed : Int} (ordered : clock ≤ accessed) (chosen : Nat) :
    BoundSince clientIP b last accessed (sa.store other chosen accessed) := by
  -- The session of the client was allocated before the new one.
  obtain ⟨p, found, backend, early, late⟩ := bound
  have old : p ≠ sa.fresh := Nat.ne_of_lt (sa.allocated clientIP p found)
  refine ⟨p, ?_, ?_⟩
  · simp only [SessionAffinity.store, Function.update_of_ne differs]
    exact found
  · simp only [SessionAffinity.store, Function.update_of_ne old]
    exact ⟨backend, early, late.trans ordered⟩

/-- A session that a test lets through is kept. -/
theorem BoundSince.keepSessions (bound : BoundSince clientIP b last clock sa)
    {test : List UInt8 → Nat → Bool} (passes : ∀ p, sa.sessions clientIP = some p → test clientIP p) :
    BoundSince clientIP b last clock (sa.keepSessions test) := by
  obtain ⟨p, found, kept⟩ := bound
  exact ⟨p, Option.filter_eq_some_iff.mpr ⟨found, passes p found⟩, kept⟩

/-- A call of another client leaves the session as it is. -/
theorem BoundSince.selectWithClientIP (bound : BoundSince clientIP b last clock sa)
    (select : β → β × Except String (Option Nat)) (heap : BackendHeap) {other : List UInt8}
    (differs : clientIP ≠ other) {looked accessed : Int} (ordered : clock ≤ accessed) :
    BoundSince clientIP b last accessed
      (sa.selectWithClientIP select heap other looked accessed).1 := by
  -- A session of the other client is used again or made, or none is.
  rw [SessionAffinity.selectWithClientIP]
  cases sa.lookup heap other looked with
  | some q => exact bound.touch ordered q
  | none =>
    dsimp only
    cases (select sa.balancer).2 with
    | error message => exact bound.later ordered
    | ok selected =>
      cases selected with
      | none => exact bound.later ordered
      | some chosen =>
        have moved : BoundSince clientIP b last clock (sa.withBalancer (select sa.balancer).1) :=
          bound
        exact moved.store differs ordered chosen

/-- No call changes the timeout. -/
theorem selectWithClientIP_timeout (select : β → β × Except String (Option Nat))
    (heap : BackendHeap) (clientIP : List UInt8) (looked accessed : Int) :
    (sa.selectWithClientIP select heap clientIP looked accessed).1.timeout = sa.timeout := by
  rw [SessionAffinity.selectWithClientIP]
  cases sa.lookup heap clientIP looked with
  | some q => rfl
  | none =>
    dsimp only
    rcases (select sa.balancer).2 with message | selected
    · rfl
    · cases selected <;> rfl

/-- A call that is answered with a backend leaves the client with a session there. -/
theorem boundSince_of_answer {select : β → β × Except String (Option Nat)} {heap : BackendHeap}
    {looked accessed : Int} (ordered : looked ≤ accessed)
    (answered : (sa.selectWithClientIP select heap clientIP looked accessed).2 = .ok (some b)) :
    BoundSince clientIP b looked accessed
      (sa.selectWithClientIP select heap clientIP looked accessed).1 := by
  rw [SessionAffinity.selectWithClientIP] at answered ⊢
  cases hit : sa.lookup heap clientIP looked with
  | some p =>
    -- The session is used again, and the time of its use is written.
    simp only [hit] at answered ⊢
    obtain ⟨found, _⟩ := lookup_eq_some.mp hit
    refine ⟨p, found, ?_⟩
    simp only [SessionAffinity.touch, Function.update_self]
    exact ⟨Option.some.inj (Except.ok.inj answered), ordered, le_refl _⟩
  | none =>
    simp only [hit] at answered ⊢
    rcases chosen : (select sa.balancer).2 with message | selected
    · simp [chosen] at answered
    · cases selected with
      | none => simp [chosen] at answered
      | some selected =>
        -- The session is new, and the only one of the client.
        simp only [chosen, Except.ok.injEq, Option.some.injEq] at answered ⊢
        refine ⟨sa.fresh, ?_⟩
        simp only [SessionAffinity.store, withBalancer, Function.update_self]
        exact ⟨trivial, answered, ordered, le_refl _⟩

/-- Within the timeout, a session with a healthy backend is found. -/
theorem BoundSince.exists_lookup (bound : BoundSince clientIP b last clock sa) {heap : BackendHeap}
    (healthy : heap.isHealthy b = true) {now : Int} (ordered : clock ≤ now)
    (prompt : now - last < sa.timeout) :
    ∃ p, sa.lookup heap clientIP now = some p ∧ (sa.table p).backend = b := by
  -- The session was used no earlier than the last call, and that is in time.
  obtain ⟨p, found, rfl, early, late⟩ := bound
  have elapsed := Go.since_le_sub (late.trans ordered)
  exact ⟨p, lookup_eq_some.mpr ⟨found, by omega, healthy⟩, rfl⟩

end SessionAffinity

namespace Sessions

open SessionAffinity

variable {β : Type*} {select : BackendHeap → β → β × Except String (Option Nat)}
  {state next : Sessions β} {clientIP : List UInt8} {b : Nat} {last now : Int}

/-- A step happens at a time that is not past, and ends no earlier than it begins. -/
theorem step_eq_some {event : SessionsEvent β} :
    state.step select (now, event) = some next ↔
      (state.clock ≤ now ∧ now ≤ (state.apply select now event).clock) ∧
        state.apply select now event = next := by
  simp [step]

/-- A client has a session with a backend, unless the time for it has run out. -/
def Kept (clientIP : List UInt8) (b : Nat) (last : Int) (state : Sessions β) : Prop :=
  BoundSince clientIP b last state.clock state.affinity ∨
    state.affinity.timeout ≤ state.clock - last

/-- No event changes the timeout. -/
theorem apply_timeout (event : SessionsEvent β) :
    (state.apply select now event).affinity.timeout = state.affinity.timeout := by
  cases event with
  | selectWithClientIP clientIP accessed => exact selectWithClientIP_timeout _ _ _ _ _
  | _ => rfl

/-- What is not a call of the client and does not clear its session lets the client keep it. -/
theorem Kept.apply {event : SessionsEvent β} (kept : state.Kept clientIP b last)
    (late : state.clock ≤ now) (ordered : now ≤ (state.apply select now event).clock)
    (foreign : ∀ accessed, event ≠ .selectWithClientIP clientIP accessed)
    (uncleared : event ≠ .clearSession clientIP ∧ event ≠ .clearAllSessions) :
    (state.apply select now event).Kept clientIP b last := by
  rcases kept with bound | expired
  · cases event with
    | selectWithClientIP caller accessed =>
      have differs : clientIP ≠ caller := fun same => foreign accessed (by rw [same])
      exact .inl (bound.selectWithClientIP _ _ differs (late.trans ordered))
    | cleanup =>
      -- A session that is deleted has not been used for longer than the timeout.
      by_cases stale : ∃ p, state.affinity.sessions clientIP = some p ∧
          Go.since now (state.affinity.table p).lastAccess > state.affinity.timeout
      · right
        obtain ⟨p, found, exceeded⟩ := stale
        obtain ⟨q, filed, _, early, used⟩ := bound
        obtain rfl : p = q := Option.some.inj (found.symm.trans filed)
        have elapsed := Go.since_le_sub (used.trans late)
        change state.affinity.timeout ≤ now - last
        omega
      · left
        refine (bound.later late).keepSessions ?_
        intro p found
        have fresh := not_exists.mp stale p
        simpa [found] using fresh
    | clearSession other =>
      have differs : clientIP ≠ other := fun same => uncleared.1 (by rw [same])
      exact .inl ((bound.later late).keepSessions fun _ _ => by simpa using differs)
    | clearAllSessions => exact absurd rfl uncleared.2
    | backends heap => exact .inl (bound.later late)
    | balancer balancer => exact .inl (bound.later late)
  · right
    rw [apply_timeout]
    omega

/-- A client that calls in time is given its backend, and keeps it. -/
theorem Kept.call (kept : state.Kept clientIP b last) (late : state.clock ≤ now)
    (prompt : now - last < state.affinity.timeout) (healthy : state.heap.isHealthy b = true)
    {accessed : Int} (ordered : now ≤ accessed)
    (select : BackendHeap → β → β × Except String (Option Nat)) :
    state.Sticks clientIP b (now, .selectWithClientIP clientIP accessed) ∧
      (state.apply select now (.selectWithClientIP clientIP accessed)).Kept clientIP b now := by
  -- The session is there, since its time has not run out.
  have bound : BoundSince clientIP b last state.clock state.affinity := by
    rcases kept with bound | expired
    · exact bound
    · omega
  obtain ⟨p, hit, backend⟩ := bound.exists_lookup healthy late prompt
  have answer (select : BackendHeap → β → β × Except String (Option Nat)) :
      state.call select clientIP now accessed =
        (state.affinity.touch p accessed, .ok (some b)) := by
    simp only [Sessions.call, SessionAffinity.selectWithClientIP, hit, backend]
  constructor
  · intro read same other
    cases same
    rw [answer other]
    exact ⟨rfl, rfl⟩
  · exact .inl (boundSince_of_answer ordered (congrArg Prod.snd (answer select)))

/-- A call of the client is one more of its call times. -/
theorem callTimes_own (accessed : Int) (events : List (Int × SessionsEvent β)) :
    callTimes clientIP ((now, .selectWithClientIP clientIP accessed) :: events) =
      now :: callTimes clientIP events := by
  simp [callTimes]

/-- No other event is one of its call times. -/
theorem callTimes_foreign {event : SessionsEvent β}
    (foreign : ∀ accessed, event ≠ .selectWithClientIP clientIP accessed)
    (events : List (Int × SessionsEvent β)) :
    callTimes clientIP ((now, event) :: events) = callTimes clientIP events := by
  cases event with
  | selectWithClientIP caller accessed =>
    have differs : caller ≠ clientIP := fun same => foreign accessed (by rw [same])
    simp [callTimes, differs]
  | _ => rfl

/-- A client that has its backend and calls in time is given it at every call. -/
theorem Kept.along {events : List (Int × SessionsEvent β)} {final : Sessions β}
    (kept : state.Kept clientIP b last) (ran : exec (step select) state events = some final)
    (prompt : (last :: callTimes clientIP events).IsChain fun earlier later =>
      later - earlier < state.affinity.timeout)
    (healthy : Along (step select) (fun state _ => state.heap.isHealthy b = true) state events)
    (uncleared : ∀ event ∈ events,
      event.2 ≠ .clearSession clientIP ∧ event.2 ≠ .clearAllSessions) :
    Along (step select) (Sticks clientIP b) state events := by
  -- Each call of the client starts the time for its session anew, and nothing else matters to it.
  induction events generalizing state last with
  | nil => trivial
  | cons event events ih =>
    obtain ⟨now, event⟩ := event
    obtain ⟨next, taken, later⟩ := exec_cons_eq_some.mp ran
    obtain ⟨⟨late, ordered⟩, reached⟩ := step_eq_some.mp taken
    obtain ⟨clear, clearLater⟩ := List.forall_mem_cons.mp uncleared
    have timeout : next.affinity.timeout = state.affinity.timeout := by
      rw [← reached, apply_timeout]
    -- There is only one state that the event leads to.
    suffices here : state.Sticks clientIP b (now, event) ∧
        Along (step select) (Sticks clientIP b) next events by
      refine ⟨here.1, ?_⟩
      intro other again
      cases taken.symm.trans again
      exact here.2
    by_cases own : ∃ accessed, event = .selectWithClientIP clientIP accessed
    · obtain ⟨accessed, rfl⟩ := own
      rw [callTimes_own, List.isChain_cons_cons] at prompt
      have ended : now ≤ accessed := ordered
      obtain ⟨sticks, stays⟩ := kept.call late prompt.1 healthy.1 ended select
      rw [reached] at stays
      rw [← timeout] at prompt
      exact ⟨sticks, ih stays later prompt.2 (healthy.2 _ taken) clearLater⟩
    · have foreign := not_exists.mp own
      rw [callTimes_foreign foreign] at prompt
      have stays := kept.apply late ordered foreign clear
      rw [reached] at stays
      rw [← timeout] at prompt
      refine ⟨fun accessed same => absurd same (foreign accessed), ?_⟩
      exact ih stays later prompt (healthy.2 _ taken) clearLater

/--
Once a call of a client has been answered with a backend, all its later calls are answered with it
and without asking the balancer, whatever other clients and the cleanup do in between.

This is so as long as each call comes less than the timeout after the one before it, the backend
stays healthy, and nobody clears the session.
-/
theorem client_sticks_to_backend (select : BackendHeap → β → β × Except String (Option Nat))
    (start state final : Sessions β) (clientIP : List UInt8) (b : Nat) (now accessed : Int)
    (events : List (Int × SessionsEvent β))
    (called : start.step select (now, .selectWithClientIP clientIP accessed) = some state)
    (answered : (start.call select clientIP now accessed).2 = .ok (some b))
    (ran : exec (step select) state events = some final)
    (prompt : (now :: callTimes clientIP events).IsChain fun earlier later =>
      later - earlier < start.affinity.timeout)
    (healthy : Along (step select) (fun state _ => state.heap.isHealthy b = true) state events)
    (uncleared : ∀ event ∈ events,
      event.2 ≠ .clearSession clientIP ∧ event.2 ≠ .clearAllSessions) :
    Along (step select) (Sticks clientIP b) state events := by
  -- The first call leaves the client with a session at the backend.
  obtain ⟨⟨_, ordered⟩, rfl⟩ := step_eq_some.mp called
  have kept : (start.apply select now (.selectWithClientIP clientIP accessed)).Kept clientIP b
      now := .inl (boundSince_of_answer ordered answered)
  refine kept.along ran ?_ healthy uncleared
  rw [apply_timeout]
  exact prompt

/-- A client stays with the first backend of a rotation, while another one and the cleanup come. -/
theorem client_sticks_through_cleanup :
    let select : BackendHeap → Nat → Nat × Except String (Option Nat) :=
      fun _ turn => (turn + 1, .ok (some turn))
    let heap : BackendHeap := fun _ => newBackend "a" "10.0.0.1:80" 1
    let start : Sessions Nat := ⟨heap, newSessionAffinity 0 10, 0⟩
    let events : List (Int × SessionsEvent Nat) :=
      [(5, .selectWithClientIP (bytesOf "other") 6), (9, .cleanup), (10, .selectWithClientIP (bytesOf "client") 10),
        (19, .selectWithClientIP (bytesOf "client") 19)]
    ∃ state final, start.step select (1, .selectWithClientIP (bytesOf "client") 2) = some state ∧
      exec (step select) state events = some final ∧ final.affinity.balancer = 2 ∧
        Along (step select) (Sticks (bytesOf "client") 0) state events := by
  -- The balancer is asked twice, once for each client.
  intro select heap start events
  refine ⟨_, _, rfl, rfl, rfl, ?_⟩
  refine client_sticks_to_backend select start _ _ (bytesOf "client") 0 1 2 events rfl rfl rfl ?_ ?_ ?_
  · decide
  · decide
  · simp [events]

end Sessions

end Balance
