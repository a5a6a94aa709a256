import Balance.Proxy.Readmission

/-! Why backends are taken out of rotation: for their own failures, or for those of clients. -/

namespace Balance

open Machine

namespace ProxyServer

variable {server next : ProxyServer} {frame after : HandlerFrame} {choice : HandlerChoice}

/-- A handler comes to mark a backend because it has just not reached it. -/
theorem advance_failing {b : Nat} {exchange : Exchange}
    (advanced : server.advance frame choice = some (next, .failing b exchange)) :
    next = server ∧ frame = .reaching b exchange ∧ ∃ cause, choice = .failed cause := by
  -- Of all steps, only the failure to reach a backend ends there.
  rcases advance_cases advanced with ⟨clientIP, other, rfl, entered⟩ |
    ⟨c, other, rfl, rfl, rfl, ended⟩ | ⟨c, rfl, ended, rfl⟩ | ⟨c, other, before, _, _⟩
  · rcases (enter_cases entered).2.2.2 with ended | ⟨c, _, ended⟩ <;> cases ended
  · cases ended
  · cases ended
  · unfold advance at advanced
    split at advanced
    · cases advanced
    · rcases before with rfl | rfl
      · cases choice with
        | failed cause =>
          cases advanced
          exact ⟨rfl, rfl, cause, rfl⟩
        | reached => cases advanced
        | arrive arrival => cases advanced
        | ended error => cases advanced
        | run => cases advanced
      · cases choice with
        | ended error =>
          cases other <;> cases error <;> cases advanced
        | failed cause => cases other <;> cases advanced
        | reached => cases other <;> cases advanced
        | arrive arrival => cases other <;> cases advanced
        | run => cases other <;> cases advanced

end ProxyServer

/--
A server with its handlers, and on the side why the last exchange of each handler failed, and
which flags have turned false since the start, each with the reason that its handler had.
-/
structure Blame where
  world : ProxyWorld
  cause : Nat → Option FailureCause
  drops : List (Nat × Option FailureCause)

namespace Blame

/-- A server that has no client yet, and nothing on the side. -/
def start (server : ProxyServer) : Blame := ⟨ProxyWorld.start server, fun _ => none, []⟩

/-- Whether a step cancels something that a client cannot cancel: anything but a round trip. -/
def overreaches (state : Blame) (label : Nat × HandlerChoice) : Bool :=
  match label.2, state.world.frame label.1 with
  | .failed .cancelled, .reaching _ (.roundTrip _) => false
  | .failed .cancelled, _ => true
  | _, _ => false

/-- The reasons on the side after a step. -/
def causeAfter (state : Blame) (label : Nat × HandlerChoice) : Nat → Option FailureCause :=
  match label.2 with
  | .failed cause => Function.update state.cause label.1 (some cause)
  | _ => state.cause

/-- The flags on the side after a step: that of the handler's own backend may have turned false. -/
def dropsAfter (state : Blame) (label : Nat × HandlerChoice) (next : ProxyWorld) :
    List (Nat × Option FailureCause) :=
  match (state.world.frame label.1).backend with
  | none => state.drops
  | some b =>
    if state.world.shared.heap.isHealthy b = true ∧ next.shared.heap.isHealthy b = false then
      (b, state.cause label.1) :: state.drops
    else state.drops

/-- One handler takes its next step. -/
def step (state : Blame) (label : Nat × HandlerChoice) : Option Blame :=
  if state.overreaches label then none
  else (state.world.step label).map fun next =>
    ⟨next, state.causeAfter label, state.dropsAfter label next⟩

variable {state next : Blame} {label : Nat × HandlerChoice}

/-- A step is one of the server, with the notes on the side brought up to date. -/
theorem step_eq_some (taken : state.step label = some next) :
    state.overreaches label = false ∧ state.world.step label = some next.world ∧
      next.cause = state.causeAfter label ∧ next.drops = state.dropsAfter label next.world := by
  -- The server takes the step, and nothing on the side can stop it.
  unfold step at taken
  split at taken
  · cases taken
  · rename_i within
    obtain ⟨world, moved, rfl⟩ := Option.map_eq_some_iff.mp taken
    exact ⟨by simpa using within, moved, rfl, rfl⟩

/-- Every flag that turns false is noted, with the reason of the handler that took the step. -/
theorem step_drops (taken : state.step label = some next) {b : Nat}
    (before : state.world.shared.heap.isHealthy b = true)
    (after : next.world.shared.heap.isHealthy b = false) :
    (b, state.cause label.1) ∈ next.drops := by
  -- A handler marks the backend that it is busy with, and no other.
  obtain ⟨_, moved, _, drops⟩ := step_eq_some taken
  obtain ⟨thread, choice⟩ := label
  obtain ⟨server, frame, advanced, reached⟩ := Threads.step_eq_some.mp moved
  rw [reached] at after
  rcases ProxyServer.advance_isHealthy advanced with ⟨c, exchange, failing, _, heap⟩ | ⟨_, same⟩
  · have marked : b = c := by
      by_contra differs
      rw [heap] at after
      simp [BackendHeap.markUnhealthy, differs, before] at after
    subst marked
    rw [← reached] at after
    rw [drops, dropsAfter]
    simp only [failing, HandlerFrame.backend]
    rw [if_pos ⟨before, after⟩]
    exact List.mem_cons_self
  · rw [same b, before] at after
    cases after

/-- What is noted is that a handler about to mark a backend in rotation has done so. -/
theorem mem_drops (taken : state.step label = some next) {drop : Nat × Option FailureCause}
    (member : drop ∈ next.drops) :
    drop ∈ state.drops ∨ ∃ exchange, state.world.frame label.1 = .failing drop.1 exchange ∧
      state.world.shared.heap.isHealthy drop.1 = true ∧ drop.2 = state.cause label.1 := by
  -- A flag turns false in the step that marks it.
  obtain ⟨_, moved, _, drops⟩ := step_eq_some taken
  obtain ⟨thread, choice⟩ := label
  obtain ⟨server, frame, advanced, reached⟩ := Threads.step_eq_some.mp moved
  rw [drops, dropsAfter] at member
  split at member
  · exact .inl member
  · rename_i b busy
    split at member
    · rename_i turned
      rcases List.mem_cons.mp member with rfl | earlier
      · right
        rw [reached] at turned
        rcases ProxyServer.advance_isHealthy advanced with
          ⟨c, exchange, failing, _, _⟩ | ⟨_, same⟩
        · simp only [failing, HandlerFrame.backend, Option.some.injEq] at busy
          subst busy
          exact ⟨exchange, failing, turned.1, rfl⟩
        · have unchanged := turned.2
          simp only [same b, turned.1] at unchanged
          cases unchanged
      · exact .inl earlier
    · exact .inl member

/-- Every flag that has turned false did so in a step whose exchange the backend had failed. -/
def Blameless (state : Blame) : Prop := ∀ drop ∈ state.drops, drop.2 = some .backend

/-- A client that goes away leaves a round trip whose backend is out of rotation already. -/
def Harmless (state : Blame) (label : Nat × HandlerChoice) : Prop :=
  label.2 = .failed .cancelled → ∀ b exchange,
    state.world.frame label.1 = .reaching b exchange →
      state.world.shared.heap.isHealthy b = false

/-- A handler that is about to mark a backend in rotation has the backend to blame. -/
structure Fair (state : Blame) : Prop where
  failing : ∀ thread b exchange, state.world.frame thread = .failing b exchange →
    state.cause thread = some .backend ∨ state.world.shared.heap.isHealthy b = false
  blameless : state.Blameless

/-- A harmless step keeps things fair. -/
theorem Fair.step (fair : Fair state) (harmless : state.Harmless label)
    (taken : state.step label = some next) : Fair next := by
  -- The one step that could spoil it is a client that goes away.
  obtain ⟨_, moved, cause, _⟩ := step_eq_some taken
  obtain ⟨thread, choice⟩ := label
  obtain ⟨server, frame, advanced, reached⟩ := Threads.step_eq_some.mp moved
  refine ⟨?_, ?_⟩
  · intro other b exchange place
    rw [reached] at place
    by_cases own : other = thread
    · -- The handler has just failed to reach the backend.
      subst own
      simp only [Function.update_self] at place
      subst place
      obtain ⟨rfl, reaching, why, rfl⟩ := ProxyServer.advance_failing advanced
      cases why with
      | backend =>
        left
        rw [cause]
        exact Function.update_self _ _ _
      | cancelled =>
        right
        rw [reached]
        exact harmless rfl b exchange reaching
    · -- Another handler stands where it stood, with the reason it had.
      simp only [Function.update_of_ne own] at place
      rcases fair.failing other b exchange place with blamed | out
      · left
        rw [cause, causeAfter]
        cases choice with
        | failed why => exact (Function.update_of_ne own _ _).trans blamed
        | _ => exact blamed
      · right
        exact ProxyWorld.step_unhealthy moved out
  · -- Who marks a backend in rotation has it to blame.
    intro drop member
    rcases mem_drops taken member with earlier | ⟨exchange, failing, healthy, noted⟩
    · exact fair.blameless drop earlier
    · rcases fair.failing thread drop.1 exchange failing with blamed | out
      · exact noted.trans blamed
      · rw [healthy] at out
        cases out

/-- A client that leaves a round trip with a backend in rotation takes the backend out. -/
theorem strays_of_harm (taken : state.step label = some next) (unmet : ¬ state.Harmless label) :
    ∃ final, Leads step Harmless next final ∧ ¬ Blameless final := by
  -- The handler goes on to mark the backend, which is still in rotation.
  obtain ⟨thread, choice⟩ := label
  simp only [Harmless, not_forall] at unmet
  obtain ⟨rfl, b, exchange, reaching, healthy⟩ := unmet
  replace healthy : state.world.shared.heap.isHealthy b = true := by simpa using healthy
  obtain ⟨_, moved, cause, _⟩ := step_eq_some taken
  obtain ⟨server, frame, advanced, reached⟩ := Threads.step_eq_some.mp moved
  rw [reaching] at advanced
  have running : state.world.shared.crashed = false := by
    by_contra crashed
    simp [ProxyServer.advance, crashed] at advanced
  have waits : server = state.world.shared ∧ frame = .failing b exchange := by
    simpa [ProxyServer.advance, running, eq_comm] using advanced
  obtain ⟨rfl, rfl⟩ := waits
  have failing : next.world.frame thread = .failing b exchange := by
    rw [reached]
    exact Function.update_self _ _ _
  have shared : next.world.shared = state.world.shared := by rw [reached]
  let marked : ProxyWorld := ⟨{ next.world.shared.countError with
    heap := next.world.shared.heap.markUnhealthy b }, Function.update next.world.frame thread
      (.closing b)⟩
  have marks : next.world.step (thread, .run) = some marked := by
    apply Threads.step_eq_some.mpr
    refine ⟨_, .closing b, ?_, rfl⟩
    rw [failing]
    simp only [ProxyServer.advance, shared, running]
    rfl
  have out : marked.shared.heap.isHealthy b = false := by
    simp [marked, BackendHeap.markUnhealthy]
  have last : next.step (thread, .run) =
      some ⟨marked, next.cause, next.dropsAfter (thread, .run) marked⟩ := by
    simp only [step, overreaches, causeAfter, marks]
    rfl
  have harmless : next.Harmless (thread, .run) := by
    intro left
    cases left
  refine ⟨_, Leads.head (thread, .run) harmless last (Leads.refl _), ?_⟩
  -- The note says that the client had gone away.
  intro blameless
  have noted := step_drops last (shared ▸ healthy) out
  have why : next.cause thread = some .cancelled := by
    rw [cause]
    exact Function.update_self _ _ _
  have blamed := blameless _ noted
  simp only [why] at blamed
  cases blamed

/--
A backend leaves rotation for its own failures only, in every run in which no client leaves a round
trip whose backend is in rotation; and each client that does can take the backend out.
-/
theorem drops_blamed_iff (server : ProxyServer) :
    Guards step Harmless Blameless (start server) := by
  -- Nobody is failing and nothing is out of rotation for any reason at the start.
  apply guards_of_invariant Fair
  · intro state label next fair harmless taken
    exact fair.step harmless taken
  · intro state fair
    exact fair.blameless
  · intro state label next _ taken unmet
    exact strays_of_harm taken unmet
  · exact ⟨nofun, nofun⟩

/-- An HTTP server over one backend. -/
def plainConfig : Config where
  mode := "http"
  listen := ":8080"
  backends := [⟨"b", "127.0.0.1:9000", 1⟩]
  loadBalancer := ⟨"round-robin", ""⟩
  http := none
  tls := none
  healthCheck := none
  rateLimit := none

/-- A request that its client gives up takes the only backend out of rotation. -/
theorem cancelled_request_drops_backend :
    ∃ server, startup plainConfig = .ok server ∧ server.heap.isHealthy 0 = true ∧
      ∃ final, exec step (start server)
          [(0, .arrive (.request (.plain "/" ""))),
            (0, .failed .cancelled), (0, .run)] = some final ∧
        final.world.shared.heap.isHealthy 0 = false ∧ final.drops = [(0, some .cancelled)] := by
  -- The round trip fails with the client, and the error handler marks the backend.
  refine ⟨_, rfl, rfl, _, rfl, ?_⟩
  decide

end Blame

end Balance
