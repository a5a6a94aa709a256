import Balance.Proxy.Server

/-! Whether a running server ever takes a backend back into rotation. -/

namespace Balance

open Machine

namespace ProxyServer

variable {server next : ProxyServer} {frame after : HandlerFrame} {choice : HandlerChoice}

/-- The server and the backend of one handler belong together. -/
structure Fits (server : ProxyServer) (frame : HandlerFrame) : Prop where
  balancer : server.balancer.OwnedBy server.pool
  backend : ∀ b, frame.backend = some b → b ∈ server.pool

/-- A step keeps the pool, and keeps balancer and handler to it. -/
theorem Fits.advance (fits : Fits server frame)
    (advanced : server.advance frame choice = some (next, after)) :
    next.pool = server.pool ∧ Fits next after := by
  -- Only a new handler changes the balancer, and takes its backend from the pool.
  rcases advance_cases advanced with ⟨clientIP, exchange, rfl, entered⟩ |
    ⟨b, exchange, rfl, rfl, rfl, rfl⟩ | ⟨b, rfl, rfl, rfl⟩ | ⟨b, exchange, before, later, same⟩
  · obtain ⟨pool, balancer, _, selected⟩ := enter_cases entered
    refine ⟨pool, ?_, ?_⟩
    · rw [pool, balancer]
      exact fits.balancer.selectFor _ _
    · intro b busy
      rw [pool]
      rcases selected with rfl | ⟨found, chosen, rfl⟩
      · cases busy
      · obtain rfl := Option.some.inj busy
        exact LoadBalancer.selectFor_mem fits.balancer chosen
  · obtain ⟨stats, counted⟩ := countError_eq server
    rw [counted]
    exact ⟨rfl, fits.balancer, fits.backend⟩
  · refine ⟨rfl, fits.balancer, ?_⟩
    intro other busy
    cases busy
  · obtain ⟨stats, counted⟩ := countError_eq server
    have kept : next.pool = server.pool ∧ next.balancer = server.balancer := by
      rcases same with rfl | rfl
      · exact ⟨rfl, rfl⟩
      · rw [counted]
        exact ⟨rfl, rfl⟩
    refine ⟨kept.1, ?_, ?_⟩
    · rw [kept.1, kept.2]
      exact fits.balancer
    · intro other busy
      rw [kept.1]
      rw [later] at busy
      apply fits.backend
      rcases before with rfl | rfl <;> exact busy

/-- A step writes a flag only to mark the backend that a handler could not reach. -/
theorem advance_isHealthy (advanced : server.advance frame choice = some (next, after)) :
    (∃ b exchange, frame = .failing b exchange ∧ choice = .run ∧
        next.heap = server.heap.markUnhealthy b) ∨
      (∀ b exchange, ¬ (frame = .failing b exchange ∧ choice = .run)) ∧
        ∀ b, next.heap.isHealthy b = server.heap.isHealthy b := by
  -- Of all steps, only the one of a failing handler writes a flag.
  rcases advance_cases advanced with ⟨clientIP, exchange, rfl, entered⟩ |
    ⟨b, exchange, rfl, rfl, rfl, rfl⟩ | ⟨b, rfl, rfl, rfl⟩ | ⟨b, exchange, before, later, same⟩
  · right
    refine ⟨?_, (enter_cases entered).2.2.1⟩
    intro b exchange given
    rcases given with ⟨impossible, _⟩
    cases impossible
  · exact .inl ⟨b, exchange, rfl, rfl, rfl⟩
  · right
    refine ⟨?_, ?_⟩
    · intro other exchange given
      rcases given with ⟨impossible, _⟩
      cases impossible
    · intro other
      simp [BackendHeap.decrementConnections]
  · right
    refine ⟨?_, ?_⟩
    · intro other exchanged given
      rcases given with ⟨failing, _⟩
      rw [failing] at before
      rcases before with impossible | impossible <;> cases impossible
    · intro other
      obtain ⟨stats, counted⟩ := countError_eq server
      rcases same with rfl | rfl
      · rfl
      · rw [counted]

/-- A server that starts has a balancer over its own pool, and all its backends in rotation. -/
theorem startup_ok {config : Config} (started : startup config = .ok server) :
    server.balancer.OwnedBy server.pool ∧ ∀ b, server.heap.isHealthy b = true := by
  -- Both modes build the same server.
  have built (http : Option HTTPConfig) (config : Config)
      (made : newServer http config = .ok server) :
      server.balancer.OwnedBy server.pool ∧ ∀ b, server.heap.isHealthy b = true := by
    simp only [newServer] at made
    split at made
    · cases made
    · rename_i balancer balanced
      cases made
      refine ⟨newLoadBalancer_ownedBy balanced, ?_⟩
      intro b
      simp only [BackendHeap.isHealthy, configuredBackends]
      split <;> rfl
  unfold startup at started
  split at started
  · cases started
  · split at started
    · exact built _ _ started
    · split at started
      · simp only [newHTTPServer] at started
        split at started
        · cases started
        · rename_i made
          split at started
          · cases started
          · cases started
            exact built _ _ made
      · cases started

end ProxyServer

namespace ProxyWorld

/-- The step is the one in which a handler marks the backend that it could not reach. -/
def Marks (world : ProxyWorld) (label : Nat × HandlerChoice) : Prop :=
  ∃ b exchange, world.frame label.1 = .failing b exchange ∧ label.2 = .run

/-- All backends of the pool are in rotation. -/
def AllHealthy (world : ProxyWorld) : Prop :=
  ∀ b ∈ world.shared.pool, world.shared.heap.isHealthy b = true

/--
Every backend that is out of rotation returns in some continuation of the run.

In the continuation every backend that is tried is reached.
-/
def Readmittable (world : ProxyWorld) : Prop :=
  ∀ b ∈ world.shared.pool, world.shared.heap.isHealthy b = false →
    ∃ labels final, exec step world labels = some final ∧
      (∀ label ∈ labels, ∀ cause, label.2 ≠ .failed cause) ∧
      final.shared.heap.isHealthy b = true

/-- Balancer and handlers keep to the pool. -/
def Sound (world : ProxyWorld) : Prop :=
  ∀ thread, ProxyServer.Fits world.shared (world.frame thread)

/-- Every step keeps the pool, and balancer and handlers to it. -/
theorem Sound.step {world next : ProxyWorld} {label : Nat × HandlerChoice} (sound : Sound world)
    (taken : step world label = some next) : next.shared.pool = world.shared.pool ∧ Sound next := by
  -- The step concerns one handler, and the others keep their backends.
  obtain ⟨server, frame, advanced, rfl⟩ := Threads.step_eq_some.mp taken
  obtain ⟨pool, fits⟩ := (sound label.1).advance advanced
  refine ⟨pool, ?_⟩
  intro thread
  by_cases here : thread = label.1
  · subst here
    simpa using fits
  · refine ⟨fits.balancer, ?_⟩
    intro b busy
    simp only [Function.update_of_ne here] at busy
    rw [pool]
    exact (sound thread).backend b busy

/-- No step takes a backend back into rotation. -/
theorem step_unhealthy {world next : ProxyWorld} {label : Nat × HandlerChoice} {b : Nat}
    (taken : step world label = some next) (out : world.shared.heap.isHealthy b = false) :
    next.shared.heap.isHealthy b = false := by
  -- A step marks some backend, which only takes out, or writes no flag.
  obtain ⟨server, frame, advanced, rfl⟩ := Threads.step_eq_some.mp taken
  rcases ProxyServer.advance_isHealthy advanced with ⟨marked, exchange, _, _, heap⟩ | ⟨_, same⟩
  · simp only [heap, BackendHeap.markUnhealthy, BackendHeap.storeHealthy_isHealthy, out, ite_self]
  · rw [same b]
    exact out

/-- No run takes a backend back into rotation. -/
theorem exec_unhealthy {world final : ProxyWorld} {labels : List (Nat × HandlerChoice)} {b : Nat}
    (ran : exec step world labels = some final) (out : world.shared.heap.isHealthy b = false) :
    final.shared.heap.isHealthy b = false :=
  exec_invariant (fun world => world.shared.heap.isHealthy b = false)
    (fun _ _ _ holds taken => step_unhealthy taken holds) out ran

/-- The only hope for a backend out of rotation is that there is none. -/
theorem readmittable_iff_allHealthy (world : ProxyWorld) :
    world.Readmittable ↔ world.AllHealthy := by
  -- A backend that is out stays out in every continuation.
  constructor
  · intro readmittable b member
    by_contra notHealthy
    have out : world.shared.heap.isHealthy b = false := by simpa using notHealthy
    obtain ⟨labels, final, ran, _, back⟩ := readmittable b member out
    rw [exec_unhealthy ran out] at back
    cases back
  · intro healthy b member out
    rw [healthy b member] at out
    cases out

/-- A step leaves all backends in rotation exactly when they were and it marks none. -/
theorem step_allHealthy_iff {world next : ProxyWorld} {label : Nat × HandlerChoice}
    (sound : Sound world) (taken : step world label = some next) :
    next.AllHealthy ↔ world.AllHealthy ∧ ¬ Marks world label := by
  -- The step marks a backend or writes no flag at all.
  have pool := (sound.step taken).1
  obtain ⟨server, frame, advanced, rfl⟩ := Threads.step_eq_some.mp taken
  simp only at pool
  rcases ProxyServer.advance_isHealthy advanced with
    ⟨b, exchange, failing, runs, heap⟩ | ⟨idle, same⟩
  · -- The backend marked is one of the pool, since its handler had selected it there.
    have member : b ∈ world.shared.pool := (sound label.1).backend b (by rw [failing]; rfl)
    constructor
    · intro healthy
      have marked := healthy b (by rw [pool]; exact member)
      simp [heap, BackendHeap.markUnhealthy] at marked
    · intro given
      rcases given with ⟨_, unmarked⟩
      exact absurd ⟨b, exchange, failing, runs⟩ unmarked
  · have unmarked : ¬ Marks world label := by
      intro given
      rcases given with ⟨b, exchange, both⟩
      exact idle b exchange both
    simp only [AllHealthy, pool, same, unmarked, not_false_eq_true, and_true]

/-- A run leaves all backends in rotation exactly when they were and no step marks one. -/
theorem exec_allHealthy_iff {world final : ProxyWorld} {labels : List (Nat × HandlerChoice)}
    (sound : Sound world) (ran : exec step world labels = some final) :
    final.AllHealthy ↔
      world.AllHealthy ∧ Along step (fun world label => ¬ Marks world label) world labels := by
  -- Each step adds its own condition to those of the rest.
  induction labels generalizing world with
  | nil =>
    cases ran
    simp [Along]
  | cons label rest ih =>
    obtain ⟨next, taken, ran⟩ := exec_cons_eq_some.mp ran
    rw [ih (sound.step taken).2 ran, step_allHealthy_iff sound taken]
    simp only [Along, taken, Option.some.injEq, forall_eq', and_assoc]

/--
Whatever is out of rotation can return exactly when no handler has marked a backend so far, that
is, when nothing is out of rotation.
-/
theorem readmittable_iff_never_marked {config : Config} {server : ProxyServer} {world : ProxyWorld}
    {labels : List (Nat × HandlerChoice)} (started : startup config = .ok server)
    (ran : exec step (start server) labels = some world) :
    world.Readmittable ↔
      Along step (fun world label => ¬ Marks world label) (start server) labels := by
  -- A server starts with all backends in rotation, and only marks take one out.
  obtain ⟨owned, healthy⟩ := ProxyServer.startup_ok started
  have sound : Sound (start server) := by
    intro thread
    refine ⟨owned, ?_⟩
    intro b busy
    cases busy
  rw [readmittable_iff_allHealthy, exec_allHealthy_iff sound ran]
  exact and_iff_right fun b _ => healthy b

/-- A TCP server over one backend, with health checks asked for. -/
def checkedConfig : Config where
  mode := "tcp"
  listen := ":8080"
  backends := [⟨"b", "127.0.0.1:9000", 1⟩]
  loadBalancer := ⟨"round-robin", ""⟩
  http := none
  tls := none
  healthCheck := some ⟨true, 0, 0, 0, 0, "", none⟩
  rateLimit := none

/-- The server that it starts. -/
def checkedServer : ProxyServer where
  http := none
  heap := configuredBackends [⟨"b", "127.0.0.1:9000", 1⟩]
  pool := [0]
  balancer := .roundRobin ⟨0⟩
  stats := ⟨0, 0, 0⟩
  crashed := false

/-- A client that connects. -/
def client : Arrival := .connection (bytesOf "10.0.0.1")

/-- A server that has reached its backend each time can readmit whatever is out. -/
theorem served_connection_readmittable :
    startup checkedConfig = .ok checkedServer ∧
      ∃ world, exec step (start checkedServer)
          [(0, .arrive client), (0, .reached), (0, .ended false), (0, .run)] =
            some world ∧
        world.Readmittable := by
  -- The run evaluates, and none of its steps is taken by a failing handler.
  have started : startup checkedConfig = .ok checkedServer := rfl
  have served : ∃ world, exec step (start checkedServer)
      [(0, .arrive client), (0, .reached), (0, .ended false), (0, .run)] =
        some world := ⟨_, rfl⟩
  obtain ⟨world, ran⟩ := served
  refine ⟨started, world, ran, (readmittable_iff_never_marked started ran).mpr ?_⟩
  -- Only the last step is one that a failing handler could take, and it is closing by then.
  refine ⟨?_, fun _ arrived => ⟨?_, fun _ reached => ⟨?_, fun _ ended => ⟨?_, fun _ _ => trivial⟩⟩⟩⟩
  · intro given
    rcases given with ⟨_, _, _, ⟨⟩⟩
  · intro given
    rcases given with ⟨_, _, _, ⟨⟩⟩
  · intro given
    rcases given with ⟨_, _, _, ⟨⟩⟩
  · cases arrived
    cases reached
    cases ended
    intro given
    rcases given with ⟨_, _, ⟨⟩, _⟩

/-- One failed dial takes the only backend out of rotation for good. -/
theorem failed_dial_final :
    startup checkedConfig = .ok checkedServer ∧
      ∃ world, exec step (start checkedServer)
          [(0, .arrive client), (0, .failed .backend), (0, .run)] = some world ∧
        0 ∈ world.shared.pool ∧ world.shared.heap.isHealthy 0 = false ∧ ¬ world.Readmittable := by
  -- The run evaluates to a state in which the only backend is out.
  have out : ∃ world, exec step (start checkedServer)
      [(0, .arrive client), (0, .failed .backend), (0, .run)] = some world ∧
        0 ∈ world.shared.pool ∧ world.shared.heap.isHealthy 0 = false :=
    ⟨_, rfl, by decide, rfl⟩
  obtain ⟨world, ran, member, unhealthy⟩ := out
  refine ⟨rfl, world, ran, member, unhealthy, ?_⟩
  intro readmittable
  have healthy := (readmittable_iff_allHealthy world).mp readmittable 0 member
  rw [unhealthy] at healthy
  cases healthy

end ProxyWorld

end Balance
