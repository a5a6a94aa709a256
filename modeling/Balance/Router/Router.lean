import Balance.Backend.Backend
import Balance.Go.Order
import Balance.Tls.CertManager
import Balance.Transform.Headers

/-! The router of HTTP requests: which route a request matches, and whose pool it gets. -/

namespace Balance

/-- Whether the host of a request is the host of a route, or below it for a wildcard. -/
def matchHost (requestHost routeHost : List UInt8) : Bool :=
  -- The port is cut off.
  let requestHost :=
    match requestHost.idxOf? colon with
    | some index => requestHost.take index
    | none => requestHost
  if requestHost = routeHost then true
  else if [star, dot].isPrefixOf routeHost then (routeHost.drop 1).isSuffixOf requestHost
  else false

section Hosts

variable {host port routeHost : List UInt8}

/-- A host without a colon is compared as it is. -/
theorem matchHost_iff (plain : colon ∉ host) :
    matchHost host routeHost ↔
      host = routeHost ∨ ∃ domain, routeHost = wildcard domain ∧ dot :: domain <:+ host := by
  -- There is no port to cut off, and the two comparisons are tried in turn.
  rw [← wildcard_suffix_iff, matchHost, List.idxOf?_eq_none_iff.mpr plain]
  dsimp only
  split
  case isTrue same => simp [same]
  case isFalse other =>
    split
    case isTrue shaped => simp [other, shaped]
    case isFalse plainRoute => simp [other, plainRoute]

/-- Everything from the first colon on is cut off. -/
theorem matchHost_cut (plain : colon ∉ host) :
    matchHost (host ++ colon :: port) routeHost = matchHost host routeHost := by
  -- The first colon is the one behind the host.
  have index : (host ++ colon :: port).idxOf? colon = some host.length := by
    induction host with
    | nil => simp [List.idxOf?_cons]
    | cons byte rest ih =>
      obtain ⟨first, others⟩ := not_or.mp (List.mem_cons.not.mp plain)
      rw [List.cons_append, List.idxOf?_cons, ih others, if_neg (by simpa using Ne.symm first)]
      simp
  rw [matchHost, matchHost, index, List.idxOf?_eq_none_iff.mpr plain]
  simp

/-- A host with a colon does not match itself. -/
theorem matchHost_self_of_colon (inside : colon ∈ host) : ¬ matchHost host host := by
  -- Only the part before its first colon is compared with the host.
  obtain ⟨front, back, rfl, plain⟩ := List.eq_append_cons_of_mem inside
  rw [matchHost_cut plain, matchHost_iff plain]
  rintro (same | ⟨domain, shaped, ends⟩)
  · simp at same
  · -- As a wildcard the host would have its colon in what the part before the colon ends with.
    rw [shaped, wildcard, List.mem_cons] at inside
    exact plain (ends.subset (inside.resolve_left (by decide)))

/--
A host, with or without a port, matches itself, the hosts that are equal to it and the wildcards
of what it ends in, exactly if it has no colon of its own.
-/
theorem matchHost_ignores_port_iff (host port routeHost : List UInt8) :
    (matchHost host host ∧ matchHost (host ++ colon :: port) host ∧
        matchHost (host ++ colon :: port) routeHost = matchHost host routeHost ∧
        (matchHost host routeHost ↔
          host = routeHost ∨ ∃ domain, routeHost = wildcard domain ∧ dot :: domain <:+ host)) ↔
      colon ∉ host := by
  constructor
  · rintro ⟨itself, _⟩ inside
    exact matchHost_self_of_colon inside itself
  · intro plain
    refine ⟨(matchHost_iff plain).mpr (Or.inl rfl), ?_, matchHost_cut plain, matchHost_iff plain⟩
    rw [matchHost_cut plain]
    exact (matchHost_iff plain).mpr (Or.inl rfl)

/-- An IPv6 literal is cut off at its first colon, and does not match itself. -/
theorem matchHost_literal_cut :
    matchHost (bytesOf "[::1]:80") (bytesOf "[::1]") = false ∧
      matchHost (bytesOf "[::1]") (bytesOf "[::1]") = false := by
  decide

end Hosts

/-- What the configuration says of a route. -/
structure Route where
  host : List UInt8
  pathPrefix : List UInt8
  headers : List (List UInt8 × List UInt8)
  backends : List String
  priority : Int

/-- What the router reads of a request. -/
structure RoutedRequest where
  host : List UInt8
  path : List UInt8
  header : Header

/--
Whether a request matches a route.

The headers of a route are a map, of which a loop asks for all entries; their order is no matter.
-/
def matchRoute (request : RoutedRequest) (route : Route) : Bool :=
  if route.host ≠ [] ∧ ¬ matchHost request.host route.host then false
  else if route.pathPrefix ≠ [] ∧ ¬ route.pathPrefix.isPrefixOf request.path then false
  else route.headers.all fun (key, value) => request.header.get key = value

/-- A route is for a request: its conditions on host, path and headers hold. -/
structure Route.Covers (route : Route) (request : RoutedRequest) : Prop where
  host : route.host = [] ∨ matchHost request.host route.host
  path : route.pathPrefix <+: request.path
  headers : ∀ key value, (key, value) ∈ route.headers → request.header.get key = value

/-- A request matches the routes that are for it. -/
theorem matchRoute_iff {request : RoutedRequest} {route : Route} :
    matchRoute request route ↔ route.Covers request := by
  -- The prefix that is not checked is the empty one, which every path has.
  have unchecked : (route.pathPrefix = [] ∨ route.pathPrefix <+: request.path) ↔
      route.pathPrefix <+: request.path :=
    or_iff_right_of_imp fun empty => empty ▸ List.nil_prefix
  have covers : route.Covers request ↔ (route.host = [] ∨ matchHost request.host route.host) ∧
      route.pathPrefix <+: request.path ∧
        ∀ key value, (key, value) ∈ route.headers → request.header.get key = value :=
    ⟨fun covers => ⟨covers.host, covers.path, covers.headers⟩,
      fun ⟨host, path, headers⟩ => ⟨host, path, headers⟩⟩
  rw [covers, ← unchecked, matchRoute]
  split
  case isTrue missed => simp [missed.1, missed.2]
  case isFalse host =>
    rw [not_and_or, not_not, not_not] at host
    split
    case isTrue missed =>
      have path : ¬ route.pathPrefix <+: request.path := by simpa using missed.2
      simp [missed.1, path]
    case isFalse path =>
      rw [not_and_or, not_not, not_not, List.isPrefixOf_iff_prefix] at path
      simp [host, path]

/-- A pool, told apart from the others by which route it was made for, if it was made for one. -/
structure RoutePool where
  made : Option Nat
  backends : Pool

/-- A route with its pool. -/
structure RouteEntry where
  config : Route
  pool : RoutePool

/-- The routes in the order in which they are tried, and the pool of all backends. -/
structure Router where
  routes : List RouteEntry
  defaultPool : RoutePool

/-- Puts the backends of the given names into a pool, as far as there are such. -/
def addBackends (heap : BackendHeap) (allBackends pool : Pool) (names : List String) : Pool :=
  names.foldl (fun pool name =>
    match allBackends.get heap name with
    | some b => pool.add b
    | none => pool) pool

/-- The entry of the route at a position of the configuration, with a pool of its own. -/
def routeEntry (heap : BackendHeap) (allBackends : Pool) (route : Route) (number : Nat) :
    RouteEntry where
  config := route
  pool := ⟨some number, addBackends heap allBackends [] route.backends⟩

/-- The entries of all routes in the order of the configuration. -/
def routeEntries (heap : BackendHeap) (allBackends : Pool) (routes : List Route) :
    List RouteEntry :=
  routes.zipIdx.map fun (route, number) => routeEntry heap allBackends route number

/-- Whether an entry has the higher priority of two. -/
def byPriority (entry other : RouteEntry) : Bool := entry.config.priority > other.config.priority

/-- A router whose entries have been sorted. -/
def newRouter (heap : BackendHeap) (allBackends : Pool) (routes : List Route)
    (sorting : Go.Sorting byPriority (routeEntries heap allBackends routes)) : Router where
  routes := sorting.result
  defaultPool := ⟨none, allBackends⟩

/-- The pool of the first route that a request matches, or the pool of all backends. -/
def Router.matchRequest (router : Router) (request : RoutedRequest) : RoutePool :=
  match router.routes.find? fun entry => matchRoute request entry.config with
  | some entry => entry.pool
  | none => router.defaultPool

/-- A pool gets the first backend of each name that there is one of, in the order of the names. -/
theorem addBackends_eq (heap : BackendHeap) (allBackends pool : Pool) (names : List String) :
    addBackends heap allBackends pool names = pool ++ names.filterMap (allBackends.get heap) := by
  -- Each round adds one backend or none.
  unfold addBackends
  induction names generalizing pool with
  | nil => simp
  | cons name rest ih =>
    rw [List.foldl_cons, ih]
    rcases found : allBackends.get heap name with _ | b
    · simp [found]
    · simp [found, Pool.add]

section Matching

variable {heap : BackendHeap} {allBackends : Pool} {routes : List Route}
  {request : RoutedRequest}

/-- The entries are those of the routes at their positions. -/
theorem mem_routeEntries {entry : RouteEntry} :
    entry ∈ routeEntries heap allBackends routes ↔
      ∃ number route, routes[number]? = some route ∧
        routeEntry heap allBackends route number = entry := by
  simp only [routeEntries, List.mem_map, Prod.exists, List.mem_zipIdx_iff_getElem?]
  exact exists_comm

/-- A route stands at a position and is for a request, and none that is has a higher priority. -/
structure Tops (routes : List Route) (request : RoutedRequest) (number : Nat) (route : Route) :
    Prop where
  listed : routes[number]? = some route
  covers : route.Covers request
  highest : ∀ other ∈ routes, other.Covers request → other.priority ≤ route.priority

/-- No route is for a request, or the pool is that of one with the highest priority. -/
theorem matchRequest_cases (sorting : Go.Sorting byPriority (routeEntries heap allBackends routes))
    (request : RoutedRequest) :
    ((∀ route ∈ routes, ¬ route.Covers request) ∧
        (newRouter heap allBackends routes sorting).matchRequest request = ⟨none, allBackends⟩) ∨
      ∃ number route, Tops routes request number route ∧
        (newRouter heap allBackends routes sorting).matchRequest request =
          (routeEntry heap allBackends route number).pool := by
  -- The first entry that matches is looked for in the sorted list.
  rcases found : sorting.result.find? fun entry => matchRoute request entry.config with _ | entry
  · left
    refine ⟨?_, by simp [Router.matchRequest, newRouter, found]⟩
    intro route listed covers
    obtain ⟨number, located⟩ := List.mem_iff_getElem?.mp listed
    exact sorting.find_eq_none_iff.mp found _
      (mem_routeEntries.mpr ⟨number, route, located, rfl⟩) (matchRoute_iff.mpr covers)
  · -- The first entry that matches is the entry of a route, and the sort puts none above it.
    right
    have matched : matchRoute request entry.config := by simpa using List.find?_some found
    obtain ⟨number, route, located, rfl⟩ :=
      mem_routeEntries.mp (sorting.perm.mem_iff.mp (List.mem_of_find?_eq_some found))
    refine ⟨number, route, ⟨located, matchRoute_iff.mp matched, ?_⟩,
      by simp [Router.matchRequest, newRouter, found]⟩
    intro other listed covers
    obtain ⟨place, placed⟩ := List.mem_iff_getElem?.mp listed
    rcases sorting.not_less_find found (mem_routeEntries.mpr ⟨place, other, placed, rfl⟩)
      (matchRoute_iff.mpr covers) with same | lower
    · have equal : other = route := congrArg RouteEntry.config same
      rw [equal]
    · simpa [byPriority, routeEntry] using lower

/-- Some way to sort the entries leads a request to any route with the highest priority. -/
theorem exists_sorting_of_tops (heap : BackendHeap) (allBackends : Pool) {number : Nat}
    {route : Route} (tops : Tops routes request number route) :
    ∃ sorting, (newRouter heap allBackends routes sorting).matchRequest request =
      (routeEntry heap allBackends route number).pool := by
  have asymmetric : ∀ entry other, byPriority entry other → byPriority other entry = false := by
    intro entry other higher
    simp only [byPriority, gt_iff_lt, decide_eq_true_eq, decide_eq_false_iff_not] at higher ⊢
    omega
  have transitive : ∀ first second third, byPriority second first = false →
      byPriority third second = false → byPriority third first = false := by
    intro first second third
    simp only [byPriority, gt_iff_lt, decide_eq_false_iff_not]
    omega
  -- An entry that matches is that of a route which is for the request.
  have top : ∀ entry ∈ routeEntries heap allBackends routes, matchRoute request entry.config →
      byPriority entry (routeEntry heap allBackends route number) = false := by
    intro entry listed matched
    obtain ⟨place, other, placed, rfl⟩ := mem_routeEntries.mp listed
    have lower := tops.highest other (List.mem_of_getElem? placed) (matchRoute_iff.mp matched)
    simpa [byPriority, routeEntry] using lower
  have listed := mem_routeEntries.mpr
    ⟨number, route, tops.listed, (rfl : routeEntry heap allBackends route number = _)⟩
  obtain ⟨sorting, found⟩ := Go.Sorting.exists_find asymmetric transitive listed
    (matchRoute_iff.mpr tops.covers) top
  refine ⟨sorting, ?_⟩
  simp [Router.matchRequest, newRouter, found]

end Matching

section Ties

variable {routes : List Route} {request : RoutedRequest}

/-- The first in the configuration of the routes with the highest priority. -/
structure TopsFirst (routes : List Route) (request : RoutedRequest) (number : Nat) (route : Route) :
    Prop extends Tops routes request number route where
  first : ∀ other route', Tops routes request other route' → number ≤ other

/-- Where there is a route with the highest priority, there is a first one. -/
theorem Tops.exists_first {number : Nat} {route : Route}
    (tops : Tops routes request number route) :
    ∃ first route', TopsFirst routes request first route' := by
  -- Positions are natural numbers, of which there is a least.
  classical
  have some_ : ∃ first route', Tops routes request first route' := ⟨number, route, tops⟩
  obtain ⟨route', topmost⟩ := Nat.find_spec some_
  exact ⟨Nat.find some_, route', topmost,
    fun other route'' above => Nat.find_min' some_ ⟨route'', above⟩⟩

/--
What a request gets, looked at in some way, is what the first of the routes with the highest
priority gives however the routes are sorted, exactly if all those routes give the same.
-/
theorem matchRequest_first_iff (heap : BackendHeap) (allBackends : Pool) (routes : List Route)
    (request : RoutedRequest) {ρ : Type} (seen : RoutePool → ρ) :
    (∀ sorting first route, TopsFirst routes request first route →
        seen ((newRouter heap allBackends routes sorting).matchRequest request) =
          seen (routeEntry heap allBackends route first).pool) ↔
      ∀ number route number' route', Tops routes request number route →
        Tops routes request number' route' →
        seen (routeEntry heap allBackends route number).pool =
          seen (routeEntry heap allBackends route' number').pool := by
  constructor
  · -- Each of two routes is the one that some sorted order leads to.
    intro resolved number route number' route' tops tops'
    obtain ⟨first, topmost, least⟩ := tops.exists_first
    obtain ⟨sorting, pool⟩ := exists_sorting_of_tops heap allBackends tops
    obtain ⟨sorting', pool'⟩ := exists_sorting_of_tops heap allBackends tops'
    rw [← pool, ← pool', resolved sorting first topmost least,
      resolved sorting' first topmost least]
  · intro same sorting first route topmost
    rcases matchRequest_cases sorting request with ⟨missed, _⟩ | ⟨number, route', tops, pool⟩
    · exact absurd topmost.covers (missed route (List.mem_of_getElem? topmost.listed))
    · rw [pool]
      exact same number route' first route tops topmost.toTops

end Ties

/--
However the routes are sorted, a request gets the backends of the first route with the highest
priority exactly if all routes with that priority have the same backends, and the pool of that
route itself exactly if there is no other.
-/
theorem ties_resolved_iff (heap : BackendHeap) (allBackends : Pool) (routes : List Route)
    (request : RoutedRequest) :
    ((∀ sorting first route, TopsFirst routes request first route →
          ((newRouter heap allBackends routes sorting).matchRequest request).backends =
            route.backends.filterMap (allBackends.get heap)) ↔
        ∀ number route number' route', Tops routes request number route →
          Tops routes request number' route' →
          route.backends.filterMap (allBackends.get heap) =
            route'.backends.filterMap (allBackends.get heap)) ∧
      ((∀ sorting first route, TopsFirst routes request first route →
          (newRouter heap allBackends routes sorting).matchRequest request =
            ⟨some first, route.backends.filterMap (allBackends.get heap)⟩) ↔
        ∀ number route number' route', Tops routes request number route →
          Tops routes request number' route' → number = number') := by
  -- Both are the same argument, for the backends of a pool and for the pool itself.
  have filled (route : Route) (number : Nat) : (routeEntry heap allBackends route number).pool =
      ⟨some number, route.backends.filterMap (allBackends.get heap)⟩ := by
    rw [routeEntry, addBackends_eq, List.nil_append]
  constructor
  · have contents := matchRequest_first_iff heap allBackends routes request RoutePool.backends
    simpa only [filled] using contents
  · have identity := matchRequest_first_iff heap allBackends routes request id
    simp only [filled, id] at identity
    rw [identity]
    constructor
    · intro same number route number' route' tops tops'
      have equal := same number route number' route' tops tops'
      exact Option.some.inj (congrArg RoutePool.made equal)
    · -- At one position there is one route.
      intro alone number route number' route' tops tops'
      obtain rfl := alone number route number' route' tops tops'
      have equal : some route = some route' := tops.listed.symm.trans tops'.listed
      rw [Option.some.inj equal]

/-- Two backends of different names. -/
def twoBackends : BackendHeap := fun b =>
  if b = 0 then newBackend "api" "localhost:9001" 1 else newBackend "web" "localhost:9002" 1

/-- A route for a prefix, whose priority is left at its default. -/
def prefixRoute (pathPrefix : String) (backend : String) : Route where
  host := []
  pathPrefix := bytesOf pathPrefix
  headers := []
  backends := [backend]
  priority := 0

/-- Two routes, for a prefix and for all paths. -/
def twoRoutes : List Route := [prefixRoute "/api/" "api", prefixRoute "/" "web"]

/-- A request for a path, without headers. -/
def requestFor (path : String) : RoutedRequest where
  host := bytesOf "example.com"
  path := bytesOf path
  header := .empty

/-- Sorted the other way round, as equal priorities allow it, the later route gets the request. -/
theorem later_route_preferred :
    TopsFirst twoRoutes (requestFor "/api/users") 0 (prefixRoute "/api/" "api") ∧
      ∃ sorting, (newRouter twoBackends [0, 1] twoRoutes sorting).matchRequest
        (requestFor "/api/users") = ⟨some 1, [1]⟩ := by
  -- Both routes are for the request, and the sort may put either in front.
  refine ⟨⟨⟨rfl, matchRoute_iff.mp (by decide), ?_⟩, fun _ _ _ => Nat.zero_le _⟩, ?_⟩
  · -- All routes have the same priority.
    intro other listed _
    simp only [twoRoutes, List.mem_cons, List.not_mem_nil, or_false] at listed
    rcases listed with rfl | rfl <;> exact le_refl _
  · refine ⟨⟨[routeEntry twoBackends [0, 1] (prefixRoute "/" "web") 1,
      routeEntry twoBackends [0, 1] (prefixRoute "/api/" "api") 0], List.Perm.swap _ _ _, ?_⟩, ?_⟩
    · simp [byPriority, routeEntry, prefixRoute]
    · rfl

end Balance
