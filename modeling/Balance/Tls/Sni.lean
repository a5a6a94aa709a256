import Balance.Go.Order
import Balance.Tls.CertManager

/-! The router that sends a connection to backends by the server name its client asks for. -/

namespace Balance

/-- Why a route is not taken. -/
inductive SNIRouteError where
  | emptyHostname
  | noBackends

/-- The text of an error. -/
def SNIRouteError.message : SNIRouteError → String
  | .emptyHostname => "hostname cannot be empty"
  | .noBackends => "at least one backend is required"

/--
The backends for each host name, those for all other names, and how often each was asked for.

A slice that is nil is the empty list here, and no route has one.
-/
structure SNIRouter where
  routes : List UInt8 → Option (List String)
  defaultBackends : List String
  totalRequests : Int
  routedByHost : List UInt8 → Option Int
  finite : {hostname | (routes hostname).isSome}.Finite
  served : ∀ hostname backends, routes hostname = some backends → backends ≠ []

/-- A router without routes. -/
def newSNIRouter : SNIRouter where
  routes _ := none
  defaultBackends := []
  totalRequests := 0
  routedByHost _ := none
  finite := by simp
  served := by simp

/-- Whether a registered name is a wildcard for a host name. -/
def matchWildcardPattern (pattern hostname : List UInt8) : Bool :=
  if ¬ [star, dot].isPrefixOf pattern then false
  else (pattern.drop 1).isSuffixOf hostname

/-- A wildcard stands for the names that end in a dot and its domain. -/
theorem matchWildcardPattern_iff {pattern hostname : List UInt8} :
    matchWildcardPattern pattern hostname ↔
      ∃ domain, pattern = wildcard domain ∧ dot :: domain <:+ hostname := by
  rw [← wildcard_suffix_iff, matchWildcardPattern]
  split
  case isTrue other => simp [other]
  case isFalse shaped => simp [not_not.mp shaped]

namespace SNIRouter

variable (router : SNIRouter)

/-- Sets the backends of a host name. -/
def addRoute (hostname : List UInt8) (backends : List String) :
    Except SNIRouteError SNIRouter :=
  if hostname = [] then .error .emptyHostname
  else if empty : backends = [] then .error .noBackends
  else .ok {
    router with
    routes := Function.update router.routes hostname (some backends)
    routedByHost :=
      if (router.routedByHost hostname).isSome then router.routedByHost
      else Function.update router.routedByHost hostname (some 0)
    finite := by
      refine (router.finite.insert hostname).subset ?_
      intro other present
      by_cases same : other = hostname
      · exact Set.mem_insert_iff.mpr (Or.inl same)
      · right
        simpa [Function.update_of_ne same] using present
    served := by
      intro other found route
      by_cases same : other = hostname
      · subst same
        rw [Function.update_self] at route
        exact Option.some.inj route ▸ empty
      · rw [Function.update_of_ne same] at route
        exact router.served other found route }

/-- Removes the route of a host name. -/
def removeRoute (hostname : List UInt8) : SNIRouter where
  routes := Function.update router.routes hostname none
  defaultBackends := router.defaultBackends
  totalRequests := router.totalRequests
  routedByHost := router.routedByHost
  finite := by
    refine router.finite.subset ?_
    intro other present
    by_cases same : other = hostname
    · subst same
      simp at present
    · simpa [Function.update_of_ne same] using present
  served := by
    intro other found route
    by_cases same : other = hostname
    · subst same
      simp at route
    · rw [Function.update_of_ne same] at route
      exact router.served other found route

/-- Sets the backends for all other names. -/
def setDefaultBackends (backends : List String) : SNIRouter :=
  { router with defaultBackends := backends }

/-- Counts a request for a host name, if it has a counter. -/
def incrementHostStats (hostname : List UInt8) : SNIRouter :=
  match router.routedByHost hostname with
  | some counter =>
    { router with
      routedByHost :=
        Function.update router.routedByHost hostname (some (Go.wrap64 (counter + 1))) }
  | none => router

/-- The backends of the first wildcard for a host name that a loop over the routes meets. -/
def matchWildcard (scan : Go.Scan router.routes) (hostname : List UInt8) : List String :=
  (scan.find fun pattern => matchWildcardPattern pattern hostname).getD []

/-- The backends that a connection for a host name is sent to, with the loop in a given order. -/
def route (scan : Go.Scan router.routes) (hostname : List UInt8) : List String × SNIRouter :=
  let counted := { router with totalRequests := Go.wrap64 (router.totalRequests + 1) }
  match router.routes hostname with
  | some backends => (backends, counted.incrementHostStats hostname)
  | none =>
    let backends := router.matchWildcard scan hostname
    if backends ≠ [] then (backends, counted.incrementHostStats hostname)
    else (counted.defaultBackends, counted)

end SNIRouter

/-- A call that changes the routes. -/
inductive SNICall where
  | addRoute (hostname : List UInt8) (backends : List String)
  | removeRoute (hostname : List UInt8)
  | setDefaultBackends (backends : List String)

namespace SNIRouter

/-- The router after a call, which one that fails leaves as it was. -/
def apply (router : SNIRouter) : SNICall → SNIRouter
  | .addRoute hostname backends =>
    match router.addRoute hostname backends with
    | .ok changed => changed
    | .error _ => router
  | .removeRoute hostname => router.removeRoute hostname
  | .setDefaultBackends backends => router.setDefaultBackends backends

/-- The router after a sequence of calls. -/
def after (calls : List SNICall) : SNIRouter := calls.foldl apply newSNIRouter

variable {router : SNIRouter}

/-- A lookup changes the statistics and nothing else. -/
theorem route_keeps (scan : Go.Scan router.routes) (hostname : List UInt8) :
    (router.route scan hostname).2.routes = router.routes ∧
      (router.route scan hostname).2.defaultBackends = router.defaultBackends := by
  -- Counting a request touches the counters only, in each of the ways that a lookup ends.
  have counts (counted : SNIRouter) :
      (counted.incrementHostStats hostname).routes = counted.routes ∧
        (counted.incrementHostStats hostname).defaultBackends = counted.defaultBackends := by
    unfold incrementHostStats
    split <;> exact ⟨rfl, rfl⟩
  unfold route
  split
  · exact counts _
  · dsimp only
    split
    · exact counts _
    · exact ⟨rfl, rfl⟩

/-- Without a route of its own a host name gets the backends of a wildcard, or the default. -/
theorem route_of_none {hostname : List UInt8} (own : router.routes hostname = none)
    (scan : Go.Scan router.routes) :
    (router.route scan hostname).1 =
      (scan.find fun pattern => matchWildcardPattern pattern hostname).getD
        router.defaultBackends := by
  -- The loop finds the backends of a pattern, or nothing.
  rcases found : scan.find fun pattern => matchWildcardPattern pattern hostname with _ | backends
  · simp [route, own, matchWildcard, found]
  · -- A wildcard is registered with backends, so that what is found is not taken for nil.
    obtain ⟨pattern, _, registered⟩ := Go.Scan.find_eq_some found
    simp [route, own, matchWildcard, found, router.served pattern backends registered]

/--
A host name is sent to the same backends in all orders of the loop over the routes exactly if it
has a route of its own or all wildcards for it have the same backends.
-/
theorem route_order_free_iff (calls : List SNICall) (hostname : List UInt8) :
    (∀ scan scan' : Go.Scan (after calls).routes,
        ((after calls).route scan hostname).1 = ((after calls).route scan' hostname).1) ↔
      ((after calls).routes hostname).isSome ∨
        ∀ domain domain' backends backends', dot :: domain <:+ hostname →
          dot :: domain' <:+ hostname → (after calls).routes (wildcard domain) = some backends →
          (after calls).routes (wildcard domain') = some backends' → backends = backends' := by
  -- There are finitely many routes, so that some order of the loop exists.
  obtain ⟨scan⟩ := Go.Scan.nonempty_of_finite (after calls).finite
  rcases own : (after calls).routes hostname with _ | backends
  · -- The loop decides, and it can begin with any of the wildcards.
    simp only [route_of_none own, Go.Scan.find_getD_same_iff scan, matchWildcardPattern_iff,
      Option.isSome_none, Bool.false_eq_true, false_or]
    constructor
    · intro same domain domain' backends backends' covers covers' registered registered'
      exact same _ _ backends backends' ⟨domain, rfl, covers⟩ ⟨domain', rfl, covers'⟩ registered
        registered'
    · rintro same _ _ backends backends' ⟨domain, rfl, covers⟩ ⟨domain', rfl, covers'⟩ registered
        registered'
      exact same domain domain' backends backends' covers covers' registered registered'
  · -- The route of the name itself is looked at before the loop.
    simp [route, own]

/-- Two wildcards of which one lies below the other. -/
def overlapping : List SNICall :=
  [.addRoute (bytesOf "*.example.com") ["general:8080"],
    .addRoute (bytesOf "*.a.example.com") ["special:8080"]]

/-- What is registered for two wildcards that overlap. -/
theorem after_overlapping (name : List UInt8) :
    (after overlapping).routes name =
      if name = bytesOf "*.a.example.com" then some ["special:8080"]
      else if name = bytesOf "*.example.com" then some ["general:8080"]
      else none := by
  -- Neither call fails, and each writes the route of its name.
  change Function.update (Function.update (fun _ => none) _ _) _ _ name = _
  rw [Function.update_apply, Function.update_apply]

/-- A name below both wildcards is sent to the backends of the one that the loop meets first. -/
theorem overlapping_wildcards_disagree :
    ∃ scan scan' : Go.Scan (after overlapping).routes,
      ((after overlapping).route scan (bytesOf "x.a.example.com")).1 = ["general:8080"] ∧
        ((after overlapping).route scan' (bytesOf "x.a.example.com")).1 = ["special:8080"] := by
  -- The name itself has no route, and the two scans begin with the two wildcards.
  have own : (after overlapping).routes (bytesOf "x.a.example.com") = none := by
    rw [after_overlapping]
    decide
  have general : (after overlapping).routes (bytesOf "*.example.com") = some ["general:8080"] := by
    rw [after_overlapping]
    decide
  have special :
      (after overlapping).routes (bytesOf "*.a.example.com") = some ["special:8080"] := by
    rw [after_overlapping]
    decide
  obtain ⟨scan⟩ := Go.Scan.nonempty_of_finite (after overlapping).finite
  refine ⟨scan.startAt (bytesOf "*.example.com") (by simp [general]),
    scan.startAt (bytesOf "*.a.example.com") (by simp [special]), ?_, ?_⟩
  · rw [route_of_none own, Go.Scan.find_startAt scan (by decide) general, Option.getD_some]
  · rw [route_of_none own, Go.Scan.find_startAt scan (by decide) special, Option.getD_some]

end SNIRouter

end Balance
