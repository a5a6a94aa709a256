import Balance.Proxy.Server

/-! What becomes of the URL of a request on its way through the proxy. -/

namespace Balance

namespace ProxyServer

variable {server next : ProxyServer}

/-- A handler that has selected a backend for a request has prepared the exchange for it. -/
theorem advance_request {http : HTTPConfig} (configured : server.http = some http) {r : Request}
    {b : Nat} {exchange : Exchange}
    (handled : server.advance .idle (.arrive (.request r)) = some (next, .reaching b exchange)) :
    exchange = server.exchangeFor http r b := by
  -- The handler leaves its idle state only with the exchange it was given.
  unfold advance at handled
  split at handled
  · cases handled
  · simp only [configured, Option.map_some, Option.some.injEq] at handled
    rcases (enter_cases handled).2.2.2 with idle | ⟨selected, _, reaching⟩
    · cases idle
    · cases reaching
      rfl

/--
The request sent to the selected backend has the path and the query of the request received
exactly when it is a WebSocket upgrade, which is written as it came, or asks for the bare root.
-/
theorem forwarded_url_iff {http : HTTPConfig} (configured : server.http = some http) {r : Request}
    (absolute : r.path.head? = some slash) {b : Nat} {exchange : Exchange} {upstream : Upstream}
    (handled : server.advance .idle (.arrive (.request r)) = some (next, .reaching b exchange))
    (sends : exchange.sent = some upstream) :
    upstream.path = r.path ∧ upstream.rawQuery = r.rawQuery ↔
      (http.enableWebSocket = true ∧ r.isWebSocketRequest = true) ∨
        (r.path = [slash] ∧ r.rawQuery = []) := by
  -- The exchange prepared for the request settles what is sent.
  rw [advance_request configured handled, exchangeFor] at sends
  by_cases upgrade : (http.enableWebSocket && r.isWebSocketRequest) = true
  · simp only [if_pos upgrade, Exchange.sent, Option.some.injEq] at sends
    subst sends
    simp only [Bool.and_eq_true] at upgrade
    simp [Request.written, upgrade]
  · simp only [if_neg upgrade, Exchange.sent, Option.some.injEq] at sends
    subst sends
    simp only [Bool.and_eq_true] at upgrade
    simp only [upgrade, false_or]
    exact Request.reverseProxied_url_iff absolute _

/-- An HTTP server over one backend. -/
def rootServer : ProxyServer where
  http := some defaultHTTPConfig
  heap := configuredBackends [⟨"backend1", "127.0.0.1:9000", 1⟩]
  pool := [0]
  balancer := .roundRobin ⟨0⟩
  stats := ⟨0, 0, 0⟩
  crashed := false

/-- A request for the bare root, as the tests make it, arrives as such. -/
theorem root_request_kept :
    ∃ next exchange upstream,
      rootServer.advance .idle (.arrive (.request (.plain "/" ""))) =
        some (next, .reaching 0 exchange) ∧
      exchange.sent = some upstream ∧
      upstream.path = bytesOf "/" ∧ upstream.rawQuery = bytesOf "" := by
  -- The handler's step evaluates, and the condition holds of the bare root.
  have handled : ∃ next exchange upstream,
      rootServer.advance .idle (.arrive (.request (.plain "/" ""))) =
        some (next, .reaching 0 exchange) ∧ exchange.sent = some upstream :=
    ⟨_, _, _, rfl, rfl⟩
  obtain ⟨next, exchange, upstream, handled, sends⟩ := handled
  refine ⟨next, exchange, upstream, handled, sends, ?_⟩
  exact (forwarded_url_iff rfl (by decide) handled sends).mpr (.inr ⟨by decide, by decide⟩)

/-- A request for any other page is forwarded with its path and its query repeated. -/
theorem forwarded_path_repeated :
    ∃ next exchange upstream,
      rootServer.advance .idle (.arrive (.request (.plain "/foo" "q=1"))) =
        some (next, .reaching 0 exchange) ∧
      exchange.sent = some upstream ∧
      upstream.path = bytesOf "/foo/foo" ∧ upstream.rawQuery = bytesOf "q=1&q=1" :=
  ⟨_, _, _, rfl, rfl, by decide, by decide⟩

end ProxyServer

end Balance
