import Balance.Proxy.Header

/-! HTTP requests as the proxy reads them, and the requests that it sends on. -/

namespace Balance

section Bytes

/-- The byte that separates the parts of a path. -/
def slash : UInt8 := 47

/-- The byte that separates the parts of a query. -/
def ampersand : UInt8 := 38

/-- The byte between a host and a port. -/
def colon : UInt8 := 58

/-- The byte before a host that has colons in it. -/
def leftBracket : UInt8 := 91

/-- The byte behind such a host. -/
def rightBracket : UInt8 := 93

end Bytes

/-- A request as the handler gets it, with its path decoded. -/
structure Request where
  path : List UInt8
  rawQuery : List UInt8
  host : List UInt8
  header : Header
  remoteAddr : List UInt8
  tls : Bool

/--
A request on its way to a backend.

The headers are those that are left to the transport, or to `Request.Write`.
-/
structure Upstream where
  address : String
  path : List UInt8
  rawQuery : List UInt8
  header : Header

namespace Request

/-- The first value of a header, or the empty text. -/
def get (r : Request) (key : String) : List UInt8 := r.header.get (bytesOf key)

/--
Lower case, as far as a comparison with ASCII words can tell.

Outside ASCII, only the Kelvin sign and the dotted capital I have a lower case within ASCII.
-/
def toLower : List UInt8 → List UInt8
  | [] => []
  | 0xE2 :: 0x84 :: 0xAA :: rest => 107 :: toLower rest
  | 0xC4 :: 0xB0 :: rest => 105 :: toLower rest
  | byte :: rest => lower byte :: toLower rest

/-- Whether the request asks for a WebSocket upgrade. -/
def isWebSocketRequest (r : Request) : Bool :=
  toLower (r.get "Upgrade") = bytesOf "websocket" ∧
    bytesOf "upgrade" <:+: toLower (r.get "Connection")

/-- The last position of a byte. -/
def lastIndexOf (byte : UInt8) (text : List UInt8) : Option Nat :=
  (text.reverse.idxOf? byte).map fun fromEnd => text.length - 1 - fromEnd

/-- The host and port of an address, if it is well formed. -/
def splitHostPort (hostport : List UInt8) : Option (List UInt8 × List UInt8) :=
  (lastIndexOf colon hostport).bind fun i =>
    let port := hostport.drop (i + 1)
    if hostport.head? = some leftBracket then
      -- The first closing bracket has to stand right before the last colon.
      (hostport.idxOf? rightBracket).bind fun close =>
        if close + 1 ≠ i ∨ leftBracket ∈ hostport.drop 1 ∨
            rightBracket ∈ hostport.drop (close + 1) then none
        else some ((hostport.take close).drop 1, port)
    else
      let host := hostport.take i
      if colon ∈ host ∨ leftBracket ∈ hostport ∨ rightBracket ∈ hostport then none
      else some (host, port)

/-- The host that a request comes from, as far as the connection says. -/
def remoteHost (r : Request) : List UInt8 :=
  match splitHostPort r.remoteAddr with
  | none => r.remoteAddr
  | some (ip, _) => ip

/-- The address of the client, as far as the headers can be trusted. -/
def getClientIP (r : Request) : List UInt8 :=
  let xff := r.get "X-Forwarded-For"
  let xri := r.get "X-Real-IP"
  if xff ≠ [] then trimSpace (xff.takeWhile (· ≠ comma))
  else if xri ≠ [] then xri
  else r.remoteHost

/-- The scheme of the request. -/
def getScheme (r : Request) : List UInt8 :=
  let scheme := r.get "X-Forwarded-Proto"
  if r.tls then bytesOf "https" else if scheme ≠ [] then scheme else bytesOf "http"

end Request

/-- Two paths joined with one slash between them. -/
def singleJoiningSlash (a b : List UInt8) : List UInt8 :=
  if a.getLast? = some slash ∧ b.head? = some slash then a ++ b.drop 1
  else if a.getLast? ≠ some slash ∧ b.head? ≠ some slash then a ++ slash :: b
  else a ++ b

/-- Two queries joined with an ampersand, where both say something. -/
def joinQuery (a b : List UInt8) : List UInt8 :=
  if a = [] ∨ b = [] then a ++ b else a ++ ampersand :: b

namespace Header

/-- The values under a canonical name. -/
def valuesOf (header : Header) (name : String) : List (List UInt8) :=
  (header.values (bytesOf name)).getD []

/-- A text without any of the given bytes around it. -/
def trimBytes (cut text : List UInt8) : List UInt8 :=
  ((text.dropWhile (· ∈ cut)).reverse.dropWhile (· ∈ cut)).reverse

/-- Whether the values under a name have a token among them, whatever its case. -/
def hasToken (header : Header) (name token : String) : Bool :=
  (header.valuesOf name).any fun value => (value.splitOn comma).any fun part =>
    (trimBytes [32, 9] part).map lower = (bytesOf token).map lower

/-- What a request asks to switch to, or the empty text. -/
def upgradeType (header : Header) : List UInt8 :=
  if header.hasToken "Connection" "Upgrade" then header.get (bytesOf "Upgrade") else []

/-- The headers that the reverse proxy takes out of every request. -/
def hopHeaders : List String :=
  ["Connection", "Proxy-Connection", "Keep-Alive", "Proxy-Authenticate", "Proxy-Authorization",
    "Te", "Trailer", "Transfer-Encoding", "Upgrade"]

/-- The headers that go further than one hop. -/
def removeHopByHopHeaders (header : Header) : Header :=
  let named := (header.valuesOf "Connection").flatMap fun value =>
    (value.splitOn comma).map (trimBytes [32, 9, 10, 13])
  (hopHeaders.map bytesOf).foldl del ((named.filter (· ≠ [])).foldl del header)

end Header

namespace Request

/--
The request that the reverse proxy sends for a request to one target.

Its director joins path and query of the target with those of the request.
-/
def rewrite (r : Request) (targetHost : String) (targetPath targetQuery : List UInt8) :
    Upstream where
  address := targetHost
  path := singleJoiningSlash targetPath r.path
  rawQuery := joinQuery targetQuery r.rawQuery
  header := r.header

/-- The headers that the director of the handler leaves. -/
def directed (r : Request) : Header :=
  let header := r.header.set (bytesOf "X-Forwarded-For") r.getClientIP
  let header := header.set (bytesOf "X-Forwarded-Host") r.host
  let header := header.set (bytesOf "X-Forwarded-Proto") r.getScheme
  header.set (bytesOf "X-Real-IP") r.getClientIP

/--
The headers that the reverse proxy leaves to its transport.

What says that trailers are welcome, and what is needed to switch protocols, is put back.
-/
def proxiedHeader (r : Request) : Header :=
  let directed := r.directed
  let header := directed.removeHopByHopHeaders
  let header :=
    if directed.hasToken "Te" "trailers" then header.set (bytesOf "Te") (bytesOf "trailers")
    else header
  let header :=
    if directed.upgradeType ≠ [] then
      (header.set (bytesOf "Connection") (bytesOf "Upgrade")).set (bytesOf "Upgrade")
        directed.upgradeType
    else header
  let header :=
    match splitHostPort r.remoteAddr with
    | none => header
    -- The host of the client comes behind the addresses that were there before.
    | some (ip, _) => header.set (bytesOf "X-Forwarded-For")
        ((bytesOf ", ").intercalate (header.valuesOf "X-Forwarded-For" ++ [ip]))
  if (header.values (bytesOf "User-Agent")).isNone then header.set (bytesOf "User-Agent") []
  else header

/--
The request that the handler has the reverse proxy send to a backend.

One to switch to a protocol whose name cannot be printed fails before it is sent.
-/
def reverseProxied (r : Request) (address : String) : Upstream :=
  -- The target already carries the path and the query of the request.
  { r.rewrite address r.path r.rawQuery with header := r.proxiedHeader }

/-- The request that is written to a backend as it came. -/
def written (r : Request) (address : String) : Upstream :=
  ⟨address, r.path, r.rawQuery, r.header⟩

/-- A request of a client for a path and a query, over a plain connection and without headers. -/
def plain (path rawQuery : String) : Request where
  path := bytesOf path
  rawQuery := bytesOf rawQuery
  host := bytesOf "example.com"
  header := .empty
  remoteAddr := bytesOf "10.0.0.1:4711"
  tls := false

/-- A path joined with itself is the same path only if it is the root. -/
theorem singleJoiningSlash_self_iff {path : List UInt8} (absolute : path.head? = some slash) :
    singleJoiningSlash path path = path ↔ path = [slash] := by
  -- The path begins with a slash, so only its end decides how it is joined.
  cases path with
  | nil => simp at absolute
  | cons first rest =>
    simp only [List.head?_cons, Option.some.injEq] at absolute
    subst absolute
    by_cases trailing : (slash :: rest).getLast? = some slash
    · -- Only one of the two slashes that meet is kept.
      simp [singleJoiningSlash, trailing]
    · -- Without a slash at its end, the path is repeated in full.
      simp only [singleJoiningSlash, trailing, List.head?_cons, and_true, if_false, ne_eq,
        not_true_eq_false, and_false]
      constructor
      · intro repeated
        have lengths := congrArg List.length repeated
        simp at lengths
      · intro root
        rw [root] at trailing
        simp at trailing

/-- A query joined with itself is the same query only if it is empty. -/
theorem joinQuery_self_iff {query : List UInt8} : joinQuery query query = query ↔ query = [] := by
  -- A query that says something is repeated behind an ampersand.
  unfold joinQuery
  split
  · rename_i empty
    rcases empty with rfl | rfl <;> simp
  · rename_i nonempty
    have some : query ≠ [] := fun empty => nonempty (.inl empty)
    simp [some]

/-- The reverse proxy is given path and query twice, which only the bare root survives. -/
theorem reverseProxied_url_iff {r : Request} (absolute : r.path.head? = some slash)
    (address : String) :
    (r.reverseProxied address).path = r.path ∧ (r.reverseProxied address).rawQuery = r.rawQuery ↔
      r.path = [slash] ∧ r.rawQuery = [] := by
  -- The target is made of the request's own path and query.
  simp only [reverseProxied, rewrite, singleJoiningSlash_self_iff absolute, joinQuery_self_iff]

end Request

end Balance
