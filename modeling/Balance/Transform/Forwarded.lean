import Mathlib.Data.List.TakeWhile
import Balance.Proxy.Request

/-! Forwarding headers along a chain of proxies. -/

namespace Balance

/-- An address, which has no commas and no white space. -/
structure Address where
  text : List UInt8
  single : comma ∉ text
  plain : ∀ word ∈ spaces, ¬ word <:+: text

namespace Request

/-- The bytes between two addresses. -/
def separator : List UInt8 := bytesOf ", "

/-- The addresses of the parties before, and behind them one more. -/
def chained (prior clientIP : List UInt8) : List UInt8 :=
  if prior ≠ [] then prior ++ separator ++ clientIP else clientIP

/-- Adds the headers that say where a request comes from. -/
def addForwardedHeaders (r : Request) (clientIP : List UInt8) : Request :=
  -- The variable with the address is overwritten here, and read again at the end.
  let clientIP := chained (r.get "X-Forwarded-For") clientIP
  let header := r.header.set (bytesOf "X-Forwarded-For") clientIP
  let header :=
    header.set (bytesOf "X-Forwarded-Proto") (if r.tls then bytesOf "https" else bytesOf "http")
  let header := if r.host ≠ [] then header.set (bytesOf "X-Forwarded-Host") r.host else header
  { r with header := header.set (bytesOf "X-Real-IP") clientIP }

variable {r : Request}

/-- The headers of a chain are told apart, and so are their canonical names. -/
theorem names_apart :
    ["X-Forwarded-Proto", "X-Forwarded-Host", "X-Real-IP"].all fun name =>
      canonicalMIMEHeaderKey (bytesOf "X-Forwarded-For") ≠
        canonicalMIMEHeaderKey (bytesOf name) := by
  decide +kernel

/-- The addresses before and the one that is added are what one hop leaves. -/
theorem get_forwardedFor (r : Request) (clientIP : List UInt8) :
    (r.addForwardedHeaders clientIP).get "X-Forwarded-For" =
      chained (r.get "X-Forwarded-For") clientIP := by
  obtain ⟨proto, host, real⟩ : _ ∧ _ ∧ _ := by simpa using names_apart
  rw [addForwardedHeaders, get]
  split <;> simp [Header.get_set, proto, host, real]

/-- The address that counts as the real one is all that the chain has come to. -/
theorem get_realIP (r : Request) (clientIP : List UInt8) :
    (r.addForwardedHeaders clientIP).get "X-Real-IP" =
      chained (r.get "X-Forwarded-For") clientIP := by
  rw [addForwardedHeaders, get, Header.get_set, if_pos rfl]

/-- After some hops, the header has the addresses of all that had one to add. -/
theorem get_forwardedFor_foldl (r : Request) (ips : List (List UInt8)) :
    (ips.foldl addForwardedHeaders r).get "X-Forwarded-For" =
      ips.foldl chained (r.get "X-Forwarded-For") :=
  (List.foldl_hom (fun r : Request => r.get "X-Forwarded-For")
    fun r clientIP => (get_forwardedFor r clientIP).symm).symm

/-- After any hop, the real address is the same text as that of the whole chain. -/
theorem get_realIP_foldl (r : Request) {ips : List (List UInt8)} (some : ips ≠ []) :
    (ips.foldl addForwardedHeaders r).get "X-Real-IP" =
      (ips.foldl addForwardedHeaders r).get "X-Forwarded-For" := by
  obtain ⟨before, last, rfl⟩ := (List.eq_nil_or_concat ips).resolve_left some
  rw [List.concat_eq_append, List.foldl_concat, get_realIP, get_forwardedFor]

/-- From a text that says something on, the addresses are joined. -/
theorem foldl_chained {first : List UInt8} (some : first ≠ []) (rest : List (List UInt8)) :
    rest.foldl chained first = separator.intercalate (first :: rest) := by
  -- What has been joined stays in front, so that the next address meets a text again.
  induction rest generalizing first with
  | nil => simp
  | cons second rest ih =>
    have joined : first ++ separator ++ second ≠ [] := by simp [some]
    rw [List.foldl_cons, chained, if_pos some, ih joined, List.intercalate_cons_cons]
    cases rest with
    | nil => rw [List.intercalate_singleton, List.intercalate_singleton]
    | cons third rest =>
      rw [List.intercalate_cons_cons, List.intercalate_cons_cons]
      simp only [List.append_assoc]

/-- No white space is taken from the front of a text that has none. -/
theorem dropWord_of_plain {words : List (List UInt8)} {text : List UInt8}
    (plain : ∀ word ∈ words, ¬ word <+: text) (rounds : Nat) :
    (dropWord words)^[rounds] text = text := by
  -- None of the words is found, so a round changes nothing.
  apply Function.iterate_fixed
  have missed : (words.find? fun word => word.isPrefixOf text) = none := by
    rw [List.find?_eq_none]
    intro word member front
    exact plain word member (List.isPrefixOf_iff_prefix.mp front)
  rw [dropWord, missed]
  rfl

/-- White space is not taken from a text that has none. -/
theorem trimSpace_text (ip : Address) : trimSpace ip.text = ip.text := by
  -- Neither the front nor the back is white space.
  have front := dropWord_of_plain
    (fun word member => mt List.IsPrefix.isInfix (ip.plain word member)) ip.text.length
  have back : ∀ word ∈ spaces.map List.reverse, ¬ word <+: ip.text.reverse := by
    intro word member ahead
    obtain ⟨space, listed, rfl⟩ := List.mem_map.mp member
    exact ip.plain space listed (List.reverse_prefix.mp ahead).isInfix
  rw [trimSpace, front, dropWord_of_plain back, List.reverse_reverse]

/-- What stands before the first comma of joined addresses is the first of them. -/
theorem takeWhile_intercalate (first : Address) (rest : List (List UInt8)) :
    (separator.intercalate (first.text :: rest)).takeWhile (· ≠ comma) = first.text := by
  -- The first address has no comma, and one follows it if there is another address.
  have single : ∀ byte ∈ first.text, decide (byte ≠ comma) = true := by
    intro byte member
    exact decide_eq_true fun same => first.single (same ▸ member)
  cases rest with
  | nil => rw [List.intercalate_singleton, List.takeWhile_eq_self_iff.mpr single]
  | cons second rest =>
    have begins : separator = comma :: separator.drop 1 := by decide +kernel
    rw [List.intercalate_cons_cons, List.append_assoc, List.takeWhile_append_of_pos single,
      begins]
    simp

/-- Whoever reads a chain of addresses takes the first of them for the client. -/
theorem getClientIP_of_chain (first : Address) (rest : List (List UInt8))
    (chain : r.get "X-Forwarded-For" = separator.intercalate (first.text :: rest))
    (some : separator.intercalate (first.text :: rest) ≠ []) : r.getClientIP = first.text := by
  simp only [getClientIP, chain, if_pos some]
  rw [takeWhile_intercalate, trimSpace_text]

/-- A header that is not there has no value. -/
theorem get_of_absent (absent : r.header.values (bytesOf "X-Forwarded-For") = none) :
    r.get "X-Forwarded-For" = [] := by
  have canonical : canonicalMIMEHeaderKey (bytesOf "X-Forwarded-For") =
      bytesOf "X-Forwarded-For" := by decide +kernel
  rw [get, Header.get, canonical, absent]
  rfl

/-- Along any chain, the addresses are joined and the client is the first of them. -/
theorem forwardedFor_of_chain (absent : r.header.values (bytesOf "X-Forwarded-For") = none)
    (first : Address) (named : first.text ≠ []) (rest : List (List UInt8)) :
    ((first.text :: rest).foldl addForwardedHeaders r).get "X-Forwarded-For" =
        separator.intercalate (first.text :: rest) ∧
      ((first.text :: rest).foldl addForwardedHeaders r).getClientIP = first.text := by
  -- The first address is put down as it is, and the others are joined to it.
  have chain : ((first.text :: rest).foldl addForwardedHeaders r).get "X-Forwarded-For" =
      separator.intercalate (first.text :: rest) := by
    rw [get_forwardedFor_foldl, get_of_absent absent, List.foldl_cons, chained, if_neg (by simp),
      foldl_chained named]
  refine ⟨chain, getClientIP_of_chain first rest chain ?_⟩
  intro empty
  have front := takeWhile_intercalate first rest
  rw [empty] at front
  exact named front.symm

/-- Two addresses or more have a comma between them. -/
theorem length_eq_one_of_joined {ips : List Address} (some : ips ≠ []) {last : Address}
    (joined : separator.intercalate (ips.map Address.text) = last.text) : ips.length = 1 := by
  -- A single address has no comma.
  match ips with
  | [_] => rfl
  | first :: second :: rest =>
    have between : comma ∈ separator := by decide +kernel
    have within : comma ∈ last.text := by
      rw [← joined, List.map_cons, List.map_cons, List.intercalate_cons_cons]
      simp [between]
    exact absurd within last.single

/-- One address without text leaves only the connection to tell where the request comes from. -/
theorem getClientIP_of_unnamed (absent : r.header.values (bytesOf "X-Forwarded-For") = none) :
    (r.addForwardedHeaders []).getClientIP = r.remoteHost := by
  have empty : chained (r.get "X-Forwarded-For") [] = [] := by
    rw [get_of_absent absent, chained, if_neg (by simp)]
  simp only [getClientIP, get_forwardedFor, get_realIP, empty]
  rfl

/--
The headers of a chain are as they should be just if the chain has one hop.

From the second hop on, the real address is the whole chain and no single address.
-/
theorem forwarded_headers_iff (r : Request)
    (absent : r.header.values (bytesOf "X-Forwarded-For") = none) (ips : List Address)
    (some : ips ≠ []) :
    ((ips.map Address.text).foldl addForwardedHeaders r).get "X-Forwarded-For" =
          separator.intercalate (ips.map Address.text) ∧
        ((ips.map Address.text).foldl addForwardedHeaders r).getClientIP = (ips.head some).text ∧
        ((ips.map Address.text).foldl addForwardedHeaders r).get "X-Real-IP" =
          (ips.getLast some).text ↔
      ips.length = 1 ∧ ((ips.head some).text = [] → r.remoteHost = []) := by
  -- The real address is the text of the whole chain, which has to be one address.
  constructor
  · rintro ⟨chain, client, real⟩
    have joined : separator.intercalate (ips.map Address.text) = (ips.getLast some).text := by
      rw [← chain, ← real, get_realIP_foldl r (by simpa using some)]
    have single := length_eq_one_of_joined some joined
    refine ⟨single, ?_⟩
    obtain ⟨ip, rfl⟩ := List.length_eq_one_iff.mp single
    intro unnamed
    rw [List.head_cons] at unnamed client
    rw [List.map_singleton, List.foldl_cons, List.foldl_nil, unnamed,
      getClientIP_of_unnamed absent] at client
    exact client
  · rintro ⟨single, fallback⟩
    obtain ⟨ip, rfl⟩ := List.length_eq_one_iff.mp single
    have chain : ([ip.text].foldl addForwardedHeaders r).get "X-Forwarded-For" = ip.text := by
      rw [get_forwardedFor_foldl, get_of_absent absent, List.foldl_cons, List.foldl_nil, chained,
        if_neg (by simp)]
    have real : ([ip.text].foldl addForwardedHeaders r).get "X-Real-IP" = ip.text := by
      rw [get_realIP_foldl r (by simp), chain]
    have client : ([ip.text].foldl addForwardedHeaders r).getClientIP = ip.text := by
      by_cases unnamed : ip.text = []
      · rw [List.foldl_cons, List.foldl_nil, unnamed, getClientIP_of_unnamed absent]
        exact fallback unnamed
      · exact (forwardedFor_of_chain absent ip unnamed []).2
    rw [List.map_singleton, List.intercalate_singleton]
    exact ⟨chain, client, real⟩

/-- The address of a client. -/
def clientAddress : Address := ⟨bytesOf "10.0.0.1", by decide +kernel, by decide +kernel⟩

/-- The address of a proxy. -/
def proxyAddress : Address := ⟨bytesOf "10.0.0.2", by decide +kernel, by decide +kernel⟩

/-- After one hop, the headers are as they should be. -/
theorem forwarded_headers_one_hop :
    let result := (plain "/" "").addForwardedHeaders clientAddress.text
    result.get "X-Forwarded-For" = clientAddress.text ∧
      result.getClientIP = clientAddress.text ∧ result.get "X-Real-IP" = clientAddress.text :=
  (forwarded_headers_iff (plain "/" "") rfl [clientAddress] (by simp)).mpr
    ⟨rfl, fun empty => absurd empty (by decide +kernel)⟩

/-- After a second hop, the real address is a list of two. -/
theorem real_address_joined :
    let result := ([clientAddress, proxyAddress].map Address.text).foldl addForwardedHeaders
      (plain "/" "")
    result.get "X-Real-IP" = bytesOf "10.0.0.1, 10.0.0.2" ∧
      result.get "X-Real-IP" ≠ proxyAddress.text := by
  decide +kernel

end Request

end Balance
