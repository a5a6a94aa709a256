import Balance.Proxy.Header

/-! The headers that are taken out because they are meant for one hop only. -/

namespace Balance

namespace Header

/-- The headers of HTTP/1.1 that are meant for one hop. -/
def hopByHopHeaders : List (List UInt8) :=
  [bytesOf "Connection",
    bytesOf "Keep-Alive",
    bytesOf "Proxy-Authenticate",
    bytesOf "Proxy-Authorization",
    bytesOf "Te",
    bytesOf "Trailers",
    bytesOf "Transfer-Encoding",
    bytesOf "Upgrade"]

/-- Removes the headers that are meant for one hop. -/
def stripHopByHopHeaders (header : Header) : Header :=
  let stripped := hopByHopHeaders.foldl del header
  let connection := stripped.get (bytesOf "Connection")
  if connection ≠ [] then
    (connection.splitOn comma).foldl (fun left token => left.del (trimSpace token)) stripped
  else stripped

/-- A header is named, in any case, by one of the tokens of the values of `Connection`. -/
def Named (header : Header) (name : List UInt8) : Prop :=
  ∃ values, header.values (bytesOf "Connection") = some values ∧
    ∃ value ∈ values, ∃ token ∈ value.splitOn comma, (trimSpace token).map lower = name.map lower

/-- What removing the headers for one hop has to leave. -/
structure Stripped (before after : Header) : Prop where
  listed : ∀ name ∈ hopByHopHeaders, after.values name = none
  named : ∀ name, before.Named name → after.values name = none
  kept : ∀ name, name ∉ hopByHopHeaders → ¬ before.Named name →
    after.values name = before.values name

/-- Deleting headers one by one leaves those whose names are not among them. -/
theorem foldl_del_values (names : List (List UInt8)) (header : Header) (name : List UInt8) :
    (names.foldl del header).values name =
      if name ∈ names.map canonicalMIMEHeaderKey then none else header.values name := by
  -- The first name is deleted, and what follows deletes the others from what is left.
  induction names generalizing header with
  | nil => simp
  | cons first rest deletes =>
    rw [List.foldl_cons, deletes (header.del first), List.map_cons]
    by_cases later : name ∈ rest.map canonicalMIMEHeaderKey
    · rw [if_pos later, if_pos (List.mem_cons_of_mem _ later)]
    · rw [if_neg later]
      simp only [List.mem_cons, later, or_false, del, Function.update_apply]

/-- The names of the list are canonical. -/
theorem hopByHopHeaders_canonical :
    hopByHopHeaders.map canonicalMIMEHeaderKey = hopByHopHeaders := by
  decide +kernel

/-- The loop over the list deletes the headers of the list and no other. -/
theorem foldl_hopByHopHeaders_values (header : Header) (name : List UInt8) :
    (hopByHopHeaders.foldl del header).values name =
      if name ∈ hopByHopHeaders then none else header.values name := by
  rw [foldl_del_values, hopByHopHeaders_canonical]

/-- When the values of `Connection` are read, they have been deleted. -/
theorem get_connection_stripped (header : Header) :
    (hopByHopHeaders.foldl del header).get (bytesOf "Connection") = [] := by
  -- The name is the first of the list that the loop goes through.
  have canonical : canonicalMIMEHeaderKey (bytesOf "Connection") = bytesOf "Connection" := by
    decide +kernel
  have listed : bytesOf "Connection" ∈ hopByHopHeaders := List.mem_cons_self
  rw [get, canonical, foldl_hopByHopHeaders_values, if_pos listed]
  rfl

/-- What is removed are the headers of the list, whatever `Connection` names. -/
theorem stripHopByHopHeaders_values (header : Header) (name : List UInt8) :
    header.stripHopByHopHeaders.values name =
      if name ∈ hopByHopHeaders then none else header.values name := by
  rw [← foldl_hopByHopHeaders_values]
  simp only [stripHopByHopHeaders, get_connection_stripped, ne_eq, not_true_eq_false, if_false]

/--
Exactly the headers meant for one hop are removed if and only if every header present that
`Connection` names is one of the list.
-/
theorem strips_exactly_iff (header : Header) :
    Stripped header header.stripHopByHopHeaders ↔
      ∀ name, header.Named name → (header.values name).isSome → name ∈ hopByHopHeaders := by
  constructor
  · -- A header that is named and not of the list is left, so it was not there before.
    intro stripped name named present
    by_contra unlisted
    have gone := stripped.named name named
    rw [stripHopByHopHeaders_values, if_neg unlisted] at gone
    rw [gone] at present
    cases present
  · intro covered
    refine ⟨?_, ?_, ?_⟩
    · intro name listed
      rw [stripHopByHopHeaders_values, if_pos listed]
    · intro name named
      rw [stripHopByHopHeaders_values]
      by_cases listed : name ∈ hopByHopHeaders
      · rw [if_pos listed]
      · -- Outside the list the header is not there to begin with.
        rw [if_neg listed, ← Option.not_isSome_iff_eq_none]
        intro present
        exact listed (covered name named present)
    · intro name unlisted _
      rw [stripHopByHopHeaders_values, if_neg unlisted]

/-- A request that keeps a session on one connection, and says so. -/
def sessionHeader : Header where
  values name :=
    if name = bytesOf "Connection" then some [bytesOf "close, x-session"]
    else if name = bytesOf "X-Session" then some [bytesOf "1"]
    else none
  canonical := by
    intro name present
    split at present
    case isTrue connection => rw [connection]; decide +kernel
    case isFalse =>
      split at present
      case isTrue session => rw [session]; decide +kernel
      case isFalse => cases present

/-- The header of that session is sent on. -/
theorem session_header_kept :
    sessionHeader.Named (bytesOf "X-Session") ∧
      sessionHeader.stripHopByHopHeaders.values (bytesOf "X-Session") = some [bytesOf "1"] ∧
      ¬ Stripped sessionHeader sessionHeader.stripHopByHopHeaders := by
  -- The second token of the value names the header when its case is ignored.
  have named : sessionHeader.Named (bytesOf "X-Session") := by
    refine ⟨[bytesOf "close, x-session"], rfl, _, List.mem_cons_self, bytesOf " x-session", ?_, ?_⟩
    · decide +kernel
    · decide +kernel
  have kept : sessionHeader.stripHopByHopHeaders.values (bytesOf "X-Session") =
      some [bytesOf "1"] := by
    have unlisted : bytesOf "X-Session" ∉ hopByHopHeaders := by decide +kernel
    rw [stripHopByHopHeaders_values, if_neg unlisted]
    decide +kernel
  refine ⟨named, kept, ?_⟩
  intro stripped
  rw [stripped.named _ named] at kept
  cases kept

end Header

end Balance
