import Balance.Tls.ParseSni

/-! How a TLS client writes its first message, and the server name that is read back from it. -/

namespace Balance

/-- An extension of a message, as long as its length field allows. -/
structure Extension where
  kind : UInt16
  body : List UInt8
  short : body.length < 2 ^ 16

/-- The bytes of an extension. -/
def Extension.encode (ext : Extension) : List UInt8 :=
  Go.uint16 ext.kind.toNat ++ (Go.uint16 ext.body.length ++ ext.body)

/-- The bytes of a list of extensions. -/
def encodeExtensions (exts : List Extension) : List UInt8 := exts.flatMap Extension.encode

/-- A list of extensions behind its length. -/
def extensionsBlock (exts : List Extension) : List UInt8 :=
  Go.uint16 (encodeExtensions exts).length ++ encodeExtensions exts

/-- A list of server names whose first entry is a host name. -/
def serverNameList (name others : List UInt8) : List UInt8 :=
  Go.uint16 (3 + name.length + others.length) ++
    (0 :: (Go.uint16 name.length ++ (name ++ others)))

/-- What a client writes into its first message, which need not have extensions. -/
structure HelloFields where
  recordVersion : UInt16
  version : UInt16
  random : List UInt8
  sessionID : List UInt8
  cipherSuites : List UInt8
  compressionMethods : List UInt8
  extensions : Option (List Extension)

namespace HelloFields

variable (hello : HelloFields)

/-- The message up to the extensions. -/
def front : List UInt8 :=
  Go.uint16 hello.version.toNat ++ hello.random ++
    (UInt8.ofNat hello.sessionID.length :: hello.sessionID) ++
    (Go.uint16 hello.cipherSuites.length ++ hello.cipherSuites) ++
    (UInt8.ofNat hello.compressionMethods.length :: hello.compressionMethods)

/-- The message without its header. -/
def body : List UInt8 := hello.front ++ hello.extensions.elim [] extensionsBlock

/-- The headers of the record and of the message. -/
def headers : List UInt8 :=
  (22 :: Go.uint16 hello.recordVersion.toNat) ++ Go.uint16 (4 + hello.body.length) ++
    (1 :: UInt8.ofNat (hello.body.length / 2 ^ 16) :: Go.uint16 (hello.body.length % 2 ^ 16))

/-- The record with the message in it. -/
def encode : List UInt8 := hello.headers ++ hello.body

end HelloFields

/-- A message whose parts are as long as their length fields allow, and that fits in one record. -/
structure ClientHello extends HelloFields where
  random_length : random.length = 32
  sessionID_short : sessionID.length < 2 ^ 8
  cipherSuites_short : cipherSuites.length < 2 ^ 16
  compressionMethods_short : compressionMethods.length < 2 ^ 8
  extensions_short : ∀ exts, extensions = some exts → (encodeExtensions exts).length < 2 ^ 16
  extensions_distinct : ∀ exts, extensions = some exts → (exts.map Extension.kind).Nodup
  oneRecord : 4 + toHelloFields.body.length < 2 ^ 16

/-- The parser returns this, once its loop has rounds enough. -/
def ParsesTo (data : List UInt8) (result : Except SNIError (List UInt8)) : Prop :=
  ∀ rounds, data.length < rounds → parseSNI rounds data = ExceptT.mk (.ok result)

/-- What the parser finds where a list of server names should be, if the list ends with the data. -/
structure Entry (bytes : List UInt8) where
  listLen : Nat
  kind : UInt8
  nameLen : Nat
  rest : List UInt8
  split : bytes = Go.uint16 listLen ++ (kind :: (Go.uint16 nameLen ++ rest))
  listLen_fits : listLen < 2 ^ 16
  nameLen_fits : nameLen < 2 ^ 16
  holds : 3 ≤ listLen
  inside : listLen ≤ 3 + rest.length

/-- An entry is a host name that ends with the data. -/
def Entry.Host {bytes : List UInt8} (entry : Entry bytes) : Prop :=
  entry.kind = 0 ∧ entry.nameLen ≤ entry.rest.length

/-- The bytes that an entry has for a name. -/
def Entry.name {bytes : List UInt8} (entry : Entry bytes) : List UInt8 :=
  entry.rest.take entry.nameLen

/-- Whether the entry is a host name can be found out. -/
instance {bytes : List UInt8} (entry : Entry bytes) : Decidable entry.Host :=
  inferInstanceAs (Decidable (_ ∧ _))

section Extensions

variable {data ahead : List UInt8} {pos stop rounds : Nat} {ext : Extension}

/-- An extension takes up four bytes and those of its body. -/
theorem Extension.length_encode (ext : Extension) : ext.encode.length = 4 + ext.body.length := by
  simp only [Extension.encode, List.length_append, Go.length_uint16]
  omega

/-- An extension begins with its type, its length comes after two bytes and its body after four. -/
theorem Extension.at_parts (here : Go.At data pos (ext.encode ++ ahead)) :
    Go.At data pos
        (Go.uint16 ext.kind.toNat ++ (Go.uint16 ext.body.length ++ (ext.body ++ ahead))) ∧
      Go.At data (pos + 2) (Go.uint16 ext.body.length ++ (ext.body ++ ahead)) ∧
      Go.At data (pos + 4) (ext.body ++ ahead) := by
  simp only [Extension.encode, List.append_assoc] at here
  have lengths : Go.At data (pos + 2) (Go.uint16 ext.body.length ++ (ext.body ++ ahead)) :=
    here.advance
  exact ⟨here, lengths, lengths.advance⟩

/-- The loop passes over an extension of another type. -/
theorem scanExtensions_skip (here : Go.At data pos (ext.encode ++ ahead)) (more : pos < stop)
    (other : ext.kind ≠ 0) (rounds : Nat) :
    scanExtensions data stop (rounds + 1) pos =
      scanExtensions data stop rounds (pos + ext.encode.length) := by
  -- The two fields of the header are read, and the body is passed over.
  have kind : ext.kind.toNat ≠ 0 := by
    intro zero
    exact other (UInt16.toNat_inj.mp zero)
  have total := here.length_eq
  rw [List.length_append, ext.length_encode] at total
  obtain ⟨first, lengths, _⟩ := Extension.at_parts here
  rw [scanExtensions, if_pos more, if_neg (by omega), first.uint16At_bind ext.kind.toNat_lt,
    lengths.uint16At_bind ext.short, if_neg (fun named => kind named.1), ext.length_encode,
    Nat.add_assoc]

/-- The loop takes the name of an entry, or skips the extension and five bytes more. -/
theorem scanExtensions_entry (here : Go.At data pos (ext.encode ++ ahead)) (more : pos < stop)
    (kind : ext.kind = 0) (long : 2 ≤ ext.body.length) (entry : Entry (ext.body ++ ahead))
    (rounds : Nat) :
    scanExtensions data stop (rounds + 1) pos =
      if entry.Host then pure entry.name
      else scanExtensions data stop rounds (pos + (ext.encode.length + 5)) := by
  have total := here.length_eq
  rw [List.length_append, ext.length_encode] at total
  have size := congrArg List.length entry.split
  simp only [List.length_append, List.length_cons, Go.length_uint16] at size
  have inside := entry.inside
  have holds := entry.holds
  obtain ⟨first, lengths, list⟩ := Extension.at_parts here
  -- The list is read from the bytes ahead, whether they are of the extension or not.
  rw [entry.split] at list
  have kindAt := list.advance
  have nameLen := kindAt.tail
  have host := nameLen.advance
  simp only [Go.length_uint16] at kindAt nameLen host
  rw [scanExtensions, if_pos more, if_neg (by omega), first.uint16At_bind ext.kind.toNat_lt,
    lengths.uint16At_bind ext.short, if_pos ⟨by rw [kind]; rfl, by omega⟩,
    Go.failIf_bind (by omega), list.uint16At_bind entry.listLen_fits,
    Go.failIf_bind (by omega), kindAt.byteAt_bind, nameLen.uint16At_bind entry.nameLen_fits]
  have reaches : data.length ≥ pos + 4 + 2 + 3 + entry.nameLen ↔
      entry.nameLen ≤ entry.rest.length := by omega
  have decides : (entry.kind = 0 ∧ data.length ≥ pos + 4 + 2 + 3 + entry.nameLen) ↔
      entry.Host := and_congr_right' reaches
  by_cases named : entry.Host
  · -- The bytes of the name are the next ones.
    have size : entry.name.length = entry.nameLen := by
      rw [Entry.name, List.length_take, Nat.min_eq_left named.2]
    rw [← List.take_append_drop entry.nameLen entry.rest, ← Entry.name] at host
    rw [if_pos (decides.mpr named), if_pos named, ← size, host.slice_eq]
  · rw [if_neg (mt decides.mp named), if_neg named, ext.length_encode]
    congr 1
    omega

/-- The loop returns the first entry of a list of server names. -/
theorem scanExtensions_found {name others : List UInt8}
    (here : Go.At data pos (ext.encode ++ ahead)) (more : pos < stop) (kind : ext.kind = 0)
    (body : ext.body = serverNameList name others) (rounds : Nat) :
    scanExtensions data stop (rounds + 1) pos = pure name := by
  have size : ext.body.length = 5 + name.length + others.length := by
    simp only [body, serverNameList, List.length_append, List.length_cons, Go.length_uint16]
    omega
  have short := ext.short
  -- Behind the length of the list comes its first entry: a type, a length and the name.
  let entry : Entry (ext.body ++ ahead) :=
    { listLen := 3 + name.length + others.length
      kind := 0
      nameLen := name.length
      rest := name ++ (others ++ ahead)
      split := by simp only [body, serverNameList, List.append_assoc, List.cons_append]
      listLen_fits := by omega
      nameLen_fits := by omega
      holds := by omega
      inside := by simp only [List.length_append]; omega }
  have host : entry.Host := ⟨rfl, by simp only [entry, List.length_append]; omega⟩
  rw [scanExtensions_entry here more kind (by omega) entry, if_pos host]
  exact congrArg pure List.take_left

/-- The loop passes over extensions of other types, one in each round. -/
theorem scanExtensions_pass {before : List Extension} (others : ∀ ext ∈ before, ext.kind ≠ 0)
    (here : Go.At data pos (encodeExtensions before ++ ahead))
    (within : pos + (encodeExtensions before).length ≤ stop) (rounds : Nat) :
    scanExtensions data stop (before.length + rounds) pos =
      scanExtensions data stop rounds (pos + (encodeExtensions before).length) := by
  -- Behind the first extension the same is true of the rest of them.
  induction before generalizing pos with
  | nil =>
    rw [List.length_nil, Nat.zero_add]
    rfl
  | cons ext before ih =>
    obtain ⟨other, others⟩ := List.forall_mem_cons.mp others
    simp only [encodeExtensions, List.flatMap_cons, List.append_assoc, List.length_append]
      at here within ih ⊢
    have size := ext.length_encode
    rw [List.length_cons, Nat.add_right_comm, scanExtensions_skip here (by omega) other,
      ih others here.advance (by omega), Nat.add_assoc]

/-- Where the extensions begin, the parser reads their length and starts its loop. -/
theorem parseExtensions_block {exts : List Extension}
    (here : Go.At data pos (extensionsBlock exts ++ ahead))
    (short : (encodeExtensions exts).length < 2 ^ 16) (rounds : Nat) :
    Go.At data (pos + 2) (encodeExtensions exts ++ ahead) ∧
      parseExtensions rounds data pos =
        scanExtensions data (pos + 2 + (encodeExtensions exts).length) rounds (pos + 2) := by
  -- The block is as long as its length field says, so that neither check fails.
  have total := here.length_eq
  simp only [extensionsBlock, List.append_assoc, List.length_append, Go.length_uint16]
    at here total
  refine ⟨here.advance, ?_⟩
  rw [parseExtensions, Go.failIf_bind (by omega), here.uint16At_bind short,
    Go.failIf_bind (by omega)]

/-- A block of extensions gives the server name that one of them has, and the others do not. -/
theorem parseExtensions_found {before after : List Extension} {name others : List UInt8}
    (here : Go.At data pos (extensionsBlock (before ++ ext :: after) ++ ahead))
    (short : (encodeExtensions (before ++ ext :: after)).length < 2 ^ 16)
    (first : ∀ other ∈ before, other.kind ≠ 0) (kind : ext.kind = 0)
    (body : ext.body = serverNameList name others) (rounds : Nat) :
    parseExtensions (before.length + (rounds + 1)) data pos = pure name := by
  -- The loop passes over what comes before the extension.
  obtain ⟨list, scan⟩ := parseExtensions_block here short (before.length + (rounds + 1))
  have size := ext.length_encode
  simp only [encodeExtensions, List.flatMap_append, List.flatMap_cons, List.append_assoc,
    List.length_append] at list scan
  rw [scan, scanExtensions_pass first list (by simp only [encodeExtensions]; omega)]
  exact scanExtensions_found list.advance (by omega) kind body rounds

/-- A block of extensions without a server name gives an error. -/
theorem parseExtensions_missing {exts : List Extension}
    (here : Go.At data pos (extensionsBlock exts ++ ahead))
    (short : (encodeExtensions exts).length < 2 ^ 16) (others : ∀ ext ∈ exts, ext.kind ≠ 0)
    (rounds : Nat) :
    parseExtensions (exts.length + (rounds + 1)) data pos = throw .notFound := by
  -- The loop passes over all of them and is then at the end.
  obtain ⟨list, scan⟩ := parseExtensions_block here short (exts.length + (rounds + 1))
  rw [scan, scanExtensions_pass others list (Nat.le_refl _), scanExtensions,
    if_neg (Nat.lt_irrefl _)]

end Extensions

/-- A length that fits in a byte is read back from it. -/
theorem toNat_length {part : List UInt8} (short : part.length < 2 ^ 8) :
    (UInt8.ofNat part.length).toNat = part.length :=
  UInt8.toNat_ofNat_of_lt' short

/-- What the parser skips before the extensions, of which it reads the types and the lengths. -/
structure Preface where
  -- The version and the length of the record, and the length of the message.
  record : List UInt8
  handshake : List UInt8
  -- The version of the protocol and the random bytes.
  fixed : List UInt8
  sessionID : List UInt8
  cipherSuites : List UInt8
  compressionMethods : List UInt8
  record_length : record.length = 4
  handshake_length : handshake.length = 3
  fixed_length : fixed.length = 34
  sessionID_short : sessionID.length < 2 ^ 8
  cipherSuites_short : cipherSuites.length < 2 ^ 16
  compressionMethods_short : compressionMethods.length < 2 ^ 8

/-- The bytes that are skipped, in front of the others. -/
def Preface.encode (preface : Preface) (ahead : List UInt8) : List UInt8 :=
  22 :: (preface.record ++ 1 :: (preface.handshake ++ (preface.fixed ++
    UInt8.ofNat preface.sessionID.length :: (preface.sessionID ++
      (Go.uint16 preface.cipherSuites.length ++ (preface.cipherSuites ++
        UInt8.ofNat preface.compressionMethods.length ::
          (preface.compressionMethods ++ ahead)))))))

/-- The parser skips all that comes before the extensions. -/
theorem Preface.parseSNI_encode (preface : Preface) (ahead : List UInt8) (rounds : Nat) :
    ∃ pos, Go.At (preface.encode ahead) pos ahead ∧
      parseSNI rounds (preface.encode ahead) =
        parseExtensions rounds (preface.encode ahead) pos := by
  -- Each part is skipped by its length, which was read just before it.
  generalize whole : preface.encode ahead = data
  have start : Go.At data 0 (preface.encode ahead) := whole ▸ Go.At.start data
  simp only [Preface.encode] at start
  have message := start.tail.advance
  have session := message.tail.advance.advance
  have ciphers := session.tail.advance
  have compressions := ciphers.advance.advance
  have extensions := compressions.tail.advance
  have total := extensions.length_eq
  simp only [Go.length_uint16, preface.record_length, preface.handshake_length,
    preface.fixed_length, Nat.zero_add, Nat.reduceAdd]
    at message session ciphers compressions extensions total
  refine ⟨_, extensions, ?_⟩
  simp only [parseSNI, ← Nat.add_assoc, Nat.reduceAdd]
  rw [Go.failIf_bind (by omega), start.byteAt_bind, Go.failIf_bind (by simp),
    Go.failIf_bind (by omega), message.byteAt_bind, Go.failIf_bind (by simp),
    Go.failIf_bind (by omega), session.byteAt_bind, toNat_length preface.sessionID_short,
    Go.failIf_bind (by omega), ciphers.uint16At_bind preface.cipherSuites_short,
    Go.failIf_bind (by omega), compressions.byteAt_bind,
    toNat_length preface.compressionMethods_short]

/-- The part of a message in front of its extensions. -/
def ClientHello.preface (hello : ClientHello) : Preface where
  record := Go.uint16 hello.recordVersion.toNat ++ Go.uint16 (4 + hello.body.length)
  handshake :=
    UInt8.ofNat (hello.body.length / 2 ^ 16) :: Go.uint16 (hello.body.length % 2 ^ 16)
  fixed := Go.uint16 hello.version.toNat ++ hello.random
  sessionID := hello.sessionID
  cipherSuites := hello.cipherSuites
  compressionMethods := hello.compressionMethods
  record_length := rfl
  handshake_length := rfl
  fixed_length := by rw [List.length_append, Go.length_uint16, hello.random_length]
  sessionID_short := hello.sessionID_short
  cipherSuites_short := hello.cipherSuites_short
  compressionMethods_short := hello.compressionMethods_short

/-- The headers and the front of a message are what the parser skips. -/
theorem ClientHello.preface_encode (hello : ClientHello) (ahead : List UInt8) :
    hello.preface.encode ahead = hello.headers ++ (hello.front ++ ahead) := by
  simp only [Preface.encode, ClientHello.preface, HelloFields.headers, HelloFields.front,
    List.append_assoc, List.cons_append]

/-- The parser skips all that comes before the extensions of a message. -/
theorem ClientHello.parseSNI_front (hello : ClientHello) (ahead : List UInt8) (rounds : Nat) :
    ∃ pos, Go.At (hello.headers ++ (hello.front ++ ahead)) pos ahead ∧
      parseSNI rounds (hello.headers ++ (hello.front ++ ahead)) =
        parseExtensions rounds (hello.headers ++ (hello.front ++ ahead)) pos := by
  rw [← hello.preface_encode]
  exact hello.preface.parseSNI_encode ahead rounds

/-- Every extension takes up bytes. -/
theorem length_le_encodeExtensions (exts : List Extension) :
    exts.length ≤ (encodeExtensions exts).length := by
  -- Each of them has a header of four bytes.
  induction exts with
  | nil => exact Nat.zero_le _
  | cons ext exts ih =>
    have size := ext.length_encode
    simp only [encodeExtensions, List.flatMap_cons, List.length_append, List.length_cons] at ih ⊢
    omega

/-- Where types are distinct, none before an extension is the same. -/
theorem kind_ne_of_distinct {before after : List Extension} {ext other : Extension}
    (distinct : ((before ++ ext :: after).map Extension.kind).Nodup) (member : other ∈ before) :
    other.kind ≠ ext.kind := by
  rw [List.map_append, List.map_cons, List.nodup_append] at distinct
  exact distinct.2.2 _ (List.mem_map_of_mem member) _ List.mem_cons_self

section Rounds

variable {data : List UInt8} {stop pos rounds : Nat} {result : Except SNIError (List UInt8)}

/-- A loop that has returned would have returned the same with one more round. -/
theorem scanExtensions_succ
    (returned : scanExtensions data stop rounds pos = ExceptT.mk (.ok result)) :
    scanExtensions data stop (rounds + 1) pos = ExceptT.mk (.ok result) := by
  -- Every round but the last goes the same way.
  induction rounds generalizing pos with
  | zero => cases returned
  | succ rounds ih =>
    rw [scanExtensions] at returned ⊢
    split at returned
    case isFalse past => rwa [if_neg past]
    case isTrue more =>
    rw [if_pos more]
    split at returned
    case isTrue short => rwa [if_pos short]
    case isFalse room =>
    rw [if_neg room]
    refine Go.bind_mono (fun extType => Go.bind_mono fun extLen => ?_) returned
    dsimp only
    split
    case isFalse => exact ih
    case isTrue =>
    refine Go.bind_mono fun _ => Go.bind_mono fun listLen => Go.bind_mono fun _ =>
      Go.bind_mono fun nameType => Go.bind_mono fun nameLen => ?_
    split
    case isTrue => exact id
    case isFalse => exact ih

/-- A parser that has returned would have returned the same with one more round of its loop. -/
theorem parseSNI_succ (returned : parseSNI rounds data = ExceptT.mk (.ok result)) :
    parseSNI (rounds + 1) data = ExceptT.mk (.ok result) := by
  -- The loop comes behind everything else.
  iterate 15
    refine Go.bind_mono ?_ returned
    intro _ returned
  exact scanExtensions_succ returned

/-- All data is parsed in some way. -/
theorem exists_parsesTo (data : List UInt8) : ∃ result, ParsesTo data result := by
  obtain ⟨result, returned, _⟩ := parseSNI_returns (Nat.lt_succ_self data.length)
  refine ⟨result, ?_⟩
  intro rounds enough
  obtain ⟨spare, rfl⟩ := Nat.exists_eq_add_of_lt enough
  induction spare with
  | zero => exact returned
  | succ spare ih => exact parseSNI_succ (ih (by omega))

end Rounds

/-- Data is parsed in one way. -/
theorem ParsesTo.unique {data : List UInt8} {first second : Except SNIError (List UInt8)}
    (left : ParsesTo data first) (right : ParsesTo data second) : first = second := by
  have same := (left _ (Nat.lt_succ_self _)).symm.trans (right _ (Nat.lt_succ_self _))
  cases same
  rfl

namespace ClientHello

variable (hello : ClientHello) {exts before after : List Extension} {ext : Extension}
  {name others : List UInt8}

/-- The bytes of a message, with those before its extensions set apart. -/
theorem encode_append (trailing : List UInt8) :
    hello.encode ++ trailing =
      hello.headers ++ (hello.front ++ (hello.extensions.elim [] extensionsBlock ++ trailing)) := by
  simp only [HelloFields.encode, HelloFields.body, List.append_assoc]

/-- Behind the front of a message, a block of extensions with a server name gives that name. -/
theorem parsesTo_of_name (short : (encodeExtensions (before ++ ext :: after)).length < 2 ^ 16)
    (first : ∀ other ∈ before, other.kind ≠ 0) (kind : ext.kind = 0)
    (body : ext.body = serverNameList name others) (ahead : List UInt8) :
    ParsesTo (hello.headers ++ (hello.front ++
      (extensionsBlock (before ++ ext :: after) ++ ahead))) (.ok name) := by
  -- There are no more extensions than bytes.
  intro rounds enough
  obtain ⟨pos, here, parses⟩ :=
    hello.parseSNI_front (extensionsBlock (before ++ ext :: after) ++ ahead) rounds
  have few := length_le_encodeExtensions (before ++ ext :: after)
  rw [here.length_eq] at enough
  simp only [extensionsBlock, List.length_append, Go.length_uint16] at few enough
  obtain ⟨spare, rfl⟩ := Nat.exists_eq_add_of_lt (show before.length < rounds by omega)
  rw [parses, Nat.add_assoc, parseExtensions_found here short first kind body]
  rfl

/-- Behind the front of a message, a block of extensions without a server name gives an error. -/
theorem parsesTo_of_missing (short : (encodeExtensions exts).length < 2 ^ 16)
    (missing : ∀ ext ∈ exts, ext.kind ≠ 0) (ahead : List UInt8) :
    ParsesTo (hello.headers ++ (hello.front ++ (extensionsBlock exts ++ ahead)))
      (.error .notFound) := by
  -- There are no more extensions than bytes, and so enough rounds for the loop.
  intro rounds enough
  obtain ⟨pos, here, parses⟩ := hello.parseSNI_front (extensionsBlock exts ++ ahead) rounds
  have few := length_le_encodeExtensions exts
  rw [here.length_eq] at enough
  simp only [extensionsBlock, List.length_append, Go.length_uint16] at few enough
  obtain ⟨spare, rfl⟩ := Nat.exists_eq_add_of_lt (show exts.length < rounds by omega)
  rw [parses, Nat.add_assoc, parseExtensions_missing here short missing]
  rfl

end ClientHello

end Balance
