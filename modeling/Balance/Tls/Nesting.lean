import Balance.Tls.ClientHello

/-! The server names that a message has in its extensions, and those that the parser takes. -/

namespace Balance

/--
A block of extensions has a server name.

Behind whole extensions comes one of type zero, and in its body a list that begins with the name.
-/
def HasName (block name : List UInt8) : Prop :=
  ∃ (before : List Extension) (ext : Extension) (others padding ahead : List UInt8),
    block = encodeExtensions before ++ (ext.encode ++ ahead) ∧ ext.kind = 0 ∧
      ext.body = serverNameList name others ++ padding

/-- A message has a block of extensions, behind all that comes before, and what follows. -/
def Splits (data block trailing : List UInt8) : Prop :=
  block.length < 2 ^ 16 ∧ ∃ preface : Preface,
    data = preface.encode (Go.uint16 block.length ++ (block ++ trailing))

/-- A message has a server name in its block of extensions. -/
def Names (data name : List UInt8) : Prop :=
  ∃ block trailing, Splits data block trailing ∧ HasName block name

/--
The parser takes a name from the bytes ahead, so many of which are left of the block.

Lengths are held against the end of the data alone.
-/
inductive Taken : Nat → List UInt8 → List UInt8 → Prop
  | here {left : Nat} {ext : Extension} {ahead : List UInt8} (more : 0 < left)
      (kind : ext.kind = 0) (long : 2 ≤ ext.body.length) (entry : Entry (ext.body ++ ahead))
      (host : entry.Host) : Taken left (ext.encode ++ ahead) entry.name
  | pass {left : Nat} {ext : Extension} {ahead name : List UInt8} (more : 0 < left)
      (other : ext.kind ≠ 0) (later : Taken (left - ext.encode.length) ahead name) :
      Taken left (ext.encode ++ ahead) name
  -- What was read of the extension is skipped a second time.
  | slip {left : Nat} {ext : Extension} {skipped ahead name : List UInt8} (more : 0 < left)
      (kind : ext.kind = 0) (long : 2 ≤ ext.body.length)
      (entry : Entry (ext.body ++ (skipped ++ ahead))) (other : ¬ entry.Host)
      (five : skipped.length = 5) (later : Taken (left - (ext.encode.length + 5)) ahead name) :
      Taken left (ext.encode ++ (skipped ++ ahead)) name

/-- An extension ends within the block, and has a list within it that begins with the name. -/
def Nested (left : Nat) (ext : Extension) (name : List UInt8) : Prop :=
  ext.encode.length ≤ left ∧ ∃ others padding, ext.body = serverNameList name others ++ padding

/--
A name is taken with a length overstepped.

The extension ends behind the block, or its list or the name behind what contains it, or what comes
before the extension is not made of whole ones.
-/
inductive Oversteps : Nat → List UInt8 → List UInt8 → Prop
  | here {left : Nat} {ext : Extension} {ahead : List UInt8} (more : 0 < left)
      (kind : ext.kind = 0) (long : 2 ≤ ext.body.length) (entry : Entry (ext.body ++ ahead))
      (host : entry.Host) (stray : ¬ Nested left ext entry.name) :
      Oversteps left (ext.encode ++ ahead) entry.name
  | pass {left : Nat} {ext : Extension} {ahead name : List UInt8} (more : 0 < left)
      (other : ext.kind ≠ 0) (later : Oversteps (left - ext.encode.length) ahead name) :
      Oversteps left (ext.encode ++ ahead) name
  | slip {left : Nat} {ext : Extension} {skipped ahead name : List UInt8} (more : 0 < left)
      (kind : ext.kind = 0) (long : 2 ≤ ext.body.length)
      (entry : Entry (ext.body ++ (skipped ++ ahead))) (other : ¬ entry.Host)
      (five : skipped.length = 5) (later : Taken (left - (ext.encode.length + 5)) ahead name) :
      Oversteps left (ext.encode ++ (skipped ++ ahead)) name

/-- A name that is taken with a length overstepped is taken. -/
theorem Oversteps.taken {left : Nat} {ahead name : List UInt8}
    (oversteps : Oversteps left ahead name) : Taken left ahead name := by
  induction oversteps with
  | here more kind long entry host _ => exact .here more kind long entry host
  | pass more other _ ih => exact .pass more other ih
  | slip more kind long entry other five later => exact .slip more kind long entry other five later

/-- A block has a name behind one more extension if it has it without that. -/
theorem HasName.cons {block name : List UInt8} (has : HasName block name) (ext : Extension) :
    HasName (ext.encode ++ block) name := by
  obtain ⟨before, named, others, padding, ahead, rfl, kind, body⟩ := has
  refine ⟨ext :: before, named, others, padding, ahead, ?_, kind, body⟩
  simp only [encodeExtensions, List.flatMap_cons, List.append_assoc]

/-- A name that is taken is one of the block, unless a length is overstepped. -/
theorem Taken.hasName_or_oversteps {left : Nat} {ahead name : List UInt8}
    (taken : Taken left ahead name) :
    HasName (ahead.take left) name ∨ Oversteps left ahead name := by
  -- Passing over an extension leaves the rest of the block, as long as something is left of it.
  induction taken with
  | @here left ext ahead more kind long entry host =>
    by_cases nested : Nested left ext entry.name
    · left
      obtain ⟨inside, others, padding, body⟩ := nested
      refine ⟨[], ext, others, padding, ahead.take (left - ext.encode.length), ?_, kind, body⟩
      rw [List.take_append, List.take_of_length_le inside]
      rfl
    · exact .inr (.here more kind long entry host nested)
  | @pass left ext ahead name more other later ih =>
    rcases ih with has | oversteps
    · left
      have inside : ext.encode.length ≤ left := by
        cases later <;> omega
      rw [List.take_append, List.take_of_length_le inside]
      exact has.cons ext
    · exact .inr (.pass more other oversteps)
  | slip more kind long entry other five later _ =>
    exact .inr (.slip more kind long entry other five later)

section Reading

variable {data ahead name : List UInt8} {pos stop rounds : Nat} {ext : Extension}

/-- At the end of the block, the loop has found nothing. -/
theorem scanExtensions_past (past : stop ≤ pos) :
    scanExtensions data stop rounds pos ≠ pure name := by
  cases rounds with
  | zero =>
    intro found
    cases found
  | succ rounds =>
    rw [scanExtensions, if_neg (by omega)]
    intro found
    cases found

/-- Where the data go on for four bytes, an extension begins, which may end behind the data. -/
theorem exists_extension (here : Go.At data pos ahead) (room : pos + 4 ≤ data.length) :
    (∃ (ext : Extension) (rest : List UInt8), ahead = ext.encode ++ rest) ∨
      ∃ kind length rest, kind < 2 ^ 16 ∧ length < 2 ^ 16 ∧ rest.length < length ∧
        ahead = Go.uint16 kind ++ (Go.uint16 length ++ rest) := by
  -- Type and length are there, and the length decides whether the body is.
  obtain ⟨kind, rest, kindFits, rfl, second⟩ := here.exists_number (by omega)
  obtain ⟨length, rest, lengthFits, rfl, _⟩ := second.exists_number (by omega)
  by_cases ends : length ≤ rest.length
  · left
    have size : (rest.take length).length = length := by
      rw [List.length_take, Nat.min_eq_left ends]
    refine ⟨⟨UInt16.ofNat kind, rest.take length, size.trans_lt lengthFits⟩, rest.drop length, ?_⟩
    simp only [Extension.encode, UInt16.toNat_ofNat_of_lt' kindFits, size, List.append_assoc,
      List.take_append_drop]
  · exact .inr ⟨kind, length, rest, kindFits, lengthFits, by omega, rfl⟩

/-- The loop takes nothing where it meets an extension that ends behind the data. -/
theorem scanExtensions_cut {kind length : Nat} {rest : List UInt8} (kindFits : kind < 2 ^ 16)
    (lengthFits : length < 2 ^ 16) (cut : rest.length < length) (inside : stop ≤ data.length)
    (here : Go.At data pos (Go.uint16 kind ++ (Go.uint16 length ++ rest))) (more : pos < stop) :
    scanExtensions data stop (rounds + 1) pos ≠ pure name := by
  -- The position moves on to behind the data, where the block has ended.
  have total := here.length_eq
  simp only [List.length_append, Go.length_uint16] at total
  have second : Go.At data (pos + 2) (Go.uint16 length ++ rest) := here.advance
  rw [scanExtensions, if_pos more, if_neg (by omega), here.uint16At_bind kindFits,
    second.uint16At_bind lengthFits, if_neg (by omega)]
  exact scanExtensions_past (by omega)

/-- A server name is taken from an extension only if it has an entry to be taken from. -/
theorem exists_entry (here : Go.At data pos (ext.encode ++ ahead)) (kind : ext.kind = 0)
    (more : pos < stop) (found : scanExtensions data stop (rounds + 1) pos = pure name) :
    2 ≤ ext.body.length ∧ Nonempty (Entry (ext.body ++ ahead)) := by
  have total := here.length_eq
  rw [List.length_append, ext.length_encode] at total
  obtain ⟨first, lengths, list⟩ := Extension.at_parts here
  rw [scanExtensions, if_pos more, if_neg (by omega), first.uint16At_bind ext.kind.toNat_lt,
    lengths.uint16At_bind ext.short, if_pos ⟨by rw [kind]; rfl, by omega⟩] at found
  obtain ⟨long, found⟩ := Go.of_failIf_bind found
  -- The entry is made of the parts that are read one after the other.
  obtain ⟨listLen, rest, listFits, split, names⟩ := list.exists_number (by omega)
  rw [split] at list
  rw [list.uint16At_bind listFits] at found
  obtain ⟨checked, _⟩ := Go.of_failIf_bind found
  obtain ⟨entryKind, rest, rfl, nameAt⟩ := names.exists_cons (by omega)
  obtain ⟨nameLen, rest, nameFits, rfl, behind⟩ := nameAt.exists_number (by omega)
  have after := behind.length_eq
  exact ⟨by omega, ⟨listLen, entryKind, nameLen, rest, split, listFits, nameFits, by omega,
    by omega⟩⟩

/-- What the loop takes is a name that it may take. -/
theorem scanExtensions_taken (here : Go.At data pos ahead) (inside : stop ≤ data.length)
    (found : scanExtensions data stop rounds pos = pure name) :
    Taken (stop - pos) ahead name := by
  -- In each round the loop takes the name, passes over an extension, or slips behind it.
  induction rounds generalizing pos ahead with
  | zero => cases found
  | succ rounds ih =>
    have more : pos < stop := by
      by_contra past
      exact scanExtensions_past (by omega) found
    have room : pos + 4 ≤ data.length := by
      by_contra short
      rw [scanExtensions, if_pos more, if_pos (by omega)] at found
      cases found
    rcases exists_extension here room with
      ⟨ext, rest, rfl⟩ | ⟨kind, length, rest, kindFits, lengthFits, cut, rfl⟩
    · by_cases kind : ext.kind = 0
      · obtain ⟨long, ⟨entry⟩⟩ := exists_entry here kind more found
        rw [scanExtensions_entry here more kind long entry] at found
        split at found
        case isTrue host =>
          cases found
          exact .here (by omega) kind long entry host
        case isFalse other =>
          have within : pos + ext.encode.length + 5 ≤ data.length := by
            by_contra short
            exact scanExtensions_past (by omega) found
          obtain ⟨skipped, rest, five, rfl, behind⟩ := here.advance.exists_append within
          rw [Nat.add_assoc] at behind
          have later := ih behind found
          rw [Nat.sub_add_eq] at later
          exact .slip (by omega) kind long entry other five later
      · rw [scanExtensions_skip here more kind] at found
        have later := ih here.advance found
        rw [Nat.sub_add_eq] at later
        exact .pass (by omega) kind later
    · exact absurd found (scanExtensions_cut kindFits lengthFits cut inside here more)

/-- A name that the loop may take is taken, with rounds for all bytes ahead. -/
theorem Taken.scanExtensions_eq {left : Nat} (taken : Taken left ahead name)
    (here : Go.At data pos ahead) (stops : stop - pos = left) (enough : ahead.length < rounds) :
    scanExtensions data stop rounds pos = pure name := by
  -- Each case is one round of the loop, which goes on further behind.
  induction taken generalizing pos rounds with
  | @here left ext ahead more kind long entry host =>
    obtain ⟨rounds, rfl⟩ := Nat.exists_eq_add_of_lt (Nat.zero_lt_of_lt enough)
    rw [Nat.zero_add, scanExtensions_entry here (by omega) kind long entry, if_pos host]
  | @pass left ext ahead name more other later ih =>
    obtain ⟨rounds, rfl⟩ := Nat.exists_eq_add_of_lt (Nat.zero_lt_of_lt enough)
    have size := ext.length_encode
    rw [List.length_append] at enough
    rw [Nat.zero_add, scanExtensions_skip here (by omega) other]
    exact ih here.advance (by omega) (by omega)
  | @slip left ext skipped ahead name more kind long entry other five later ih =>
    obtain ⟨rounds, rfl⟩ := Nat.exists_eq_add_of_lt (Nat.zero_lt_of_lt enough)
    have size := ext.length_encode
    rw [List.length_append, List.length_append] at enough
    have behind := here.advance.advance
    rw [five, Nat.add_assoc] at behind
    rw [Nat.zero_add, scanExtensions_entry here (by omega) kind long entry, if_neg other]
    exact ih behind (by omega) (by omega)

/-- Only what has all the parts before the extensions is parsed. -/
theorem exists_preface (returned : parseSNI rounds data = pure name) :
    ∃ (preface : Preface) (ahead : List UInt8), data = preface.encode ahead := by
  -- The parts are set apart in the order in which they are checked.
  obtain ⟨all, start, same⟩ : ∃ all, Go.At data 0 all ∧ data = all := ⟨data, .start data, rfl⟩
  obtain ⟨_, returned⟩ := Go.of_failIf_bind returned
  obtain ⟨recordType, rest, rfl, recordAt⟩ := start.exists_cons (by omega)
  rw [start.byteAt_bind] at returned
  obtain ⟨handshakeRecord, returned⟩ := Go.of_failIf_bind returned
  obtain ⟨_, returned⟩ := Go.of_failIf_bind returned
  obtain ⟨record, rest, record_length, rfl, messageAt⟩ :=
    recordAt.exists_append (show 0 + 1 + 4 ≤ _ by omega)
  -- Behind the header of the record comes the message.
  obtain ⟨messageType, rest, rfl, handshakeAt⟩ := messageAt.exists_cons (by omega)
  rw [messageAt.byteAt_bind] at returned
  obtain ⟨clientHello, returned⟩ := Go.of_failIf_bind returned
  obtain ⟨_, returned⟩ := Go.of_failIf_bind returned
  obtain ⟨handshake, rest, handshake_length, rfl, fixedAt⟩ :=
    handshakeAt.exists_append (show 0 + 1 + 4 + 1 + 3 ≤ _ by omega)
  obtain ⟨fixed, rest, fixed_length, rfl, sessionAt⟩ :=
    fixedAt.exists_append (show 0 + 1 + 4 + 1 + 3 + 34 ≤ _ by omega)
  -- Version and random bytes are skipped; what follows has a length in front each time.
  obtain ⟨sessionIDLen, rest, rfl, sessionIDAt⟩ := sessionAt.exists_cons (by omega)
  rw [sessionAt.byteAt_bind] at returned
  obtain ⟨_, returned⟩ := Go.of_failIf_bind returned
  obtain ⟨sessionID, rest, sessionID_length, rfl, ciphersAt⟩ :=
    sessionIDAt.exists_append (show _ + sessionIDLen.toNat ≤ _ by omega)
  rw [Nat.add_assoc] at ciphersAt
  obtain ⟨cipherSuitesLen, rest, ciphersFit, rfl, cipherSuitesAt⟩ :=
    ciphersAt.exists_number (by omega)
  rw [ciphersAt.uint16At_bind ciphersFit] at returned
  obtain ⟨_, returned⟩ := Go.of_failIf_bind returned
  obtain ⟨cipherSuites, rest, cipherSuites_length, rfl, compressionsAt⟩ :=
    cipherSuitesAt.exists_append (show _ + cipherSuitesLen ≤ _ by omega)
  rw [Nat.add_assoc] at compressionsAt
  obtain ⟨compressionMethodsLen, rest, rfl, compressionMethodsAt⟩ :=
    compressionsAt.exists_cons (by omega)
  rw [compressionsAt.byteAt_bind] at returned
  obtain ⟨_, _⟩ := Go.of_failIf_bind returned
  obtain ⟨compressionMethods, ahead, compressionMethods_length, rfl, _⟩ :=
    compressionMethodsAt.exists_append (show _ + compressionMethodsLen.toNat ≤ _ by omega)
  -- Each length that was read is the length of its part, so the parts encode to the data.
  refine ⟨⟨record, handshake, fixed, sessionID, cipherSuites, compressionMethods, record_length,
    handshake_length, fixed_length, ?_, ?_, ?_⟩, ahead, ?_⟩
  · exact sessionID_length ▸ sessionIDLen.toNat_lt
  · exact cipherSuites_length ▸ ciphersFit
  · exact compressionMethods_length ▸ compressionMethodsLen.toNat_lt
  · rw [same, not_not.mp handshakeRecord, not_not.mp clientHello]
    simp only [Preface.encode, sessionID_length, cipherSuites_length, compressionMethods_length,
      UInt8.ofNat_toNat]

end Reading

/-- A part behind a byte with its length is told apart from what follows. -/
theorem length_byte_inj {part other ahead behind : List UInt8} (short : part.length < 2 ^ 8)
    (otherShort : other.length < 2 ^ 8)
    (same : UInt8.ofNat part.length :: (part ++ ahead) =
      UInt8.ofNat other.length :: (other ++ behind)) : ahead = behind := by
  obtain ⟨lengths, rest⟩ := List.cons.inj same
  have equal := congrArg UInt8.toNat lengths
  rw [toNat_length short, toNat_length otherShort] at equal
  exact (List.append_inj rest equal).2

/-- A part behind two bytes with its length is told apart from what follows. -/
theorem length_uint16_inj {part other ahead behind : List UInt8} (short : part.length < 2 ^ 16)
    (otherShort : other.length < 2 ^ 16)
    (same : Go.uint16 part.length ++ (part ++ ahead) =
      Go.uint16 other.length ++ (other ++ behind)) : part = other ∧ ahead = behind := by
  obtain ⟨lengths, rest⟩ := List.append_inj same rfl
  exact List.append_inj rest (Go.uint16_inj short otherShort lengths)

/-- What comes before the extensions ends in one place only. -/
theorem Preface.encode_inj {preface other : Preface} {ahead behind : List UInt8}
    (same : preface.encode ahead = other.encode behind) : ahead = behind := by
  -- Each part is of a known length, or stands behind its length.
  have record := List.append_inj (List.cons.inj same).2
    (by rw [preface.record_length, other.record_length])
  have handshake := List.append_inj (List.cons.inj record.2).2
    (by rw [preface.handshake_length, other.handshake_length])
  have fixed := List.append_inj handshake.2 (by rw [preface.fixed_length, other.fixed_length])
  have session := length_byte_inj preface.sessionID_short other.sessionID_short fixed.2
  have ciphers := length_uint16_inj preface.cipherSuites_short other.cipherSuites_short session
  exact length_byte_inj preface.compressionMethods_short other.compressionMethods_short ciphers.2

/-- A message has one block of extensions. -/
theorem Splits.unique {data block trailing other rest : List UInt8}
    (splits : Splits data block trailing) (again : Splits data other rest) : block = other := by
  obtain ⟨short, preface, rfl⟩ := splits
  obtain ⟨otherShort, preface', same⟩ := again
  exact (length_uint16_inj short otherShort (Preface.encode_inj same)).1

/-- Where a message has a block of extensions, the parser starts its loop there. -/
theorem Splits.parseSNI_eq {data block trailing : List UInt8}
    (splits : Splits data block trailing) (rounds : Nat) :
    ∃ pos, Go.At data pos (block ++ trailing) ∧
      parseSNI rounds data = scanExtensions data (pos + block.length) rounds pos := by
  -- Both lengths before the block agree with the data.
  obtain ⟨short, preface, rfl⟩ := splits
  obtain ⟨pos, here, parses⟩ :=
    preface.parseSNI_encode (Go.uint16 block.length ++ (block ++ trailing)) rounds
  have total := here.length_eq
  simp only [List.length_append, Go.length_uint16] at total
  refine ⟨pos + 2, here.advance, ?_⟩
  rw [parses, parseExtensions, Go.failIf_bind (by omega), here.uint16At_bind short,
    Go.failIf_bind (by omega)]

/-- Only a message with a block of extensions gives a name. -/
theorem exists_splits {data name : List UInt8} {rounds : Nat}
    (returned : parseSNI rounds data = pure name) :
    ∃ block trailing, Splits data block trailing := by
  obtain ⟨preface, ahead, rfl⟩ := exists_preface returned
  obtain ⟨pos, here, parses⟩ := preface.parseSNI_encode ahead rounds
  rw [parses, parseExtensions] at returned
  obtain ⟨_, returned⟩ := Go.of_failIf_bind returned
  -- Neither the length of the block nor the block itself ends behind the data.
  obtain ⟨extensionsLen, rest, fits, rfl, behind⟩ := here.exists_number (by omega)
  rw [here.uint16At_bind fits] at returned
  obtain ⟨_, _⟩ := Go.of_failIf_bind returned
  obtain ⟨block, trailing, size, rfl, _⟩ :=
    behind.exists_append (show _ + extensionsLen ≤ _ by omega)
  exact ⟨block, trailing, size ▸ fits, preface, by rw [size]⟩

/-- The parser gives a name exactly if it may take it from the block on. -/
theorem parsesTo_iff_taken {data block trailing name : List UInt8}
    (splits : Splits data block trailing) :
    ParsesTo data (.ok name) ↔ Taken block.length (block ++ trailing) name := by
  -- The loop begins at the block, and is given rounds for all bytes.
  constructor
  · intro parses
    obtain ⟨pos, here, same⟩ := splits.parseSNI_eq (data.length + 1)
    have found := same.symm.trans (parses _ (Nat.lt_succ_self _))
    have total := here.length_eq
    rw [List.length_append] at total
    have taken := scanExtensions_taken here (by omega) found
    rwa [Nat.add_sub_cancel_left] at taken
  · intro taken rounds enough
    obtain ⟨pos, here, same⟩ := splits.parseSNI_eq rounds
    have total := here.length_eq
    rw [same]
    exact taken.scanExtensions_eq here (Nat.add_sub_cancel_left _ _) (by omega)

/-- The bytes behind a message are taken for a block of extensions, and a name from there. -/
def NamesBehind (trailing name : List UInt8) : Prop :=
  ∃ block rest, block.length < 2 ^ 16 ∧ trailing = Go.uint16 block.length ++ (block ++ rest) ∧
    Taken block.length (block ++ rest) name

namespace ClientHello

variable (hello : ClientHello)

/-- A message without a block of extensions gives a name exactly if the bytes behind it do. -/
theorem parsesTo_bare_iff (bare : hello.extensions = none) (trailing name : List UInt8) :
    ParsesTo (hello.encode ++ trailing) (.ok name) ↔ NamesBehind trailing name := by
  -- The block begins where the message ends.
  have whole : hello.encode ++ trailing = hello.preface.encode trailing := by
    rw [hello.encode_append, bare, hello.preface_encode]
    rfl
  rw [whole]
  constructor
  · intro parses
    obtain ⟨block, rest, splits⟩ := exists_splits (parses _ (Nat.lt_succ_self _))
    have taken := (parsesTo_iff_taken splits).mp parses
    obtain ⟨short, preface, same⟩ := splits
    exact ⟨block, rest, short, Preface.encode_inj same, taken⟩
  · rintro ⟨block, rest, short, rfl, taken⟩
    exact (parsesTo_iff_taken ⟨short, hello.preface, rfl⟩).mpr taken

/--
A message that has a server name among its extensions gives that name, wherever it stands and
whatever follows.

A message that has none gives an error exactly if it has a block of extensions at all, or what
follows it does not look like one with a name to take.
-/
theorem server_name_read_back :
    (∀ exts ext name others, hello.extensions = some exts → ext ∈ exts → ext.kind = 0 →
      ext.body = serverNameList name others →
        ∀ trailing, ParsesTo (hello.encode ++ trailing) (.ok name)) ∧
    ((∀ exts, hello.extensions = some exts → ∀ ext ∈ exts, ext.kind ≠ 0) → ∀ trailing,
      ((∃ error, ParsesTo (hello.encode ++ trailing) (.error error)) ↔
        hello.extensions.isSome ∨ ∀ name, ¬ NamesBehind trailing name)) := by
  -- The parser cannot tell the bytes that follow a message from extensions that it does not have.
  constructor
  · intro exts ext name others present member kind body trailing
    obtain ⟨before, after, rfl⟩ := List.mem_iff_append.mp member
    rw [hello.encode_append, present]
    refine hello.parsesTo_of_name (hello.extensions_short _ present) ?_ kind body trailing
    intro other early
    rw [← kind]
    exact kind_ne_of_distinct (hello.extensions_distinct _ present) early
  · intro missing trailing
    cases present : hello.extensions with
    | some exts =>
      refine iff_of_true ⟨.notFound, ?_⟩ (.inl rfl)
      rw [hello.encode_append, present]
      exact hello.parsesTo_of_missing (hello.extensions_short exts present)
        (missing exts present) trailing
    | none =>
      simp only [Option.isSome_none, Bool.false_eq_true, false_or,
        ← hello.parsesTo_bare_iff present]
      constructor
      · rintro ⟨error, failed⟩ name found
        cases found.unique failed
      · -- Whatever is not a name is an error.
        intro unnamed
        obtain ⟨result, parses⟩ := exists_parsesTo (hello.encode ++ trailing)
        cases result with
        | error error => exact ⟨error, parses⟩
        | ok name => exact absurd parses (unnamed name)

/-- A message without extensions. -/
def bare : ClientHello where
  recordVersion := 0x0301
  version := 0x0303
  random := List.replicate 32 7
  sessionID := []
  cipherSuites := [0, 47]
  compressionMethods := [0]
  extensions := none
  random_length := by decide
  sessionID_short := by decide
  cipherSuites_short := by decide
  compressionMethods_short := by decide
  extensions_short := nofun
  extensions_distinct := nofun
  oneRecord := by decide

/-- Bytes that follow a message without extensions give it a server name. -/
theorem trailing_bytes_name_server :
    let data := bare.encode ++ [0, 14, 0, 0, 0, 10, 0, 8, 0, 0, 5] ++ bytesOf "other"
    bare.extensions = none ∧
      parseSNI (data.length + 1) data = ExceptT.mk (.ok (.ok (bytesOf "other"))) ∧
      ¬ ∃ error, ParsesTo data (.error error) := by
  -- The parser is run on the bytes, which can have one result only.
  intro data
  have named : parseSNI (data.length + 1) data = ExceptT.mk (.ok (.ok (bytesOf "other"))) := rfl
  refine ⟨rfl, named, ?_⟩
  rintro ⟨error, failed⟩
  cases named.symm.trans (failed _ (Nat.lt_succ_self _))

end ClientHello

/--
The parser accepts only a name that the message has in its block of extensions if and only if the
block has every name that is taken with a length overstepped.
-/
theorem accepted_names_genuine_iff (data : List UInt8) :
    (∀ name, ParsesTo data (.ok name) → Names data name) ↔
      ∀ block trailing, Splits data block trailing →
        ∀ name, Oversteps block.length (block ++ trailing) name → HasName block name := by
  -- A name is taken from the block itself, or with a length overstepped.
  constructor
  · intro genuine block trailing splits name oversteps
    obtain ⟨other, rest, again, has⟩ :=
      genuine name ((parsesTo_iff_taken splits).mpr oversteps.taken)
    rwa [splits.unique again]
  · intro covered name parses
    obtain ⟨block, trailing, splits⟩ := exists_splits (parses _ (Nat.lt_succ_self _))
    refine ⟨block, trailing, splits, ?_⟩
    rcases ((parsesTo_iff_taken splits).mp parses).hasName_or_oversteps with has | oversteps
    · rwa [List.take_left] at has
    · exact covered block trailing splits name oversteps

/-- An extension with a list of three bytes, and with a name of four in it. -/
def shortList : Extension := ⟨0, [0, 3, 0, 0, 4], by decide⟩

/-- That extension, and the header of another one behind it. -/
def shortListBlock : List UInt8 := shortList.encode ++ [0, 23, 0, 0]

/-- A message with that block, and with lengths that agree with each other up to there. -/
def shortListHello : List UInt8 :=
  [22, 3, 1, 0, 60, 1, 0, 0, 56, 3, 3] ++ List.replicate 32 7 ++ [0, 0, 2, 0, 47, 1, 0, 0, 13] ++
    shortListBlock

/-- The block is that of the message. -/
theorem shortListHello_splits : Splits shortListHello shortListBlock [] := by
  refine ⟨by decide, ⟨⟨[3, 1, 0, 60], [0, 0, 56], 3 :: 3 :: List.replicate 32 7, [], [0, 47], [0],
    rfl, rfl, rfl, by decide, by decide, by decide⟩, rfl⟩⟩

/-- A block with a name has the bytes of the name, of its list and of its extension. -/
theorem HasName.exists_header {block name : List UInt8} (has : HasName block name) :
    9 + name.length ≤ block.length ∧
      (block.length = 9 + name.length → block.take 4 = [0, 0] ++ Go.uint16 (5 + name.length)) := by
  obtain ⟨before, ext, others, padding, ahead, rfl, kind, body⟩ := has
  have size : ext.body.length = 5 + name.length + others.length + padding.length := by
    simp only [body, serverNameList, List.length_append, List.length_cons, Go.length_uint16]
    omega
  have whole := ext.length_encode
  simp only [List.length_append]
  refine ⟨by omega, ?_⟩
  intro exact
  -- There is room for nothing else, so that the block begins with the extension.
  have front : encodeExtensions before = [] := List.eq_nil_of_length_eq_zero (by omega)
  have length : ext.body.length = 5 + name.length := by omega
  rw [front, Extension.encode, kind, length]
  rfl

/-- The header of the next extension is taken for the name, which the message does not have. -/
theorem header_taken_for_name :
    ParsesTo shortListHello (.ok [0, 23, 0, 0]) ∧ ¬ Names shortListHello [0, 23, 0, 0] := by
  constructor
  · -- The list ends before the name does, and the name is within the data.
    let entry : Entry (shortList.body ++ ([0, 23, 0, 0] ++ [])) :=
      ⟨3, 0, 4, [0, 23, 0, 0], rfl, by decide, by decide, by decide, by decide⟩
    rw [parsesTo_iff_taken shortListHello_splits, shortListBlock, List.append_assoc]
    exact .here (by decide) rfl (by decide) entry ⟨rfl, by decide⟩
  · rintro ⟨block, trailing, splits, has⟩
    rw [← shortListHello_splits.unique splits] at has
    have header := has.exists_header.2 rfl
    revert header
    decide

end Balance
