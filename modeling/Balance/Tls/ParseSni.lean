import Balance.Go.Checked
import Balance.Proxy.Request

/-! The server name in the first message of a TLS client, read from its bytes. -/

namespace Balance

/-- Why no server name is found. -/
inductive SNIError where
  | shortRecord
  | notHandshake
  | shortHandshake
  | notClientHello
  | shortSessionID
  | shortCipherSuites
  | shortCompressionMethods
  | noExtensions
  | shortExtensions
  | extensionLength
  | listLength
  | notFound
  deriving DecidableEq, Repr

/-- The text of an error. -/
def SNIError.message : SNIError → List UInt8
  | .shortRecord => bytesOf "data too short for TLS record"
  | .notHandshake => bytesOf "not a TLS handshake record"
  | .shortHandshake => bytesOf "data too short for handshake header"
  | .notClientHello => bytesOf "not a ClientHello message"
  | .shortSessionID => bytesOf "data too short for session ID"
  | .shortCipherSuites => bytesOf "data too short for cipher suites"
  | .shortCompressionMethods => bytesOf "data too short for compression methods"
  | .noExtensions => bytesOf "no extensions present"
  | .shortExtensions => bytesOf "data too short for extensions"
  | .extensionLength => bytesOf "invalid SNI extension length"
  | .listLength => bytesOf "invalid SNI list length"
  | .notFound => bytesOf "SNI extension not found"

/--
The loop over the extensions, which stops at the first server name.

The number of rounds bounds how often the loop is entered.
-/
def scanExtensions (data : List UInt8) (stop : Nat) :
    Nat → Nat → Go.Checked SNIError (List UInt8)
  | 0, _ => Go.stopWith .unfinished
  | rounds + 1, pos =>
    if pos < stop then
      if data.length < pos + 4 then throw .notFound
      else do
        let extType ← Go.uint16At data pos
        let extLen ← Go.uint16At data (pos + 2)
        let pos := pos + 4
        if extType = 0 ∧ data.length ≥ pos + extLen then do
          Go.failIf (extLen < 2) .extensionLength
          let listLen ← Go.uint16At data pos
          let pos := pos + 2
          Go.failIf (listLen < 3 ∨ data.length < pos + listLen) .listLength
          let nameType ← Go.byteAt data pos
          let nameLen ← Go.uint16At data (pos + 1)
          let pos := pos + 3
          if nameType = 0 ∧ data.length ≥ pos + nameLen then
            Go.slice data pos (pos + nameLen)
          else
            -- The whole extension is skipped, on top of what was read of it.
            scanExtensions data stop rounds (pos + extLen)
        else scanExtensions data stop rounds (pos + extLen)
    else throw .notFound

/-- The part of the parser that begins where the extensions do. -/
def parseExtensions (rounds : Nat) (data : List UInt8) (pos : Nat) :
    Go.Checked SNIError (List UInt8) := do
  Go.failIf (data.length < pos + 2) .noExtensions
  let extensionsLen ← Go.uint16At data pos
  let pos := pos + 2
  let stop := pos + extensionsLen
  Go.failIf (data.length < stop) .shortExtensions
  scanExtensions data stop rounds pos

/-- The server name that a client asks for. -/
def parseSNI (rounds : Nat) (data : List UInt8) : Go.Checked SNIError (List UInt8) := do
  Go.failIf (data.length < 5) .shortRecord
  let recordType ← Go.byteAt data 0
  Go.failIf (recordType ≠ 22) .notHandshake
  let pos := 5
  Go.failIf (data.length < pos + 4) .shortHandshake
  let handshakeType ← Go.byteAt data pos
  Go.failIf (handshakeType ≠ 1) .notClientHello
  let pos := pos + (4 + 2 + 32)
  Go.failIf (data.length < pos + 1) .shortSessionID
  let sessionIDLen ← Go.byteAt data pos
  let pos := pos + (1 + sessionIDLen.toNat)
  Go.failIf (data.length < pos + 2) .shortCipherSuites
  let cipherSuitesLen ← Go.uint16At data pos
  let pos := pos + (2 + cipherSuitesLen)
  Go.failIf (data.length < pos + 1) .shortCompressionMethods
  let compressionMethodsLen ← Go.byteAt data pos
  let pos := pos + (1 + compressionMethodsLen.toNat)
  parseExtensions rounds data pos

/-- The loop over the extensions needs no more rounds than there are bytes ahead of it. -/
theorem scanExtensions_returns {data : List UInt8} {stop rounds pos : Nat}
    (enough : stop - pos < rounds) :
    Go.Returns (scanExtensions data stop rounds pos) fun _ => True := by
  -- Every round moves the position on, by the header of an extension at least.
  induction rounds generalizing pos with
  | zero => omega
  | succ rounds ih =>
    rw [scanExtensions]
    split
    case isFalse => exact Go.returns_throw _
    split
    case isTrue => exact Go.returns_throw _
    case isFalse header =>
    refine Go.returns_uint16At (by omega) ?_
    intro extType
    refine Go.returns_uint16At (by omega) ?_
    intro extLen
    dsimp only
    split
    case isFalse => exact ih (by omega)
    case isTrue named =>
    -- The extension lies within the data, and so do the list in it and the entry in the list.
    refine Go.returns_failIf ?_
    intro lengths
    refine Go.returns_uint16At (by omega) ?_
    intro listLen
    refine Go.returns_failIf ?_
    intro listed
    refine Go.returns_byteAt (by omega) ?_
    intro nameType
    refine Go.returns_uint16At (by omega) ?_
    intro nameLen
    split
    case isTrue host => exact Go.returns_slice (by omega) host.2
    case isFalse => exact ih (by omega)

/-- The extensions are read within the data. -/
theorem parseExtensions_returns {data : List UInt8} {rounds : Nat} (enough : data.length < rounds)
    (pos : Nat) : Go.Returns (parseExtensions rounds data pos) fun _ => True := by
  -- The loop stays below the end that was checked against the data.
  refine Go.returns_failIf ?_
  intro extensions
  refine Go.returns_uint16At (by omega) ?_
  intro extensionsLen
  refine Go.returns_failIf ?_
  intro _
  exact scanExtensions_returns (by omega)

/-- The message is read within the data. -/
theorem parseSNI_returns {data : List UInt8} {rounds : Nat} (enough : data.length < rounds) :
    Go.Returns (parseSNI rounds data) fun _ => True := by
  -- Each read comes after a check that the data go as far.
  refine Go.returns_failIf ?_
  intro record
  refine Go.returns_byteAt (by omega) ?_
  intro recordType
  refine Go.returns_failIf ?_
  intro _
  refine Go.returns_failIf ?_
  intro handshake
  refine Go.returns_byteAt (by omega) ?_
  intro handshakeType
  refine Go.returns_failIf ?_
  intro _
  refine Go.returns_failIf ?_
  intro session
  refine Go.returns_byteAt (by omega) ?_
  intro sessionIDLen
  refine Go.returns_failIf ?_
  intro ciphers
  refine Go.returns_uint16At (by omega) ?_
  intro cipherSuitesLen
  refine Go.returns_failIf ?_
  intro compressions
  refine Go.returns_byteAt (by omega) ?_
  intro compressionMethodsLen
  exact parseExtensions_returns enough _

/--
Whatever the bytes are, the parser reads none outside of them, and it returns after no more rounds
of its loop than there are bytes.
-/
theorem parseSNI_in_range (data : List UInt8) (rounds : Nat) (enough : data.length < rounds) :
    ∃ result, parseSNI rounds data = ExceptT.mk (.ok result) := by
  obtain ⟨result, same, _⟩ := parseSNI_returns enough
  exact ⟨result, same⟩

/-- A message with a server name behind another extension takes two rounds of the loop. -/
theorem parseSNI_in_range_hello :
    let data : List UInt8 := [22, 3, 1, 0, 65, 1, 0, 0, 61, 3, 3] ++ List.replicate 32 7 ++
      [0, 0, 2, 0, 47, 1, 0, 0, 18, 0, 23, 0, 0, 0, 0, 0, 10, 0, 8, 0, 0, 5] ++ bytesOf "other"
    (∃ result, parseSNI (data.length + 1) data = ExceptT.mk (.ok result)) ∧
      parseSNI (data.length + 1) data = ExceptT.mk (.ok (.ok (bytesOf "other"))) := by
  -- The first extension is passed over, and the name is taken from the second.
  intro data
  exact ⟨parseSNI_in_range data (data.length + 1) (Nat.lt_succ_self _), rfl⟩

end Balance
