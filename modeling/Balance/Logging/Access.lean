import Balance.Go.Time
import Balance.Logging.Logger
import Balance.Logging.Recording
import Balance.Transform.Headers

/-! The access log, whose entries have parts that the client chooses. -/

namespace Balance

/-- An entry of the access log, with what is written of it. -/
structure AccessLog where
  clientIP : List UInt8
  method : List UInt8
  path : List UInt8
  query : List UInt8
  protocol : List UInt8
  statusCode : Int
  bytesWritten : Int
  duration : Int
  userAgent : List UInt8
  referer : List UInt8
  backend : List UInt8
  traceID : List UInt8

namespace AccessLog

/-- A field that is left out if it is empty. -/
def optional (key : String) (value : List UInt8) : List Field :=
  if value ≠ [] then [.string (bytesOf key) value] else []

/-- The fields of an entry. -/
def fields (entry : AccessLog) : List Field :=
  [.string (bytesOf "client_ip") entry.clientIP,
    .string (bytesOf "method") entry.method,
    .string (bytesOf "path") entry.path,
    .string (bytesOf "protocol") entry.protocol,
    .int (bytesOf "status") entry.statusCode,
    .int (bytesOf "bytes") entry.bytesWritten,
    .duration (bytesOf "duration") entry.duration,
    .string (bytesOf "user_agent") entry.userAgent] ++
  (optional "query" entry.query ++ (optional "referer" entry.referer ++
    (optional "backend" entry.backend ++ optional "trace_id" entry.traceID)))

/-- The texts of an entry. -/
def parts (entry : AccessLog) : List (List UInt8) :=
  [entry.clientIP, entry.method, entry.path, entry.protocol, entry.userAgent, entry.query,
    entry.referer, entry.backend, entry.traceID]

end AccessLog

/-- A request as the middleware reads it, with its path decoded. -/
structure ServedRequest where
  remoteAddr : List UInt8
  method : List UInt8
  path : List UInt8
  rawQuery : List UInt8
  proto : List UInt8
  header : Header

namespace ServedRequest

/-- The address that the request says it comes from, or the one of its connection. -/
def clientIP (r : ServedRequest) : List UInt8 :=
  let forwarded := r.header.get (bytesOf "X-Forwarded-For")
  if forwarded ≠ [] then forwarded else r.remoteAddr

/-- The program that the request says it was made by. -/
def userAgent (r : ServedRequest) : List UInt8 := r.header.get (bytesOf "User-Agent")

/-- The page that the request says it comes from. -/
def referer (r : ServedRequest) : List UInt8 := r.header.get (bytesOf "Referer")

/-- The parts of a request that are logged. -/
def parts (r : ServedRequest) : List (List UInt8) :=
  [r.clientIP, r.method, r.path, r.proto, r.userAgent, r.rawQuery, r.referer]

end ServedRequest

section Logging

variable {Context : Type} (platform : LogPlatform Context) (l : Logger) (site : LogSite)

/-- Writes an entry of the access log. -/
def AccessLog.log (entry : AccessLog) : Option (List UInt8) :=
  l.info platform site (bytesOf "access") entry.fields

/-- What is logged of a request once its handler has made its calls, between two instants. -/
def accessLogMiddleware (r : ServedRequest) (w : HttpResponseWriter) (calls : List HandlerCall)
    (start finish : Int) : Option (List UInt8) :=
  let lrw := calls.foldl LoggingResponseWriter.apply (.new w)
  AccessLog.log platform l site
    { clientIP := r.clientIP
      method := r.method
      path := r.path
      query := r.rawQuery
      protocol := r.proto
      statusCode := lrw.statusCode
      bytesWritten := lrw.bytesWritten
      duration := Go.since finish start
      userAgent := r.userAgent
      referer := r.referer
      backend := []
      traceID := [] }

end Logging

namespace AccessLog

/-- The names that the access log gives to its parts are words. -/
theorem unbroken_names : ∀ name ∈ ["access", "client_ip", "method", "path", "protocol", "status",
    "bytes", "duration", "user_agent", "query", "referer", "backend", "trace_id"],
    Unbroken (bytesOf name) := by
  decide +kernel

/-- An optional field breaks the line only by its value. -/
theorem whole_optional {key : String} (word : Unbroken (bytesOf key)) (value : List UInt8) :
    (∀ field ∈ optional key value, field.Whole) ↔ Unbroken value := by
  rw [optional]
  split
  case isTrue => simp [Field.Whole, Field.string, FieldValue.text, word]
  case isFalse empty => simp [not_not.mp empty]

/-- The fields of an entry break the line only by its texts, and not by its numbers. -/
theorem whole_fields (entry : AccessLog) :
    (∀ field ∈ entry.fields, field.Whole) ↔ ∀ part ∈ entry.parts, Unbroken part := by
  -- The keys are words, and an optional part that is left out was empty.
  have named (key : String) (listed : key ∈ ["client_ip", "method", "path", "protocol", "status",
      "bytes", "duration", "user_agent", "query", "referer", "backend", "trace_id"]) :
      Unbroken (bytesOf key) := unbroken_names key (List.mem_cons_of_mem _ listed)
  rw [fields, List.forall_mem_append, List.forall_mem_append, List.forall_mem_append,
    List.forall_mem_append, whole_optional (named _ (by simp)), whole_optional (named _ (by simp)),
    whole_optional (named _ (by simp)), whole_optional (named _ (by simp))]
  simp [Field.Whole, Field.string, Field.int, Field.duration, FieldValue.text, parts,
    Unbroken.of_solid, named, and_assoc]

/-- An entry of the access log is one line just if none of its texts has a line end. -/
theorem log_oneLine {Context : Type} {platform : LogPlatform Context} {l : Logger}
    (plain : platform.PlainIdentifiers) (site : LogSite) (admitted : l.level ≤ infoLevel)
    (entry : AccessLog) :
    ∃ text, entry.log platform l site = some text ∧
      (OneLine text ↔ l.Tidy platform site ∧ ∀ part ∈ entry.parts, Unbroken part) := by
  -- The access log has no context of its own, which makes no difference for the logger.
  obtain ⟨text, written, line⟩ := l.logContext_oneLine site plain platform.background admitted
    (bytesOf "access") entry.fields
  refine ⟨text, written, ?_⟩
  rw [line, whole_fields, and_iff_right (unbroken_names "access" (by simp))]

end AccessLog

/-- What `net/http` reads from the lines of a request has no line end; the path is decoded later. -/
structure ServedRequest.ReadByLine (r : ServedRequest) : Prop where
  remoteAddr : Unbroken r.remoteAddr
  method : Unbroken r.method
  rawQuery : Unbroken r.rawQuery
  proto : Unbroken r.proto
  header : ∀ name values, r.header.values name = some values → ∀ value ∈ values, Unbroken value

/-- No header that is read by line has a line end. -/
theorem ServedRequest.ReadByLine.unbroken_get {r : ServedRequest} (read : r.ReadByLine)
    (key : List UInt8) :
    Unbroken (r.header.get key) := by
  rw [Header.get]
  cases found : r.header.values (canonicalMIMEHeaderKey key) with
  | none => exact unbroken_nil
  | some values =>
    cases values with
    | nil => exact unbroken_nil
    | cons value rest => exact read.header _ _ found value List.mem_cons_self

section Requests

variable {Context : Type} {platform : LogPlatform Context} {l : Logger}
  (plain : platform.PlainIdentifiers) (site : LogSite) (r : ServedRequest)
  (w : HttpResponseWriter) (calls : List HandlerCall) (start finish : Int)

include plain

/-- A request is one line of the access log just if none of its parts has a line end. -/
theorem accessLogMiddleware_oneLine (admitted : l.level ≤ infoLevel) :
    ∃ text, accessLogMiddleware platform l site r w calls start finish = some text ∧
      (OneLine text ↔ l.Tidy platform site ∧ ∀ part ∈ r.parts, Unbroken part) := by
  obtain ⟨text, written, line⟩ := AccessLog.log_oneLine plain site admitted _
  refine ⟨text, written, ?_⟩
  rw [line]
  simp [AccessLog.parts, ServedRequest.parts]

variable {r}

/-- Of a request that is read by line, only the path can break the line of the access log. -/
theorem accessLogMiddleware_oneLine_iff_path (admitted : l.level ≤ infoLevel)
    (tidy : l.Tidy platform site) (read : r.ReadByLine) :
    ∃ text, accessLogMiddleware platform l site r w calls start finish = some text ∧
      (OneLine text ↔ Unbroken r.path) := by
  obtain ⟨text, written, line⟩ :=
    accessLogMiddleware_oneLine plain site r w calls start finish admitted
  refine ⟨text, written, ?_⟩
  -- The address is that of the connection, or one that a header gives.
  have client : Unbroken r.clientIP := by
    rw [ServedRequest.clientIP]
    split
    · exact read.unbroken_get _
    · exact read.remoteAddr
  rw [line, and_iff_right tidy]
  simp [ServedRequest.parts, client, read.method, read.rawQuery, read.proto,
    ServedRequest.userAgent, ServedRequest.referer, read.unbroken_get]

end Requests

/--
A log call writes one line, if and only if neither its message nor a field of it has a line end,
nor what the logger adds.

A request makes one line in the access log just if none of its parts has a line end.
-/
theorem log_call_one_line_iff {Context : Type} (platform : LogPlatform Context)
    (plain : platform.PlainIdentifiers) (l : Logger) (site : LogSite) :
    (∀ ctx level msg fields, l.level ≤ level →
      ∃ text, l.logContext platform site ctx level msg fields = some text ∧
        (OneLine text ↔ l.Tidy platform site ∧ Unbroken msg ∧ ∀ field ∈ fields, field.Whole)) ∧
    (l.level ≤ infoLevel → ∀ r w calls start finish,
      ∃ text, accessLogMiddleware platform l site r w calls start finish = some text ∧
        (OneLine text ↔ l.Tidy platform site ∧ ∀ part ∈ r.parts, Unbroken part)) := by
  constructor
  · intro ctx level msg fields admitted
    exact l.logContext_oneLine site plain ctx admitted msg fields
  · intro admitted r w calls start finish
    exact accessLogMiddleware_oneLine plain site r w calls start finish admitted

/--
Contexts as the identifiers of their spans, which are zero where there is no span.

A span is valid if both identifiers are given, and they are written in hexadecimal digits.
-/
def spanPlatform : LogPlatform (List UInt8 × List UInt8) where
  format _ _ := bytesOf "2024-05-01T12:00:00Z"
  background := (List.replicate 16 0, List.replicate 8 0)
  isValid ctx := ctx.1.any (· ≠ 0) && ctx.2.any (· ≠ 0)
  traceID ctx := Go.hexString ctx.1
  spanID ctx := Go.hexString ctx.2

/-- Identifiers in digits are plain. -/
theorem spanPlatform_plain : spanPlatform.PlainIdentifiers := fun _ =>
  ⟨.of_solid (Go.solid_hexString _), .of_solid (Go.solid_hexString _)⟩

/-- A call with a valid span and a message without a line end writes one line. -/
theorem log_call_one_line_span :
    let ctx : List UInt8 × List UInt8 := (List.replicate 16 0xab, List.replicate 8 0xcd)
    let msg := bytesOf "started"
    spanPlatform.isValid ctx = true ∧
      ∃ text, newDefaultLogger.logContext spanPlatform ⟨0, none⟩ ctx infoLevel msg [] = some text ∧
        OneLine text := by
  -- The logger adds a time without a line end, and no caller.
  intro ctx msg
  have tidy : newDefaultLogger.Tidy spanPlatform ⟨0, none⟩ :=
    ⟨by decide +kernel, by simp [newDefaultLogger]⟩
  obtain ⟨text, written, line⟩ := (log_call_one_line_iff spanPlatform spanPlatform_plain
    newDefaultLogger ⟨0, none⟩).1 ctx infoLevel msg [] (by decide)
  exact ⟨by decide, text, written, line.mpr ⟨tidy, by decide +kernel, by simp⟩⟩

/-- A request whose path ends the line and begins another one, as `/%0a...` does when decoded. -/
def forgingRequest : ServedRequest where
  remoteAddr := bytesOf "192.0.2.1:4711"
  method := bytesOf "GET"
  path := bytesOf "/\n2024-05-01T12:00:00Z INFO login user=admin"
  rawQuery := []
  proto := bytesOf "HTTP/1.1"
  header := .empty

/-- The access log of one request is what two calls would have written, the second of a login. -/
theorem request_forges_entry :
    let site : LogSite := ⟨0, none⟩
    ∃ text first second,
      accessLogMiddleware spanPlatform newDefaultLogger site forgingRequest ⟨none⟩ [] 0 0 =
        some text ∧
      newDefaultLogger.info spanPlatform site (bytesOf "access")
        [.string (bytesOf "client_ip") (bytesOf "192.0.2.1:4711"),
          .string (bytesOf "method") (bytesOf "GET"),
          .string (bytesOf "path") (bytesOf "/")] = some first ∧
      newDefaultLogger.info spanPlatform site (bytesOf "login")
        [.string (bytesOf "user") (bytesOf "admin"),
          .string (bytesOf "protocol") (bytesOf "HTTP/1.1"),
          .int (bytesOf "status") 200, .int (bytesOf "bytes") 0,
          .duration (bytesOf "duration") 0,
          .string (bytesOf "user_agent") []] = some second ∧
      text = first ++ second ∧ ¬ OneLine text := by
  -- The calls evaluate to their texts, which are compared byte by byte.
  refine ⟨_, _, _, rfl, rfl, rfl, ?_, ?_⟩
  · decide +kernel
  · decide +kernel

end Balance
