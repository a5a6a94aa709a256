import Balance.Go.Collections
import Balance.Go.Format
import Balance.Machine.History

/-! The response writers that record a status, and the status that the client gets. -/

namespace Balance

open Machine

/-- A status that is the last one of a response. -/
structure FinalStatus where
  code : Int
  final : 200 ≤ code ∧ code ≤ 599

/-- What a handler does with its response writer. -/
inductive HandlerCall where
  | writeHeader (status : FinalStatus)
  -- With the number of bytes that the connection takes.
  | write (n : Int)

/-- The writer of `net/http`, with the status that it has sent. -/
structure HttpResponseWriter where
  status : Option Int

namespace HttpResponseWriter

/-- Only the first status is sent. -/
def writeHeader (w : HttpResponseWriter) (code : Int) : HttpResponseWriter :=
  ⟨w.status.or (some code)⟩

/-- Before the first byte of the body, a status is sent. -/
def write (w : HttpResponseWriter) : HttpResponseWriter := w.writeHeader 200

/-- What the handler does to it. -/
def apply (w : HttpResponseWriter) : HandlerCall → HttpResponseWriter
  | .writeHeader status => w.writeHeader status.code
  | .write _ => w.write

/-- The status that the client has got once the handler has returned. -/
def received (w : HttpResponseWriter) : Int := w.status.getD 200

end HttpResponseWriter

/-- The writer that the access log puts around another one. -/
structure LoggingResponseWriter where
  responseWriter : HttpResponseWriter
  statusCode : Int
  bytesWritten : Int

namespace LoggingResponseWriter

/-- The writer that the handler is given. -/
def new (w : HttpResponseWriter) : LoggingResponseWriter := ⟨w, 200, 0⟩

/-- Records a status and passes it on. -/
def writeHeader (lrw : LoggingResponseWriter) (code : Int) : LoggingResponseWriter :=
  { lrw with statusCode := code, responseWriter := lrw.responseWriter.writeHeader code }

/-- Passes bytes on and records how many were taken. -/
def write (lrw : LoggingResponseWriter) (n : Int) : LoggingResponseWriter :=
  { lrw with
    responseWriter := lrw.responseWriter.write
    bytesWritten := Go.wrap64 (lrw.bytesWritten + n) }

/-- What the handler does to it. -/
def apply (lrw : LoggingResponseWriter) : HandlerCall → LoggingResponseWriter
  | .writeHeader status => lrw.writeHeader status.code
  | .write n => lrw.write n

end LoggingResponseWriter

/-- The writer that the metrics put around another one. -/
structure ResponseWriter where
  responseWriter : HttpResponseWriter
  statusCode : Int

namespace ResponseWriter

/-- The writer that the handler is given. -/
def new (w : HttpResponseWriter) : ResponseWriter := ⟨w, 200⟩

/-- Records a status and passes it on. -/
def writeHeader (rw : ResponseWriter) (code : Int) : ResponseWriter :=
  { rw with statusCode := code, responseWriter := rw.responseWriter.writeHeader code }

/-- What the handler does to it. -/
def apply (rw : ResponseWriter) : HandlerCall → ResponseWriter
  | .writeHeader status => rw.writeHeader status.code
  -- The method of the writer inside is called directly.
  | .write _ => { rw with responseWriter := rw.responseWriter.write }

end ResponseWriter

/-- What the metrics say about a request. -/
structure RequestMetrics where
  status : List UInt8
  error : Option String
  deriving DecidableEq

/-- What the metrics record once the handler has made its calls. -/
def requestMetricsMiddleware (w : HttpResponseWriter) (calls : List HandlerCall) :
    RequestMetrics :=
  let rw := calls.foldl ResponseWriter.apply (.new w)
  { status := Go.itoa rw.statusCode
    error :=
      if rw.statusCode ≥ 500 then some "server_error"
      else if rw.statusCode ≥ 400 then some "client_error"
      else none }

namespace HandlerCall

/-- The status that a call gives, if it gives one. -/
def code : HandlerCall → Option Int
  | .writeHeader status => some status.code
  | .write _ => none

/-- The last status that a handler gives. -/
def lastCode (calls : List HandlerCall) : Option Int := (calls.filterMap code).getLast?

/-- The status with which a response begins, by the first call that the handler makes. -/
def opening (calls : List HandlerCall) : Int := (calls.head?.bind code).getD 200

/-- One more call gives the last status, if it gives one. -/
theorem lastCode_concat (calls : List HandlerCall) (call : HandlerCall) :
    lastCode (calls ++ [call]) = call.code.or (lastCode calls) := by
  cases call with
  | writeHeader status => simp [lastCode, code]
  | write n => simp [lastCode, code]

end HandlerCall

open HandlerCall

namespace HttpResponseWriter

/-- Once a status was sent, it stays. -/
theorem foldl_sent (code : Int) (calls : List HandlerCall) :
    calls.foldl apply ⟨some code⟩ = ⟨some code⟩ := by
  -- Every further status is ignored, also the one of a write.
  induction calls with
  | nil => rfl
  | cons call rest ih => cases call <;> exact ih

/-- The first call sends its status, or the one for a page without an error. -/
theorem apply_first (call : HandlerCall) : apply ⟨none⟩ call = ⟨some (call.code.getD 200)⟩ := by
  cases call <;> rfl

/-- A response begins with the first call, and nothing changes its status afterwards. -/
theorem received_foldl (calls : List HandlerCall) :
    (calls.foldl apply ⟨none⟩).received = opening calls := by
  cases calls with
  | nil => rfl
  | cons call rest =>
    rw [List.foldl_cons, apply_first, foldl_sent]
    rfl

end HttpResponseWriter

/-- A writer that records each status that it is given, and passes every call on. -/
structure Recorder (ω : Type) where
  apply : ω → HandlerCall → ω
  statusCode : ω → Int
  inside : ω → HttpResponseWriter
  records : ∀ w call, statusCode (apply w call) = call.code.getD (statusCode w)
  passes : ∀ w call, inside (apply w call) = (inside w).apply call

/-- The writer of the access log is one. -/
def LoggingResponseWriter.recorder : Recorder LoggingResponseWriter where
  apply := LoggingResponseWriter.apply
  statusCode := LoggingResponseWriter.statusCode
  inside := LoggingResponseWriter.responseWriter
  records := by
    intro w call
    cases call <;> rfl
  passes := by
    intro w call
    cases call <;> rfl

/-- The writer of the metrics is one. -/
def ResponseWriter.recorder : Recorder ResponseWriter where
  apply := ResponseWriter.apply
  statusCode := ResponseWriter.statusCode
  inside := ResponseWriter.responseWriter
  records := by
    intro w call
    cases call <;> rfl
  passes := by
    intro w call
    cases call <;> rfl

namespace Recorder

variable {ω : Type} (recorder : Recorder ω)

/-- What is recorded is the last status, or what was recorded before. -/
theorem statusCode_foldl (w : ω) (calls : List HandlerCall) :
    recorder.statusCode (calls.foldl recorder.apply w) =
      (lastCode calls).getD (recorder.statusCode w) := by
  -- Each call that gives a status replaces what was recorded.
  refine foldl_history (fun calls w' =>
    recorder.statusCode w' = (lastCode calls).getD (recorder.statusCode w)) rfl ?_ calls
  intro past w' call recorded
  rw [recorder.records, lastCode_concat, recorded]
  cases call.code <;> rfl

/-- The writer inside gets every call. -/
theorem inside_foldl (w : ω) (calls : List HandlerCall) :
    recorder.inside (calls.foldl recorder.apply w) =
      calls.foldl HttpResponseWriter.apply (recorder.inside w) :=
  (List.foldl_hom recorder.inside fun w call => (recorder.passes w call).symm).symm

/-- What is recorded is what was sent just if the last status is the one of the beginning. -/
theorem records_received_iff {w : ω} (default : recorder.statusCode w = 200)
    (fresh : recorder.inside w = ⟨none⟩) (calls : List HandlerCall) :
    recorder.statusCode (calls.foldl recorder.apply w) =
        (recorder.inside (calls.foldl recorder.apply w)).received ↔
      ∀ code, lastCode calls = some code → code = opening calls := by
  rw [statusCode_foldl, inside_foldl, default, fresh, HttpResponseWriter.received_foldl]
  cases last : lastCode calls with
  | some code => simp
  | none =>
    -- A handler that gives no status begins with a write, if with anything.
    have silent : opening calls = 200 := by
      cases calls with
      | nil => rfl
      | cons call rest =>
        cases call with
        | writeHeader status => simp [lastCode, HandlerCall.code] at last
        | write n => rfl
    simp [silent]

end Recorder

/--
The status in the access log and in the metrics is the one that the client got, if and only if the
last status that the handler gives is the one with which its response begins.
-/
theorem recorded_status_iff (calls : List HandlerCall) :
    let logged := calls.foldl LoggingResponseWriter.apply (.new ⟨none⟩)
    let measured := calls.foldl ResponseWriter.apply (.new ⟨none⟩)
    (logged.statusCode = logged.responseWriter.received ↔
      ∀ code, lastCode calls = some code → code = opening calls) ∧
    (measured.statusCode = measured.responseWriter.received ↔
      ∀ code, lastCode calls = some code → code = opening calls) :=
  ⟨LoggingResponseWriter.recorder.records_received_iff rfl rfl calls,
    ResponseWriter.recorder.records_received_iff rfl rfl calls⟩

/-- An error that the handler reports after it has begun with the body. -/
def lateError : List HandlerCall := [.write 5, .writeHeader ⟨500, by decide⟩]

/-- The client gets a page without an error, and log and metrics have an error of the server. -/
theorem late_error_recorded :
    let logged := lateError.foldl LoggingResponseWriter.apply (.new ⟨none⟩)
    let measured := lateError.foldl ResponseWriter.apply (.new ⟨none⟩)
    logged.responseWriter.received = 200 ∧ logged.statusCode = 500 ∧
      measured.responseWriter.received = 200 ∧ measured.statusCode = 500 ∧
      (requestMetricsMiddleware ⟨none⟩ lateError).error = some "server_error" := by
  decide

end Balance
