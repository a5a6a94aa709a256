import Balance.Go.Format
import Balance.Proxy.Request

/-! The logger, which writes the parts of an entry one after the other into one text. -/

namespace Balance

section Texts

/-- The byte that ends a line. -/
def newline : UInt8 := 10

/-- The byte between the parts of an entry. -/
def space : UInt8 := 32

/-- The byte between a key and its value. -/
def equals : UInt8 := 61

end Texts

/-- The value of a field, as far as there are constructors for it. -/
inductive FieldValue where
  | string (value : List UInt8)
  | int (value : Int)
  | bool (value : Bool)
  -- The value of `Err` for no error.
  | nil

/-- A field of an entry. -/
structure Field where
  key : List UInt8
  value : FieldValue

namespace Field

/-- A field with a text. -/
def string (key value : List UInt8) : Field := ⟨key, .string value⟩

/-- A field with a number, of either size. -/
def int (key : List UInt8) (value : Int) : Field := ⟨key, .int value⟩

/-- A field with a truth value. -/
def bool (key : List UInt8) (value : Bool) : Field := ⟨key, .bool value⟩

/-- A field with the text of an error, if there is one. -/
def err (error : Option (List UInt8)) : Field :=
  ⟨bytesOf "error", error.elim .nil .string⟩

/-- A field with a duration, which is written out at once. -/
def duration (key : List UInt8) (value : Int) : Field := ⟨key, .string (Go.durationString value)⟩

end Field

/-- How `%v` writes a value. -/
def FieldValue.text : FieldValue → List UInt8
  | .string value => value
  | .int value => Go.itoa value
  | .bool value => if value then bytesOf "true" else bytesOf "false"
  | .nil => bytesOf "<nil>"

/--
What the logger relies on outside of the package.

It is how a time is written in a layout, and what the tracing library tells of the span of a
context: whether it is valid, and the texts of its identifiers.
-/
structure LogPlatform (Context : Type) where
  format : List UInt8 → Int → List UInt8
  background : Context
  isValid : Context → Bool
  traceID : Context → List UInt8
  spanID : Context → List UInt8

/-- What the runtime tells a call: the time, and where it comes from. -/
structure LogSite where
  now : Int
  caller : Option (List UInt8 × Int)

/-- A logger, which writes entries of a level and those above. -/
structure Logger where
  level : Int
  timeFormat : List UInt8
  addCaller : Bool

/-- The levels with a name, from the least to the most serious. -/
def debugLevel : Int := 0

@[inherit_doc debugLevel]
def infoLevel : Int := 1

@[inherit_doc debugLevel]
def warnLevel : Int := 2

@[inherit_doc debugLevel]
def errorLevel : Int := 3

@[inherit_doc debugLevel]
def fatalLevel : Int := 4

/-- A logger with the settings of the package. -/
def newDefaultLogger : Logger where
  level := infoLevel
  timeFormat := bytesOf "2006-01-02T15:04:05Z07:00"
  addCaller := false

/-- The name of a level. -/
def levelString (level : Int) : List UInt8 :=
  if level = debugLevel then bytesOf "DEBUG"
  else if level = infoLevel then bytesOf "INFO"
  else if level = warnLevel then bytesOf "WARN"
  else if level = errorLevel then bytesOf "ERROR"
  else if level = fatalLevel then bytesOf "FATAL"
  else bytesOf "UNKNOWN"

/-- The part of a path behind its last slash. -/
def filename (file : List UInt8) : List UInt8 := (file.splitOn slash).getLastD []

section Entry

variable {Context : Type} (platform : LogPlatform Context)

/-- The identifiers of the span of a context, if it is valid. -/
def LogPlatform.traceText (ctx : Context) : List UInt8 :=
  if platform.isValid ctx then
    bytesOf "trace_id=" ++ (platform.traceID ctx ++ space ::
      (bytesOf "span_id=" ++ (platform.spanID ctx ++ [space])))
  else []

/-- The file and the line of the caller, if they are known. -/
def LogSite.callerText (site : LogSite) : List UInt8 :=
  match site.caller with
  | some (file, line) => filename file ++ colon :: (Go.itoa line ++ [space])
  | none => []

/-- The fields, each behind a space. -/
def fieldsText (fields : List Field) : List UInt8 :=
  if fields.length > 0 then
    space :: fields.zipIdx.flatMap fun (field, i) =>
      (if i > 0 then [space] else []) ++ (field.key ++ equals :: field.value.text)
  else []

namespace Logger

variable (l : Logger)

/-- The text of an entry without the end of its line. -/
def entry (site : LogSite) (ctx : Context) (level : Int) (msg : List UInt8)
    (fields : List Field) : List UInt8 :=
  platform.format l.timeFormat site.now ++ space :: (levelString level ++ space ::
    (platform.traceText ctx ++ ((if l.addCaller then site.callerText else []) ++
      (msg ++ fieldsText fields))))

/-- Writes an entry, unless its level is too low. -/
def logContext (site : LogSite) (ctx : Context) (level : Int) (msg : List UInt8)
    (fields : List Field) : Option (List UInt8) :=
  if level < l.level then none
  else some (l.entry platform site ctx level msg fields ++ [newline])

/-- Writes an entry without a context of its own. -/
def log (site : LogSite) (level : Int) (msg : List UInt8) (fields : List Field) :
    Option (List UInt8) :=
  l.logContext platform site platform.background level msg fields

/-- Writes an entry of the level for information. -/
def info (site : LogSite) (msg : List UInt8) (fields : List Field) : Option (List UInt8) :=
  l.log platform site infoLevel msg fields

end Logger

end Entry

/-- A text has one line end, which is its last byte. -/
def OneLine (text : List UInt8) : Prop :=
  text.count newline = 1 ∧ text.getLast? = some newline

instance : DecidablePred OneLine := fun text =>
  inferInstanceAs (Decidable (text.count newline = 1 ∧ text.getLast? = some newline))

/-- A text has no line end. -/
def Unbroken (text : List UInt8) : Prop := newline ∉ text

instance : DecidablePred Unbroken := fun text => inferInstanceAs (Decidable (newline ∉ text))

section Unbroken

variable {first second text : List UInt8} {byte : UInt8}

/-- A line end makes one line of a text just if the text has none. -/
theorem oneLine_concat : OneLine (text ++ [newline]) ↔ Unbroken text := by
  simp [OneLine, Unbroken, List.count_eq_zero]

/-- The empty text has no line end. -/
@[simp] theorem unbroken_nil : Unbroken [] := List.not_mem_nil

/-- A text has no line end if neither its first byte nor the rest is or has one. -/
@[simp] theorem unbroken_cons : Unbroken (byte :: text) ↔ byte ≠ newline ∧ Unbroken text := by
  simp [Unbroken, eq_comm]

/-- A text has no line end if neither of its parts has. -/
@[simp] theorem unbroken_append :
    Unbroken (first ++ second) ↔ Unbroken first ∧ Unbroken second := by
  simp [Unbroken, not_or]

/-- A text has no line end if none of its pieces has. -/
theorem unbroken_flatMap {α : Type} {pieces : List α} {piece : α → List UInt8} :
    Unbroken (pieces.flatMap piece) ↔ ∀ a ∈ pieces, Unbroken (piece a) := by
  simp [Unbroken]

/-- What has no white space has no line end. -/
theorem Unbroken.of_solid (solid : Go.Solid text) : Unbroken text := fun member =>
  absurd (solid newline member) (by decide)

/-- The bytes that the logger puts between the parts end no line. -/
@[simp] theorem separators_ne_newline :
    space ≠ newline ∧ equals ≠ newline ∧ colon ≠ newline := by decide

/-- The tracing library gives identifiers whose texts have no line end. -/
def LogPlatform.PlainIdentifiers {Context : Type} (platform : LogPlatform Context) : Prop :=
  ∀ ctx, Unbroken (platform.traceID ctx) ∧ Unbroken (platform.spanID ctx)

/-- Plain identifiers do not break the line. -/
theorem LogPlatform.PlainIdentifiers.unbroken_traceText {Context : Type}
    {platform : LogPlatform Context} (plain : platform.PlainIdentifiers) (ctx : Context) :
    Unbroken (platform.traceText ctx) := by
  have names : Unbroken (bytesOf "trace_id=") ∧ Unbroken (bytesOf "span_id=") := by
    decide +kernel
  rw [LogPlatform.traceText]
  split
  · simp [names, plain ctx]
  · exact unbroken_nil

/-- The names of the levels are words. -/
theorem unbroken_levelString (level : Int) : Unbroken (levelString level) := by
  have words : ∀ word ∈ ["DEBUG", "INFO", "WARN", "ERROR", "FATAL", "UNKNOWN"],
      Unbroken (bytesOf word) := by decide +kernel
  rw [levelString]
  split_ifs <;> exact words _ (by simp)

/-- A caller breaks the line only by the name of its file. -/
theorem unbroken_callerText (site : LogSite) :
    Unbroken site.callerText ↔ ∀ file line, site.caller = some (file, line) →
      Unbroken (filename file) := by
  -- The number of the line is written in digits.
  rw [LogSite.callerText]
  split
  case h_1 file line found => simp [found, Unbroken.of_solid]
  case h_2 missing => simp [missing]

/-- Neither the key nor the value of a field has a line end. -/
def Field.Whole (field : Field) : Prop := Unbroken field.key ∧ Unbroken field.value.text

/-- The fields break the line only by their keys and values. -/
theorem unbroken_fieldsText (fields : List Field) :
    Unbroken (fieldsText fields) ↔ ∀ field ∈ fields, field.Whole := by
  -- The loop goes over the fields with their numbers, which only decide about the spaces.
  have numbered : (∀ field ∈ fields, field.Whole) ↔ ∀ entry ∈ fields.zipIdx, entry.1.Whole := by
    conv_lhs => rw [← List.zipIdx_map_fst 0 fields]
    exact List.forall_mem_map
  rw [fieldsText, numbered]
  split
  case isTrue =>
    rw [unbroken_cons, and_iff_right separators_ne_newline.1, unbroken_flatMap]
    refine forall₂_congr fun entry _ => ?_
    have gap : Unbroken (if entry.2 > 0 then [space] else []) := by
      split <;> simp
    simp [gap, Field.Whole]
  case isFalse none =>
    have empty : fields = [] := List.eq_nil_of_length_eq_zero (by omega)
    simp [empty]

end Unbroken

section Lines

variable {Context : Type} (platform : LogPlatform Context) (l : Logger) (site : LogSite)

/-- What a logger adds to every entry has no line end: the time, and the file of the caller. -/
def Logger.Tidy : Prop :=
  Unbroken (platform.format l.timeFormat site.now) ∧
    (l.addCaller = true → ∀ file line, site.caller = some (file, line) → Unbroken (filename file))

variable {platform} (plain : platform.PlainIdentifiers) (ctx : Context)

include plain

/-- An entry has no line end if neither its message nor a field has one. -/
theorem Logger.unbroken_entry (level : Int) (msg : List UInt8) (fields : List Field) :
    Unbroken (l.entry platform site ctx level msg fields) ↔
      l.Tidy platform site ∧ Unbroken msg ∧ ∀ field ∈ fields, field.Whole := by
  -- The level, the span and what stands between the parts never break the line.
  have caller : Unbroken (if l.addCaller = true then site.callerText else []) ↔
      (l.addCaller = true → ∀ file line, site.caller = some (file, line) →
        Unbroken (filename file)) := by
    rw [← unbroken_callerText]
    split
    case isTrue added => simp [added]
    case isFalse left => simp [left]
  simp only [entry, unbroken_append, unbroken_cons, separators_ne_newline, unbroken_levelString,
    plain.unbroken_traceText, unbroken_fieldsText, caller, Tidy, ne_eq, not_false_eq_true,
    true_and, and_assoc]

/-- A call writes one line just if neither its message nor a field has a line end. -/
theorem Logger.logContext_oneLine {level : Int} (admitted : l.level ≤ level) (msg : List UInt8)
    (fields : List Field) :
    ∃ text, l.logContext platform site ctx level msg fields = some text ∧
      (OneLine text ↔ l.Tidy platform site ∧ Unbroken msg ∧ ∀ field ∈ fields, field.Whole) := by
  refine ⟨_, if_neg (Int.not_lt.mpr admitted), ?_⟩
  rw [oneLine_concat, unbroken_entry l site plain]

end Lines

end Balance
