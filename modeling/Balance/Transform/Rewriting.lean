import Balance.Machine.History
import Balance.Proxy.Request
import Balance.Transform.Headers

/-! The transformer of requests, and the slash in front of the paths that it rewrites. -/

namespace Balance

open Machine

/-- What is done with a header, where any other word asks for nothing. -/
inductive HeaderAction where
  | add
  | set
  | remove
  | other
  deriving DecidableEq, Repr

/-- A change to one header. -/
structure HeaderTransform where
  action : HeaderAction
  name : List UInt8
  value : List UInt8

/-- How a path is compared with a pattern, where any other word makes no path match. -/
inductive PathTransformType where
  | byPrefix
  | exact
  | other
  deriving DecidableEq, Repr

/-- A change to the paths that match a pattern. -/
structure PathTransform where
  kind : PathTransformType
  pattern : List UInt8
  replacement : List UInt8

/-- What a transformer does with requests and responses. -/
structure TransformConfig where
  requestHeaders : List HeaderTransform := []
  responseHeaders : List HeaderTransform := []
  pathTransforms : List PathTransform := []
  stripPrefix : List UInt8 := []
  addPrefix : List UInt8 := []

/-- The part of a request that a transformer reads and writes. -/
structure RequestHead where
  path : List UInt8
  header : Header

section Paths

/-- A path that begins with a slash. -/
def Absolute (path : List UInt8) : Prop := path.head? = some slash

instance : DecidablePred Absolute := fun path =>
  inferInstanceAs (Decidable (path.head? = some slash))

/-- A text without a given beginning, if it has that one. -/
def trimPrefix (text lead : List UInt8) : List UInt8 :=
  if lead <+: text then text.drop lead.length else text

/-- A text with another word in place of the first occurrence of a given one. -/
def replaceFirst (old new : List UInt8) : List UInt8 → List UInt8
  | [] => if old = [] then new else []
  | byte :: rest =>
    if old <+: byte :: rest then new ++ (byte :: rest).drop old.length
    else byte :: replaceFirst old new rest

/-- Takes a beginning from a path, which stays absolute or becomes so. -/
def stripPrefix (path lead : List UInt8) : List UInt8 :=
  let stripped := trimPrefix path lead
  if Absolute stripped then stripped else slash :: stripped

/-- Puts a beginning in front of a path that does not have it. -/
def addPrefix (path lead : List UInt8) : List UInt8 :=
  if lead <+: path then path else lead ++ path

/-- Applies one change to a path. -/
def applyPathTransform (path : List UInt8) (pt : PathTransform) : List UInt8 :=
  match pt.kind with
  | .byPrefix =>
    if pt.pattern <+: path then replaceFirst pt.pattern pt.replacement path else path
  | .exact => if path = pt.pattern then pt.replacement else path
  | .other => path

end Paths

namespace TransformConfig

/-- Applies one change to a header map. -/
def applyHeaderTransform (header : Header) (transform : HeaderTransform) : Header :=
  match transform.action with
  | .add => header.add transform.name transform.value
  | .set => header.set transform.name transform.value
  | .remove => header.del transform.name
  | .other => header

/-- Applies all changes to a request. -/
def transformRequest (config : TransformConfig) (req : RequestHead) : RequestHead :=
  let header := config.requestHeaders.foldl applyHeaderTransform req.header
  let path := req.path
  let path := if config.stripPrefix ≠ [] then Balance.stripPrefix path config.stripPrefix else path
  let path := if config.addPrefix ≠ [] then Balance.addPrefix path config.addPrefix else path
  { path := config.pathTransforms.foldl applyPathTransform path, header }

/-- Applies all changes to the headers of a response. -/
def transformResponse (config : TransformConfig) (header : Header) : Header :=
  config.responseHeaders.foldl applyHeaderTransform header

end TransformConfig

/-- One of the changes that a path goes through. -/
inductive RewriteStage where
  | strip (lead : List UInt8)
  | add (lead : List UInt8)
  | transform (pt : PathTransform)

namespace RewriteStage

/-- The path after a change. -/
def apply (path : List UInt8) : RewriteStage → List UInt8
  | strip lead => if lead ≠ [] then stripPrefix path lead else path
  | add lead => if lead ≠ [] then addPrefix path lead else path
  | transform pt => applyPathTransform path pt

/-- The change writes a new beginning for the path. -/
def Rewrites (path : List UInt8) : RewriteStage → Prop
  | strip lead => lead ≠ []
  | add lead => lead ≠ [] ∧ ¬ lead <+: path
  | transform pt =>
    match pt.kind with
    | .byPrefix => pt.pattern <+: path
    | .exact => path = pt.pattern
    | .other => False

/-- The beginning that the change would write has a slash in front. -/
def Slashed (path : List UInt8) : RewriteStage → Prop
  | strip _ => True
  | add lead => Absolute lead
  | transform pt =>
    match pt.kind with
    | .byPrefix =>
      -- Behind an empty replacement comes what follows the pattern.
      Absolute pt.replacement ∨ pt.replacement = [] ∧ Absolute (path.drop pt.pattern.length)
    | _ => Absolute pt.replacement

/-- The change, at the path that it is applied to, writes a beginning without a slash. -/
def Breaks (entry : List UInt8 × RewriteStage) : Prop :=
  entry.2.Rewrites entry.1 ∧ ¬ entry.2.Slashed entry.1

/-- The change, at the path that it is applied to, writes a beginning with a slash. -/
def Repairs (entry : List UInt8 × RewriteStage) : Prop :=
  entry.2.Rewrites entry.1 ∧ entry.2.Slashed entry.1

end RewriteStage

/-- Two texts together begin like the first, or like the second if the first is empty. -/
theorem absolute_append {lead rest : List UInt8} :
    Absolute (lead ++ rest) ↔ Absolute lead ∨ lead = [] ∧ Absolute rest := by
  cases lead with
  | nil => simp [Absolute]
  | cons byte lead => simp [Absolute]

/-- The first occurrence of a word that a text begins with is there. -/
theorem replaceFirst_of_leading {old text : List UInt8} (new : List UInt8) (leads : old <+: text) :
    replaceFirst old new text = new ++ text.drop old.length := by
  cases text with
  | nil => simp [replaceFirst, List.prefix_nil.mp leads]
  | cons byte rest => rw [replaceFirst, if_pos leads]

/-- A path is absolute once a beginning has been stripped from it. -/
theorem absolute_stripPrefix (path lead : List UInt8) : Absolute (stripPrefix path lead) := by
  rw [stripPrefix]
  split
  case isTrue kept => exact kept
  case isFalse => rfl

namespace RewriteStage

variable {path : List UInt8} {stage : RewriteStage}

/-- What a change writes decides whether the path is absolute. -/
theorem absolute_apply_iff (rewrites : stage.Rewrites path) :
    Absolute (stage.apply path) ↔ stage.Slashed path := by
  -- What is written in front of the path is known for each change.
  cases stage with
  | strip lead =>
    rw [apply, if_pos (show lead ≠ [] from rewrites)]
    exact iff_of_true (absolute_stripPrefix path lead) trivial
  | add lead =>
    obtain ⟨some, missing⟩ : lead ≠ [] ∧ ¬ lead <+: path := rewrites
    rw [apply, if_pos some, addPrefix, if_neg missing, absolute_append]
    simp [Slashed, some]
  | transform pt =>
    obtain ⟨kind, pattern, replacement⟩ := pt
    cases kind with
    | byPrefix =>
      have leads : pattern <+: path := rewrites
      simp only [apply, applyPathTransform, if_pos leads, Slashed]
      rw [replaceFirst_of_leading replacement leads, absolute_append]
    | exact =>
      have matched : path = pattern := rewrites
      simp only [apply, applyPathTransform, if_pos matched, Slashed]
    | other => exact rewrites.elim

/-- A change that writes nothing leaves the path as it is. -/
theorem apply_of_not_rewrites (idle : ¬ stage.Rewrites path) : stage.apply path = path := by
  -- Each change tests the path before it writes.
  cases stage with
  | strip lead => rw [apply, if_neg (show ¬ lead ≠ [] from idle)]
  | add lead =>
    rw [apply]
    split
    case isTrue some =>
      have leads : lead <+: path := by_contra fun missing => idle ⟨some, missing⟩
      rw [addPrefix, if_pos leads]
    case isFalse => rfl
  | transform pt =>
    obtain ⟨kind, pattern, replacement⟩ := pt
    cases kind with
    | byPrefix => simp only [apply, applyPathTransform, if_neg (show ¬ pattern <+: path from idle)]
    | exact => simp only [apply, applyPathTransform, if_neg (show ¬ path = pattern from idle)]
    | other => rfl

/-- One more change keeps track of whether a break has been repaired. -/
theorem absolute_iff_concat {past : List (List UInt8 × RewriteStage)}
    (tracks : Absolute path ↔ ∀ entry, Breaks entry → ¬ Standing Repairs past entry) :
    Absolute (stage.apply path) ↔
      ∀ entry, Breaks entry → ¬ Standing Repairs (past ++ [(path, stage)]) entry := by
  -- A change that writes decides alone, and any other leaves all as it was.
  simp only [standing_concat]
  by_cases rewrites : stage.Rewrites path
  · rw [absolute_apply_iff rewrites]
    constructor
    · rintro slashed entry breaks (rfl | ⟨_, unrepaired⟩)
      · exact breaks.2 slashed
      · exact unrepaired ⟨rewrites, slashed⟩
    · intro repaired
      by_contra bare
      exact repaired (path, stage) ⟨rewrites, bare⟩ (.inl rfl)
  · -- A change that writes nothing neither breaks nor repairs.
    rw [apply_of_not_rewrites rewrites, tracks]
    constructor
    · rintro repaired entry breaks (rfl | ⟨stands, _⟩)
      · exact rewrites breaks.1
      · exact repaired entry breaks stands
    · intro repaired entry breaks stands
      exact repaired entry breaks (.inr ⟨stands, fun repairs => rewrites repairs.1⟩)

/-- Along any changes, a path is absolute at the end just if every break has been repaired. -/
theorem absolute_foldl_iff (absolute : Absolute path) (stages : List RewriteStage) :
    Absolute (stages.foldl apply path) ↔
      ∀ entry, Breaks entry → ¬ Standing Repairs (trace apply path stages) entry := by
  refine foldl_trace
    (fun past path => Absolute path ↔ ∀ entry, Breaks entry → ¬ Standing Repairs past entry) ?_ ?_
    stages
  · exact iff_of_true absolute fun _ _ => not_standing_nil
  · intro past path stage tracks
    exact absolute_iff_concat tracks

end RewriteStage

namespace TransformConfig

open RewriteStage

/-- The changes that a transformer makes to a path, in their order. -/
def stages (config : TransformConfig) : List RewriteStage :=
  strip config.stripPrefix :: add config.addPrefix :: config.pathTransforms.map transform

/-- A transformer makes its changes one after the other. -/
theorem transformRequest_path (config : TransformConfig) (req : RequestHead) :
    (config.transformRequest req).path = config.stages.foldl apply req.path := by
  rw [stages, List.foldl_cons, List.foldl_cons, List.foldl_map]
  rfl

/--
A path stays absolute just if each change that takes the slash away is followed by one that
gives it back.
-/
theorem rewritten_absolute_iff (config : TransformConfig) (req : RequestHead)
    (absolute : Absolute req.path) :
    Absolute (config.transformRequest req).path ↔
      ∀ entry, Breaks entry → ¬ Standing Repairs (trace apply req.path config.stages) entry := by
  rw [transformRequest_path, absolute_foldl_iff absolute]

/-- A path stays absolute if all that can be put in front of it is. -/
theorem rewritten_absolute (config : TransformConfig) (req : RequestHead)
    (absolute : Absolute req.path) (added : config.addPrefix = [] ∨ Absolute config.addPrefix)
    (replaced : ∀ pt ∈ config.pathTransforms, Absolute pt.replacement) :
    Absolute (config.transformRequest req).path := by
  have slashed {path : List UInt8} {stage : RewriteStage} (listed : stage ∈ config.stages)
      (rewrites : stage.Rewrites path) : stage.Slashed path := by
    rcases List.mem_cons.mp listed with rfl | later
    · trivial
    rcases List.mem_cons.mp later with rfl | last
    · exact added.resolve_left rewrites.1
    · obtain ⟨⟨kind, pattern, replacement⟩, member, rfl⟩ := List.mem_map.mp last
      cases kind with
      | byPrefix => exact .inl (replaced _ member)
      | exact => exact replaced _ member
      | other => exact rewrites.elim
  -- No change along the way takes the slash away.
  rw [transformRequest_path]
  refine List.foldlRecOn _ _ absolute ?_
  intro path kept stage listed
  by_cases rewrites : stage.Rewrites path
  · exact (absolute_apply_iff rewrites).mpr (slashed listed rewrites)
  · rwa [apply_of_not_rewrites rewrites]

/-- A transformer that adds a prefix without a slash, and gives it one in a second change. -/
def repairingConfig : TransformConfig where
  stripPrefix := bytesOf "/api"
  addPrefix := bytesOf "v2"
  pathTransforms := [⟨.byPrefix, bytesOf "v2", bytesOf "/v2"⟩]

/-- A transformer that adds a prefix without a slash. -/
def bareConfig : TransformConfig where
  addPrefix := bytesOf "api"

/-- A request for the users, without headers. -/
def usersRequest : RequestHead := ⟨bytesOf "/users", .empty⟩

/-- The second change gives back the slash that the first one has taken away. -/
theorem rewritten_absolute_repaired :
    (repairingConfig.transformRequest usersRequest).path = bytesOf "/v2/users" ∧
      ∀ entry, Breaks entry →
        ¬ Standing Repairs (trace apply (bytesOf "/users") repairingConfig.stages) entry := by
  have path : (repairingConfig.transformRequest usersRequest).path = bytesOf "/v2/users" := by
    decide +kernel
  have absolute : Absolute (repairingConfig.transformRequest usersRequest).path := by
    rw [path]
    decide +kernel
  refine ⟨path, ?_⟩
  exact (rewritten_absolute_iff repairingConfig usersRequest (by decide +kernel)).mp absolute

/-- The prefix comes in front of the slash. -/
theorem bare_prefix_added :
    Absolute usersRequest.path ∧
      (bareConfig.transformRequest usersRequest).path = bytesOf "api/users" ∧
      ¬ Absolute (bareConfig.transformRequest usersRequest).path := by
  decide +kernel

end TransformConfig

end Balance
