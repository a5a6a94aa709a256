import Balance.Go.Time
import Balance.Machine.Run
import Mathlib.Logic.Function.Basic

/-! Configuration snapshots of the control plane, and the loop that watches them by version. -/

namespace Balance

open Machine

variable {ρ : Type*}

/-- A snapshot of the resources of a node. -/
structure Snapshot (ρ : Type*) where
  version : String
  resources : ρ
  timestamp : Int
  deriving DecidableEq

/-- The snapshots of all nodes, with their versions in a map of their own. -/
structure SnapshotCache (ρ : Type*) where
  snapshots : String → Option (Snapshot ρ)
  versions : String → Option String

/-- A new cache is empty. -/
def newSnapshotCache : SnapshotCache ρ := ⟨fun _ => none, fun _ => none⟩

/-- The version that a snapshot is stored under: the second of the clock if it comes without. -/
def Snapshot.storedVersion (snapshot : Snapshot ρ) (now : Int) : String :=
  if snapshot.version = "" then toString (Go.unix now) else snapshot.version

namespace SnapshotCache

variable (sc : SnapshotCache ρ) (nodeID : String)

/-- Store the snapshot of a node, at the readings of the clock for its version and its timestamp. -/
def setSnapshot (snapshot : Snapshot ρ) (versioned stamped : Int) : SnapshotCache ρ :=
  let stored : Snapshot ρ :=
    { snapshot with
      version := snapshot.storedVersion versioned
      timestamp := stamped }
  { snapshots := Function.update sc.snapshots nodeID (some stored)
    versions := Function.update sc.versions nodeID (some stored.version) }

/-- The snapshot of a node. -/
def getSnapshot : Except String (Snapshot ρ) :=
  match sc.snapshots nodeID with
  | none => .error ("snapshot not found for node " ++ nodeID)
  | some snapshot => .ok snapshot

/-- The version of the snapshot of a node, if it has one. -/
def getVersion : Option String := sc.versions nodeID

/-- Delete the snapshot of a node. -/
def clearSnapshot : SnapshotCache ρ where
  snapshots := Function.update sc.snapshots nodeID none
  versions := Function.update sc.versions nodeID none

end SnapshotCache

/-- What happens to a cache and the loop that watches one of its nodes. -/
inductive WatchEvent (ρ : Type*) where
  | setSnapshot (nodeID : String) (snapshot : Snapshot ρ) (versioned stamped : Int)
  | clearSnapshot (nodeID : String)
  | tick

/-- A cache, the loop of `Watch`, and what it has passed to the callbacks. -/
structure Watching (ρ : Type*) where
  cache : SnapshotCache ρ
  lastVersion : String
  delivered : Option (Snapshot ρ)
  -- Calls of `SetSnapshot` are numbered, to tell updates apart that store the same.
  updates : Nat
  current : String → Option Nat
  deliveredUpdate : Option Nat
  -- Whether the last thing that happened was a tick.
  ticked : Bool

namespace Watching

/-- The loop begins on a new cache. -/
def start : Watching ρ where
  cache := newSnapshotCache
  lastVersion := ""
  delivered := none
  updates := 0
  current := fun _ => none
  deliveredUpdate := none
  ticked := false

variable (node : String)

/-- One round of the loop: a version that is not the last one is delivered. -/
def tick (watch : Watching ρ) : Watching ρ :=
  match watch.cache.getVersion node with
  | none => { watch with ticked := true }
  | some version =>
    if version ≠ watch.lastVersion then
      match watch.cache.getSnapshot node with
      | .error _ => { watch with ticked := true }
      | .ok snapshot =>
        { watch with
          lastVersion := version
          delivered := some snapshot
          deliveredUpdate := watch.current node
          ticked := true }
    else { watch with ticked := true }

/-- Apply one event. -/
def apply (watch : Watching ρ) : WatchEvent ρ → Watching ρ
  | .setSnapshot nodeID snapshot versioned stamped =>
    { watch with
      cache := watch.cache.setSnapshot nodeID snapshot versioned stamped
      updates := watch.updates + 1
      current := Function.update watch.current nodeID (some watch.updates)
      ticked := false }
  | .clearSnapshot nodeID =>
    { watch with
      cache := watch.cache.clearSnapshot nodeID
      current := Function.update watch.current nodeID none
      ticked := false }
  | .tick => watch.tick node

/-- Every event can happen at any time. -/
def step (watch : Watching ρ) (event : WatchEvent ρ) : Option (Watching ρ) :=
  some (watch.apply node event)

/-- After a tick, what has been delivered last is what the node has stored last. -/
def Converged (watch : Watching ρ) : Prop :=
  watch.ticked = true → ∀ snapshot, watch.cache.getSnapshot node = .ok snapshot →
    watch.delivered = some snapshot ∧ watch.deliveredUpdate = watch.current node

/-- Nothing is stored for the node under the version that the loop has seen last. -/
def StoresNew (watch : Watching ρ) : WatchEvent ρ → Prop
  | .setSnapshot nodeID snapshot versioned _ =>
    nodeID = node → snapshot.storedVersion versioned ≠ watch.lastVersion
  | _ => True

/-- The loop can tell from the last version whether it has delivered what is stored. -/
structure InStep (watch : Watching ρ) : Prop where
  versions : watch.cache.versions node = (watch.cache.snapshots node).map Snapshot.version
  delivered : ∀ snapshot, watch.cache.snapshots node = some snapshot →
    snapshot.version = watch.lastVersion →
    watch.delivered = some snapshot ∧ watch.deliveredUpdate = watch.current node
  seen : watch.ticked = true → ∀ snapshot, watch.cache.snapshots node = some snapshot →
    snapshot.version = watch.lastVersion
  numbered : ∀ number, watch.current node = some number ∨ watch.deliveredUpdate = some number →
    number < watch.updates

variable {node} {watch : Watching ρ}

/-- What is stored is what can be got. -/
theorem getSnapshot_eq_ok {sc : SnapshotCache ρ} {snapshot : Snapshot ρ} :
    sc.getSnapshot node = .ok snapshot ↔ sc.snapshots node = some snapshot := by
  unfold SnapshotCache.getSnapshot
  cases sc.snapshots node with
  | none => simp
  | some stored => simp

/-- A loop in step has converged. -/
theorem InStep.converged (inStep : InStep node watch) : Converged node watch := by
  intro ticked snapshot found
  have stored := getSnapshot_eq_ok.mp found
  exact inStep.delivered snapshot stored (inStep.seen ticked snapshot stored)

/-- A tick delivers what is stored under another version than the last, and else nothing. -/
theorem InStep.tick_eq (inStep : InStep node watch) :
    watch.tick node =
      match watch.cache.snapshots node with
      | none => { watch with ticked := true }
      | some snapshot =>
        if snapshot.version = watch.lastVersion then { watch with ticked := true }
        else
          { watch with
            lastVersion := snapshot.version
            delivered := some snapshot
            deliveredUpdate := watch.current node
            ticked := true } := by
  -- The two maps of the cache agree on the node.
  have versions := inStep.versions
  unfold Watching.tick SnapshotCache.getVersion SnapshotCache.getSnapshot
  cases stored : watch.cache.snapshots node with
  | none =>
    rw [stored, Option.map_none] at versions
    simp only [versions]
  | some snapshot =>
    rw [stored, Option.map_some] at versions
    simp only [versions, ne_eq, ite_not]

/-- A tick brings the loop in step with what is stored. -/
theorem InStep.tick (inStep : InStep node watch) : InStep node (watch.tick node) := by
  -- What is stored has been seen already, or is seen and delivered now.
  have numbered := inStep.numbered
  rw [inStep.tick_eq]
  cases stored : watch.cache.snapshots node with
  | none =>
    simp only
    refine ⟨inStep.versions, inStep.delivered, ?_, numbered⟩
    intro _ snapshot found
    rw [stored] at found
    cases found
  | some snapshot =>
    simp only
    split
    · rename_i same
      refine ⟨inStep.versions, inStep.delivered, ?_, numbered⟩
      intro _ other found
      obtain rfl := Option.some.inj (stored.symm.trans found)
      exact same
    · refine ⟨inStep.versions, ?_, ?_, fun number listed => numbered number ?_⟩
      · intro other found _
        exact ⟨stored.symm.trans found, rfl⟩
      · intro _ other found
        obtain rfl := Option.some.inj (stored.symm.trans found)
        rfl
      · exact .inl (listed.elim id id)

/-- An update of the node under a version that the loop has not seen last leaves it in step. -/
theorem InStep.setSnapshot (inStep : InStep node watch) {nodeID : String} {snapshot : Snapshot ρ}
    {versioned stamped : Int}
    (new : StoresNew node watch (.setSnapshot nodeID snapshot versioned stamped)) :
    InStep node (watch.apply node (.setSnapshot nodeID snapshot versioned stamped)) := by
  -- What is stored for the node has not been delivered, and its version tells.
  by_cases same : nodeID = node
  · subst same
    refine ⟨?_, ?_, nofun, ?_⟩
    · simp [apply, SnapshotCache.setSnapshot]
    · intro stored found seen
      simp only [apply, SnapshotCache.setSnapshot, Function.update_self] at found
      obtain rfl := Option.some.inj found
      exact absurd seen (new rfl)
    · intro number listed
      simp only [apply, Function.update_self, Option.some.injEq] at listed
      rcases listed with latest | earlier
      · simp [apply, ← latest]
      · exact Nat.lt_succ_of_lt (inStep.numbered number (.inr earlier))
  · -- The update of another node leaves everything about this one as it is.
    have other : node ≠ nodeID := Ne.symm same
    refine ⟨?_, ?_, nofun, ?_⟩
    · simpa [apply, SnapshotCache.setSnapshot, other] using inStep.versions
    · simpa [apply, SnapshotCache.setSnapshot, other] using inStep.delivered
    · intro number listed
      simp only [apply, Function.update_of_ne other] at listed
      exact Nat.lt_succ_of_lt (inStep.numbered number listed)

/-- Deleting the snapshot of a node leaves the loop in step. -/
theorem InStep.clearSnapshot (inStep : InStep node watch) (nodeID : String) :
    InStep node (watch.apply node (.clearSnapshot nodeID)) := by
  -- Without a snapshot there is nothing to be in step with.
  by_cases same : nodeID = node
  · subst same
    refine ⟨?_, ?_, nofun, ?_⟩
    · simp [apply, SnapshotCache.clearSnapshot]
    · intro stored found
      simp [apply, SnapshotCache.clearSnapshot] at found
    · intro number listed
      simp only [apply, Function.update_self] at listed
      exact inStep.numbered number (.inr (listed.resolve_left nofun))
  · have other : node ≠ nodeID := Ne.symm same
    refine ⟨?_, ?_, nofun, ?_⟩
    · simpa [apply, SnapshotCache.clearSnapshot, other] using inStep.versions
    · simpa [apply, SnapshotCache.clearSnapshot, other] using inStep.delivered
    · simpa [apply, other] using inStep.numbered

/-- Steps that store no version that has been seen last keep the loop in step. -/
theorem InStep.apply (inStep : InStep node watch) {event : WatchEvent ρ}
    (new : StoresNew node watch event) : InStep node (watch.apply node event) := by
  cases event with
  | setSnapshot nodeID snapshot versioned stamped => exact inStep.setSnapshot new
  | clearSnapshot nodeID => exact inStep.clearSnapshot nodeID
  | tick => exact inStep.tick

/-- An update under the version that the loop has seen last is skipped. -/
theorem InStep.skips (inStep : InStep node watch) {event : WatchEvent ρ}
    (old : ¬StoresNew node watch event) :
    ¬Converged node ((watch.apply node event).tick node) := by
  cases event with
  | setSnapshot nodeID snapshot versioned stamped =>
    simp only [StoresNew, Classical.not_imp, not_not] at old
    obtain ⟨rfl, seen⟩ := old
    -- The tick finds nothing new, and so the last delivery is of an earlier update.
    have idle : (watch.apply nodeID (.setSnapshot nodeID snapshot versioned stamped)).tick nodeID =
        { watch.apply nodeID (.setSnapshot nodeID snapshot versioned stamped) with
          ticked := true } := by
      simp [Watching.tick, Watching.apply, SnapshotCache.getVersion, SnapshotCache.setSnapshot,
        seen]
    rw [idle]
    intro converged
    have latest := (converged rfl _ (getSnapshot_eq_ok.mpr (Function.update_self _ _ _))).2
    simp only [Watching.apply, Function.update_self] at latest
    exact absurd (inStep.numbered _ (.inr latest)) (lt_irrefl _)
  | clearSnapshot nodeID => exact absurd trivial old
  | tick => exact absurd trivial old

/--
The loop converges on the latest snapshot of its node as long as nothing is stored for the node
under the version that the loop has seen last; and no single update can do without that.

Versions are all that the loop compares, and a snapshot without one is given the second of the
clock.
-/
theorem watch_converges_iff (node : String) :
    Guards (step node) (StoresNew node) (Converged node) (start : Watching ρ) := by
  -- The watcher stays in step, and an update it has to skip is skipped by the next tick.
  refine guards_of_invariant (InStep node) ?_ (fun _ inStep => inStep.converged) ?_ ?_
  · intro watch event next inStep new taken
    obtain rfl := Option.some.inj taken
    exact inStep.apply new
  · intro watch event next inStep taken old
    obtain rfl := Option.some.inj taken
    exact ⟨_, .head .tick trivial rfl (.refl _), inStep.skips old⟩
  · exact ⟨rfl, nofun, nofun, nofun⟩

/-- Two updates within a second get the same version, and the second one is never delivered. -/
theorem update_within_second_skipped :
    let first : Snapshot String := ⟨"", "a", 0⟩
    let second : Snapshot String := ⟨"", "b", 0⟩
    ∃ final, exec (step "n") start
        [.setSnapshot "n" first 0 0, .tick, .setSnapshot "n" second 500000000 500000000, .tick,
          .tick] = some final ∧
      (final.delivered.map Snapshot.resources) = some "a" ∧
      ((final.cache.snapshots "n").map Snapshot.resources) = some "b" := by
  -- Both updates are given the version of the same second.
  refine ⟨_, rfl, ?_, ?_⟩
  · decide
  · decide

end Watching

end Balance
