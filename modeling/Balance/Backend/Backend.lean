import Mathlib.Logic.Function.Basic
import Mathlib.Data.List.Basic

/-! Backend servers behind pointers, and the pool that lists them. -/

namespace Balance

/-- A backend server with its health flag and its connection count. -/
structure Backend where
  name : String
  address : String
  weight : Int
  activeConnections : Int
  healthy : Bool
  deriving DecidableEq, Repr

/-- A new backend starts healthy and without connections. -/
def newBackend (name address : String) (weight : Int) : Backend where
  name := name
  address := address
  weight := weight
  activeConnections := 0
  healthy := true

/-- The backends behind their pointers, which every component shares. -/
abbrev BackendHeap := Nat → Backend

namespace BackendHeap

variable (heap : BackendHeap) (b : Nat)

/-- Whether a backend is in rotation. -/
def isHealthy : Bool := (heap b).healthy

/-- Store into the health flag of one backend. -/
def storeHealthy (healthy : Bool) : BackendHeap :=
  Function.update heap b { heap b with healthy := healthy }

/-- Put a backend into rotation. -/
def markHealthy : BackendHeap := storeHealthy heap b true

/-- Take a backend out of rotation. -/
def markUnhealthy : BackendHeap := storeHealthy heap b false

/-- Add to the connection count of one backend. -/
def addConnections (delta : Int) : BackendHeap :=
  Function.update heap b
    { heap b with activeConnections := (heap b).activeConnections + delta }

/-- Count one more active connection. -/
def incrementConnections : BackendHeap := addConnections heap b 1

/-- Count one active connection less. -/
def decrementConnections : BackendHeap := addConnections heap b (-1)

/-- Storing a flag changes that flag and nothing else. -/
theorem storeHealthy_apply (other : Nat) (healthy : Bool) :
    storeHealthy heap b healthy other =
      { heap other with healthy := if other = b then healthy else heap.isHealthy other } := by
  -- The update is visible at its own pointer only.
  unfold isHealthy storeHealthy
  by_cases same : other = b
  · subst same
    simp
  · simp [same]

/-- The stored flag is read back, and no other flag changes. -/
@[simp] theorem storeHealthy_isHealthy (other : Nat) (healthy : Bool) :
    (storeHealthy heap b healthy).isHealthy other =
      if other = b then healthy else heap.isHealthy other := by
  rw [isHealthy, storeHealthy_apply]

/-- Storing a flag renames nothing. -/
@[simp] theorem storeHealthy_name (other : Nat) (healthy : Bool) :
    (storeHealthy heap b healthy other).name = (heap other).name := by
  rw [storeHealthy_apply]

/-- Storing a flag moves no backend to another address. -/
@[simp] theorem storeHealthy_address (other : Nat) (healthy : Bool) :
    (storeHealthy heap b healthy other).address = (heap other).address := by
  rw [storeHealthy_apply]

/-- Storing a flag changes no weight. -/
@[simp] theorem storeHealthy_weight (other : Nat) (healthy : Bool) :
    (storeHealthy heap b healthy other).weight = (heap other).weight := by
  rw [storeHealthy_apply]

/-- Counting connections changes no health flag. -/
@[simp] theorem addConnections_isHealthy (other : Nat) (delta : Int) :
    (addConnections heap b delta).isHealthy other = heap.isHealthy other := by
  -- The update writes a record whose flag is the old one.
  unfold isHealthy addConnections
  by_cases same : other = b
  · subst same
    simp
  · simp [same]

end BackendHeap

/-- A pool keeps pointers to its backends in the order in which they were added. -/
abbrev Pool := List Nat

namespace Pool

/-- Append a backend, whatever its name. -/
def add (pool : Pool) (b : Nat) : Pool := pool ++ [b]

/-- Remove the first backend of a name, and say whether there was one. -/
def remove (heap : BackendHeap) (name : String) : Pool → Pool × Bool
  | [] => ([], false)
  | b :: rest =>
    if (heap b).name = name then (rest, true)
    else
      let (kept, found) := remove heap name rest
      (b :: kept, found)

/-- The first backend of a name. -/
def get (heap : BackendHeap) (pool : Pool) (name : String) : Option Nat :=
  pool.find? fun b => (heap b).name = name

/-- The backends in rotation, in the order of the pool. -/
def healthy (heap : BackendHeap) (pool : Pool) : List Nat :=
  pool.filter fun b => heap.isHealthy b

/-- Every backend in rotation is in the pool and healthy. -/
theorem mem_healthy {heap : BackendHeap} {pool : Pool} {b : Nat} :
    b ∈ pool.healthy heap ↔ b ∈ pool ∧ heap.isHealthy b = true := by
  simp [healthy]

end Pool

end Balance
