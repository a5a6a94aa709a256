import Balance.Go.Tables
import Balance.Machine.History
import Balance.Machine.Run
import Mathlib.Algebra.Ring.Int.Defs

/-! The list of blocked addresses, and the counter of the blocks on it. -/

namespace Balance

open Machine

/-- The addresses that are blocked for a while, until an instant, and for good. -/
structure IPBlocklist where
  blocked : AList fun _ : String => Int
  permanent : AList fun _ : String => Bool
  totalBlocks : Int
  activeBlocks : Int
  blockedRequests : Int

/-- A new list blocks nobody. -/
def newIPBlocklist : IPBlocklist where
  blocked := ∅
  permanent := ∅
  totalBlocks := 0
  activeBlocks := 0
  blockedRequests := 0

/-- The numbers that are reported of a list. -/
structure BlocklistStats where
  totalBlocks : Int
  activeBlocks : Int
  blockedRequests : Int
  permanentBlocks : Nat
  temporaryBlocks : Nat

namespace IPBlocklist

variable (bl : IPBlocklist)

/-- Blocks an address for a while. -/
def block (ip : String) (duration now : Int) : IPBlocklist :=
  { bl with
    blocked := bl.blocked.insert ip (now + duration)
    totalBlocks := bl.totalBlocks + 1
    activeBlocks := bl.activeBlocks + 1 }

/-- Blocks an address for good. -/
def blockPermanent (ip : String) : IPBlocklist :=
  { bl with
    permanent := bl.permanent.insert ip true
    totalBlocks := bl.totalBlocks + 1
    activeBlocks := bl.activeBlocks + 1 }

/-- Takes an address off the list of temporary blocks. -/
def dropTemporary (ip : String) : IPBlocklist :=
  { bl with blocked := bl.blocked.erase ip, activeBlocks := bl.activeBlocks - 1 }

/-- Takes an address off the list of permanent blocks. -/
def dropPermanent (ip : String) : IPBlocklist :=
  { bl with permanent := bl.permanent.erase ip, activeBlocks := bl.activeBlocks - 1 }

/-- Ends the blocks of an address of either kind. -/
def unblock (ip : String) : IPBlocklist :=
  let bl := if ip ∈ bl.blocked then bl.dropTemporary ip else bl
  if ip ∈ bl.permanent then bl.dropPermanent ip else bl

/-- Whether an address is blocked, and one more request counted if so. -/
def isBlocked (ip : String) (now : Int) : IPBlocklist × Bool :=
  let counted := { bl with blockedRequests := bl.blockedRequests + 1 }
  if (bl.permanent.lookup ip).getD false then (counted, true)
  else
    match bl.blocked.lookup ip with
    | some expiry => if now < expiry then (counted, true) else (bl, false)
    | none => (bl, false)

/-- One round of a cleanup pass: the block of an address ends if it has expired. -/
def expire (now : Int) (ip : String) : IPBlocklist :=
  match bl.blocked.lookup ip with
  | some expiry => if now > expiry then bl.dropTemporary ip else bl
  | none => bl

/--
A cleanup pass ends all blocks that have expired.

The order of the loop is no matter, since each round looks at the block of its own address.
-/
def cleanup (now : Int) : IPBlocklist :=
  bl.blocked.keys.foldl (fun bl ip => bl.expire now ip) bl

/-- The numbers reported of the list. -/
def stats : BlocklistStats where
  totalBlocks := bl.totalBlocks
  activeBlocks := bl.activeBlocks
  blockedRequests := bl.blockedRequests
  permanentBlocks := bl.permanent.keys.length
  temporaryBlocks := bl.blocked.keys.length

end IPBlocklist

/-- What happens to a list of blocked addresses, with the reading of the clock. -/
inductive BlockEvent where
  | block (ip : String) (duration now : Int)
  | blockPermanent (ip : String) (now : Int)
  | unblock (ip : String) (now : Int)
  | isBlocked (ip : String) (now : Int)
  | cleanup (now : Int)
  deriving DecidableEq

namespace IPBlocklist

/-- The list after an event. -/
def apply (bl : IPBlocklist) : BlockEvent → IPBlocklist
  | .block ip duration now => bl.block ip duration now
  | .blockPermanent ip _ => bl.blockPermanent ip
  | .unblock ip _ => bl.unblock ip
  | .isBlocked ip now => (bl.isBlocked ip now).1
  | .cleanup now => bl.cleanup now

/-- An event is possible in every state. -/
def step (bl : IPBlocklist) (event : BlockEvent) : Option IPBlocklist := some (bl.apply event)

variable {bl : IPBlocklist}

/-- How far the counter of active blocks is ahead of the blocks. -/
def drift (bl : IPBlocklist) : Int :=
  bl.stats.activeBlocks - (bl.stats.temporaryBlocks + bl.stats.permanentBlocks)

/-- An event blocks an address that it finds blocked in the same way. -/
def Repeats (bl : IPBlocklist) : BlockEvent → Prop
  | .block ip _ _ => ip ∈ bl.blocked
  | .blockPermanent ip _ => ip ∈ bl.permanent
  | _ => False

instance (bl : IPBlocklist) (event : BlockEvent) : Decidable (bl.Repeats event) := by
  cases event <;> unfold Repeats <;> infer_instance

section Drift

variable {ip : String}

/-- Ending a temporary block counts it down. -/
theorem drift_dropTemporary (present : ip ∈ bl.blocked) :
    (bl.dropTemporary ip).drift = bl.drift := by
  have shorter := Go.length_keys_erase present
  simp only [drift, stats, dropTemporary]
  omega

/-- Ending a permanent block counts it down. -/
theorem drift_dropPermanent (present : ip ∈ bl.permanent) :
    (bl.dropPermanent ip).drift = bl.drift := by
  have shorter := Go.length_keys_erase present
  simp only [drift, stats, dropPermanent]
  omega

/-- Ending all blocks of an address counts each of them down. -/
theorem drift_unblock (bl : IPBlocklist) (ip : String) : (bl.unblock ip).drift = bl.drift := by
  -- First the temporary block goes, then the permanent one, each if there is one.
  have first : (if ip ∈ bl.blocked then bl.dropTemporary ip else bl).drift = bl.drift := by
    split
    case isTrue present => exact drift_dropTemporary present
    case isFalse => rfl
  have second (bl : IPBlocklist) :
      (if ip ∈ bl.permanent then bl.dropPermanent ip else bl).drift = bl.drift := by
    split
    case isTrue present => exact drift_dropPermanent present
    case isFalse => rfl
  exact (second _).trans first

/-- A round of a cleanup pass counts down the block that it ends. -/
theorem drift_expire (bl : IPBlocklist) (now : Int) (ip : String) :
    (bl.expire now ip).drift = bl.drift := by
  -- The counter goes down exactly when the block is dropped.
  unfold expire
  split
  case h_1 expiry found =>
    split
    · exact drift_dropTemporary (AList.lookup_isSome.mp (by simp [found]))
    · rfl
  case h_2 => rfl

/-- A cleanup pass counts down each block that it ends. -/
theorem drift_cleanup (bl : IPBlocklist) (now : Int) : (bl.cleanup now).drift = bl.drift :=
  -- The addresses of the loop may be any, as each round keeps the difference.
  foldl_unchanged drift (fun bl ip => drift_expire bl now ip) bl bl.blocked.keys

/-- The counter gets ahead by one when a block is repeated, and never falls back. -/
theorem drift_apply (bl : IPBlocklist) (event : BlockEvent) :
    (bl.apply event).drift = bl.drift + if bl.Repeats event then 1 else 0 := by
  cases event with
  | block ip duration now =>
    have size := Go.length_keys_insert bl.blocked ip (now + duration)
    simp only [apply, block, drift, stats, Repeats]
    split at size <;> simp_all <;> omega
  | blockPermanent ip now =>
    have size := Go.length_keys_insert bl.permanent ip true
    simp only [apply, blockPermanent, drift, stats, Repeats]
    split at size <;> simp_all <;> omega
  | unblock ip now => simp [apply, drift_unblock, Repeats]
  | isBlocked ip now =>
    -- Asking changes another counter only.
    have asked : (bl.isBlocked ip now).1.drift = bl.drift := by
      unfold isBlocked
      dsimp only
      split
      · rfl
      · split
        · split <;> rfl
        · rfl
    simp [apply, asked, Repeats]
  | cleanup now => simp [apply, drift_cleanup, Repeats]

end Drift

/-- The counter of active blocks is the number of blocks of both kinds. -/
def Consistent (bl : IPBlocklist) : Prop :=
  bl.stats.activeBlocks = bl.stats.temporaryBlocks + bl.stats.permanentBlocks

/-- The counter is right exactly if it is not ahead. -/
theorem consistent_iff : bl.Consistent ↔ bl.drift = 0 := by
  rw [Consistent, drift, sub_eq_zero]

/--
The counter of active blocks is the number of blocks after every event exactly if no event blocks
an address that it finds blocked in the same way.
-/
theorem active_blocks_counted_iff (events : List BlockEvent) :
    Always step Consistent newIPBlocklist events ↔
      Along step (fun bl event => ¬ bl.Repeats event) newIPBlocklist events := by
  have complete : ∃ final, exec step newIPBlocklist events = some final ∧ True :=
    exec_total (fun _ => True) (fun bl event _ => ⟨bl.apply event, rfl, trivial⟩) trivial events
  obtain ⟨final, ran, _⟩ := complete
  refine always_iff_along (fun _ => True) (fun _ _ _ _ _ => trivial) ?_ trivial rfl ran
  -- From a state where the counter is right, one event decides whether it stays right.
  intro bl event next _ right taken
  obtain rfl : bl.apply event = next := Option.some.inj taken
  rw [consistent_iff] at right ⊢
  rw [drift_apply, right]
  split <;> simp_all

/-- An address that is blocked again before its block has ended is counted twice. -/
theorem renewed_block_counted_twice :
    ∃ bl, exec step newIPBlocklist
        [.block "10.0.0.1" 1000 0, .block "10.0.0.1" 1000 500] = some bl ∧
      bl.stats.activeBlocks = 2 ∧ bl.stats.temporaryBlocks = 1 ∧ bl.stats.permanentBlocks = 0 := by
  refine ⟨_, rfl, rfl, ?_, rfl⟩
  decide

end IPBlocklist

end Balance
