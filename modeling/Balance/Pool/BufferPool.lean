import Balance.Machine.Custody
import Balance.Pool.ByteSlices

/-! The pool of buffers of one size, with what their users leave in them. -/

namespace Balance

open Machine

/-- A slice of a block of memory. -/
structure Buffer extends ByteSlice where
  block : Nat
  offset : Nat

namespace Buffer

/-- A buffer that is all of a block. -/
def make (size block : Nat) : Buffer := ⟨⟨size, size, Nat.le_refl size⟩, block, 0⟩

/-- The buffer with another part of what it reaches, where going beyond that is a panic. -/
def slice (buf : Buffer) (low high : Nat) : Option Buffer :=
  if ordered : low ≤ high ∧ high ≤ buf.cap then
    some ⟨⟨high - low, buf.cap - low, by omega⟩, buf.block, buf.offset + low⟩
  else none

end Buffer

/-- Buffers of one size that wait to be used again. -/
structure BufferPool where
  size : Nat
  pool : List Buffer

/-- A new pool. -/
def newBufferPool (size : Nat) : BufferPool := ⟨size, []⟩

/-- How much of a buffer is overwritten when it is given back. -/
def zeroed : Nat := 1024

/-- A pool with the memory that its buffers lie in, and who has which buffer. -/
structure BufferUse where
  bp : BufferPool
  memory : Nat → Nat → UInt8
  allocated : Nat
  held : Nat → Option Buffer
  panicked : Bool

/-- What the users of a pool and the runtime do. -/
inductive BufferEvent where
  -- With the place of the buffer that the runtime takes, if it takes one that waits.
  | get (holder : Nat) (reused : Option Nat)
  -- Gives back a part of the buffer, which may begin behind its first byte.
  | put (holder low high : Nat)
  -- Writes a byte of the buffer, within its capacity.
  | write (holder i : Nat) (byte : UInt8)
  -- Gets a buffer from elsewhere, of any capacity and with anything in it.
  | bring (holder cap : Nat) (content : Nat → UInt8)
  | drop (holder : Nat)
  -- The runtime gives up a buffer that waits.
  | collect (i : Nat)

namespace BufferUse

/-- A pool that nobody has used. -/
def start (size : Nat) : BufferUse := ⟨newBufferPool size, fun _ _ => 0, 0, fun _ => none, false⟩

/-- A byte of a buffer. -/
def byte (use : BufferUse) (buf : Buffer) (i : Nat) : UInt8 :=
  use.memory buf.block (buf.offset + i)

/-- A block that nobody has used, with some content. -/
def alloc (use : BufferUse) (content : Nat → UInt8) : BufferUse :=
  { use with
    memory := Function.update use.memory use.allocated content
    allocated := use.allocated + 1 }

/-- Hands a buffer to somebody, in the size of the pool. -/
def hand (use : BufferUse) (holder : Nat) (buf : Buffer) : BufferUse :=
  match buf.slice 0 use.bp.size with
  | some buf => { use with held := Function.update use.held holder (some buf) }
  | none => { use with panicked := true }

/-- Gets a buffer that waits, or a new one. -/
def get (use : BufferUse) (holder : Nat) (reused : Option Nat) : Option BufferUse :=
  match reused with
  | none =>
    some ((use.alloc fun _ => 0).hand holder (.make use.bp.size use.allocated))
  | some i =>
    use.bp.pool[i]?.map fun buf =>
      { use with bp := { use.bp with pool := use.bp.pool.eraseIdx i } }.hand holder buf

/-- Puts a buffer into the pool if it is large enough, with zeros in its first part. -/
def put (use : BufferUse) (buf : Buffer) : BufferUse :=
  if buf.cap < use.bp.size then use
  else
    { use with
      bp := { use.bp with pool := use.bp.pool ++ [⟨buf.toByteSlice.full, buf.block, buf.offset⟩] }
      memory := Function.update use.memory buf.block fun place =>
        if buf.offset ≤ place ∧ place < buf.offset + min buf.cap zeroed then 0
        else use.memory buf.block place }

/-- What happens at an event, if it can happen. -/
def step (use : BufferUse) : BufferEvent → Option BufferUse
  | .get holder reused => if use.held holder = none then use.get holder reused else none
  | .put holder low high => do
    let buf ← use.held holder
    let part ← buf.slice low high
    return { use with held := Function.update use.held holder none }.put part
  | .write holder i byte => do
    let buf ← use.held holder
    if i < buf.cap then
      return { use with
        memory := Function.update use.memory buf.block
          (Function.update (use.memory buf.block) (buf.offset + i) byte) }
    else none
  | .bring holder cap content =>
    if use.held holder = none then
      some { use.alloc content with
        held := Function.update use.held holder (some (.make cap use.allocated)) }
    else none
  | .drop holder => some { use with held := Function.update use.held holder none }
  | .collect i => some { use with bp := { use.bp with pool := use.bp.pool.eraseIdx i } }

/-- The blocks of the buffers that wait. -/
def waiting (use : BufferUse) : List Nat := use.bp.pool.map Buffer.block

/-- The blocks of the buffers that somebody has. -/
def hands (use : BufferUse) : Nat → Option Nat := Option.map Buffer.block ∘ use.held

/-- No block is in two places, and what waits is large enough and overwritten in its first part. -/
structure Sound (use : BufferUse) : Prop where
  calm : use.panicked = false
  custody : Custody use.waiting use.hands
  issued : ∀ block, Kept use.waiting use.hands block → block < use.allocated
  roomy : ∀ buf ∈ use.bp.pool, use.bp.size ≤ buf.cap
  clean : ∀ buf ∈ use.bp.pool, ∀ i < min buf.cap zeroed, use.byte buf i = 0

variable {use next : BufferUse} {holder : Nat} {buf : Buffer}

/-- What somebody has is seen by the blocks. -/
theorem hands_of_held (has : use.held holder = some buf) : use.hands holder = some buf.block := by
  rw [hands, Function.comp_apply, has]
  rfl

/-- Handing something to somebody is seen by the blocks. -/
theorem hands_update (held : Nat → Option Buffer) (holder : Nat) (given : Option Buffer) :
    Option.map Buffer.block ∘ Function.update held holder given =
      Function.update (Option.map Buffer.block ∘ held) holder (given.map Buffer.block) :=
  Function.comp_update _ _ _ _

/-- A buffer that is large enough is handed over in the size of the pool. -/
theorem hand_eq (roomy : use.bp.size ≤ buf.cap) :
    ∃ given : Buffer, given.len = use.bp.size ∧ given.block = buf.block ∧
      given.offset = buf.offset ∧
      use.hand holder buf = { use with held := Function.update use.held holder (some given) } := by
  have sliced : buf.slice 0 use.bp.size = some
      ⟨⟨use.bp.size - 0, buf.cap - 0, by omega⟩, buf.block, buf.offset + 0⟩ := by
    rw [Buffer.slice, dif_pos ⟨Nat.zero_le _, roomy⟩]
  refine ⟨_, ?_, ?_, ?_, by rw [hand, sliced]⟩ <;> simp

/-- Memory that no buffer in the pool lies in may change. -/
theorem clean_of_apart (clean : ∀ buf ∈ use.bp.pool, ∀ i < min buf.cap zeroed, use.byte buf i = 0)
    {block : Nat} (apart : block ∉ use.waiting) (content : Nat → UInt8) :
    ∀ buf ∈ use.bp.pool, ∀ i < min buf.cap zeroed,
      Function.update use.memory block content buf.block (buf.offset + i) = 0 := by
  -- The buffers that wait lie in other blocks.
  intro buf member i within
  have differs : buf.block ≠ block := by
    rintro rfl
    exact apart (List.mem_map_of_mem member)
  rw [Function.update_of_ne differs]
  exact clean buf member i within

/-- A block that is new is nowhere yet. -/
theorem Sound.fresh (sound : Sound use) : ¬ Kept use.waiting use.hands use.allocated :=
  fun kept => Nat.lt_irrefl _ (sound.issued _ kept)

/-- Somebody gets a buffer in a new block. -/
theorem Sound.alloc (sound : Sound use) (content : Nat → UInt8) (holder : Nat) {given : Buffer}
    (new : given.block = use.allocated) :
    Sound { use.alloc content with held := Function.update use.held holder (some given) } := by
  -- The block is in nobody's hands yet, and no buffer that waits lies in it.
  refine ⟨sound.calm, ?_, ?_, sound.roomy, ?_⟩
  · rw [hands, hands_update, Option.map_some, new]
    exact sound.custody.add sound.fresh
  · intro block kept
    rw [hands, hands_update, Option.map_some, new] at kept
    rcases kept.of_add with rfl | before
    · exact Nat.lt_succ_self _
    · exact Nat.lt_succ_of_lt (sound.issued block before)
  · exact clean_of_apart sound.clean (fun within => sound.fresh (.inl within)) content

/-- Somebody gets a buffer that has waited. -/
theorem Sound.reuse (sound : Sound use) {i : Nat} (found : use.bp.pool[i]? = some buf)
    (holder : Nat) {given : Buffer} (same : given.block = buf.block) :
    Sound { use with
      bp := { use.bp with pool := use.bp.pool.eraseIdx i }
      held := Function.update use.held holder (some given) } := by
  -- The runtime may take any of the buffers that wait.
  have order : use.waiting.Perm (buf.block :: (use.bp.pool.eraseIdx i).map Buffer.block) := by
    obtain ⟨inside, rfl⟩ := List.getElem?_eq_some_iff.mp found
    exact ((List.getElem_cons_eraseIdx_perm inside).map Buffer.block).symm
  refine ⟨sound.calm, ?_, ?_, ?_, ?_⟩
  · rw [hands, hands_update, Option.map_some, same]
    exact (sound.custody.perm order).take
  · intro block kept
    rw [hands, hands_update, Option.map_some, same] at kept
    refine sound.issued block (kept.of_take.imp_left fun within => ?_)
    exact order.mem_iff.mpr within
  · exact fun buf member => sound.roomy buf (List.mem_of_mem_eraseIdx member)
  · exact fun buf member => sound.clean buf (List.mem_of_mem_eraseIdx member)

/-- What somebody gets has the size of the pool, and zeros in its first part. -/
theorem Sound.get (sound : Sound use) {reused : Option Nat}
    (got : use.get holder reused = some next) :
    Sound next ∧ next.bp.size = use.bp.size ∧ ∃ buf, next.held holder = some buf ∧
      buf.len = use.bp.size ∧ ∀ i < min use.bp.size zeroed, next.byte buf i = 0 := by
  cases reused with
  | none =>
    -- A new buffer is all zeros.
    obtain ⟨given, length, block, offset, handed⟩ := @hand_eq (use.alloc fun _ => 0) holder
      (.make use.bp.size use.allocated) (Nat.le_refl _)
    rw [BufferUse.get, handed] at got
    obtain rfl := Option.some.inj got
    refine ⟨sound.alloc (fun _ => 0) holder block, rfl, given, Function.update_self _ _ _,
      length, ?_⟩
    intro i _
    rw [byte, block]
    simp [BufferUse.alloc, Buffer.make]
  | some i =>
    -- One that has waited was overwritten when it was given back.
    obtain ⟨buf, found, handed⟩ := Option.map_eq_some_iff.mp got
    have member := List.mem_of_getElem? found
    obtain ⟨given, length, block, offset, handing⟩ := @hand_eq
      { use with bp := { use.bp with pool := use.bp.pool.eraseIdx i } } holder buf
      (sound.roomy buf member)
    rw [handing] at handed
    subst handed
    refine ⟨sound.reuse found holder block, rfl, given, Function.update_self _ _ _, length, ?_⟩
    intro k within
    have roomy := sound.roomy buf member
    have zero := sound.clean buf member k (by omega)
    rw [byte, block, offset]
    exact zero

/-- Somebody gives up a buffer. -/
theorem Sound.drop (sound : Sound use) (holder : Nat) :
    Sound { use with held := Function.update use.held holder none } := by
  refine ⟨sound.calm, ?_, ?_, sound.roomy, sound.clean⟩
  · rw [hands, hands_update]
    exact sound.custody.drop
  · intro block kept
    rw [hands, hands_update] at kept
    refine sound.issued block (kept.imp_right ?_)
    rintro ⟨reader, has⟩
    exact ⟨reader, (update_none_eq_some has).2⟩

/-- Somebody gives a buffer back, of which the first part is overwritten. -/
theorem Sound.put (sound : Sound use) (has : use.held holder = some buf) {part : Buffer}
    (same : part.block = buf.block) :
    Sound ({ use with held := Function.update use.held holder none }.put part) := by
  have mine := hands_of_held has
  rw [← same] at mine
  rw [BufferUse.put]
  split
  · -- A buffer that is too small is left to the garbage collector.
    exact sound.drop holder
  · rename_i large
    refine ⟨sound.calm, ?_, ?_, ?_, ?_⟩
    · rw [hands, hands_update, waiting, List.map_append]
      exact sound.custody.give mine
    · intro block kept
      rw [hands, hands_update, waiting, List.map_append] at kept
      exact sound.issued block (kept.of_give mine)
    · intro other member
      rcases List.mem_append.mp member with before | last
      · exact sound.roomy other before
      · rw [List.mem_singleton.mp last]
        exact Nat.le_of_not_lt large
    · intro other member
      -- Nobody else's block is written, and the buffer itself is overwritten as far as is needed.
      rcases List.mem_append.mp member with before | last
      · exact clean_of_apart sound.clean (sound.custody.apart holder _ mine) _ other before
      · rw [List.mem_singleton.mp last]
        intro i within
        have inside : part.offset + i < part.offset + min part.cap zeroed :=
          Nat.add_lt_add_left within _
        rw [byte]
        simp [inside]

/-- Somebody writes into a buffer. -/
theorem Sound.write (sound : Sound use) (has : use.held holder = some buf)
    (content : Nat → UInt8) :
    Sound { use with memory := Function.update use.memory buf.block content } :=
  ⟨sound.calm, sound.custody, sound.issued, sound.roomy,
    clean_of_apart sound.clean (sound.custody.apart holder _ (hands_of_held has)) content⟩

/-- The runtime gives up a buffer that waits. -/
theorem Sound.collect (sound : Sound use) (i : Nat) :
    Sound { use with bp := { use.bp with pool := use.bp.pool.eraseIdx i } } := by
  have fewer : ((use.bp.pool.eraseIdx i).map Buffer.block).Sublist use.waiting :=
    (List.eraseIdx_sublist _ _).map _
  refine ⟨sound.calm, sound.custody.lose fewer, ?_, ?_, ?_⟩
  · exact fun block kept => sound.issued block (kept.imp_left fun within => fewer.subset within)
  · exact fun buf member => sound.roomy buf (List.mem_of_mem_eraseIdx member)
  · exact fun buf member => sound.clean buf (List.mem_of_mem_eraseIdx member)

/-- A part of a buffer lies in the same block. -/
theorem slice_block {part : Buffer} {low high : Nat} (sliced : buf.slice low high = some part) :
    part.block = buf.block := by
  rw [Buffer.slice] at sliced
  split at sliced
  · obtain rfl := Option.some.inj sliced
    rfl
  · cases sliced

/-- Giving a buffer back does not change the size of the pool. -/
theorem put_size (use : BufferUse) (part : Buffer) : (use.put part).bp.size = use.bp.size := by
  rw [put]
  split <;> rfl

/-- Who gets a buffer has none so far. -/
theorem get_of_step {reused : Option Nat} (taken : use.step (.get holder reused) = some next) :
    use.get holder reused = some next := by
  simp only [step] at taken
  split at taken
  · exact taken
  · cases taken

/-- Every event keeps the pool sound. -/
theorem Sound.step (sound : Sound use) {event : BufferEvent}
    (taken : use.step event = some next) : Sound next ∧ next.bp.size = use.bp.size := by
  cases event with
  | get holder reused =>
    have got := sound.get (get_of_step taken)
    exact ⟨got.1, got.2.1⟩
  | put holder low high =>
    obtain ⟨buf, has, taken⟩ := Option.bind_eq_some_iff.mp taken
    obtain ⟨part, sliced, taken⟩ := Option.bind_eq_some_iff.mp taken
    obtain rfl := Option.some.inj taken
    exact ⟨sound.put has (slice_block sliced), put_size _ _⟩
  | write holder i byte =>
    obtain ⟨buf, has, taken⟩ := Option.bind_eq_some_iff.mp taken
    split at taken
    · obtain rfl := Option.some.inj taken
      exact ⟨sound.write has _, rfl⟩
    · cases taken
  | bring holder cap content =>
    simp only [BufferUse.step] at taken
    split at taken
    · obtain rfl := Option.some.inj taken
      exact ⟨sound.alloc content holder rfl, rfl⟩
    · cases taken
  | drop holder =>
    obtain rfl := Option.some.inj taken
    exact ⟨sound.drop holder, rfl⟩
  | collect i =>
    obtain rfl := Option.some.inj taken
    exact ⟨sound.collect i, rfl⟩

/-- A pool that nobody has used is sound. -/
theorem start_sound (size : Nat) : Sound (start size) := by
  refine ⟨rfl, ⟨List.nodup_nil, ?_, ?_⟩, ?_, ?_, ?_⟩
  · intro thread item has
    cases has
  · intro thread other item has
    cases has
  · rintro block (within | ⟨reader, has⟩)
    · cases within
    · cases has
  · intro buf member
    cases member
  · intro buf member
    cases member

/-- After any run the pool is sound, and of the size that it was made for. -/
theorem exec_sound {size : Nat} {trace : List BufferEvent}
    (ran : exec step (start size) trace = some use) : Sound use ∧ use.bp.size = size := by
  refine exec_invariant (fun use => Sound use ∧ use.bp.size = size) ?_ ⟨start_sound size, rfl⟩ ran
  intro use event next before taken
  obtain ⟨sound, same⟩ := before.1.step taken
  exact ⟨sound, same.trans before.2⟩

/--
Whatever is written into buffers and given back, also parts of them and buffers from elsewhere, no
`Get` panics, and each returns a buffer of the size of the pool that shares no memory with any
other that is in use, and whose first 1024 bytes are zero.
-/
theorem buffers_exclusive {size : Nat} {trace : List BufferEvent}
    (ran : exec step (start size) trace = some use) {reused : Option Nat}
    (got : use.step (.get holder reused) = some next) :
    next.panicked = false ∧ ∃ buf, next.held holder = some buf ∧ buf.len = size ∧
      (∀ other ≠ holder, ∀ taken, next.held other = some taken → taken.block ≠ buf.block) ∧
      ∀ i < min size zeroed, next.byte buf i = 0 := by
  obtain ⟨sound, rfl⟩ := exec_sound ran
  obtain ⟨after, _, buf, has, length, zero⟩ := sound.get (get_of_step got)
  refine ⟨after.calm, buf, has, length, fun other differs taken also same => ?_, zero⟩
  -- Two users with one block would be the same user.
  have theirs := hands_of_held also
  rw [same] at theirs
  exact differs (after.custody.alone other holder _ theirs (hands_of_held has))

/-- Of two users, each gets a buffer of its own. -/
theorem buffers_exclusive_two :
    ∃ use next buf, exec step (start 4) [.get 0 none, .write 0 2 7, .put 0 0 4, .get 0 none] =
        some use ∧ use.step (.get 1 (some 0)) = some next ∧ next.held 1 = some buf ∧
      buf.len = 4 ∧ ∀ i < 4, next.byte buf i = 0 := by
  obtain ⟨use, next, ran, got⟩ : ∃ use next,
      exec step (start 4) [.get 0 none, .write 0 2 7, .put 0 0 4, .get 0 none] = some use ∧
        use.step (.get 1 (some 0)) = some next := ⟨_, _, rfl, rfl⟩
  obtain ⟨_, buf, has, length, _, zero⟩ := buffers_exclusive ran got
  exact ⟨use, next, buf, ran, got, has, length, zero⟩

/-- A slice of a whole buffer is the buffer. -/
theorem slice_make (size block : Nat) :
    (Buffer.make size block).slice 0 size = some (.make size block) := by
  rw [Buffer.slice, dif_pos ⟨Nat.zero_le _, Nat.le_refl size⟩]
  rfl

/-- A whole buffer is handed over as it is. -/
theorem hand_make (use : BufferUse) (holder block : Nat) :
    use.hand holder (.make use.bp.size block) =
      { use with
        held := Function.update use.held holder (some (.make use.bp.size block)) } := by
  rw [hand, slice_make]

/-- A byte behind the part that is overwritten comes back to the next user. -/
theorem leftover_read {size : Nat} (large : zeroed < size) :
    ∃ use next buf, exec step (start size) [.get 0 none, .write 0 zeroed 1, .put 0 0 size] =
        some use ∧ use.step (.get 0 (some 0)) = some next ∧ next.held 0 = some buf ∧
      buf.len = size ∧ next.byte buf zeroed = 1 := by
  -- The buffer is the only one that there is, and each step is followed.
  let own := Buffer.make size 0
  let first : BufferUse :=
    { (start size).alloc fun _ => 0 with held := Function.update (fun _ => none) 0 (some own) }
  have gets : (start size).step (.get 0 none) = some first :=
    congrArg some (hand_make ((start size).alloc fun _ => 0) 0 0)
  let second : BufferUse :=
    { first with
      memory := Function.update first.memory 0
        (Function.update (first.memory 0) (0 + zeroed) 1) }
  have writes : first.step (.write 0 zeroed 1) = some second := if_pos large
  let third : BufferUse :=
    { second with
      bp := ⟨size, [own]⟩
      held := Function.update second.held 0 none
      memory := Function.update second.memory 0 fun place =>
        if 0 ≤ place ∧ place < 0 + min size zeroed then 0 else second.memory 0 place }
  have puts : second.step (.put 0 0 size) = some third := by
    have kept : { second with held := Function.update second.held 0 none }.put own = third :=
      if_neg (Nat.lt_irrefl size)
    show ((own.slice 0 size).bind fun part => some
      ({ second with held := Function.update second.held 0 none }.put part)) = some third
    rw [slice_make, Option.bind_some, kept]
  let fourth : BufferUse :=
    { third with bp := ⟨size, []⟩, held := Function.update third.held 0 (some own) }
  have again : third.step (.get 0 (some 0)) = some fourth :=
    congrArg some (hand_make { third with bp := ⟨size, []⟩ } 0 0)
  have left : fourth.byte own zeroed = 1 := by
    have behind : ¬ (0 + zeroed < 0 + min size zeroed) := by omega
    show third.memory 0 (0 + zeroed) = 1
    simp only [third, Function.update_self, if_neg (not_and_of_not_right _ behind), second]
  refine ⟨third, fourth, own, ?_, again, rfl, rfl, left⟩
  simp only [exec_cons_eq_some]
  exact ⟨first, gets, second, writes, third, puts, rfl⟩

/--
No user of a pool can read what another one has left in a buffer, within the length that `Get`
returns, exactly if its buffers are not longer than the part that is overwritten.
-/
theorem buffers_clean_iff (size : Nat) :
    (∀ trace use holder reused next buf, exec step (start size) trace = some use →
      use.step (.get holder reused) = some next → next.held holder = some buf →
      ∀ i < buf.len, next.byte buf i = 0) ↔ size ≤ zeroed := by
  constructor
  · -- In a longer buffer, the first byte behind that part gives what was left there away.
    intro clean
    by_contra large
    obtain ⟨use, next, buf, ran, got, has, length, left⟩ := leftover_read (Nat.lt_of_not_le large)
    have zero := clean _ use 0 (some 0) next buf ran got has zeroed (by omega)
    rw [left] at zero
    exact absurd zero (by decide)
  · intro small trace use holder reused next buf ran got has i within
    obtain ⟨sound, rfl⟩ := exec_sound ran
    obtain ⟨_, _, given, hands, length, zero⟩ := sound.get (get_of_step got)
    obtain rfl := Option.some.inj (has.symm.trans hands)
    exact zero i (by omega)

end BufferUse

end Balance
