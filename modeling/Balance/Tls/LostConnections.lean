import Balance.Tls.Delivery

/-! How a connection is lost between accepting and closing it, and when none is. -/

namespace Balance

open Machine

/--
The flags of the connections are right.

A call is busy with a connection whose flag it has found unset, and marks it once it has counted
it off. The flag of a connection is set by one call only.
-/
structure Flags (closed : Nat → Bool) (released : Finset Nat) (busy marks : Nat → Option Nat) :
    Prop where
  custody : Custody [] busy
  unflagged : ∀ thread conn, busy thread = some conn → closed conn = false
  counted : ∀ conn, conn ∈ released ↔ closed conn = true ∨ ∃ thread, marks thread = some conn

namespace Flags

variable {closed : Nat → Bool} {released : Finset Nat} {busy marks : Nat → Option Nat}
  {thread conn : Nat}

/-- A call gets busy with a connection that nobody is busy with. -/
theorem check (flags : Flags closed released busy marks) (flag : closed conn = false)
    (free : ∀ reader, busy reader ≠ some conn) :
    Flags closed released (Function.update busy thread (some conn)) marks := by
  -- The call takes hold of the connection, which nobody else has hold of.
  refine ⟨flags.custody.add ?_, ?_, flags.counted⟩
  · rintro (within | ⟨reader, has⟩)
    · cases within
    · exact free reader has
  · intro reader other has
    rcases update_hands_eq_some has with ⟨_, filled⟩ | ⟨_, has⟩
    · cases filled
      exact flag
    · exact flags.unflagged reader other has

/-- A call counts a connection off. -/
theorem count (flags : Flags closed released busy marks) (idle : marks thread = none) :
    Flags closed (insert conn released) busy (Function.update marks thread (some conn)) := by
  refine ⟨flags.custody, flags.unflagged, ?_⟩
  intro other
  rw [Finset.mem_insert, flags.counted, exists_update_some_iff idle]
  exact or_left_comm

/-- A call sets the flag of a connection that it has counted off. -/
theorem flag (flags : Flags closed released busy marks) (mine : busy thread = some conn)
    (counted : marks thread = some conn) :
    Flags (Function.update closed conn true) released (Function.update busy thread none)
      (Function.update marks thread none) := by
  refine ⟨flags.custody.drop, ?_, ?_⟩
  · intro reader other has
    obtain ⟨differs, has⟩ := update_none_eq_some has
    -- Nobody else is busy with the connection.
    have another : other ≠ conn := by
      rintro rfl
      exact differs (flags.custody.alone reader thread other has mine)
    rw [Function.update_of_ne another]
    exact flags.unflagged reader other has
  · -- The connection was counted by its mark before, and by its flag from now on.
    intro other
    by_cases same : other = conn
    · rw [same, Function.update_self]
      exact iff_of_true ((flags.counted conn).mpr (.inr ⟨thread, counted⟩)) (.inl rfl)
    · rw [Function.update_of_ne same, flags.counted]
      refine or_congr_right ⟨?_, ?_⟩
      · rintro ⟨reader, has⟩
        have differs : reader ≠ thread := by
          rintro rfl
          exact same (Option.some.inj (has.symm.trans counted))
        exact ⟨reader, (Function.update_of_ne differs _ _).trans has⟩
      · rintro ⟨reader, has⟩
        exact ⟨reader, (update_none_eq_some has).2⟩

end Flags

namespace Accepting

variable {s next : Accepting} {frame after : TLSFrame} {choice : TLSChoice}

/-- What a step means for the flags of the connections. -/
inductive FlagStep (s : Accepting) (frame : TLSFrame) (next : Accepting) (after : TLSFrame) : Prop
  | other (closed : next.closed = s.closed) (released : next.released = s.released)
      (busy : after.busy = frame.busy) (marks : after.marks = frame.marks)
  | checked {conn : Nat} (stands : frame = .closing conn .check) (same : next = s)
      (flag : s.closed conn = false) (reached : after = .closing conn .decrement)
  | counted {conn : Nat} (stands : frame = .closing conn .decrement)
      (closed : next.closed = s.closed) (released : next.released = insert conn s.released)
      (reached : after = .closing conn .mark)
  | flagged {conn : Nat} (stands : frame = .closing conn .mark)
      (closed : next.closed = Function.update s.closed conn true)
      (released : next.released = s.released) (reached : after = .closing conn .shut)

/-- Every step is one of these for the flags. -/
theorem TLSStep.flags (step : TLSStep s frame choice next after) :
    FlagStep s frame next after := by
  cases step with
  | checked flag => exact .checked rfl rfl flag rfl
  | decremented => exact .counted rfl rfl rfl rfl
  | marked => exact .flagged rfl rfl rfl rfl
  | _ => exact .other rfl rfl rfl rfl

/-- A step that leaves a connection behind leaves it with a goroutine whose caller is gone. -/
theorem TLSStep.abandons (step : TLSStep s frame choice next after)
    (disorderly : ¬ Orderly choice frame) (settled : frame.Settled) :
    next.shut = s.shut ∧ ∃ conn place, after = .call .cancelled place ∧
      (frame.holds = some conn ∧ frame.delivers = none ∧ next.nextConn = s.nextConn ∨
        conn = s.nextConn ∧ next.nextConn = s.nextConn + 1) := by
  -- A goroutine takes one for nobody, or a caller leaves one with the goroutine.
  cases step with
  | @took caller =>
    cases caller with
    | waiting => exact absurd rfl disorderly
    | cancelled => exact ⟨rfl, s.nextConn, _, rfl, .inr ⟨rfl, rfl⟩⟩
    | returned result => cases settled
  | @cancelled place =>
    obtain ⟨conn, has⟩ := Option.ne_none_iff_exists'.mp disorderly
    exact ⟨rfl, conn, place, rfl, .inl ⟨has, rfl, rfl⟩⟩
  | _ => exact absurd trivial disorderly

end Accepting

namespace TLSWorld

variable {world next : TLSWorld} {label : Nat × TLSChoice} {lag : Int}

/-- The flags of the connections are right for what the calls are doing. -/
def Closing (world : TLSWorld) : Prop :=
  Flags world.shared.closed world.shared.released (fun thread => (world.frame thread).busy)
    fun thread => (world.frame thread).marks

/-- Nothing is being closed in the beginning. -/
theorem start_closing (config : Tls.Config) (listener : Option StdConfig) :
    (start config listener).Closing where
  custody := ⟨List.nodup_nil, nofun, nofun⟩
  unflagged := nofun
  counted := by
    intro conn
    simp [start, TLSFrame.marks]

/-- A call about to count a connection off is the first to do so. -/
theorem Closing.fresh (closing : world.Closing) {thread conn : Nat}
    (stands : world.frame thread = .closing conn .decrement) : conn ∉ world.shared.released := by
  have mine : (world.frame thread).busy = some conn := by rw [stands]; rfl
  intro released
  rcases (closing.counted conn).mp released with flag | ⟨other, marks⟩
  · cases (closing.unflagged thread conn mine).symm.trans flag
  · -- Whoever has counted it off is about to set its flag, and no other call is.
    have busy : (world.frame other).busy = some conn := by
      match frame : world.frame other, marks with
      | .closing _ .mark, marks => exact marks
    obtain rfl := closing.custody.alone thread other conn mine busy
    rw [stands] at marks
    cases marks

/-- Every careful step keeps the flags right. -/
theorem step_closing (closing : world.Closing) (careful : world.Careful label)
    (taken : world.step label = some next) : next.Closing := by
  -- Each kind of step changes what one call is busy with or marks, or neither.
  obtain ⟨s, after, step, rfl⟩ := step_inv taken
  change Flags s.closed s.released
    (fun thread => (Function.update world.frame label.1 after thread).busy)
    fun thread => (Function.update world.frame label.1 after thread).marks
  cases step.flags with
  | other closed released busy marks =>
    rw [closed, released, Threads.read_update_of_eq busy, Threads.read_update_of_eq marks]
    exact closing
  | @checked conn stands same flag reached =>
    have marks : after.marks = (world.frame label.1).marks := by rw [stands, reached]; rfl
    rw [Threads.read_update_of_eq marks, Threads.read_update TLSFrame.busy, same, reached]
    exact closing.check flag (careful.alone conn stands flag)
  | counted stands closed released reached =>
    have busy : after.busy = (world.frame label.1).busy := by rw [stands, reached]; rfl
    rw [Threads.read_update_of_eq busy, Threads.read_update TLSFrame.marks, closed, released,
      reached]
    exact closing.count (by rw [stands]; rfl)
  | flagged stands closed released reached =>
    rw [Threads.read_update TLSFrame.busy, Threads.read_update TLSFrame.marks, closed, released,
      reached]
    exact closing.flag (by rw [stands]; rfl) (by rw [stands]; rfl)

/-- Every connection is accounted for, and the flags are right. -/
structure Sound (world : TLSWorld) : Prop where
  delivering : world.Delivering 0
  closing : world.Closing

/-- Nothing is to be accounted for in the beginning. -/
theorem start_sound (config : Tls.Config) (listener : Option StdConfig) :
    (start config listener).Sound where
  delivering := by
    refine ⟨tallies_zero, tallies_zero, owned_zero, fun _ => trivial, ?_, nofun, ?_, ?_⟩
    · intro conn
      simp [start, TLSFrame.delivers]
    · simp [start]
    · exact ⟨∅, fun _ _ => rfl⟩
  closing := start_closing config listener

/-- Every careful step keeps all of this. -/
theorem step_sound (sound : world.Sound) (careful : world.Careful label)
    (taken : world.step label = some next) : next.Sound where
  delivering := step_fresh sound.delivering careful.orderly
    (fun _ stands => sound.closing.fresh stands) taken
  closing := step_closing sound.closing careful taken

/-- When no caller waits, the active connections are those returned and not closed. -/
theorem Delivering.active (delivering : world.Delivering lag)
    (idle : ∀ thread, (world.frame thread).waits = false) :
    world.shared.terminator.activeConnections + lag =
      ((world.shared.returned \ world.shared.released).card : Int) := by
  -- Every connection that was counted has been returned.
  have shares : (fun thread => (world.frame thread).share) =
      fun thread => (world.frame thread).handed := by
    funext thread
    exact TLSFrame.share_eq_handed (delivering.settled thread) (idle thread)
  have tallied := delivering.tallied
  unfold Threads.Counts at tallied
  rw [shares] at tallied
  have same := Tallies.unique tallied delivering.handed
  have within : world.shared.released ⊆ world.shared.returned :=
    Finset.subset_union_right.trans delivering.ended
  have fewer := Finset.card_le_card within
  rw [Finset.card_sdiff_of_subset within, Nat.cast_sub fewer]
  simp only [Accepting.tallied] at same
  omega

/-- What is accounted for is not lost. -/
theorem Sound.nothingLost (sound : world.Sound) : world.NothingLost where
  delivered := by
    -- A connection taken is still with its goroutine, whose caller waits or has returned it.
    intro conn taken
    right
    obtain ⟨thread, holds⟩ := sound.delivering.owned.owned conn taken
    refine ⟨thread, .of_holds (sound.delivering.settled thread) holds, ?_⟩
    intro other has
    exact sound.delivering.owned.custody.alone other thread conn
      (has.holds (sound.delivering.settled other)) holds
  balanced := by
    intro idle
    simpa using sound.delivering.active idle

/-- A connection left behind is lost. -/
theorem lost_of_disorderly (delivering : world.Delivering lag)
    (disorderly : ¬ Accepting.Orderly label.2 (world.frame label.1))
    (taken : world.step label = some next) : ¬ next.NothingLost := by
  obtain ⟨s, after, step, rfl⟩ := step_inv taken
  obtain ⟨unshut, conn, place, gone, kind⟩ :=
    step.abandons disorderly (delivering.settled label.1)
  -- No other call holds the connection, and none has returned it.
  have others : ∀ thread, thread ≠ label.1 → (world.frame thread).holds ≠ some conn := by
    intro thread differs holds
    rcases kind with ⟨mine, _⟩ | ⟨rfl, _⟩
    · exact differs (delivering.owned.custody.alone thread label.1 conn holds mine)
    · exact Nat.lt_irrefl _ (delivering.owned.known thread _ holds)
  have kept : conn ∉ world.shared.returned := by
    intro returned
    obtain ⟨thread, delivers⟩ := (delivering.returned conn).mp returned
    have holds := TLSFrame.holds_of_delivers (delivering.settled thread) delivers
    rcases kind with ⟨mine, nothing, _⟩ | ⟨rfl, _⟩
    · cases nothing.symm.trans (delivering.holder returned mine)
    · exact Nat.lt_irrefl _ (delivering.owned.known thread _ holds)
  have within : conn < s.nextConn := by
    rcases kind with ⟨mine, _, same⟩ | ⟨rfl, issued⟩
    · rw [same]
      exact delivering.owned.known label.1 conn mine
    · rw [issued]
      exact Nat.lt_succ_self _
  intro fine
  rcases fine.delivered conn within with shut | ⟨thread, has, _⟩
  · change conn ∈ s.shut at shut
    rw [unshut] at shut
    exact kept (delivering.ended (Finset.mem_union_left _ shut))
  · by_cases same : thread = label.1
    · rw [same] at has
      simp [gone, TLSFrame.Has, TLSFrame.waits, TLSFrame.delivers, CallerPlace.conn] at has
    · change (Function.update world.frame label.1 after thread).Has conn at has
      rw [Function.update_of_ne same] at has
      exact others thread same (has.holds (delivering.settled thread))

/-- Careful steps lead to a state in which the caller of a call does not wait any more. -/
def Settles (lag : Int) (thread : Nat) (world : TLSWorld) : Prop :=
  ∃ final, Leads step Careful world final ∧ final.Delivering lag ∧
    (∀ other, other ≠ thread → final.frame other = world.frame other) ∧
      (final.frame thread).waits = false

/-- A step of the call leads on to where it settles. -/
theorem Settles.head {thread : Nat} (delivering : world.Delivering lag) {place : AcceptPlace}
    (stands : world.frame thread = .call .waiting place) (choice : TLSChoice)
    (orderly : Accepting.Orderly choice (.call .waiting place)) {s : Accepting} {after : TLSFrame}
    (advanced : world.shared.advance (.call .waiting place) choice = some (s, after))
    (later : ∀ next : TLSWorld, next.Delivering lag → next.frame thread = after →
      Settles lag thread next) : Settles lag thread world := by
  -- The step closes nothing, so that it is careful as soon as it is orderly.
  have taken : world.step (thread, choice) = some ⟨s, Function.update world.frame thread after⟩ :=
    Threads.step_eq_some.mpr ⟨s, after, by rw [stands]; exact advanced, rfl⟩
  have careful : world.Careful (thread, choice) := by
    refine ⟨by rw [stands]; exact orderly, ?_⟩
    intro conn closes
    cases stands.symm.trans closes
  have delivered := step_fresh delivering careful.orderly
    (fun conn closes => by cases stands.symm.trans closes) taken
  obtain ⟨final, leads, kept, others, settled⟩ := later _ delivered (Function.update_self _ _ _)
  refine ⟨final, leads.head _ careful taken, kept, ?_, settled⟩
  intro other differs
  exact (others other differs).trans (Function.update_of_ne differs _ _)

/-- Whatever its goroutine is doing, a waiting caller can get a result. -/
theorem settles_of_waiting (delivering : world.Delivering lag) {thread : Nat} {place : AcceptPlace}
    (stands : world.frame thread = .call .waiting place) : Settles lag thread world := by
  -- From the last place to the first, each is one step from the one after it.
  have sent : ∀ (result : Option Nat) (world : TLSWorld), world.Delivering lag →
      world.frame thread = .call .waiting (.sent result) → Settles lag thread world := by
    intro result world delivering stands
    have done : ∀ next : TLSWorld, next.Delivering lag →
        next.frame thread = .call (.returned result) (.sent result) → Settles lag thread next := by
      intro next delivered reached
      exact ⟨next, .refl next, delivered, fun _ _ => rfl, by rw [reached]; rfl⟩
    cases result with
    | none => exact .head delivering stands .receive trivial rfl done
    | some conn => exact .head delivering stands .receive trivial rfl done
  have send : ∀ (result : Option Nat) (world : TLSWorld), world.Delivering lag →
      world.frame thread = .call .waiting (.send result) → Settles lag thread world := by
    intro result world delivering stands
    exact .head delivering stands .run trivial rfl (sent result)
  have active : ∀ (conn : Nat) (world : TLSWorld), world.Delivering lag →
      world.frame thread = .call .waiting (.active conn) → Settles lag thread world := by
    intro conn world delivering stands
    exact .head delivering stands .run trivial rfl (send (some conn))
  cases place with
  | accept => exact .head delivering stands .fail trivial rfl (send none)
  | total conn => exact .head delivering stands .run trivial rfl (active conn)
  | active conn => exact active conn world delivering stands
  | send result => exact send result world delivering stands
  | sent result => exact sent result world delivering stands

/-- All callers can get their results, one after the other. -/
theorem exists_idle (threads : Finset Nat) (delivering : world.Delivering lag)
    (others : ∀ thread, thread ∉ threads → (world.frame thread).waits = false) :
    ∃ final, Leads step Careful world final ∧ final.Delivering lag ∧
      ∀ thread, (final.frame thread).waits = false := by
  induction threads using Finset.induction_on generalizing world with
  | empty => exact ⟨world, .refl world, delivering, fun thread => others thread (by simp)⟩
  | insert first rest _ ih =>
    -- The first of them settles, if it waits at all.
    have settles : Settles lag first world := by
      match stands : world.frame first with
      | .call .waiting place => exact settles_of_waiting delivering stands
      | .call .cancelled _ | .call (.returned _) _ | .idle | .closing _ _ =>
        exact ⟨world, .refl world, delivering, fun _ _ => rfl, by rw [stands]; rfl⟩
    obtain ⟨middle, leads, kept, same, settled⟩ := settles
    have fewer : ∀ thread, thread ∉ rest → (middle.frame thread).waits = false := by
      intro thread outside
      by_cases here : thread = first
      · rw [here]
        exact settled
      · rw [same thread here]
        exact others thread (by simp [here, outside])
    obtain ⟨final, further, delivered, idle⟩ := ih kept fewer
    exact ⟨final, leads.trans further, delivered, idle⟩

/-- A connection that was counted off twice is missed as soon as no caller waits. -/
theorem strays_of_lag (delivering : world.Delivering 1) :
    ∃ final, Leads step Careful world final ∧ ¬ final.NothingLost := by
  -- Once all callers have their results, one active connection less is counted than there are.
  obtain ⟨threads, others⟩ := delivering.finite
  obtain ⟨final, leads, delivered, idle⟩ := exists_idle threads delivering
    fun thread outside => by rw [others thread outside]; rfl
  refine ⟨final, leads, ?_⟩
  intro fine
  have balanced := fine.balanced idle
  have active := delivered.active idle
  omega

/-- A call that is about to count a connection off may do so. -/
theorem leads_decrement {thread conn : Nat}
    (stands : world.frame thread = .closing conn .decrement) :
    ∃ next, world.step (thread, .run) = some next ∧ world.Careful (thread, .run) ∧
      next.shared.released = insert conn world.shared.released ∧
      ∀ other, other ≠ thread → next.frame other = world.frame other := by
  -- The step does not look at the flag, so that it is careful whoever else is busy.
  refine ⟨_, Threads.step_eq_some.mpr ⟨_, _, by rw [stands]; rfl, rfl⟩, ?_, rfl, ?_⟩
  · refine ⟨by rw [stands]; trivial, ?_⟩
    intro other closes
    cases stands.symm.trans closes
  · intro other differs
    exact Function.update_of_ne differs _ _

/-- A call that counts a connection off after another has done so makes it missed. -/
theorem strays_of_again (delivering : world.Delivering 0) {thread conn : Nat}
    (stands : world.frame thread = .closing conn .decrement)
    (again : conn ∈ world.shared.released) :
    ∃ final, Leads step Careful world final ∧ ¬ final.NothingLost := by
  -- The count is one behind from then on.
  obtain ⟨next, taken, careful, _, _⟩ := leads_decrement stands
  obtain ⟨final, leads, lost⟩ := strays_of_lag (step_again delivering stands again rfl taken)
  exact ⟨final, leads.head _ careful taken, lost⟩

/-- Two calls that both find the flag of a connection unset both count it off. -/
theorem strays_of_check (sound : world.Sound) {conn other : Nat}
    (stands : world.frame label.1 = .closing conn .check)
    (flag : world.shared.closed conn = false) (busy : (world.frame other).busy = some conn)
    (taken : world.step label = some next) :
    ∃ final, Leads step Careful next final ∧ ¬ final.NothingLost := by
  have differs : other ≠ label.1 := by
    intro same
    rw [same, stands] at busy
    cases busy
  have delivering : next.Delivering 0 := by
    refine step_fresh sound.delivering ?_ ?_ taken
    · rw [stands]
      cases label.2 <;> trivial
    · intro closed closes
      cases stands.symm.trans closes
  -- The step only looks at the flag.
  obtain ⟨s, after, step, rfl⟩ := step_inv taken
  rw [stands] at step
  generalize label.2 = choice at step
  cases step with
  | skipped set => cases flag.symm.trans set
  | checked _ =>
    match theirs : world.frame other, busy with
    | .closing counted .mark, marks =>
      -- The other call has counted the connection off already.
      obtain rfl := Option.some.inj marks
      have again : counted ∈ world.shared.released :=
        (sound.closing.counted counted).mpr (.inr ⟨other, by rw [theirs]; rfl⟩)
      exact strays_of_again delivering (Function.update_self _ _ _) again
    | .closing first .decrement, marks =>
      -- The other call counts the connection off first.
      obtain rfl := Option.some.inj marks
      let looked : TLSWorld :=
        ⟨world.shared, Function.update world.frame label.1 (.closing first .decrement)⟩
      have waiting : looked.frame other = .closing first .decrement :=
        (Function.update_of_ne differs _ _).trans theirs
      obtain ⟨middle, moved, careful, released, same⟩ := leads_decrement waiting
      have kept : middle.Delivering 0 := by
        refine step_fresh delivering careful.orderly ?_ moved
        intro conn closes
        obtain ⟨rfl, _⟩ := TLSFrame.closing.inj (waiting.symm.trans closes)
        exact sound.closing.fresh theirs
      have mine := (same label.1 differs.symm).trans (Function.update_self _ _ _)
      obtain ⟨final, leads, lost⟩ := strays_of_again kept mine
        (by rw [released]; exact Finset.mem_insert_self _ _)
      exact ⟨final, leads.head _ careful moved, lost⟩

/--
No connection is lost, and the active ones are counted right, exactly as long as no goroutine
takes one for a caller who has left, no caller leaves while the goroutine has one, and no two
calls find the flag of a connection unset.
-/
theorem connections_guarded (config : Tls.Config) (listener : Option StdConfig) :
    Guards step Careful NothingLost (start config listener) := by
  -- A step that is not careful loses a connection at once, or lets one be counted off twice.
  refine guards_of_invariant Sound (fun _ _ _ sound careful taken => step_sound sound careful taken)
    (fun _ sound => sound.nothingLost) ?_ (start_sound config listener)
  intro world label next sound taken strays
  by_cases orderly : Accepting.Orderly label.2 (world.frame label.1)
  · -- The flag is found unset while another call is about to set it.
    by_contra fine
    refine strays ⟨orderly, ?_⟩
    intro conn stands flag other busy
    exact fine (strays_of_check sound stands flag busy taken)
  · exact ⟨next, .refl next, lost_of_disorderly sound.delivering orderly taken⟩

/-- A caller leaves, and then a connection comes in for the goroutine that was left behind. -/
def lateConnection : List TLSChoice := [.call, .cancel, .take, .run, .run, .run]

/-- That connection is active, but nobody has it. -/
theorem late_connection_lost :
    ∃ world, exec step (start Tls.defaultConfig (some Tls.defaultConfig.buildTLSConfig))
        (lateConnection.map fun choice => (0, choice)) = some world ∧
      (∀ thread, (world.frame thread).waits = false) ∧ world.shared.nextConn = 1 ∧
      world.shared.returned = ∅ ∧ world.shared.shut = ∅ ∧
      world.shared.terminator.activeConnections = 1 ∧ ¬ world.NothingLost := by
  -- One call takes all the steps, so that the run is one of its frame.
  let begun := start Tls.defaultConfig (some Tls.defaultConfig.buildTLSConfig)
  let ended : TLSWorld :=
    ⟨{ (begun.shared.addTotal.addActive 1) with nextConn := 1 },
      Function.update begun.frame 0 (.call .cancelled (.sent (some 0)))⟩
  have ran : exec step begun (lateConnection.map fun choice => (0, choice)) = some ended := by
    rw [Threads.exec_solo]
    rfl
  have idle : ∀ thread, (ended.frame thread).waits = false :=
    Threads.forall_frame_update (fun frame : TLSFrame => frame.waits = false) (fun _ => rfl) rfl
  refine ⟨ended, ran, idle, rfl, rfl, rfl, rfl, ?_⟩
  intro fine
  exact absurd (fine.balanced idle) (by decide)

end TLSWorld

end Balance
