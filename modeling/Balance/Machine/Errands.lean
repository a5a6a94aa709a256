import Balance.Machine.Custody

/-! Errands that are issued one by one, handed on through a queue, and run at most once each. -/

namespace Machine

/-- The errands that wait, those that were run, and how many have been issued. -/
structure Errands where
  queue : List Nat
  finished : List Nat
  issued : Nat

namespace Errands

/-- What one thread, with the given hand before and after, may do to the errands. -/
inductive Move : Errands → Option Nat → Errands → Option Nat → Prop
  | keep (errands : Errands) (hand : Option Nat) : Move errands hand errands hand
  | issue (errands : Errands) :
      Move errands none { errands with issued := errands.issued + 1 } (some errands.issued)
  | give (errands : Errands) (item : Nat) :
      Move errands (some item) { errands with queue := errands.queue ++ [item] } none
  | take {errands : Errands} {item : Nat} {rest : List Nat}
      (front : errands.queue = item :: rest) :
      Move errands none { errands with queue := rest } (some item)
  | finish (errands : Errands) (item : Nat) :
      Move errands (some item) { errands with finished := errands.finished ++ [item] } none
  | drop (errands : Errands) (item : Nat) : Move errands (some item) errands none

/-- Every errand is in one place only, and not run again once it has been run. -/
structure Sound (errands : Errands) (hands : Nat → Option Nat) : Prop where
  custody : Custody errands.queue hands
  once : errands.finished.Nodup
  apart : ∀ item ∈ errands.finished, ¬ Kept errands.queue hands item
  known : ∀ item, Kept errands.queue hands item ∨ item ∈ errands.finished → item < errands.issued

variable {errands next : Errands} {hands : Nat → Option Nat} {thread : Nat}
  {hand after : Option Nat}

/-- Before anything is issued, all is sound. -/
theorem sound_empty : Sound ⟨[], [], 0⟩ fun _ => none where
  custody := ⟨List.nodup_nil, nofun, nofun⟩
  once := List.nodup_nil
  apart := nofun
  known := by
    intro item given
    rcases given with (within | ⟨reader, has⟩) | within
    · cases within
    · cases has
    · cases within

/-- Errands stay sound when nothing is kept that was not kept before. -/
theorem Sound.shrink (sound : Sound errands hands) {queue : List Nat} {fewer : Nat → Option Nat}
    (custody : Custody queue fewer)
    (kept : ∀ item, Kept queue fewer item → Kept errands.queue hands item) :
    Sound { errands with queue := queue } fewer where
  custody := custody
  -- Nothing has been run.
  once := sound.once
  apart := fun item within still => sound.apart item within (kept item still)
  known := by
    intro item given
    rcases given with still | within
    · exact sound.known item (.inl (kept item still))
    · exact sound.known item (.inr within)

/-- Errands stay sound when a thread runs the one in its hands. -/
theorem Sound.finish (sound : Sound errands hands) {item : Nat} (mine : hands thread = some item) :
    Sound { errands with finished := errands.finished ++ [item] }
      (Function.update hands thread none) where
  custody := sound.custody.drop
  -- What is in a thread's hands has not been run before.
  once := by
    rw [← List.concat_eq_append]
    exact sound.once.concat fun within => sound.apart item within (.inr ⟨thread, mine⟩)
  apart := by
    intro other within kept
    obtain ⟨before, differs⟩ := kept.of_drop sound.custody mine
    rcases List.mem_append.mp within with within | last
    · exact sound.apart other within before
    · exact differs (List.mem_singleton.mp last)
  known := by
    intro other given
    rcases given with kept | within
    · exact sound.known other (.inl (kept.of_drop sound.custody mine).1)
    · rcases List.mem_append.mp within with within | last
      · exact sound.known other (.inr within)
      · rw [List.mem_singleton.mp last]
        exact sound.known item (.inl (.inr ⟨thread, mine⟩))

/-- Errands stay sound when a new one is issued. -/
theorem Sound.issue (sound : Sound errands hands) :
    Sound { errands with issued := errands.issued + 1 }
      (Function.update hands thread (some errands.issued)) := by
  -- The new name has not been used, in any place.
  have unused : ¬ (Kept errands.queue hands errands.issued ∨
      errands.issued ∈ errands.finished) :=
    fun given => Nat.lt_irrefl _ (sound.known _ given)
  rw [not_or] at unused
  refine ⟨sound.custody.add unused.1, sound.once, ?_, ?_⟩
  · intro item within kept
    rcases kept.of_add with same | before
    · rw [same] at within
      exact unused.2 within
    · exact sound.apart item within before
  · intro item given
    show item < errands.issued + 1
    rcases given with kept | within
    · rcases kept.of_add with same | before
      · omega
      · have := sound.known item (.inl before)
        omega
    · have := sound.known item (.inr within)
      omega

/-- Whatever a thread may do keeps the errands sound. -/
theorem Sound.move (sound : Sound errands hands) (mine : hands thread = hand)
    (move : Move errands hand next after) : Sound next (Function.update hands thread after) := by
  -- Apart from issuing and running, a move keeps what it does not drop.
  cases move with
  | keep =>
    rw [← mine, Function.update_eq_self]
    exact sound
  | issue => exact sound.issue
  | give item => exact sound.shrink (sound.custody.give mine) fun _ kept => kept.of_give mine
  | @take item rest front =>
    refine sound.shrink ?_ ?_
    · have held := sound.custody
      rw [front] at held
      exact held.take
    · intro other kept
      rw [front]
      exact kept.of_take
  | finish item => exact sound.finish mine
  | drop item =>
    exact sound.shrink sound.custody.drop fun _ kept => (kept.of_drop sound.custody mine).1

/-- No errand that was issued is lost: it waits, is in some hands, or was run. -/
def Whole (errands : Errands) (hands : Nat → Option Nat) : Prop :=
  ∀ item < errands.issued, Kept errands.queue hands item ∨ item ∈ errands.finished

/-- What is kept but not in the hands of the mover is kept by whoever had it. -/
theorem kept_or_mine {item : Nat} (kept : Kept errands.queue hands item) :
    hands thread = some item ∨ item ∈ errands.queue ∨
      ∃ reader, reader ≠ thread ∧ hands reader = some item := by
  rcases kept with queued | ⟨reader, has⟩
  · exact .inr (.inl queued)
  · by_cases same : reader = thread
    · rw [same] at has
      exact .inl has
    · exact .inr (.inr ⟨reader, same, has⟩)

/-- What another thread has in its hands, it still has when this one has moved. -/
theorem kept_elsewhere {queue : List Nat} {item reader : Nat} (differs : reader ≠ thread)
    (has : hands reader = some item) : Kept queue (Function.update hands thread after) item :=
  .inr ⟨reader, by rw [Function.update_of_ne differs, has]⟩

/-- A move that does not drop what is in the mover's hands loses no errand. -/
theorem Whole.move (whole : Whole errands hands) (mine : hands thread = hand)
    (move : Move errands hand next after) (held : next = errands → after = hand) :
    Whole next (Function.update hands thread after) := by
  cases move with
  | keep =>
    rw [← mine, Function.update_eq_self]
    exact whole
  | issue =>
    -- The new errand is in the mover's hands, which were empty.
    intro item below
    by_cases same : item = errands.issued
    · exact .inl (.inr ⟨thread, by rw [Function.update_self, same]⟩)
    · have before : item < errands.issued := by
        have : item < errands.issued + 1 := below
        omega
      rcases whole item before with kept | run
      · rcases kept_or_mine kept with own | queued | ⟨reader, differs, has⟩
        · rw [mine] at own
          cases own
        · exact .inl (.inl queued)
        · exact .inl (kept_elsewhere differs has)
      · exact .inr run
  | give given =>
    intro item below
    rcases whole item below with kept | run
    · rcases kept_or_mine kept with own | queued | ⟨reader, differs, has⟩
      · obtain rfl : given = item := Option.some.inj (mine.symm.trans own)
        exact .inl (.inl (List.mem_append_right _ List.mem_cons_self))
      · exact .inl (.inl (List.mem_append_left _ queued))
      · exact .inl (kept_elsewhere differs has)
    · exact .inr run
  | @take front rest first =>
    intro item below
    rcases whole item below with kept | run
    · rcases kept_or_mine kept with own | queued | ⟨reader, differs, has⟩
      · rw [mine] at own
        cases own
      · rw [first] at queued
        rcases List.mem_cons.mp queued with same | later
        · exact .inl (.inr ⟨thread, by rw [Function.update_self, same]⟩)
        · exact .inl (.inl later)
      · exact .inl (kept_elsewhere differs has)
    · exact .inr run
  | finish run =>
    intro item below
    rcases whole item below with kept | before
    · rcases kept_or_mine kept with own | queued | ⟨reader, differs, has⟩
      · obtain rfl : run = item := Option.some.inj (mine.symm.trans own)
        exact .inr (List.mem_append_right _ List.mem_cons_self)
      · exact .inl (.inl queued)
      · exact .inl (kept_elsewhere differs has)
    · exact .inr (List.mem_append_left _ before)
  | drop => cases held rfl

/-- When nothing waits and all hands are empty, each errand issued was run exactly once. -/
theorem Sound.finished_perm (sound : Sound errands hands) (whole : Whole errands hands)
    (empty : errands.queue = []) (free : ∀ thread, hands thread = none) :
    errands.finished.Perm (List.range errands.issued) := by
  -- Both lists are without repetition and have the same members.
  rw [List.perm_ext_iff_of_nodup sound.once List.nodup_range]
  intro item
  rw [List.mem_range]
  constructor
  · intro run
    exact sound.known item (.inr run)
  · intro below
    rcases whole item below with (queued | ⟨reader, has⟩) | run
    · rw [empty] at queued
      cases queued
    · rw [free] at has
      cases has
    · exact run

end Errands

end Machine
