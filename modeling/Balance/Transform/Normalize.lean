import Balance.Go.Ranging
import Balance.Transform.Headers

/-! Header names in lower case, and the values that meet on the way there. -/

namespace Balance

open Machine Go

/-- A way to write a text in lower case, where it stays the same if it is written so again. -/
structure Lowering where
  toLower : List UInt8 → List UInt8
  idempotent : ∀ text, toLower (toLower text) = toLower text

/-- A header map whose names may be spelled in any way. -/
abbrev RawHeader := List UInt8 → Option (List (List UInt8))

namespace RawHeader

/-- The values under a name. -/
def valuesAt (header : RawHeader) (name : List UInt8) : List (List UInt8) := (header name).getD []

section Loop

variable (lowering : Lowering)

/-- One round of the loop: the values move to the name in lower case, in place of any there. -/
def normalizeKey (header : RawHeader) (key : List UInt8) : RawHeader :=
  if key ≠ lowering.toLower key then
    let values := valuesAt header key
    Function.update (Function.update header key none) (lowering.toLower key) (some values)
  else header

/-- The header maps that normalizing one may leave, since the order of the loop is open. -/
def NormalizesTo {header : RawHeader} (scan : Scan header) (final : RawHeader) : Prop :=
  ∃ order, Ranging.Ends (normalizeKey lowering) scan order final

/-- The values of all names that are the same in lower case. -/
def allValues {header : RawHeader} (scan : Scan header) (name : List UInt8) : List (List UInt8) :=
  (scan.order.filter fun key => lowering.toLower key = name).flatMap (valuesAt header)

/-- The name whose values are last to be written under a name in lower case. -/
def source (order : List (List UInt8)) (name : List UInt8) : List UInt8 :=
  (order.reverse.find? fun key => key ≠ name ∧ lowering.toLower key = name).getD name

/-- What the map holds after some names have been produced. -/
structure Moved (header : RawHeader) (order : List (List UInt8)) (contents : RawHeader) : Prop where
  upper : ∀ key, lowering.toLower key ≠ key →
    contents key = if key ∈ order then none else header key
  lower : ∀ name, lowering.toLower name = name → contents name = header (source lowering order name)
  met : ∀ key ∈ order, lowering.toLower key ≠ key → (header key).isSome

end Loop

variable {lowering : Lowering} {header contents : RawHeader} {order : List (List UInt8)}
  {key name : List UInt8}

/-- The last name that is written in lower case as another one gives that its values. -/
theorem source_concat (order : List (List UInt8)) (key name : List UInt8) :
    source lowering (order ++ [key]) name =
      if key ≠ name ∧ lowering.toLower key = name then key else source lowering order name := by
  -- The names are searched from the last one on.
  rw [source, List.reverse_concat, List.find?_cons]
  split
  case h_1 found =>
    rw [if_pos (of_decide_eq_true found)]
    rfl
  case h_2 missed =>
    rw [if_neg (of_decide_eq_false missed)]
    rfl

variable (lowering) in
/-- The name whose values are last is that name itself, or one that was produced. -/
theorem source_spec (order : List (List UInt8)) (name : List UInt8) :
    source lowering order name = name ∧
        (∀ key ∈ order, lowering.toLower key = name → key = name) ∨
      source lowering order name ∈ order ∧
        lowering.toLower (source lowering order name) ≠ source lowering order name ∧
        lowering.toLower (source lowering order name) = name := by
  -- The search finds nothing, or a name that was produced.
  rw [source]
  rcases found : order.reverse.find? fun key => key ≠ name ∧ lowering.toLower key = name
    with _ | last
  · left
    refine ⟨rfl, ?_⟩
    intro key member same
    have missed := List.find?_eq_none.mp found key (List.mem_reverse.mpr member)
    simpa [same] using missed
  · right
    have passes : last ≠ name ∧ lowering.toLower last = name := by
      simpa using List.find?_some found
    refine ⟨List.mem_reverse.mp (List.mem_of_find?_eq_some found), ?_, passes.2⟩
    exact fun lower => passes.1 (lower.symm.trans passes.2)

/-- Before the loop, nothing has moved. -/
theorem moved_nil (header : RawHeader) : Moved lowering header [] header where
  upper := by simp
  lower := fun _ _ => rfl
  met := by simp

/-- A name that is in lower case stays where it is. -/
theorem Moved.stay (moved : Moved lowering header order contents)
    (same : lowering.toLower key = key) :
    Moved lowering header (order ++ [key]) contents := by
  -- The name is neither one that moves nor one that gives its values to another.
  refine ⟨?_, ?_, ?_⟩
  · intro other upper
    have differs : other ≠ key := fun equal => upper (equal ▸ same)
    rw [moved.upper other upper]
    simp [differs]
  · intro name lower
    rw [source_concat, if_neg, moved.lower name lower]
    rintro ⟨differs, equal⟩
    exact differs (same.symm.trans equal)
  · intro other member upper
    rcases List.mem_append.mp member with earlier | last
    · exact moved.met other earlier upper
    · rw [List.mem_singleton.mp last] at upper
      exact absurd same upper

/-- A name that is not in lower case gives its values to the one that is. -/
theorem Moved.move (moved : Moved lowering header order contents) (present : (contents key).isSome)
    (upper : lowering.toLower key ≠ key) :
    Moved lowering header (order ++ [key])
      (Function.update (Function.update contents key none) (lowering.toLower key)
        (some (valuesAt contents key))) := by
  -- The name has not been produced yet, since it would have lost its entry.
  have fresh : key ∉ order := by
    intro member
    rw [moved.upper key upper, if_pos member] at present
    cases present
  have held : contents key = header key := by rw [moved.upper key upper, if_neg fresh]
  refine ⟨?_, ?_, ?_⟩
  · intro other otherUpper
    have away : other ≠ lowering.toLower key := by
      rintro rfl
      exact otherUpper (lowering.idempotent key)
    rw [Function.update_of_ne away, Function.update_apply, moved.upper other otherUpper]
    by_cases same : other = key <;> simp [same]
  · intro name lower
    have differs : name ≠ key := by
      rintro rfl
      exact upper lower
    rw [source_concat]
    by_cases reached : lowering.toLower key = name
    · rw [if_pos ⟨differs.symm, reached⟩, reached, Function.update_self, valuesAt, held]
      rw [held] at present
      obtain ⟨values, found⟩ := Option.isSome_iff_exists.mp present
      rw [found]
      rfl
    · rw [if_neg (fun both => reached both.2), Function.update_of_ne (Ne.symm reached),
        Function.update_of_ne differs, moved.lower name lower]
  · intro other member otherUpper
    rcases List.mem_append.mp member with earlier | last
    · exact moved.met other earlier otherUpper
    · rw [List.mem_singleton.mp last, ← held]
      exact present

/-- One round of the loop keeps track of what has moved. -/
theorem Moved.normalizeKey (moved : Moved lowering header order contents)
    (present : (contents key).isSome) :
    Moved lowering header (order ++ [key]) (normalizeKey lowering contents key) := by
  rw [RawHeader.normalizeKey]
  split
  case isTrue upper => exact moved.move present (Ne.symm upper)
  case isFalse lower => exact moved.stay (not_not.mp lower).symm

/-- A round of the loop removes no entry but the one that it is at. -/
theorem spares_normalizeKey (lowering : Lowering) : Ranging.Spares (normalizeKey lowering) := by
  intro contents key other differs present
  rw [normalizeKey]
  split
  · rw [Function.update_apply, Function.update_of_ne differs]
    split
    · rfl
    · exact present
  · exact present

variable {scan : Scan header} {final : RawHeader}

/-- The loop has moved what it has produced. -/
theorem moved_exec {state : Ranging (List UInt8) (List (List UInt8))}
    (ran : exec (Ranging.step (normalizeKey lowering)) (Ranging.start scan) order = some state) :
    Moved lowering header order state.contents := by
  -- The names are produced one after the other.
  refine exec_history (fun order state => Moved lowering header order state.contents)
    (moved_nil header) ?_ ran
  intro past before key next _ moved taken
  obtain ⟨⟨present, _⟩, rfl⟩ := Ranging.step_eq_some.mp taken
  exact moved.normalizeKey present

/-- Once the loop has ended, it has produced all names and moved them. -/
theorem moved_of_ends (ends : Ranging.Ends (normalizeKey lowering) scan order final) :
    Moved lowering header order final ∧ ∀ key, (header key).isSome → key ∈ order := by
  -- A name that was not produced would still be due.
  obtain ⟨state, ran, done, rfl⟩ := ends
  refine ⟨moved_exec ran, ?_⟩
  intro key present
  by_contra fresh
  have waits := ((Ranging.due_exec (spares_normalizeKey lowering) ran).due key).mpr ⟨present, fresh⟩
  rw [done] at waits
  cases waits

/-- Every name is in lower case once the loop has ended. -/
theorem lower_of_ends (ends : Ranging.Ends (normalizeKey lowering) scan order final)
    (present : (final key).isSome) : lowering.toLower key = key := by
  -- Any other name has been produced, and has lost its entry.
  obtain ⟨moved, all⟩ := moved_of_ends ends
  by_contra upper
  rw [moved.upper key upper] at present
  split at present
  case isTrue => cases present
  case isFalse fresh => exact fresh (all key present)

/-- The values of one of several names are those of all only if the others have none. -/
theorem perm_flatMap_iff {keys : List (List UInt8)} (once : keys.Nodup) (member : key ∈ keys) :
    (valuesAt header key).Perm (keys.flatMap (valuesAt header)) ↔
      ∀ other ∈ keys, other ≠ key → valuesAt header other = [] := by
  -- The values of the name can be taken from both sides.
  have split := (List.perm_cons_erase member).flatMap_right (valuesAt header)
  rw [List.flatMap_cons] at split
  have cancels (rest : List (List UInt8)) :
      (valuesAt header key).Perm (valuesAt header key ++ rest) ↔ rest = [] := by
    have plain : (valuesAt header key ++ []).Perm (valuesAt header key ++ rest) ↔ [].Perm rest :=
      List.perm_append_left_iff _
    simpa using plain
  rw [split.congr_right, cancels, List.flatMap_eq_nil_iff]
  simp only [once.mem_erase_iff, and_imp]
  exact forall_congr' fun other => forall_comm

/-- All values are those of one name if no other has any. -/
theorem perm_of_alone {keys : List (List UInt8)} (once : keys.Nodup)
    (others : ∀ other ∈ keys, other ≠ key → valuesAt header other = [])
    (absent : key ∉ keys → valuesAt header key = []) :
    (valuesAt header key).Perm (keys.flatMap (valuesAt header)) := by
  by_cases member : key ∈ keys
  · exact (perm_flatMap_iff once member).mpr others
  · have empty : keys.flatMap (valuesAt header) = [] := by
      rw [List.flatMap_eq_nil_iff]
      intro other listed
      exact others other listed fun same => member (same ▸ listed)
    rw [absent member, empty]

variable (lowering) in
/-- Two different names that are one in lower case. -/
structure Meets (header : RawHeader) (key other : List UInt8) : Prop where
  present : (header key).isSome
  otherPresent : (header other).isSome
  differs : other ≠ key
  same : lowering.toLower other = lowering.toLower key

/-- The names that are the same in lower case are those of the map. -/
theorem mem_filter_order (scan : Scan header) :
    key ∈ scan.order.filter (fun key => lowering.toLower key = name) ↔
      (header key).isSome ∧ lowering.toLower key = name := by
  rw [List.mem_filter, scan.registered, decide_eq_true_iff]

/-- The values stay together if no name that moves meets one that has values. -/
theorem perm_of_ends (apart : ∀ key other, Meets lowering header key other →
      lowering.toLower key ≠ key → valuesAt header other = [])
    (ends : Ranging.Ends (normalizeKey lowering) scan order final)
    (lower : lowering.toLower name = name) :
    (valuesAt final name).Perm (allValues lowering scan name) := by
  obtain ⟨moved, all⟩ := moved_of_ends ends
  have held : valuesAt final name = valuesAt header (source lowering order name) := by
    rw [valuesAt, moved.lower name lower, valuesAt]
  rw [held]
  -- The values under the name come from the last name that moved there, or were there before.
  refine perm_of_alone (scan.once.filter _) ?_ ?_
  · intro other listed differs
    obtain ⟨present, same⟩ := mem_filter_order scan |>.mp listed
    rcases source_spec lowering order name with ⟨stays, alone⟩ | ⟨member, upper, equal⟩
    · exact absurd ((alone other (all other present) same).trans stays.symm) differs
    · exact apart _ other ⟨moved.met _ member upper, present, differs, same.trans equal.symm⟩ upper
  · intro absent
    rcases source_spec lowering order name with ⟨stays, _⟩ | ⟨member, upper, equal⟩
    · rw [stays] at absent ⊢
      have missing : ¬ (header name).isSome := fun present =>
        absent ((mem_filter_order scan).mpr ⟨present, lower⟩)
      rw [valuesAt, Option.not_isSome_iff_eq_none.mp missing, Option.getD_none]
    · exact absurd ((mem_filter_order scan).mpr ⟨moved.met _ member upper, equal⟩) absent

/-- A name that moves may be the last to be produced, and then all values there are its own. -/
theorem exists_ends_last (lowering : Lowering) (scan : Scan header) (present : (header key).isSome)
    (upper : lowering.toLower key ≠ key) :
    ∃ final, NormalizesTo lowering scan final ∧
      valuesAt final (lowering.toLower key) = valuesAt header key := by
  -- The other names are produced first.
  have perm : (scan.order.erase key ++ [key]).Perm scan.order :=
    (List.perm_append_singleton key _).trans
      (List.perm_cons_erase ((scan.registered key).mpr present)).symm
  obtain ⟨final, ends⟩ := Ranging.exists_ends (spares_normalizeKey lowering) perm
  refine ⟨final, ⟨_, ends⟩, ?_⟩
  have held := (moved_of_ends ends).1.lower _ (lowering.idempotent key)
  rw [source_concat, if_pos ⟨upper.symm, rfl⟩] at held
  rw [valuesAt, held, valuesAt]

/--
Normalizing loses nothing just if no name that moves meets a name that has values.

A name moves if it is not in lower case, and then its values replace those of the others.
-/
theorem normalizeHeaders_keeps_values_iff (lowering : Lowering) {header : RawHeader}
    (scan : Scan header) :
    (∀ final, NormalizesTo lowering scan final →
      (∀ key, (final key).isSome → lowering.toLower key = key) ∧
        ∀ name, lowering.toLower name = name →
          (valuesAt final name).Perm (allValues lowering scan name)) ↔
      ∀ key other, Meets lowering header key other → lowering.toLower key ≠ key →
        valuesAt header other = [] := by
  constructor
  · intro keeps key other meets upper
    -- The values of the name that moves last are all that is left.
    obtain ⟨final, normalizes, held⟩ := exists_ends_last lowering scan meets.present upper
    have perm := (keeps final normalizes).2 _ (lowering.idempotent key)
    rw [held, allValues, perm_flatMap_iff (scan.once.filter _)
      ((mem_filter_order scan).mpr ⟨meets.present, rfl⟩)] at perm
    exact perm other ((mem_filter_order scan).mpr ⟨meets.otherPresent, meets.same⟩) meets.differs
  · rintro apart final ⟨order, ends⟩
    exact ⟨fun key present => lower_of_ends ends present,
      fun name lower => perm_of_ends apart ends lower⟩

/-- A byte in lower case stays the same. -/
theorem lower_lower (byte : UInt8) : lower (lower byte) = lower byte := by
  by_cases capital : isUpper byte
  · have settled : ¬ isUpper (byte + 32) := fun again =>
      not_isLower_of_isUpper again (isLower_add capital)
    simp [lower, capital, settled]
  · simp [lower, capital]

/-- Lower case for texts in ASCII. -/
def asciiLowering : Lowering where
  toLower := List.map lower
  idempotent := by
    intro text
    rw [List.map_map]
    exact List.map_congr_left fun byte _ => lower_lower byte

/-- A map with two cookies, under two spellings of one name. -/
def twoCookies : RawHeader := fun name =>
  if name = bytesOf "Set-Cookie" then some [bytesOf "a=1"]
  else if name = bytesOf "set-cookie" then some [bytesOf "b=2"]
  else none

/-- The two names of the map. -/
def twoCookiesScan : Scan twoCookies where
  order := [bytesOf "Set-Cookie", bytesOf "set-cookie"]
  once := by decide +kernel
  registered := by
    intro key
    rw [twoCookies]
    split_ifs <;> simp_all

/-- The cookie that was in lower case is lost, since the other one takes its place. -/
theorem cookie_overwritten :
    ∃ final, NormalizesTo asciiLowering twoCookiesScan final ∧
      valuesAt final (bytesOf "set-cookie") = [bytesOf "a=1"] ∧
      allValues asciiLowering twoCookiesScan (bytesOf "set-cookie") =
        [bytesOf "a=1", bytesOf "b=2"] := by
  have written : asciiLowering.toLower (bytesOf "Set-Cookie") = bytesOf "set-cookie" := by
    decide +kernel
  have present : (twoCookies (bytesOf "Set-Cookie")).isSome := by decide +kernel
  obtain ⟨final, normalizes, held⟩ :=
    exists_ends_last asciiLowering twoCookiesScan present (by decide +kernel)
  rw [written] at held
  exact ⟨final, normalizes, held, by decide +kernel⟩

end RawHeader

end Balance
