import Mathlib.Data.String.Basic
import Mathlib.Tactic
import ShelfLibrary.Path

/-!
# The tree of paths

A path lies within another when it continues it after a dot.  This is a partial order in which the
ancestors of a child are its parent and the ancestors of its parent, and it agrees with the segments
of a path.
-/

namespace ShelfLibrary.Path

/-! ## Continuing a path -/

theorem after?_eq_some {front rest tail : List Char} :
    after? front rest = some tail ↔ rest = front ++ tail := by
  induction front generalizing rest with
  | nil => simp [after?, eq_comm]
  | cons c front ih =>
      cases rest with
      | nil => simp [after?]
      | cons d rest =>
          by_cases same : c = d
          · simp [after?, same, ih]
          · simp [after?, same, Ne.symm same]

theorem below?_eq_some {ancestor path rest : String} :
    below? ancestor path = some rest ↔ path = ancestor ++ "." ++ rest := by
  rw [← String.toList_inj, String.toList_append, String.toList_append]
  unfold below?
  cases found : after? ancestor.toList path.toList with
  | none =>
      simp only [reduceCtorEq, false_iff]
      intro continued
      have : after? ancestor.toList path.toList = some ('.' :: rest.toList) := by
        rw [after?_eq_some, continued]
        simp
      simp [found] at this
  | some tail =>
      rw [after?_eq_some] at found
      rw [found, List.append_assoc, List.append_cancel_left_eq]
      cases tail with
      | nil => simp
      | cons c tail =>
          by_cases dot : c = '.'
          · subst dot
            simp [← String.toList_inj]
          · simp [dot]

theorem isWithin_iff {path ancestor : String} :
    isWithin path ancestor = true ↔ path = ancestor ∨ ∃ rest, path = ancestor ++ "." ++ rest := by
  simp only [isWithin, Bool.or_eq_true, beq_iff_eq, Option.isSome_iff_exists, below?_eq_some]

@[simp]
theorem isWithin_self (path : String) : isWithin path path = true :=
  isWithin_iff.mpr (.inl rfl)

theorem isWithin_below (ancestor rest : String) :
    isWithin (ancestor ++ "." ++ rest) ancestor = true :=
  isWithin_iff.mpr (.inr ⟨rest, rfl⟩)

theorem isWithin_trans {path middle ancestor : String} (lower : isWithin path middle = true)
    (upper : isWithin middle ancestor = true) : isWithin path ancestor = true := by
  rcases isWithin_iff.mp lower with rfl | ⟨rest, rfl⟩
  · exact upper
  · rcases isWithin_iff.mp upper with rfl | ⟨between, rfl⟩
    · exact lower
    · refine isWithin_iff.mpr (.inr ⟨between ++ "." ++ rest, ?_⟩)
      simp only [String.append_assoc]

/-- Of two beginnings of a path, the longer one goes on from the shorter one. -/
theorem exists_between {path upper lower outer inner : String}
    (above : path = upper ++ "." ++ outer) (below : path = lower ++ "." ++ inner)
    (shorter : upper.length < lower.length) : ∃ rest, lower = upper ++ "." ++ rest := by
  have upperFront : (upper ++ ".").toList <+: path.toList :=
    ⟨outer.toList, by simp [above, String.toList_append]⟩
  have lowerFront : lower.toList <+: path.toList :=
    ⟨".".toList ++ inner.toList, by simp [below, String.toList_append]⟩
  have length : (upper ++ ".").toList.length ≤ lower.toList.length := by
    simpa [String.toList_append, Nat.succ_le_iff, String.length_toList] using shorter
  obtain ⟨rest, between⟩ := List.prefix_of_prefix_length_le upperFront lowerFront length
  refine ⟨String.ofList rest, ?_⟩
  rw [← String.toList_inj, ← between]
  simp [String.toList_append]

theorem isPrefix_of_isWithin {path ancestor : String} (within : isWithin path ancestor = true) :
    ancestor.toList <+: path.toList := by
  rcases isWithin_iff.mp within with rfl | ⟨rest, rfl⟩
  · exact List.prefix_rfl
  · exact ⟨'.' :: rest.toList, by simp [String.toList_append]⟩

/-! ## Order -/

theorem not_lt_of_isPrefix {start last : List Char} (continued : start <+: last) :
    ¬last < start := by
  induction start generalizing last with
  | nil => exact List.not_lt_nil last
  | cons c start ih =>
      obtain ⟨tail, rfl⟩ := continued
      rw [List.cons_append, List.cons_lt_cons_iff]
      rintro (before | ⟨-, before⟩)
      · exact lt_irrefl c before
      · exact ih (List.prefix_append start tail) before

/-- What lies between a text and a continuation of it begins with the text as well. -/
theorem isPrefix_of_between {start middle last : List Char} (lower : ¬middle < start)
    (upper : middle < last) (continued : start <+: last) : start <+: middle := by
  induction start generalizing middle last with
  | nil => exact List.nil_prefix
  | cons c start ih =>
      obtain ⟨tail, rfl⟩ := continued
      cases middle with
      | nil => exact absurd (List.nil_lt_cons c start) lower
      | cons d middle =>
          rw [List.cons_append, List.cons_lt_cons_iff] at upper
          rw [List.cons_lt_cons_iff, not_or, not_and] at lower
          rcases upper with before | ⟨rfl, upper⟩
          · exact absurd before lower.1
          · exact List.cons_prefix_cons.mpr
              ⟨rfl, ih (lower.2 rfl) upper (List.prefix_append start tail)⟩

/-! ## Validity -/

/-- A character that stands in no name and no path. -/
theorem not_mem_of_isJoined {isSeparator : Char → Bool} {c : Char} (strange : !isAlphanumeric c)
    (apart : isSeparator c = false) {inside : Bool} {chars : List Char}
    (joined : isJoined isSeparator inside chars = true) : c ∉ chars := by
  induction chars generalizing inside with
  | nil => exact List.not_mem_nil
  | cons d rest ih =>
      unfold isJoined at joined
      split at joined
      · rename_i plain
        have different : c ≠ d := by
          rintro rfl
          simp [plain] at strange
        exact List.not_mem_cons_of_ne_of_not_mem different (ih joined)
      · simp only [Bool.and_eq_true] at joined
        have different : c ≠ d := by
          rintro rfl
          simp [apart] at joined
        exact List.not_mem_cons_of_ne_of_not_mem different (ih joined.2)

theorem not_mem_of_isName {name : String} (named : isName name = true) : '.' ∉ name.toList :=
  not_mem_of_isJoined (by decide) (by decide) named

theorem isValid_of_isName {name : String} (named : isName name = true) : isValid name = true := by
  unfold isValid
  have general {inside : Bool} {chars : List Char}
    (joined : isJoined (· == '_') inside chars = true) :
      isJoined (fun c => c == '.' || c == '_') inside chars = true := by
    induction chars generalizing inside with
    | nil => exact joined
    | cons c rest ih =>
        unfold isJoined at joined ⊢
        split
        · rename_i plain
          rw [if_pos plain] at joined
          exact ih joined
        · rename_i strange
          rw [if_neg strange] at joined
          simp only [Bool.and_eq_true] at joined ⊢
          exact ⟨⟨joined.1.1, by simp [joined.1.2]⟩, ih joined.2⟩
  exact general named

theorem isJoined_append {isSeparator : Char → Bool} {c : Char} (strange : !isAlphanumeric c)
    (separates : isSeparator c = true) {inside : Bool} {front back : List Char}
    (joined : isJoined isSeparator inside front = true)
    (rest : isJoined isSeparator false back = true) :
    isJoined isSeparator inside (front ++ c :: back) = true := by
  induction front generalizing inside with
  | nil =>
      have begun : inside = true := joined
      simp only [Bool.not_eq_true'] at strange
      simp [isJoined, strange, begun, separates, rest]
  | cons d front ih =>
      unfold isJoined at joined
      rw [List.cons_append]
      unfold isJoined
      split
      · rename_i plain
        rw [if_pos plain] at joined
        exact ih joined
      · rename_i odd
        rw [if_neg odd] at joined
        simp only [Bool.and_eq_true] at joined ⊢
        exact ⟨joined.1, ih joined.2⟩

theorem isValid_join {parent : Option String} {name : String}
    (around : ∀ path, parent = some path → isValid path = true) (named : isName name = true) :
    isValid (join parent name) = true := by
  cases parent with
  | none => exact isValid_of_isName named
  | some path =>
      have chars : (path ++ "." ++ name).toList = path.toList ++ '.' :: name.toList := by
        simp [String.toList_append]
      change isJoined _ false (path ++ "." ++ name).toList = true
      rw [chars]
      exact isJoined_append (by decide) (by decide) (around path rfl) (isValid_of_isName named)

/-- The ancestors of a child are its parent and the ancestors of its parent. -/
theorem parent_of_join {parent : Option String} {name ancestor rest : String}
    (named : isName name = true) (below : join parent name = ancestor ++ "." ++ rest) :
    ∃ path, parent = some path ∧ isWithin path ancestor = true := by
  have free : '.' ∉ name.toList := not_mem_of_isName named
  cases parent with
  | none =>
      refine absurd ?_ free
      rw [show name = ancestor ++ "." ++ rest from below]
      simp [String.toList_append]
  | some path =>
      refine ⟨path, rfl, isWithin_iff.mpr ?_⟩
      have chars : path.toList ++ '.' :: name.toList = ancestor.toList ++ '.' :: rest.toList := by
        simpa [join, ← String.toList_inj, String.toList_append] using below
      rcases List.append_eq_append_iff.mp chars
        with ⟨between, upper, lower⟩ | ⟨between, upper, lower⟩
      · cases between with
        | nil => exact .inl (by simpa [String.toList_inj] using upper.symm)
        | cons c between =>
            obtain ⟨-, tail⟩ := List.cons.inj lower
            refine absurd ?_ free
            rw [tail]
            simp
      · cases between with
        | nil => exact .inl (by simpa [String.toList_inj] using upper)
        | cons c between =>
            obtain ⟨dot, tail⟩ := List.cons.inj lower
            refine .inr ⟨String.ofList between, ?_⟩
            rw [← String.toList_inj, upper, ← dot]
            simp [String.toList_append]

/-! ## Segments -/

theorem split_ne_nil (separator : Char) (chars : List Char) : split separator chars ≠ [] := by
  cases chars with
  | nil => exact List.cons_ne_nil _ _
  | cons c rest =>
      unfold split
      split
      · exact List.cons_ne_nil _ _
      · split <;> exact List.cons_ne_nil _ _

theorem ofSegments_cons {name : String} {names : List String} (others : names ≠ []) :
    ofSegments (name :: names) = name ++ "." ++ ofSegments names :=
  String.intercalate_cons_of_ne_nil others

theorem ofSegments_append {before after : List String} (front : before ≠ []) (back : after ≠ []) :
    ofSegments (before ++ after) = ofSegments before ++ "." ++ ofSegments after :=
  String.intercalate_append_of_ne_nil front back

theorem ofSegments_segments (path : String) : ofSegments (segments path) = path := by
  have general (chars : List Char) :
      ofSegments ((split '.' chars).map String.ofList) = String.ofList chars := by
    induction chars with
    | nil => rfl
    | cons c rest ih =>
        unfold split
        split
        · rename_i dot
          rw [List.map_cons, ofSegments_cons (by simpa using split_ne_nil '.' rest), ih, dot,
            ← String.toList_inj]
          simp [String.toList_append]
        · cases runs : split '.' rest with
          | nil => exact absurd runs (split_ne_nil '.' rest)
          | cons run others =>
              rw [runs] at ih
              rw [← String.toList_inj] at ih ⊢
              cases others with
              | nil => simpa [ofSegments] using ih
              | cons next others =>
                  rw [List.map_cons, ofSegments_cons (by simp)] at ih ⊢
                  simpa [String.toList_append] using ih
  simpa [segments] using general path.toList

theorem segments_injective {path other : String} (same : segments path = segments other) :
    path = other := by
  rw [← ofSegments_segments path, same, ofSegments_segments]

/-! ## Parents -/

theorem split_append (separator : Char) (front back : List Char) :
    split separator (front ++ separator :: back) =
      split separator front ++ split separator back := by
  induction front with
  | nil => simp [split]
  | cons c front ih =>
      rw [List.cons_append, split, split, ih]
      split
      · rfl
      · cases runs : split separator front with
        | nil => exact absurd runs (split_ne_nil separator front)
        | cons run others => rfl

theorem split_of_not_mem {separator : Char} {chars : List Char} (free : separator ∉ chars) :
    split separator chars = [chars] := by
  induction chars with
  | nil => rfl
  | cons c rest ih =>
      obtain ⟨first, others⟩ := not_or.mp (mt List.mem_cons.mpr free)
      rw [split, if_neg (Ne.symm first), ih others]

theorem segments_of_isName {name : String} (named : isName name = true) :
    segments name = [name] := by
  simp [segments, split_of_not_mem (not_mem_of_isName named)]

/-- The segments of a path are those of what it continues and those of what follows the dot. -/
theorem segments_append (front back : String) :
    segments (front ++ "." ++ back) = segments front ++ segments back := by
  have chars : (front ++ "." ++ back).toList = front.toList ++ '.' :: back.toList := by
    simp [String.toList_append]
  rw [segments, chars, split_append, List.map_append, segments, segments]

theorem segments_below (path : String) {name : String} (named : isName name = true) :
    segments (path ++ "." ++ name) = segments path ++ [name] := by
  rw [segments_append, segments_of_isName named]

theorem segments_ne_nil (path : String) : segments path ≠ [] := by
  simp [segments, split_ne_nil]

/-- The parent of a child is where it was joined to. -/
theorem parent?_join (parent : Option String) {name : String} (named : isName name = true) :
    parent? (join parent name) = parent := by
  cases parent with
  | none => simp [join, parent?, segments_of_isName named]
  | some path =>
      have nonempty := segments_ne_nil path
      unfold join parent?
      rw [segments_below path named, List.dropLast_concat]
      split
      · contradiction
      · rw [ofSegments_segments]

/-- A path lies below its parent. -/
theorem exists_of_parent? {path parent : String} (above : parent? path = some parent) :
    ∃ name, path = parent ++ "." ++ name := by
  unfold parent? at above
  split at above
  · cases above
  · rename_i nonempty
    obtain rfl := Option.some.inj above
    refine ⟨ofSegments [(segments path).getLast (segments_ne_nil path)], ?_⟩
    rw [← ofSegments_append nonempty (List.cons_ne_nil _ _),
      List.dropLast_append_getLast, ofSegments_segments]

end ShelfLibrary.Path
