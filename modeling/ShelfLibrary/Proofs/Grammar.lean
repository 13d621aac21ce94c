import ShelfLibrary.Proofs.Invariant

/-!
# The grammar of paths

A text is a path if what stands between its dots and underscores are words.  It is a path as well if
what stands between its dots are names, so that paths and lists of names are the same: to join is to
append, to lie within is to go on after, and nothing is lost where slashes stand for dots.
-/

namespace ShelfLibrary.Path

variable {path ancestor name s : String}

/-! ## Words -/

/-- Whether characters are a word: letters and digits of ASCII, one at least. -/
def IsWord (chars : List Char) : Prop :=
  chars ≠ [] ∧ ∀ c ∈ chars, c.isAlphanum = true

instance (chars : List Char) : Decidable (IsWord chars) :=
  inferInstanceAs (Decidable (chars ≠ [] ∧ ∀ c ∈ chars, c.isAlphanum = true))

/-- What stands between the dots and underscores of a text, from its beginning to its end. -/
def pieces (s : String) : List (List Char) :=
  s.toList.splitOnP fun c => c == '.' || c == '_'

theorem isAlphanumeric_eq (c : Char) : isAlphanumeric c = c.isAlphanum := by
  have upper : c.isUpper = ('A' ≤ c && c ≤ 'Z') := Bool.decide_and ('A' ≤ c) (c ≤ 'Z')
  calc
    isAlphanumeric c = (c.isLower || ('A' ≤ c && c ≤ 'Z') || c.isDigit) := rfl
    _ = (c.isUpper || c.isLower || c.isDigit) := by rw [← upper, Bool.or_comm c.isLower]
    _ = c.isAlphanum := rfl

theorem isJoined_cons (isSeparator : Char → Bool) (inside : Bool) (c : Char) (rest : List Char) :
    isJoined isSeparator inside (c :: rest) =
      if isAlphanumeric c then isJoined isSeparator true rest
      else inside && isSeparator c && isJoined isSeparator false rest := rfl

/-- Characters are joined words if what stands between their separators are words, of which the
first may have begun before. -/
theorem isJoined_iff_splitOnP {isSeparator : Char → Bool}
    (apart : ∀ c, isSeparator c = true → isAlphanumeric c = false) {inside : Bool}
    {chars first : List Char} {others : List (List Char)}
    (runs : chars.splitOnP isSeparator = first :: others) :
    isJoined isSeparator inside chars = true ↔
      (inside = false → first ≠ []) ∧ (∀ c ∈ first, c.isAlphanum = true) ∧
        ∀ piece ∈ others, IsWord piece := by
  induction chars generalizing inside first others with
  | nil =>
      obtain ⟨rfl, rfl⟩ := List.cons.inj runs
      simp [isJoined]
  | cons c rest ih =>
      obtain ⟨next, more, onward⟩ :=
        List.exists_cons_of_ne_nil (List.splitOnP_ne_nil isSeparator rest)
      rw [List.splitOnP_cons_eq_if_modifyHead, onward] at runs
      rw [isJoined_cons]
      by_cases separates : isSeparator c = true
      · -- The first piece ends here, so that a word has to have begun before.
        rw [if_pos separates] at runs
        obtain ⟨rfl, rfl⟩ := List.cons.inj runs
        simp [apart c separates, separates, ih onward, IsWord, and_assoc]
      · rw [if_neg separates, List.modifyHead_cons] at runs
        obtain ⟨rfl, rfl⟩ := List.cons.inj runs
        cases plain : isAlphanumeric c with
        | true => simp [ih onward, ← isAlphanumeric_eq, plain]
        | false => simp [separates, ← isAlphanumeric_eq, plain]

theorem isValid_iff_pieces : isValid s = true ↔ ∀ piece ∈ pieces s, IsWord piece := by
  obtain ⟨first, others, runs⟩ := List.exists_cons_of_ne_nil
    (List.splitOnP_ne_nil (fun c => c == '.' || c == '_') s.toList)
  have apart (c : Char) (separates : (c == '.' || c == '_') = true) : isAlphanumeric c = false := by
    simp only [Bool.or_eq_true, beq_iff_eq] at separates
    rcases separates with rfl | rfl <;> decide
  rw [isValid, isJoined_iff_splitOnP apart runs, pieces, runs, List.forall_mem_cons, IsWord,
    and_assoc]
  simp

/-! ## Names -/

/-- Characters are joined at dots and underscores if what stands between their dots is joined at
underscores. -/
theorem isJoined_iff_split {inside : Bool} {chars first : List Char} {others : List (List Char)}
    (runs : split '.' chars = first :: others) :
    isJoined (fun c => c == '.' || c == '_') inside chars = true ↔
      isJoined (· == '_') inside first = true ∧
        ∀ other ∈ others, isJoined (· == '_') false other = true := by
  induction chars generalizing inside first others with
  | nil =>
      obtain ⟨rfl, rfl⟩ := List.cons.inj runs
      simp [isJoined]
  | cons c rest ih =>
      obtain ⟨next, more, onward⟩ := List.exists_cons_of_ne_nil (split_ne_nil '.' rest)
      rw [split, onward] at runs
      by_cases dot : c = '.'
      · rw [if_pos dot] at runs
        obtain ⟨rfl, rfl⟩ := List.cons.inj runs
        have strange : isAlphanumeric '.' = false := by decide
        simp [isJoined, strange, dot, ih onward]
      · rw [if_neg dot] at runs
        obtain ⟨rfl, rfl⟩ := List.cons.inj runs
        rw [isJoined_cons, isJoined_cons]
        cases plain : isAlphanumeric c <;> simp [dot, ih onward, and_assoc]

/-- A text is a path if its segments are names. -/
theorem isValid_iff_segments : isValid s = true ↔ ∀ name ∈ segments s, isName name = true := by
  obtain ⟨first, others, runs⟩ := List.exists_cons_of_ne_nil (split_ne_nil '.' s.toList)
  rw [isValid, isJoined_iff_split runs, segments, runs, List.map_cons, List.forall_mem_cons,
    List.forall_mem_map]
  simp only [isName, String.toList_ofList]

theorem isName_iff : isName s = true ↔ isValid s = true ∧ '.' ∉ s.toList := by
  refine ⟨fun named => ⟨isValid_of_isName named, not_mem_of_isName named⟩, fun ⟨valid, free⟩ => ?_⟩
  have alone : segments s = [s] := by simp [segments, split_of_not_mem free]
  exact isValid_iff_segments.mp valid s (by rw [alone]; exact List.mem_singleton_self s)

/-! ## Order -/

/-- A path lies within another if its segments go on after those of the other. -/
theorem isWithin_iff_segments :
    isWithin path ancestor = true ↔ segments ancestor <+: segments path := by
  rw [isWithin_iff]
  constructor
  · rintro (rfl | ⟨rest, rfl⟩)
    · exact List.prefix_rfl
    · rw [segments_append]
      exact List.prefix_append _ _
  · rintro ⟨rest, whole⟩
    by_cases last : rest = []
    · rw [last, List.append_nil] at whole
      exact .inl (segments_injective whole.symm)
    · refine .inr ⟨ofSegments rest, ?_⟩
      calc
        path = ofSegments (segments path) := (ofSegments_segments path).symm
        _ = ofSegments (segments ancestor ++ rest) := by rw [whole]
        _ = ofSegments (segments ancestor) ++ "." ++ ofSegments rest :=
          ofSegments_append (segments_ne_nil ancestor) last
        _ = ancestor ++ "." ++ ofSegments rest := by rw [ofSegments_segments]

theorem isPartialOrder_isWithin :
    IsPartialOrder String fun path ancestor => isWithin path ancestor = true where
  refl := isWithin_self
  trans _ _ _ := isWithin_trans
  antisymm _ _ lower upper :=
    segments_injective ((isWithin_iff_segments.mp upper).eq_of_length_le
      (isWithin_iff_segments.mp lower).length_le)

/-! ## All together -/

/-- Paths are lists of names: words between dots and underscores make a path, and a name if no dot
is among them; segments are names and are joined to the path again; a child has one segment more;
to lie within is to begin with, which is an order; and paths have locations of their own. -/
theorem paths_are_names :
    (∀ s, isValid s = true ↔ ∀ piece ∈ pieces s, IsWord piece) ∧
    (∀ s, isName s = true ↔ isValid s = true ∧ '.' ∉ s.toList) ∧
    (∀ path, isValid path = true →
      (∀ name ∈ segments path, isName name = true) ∧ ofSegments (segments path) = path) ∧
    (∀ path name, isValid path = true → isName name = true →
      isValid (join (some path) name) = true ∧
        segments (join (some path) name) = segments path ++ [name] ∧
        parent? (join (some path) name) = some path) ∧
    (∀ path ancestor, isWithin path ancestor = true ↔ segments ancestor <+: segments path) ∧
    (IsPartialOrder String fun path ancestor => isWithin path ancestor = true) ∧
    Set.InjOn Location.ofKey {path | isValid path = true} ∧
    Set.InjOn (fun path => (Location.ofKey path).path) {path | isValid path = true} := by
  refine ⟨fun s => isValid_iff_pieces, fun s => isName_iff, fun path valid => ?_,
    fun path name valid named => ?_, fun path ancestor => isWithin_iff_segments,
    isPartialOrder_isWithin, fun path valid other also same => ?_,
    fun path valid other also => Location.placeOf_injective valid also⟩
  · exact ⟨isValid_iff_segments.mp valid, ofSegments_segments path⟩
  · refine ⟨isValid_join ?_ named, segments_below path named, parent?_join (some path) named⟩
    rintro other ⟨rfl⟩
    exact valid
  · exact Location.placeOf_injective valid also (congrArg Location.path same)

/-- A path of two words and one more, and a name below it. -/
theorem paths_are_names_zoo :
    isValid "zoo_1.cats" = true ∧ isName "Tom_2" = true ∧
      (∀ piece ∈ pieces "zoo_1.cats", IsWord piece) ∧ segments "zoo_1.cats" = ["zoo_1", "cats"] ∧
      isName "zoo_1" = true ∧ isName "cats" = true ∧
      isValid (join (some "zoo_1.cats") "Tom_2") = true ∧
      segments (join (some "zoo_1.cats") "Tom_2") = ["zoo_1", "cats", "Tom_2"] ∧
      parent? (join (some "zoo_1.cats") "Tom_2") = some "zoo_1.cats" ∧
      isWithin "zoo_1.cats" "zoo_1" = true ∧ isWithin "zoo_1.cats" "zoo" = false := by
  obtain ⟨words, -, names, below, within, -⟩ := paths_are_names
  have valid : isValid "zoo_1.cats" = true := by decide
  have named : isName "Tom_2" = true := by decide
  have parts : segments "zoo_1.cats" = ["zoo_1", "cats"] := by decide
  obtain ⟨segmentsNamed, -⟩ := names _ valid
  obtain ⟨child, longer, back⟩ := below _ _ valid named
  rw [parts] at segmentsNamed longer
  refine ⟨valid, named, (words _).mp valid, parts, segmentsNamed _ (by simp),
    segmentsNamed _ (by simp), child, longer, back, (within _ _).mpr ?_, ?_⟩
  · rw [parts]
    decide
  · rw [Bool.eq_false_iff, ne_eq, within, parts]
    decide

end ShelfLibrary.Path
