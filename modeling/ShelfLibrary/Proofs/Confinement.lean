import ShelfLibrary.Proofs.Entries
import ShelfLibrary.Proofs.Places

/-!
# Shelves stay in their directory

Whatever place a location names, the file of its shelf lies inside the directory of the shelves, or
the place is refused.  The exception is the location of the empty key: its place has no parts, so
that the directory itself is given the ending of a file and the file stands beside it.
-/

namespace ShelfLibrary

namespace FilePath

/-- Whether a text names an entry of a directory, other than the directory itself and the one around
it. -/
structure IsEntryName (name : String) : Prop where
  /-- It has characters. -/
  nonempty : name ≠ ""
  /-- It does not name the directory. -/
  ne_self : name ≠ "."
  /-- It does not name the directory around it. -/
  ne_parent : name ≠ ".."
  /-- It leads no further than the entry. -/
  free : '/' ∉ name.toList

/-- Whether a path lies strictly inside a directory: names of entries lead on from there. -/
def IsInside (directory path : FilePath) : Prop :=
  ∃ names, names ≠ [] ∧ path = directory ++ names ∧ ∀ name ∈ names, IsEntryName name

/-- The name of an entry remains one with an ending. -/
theorem IsEntryName.ended {name : String} (entry : IsEntryName name) :
    IsEntryName (name ++ ".shelf") := by
  have other {text : String} (apart : text.toList.getLast? ≠ some 'f') :
      name ++ ".shelf" ≠ text := by
    rintro rfl
    simp [String.toList_append] at apart
  refine ⟨other (by decide), other (by decide), other (by decide), ?_⟩
  rw [String.toList_append, List.mem_append]
  exact not_or.mpr ⟨entry.free, by decide⟩

end FilePath

namespace Location

/-- The ways in which a location arises: from a path and a key, from a key alone, and from a
document. -/
inductive Arises : Location → Prop
  | ofParts {path key : String} {location : Location} (made : make path key = .ok location) :
    Arises location
  | ofKey (key : String) : Arises (.ofKey key)
  | ofDocument {surplus : Nat → Nat → DecodeError} {found : Json} {location : Location}
    (read : decodeWith surplus found = .ok location) : Arises location

theorem IsMade.path_ne_empty {location : Location} (made : location.IsMade) :
    location.path ≠ "" := by
  intro empty
  have solid := made.path
  rw [empty, Text.isBlankText_empty] at solid
  cases solid

/-- Of all locations, only that of the empty key has an empty place. -/
theorem Arises.path_eq_empty_iff {location : Location} (arises : location.Arises) :
    location.path = "" ↔ location = .ofKey "" := by
  have made (made : location.IsMade) : location.path = "" ↔ location = .ofKey "" := by
    refine ⟨fun empty => absurd empty made.path_ne_empty, ?_⟩
    rintro rfl
    exact absurd rfl made.path_ne_empty
  cases arises with
  | ofParts parts => exact made (isMade_of_make parts)
  | ofKey key =>
      refine ⟨fun empty => ?_, congrArg Location.path⟩
      rw [placeOf_eq_empty_iff.mp empty]
  | ofDocument read =>
      obtain ⟨_, -, parts⟩ := Decoder.refining_eq_ok read
      exact made (isMade_of_make parts)

end Location

namespace DiskStores

open FilePath (IsEntryName IsInside)

namespace ShelfFile

theorem isVoid_of_getLast? {parts : List String} {part : String}
    (last : (withoutVoidEnd parts).getLast? = some part) : isVoid part = false := by
  rw [withoutVoidEnd, List.getLast?_reverse] at last
  have first := List.head?_dropWhile_not isVoid parts.reverse
  rw [last] at first
  simpa using first

/-- The parts of a plain place that is not empty: the first of them and all that are not void name
entries. -/
theorem entries_of_isPlain {place : String} (nonempty : place ≠ "")
    (plain : isPlain (partsOf place) = true) :
    ∃ first rest, partsOf place = first :: rest ∧ isVoid first = false ∧
      ∀ part ∈ first :: rest, isVoid part = false → IsEntryName part := by
  have free {part : String} (member : part ∈ partsOf place) : '/' ∉ part.toList := by
    rw [partsOf, if_neg nonempty] at member
    obtain ⟨run, listed, rfl⟩ := List.mem_map.mp member
    simpa using fun inside => (Path.mem_of_mem_split listed inside).2 rfl
  cases parts : partsOf place with
  | nil =>
      rw [partsOf, if_neg nonempty, List.map_eq_nil_iff] at parts
      exact absurd parts (Path.split_ne_nil _ _)
  | cons first rest =>
      rw [parts] at plain free
      simp only [isPlain, Bool.and_eq_true, Bool.not_eq_true', List.all_eq_true,
        bne_iff_ne] at plain
      refine ⟨first, rest, rfl, plain.1, fun part member solid => ?_⟩
      simp only [isVoid, Bool.or_eq_false_iff, beq_eq_false_iff_ne] at solid
      exact ⟨solid.1, solid.2, plain.2 part member, free member⟩

/-- From the directory of the shelves, names of entries lead to the file of a place that is not
empty. -/
theorem entries_of_ofPlace? {root place : String} {file : ShelfFile} (nonempty : place ≠ "")
    (found : ofPlace? root place = some file) :
    IsEntryName file.name ∧ ∃ folders, file.directory = shelvesPath ++ folders ∧
      ∀ folder ∈ folders, IsEntryName folder := by
  have shelves : isVoid shelvesName = false := by decide
  unfold ofPlace? at found
  simp only at found
  split at found
  · cases found
  rename_i plain
  obtain ⟨first, rest, parts, solid, entries⟩ :=
    entries_of_isPlain nonempty (by simpa using plain)
  have whole : withoutVoidEnd (shelvesPath ++ partsOf place) =
      shelvesName :: first :: withoutVoidEnd rest := by
    rw [parts, ← withoutVoidEnd_cons solid, ← withoutVoidEnd_cons shelves]
    rfl
  have inside {part : String} (member : part ∈ first :: withoutVoidEnd rest) :
      part ∈ first :: rest :=
    List.cons_subset_cons first (fun _ => mem_of_mem_withoutVoidEnd) member
  split at found
  · cases found
  rename_i name last
  obtain rfl := Option.some.inj found
  have named := isVoid_of_getLast? last
  rw [whole] at last ⊢
  rw [List.getLast?_cons_cons] at last
  have around : withoutVoidEnd (shelvesName :: first :: withoutVoidEnd rest).dropLast =
      shelvesName :: withoutVoidEnd (first :: withoutVoidEnd rest).dropLast :=
    withoutVoidEnd_cons shelves _
  refine ⟨entries name (inside (List.mem_of_getLast? last)) named,
    (withoutVoidEnd (first :: withoutVoidEnd rest).dropLast).filter fun part => !isVoid part,
    ?_, fun folder member => ?_⟩
  · rw [around, List.filter_cons_of_pos (by simp [shelves])]
    rfl
  · obtain ⟨listed, full⟩ := List.mem_filter.mp member
    exact entries folder
      (inside (List.dropLast_subset _ (mem_of_mem_withoutVoidEnd listed))) (by simpa using full)

end ShelfFile

variable {root : String} {location : Location} {file : ShelfFile}

theorem shelfFile_eq_ok :
    shelfFile root location = .ok file ↔ ShelfFile.ofPlace? root location.path = some file := by
  unfold shelfFile
  split <;> simp_all

/-- The file of the empty key stands beside the directory of the shelves. -/
theorem shelfFile_empty (root : String) :
    ∃ file, shelfFile root (.ofKey "") = .ok file ∧ file.path = [shelvesName ++ ".shelf"] :=
  ⟨_, rfl, rfl⟩

theorem not_isInside_beside : ¬ IsInside shelvesPath [shelvesName ++ ".shelf"] := by
  rintro ⟨names, -, same, -⟩
  exact absurd (List.cons.inj same).1 (by decide)

/-- The file of a shelf lies inside the directory of the shelves exactly if the place is not
empty. -/
theorem isInside_iff (found : shelfFile root location = .ok file) :
    IsInside shelvesPath file.path ↔ location.path ≠ "" := by
  constructor
  · rintro inside empty
    obtain ⟨beside, located, path⟩ := shelfFile_empty root
    rw [shelfFile_eq_ok] at found located
    change ShelfFile.ofPlace? root "" = some beside at located
    rw [empty, located] at found
    rw [← Option.some.inj found, path] at inside
    exact not_isInside_beside inside
  · intro nonempty
    obtain ⟨named, folders, directory, entries⟩ :=
      ShelfFile.entries_of_ofPlace? nonempty (shelfFile_eq_ok.mp found)
    refine ⟨folders ++ [file.name ++ ".shelf"], by simp, ?_, fun name member => ?_⟩
    · rw [ShelfFile.path, directory, List.append_assoc]
    · rcases List.mem_append.mp member with folder | last
      · exact entries name folder
      · rw [List.mem_singleton.mp last]
        exact named.ended

/-- However a location arises, its shelf is refused a file or has one with the ending of shelves,
which lies inside their directory unless the location is that of the empty key: that one has a file
beside the directory.  Different keys have different files. -/
theorem shelfFile_isInside_iff (root : String) :
    (∀ (location : Location) (file : ShelfFile), location.Arises →
      shelfFile root location = .ok file →
        (IsInside shelvesPath file.path ↔ location ≠ .ofKey "") ∧
          ∃ name, file.path.getLast? = some (name ++ ".shelf")) ∧
    (∃ file, shelfFile root (.ofKey "") = .ok file ∧ file.path = [shelvesName ++ ".shelf"]) ∧
    ∀ key other : String, Path.isValid key = true → Path.isValid other = true → key ≠ other →
      ∃ file otherFile, shelfFile root (.ofKey key) = .ok file ∧
        shelfFile root (.ofKey other) = .ok otherFile ∧ file.path ≠ otherFile.path := by
  refine ⟨fun location file arises found => ⟨?_, file.name, ?_⟩, shelfFile_empty root,
    fun key other valid otherValid different => ?_⟩
  · rw [isInside_iff found, Ne, arises.path_eq_empty_iff]
  · rw [ShelfFile.path, List.getLast?_concat]
  · obtain ⟨file, found, path, -, -⟩ := @shelfFile_ofKey key root valid
    obtain ⟨otherFile, otherFound, otherPath, -, -⟩ := @shelfFile_ofKey other root otherValid
    refine ⟨file, otherFile, found, otherFound, ?_⟩
    rw [path, otherPath]
    exact fun same => different (shelfPath_injective same)

/-- A place with void parts, and two keys that differ in a separator. -/
theorem shelfFile_isInside_iff_pens :
    (∃ file, shelfFile "library" ⟨"zoo//pens/.", "zoo.pens"⟩ = .ok file ∧
      IsInside shelvesPath file.path ∧ file.path = ["shelves", "zoo", "pens.shelf"]) ∧
    ∃ file other, shelfFile "library" (.ofKey "zoo.pens") = .ok file ∧
      shelfFile "library" (.ofKey "zoo_pens") = .ok other ∧ file.path ≠ other.path :=
  have ⟨inside, _, apart⟩ := shelfFile_isInside_iff "library"
  have made : Location.make "zoo//pens/." "zoo.pens" = .ok ⟨"zoo//pens/.", "zoo.pens"⟩ := rfl
  have found : shelfFile "library" ⟨"zoo//pens/.", "zoo.pens"⟩ =
      .ok ⟨["shelves", "zoo"], "pens", "library/shelves/zoo/pens.shelf"⟩ := rfl
  have ⟨within, _⟩ := inside _ _ (.ofParts made) found
  ⟨⟨_, found, within.mpr (by decide +kernel), rfl⟩,
    apart "zoo.pens" "zoo_pens" (by decide) (by decide) (by decide)⟩

/-- The location of the empty key is not refused, and its file is not in the directory of the
shelves. -/
theorem shelfFile_ofKey_empty_outside :
    (Location.ofKey "").Arises ∧ ∃ file, shelfFile "library" (.ofKey "") = .ok file ∧
      file.path = ["shelves.shelf"] ∧ ¬ IsInside shelvesPath file.path := by
  obtain ⟨file, found, path⟩ := shelfFile_empty "library"
  refine ⟨.ofKey "", file, found, path, ?_⟩
  rw [path]
  exact not_isInside_beside

end DiskStores

end ShelfLibrary
