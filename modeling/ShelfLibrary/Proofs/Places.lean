import ShelfLibrary.Disk.Stores
import ShelfLibrary.Proofs.Documents
import ShelfLibrary.Proofs.FileWork
import ShelfLibrary.Proofs.Grammar

/-!
# Where shelves stand on disk

The segments of a key are the names on the way to the file of its shelf.  Different keys have
different files, and none of them is a file through which another is replaced.
-/

namespace ShelfLibrary

/-! ## Segments of keys -/

namespace Path

variable {key : String}

theorem split_map_place {chars : List Char} (free : '/' ∉ chars) :
    split '/' (chars.map fun c => if c = '.' then '/' else c) = split '.' chars := by
  induction chars with
  | nil => rfl
  | cons c rest ih =>
      simp only [List.mem_cons, not_or] at free
      rw [List.map_cons, split, split, ih free.2]
      by_cases dot : c = '.'
      · simp [dot]
      · simp [dot, Ne.symm free.1]

/-- A name in a key is not empty, and neither a dot nor a slash stands in it. -/
theorem segment_of_isValid (valid : isValid key = true) {segment : String}
    (member : segment ∈ segments key) :
    segment ≠ "" ∧ '.' ∉ segment.toList ∧ '/' ∉ segment.toList := by
  have named := isValid_iff_segments.mp valid segment member
  refine ⟨?_, not_mem_of_isName named, not_mem_of_isJoined (by decide) (by decide) named⟩
  rintro rfl
  exact absurd named (by decide)

theorem segments_placeOf (valid : isValid key = true) :
    (split '/' (Location.placeOf key).toList).map String.ofList = segments key := by
  have slash : '/' ∉ key.toList := not_mem_of_isJoined (by decide) (by decide) valid
  rw [Location.placeOf, String.toList_ofList, split_map_place slash, segments]

end Path

theorem Location.placeOf_eq_empty_iff {key : String} : placeOf key = "" ↔ key = "" := by
  rw [placeOf, ← String.toList_inj, ← String.toList_inj]
  simp

namespace DiskStores

open FileSystem
open FilePath (IsPlain Fits)

variable {key other root : String}

/-- The directory around the file of the shelf of a key. -/
def around (key : String) : FilePath := shelvesPath ++ (Path.segments key).dropLast

/-- The last name in a key. -/
def lastName (key : String) : String := (Path.segments key).getLast?.getD ""

/-- The file of the shelf of a key. -/
def shelfPath (key : String) : FilePath := around key ++ [lastName key ++ ".shelf"]

/-- The file through which the shelf of a key is replaced. -/
def shelfAside (key : String) : FilePath := around key ++ [lastName key ++ ".tmp"]

theorem segments_eq (key : String) :
    Path.segments key = (Path.segments key).dropLast ++ [lastName key] := by
  have nonempty := Path.segments_ne_nil key
  rw [lastName, List.getLast?_eq_getLast_of_ne_nil nonempty, Option.getD_some]
  exact (List.dropLast_concat_getLast nonempty).symm

/-- The last part of a way through the directory of the shelves is the last name of the key. -/
theorem getLast?_shelvesPath (key : String) :
    (shelvesPath ++ Path.segments key).getLast? = some (lastName key) := by
  rw [segments_eq key]
  simp

theorem dropLast_shelvesPath (key : String) :
    (shelvesPath ++ Path.segments key).dropLast = around key :=
  List.dropLast_append_of_ne_nil (Path.segments_ne_nil key)

/-- A name in a key is neither void nor the name of the directory around. -/
theorem isVoid_of_mem_segments (valid : Path.isValid key = true) {part : String}
    (member : part ∈ Path.segments key) : ShelfFile.isVoid part = false ∧ part ≠ ".." := by
  obtain ⟨nonempty, dot, -⟩ := Path.segment_of_isValid valid member
  have single : part ≠ "." := by
    rintro rfl
    exact dot (by decide)
  have double : part ≠ ".." := by
    rintro rfl
    exact dot (by decide)
  simp [ShelfFile.isVoid, nonempty, single, double]

theorem isPlain_segments (valid : Path.isValid key = true) :
    ShelfFile.isPlain (Path.segments key) = true := by
  have solid {part : String} (member : part ∈ Path.segments key) :=
    isVoid_of_mem_segments valid member
  cases names : Path.segments key with
  | nil => rfl
  | cons first rest =>
      simp only [names] at solid
      simp only [ShelfFile.isPlain, Bool.and_eq_true, List.all_eq_true, bne_iff_ne,
        (solid List.mem_cons_self).1, Bool.not_false, true_and]
      exact fun part member => (solid member).2

theorem partsOf_placeOf (valid : Path.isValid key = true) :
    ShelfFile.partsOf (Location.placeOf key) = Path.segments key := by
  have nonempty : Location.placeOf key ≠ "" := by
    rw [Ne, Location.placeOf_eq_empty_iff]
    rintro rfl
    exact absurd valid (by decide)
  rw [ShelfFile.partsOf, if_neg nonempty, Path.segments_placeOf valid]

/-- The file of the shelf of a key. -/
theorem shelfFile_ofKey (valid : Path.isValid key = true) :
    ∃ file, shelfFile root (.ofKey key) = .ok file ∧ file.path = shelfPath key ∧
      file.pathAside = shelfAside key ∧ file.directory = around key := by
  have solid {part : String} (member : part ∈ shelvesPath ++ Path.segments key) :
      ShelfFile.isVoid part = false := by
    rcases List.mem_append.mp member with shelves | inside
    · rw [List.mem_singleton.mp shelves]
      decide
    · exact (isVoid_of_mem_segments valid inside).1
  have below : around key ⊆ shelvesPath ++ Path.segments key := by
    rw [← dropLast_shelvesPath]
    exact List.dropLast_subset _
  have whole {parts : List String} (subset : parts ⊆ shelvesPath ++ Path.segments key) :
      ShelfFile.withoutVoidEnd parts = parts :=
    ShelfFile.withoutVoidEnd_eq_self fun part member => solid (subset member)
  have clear : (around key).filter (fun part => !ShelfFile.isVoid part) = around key :=
    List.filter_eq_self.mpr fun part member => by simp [solid (below member)]
  refine ⟨⟨around key, lastName key, "/".intercalate
    ([root] ++ around key ++ [lastName key ++ ".shelf"])⟩, ?_, rfl, rfl, rfl⟩
  simp only [shelfFile, ShelfFile.ofPlace?, Location.ofKey, partsOf_placeOf valid,
    isPlain_segments valid, Bool.not_true, Bool.false_eq_true, if_false,
    whole (List.Subset.refl _), getLast?_shelvesPath, dropLast_shelvesPath, whole below, clear]

theorem mem_around (valid : Path.isValid key = true) {folder : String}
    (member : folder ∈ around key) :
    '.' ∉ folder.toList ∧ '/' ∉ folder.toList := by
  rcases List.mem_append.mp member with shelves | inside
  · simp only [shelvesPath, List.mem_singleton] at shelves
    subst shelves
    decide
  · exact (Path.segment_of_isValid valid (List.dropLast_subset _ inside)).2

theorem isPlain_around (valid : Path.isValid key = true) {ending : String}
    (free : '/' ∉ ending.toList) : IsPlain (around key ++ [lastName key ++ ending]) := by
  refine ⟨by simp, fun part member => ?_⟩
  rcases List.mem_append.mp member with folder | name
  · exact (mem_around valid folder).2
  · have last : lastName key ∈ Path.segments key := by
      rw [segments_eq key]
      simp
    rw [List.mem_singleton.mp name, String.toList_append, List.mem_append]
    exact not_or.mpr ⟨(Path.segment_of_isValid valid last).2.2, free⟩

theorem isFile_shelf (valid : Path.isValid key = true) (fits : Fits (shelfPath key)) :
    IsFile (around key) (lastName key ++ ".shelf") where
  plain := isPlain_around valid (by decide)
  fits := fits
  folders _ member := (mem_around valid member).1
  dotted := by simp [String.toList_append]

/-- Where a shelf fits, the file through which it is replaced fits as well. -/
theorem isFile_aside (valid : Path.isValid key = true) (fits : Fits (shelfPath key)) :
    IsFile (around key) (lastName key ++ ".tmp") where
  plain := isPlain_around valid (by decide)
  fits := by
    have nonempty : around key ≠ [] := by simp [around, shelvesPath]
    obtain ⟨possible, short⟩ := fits
    have shelfSize : ".shelf".utf8ByteSize = 6 := rfl
    have asideSize : ".tmp".utf8ByteSize = 4 := rfl
    simp only [shelfPath, FilePath.isPossible, Bool.and_eq_true, decide_eq_true_eq,
      List.all_append, List.all_cons, List.all_nil, Bool.and_true,
      FilePath.text_append nonempty (List.cons_ne_nil _ _)] at possible
    obtain ⟨size, folders, last⟩ := possible
    have single (name : String) : FilePath.text [name] = name := by simp [FilePath.text]
    constructor
    · simp only [FilePath.isPossible, Bool.and_eq_true, decide_eq_true_eq, List.all_append,
        List.all_cons, List.all_nil, Bool.and_true,
        FilePath.text_append nonempty (List.cons_ne_nil _ _), single,
        String.utf8ByteSize_append] at size ⊢
      refine ⟨by omega, folders, ?_⟩
      simp only [String.toList_append, Bool.not_eq_true', List.contains_eq_mem,
        decide_eq_false_iff_not, List.mem_append, not_or] at last ⊢
      exact ⟨last.1, by decide⟩
    · intro part member
      rcases List.mem_append.mp member with folder | name
      · exact short part (List.mem_append_left _ folder)
      · have longer := short (lastName key ++ ".shelf") (by simp [shelfPath])
        rw [String.utf8ByteSize_append] at longer
        rw [List.mem_singleton.mp name, String.utf8ByteSize_append]
        omega
  folders _ member := (mem_around valid member).1
  dotted := by simp [String.toList_append]

/-- Different keys have different files. -/
theorem shelfPath_injective (same : shelfPath key = shelfPath other) : key = other := by
  obtain ⟨folders, names⟩ := List.append_inj' same rfl
  have last : lastName key = lastName other := by
    have texts := congrArg String.toList (List.cons.inj names).1
    rw [String.toList_append, String.toList_append] at texts
    exact String.toList_inj.mp (List.append_cancel_right texts)
  have front : (Path.segments key).dropLast = (Path.segments other).dropLast :=
    List.append_cancel_left folders
  refine Path.segments_injective ?_
  rw [segments_eq key, segments_eq other, last, front]

/-- No file of a shelf is one through which a shelf is replaced. -/
theorem shelfPath_ne_shelfAside : shelfPath key ≠ shelfAside other := by
  intro same
  obtain ⟨-, names⟩ := List.append_inj' same rfl
  have ends := congrArg (fun s : String => s.toList.getLast?) (List.cons.inj names).1
  simp [String.toList_append] at ends

end DiskStores

end ShelfLibrary
