import ShelfLibrary.Disk.Stores
import ShelfLibrary.Proofs.Document
import ShelfLibrary.Proofs.Files
import ShelfLibrary.Proofs.Frame

/-!
# Documents that are stored and read back

A shelf and the catalog are each stored as one document in one file.  Stored without a failure, the
document stands in the file; whether it is read back as what was stored depends on how deep it nests
and on whether its values have a text.
-/

namespace ShelfLibrary

/-! ## Files of shelves -/

namespace DiskStores

open FileSystem

namespace ShelfFile

theorem mem_of_mem_withoutVoidEnd {parts : List String} {part : String}
    (member : part ∈ withoutVoidEnd parts) : part ∈ parts := by
  simp only [withoutVoidEnd, List.mem_reverse] at member
  exact List.mem_reverse.mp ((List.dropWhile_sublist _).subset member)

theorem withoutVoidEnd_cons {part : String} (solid : isVoid part = false) (rest : List String) :
    withoutVoidEnd (part :: rest) = part :: withoutVoidEnd rest := by
  unfold withoutVoidEnd
  rw [List.reverse_cons, List.dropWhile_append]
  split
  · rename_i void
    rw [List.isEmpty_iff.mp void, List.dropWhile_cons_of_neg (by simp [solid])]
    rfl
  · simp

theorem withoutVoidEnd_eq_self {parts : List String}
    (solid : ∀ part ∈ parts, isVoid part = false) : withoutVoidEnd parts = parts := by
  induction parts with
  | nil => rfl
  | cons part rest ih =>
      rw [withoutVoidEnd_cons (solid part List.mem_cons_self),
        ih fun other member => solid other (List.mem_cons_of_mem part member)]

/-- No slash stands in the names on the way to the file of a shelf. -/
theorem free_of_ofPlace? {root place : String} {file : ShelfFile}
    (found : ofPlace? root place = some file) :
    (∀ name ∈ file.directory, '/' ∉ name.toList) ∧ '/' ∉ file.name.toList := by
  have parts {part : String} (member : part ∈ shelvesPath ++ partsOf place) :
      '/' ∉ part.toList := by
    rcases List.mem_append.mp member with shelves | inside
    · simp only [shelvesPath, List.mem_singleton] at shelves
      simp [shelves, shelvesName]
    · unfold partsOf at inside
      split at inside
      · simp at inside
      · obtain ⟨run, listed, rfl⟩ := List.mem_map.mp inside
        simpa using fun inside => (Path.mem_of_mem_split listed inside).2 rfl
  simp only [ofPlace?] at found
  split at found
  · simp at found
  · split at found
    · simp at found
    · rename_i name last
      obtain rfl := Option.some.inj found
      have named := parts (mem_of_mem_withoutVoidEnd (List.mem_of_getLast? last))
      refine ⟨fun part member => ?_, named⟩
      have inside := mem_of_mem_withoutVoidEnd (List.mem_of_mem_filter member)
      exact parts (mem_of_mem_withoutVoidEnd (List.mem_of_mem_dropLast inside))

variable {root : String} {location : Location} {file : ShelfFile}

theorem isPlain_append (found : shelfFile root location = .ok file) {ending : String}
    (free : '/' ∉ ending.toList) : FilePath.IsPlain (file.directory ++ [file.name ++ ending]) := by
  unfold shelfFile at found
  split at found
  · rename_i file placed
    obtain rfl := Except.ok.inj found
    obtain ⟨around, named⟩ := free_of_ofPlace? placed
    refine ⟨by simp, fun name member => ?_⟩
    rcases List.mem_append.mp member with before | last
    · exact around name before
    · rw [List.mem_singleton.mp last, String.toList_append, List.mem_append]
      exact not_or.mpr ⟨named, free⟩
  · simp at found

end ShelfFile

/-! ## Work on the files of stores -/

section Work

variable {α : Type} {stores : DiskStores} {files : FileSystem} {path : FilePath} {number : Nat}

/-- Stores whose files have changed. -/
def withFiles (stores : DiskStores) (files : FileSystem) : DiskStores :=
  { stores with journal.files := files }

theorem ends_onFiles {failure : FileFault → StorageError} {action : FileAction α}
    {goal : Except StorageError α → DiskStores → Prop} :
    Work.Ends (onFiles failure action) stores goal ↔
      Work.Ends action stores.journal.files fun result files =>
        goal (result.mapError failure) (stores.withFiles files) :=
  Iff.rfl

theorem ends_fileOf {location : Location}
    {goal : Except StorageError ShelfFile → DiskStores → Prop} :
    Work.Ends (fileOf location) stores goal ↔
      goal (shelfFile stores.directory location) stores := by
  simp only [fileOf, Work.ends_bind, Work.ends_get]
  cases shelfFile stores.directory location <;> exact Iff.rfl

theorem ends_fileBytes {document : Json} {goal : Except StorageError Bytes → DiskStores → Prop} :
    Work.Ends (fileBytes document) stores goal ↔
      goal ((Frame.fileOfJson document).mapError fun _ => .unencodable) stores := by
  rw [fileBytes]
  cases Frame.fileOfJson document <;> exact Iff.rfl

theorem ends_readDocument (calm : files.IsCalm)
    (located : files.locate path = .ok (some (.file number))) {decode : Decoder α}
    {goal : Except FileFault (Option α) → FileSystem → Prop} :
    Work.Ends (readDocument path decode) files goal ↔
      goal (((Frame.decodeFile decode (files.body number)).map some).mapError .malformed)
        files.tick := by
  rw [readDocument, Work.ends_bind, readIfThere, Work.ends_tryCatch, Work.ends_map,
    FileSystem.ends_read calm, located]
  dsimp only [Except.map]
  cases Frame.decodeFile decode (files.body number) <;> exact Iff.rfl

end Work

/-! ## Shelves -/

section Shelves

variable {stores after : DiskStores} {location : Location} {file : ShelfFile}
  {contents : ShelfData} {number : Nat}

/-- A shelf that has been stored stands in its file. -/
theorem ends_storeShelf (calm : stores.journal.files.IsCalm) :
    Work.Ends (storeShelf location contents) stores fun result after => result = .ok () →
      after.journal.files.IsCalm ∧ ∃ file number,
        shelfFile after.directory location = .ok file ∧
        after.journal.files.locate file.path = .ok (some (.file number)) ∧
        Frame.fileOfJson contents.toJson = .ok (after.journal.files.body number) := by
  rw [storeShelf, Work.ends_bind, ends_fileOf]
  cases found : shelfFile stores.directory location with
  | error cause => simp
  | ok file =>
      simp only [Work.ends_bind, ends_fileBytes]
      cases written : Frame.fileOfJson contents.toJson with
      | error fault => simp
      | ok bytes =>
          have plain := ShelfFile.isPlain_append found (show '/' ∉ ".shelf".toList by decide)
          have asidePlain := ShelfFile.isPlain_append found (show '/' ∉ ".tmp".toList by decide)
          refine ends_onFiles.mpr ((ends_overwriteThrough calm plain asidePlain).imp ?_)
          intro result files replaced succeeded
          have done := Result.mapError_eq_ok.mp succeeded
          obtain ⟨calm, number, located, held⟩ := replaced done
          exact ⟨calm, file, number, found, located, congrArg Except.ok held.symm⟩

theorem ends_loadShelf (calm : stores.journal.files.IsCalm)
    (found : shelfFile stores.directory location = .ok file)
    (located : stores.journal.files.locate file.path = .ok (some (.file number)))
    {goal : Except StorageError (Option ShelfData) → DiskStores → Prop} :
    Work.Ends (loadShelf location) stores goal ↔
      goal
        ((((Frame.decodeFile ShelfData.decode (stores.journal.files.body number)).map
          some).mapError .malformed).mapError (damaged file.shown))
        (stores.withFiles stores.journal.files.tick) := by
  rw [loadShelf, Work.ends_bind, ends_fileOf, found]
  simp only [ends_onFiles, ends_readDocument calm located]

end Shelves

/-! ## Catalogs -/

section Catalogs

variable {stores after : DiskStores} {catalog : Catalog} {number : Nat}

theorem isPlain_singleton {name : String} (free : '/' ∉ name.toList) :
    FilePath.IsPlain [name] :=
  ⟨by simp, by simpa using free⟩

/-- A catalog that has been saved stands in its file. -/
theorem ends_saveCatalog (calm : stores.journal.files.IsCalm) :
    Work.Ends (saveCatalog catalog) stores fun result after => result = .ok () →
      after.journal.files.IsCalm ∧ ∃ number,
        after.journal.files.locate catalogPath = .ok (some (.file number)) ∧
        Frame.fileOfJson catalog.toJson = .ok (after.journal.files.body number) := by
  rw [saveCatalog, Work.ends_bind, ends_fileBytes]
  cases written : Frame.fileOfJson catalog.toJson with
  | error fault => simp
  | ok bytes =>
      have plain : FilePath.IsPlain ([] ++ ["catalog.bin"]) := isPlain_singleton (by decide)
      have asidePlain : FilePath.IsPlain ([] ++ ["catalog.tmp"]) := isPlain_singleton (by decide)
      refine ends_onFiles.mpr ((ends_overwriteThrough calm plain asidePlain).imp ?_)
      intro result files replaced succeeded
      have done := Result.mapError_eq_ok.mp succeeded
      obtain ⟨calm, number, located, held⟩ := replaced done
      exact ⟨calm, number, located, congrArg Except.ok held.symm⟩

theorem ends_loadCatalog (calm : stores.journal.files.IsCalm)
    (located : stores.journal.files.locate catalogPath = .ok (some (.file number)))
    {goal : Except StorageError (Option Catalog) → DiskStores → Prop} :
    Work.Ends loadCatalog stores goal ↔
      goal
        ((((Frame.decodeFile Catalog.decode (stores.journal.files.body number)).map
          some).mapError .malformed).mapError
            (damaged (FilePath.text (stores.directory :: catalogPath))))
        (stores.withFiles stores.journal.files.tick) := by
  rw [loadCatalog, Work.ends_bind]
  simp only [Work.ends_get, ends_onFiles, ends_readDocument calm located]

end Catalogs

/-! ## Both -/

/-- Stores in an empty directory. -/
def blank : DiskStores := ⟨"library", Config.usual.maxJournalSize, ⟨.empty, 0, [], 0⟩, []⟩

/-- A shelf with a record of one field. -/
def single (value : Value) : ShelfData := ⟨[("x", value)], none⟩

end DiskStores

end ShelfLibrary
