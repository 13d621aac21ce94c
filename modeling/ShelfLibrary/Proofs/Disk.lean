import ShelfLibrary.Disk.Library
import ShelfLibrary.Proofs.Documents
import ShelfLibrary.Proofs.Journal
import ShelfLibrary.Proofs.Memory
import ShelfLibrary.Proofs.Places

/-!
# Stores on disk that follow stores in memory

Stores on disk hold what stores in memory do when the journal replays to the same nodes, and when
the files of the catalog and of the shelves are read back as the same documents.  Every proper call
is then answered alike and keeps it so, provided that the documents it stores are read back and that
the system can have the files.
-/

namespace ShelfLibrary

open FilePath (Fits IsPlain)

variable {held : MemoryStores} {lock : Nat} {key : String}

/-! ## Files -/

namespace FileSystem

open DiskStores

variable {files after : FileSystem} {touched : List FilePath} {path : FilePath}

theorem Keeps.of_spares {α : Type} {decode : Decoder α} {value : Option α}
    (keeps : files.Keeps path decode value) (spares : files.Spares after touched)
    (plain : path.IsPlain) (apart : path ∉ touched) : after.Keeps path decode value := by
  rw [Keeps, spares.file path plain apart]
  exact keeps

/-- The files of a library that holds something, while a lock is taken. -/
structure Holds (files : FileSystem) (held : MemoryStores) (lock : Nat) : Prop where
  /-- The directory is tidy. -/
  tidy : files.IsTidy
  /-- The lock is taken. -/
  locked : files.locked = [lock]
  /-- The lock is that of its file. -/
  guarded : ∃ contents, files.file? DiskLibrary.lockPath = some (lock, contents)
  /-- The catalog is stored. -/
  catalog : files.Keeps catalogPath Catalog.decode held.catalog
  /-- The shelves are stored. -/
  shelves : ∀ key, Path.isValid key = true →
    files.Keeps (shelfPath key) ShelfData.decode (Table.get? held.shelves (Location.placeOf key))

theorem isPlain_lockPath : IsPlain DiskLibrary.lockPath := isPlain_singleton (by decide)

theorem isPlain_catalogPath : IsPlain catalogPath := isPlain_singleton (by decide)

theorem isPlain_shelfPath (valid : Path.isValid key = true) : IsPlain (shelfPath key) :=
  isPlain_around valid (by decide)

/-- The path of a shelf has more names than one. -/
theorem shelfPath_ne_singleton {name : String} : shelfPath key ≠ [name] := by
  intro same
  have sizes := congrArg List.length same
  simp [shelfPath, around, shelvesPath] at sizes

theorem shelfAside_ne_singleton {name : String} : shelfAside key ≠ [name] := by
  intro same
  have sizes := congrArg List.length same
  simp [shelfAside, around, shelvesPath] at sizes

/-- What is done to other files leaves those of a library as they are. -/
theorem Holds.of_spares (holds : files.Holds held lock) (tidy : after.IsTidy)
    (spares : files.Spares after touched) (lockApart : DiskLibrary.lockPath ∉ touched)
    (catalogApart : catalogPath ∉ touched) (shelvesApart : ∀ key, shelfPath key ∉ touched) :
    after.Holds held lock where
  tidy := tidy
  locked := spares.locked.trans holds.locked
  guarded := by
    rw [spares.file _ isPlain_lockPath lockApart]
    exact holds.guarded
  catalog := holds.catalog.of_spares spares isPlain_catalogPath catalogApart
  shelves key valid :=
    (holds.shelves key valid).of_spares spares (isPlain_shelfPath valid) (shelvesApart key)

theorem Holds.tick (holds : files.Holds held lock) : files.tick.Holds held lock :=
  ⟨holds.tidy.tick, holds.locked, holds.guarded, holds.catalog, holds.shelves⟩

end FileSystem

/-! ## Stores -/

namespace DiskStores

open FileSystem (Keeps Spares)

variable {stores : DiskStores}

/-- Stores on disk that hold what stores in memory do. -/
structure Holds (stores : DiskStores) (held : MemoryStores) (lock : Nat) : Prop where
  /-- The files do. -/
  files : stores.journal.files.Holds held lock
  /-- The table of nodes is the same. -/
  nodes_eq : stores.nodes = held.nodes
  /-- The nodes are in key order. -/
  sorted : Table.Sorted held.nodes
  /-- The journal replays to the nodes. -/
  journal : ∃ contents deltas, stores.journal.IsOpen contents ∧ Journal.Records contents deltas ∧
    stores.journal.sequence = deltas.length ∧
    tableOf [] (Journal.numberFrom 1 deltas) = .ok held.nodes
  /-- Nothing is left to be written. -/
  flushed : stores.journal.pending = []

/-- The entries that the journal is rewritten with are read back. -/
def KeepsNodes (nodes : Table Entry) : Prop := Journal.AreKept 1 (puts nodes)

/-- Whether a journal becomes too long with a change. -/
def Outgrows (stores : DiskStores) (delta : Delta) : Prop :=
  ∃ frame, (JournalEntry.number (stores.journal.sequence + 1) delta).encode = .ok frame ∧
    stores.maxJournalSize <
      (stores.journal.files.body stores.journal.body).length + frame.length

/-- Whether what a call stores is read back, and the system can have the file that it is about. -/
def Admits : StoreCall → DiskStores → Prop
  | .changeNodes delta, stores =>
    Journal.IsKept (.number (stores.journal.sequence + 1) delta) ∧
      ∀ nodes, delta.apply stores.nodes = .ok nodes → stores.Outgrows delta → KeepsNodes nodes
  | .compactNodes, stores => KeepsNodes stores.nodes
  | .loadShelf location, _ => Fits (shelfPath location.key)
  | .storeShelf location contents, _ =>
    Fits (shelfPath location.key) ∧ Frame.Holds ShelfData.decode contents.toJson contents
  | .deleteShelf location, _ => Fits (shelfPath location.key)
  | .saveCatalog catalog, _ => Frame.Holds Catalog.decode catalog.toJson catalog
  | _, _ => True

theorem sorted_applyTo {nodes : Table Entry} (sorted : Table.Sorted nodes) (delta : Delta) :
    Table.Sorted (delta.applyTo nodes) := by
  cases delta with
  | put key entry => exact Table.sorted_insert sorted key entry
  | update key entry => exact Table.sorted_insert sorted key entry
  | remove key => exact Table.sorted_erase sorted key
  | clear => exact Table.sorted_nil

theorem ends_onJournal {α : Type} {task : Journal.Task α}
    {goal : Except StorageError α → DiskStores → Prop} :
    Work.Ends (onJournal task) stores goal ↔
      Work.Ends task stores.journal fun result journal =>
        goal (result.mapError ioError) { stores with journal := journal } :=
  Iff.rfl

theorem journal_apart {name : String} (different : name ≠ "namespace.journal")
    (aside : name ≠ "namespace.journal.tmp") : [name] ∉ [Journal.path, Journal.pathAside] := by
  simp [Journal.path, Journal.pathAside, different, aside]

/-- What is done to the journal leaves the files of a library as they are. -/
theorem holds_of_journal {files after : FileSystem} (holds : files.Holds held lock)
    (tidy : after.IsTidy) (spares : files.Spares after [Journal.path, Journal.pathAside]) :
    after.Holds held lock := by
  refine holds.of_spares tidy spares (journal_apart (by decide) (by decide))
    (journal_apart (by decide) (by decide)) fun key => ?_
  simp only [Journal.path, Journal.pathAside, List.mem_cons, List.not_mem_nil, or_false, not_or]
  exact ⟨FileSystem.shelfPath_ne_singleton, FileSystem.shelfPath_ne_singleton⟩

/-- Stores hold what their files do, as long as the journal and the nodes stay. -/
theorem Holds.of_files (holds : stores.Holds held lock) {files : FileSystem} {next : MemoryStores}
    (filesHold : files.Holds next lock) (nodes : next.nodes = held.nodes)
    (journal : files.file? Journal.path = stores.journal.files.file? Journal.path) :
    (stores.withFiles files).Holds next lock := by
  obtain ⟨contents, deltas, ⟨-, front, found, whole⟩, rest⟩ := holds.journal
  refine ⟨filesHold, holds.nodes_eq.trans nodes.symm, nodes ▸ holds.sorted, ?_, holds.flushed⟩
  rw [nodes]
  exact ⟨contents, deltas, ⟨filesHold.tidy, front, journal.trans found, whole⟩, rest⟩

theorem Holds.tick (holds : stores.Holds held lock) :
    (stores.withFiles stores.journal.files.tick).Holds held lock :=
  holds.of_files holds.files.tick rfl rfl

/-- The journal is rewritten without an effect on what is held. -/
theorem Holds.ends_compact (holds : stores.Holds held lock) (kept : KeepsNodes stores.nodes) :
    Work.Ends compact stores fun result after => result = .ok () ∧ after.Holds held lock := by
  obtain ⟨contents, deltas, isOpen, -, -, -⟩ := holds.journal
  rw [compact, Work.ends_bind]
  simp only [Work.ends_get, ends_onJournal]
  refine (isOpen.ends_rewrite kept).imp fun result journal done => ?_
  obtain ⟨rfl, ⟨written, isOpen, records⟩, flushed, counted, spares⟩ := done
  refine ⟨rfl, holds_of_journal holds.files isOpen.tidy spares, holds.nodes_eq, holds.sorted, ?_,
    flushed⟩
  refine ⟨written, puts stores.nodes, isOpen, records, counted, ?_⟩
  rw [holds.nodes_eq]
  exact Journal.tableOf_puts holds.sorted

/-- A change of the nodes goes to the journal first, which is rewritten if it becomes too long. -/
theorem Holds.ends_change (holds : stores.Holds held lock) {delta : Delta}
    (fits : delta.Fits held.nodes) (admits : Admits (.changeNodes delta) stores) :
    Work.Ends (change delta) stores fun result after => result = .ok () ∧
      after.Holds { held with nodes := delta.applyTo held.nodes } lock := by
  obtain ⟨contents, deltas, isOpen, records, counted, replayed⟩ := holds.journal
  obtain ⟨kept, rewritten⟩ := admits
  obtain ⟨frame, framed, -, -⟩ := kept.exists_frame
  have applied := fits.apply_eq
  have grown : tableOf [] (Journal.numberFrom 1 (deltas ++ [delta])) =
      .ok (delta.applyTo held.nodes) := by
    rw [Journal.numberFrom_append]
    exact Journal.tableOf_append replayed applied
  have written : contents = stores.journal.files.body stores.journal.body := by
    obtain ⟨front, found, whole⟩ := isOpen.written
    rw [(FileSystem.file?_eq_some.mp found).2, whole, holds.flushed, List.append_nil]
  rw [change, Work.ends_bind]
  simp only [Work.ends_get, holds.nodes_eq, applied, Work.ends_bind, ends_onJournal]
  refine (isOpen.ends_append records counted kept framed).imp fun result journal done => ?_
  obtain ⟨⟨count, rfl⟩, isOpen, records, flushed, counted, spares⟩ := done
  simp only [Result.mapError_ok, Work.ends_modify, Journal.ends_size isOpen flushed]
  have appended : DiskStores.Holds
      { stores with journal := journal, nodes := delta.applyTo held.nodes }
      { held with nodes := delta.applyTo held.nodes } lock := by
    have files : journal.files.Holds held lock :=
      holds_of_journal holds.files isOpen.tidy (spares.mono (by simp))
    exact ⟨⟨files.tidy, files.locked, files.guarded, files.catalog, files.shelves⟩, rfl,
      sorted_applyTo holds.sorted delta, ⟨_, _, isOpen, records, counted, grown⟩, flushed⟩
  split
  · rename_i long
    refine appended.tick.ends_compact (rewritten _ (holds.nodes_eq ▸ applied) ⟨frame, framed, ?_⟩)
    simpa [written] using long
  · exact ⟨rfl, appended.tick⟩

/-! ### Shelves -/

/-- A shelf is read from its file. -/
theorem Holds.ends_loadShelf (holds : stores.Holds held lock) (valid : Path.isValid key = true)
    (fits : Fits (shelfPath key)) :
    Work.Ends (loadShelf (.ofKey key)) stores fun result after =>
      result = .ok (Table.get? held.shelves (Location.placeOf key)) ∧ after.Holds held lock := by
  obtain ⟨file, found, path, -, -⟩ := @shelfFile_ofKey key stores.directory valid
  have keeps := holds.files.shelves key valid
  rw [loadShelf, Work.ends_bind, ends_fileOf, found]
  simp only [ends_onFiles, path]
  exact (holds.files.tidy.ends_readDocument (isFile_shelf valid fits) keeps).mpr ⟨rfl, holds.tick⟩

/-- What is done to the file of a shelf leaves the other files of a library as they are. -/
theorem Holds.of_shelf (holds : stores.Holds held lock) {files : FileSystem} (tidy : files.IsTidy)
    (spares : stores.journal.files.Spares files [shelfAside key, shelfPath key])
    {shelves : Table ShelfData}
    (kept : files.Keeps (shelfPath key) ShelfData.decode
      (Table.get? shelves (Location.placeOf key)))
    (others : ∀ other, Path.isValid other = true → other ≠ key →
      Table.get? shelves (Location.placeOf other) =
        Table.get? held.shelves (Location.placeOf other)) :
    (stores.withFiles files).Holds { held with shelves := shelves } lock := by
  have apart {name : String} : [name] ∉ [shelfAside key, shelfPath key] := by
    simp only [List.mem_cons, List.not_mem_nil, or_false, not_or]
    exact ⟨Ne.symm FileSystem.shelfAside_ne_singleton, Ne.symm FileSystem.shelfPath_ne_singleton⟩
  refine holds.of_files ⟨tidy, spares.locked.trans holds.files.locked, ?_, ?_, ?_⟩ rfl
    (spares.file _ Journal.isFile_path.plain apart)
  · rw [spares.file _ FileSystem.isPlain_lockPath apart]
    exact holds.files.guarded
  · exact holds.files.catalog.of_spares spares FileSystem.isPlain_catalogPath apart
  · intro other otherValid
    by_cases same : other = key
    · exact same ▸ kept
    · rw [others other otherValid same]
      refine (holds.files.shelves other otherValid).of_spares spares
        (FileSystem.isPlain_shelfPath otherValid) ?_
      simp only [List.mem_cons, List.not_mem_nil, or_false, not_or]
      exact ⟨shelfPath_ne_shelfAside, fun equal => same (shelfPath_injective equal)⟩

theorem placeOf_ne {other : String} (valid : Path.isValid key = true)
    (otherValid : Path.isValid other = true) (different : other ≠ key) :
    Location.placeOf key ≠ Location.placeOf other :=
  fun same => different (Location.placeOf_injective valid otherValid same).symm

/-- A shelf is stored in its file. -/
theorem Holds.ends_storeShelf (holds : stores.Holds held lock) (valid : Path.isValid key = true)
    (fits : Fits (shelfPath key)) {contents : ShelfData}
    (kept : Frame.Holds ShelfData.decode contents.toJson contents) :
    Work.Ends (storeShelf (.ofKey key) contents) stores fun result after => result = .ok () ∧
      after.Holds { held with
        shelves := Table.insert held.shelves (Location.placeOf key) contents } lock := by
  obtain ⟨file, found, path, aside, around⟩ := @shelfFile_ofKey key stores.directory valid
  obtain ⟨bytes, written, decoded⟩ := kept.exists_file
  rw [storeShelf, Work.ends_bind, ends_fileOf, found]
  simp only [Work.ends_bind, ends_fileBytes, written, ends_onFiles, path, aside]
  have apart : lastName key ++ ".tmp" ≠ lastName key ++ ".shelf" := by
    intro same
    exact absurd (congrArg (fun s : String => s.toList.getLast?) same)
      (by simp [String.toList_append])
  refine (holds.files.tidy.ends_overwriteThrough (isFile_shelf valid fits)
    (isFile_aside valid fits) apart).imp fun result files done => ?_
  obtain ⟨rfl, tidy, ⟨number, placed⟩, -, spares⟩ := done
  refine ⟨rfl, holds.of_shelf tidy spares ?_ fun other otherValid different => ?_⟩
  · rw [Table.get?_insert_self, Keeps]
    change files.file? (shelfPath key) = _ at placed
    rw [placed]
    exact congrArg some decoded
  · exact Table.get?_insert_of_ne _ _ (placeOf_ne valid otherValid different)

/-- The file of a shelf is taken away, if it is there. -/
theorem Holds.ends_deleteShelf (holds : stores.Holds held lock) (valid : Path.isValid key = true)
    (fits : Fits (shelfPath key)) :
    Work.Ends (deleteShelf (.ofKey key)) stores fun result after => result = .ok () ∧
      after.Holds
        { held with shelves := Table.erase held.shelves (Location.placeOf key) } lock := by
  obtain ⟨file, found, path, -, directory⟩ := @shelfFile_ofKey key stores.directory valid
  have isFile := isFile_shelf valid fits
  have others (other : String) (otherValid : Path.isValid other = true) (different : other ≠ key) :
      Table.get? (Table.erase held.shelves (Location.placeOf key)) (Location.placeOf other) =
        Table.get? held.shelves (Location.placeOf other) :=
    Table.get?_erase_of_ne _ (placeOf_ne valid otherValid different)
  have kept {files : FileSystem} (gone : files.file? (shelfPath key) = none) :
      files.Keeps (shelfPath key) ShelfData.decode
        (Table.get? (Table.erase held.shelves (Location.placeOf key)) (Location.placeOf key)) := by
    rw [Table.get?_erase_self, Keeps, gone]
    rfl
  rw [deleteShelf, Work.ends_bind, ends_fileOf, found]
  simp only [ends_onFiles, Work.ends_tryCatch, removeFile, Work.ends_bind, path, directory]
  cases there : stores.journal.files.file? (shelfPath key) with
  | none =>
      refine (holds.files.tidy.ends_remove_missing isFile there).mpr ?_
      refine ⟨rfl, holds.of_shelf holds.files.tidy.tick (Spares.refl _ _).of_tick ?_ others⟩
      exact kept there
  | some entry =>
      obtain ⟨number, contents⟩ := entry
      refine (holds.files.tidy.ends_remove isFile there).imp fun result files done => ?_
      obtain ⟨rfl, tidy, gone, spares⟩ := done
      have free : ∀ part ∈ ((around key).drop shelvesPath.length).reverse, '/' ∉ part.toList :=
        fun part member =>
          (mem_around valid (List.mem_of_mem_drop (List.mem_reverse.mp member))).2
      refine (tidy.ends_prune free).imp fun result files' done => ?_
      obtain ⟨rfl, tidy, spared⟩ := done
      refine ⟨rfl, holds.of_shelf tidy ?_ (kept ?_) others⟩
      · exact (spares.mono (by simp [shelfPath])).trans (spared.mono (by simp))
      · exact (spared.file _ isFile.plain (by simp)).trans gone

/-! ### Catalogs -/

theorem isFile_catalog : FileSystem.IsFile [] "catalog.bin" :=
  ⟨⟨by simp, by decide⟩, ⟨by decide +kernel, by decide +kernel⟩, by simp, by decide⟩

theorem isFile_catalogAside : FileSystem.IsFile [] "catalog.tmp" :=
  ⟨⟨by simp, by decide⟩, ⟨by decide +kernel, by decide +kernel⟩, by simp, by decide⟩

/-- The catalog is read from its file. -/
theorem Holds.ends_loadCatalog (holds : stores.Holds held lock) :
    Work.Ends loadCatalog stores fun result after =>
      result = .ok held.catalog ∧ after.Holds held lock := by
  rw [loadCatalog, Work.ends_bind]
  simp only [Work.ends_get, ends_onFiles]
  exact (holds.files.tidy.ends_readDocument isFile_catalog holds.files.catalog).mpr
    ⟨rfl, holds.tick⟩

/-- The catalog is stored in its file. -/
theorem Holds.ends_saveCatalog (holds : stores.Holds held lock) {catalog : Catalog}
    (kept : Frame.Holds Catalog.decode catalog.toJson catalog) :
    Work.Ends (saveCatalog catalog) stores fun result after => result = .ok () ∧
      after.Holds { held with catalog := some catalog } lock := by
  obtain ⟨bytes, written, decoded⟩ := kept.exists_file
  rw [saveCatalog, Work.ends_bind, ends_fileBytes, written]
  simp only [ends_onFiles]
  refine (holds.files.tidy.ends_overwriteThrough isFile_catalog isFile_catalogAside
    (by decide)).imp fun result files done => ?_
  obtain ⟨rfl, tidy, ⟨number, placed⟩, -, spares⟩ := done
  have apart {path : FilePath} (size : 1 < path.length) :
      path ∉ [[] ++ ["catalog.tmp"], [] ++ ["catalog.bin"]] := by
    rintro member
    rcases List.mem_cons.mp member with rfl | last
    · simp at size
    · simp [List.mem_singleton.mp last] at size
  refine ⟨rfl, holds.of_files ⟨tidy, spares.locked.trans holds.files.locked, ?_, ?_, ?_⟩ rfl
    (spares.file _ Journal.isFile_path.plain (by decide))⟩
  · rw [spares.file _ FileSystem.isPlain_lockPath (by decide)]
    exact holds.files.guarded
  · change files.file? catalogPath = _ at placed
    rw [Keeps, placed]
    exact congrArg some decoded
  · intro key valid
    refine (holds.files.shelves key valid).of_spares spares (FileSystem.isPlain_shelfPath valid) ?_
    exact apart (by simp [shelfPath, around, shelvesPath])

/-! ### All calls -/

/-- A proper call is answered as in memory, and what is held stays the same on both sides. -/
theorem Holds.answer (holds : stores.Holds held lock) {call : StoreCall}
    (proper : call.IsProper held)
    (admits : Admits call stores) :
    (answer call stores).1 = (MemoryStores.answer call held).1 ∧
      (answer call stores).2.Holds (MemoryStores.answer call held).2 lock := by
  cases call with
  | loadNodes => exact ⟨congrArg Except.ok holds.nodes_eq, holds⟩
  | changeNodes delta =>
      rw [MemoryStores.answer_changeNodes proper]
      exact holds.ends_change proper admits
  | countNodes =>
      exact ⟨congrArg (fun nodes : Table Entry => Except.ok nodes.length) holds.nodes_eq, holds⟩
  | compactNodes => exact holds.ends_compact admits
  | loadShelf location =>
      obtain ⟨key, valid, rfl⟩ := proper
      exact holds.ends_loadShelf valid admits
  | storeShelf location contents =>
      obtain ⟨key, valid, rfl⟩ := proper
      exact holds.ends_storeShelf valid admits.1 admits.2
  | deleteShelf location =>
      obtain ⟨key, valid, rfl⟩ := proper
      exact holds.ends_deleteShelf valid admits
  | loadCatalog => exact holds.ends_loadCatalog
  | saveCatalog catalog => exact holds.ends_saveCatalog admits

end DiskStores

end ShelfLibrary
