import ShelfLibrary.Disk.Library
import ShelfLibrary.Proofs.Disk

/-!
# Opening and leaving a library on disk

A directory in which no library is open still holds what the last one held: the journal makes the
nodes, and the other files are read back.  Opening a library there gives the same library as before,
and leaving it, with the journal rewritten or not, leaves a directory of this kind.
-/

namespace ShelfLibrary

variable {held : MemoryStores} {lock : Nat} {files : FileSystem} {library : Library}
  {config : Config} {name : String}

/-! ## Directories at rest -/

namespace FileSystem

open DiskStores

/-- The journal in a directory makes a table of nodes; without a journal there are none. -/
def Replays (files : FileSystem) (nodes : Table Entry) : Prop :=
  (files.file? Journal.path = none ∧ nodes = []) ∨
    ∃ number contents deltas, files.file? Journal.path = some (number, contents) ∧
      Journal.Records contents deltas ∧ tableOf [] (Journal.numberFrom 1 deltas) = .ok nodes

/-- The files of a library that holds something, while it is not open. -/
structure Rests (files : FileSystem) (held : MemoryStores) : Prop where
  /-- The directory is tidy. -/
  tidy : files.IsTidy
  /-- Nothing is locked. -/
  unlocked : files.locked = []
  /-- The journal makes the nodes. -/
  nodes : files.Replays held.nodes
  /-- The nodes are in key order. -/
  sorted : Table.Sorted held.nodes
  /-- The catalog is stored. -/
  catalog : files.Keeps catalogPath Catalog.decode held.catalog
  /-- The shelves are stored. -/
  shelves : ∀ key, Path.isValid key = true →
    files.Keeps (shelfPath key) ShelfData.decode (Table.get? held.shelves (Location.placeOf key))

/-- Nothing is held in an empty directory. -/
theorem rests_empty : empty.Rests .empty where
  tidy := isTidy_empty
  unlocked := rfl
  nodes := .inl ⟨rfl, rfl⟩
  sorted := Table.sorted_nil
  catalog := rfl
  shelves _ _ := rfl

theorem isFile_lockPath : IsFile [] ".lock" :=
  ⟨⟨by simp, by decide⟩, ⟨by decide +kernel, by decide +kernel⟩, by simp, by decide⟩

/-- The files hold the same once they are locked. -/
theorem Rests.ends_lock (rests : files.Rests held) :
    Work.Ends (FileSystem.lock DiskLibrary.lockPath) files fun result after =>
      ∃ lock, result = .ok lock ∧ after.Holds held lock ∧ after.Replays held.nodes := by
  refine (rests.tidy.ends_lock isFile_lockPath trivial rests.unlocked).imp
    fun result after done => ?_
  obtain ⟨lock, rfl, locks⟩ := done
  refine ⟨lock, rfl, ⟨locks.tidy, locks.locked, locks.guarded, ?_, fun key valid => ?_⟩, ?_⟩
  · rw [Keeps, locks.file _ isPlain_catalogPath (by decide)]
    exact rests.catalog
  · rw [Keeps, locks.file _ (isPlain_shelfPath valid) shelfPath_ne_singleton]
    exact rests.shelves key valid
  · have journal : after.file? Journal.path = files.file? Journal.path :=
      locks.file _ Journal.isFile_path.plain (by decide)
    rw [Replays, journal]
    exact rests.nodes

end FileSystem

/-! ## Stores -/

namespace DiskStores

variable {stores : DiskStores}

/-- The journal is opened, and made where there is none. -/
theorem ends_openJournal (holds : files.Holds held lock) (replays : files.Replays held.nodes) :
    Work.Ends Journal.openAmong files fun result after => ∃ entries journal,
      result = .ok (entries, journal) ∧ tableOf [] entries = .ok held.nodes ∧
      journal.files = after ∧ journal.pending = [] ∧ after.Holds held lock ∧
      ∃ contents deltas, journal.IsOpen contents ∧ Journal.Records contents deltas ∧
        journal.sequence = deltas.length ∧
        tableOf [] (Journal.numberFrom 1 deltas) = .ok held.nodes := by
  rcases replays with ⟨absent, vacant⟩ | ⟨number, contents, deltas, found, records, replayed⟩
  · refine (Journal.ends_openAmong_new holds.tidy (by simp [absent])).imp
      fun result after done => ?_
    obtain ⟨⟨number, rfl, written⟩, tidy, spares⟩ := done
    have still := holds_of_journal holds tidy (spares.mono (by simp))
    refine ⟨_, _, rfl, vacant ▸ rfl, rfl, rfl, still, Frame.header, [], ⟨tidy, _, written, ?_⟩, ?_⟩
    · rw [List.append_nil]
    · exact ⟨Journal.records_nil, rfl, vacant ▸ rfl⟩
  · refine (Journal.ends_openAmong holds.tidy found records).imp fun result after done => ?_
    obtain ⟨rfl, tidy, spares⟩ := done
    have still := holds_of_journal holds tidy (spares.mono (by simp))
    have kept := (spares.file _ Journal.isFile_path.plain (by simp)).trans found
    refine ⟨_, _, rfl, replayed, rfl, rfl, still, contents, deltas, ⟨tidy, _, kept, ?_⟩, ?_⟩
    · rw [List.append_nil]
    · exact ⟨records, rfl, replayed⟩

theorem ends_opening {α : Type} {action : FileAction α}
    {goal : Except StorageError α → FileSystem → Prop} :
    Work.Ends (opening action) files goal ↔
      Work.Ends action files fun result files => goal (result.mapError ioError) files :=
  Iff.rfl

/-- Stores are opened with what the files hold. -/
theorem ends_openIn (holds : files.Holds held lock) (replays : files.Replays held.nodes)
    (sorted : Table.Sorted held.nodes) :
    Work.Ends (openIn name config) files fun result _ =>
      ∃ stores, result = .ok stores ∧ stores.Holds held lock := by
  rw [openIn, Work.ends_bind, ends_opening]
  refine (ends_openJournal holds replays).imp fun result after done => ?_
  obtain ⟨entries, journal, rfl, made, same, flushed, holds, contents, deltas, isOpen,
    whole⟩ := done
  simp only [Result.mapError_ok, made, Work.ends_bind, ends_opening]
  have free : ∀ part ∈ shelvesPath, '/' ∉ part.toList := by decide
  have dotless : ∀ folder ∈ shelvesPath, '.' ∉ folder.toList := by decide
  refine (holds.tidy.ends_makeDirectories free dotless
    ⟨by decide +kernel, by decide +kernel⟩).imp fun result last done => ?_
  obtain ⟨rfl, tidy, spares, -⟩ := done
  simp only [Work.ends_get, Work.ends_pure]
  have still := holds_of_journal holds tidy (spares.mono (by simp))
  obtain ⟨-, front, found, pending⟩ := isOpen
  have kept := (spares.file _ Journal.isFile_path.plain (by simp)).trans (same ▸ found)
  exact ⟨_, rfl, still, rfl, sorted, ⟨contents, deltas, ⟨tidy, front, kept, pending⟩, whole⟩,
    flushed⟩

/-- Stores that are left leave a directory that holds the same. -/
theorem Holds.rests_release (holds : stores.Holds held lock) :
    (stores.release lock).Rests held := by
  have closed := (Journal.ends_flush_of_flushed holds.flushed).2
  obtain ⟨contents, deltas, ⟨tidy, front, found, whole⟩, records, -, replayed⟩ := holds.journal
  rw [holds.flushed, List.append_nil] at whole
  subst whole
  rw [release, Journal.close, show (Journal.flush.run stores.journal).2 = _ from closed]
  refine ⟨tidy.of_nodes_eq rfl ⟨tidy.quiet, tidy.ranged⟩, ?_, .inr ?_, holds.sorted, ?_, ?_⟩
  · simp [FileSystem.unlock, holds.files.locked]
  · exact ⟨_, _, _, found, records, replayed⟩
  · exact holds.files.catalog
  · exact holds.files.shelves

end DiskStores

/-! ## Libraries -/

namespace DiskLibrary

open DiskStores (answer Admits)

/-- A library on disk that shows what stores in memory hold. -/
structure Holds (disk : DiskLibrary) (library : Library) (held : MemoryStores) : Prop where
  /-- The library is the same. -/
  library_eq : disk.library = library
  /-- It shows what is held. -/
  mirrors : library.Mirrors held
  /-- Its stores hold it. -/
  stores : disk.stores.Holds held disk.lock

theorem ends_load {stores : DiskStores} (holds : stores.Holds held lock) {nodes : Namespace} :
    Action.Ends answer Admits Namespace.load nodes stores fun result nodes stores' =>
      result = .ok () ∧ nodes = .ofTable held.nodes ∧ stores' = stores := by
  have loaded : (answer .loadNodes stores).1 = .ok held.nodes := congrArg Except.ok holds.nodes_eq
  have counted : (answer .countNodes (answer .loadNodes stores).2).1 = .ok held.nodes.length :=
    congrArg (fun nodes : Table Entry => Except.ok nodes.length) holds.nodes_eq
  have entries : (Namespace.ofTable held.nodes).entries.length = held.nodes.length := rfl
  refine Action.ends_bind.mpr (Action.ends_ask.mpr ⟨trivial, ?_⟩)
  simp only [loaded, Result.mapError_ok, Action.ends_bind, Action.ends_set]
  refine Action.ends_bind.mpr (Action.ends_ask.mpr ⟨trivial, ?_⟩)
  simp only [counted, Result.mapError_ok, Action.ends_bind, Action.ends_get, Namespace.size_ofTable,
    entries, decide_true, Bool.and_self, if_true, Action.ends_pure]
  exact ⟨trivial, trivial, rfl⟩

/-- A library is read from its stores. -/
theorem ends_openStored (mirrors : library.Mirrors held) {stores : DiskStores}
    (holds : stores.Holds held lock) :
    Action.Ends answer Admits Library.openStored .empty stores fun result library' stores' =>
      result = .ok () ∧ library' = library ∧ stores'.Holds held lock := by
  rw [Library.openStored, Action.ends_bind, Library.onNodes, Action.ends_on]
  refine (ends_load holds).imp fun result nodes stores' done => ?_
  obtain ⟨rfl, rfl, rfl⟩ := done
  obtain ⟨reply, still⟩ := holds.ends_loadCatalog
  rw [Action.ends_bind, Action.ends_ask]
  refine ⟨trivial, ?_⟩
  change (answer .loadCatalog stores').1 = _ at reply
  simp only [reply, Result.mapError_ok, Action.ends_modify]
  refine ⟨trivial, ?_, still⟩
  obtain ⟨nodes, catalog, poisoned⟩ := library
  obtain rfl : nodes = .ofTable held.nodes := mirrors.nodes_eq
  obtain rfl : poisoned = false := mirrors.usable
  exact congrArg (Library.mk _ · false) mirrors.catalog_eq

/-- Where a library rests it can be opened, as it was before. -/
theorem openIn_of_rests (mirrors : library.Mirrors held) (rests : files.Rests held)
    (large : Config.minJournalSize ≤ config.maxJournalSize) :
    ∃ disk, openIn name config files = (.ok disk, disk.files) ∧ disk.Holds library held ∧
      disk.config = config := by
  have valid : config.validate = .ok config := if_neg (Nat.not_lt.mpr large)
  have taken := rests.ends_lock
  rcases locked : (FileSystem.lock lockPath).run files with ⟨result, between⟩
  rw [Work.Ends, locked] at taken
  obtain ⟨lock, rfl, holds, replays⟩ := taken
  have opened := @DiskStores.ends_openIn held lock between config name holds replays rests.sorted
  rcases made : (DiskStores.openIn name config).run between with ⟨result, after⟩
  rw [Work.Ends, made] at opened
  obtain ⟨stores, rfl, stored⟩ := opened
  have read := (ends_openStored mirrors stored).runOn
  rcases loaded : Action.runOn answer Library.openStored .empty stores with ⟨result, first, stores'⟩
  rw [loaded] at read
  obtain ⟨rfl, rfl, still⟩ := read
  refine ⟨⟨first, stores', lock, config⟩, ?_, ⟨rfl, mirrors, still⟩, rfl⟩
  rw [openIn, valid]
  simp only [locked, made, ofStores, loaded]
  rfl

/-- A library that is left leaves a directory in which it rests. -/
theorem Holds.rests_release {disk : DiskLibrary} (holds : disk.Holds library held) :
    disk.release.Rests held :=
  holds.stores.rests_release

end DiskLibrary

end ShelfLibrary
