import ShelfLibrary.Disk.Stores
import ShelfLibrary.Library.Transaction

/-!
# Libraries on disk

A library on disk is opened by one holder at a time, who keeps a lock on a file in its directory.
Opening reads the journal and the catalog; closing may rewrite the journal.  A holder who leaves
without closing releases the lock and nothing else.
-/

namespace ShelfLibrary

namespace DiskStores

/-- Work on files as a part of opening stores. -/
def opening {α : Type} (action : FileAction α) : ExceptT StorageError (StateM FileSystem) α :=
  fun files =>
    let (result, files) := action.run files
    (result.mapError ioError, files)

/-- Opens the stores in a directory: the journal with the table of nodes that it makes, and the
directory of the shelves. -/
def openIn (directory : String) (config : Config) :
    ExceptT StorageError (StateM FileSystem) DiskStores := do
  let (entries, journal) ← opening Journal.openAmong
  match tableOf [] entries with
  | .error cause => throw cause
  | .ok nodes =>
    opening (FileSystem.makeDirectories shelvesPath)
    return {
      directory := directory
      maxJournalSize := config.maxJournalSize
      journal := { journal with files := ← get }
      nodes := nodes }

/-- The files after the stores are left and a lock is released. -/
def release (stores : DiskStores) (lock : Nat) : FileSystem :=
  stores.journal.close.unlock lock

end DiskStores

/-- An open library on disk. -/
structure DiskLibrary where
  /-- The library. -/
  library : Library
  /-- Its stores. -/
  stores : DiskStores
  /-- The body of the lock file. -/
  lock : Nat
  /-- The settings. -/
  config : Config

namespace DiskLibrary

/-- The file that the holder of a library locks. -/
def lockPath : FilePath := [".lock"]

/-- The failure to take the lock. -/
def lockError : FileFault → StorageError
  | .busy => .locked
  | _ => .io

/-- The files around a library. -/
def files (disk : DiskLibrary) : FileSystem := disk.stores.journal.files

/-- The library with its files changed from outside. -/
def withFiles (disk : DiskLibrary) (files : FileSystem) : DiskLibrary :=
  { disk with stores.journal.files := files }

/-- Opens the library of stores that a lock guards. -/
def ofStores (config : Config) (lock : Nat) (stores : DiskStores) :
    Except LibraryError DiskLibrary × FileSystem :=
  match Action.runOn DiskStores.answer Library.openStored .empty stores with
  | (.ok (), library, stores) => (.ok ⟨library, stores, lock, config⟩, stores.journal.files)
  | (.error e, _, stores) => (.error e, stores.release lock)

/-- Opens the library in a directory, or makes one there. -/
def openIn (directory : String) (config : Config) (files : FileSystem) :
    Except LibraryError DiskLibrary × FileSystem :=
  match config.validate with
  | .error cause => (.error (.validation cause), files)
  | .ok config =>
    match (FileSystem.lock lockPath).run files with
    | (.error fault, files) => (.error (.storage (lockError fault)), files)
    | (.ok lock, files) =>
      match (DiskStores.openIn directory config).run files with
      | (.error cause, files) => (.error (.storage cause), files.unlock lock)
      | (.ok stores, _) => ofStores config lock stores

/-- Carries out a task. -/
def perform {α : Type} (task : Library.Task α) (disk : DiskLibrary) :
    Except LibraryError α × DiskLibrary :=
  let (result, library, stores) :=
    Action.runOn DiskStores.answer task disk.library disk.stores
  (result, { disk with library := library, stores := stores })

/-- What is done before a library is closed: the journal is rewritten if the settings say so and no
fault has ended the session. -/
def finish (compactOnClose : Bool) : Library.Task Unit := do
  if compactOnClose && !(← get).isPoisoned then
    Library.onNodes Namespace.compact

/-- Leaves the library without closing it. -/
def release (disk : DiskLibrary) : FileSystem :=
  disk.stores.release disk.lock

/-- Closes the library. -/
def close (disk : DiskLibrary) : Except LibraryError Unit × FileSystem :=
  let (result, disk) := disk.perform (finish disk.config.compactOnClose)
  (result, disk.release)

end DiskLibrary

end ShelfLibrary
