import ShelfLibrary.Disk.Library

/-!
# Directories of libraries

A directory in which a library may be open.  Opening a library that is open already fails on its
lock and leaves it open.  However a library is left, its files stay.
-/

namespace ShelfLibrary

/-- A directory with the library that is open in it, if there is one. -/
inductive LibraryDirectory where
  /-- No library is open. -/
  | closed (files : FileSystem)
  /-- A library is open. -/
  | opened (disk : DiskLibrary)

namespace LibraryDirectory

/-- A directory with nothing in it. -/
def empty : LibraryDirectory := .closed .empty

/-- The files of the directory. -/
def files : LibraryDirectory → FileSystem
  | .closed files => files
  | .opened disk => disk.files

/-- The directory with its files changed from outside. -/
def withFiles : LibraryDirectory → FileSystem → LibraryDirectory
  | .closed _, files => .closed files
  | .opened disk, files => .opened (disk.withFiles files)

/-- Does work on the files from outside. -/
def onFiles {α : Type} (action : FileAction α) (directory : LibraryDirectory) :
    Except FileFault α × LibraryDirectory :=
  let (result, files) := action.run directory.files
  (result, directory.withFiles files)

/-- Leaves the library, if it is open, without closing it. -/
def leave : LibraryDirectory → FileSystem
  | .closed files => files
  | .opened disk => disk.release

/-- Opens the library.  One that was open before is left once the new one is there. -/
def openLibrary (name : String) (config : Config) (directory : LibraryDirectory) :
    Except LibraryError Unit × LibraryDirectory :=
  match DiskLibrary.openIn name config directory.files with
  | (.ok disk, files) => (.ok (), .opened (disk.withFiles (directory.withFiles files).leave))
  | (.error cause, files) => (.error cause, directory.withFiles files)

/-- Closes the library, if it is open. -/
def close? : LibraryDirectory → Option (Except LibraryError Unit × LibraryDirectory)
  | .closed _ => none
  | .opened disk =>
    let (result, files) := disk.close
    some (result, .closed files)

/-- Carries out a task of the library, if it is open. -/
def perform? {α : Type} (task : Library.Task α) :
    LibraryDirectory → Option (Except LibraryError α × LibraryDirectory)
  | .closed _ => none
  | .opened disk =>
    let (result, disk) := disk.perform task
    some (result, .opened disk)

end LibraryDirectory

end ShelfLibrary
