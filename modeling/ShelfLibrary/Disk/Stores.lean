import ShelfLibrary.Disk.Config
import ShelfLibrary.Disk.Journal
import ShelfLibrary.Store.Call

/-!
# Stores on disk

The table of nodes is kept in memory and in a journal, to which each change is added before it is
made.  Every shelf is one file, and the catalog is another; both are replaced as a whole.  What is
read from a file is held against its checksum.
-/

namespace ShelfLibrary

/-- Stores in a directory. -/
structure DiskStores where
  /-- The name of the directory in messages. -/
  directory : String
  /-- The size beyond which the journal is rewritten. -/
  maxJournalSize : Nat
  /-- The journal and the other files. -/
  journal : Journal
  /-- The table of nodes. -/
  nodes : Table Entry

namespace DiskStores

/-- Work on stores in a directory, which may fail; a failure keeps what has been done. -/
abbrev Task (α : Type) := ExceptT StorageError (StateM DiskStores) α

/-- The failure of a file operation as that of a store. -/
def ioError (_ : FileFault) : StorageError := .io

/-- The failure to read a file of a name: the file does not hold what it should, or it is none. -/
def damaged (name : String) : FileFault → StorageError
  | .malformed fault => .corrupted (name ++ ": " ++ fault.message)
  | .isDirectory => .corrupted (name ++ ": <os>")
  | _ => .io

/-- Work on the journal. -/
def onJournal {α : Type} (task : Journal.Task α) : Task α := fun stores =>
  let (result, journal) := task.run stores.journal
  (result.mapError ioError, { stores with journal := journal })

/-- Work on the files, with the failures that a function gives it. -/
def onFiles {α : Type} (failure : FileFault → StorageError) (action : FileAction α) : Task α :=
  fun stores =>
    let (result, files) := action.run stores.journal.files
    (result.mapError failure, { stores with journal.files := files })

/-! ## Nodes -/

/-- The changes that make a table of nodes. -/
def puts (nodes : Table Entry) : List Delta :=
  nodes.map fun (key, entry) => .put key entry

/-- Rewrites the journal from the table of nodes. -/
def compact : Task Unit := do
  onJournal (Journal.rewrite (puts (← get).nodes))

/-- Adds a change to the journal, makes it in the table, and rewrites the journal if that has become
too long. -/
def change (delta : Delta) : Task Unit := do
  let stores ← get
  match delta.apply stores.nodes with
  | .error cause => throw cause
  | .ok nodes =>
    let _ ← onJournal (Journal.append delta)
    modify fun stores => { stores with nodes := nodes }
    let size ← onJournal Journal.size
    if stores.maxJournalSize < size then compact

/-- The table that the entries of a journal make. -/
def tableOf (table : Table Entry) : List JournalEntry → Except StorageError (Table Entry)
  | [] => .ok table
  | entry :: rest =>
    match entry.delta.apply table with
    | .ok table => tableOf table rest
    | .error cause =>
      .error (.corrupted ("journal entry " ++ natText entry.sequence ++ " does not replay: " ++
        cause.message))

/-! ## Shelves -/

/-- The name of the directory of the shelves. -/
def shelvesName : String := "shelves"

/-- The directory of the shelves. -/
def shelvesPath : FilePath := [shelvesName]

/-- The file of a shelf. -/
structure ShelfFile where
  /-- The directory around it. -/
  directory : FilePath
  /-- Its name without the ending. -/
  name : String
  /-- Its path for the reader of a message. -/
  shown : String

namespace ShelfFile

/-- The path of the file. -/
def path (file : ShelfFile) : FilePath := file.directory ++ [file.name ++ ".shelf"]

/-- The path of the file through which it is replaced. -/
def pathAside (file : ShelfFile) : FilePath := file.directory ++ [file.name ++ ".tmp"]

/-- Whether a part of a place means the directory in which it stands. -/
def isVoid (part : String) : Bool := part == "" || part == "."

/-- Whether the parts of a place stay below the directory in which they begin. -/
def isPlain : List String → Bool
  | [] => true
  | first :: rest => !isVoid first && (first :: rest).all (· != "..")

/-- The parts of a place up to the last one that is a name. -/
def withoutVoidEnd (parts : List String) : List String :=
  (parts.reverse.dropWhile isVoid).reverse

/-- The parts of a place; the empty place has none. -/
def partsOf (place : String) : List String :=
  if place = "" then [] else (Path.split '/' place.toList).map String.ofList

/-- The file of the shelf at a place, if the parts of the place are plain: the last part, counted
from the directory of the shelves, is given the ending. -/
def ofPlace? (root place : String) : Option ShelfFile :=
  let parts := partsOf place
  if !isPlain parts then none
  else
    let parts := withoutVoidEnd (shelvesPath ++ parts)
    match parts.getLast? with
    | none => none
    | some name =>
      let around := withoutVoidEnd parts.dropLast
      some {
        directory := around.filter fun part => !isVoid part
        name := name
        shown := "/".intercalate ([root] ++ around ++ [name ++ ".shelf"]) }

end ShelfFile

/-- The file of the shelf at a location, or the refusal of the location. -/
def shelfFile (root : String) (location : Location) : Except StorageError ShelfFile :=
  match ShelfFile.ofPlace? root location.path with
  | some file => .ok file
  | none => .error (.backend ("invalid shelf location '" ++ location.path ++ "'"))

/-- The file of the shelf at a location. -/
def fileOf (location : Location) : Task ShelfFile := do
  match shelfFile (← get).directory location with
  | .ok file => return file
  | .error cause => throw cause

/-- The contents of a file; nothing if there is no such file. -/
def readIfThere (path : FilePath) : FileAction (Option Bytes) := do
  try
    some <$> FileSystem.read path
  catch fault =>
    match fault with
    | .missing => pure none
    | fault => throw fault

/-- What a decoder reads off a file; nothing if there is no such file. -/
def readDocument {α : Type} (path : FilePath) (decode : Decoder α) : FileAction (Option α) := do
  match ← readIfThere path with
  | none => return none
  | some contents =>
    match Frame.decodeFile decode contents with
    | .ok value => return some value
    | .error fault => throw (.malformed fault)

/-- The file of a document, or the refusal of a document that is too long. -/
def fileBytes (document : Json) : Task Bytes :=
  match Frame.fileOfJson document with
  | .ok bytes => return bytes
  | .error _ => throw .unencodable

/-- The contents of a shelf. -/
def loadShelf (location : Location) : Task (Option ShelfData) := do
  let file ← fileOf location
  onFiles (damaged file.shown) (readDocument file.path ShelfData.decode)

/-- Replaces the contents of a shelf. -/
def storeShelf (location : Location) (contents : ShelfData) : Task Unit := do
  let file ← fileOf location
  let bytes ← fileBytes contents.toJson
  onFiles ioError (FileSystem.overwriteThrough file.pathAside file.path bytes)

/-- Removes directories, innermost first, for as long as they are empty; `names` are their names in
the directory of the shelves, the last one first. -/
def prune : List String → FileAction Unit
  | [] => return ()
  | names@(_ :: around) => do
    try
      FileSystem.removeDirectory (shelvesPath ++ names.reverse)
      prune around
    catch _ =>
      pure ()

/-- Removes a file, if it is there, with the directories that are empty without it. -/
def removeFile (file : ShelfFile) : FileAction Unit := do
  FileSystem.remove file.path
  prune (file.directory.drop shelvesPath.length).reverse

/-- Drops the contents of a shelf. -/
def deleteShelf (location : Location) : Task Unit := do
  let file ← fileOf location
  onFiles ioError do
    try
      removeFile file
    catch fault =>
      match fault with
      | .missing => pure ()
      | fault => throw fault

/-! ## Catalog -/

/-- The file of the catalog. -/
def catalogPath : FilePath := ["catalog.bin"]

/-- The file through which the catalog is replaced. -/
def catalogAside : FilePath := ["catalog.tmp"]

/-- The catalog, if one has been stored. -/
def loadCatalog : Task (Option Catalog) := do
  let shown := FilePath.text ((← get).directory :: catalogPath)
  onFiles (damaged shown) (readDocument catalogPath Catalog.decode)

/-- Replaces the catalog. -/
def saveCatalog (catalog : Catalog) : Task Unit := do
  let bytes ← fileBytes catalog.toJson
  onFiles ioError (FileSystem.overwriteThrough catalogAside catalogPath bytes)

/-! ## All stores -/

/-- How a call is answered. -/
def serve : (call : StoreCall) → Task call.Answer
  | .loadNodes => do return (← get).nodes
  | .changeNodes delta => change delta
  | .countNodes => do return (← get).nodes.length
  | .compactNodes => compact
  | .loadShelf location => loadShelf location
  | .storeShelf location contents => storeShelf location contents
  | .deleteShelf location => deleteShelf location
  | .loadCatalog => loadCatalog
  | .saveCatalog catalog => saveCatalog catalog

/-- How stores on disk answer. -/
def answer : Stores DiskStores := fun call stores => (serve call).run stores

end DiskStores

end ShelfLibrary
