import ShelfLibrary.Disk.Frame
import ShelfLibrary.Path
import ShelfLibrary.Table

/-!
# File systems

The directory of a library as a table of paths.  A file is a name for a body; an open file keeps its
body when the name is given to another one or taken away.  Every step can be made to fail: a plan of
faults decides it by the number of steps taken before, and an append that fails may have written a
part of its bytes.
-/

namespace ShelfLibrary

/-- Why a file operation fails. -/
inductive FileFault where
  /-- There is nothing at the path. -/
  | missing
  /-- There is a directory at the path. -/
  | isDirectory
  /-- The system refuses for another reason. -/
  | refused
  /-- The file is locked. -/
  | busy
  /-- The file does not hold what it should. -/
  | malformed (fault : FrameFault)

/-- The names on the way to a file or directory, from the directory of the library on. -/
abbrev FilePath := List String

/-- What a path leads to. -/
inductive FileNode where
  /-- A file with its body. -/
  | file (body : Nat)
  /-- A directory. -/
  | directory
deriving DecidableEq

/-- The directory of a library. -/
structure FileSystem where
  /-- What is at each path. -/
  nodes : Table FileNode
  /-- The contents of the bodies by number. -/
  bodies : List Bytes
  /-- The bodies that are locked. -/
  locked : List Nat
  /-- How many steps have been taken. -/
  steps : Nat
  /-- Which steps fail, by the number of steps before; an append writes so many bytes before. -/
  faults : Nat → Option Nat

/-- Work on a file system, which may fail; a failure keeps what has been done. -/
abbrev FileAction (α : Type) := ExceptT FileFault (StateM FileSystem) α

namespace FilePath

/-- The path as one text. -/
def text (path : FilePath) : String := "/".intercalate path

/-- The path of a text with slashes between the names. -/
def ofText (s : String) : FilePath :=
  ((Path.split '/' s.toList).map String.ofList).filter fun name => name != "" && name != "."

/-- The greatest size of a name. -/
def nameLimit : Nat := 255

/-- The greatest size of a path. -/
def sizeLimit : Nat := 4064

/-- Whether the system can have such a path at all. -/
def isPossible (path : FilePath) : Bool :=
  (text path).utf8ByteSize ≤ sizeLimit && path.all fun name => !name.toList.contains '\x00'

end FilePath

namespace FileSystem

/-- A directory with nothing in it, all of whose steps succeed. -/
def empty : FileSystem := ⟨[], [], [], 0, fun _ => none⟩

/-- The contents of a body. -/
def body (files : FileSystem) (number : Nat) : Bytes :=
  files.bodies[number]?.getD []

/-- What names lead to, from a directory on; nothing if only the last of them is missing. -/
def walk (files : FileSystem) (above : FilePath) : List String → Except FileFault (Option FileNode)
  | [] => .ok (some .directory)
  | name :: rest =>
    if FilePath.nameLimit < name.utf8ByteSize then .error .refused
    else
      let path := above ++ [name]
      match Table.get? files.nodes (FilePath.text path), rest with
      | none, [] => .ok none
      | none, _ => .error .missing
      | some (.file number), [] => .ok (some (.file number))
      | some (.file _), _ => .error .refused
      | some .directory, rest => walk files path rest

/-- What a path leads to; nothing if only its last name is missing. -/
def locate (files : FileSystem) (path : FilePath) : Except FileFault (Option FileNode) :=
  if path.isPossible then files.walk [] path else .error .refused

/-- The directories and files, directories with a slash at the end. -/
def listing (files : FileSystem) : List String :=
  Table.keys (Table.ofEntries (files.nodes.map fun (path, node) =>
    (match node with | .file _ => path | .directory => path ++ "/", ())))

/-- Puts a node at a path. -/
def put (files : FileSystem) (path : FilePath) (node : FileNode) : FileSystem :=
  { files with nodes := Table.insert files.nodes path.text node }

/-- Takes the node at a path away. -/
def erase (files : FileSystem) (path : FilePath) : FileSystem :=
  { files with nodes := Table.erase files.nodes path.text }

/-- Replaces the contents of a body. -/
def setBody (files : FileSystem) (number : Nat) (contents : Bytes) : FileSystem :=
  { files with bodies := files.bodies.set number contents }

/-- Whether something lies below a path. -/
def hasBelow (files : FileSystem) (path : FilePath) : Bool :=
  files.nodes.any fun entry => (path.text ++ "/").toList.isPrefixOf entry.1.toList

/-! ## Steps -/

/-- Counts a step; how far it gets if it is one that fails. -/
def fault? : FileAction (Option Nat) := do
  let files ← get
  set { files with steps := files.steps + 1 }
  return files.faults files.steps

/-- Takes a step that may be made to fail before it has an effect. -/
def step {α : Type} (action : FileAction α) : FileAction α := do
  match ← fault? with
  | some _ => throw .refused
  | none => action

/-- What a path leads to. -/
def find (path : FilePath) : FileAction (Option FileNode) := fun files =>
  (files.locate path, files)

/-- What a path leads to, if there is something. -/
def require (path : FilePath) : FileAction FileNode := do
  match ← find path with
  | some node => return node
  | none => throw .missing

/-- The contents of a file. -/
def read (path : FilePath) : FileAction Bytes := step do
  match ← require path with
  | .file number => return (← get).body number
  | .directory => throw .isDirectory

/-- The size of a file; a directory counts as empty. -/
def size (path : FilePath) : FileAction Nat := step do
  match ← require path with
  | .file number => return ((← get).body number).length
  | .directory => return 0

/-- Opens a file to write from its beginning: an old one is emptied, a new one is made. -/
def create (path : FilePath) : FileAction Nat := step do
  match ← find path with
  | some (.file number) =>
    modify fun files => files.setBody number []
    return number
  | some .directory => throw .isDirectory
  | none =>
    let files ← get
    let number := files.bodies.length
    set ({ files with bodies := files.bodies ++ [[]] }.put path (.file number))
    return number

/-- Opens a file to write at its end. -/
def openToAppend (path : FilePath) : FileAction Nat := step do
  match ← require path with
  | .file number => return number
  | .directory => throw .isDirectory

/-- Writes bytes at the end of an open file; the bytes that are left if that fails. -/
def append (number : Nat) (bytes : Bytes) : FileAction (Option Bytes) := do
  match ← fault? with
  | none =>
    modify fun files => files.setBody number (files.body number ++ bytes)
    return none
  | some count =>
    modify fun files => files.setBody number (files.body number ++ bytes.take count)
    return some (bytes.drop count)

/-- Writes bytes at the end of an open file. -/
def write (number : Nat) (bytes : Bytes) : FileAction Unit := do
  match ← append number bytes with
  | none => return ()
  | some _ => throw .refused

/-- Cuts a file off after its first bytes. -/
def truncate (path : FilePath) (length : Nat) : FileAction Unit := step do
  match ← require path with
  | .file number => modify fun files => files.setBody number ((files.body number).take length)
  | .directory => throw .isDirectory

/-- Gives a file another path; a file that was there loses it. -/
def rename (source target : FilePath) : FileAction Unit := step do
  match ← require source, ← find target with
  | _, some .directory => throw .isDirectory
  | node, _ => modify fun files => (files.erase source).put target node

/-- Takes a file away. -/
def remove (path : FilePath) : FileAction Unit := step do
  match ← require path with
  | .file _ => modify fun files => files.erase path
  | .directory => throw .isDirectory

/-- Takes an empty directory away. -/
def removeDirectory (path : FilePath) : FileAction Unit := step do
  match ← require path with
  | .file _ => throw .refused
  | .directory =>
    if (← get).hasBelow path then throw .refused
    modify fun files => files.erase path

/-- Makes the directories on a way where there are none. -/
def makeFrom (above : FilePath) : List String → FileAction Unit
  | [] => return ()
  | name :: rest => do
    let path := above ++ [name]
    match ← find path with
    | some .directory => pure ()
    | some (.file _) => throw .refused
    | none => modify fun files => files.put path .directory
    makeFrom path rest

/-- Makes a directory with those around it. -/
def makeDirectories (path : FilePath) : FileAction Unit := step do
  if !path.isPossible then throw .refused
  makeFrom [] path

/-- Writes a file, in place of one that may be there. -/
def overwrite (path : FilePath) (bytes : Bytes) : FileAction Unit := do
  write (← create path) bytes

/-- Writes a file through another one beside it: either the old contents are there or the new. -/
def overwriteThrough (aside path : FilePath) (bytes : Bytes) : FileAction Unit := do
  makeDirectories path.dropLast
  overwrite aside bytes
  rename aside path

/-- Writes bytes at the end of a file that is there. -/
def extend (path : FilePath) (bytes : Bytes) : FileAction Unit := do
  write (← openToAppend path) bytes

/-- Cuts bytes off the end of a file. -/
def shorten (path : FilePath) (count : Nat) : FileAction Unit := do
  truncate path ((← size path) - count)

/-- Changes one byte of a file; a negative position counts from the end. -/
def alter (path : FilePath) (position : Int) (change : UInt8 → UInt8) : FileAction Unit := do
  let bytes ← read path
  let index := if position < 0 then bytes.length + position else position
  if index < 0 || (bytes.length : Int) ≤ index then throw .refused
  overwrite path (bytes.modify index.toNat change)

/-! ## Locks -/

/-- What the holder of a lock writes into the file. -/
def holder : Bytes := [0x31]

/-- Locks a file, which is made if it is missing. -/
def lock (path : FilePath) : FileAction Nat := step do
  let number ← match ← find path with
    | some (.file number) => pure number
    | some .directory => throw .isDirectory
    | none =>
      let files ← get
      let number := files.bodies.length
      set ({ files with bodies := files.bodies ++ [[]] }.put path (.file number))
      pure number
  if (← get).locked.contains number then throw .busy
  modify fun files =>
    { files.setBody number holder with locked := number :: files.locked }
  return number

/-- Releases a lock. -/
def unlock (files : FileSystem) (number : Nat) : FileSystem :=
  { files with locked := files.locked.erase number }

end FileSystem

end ShelfLibrary
