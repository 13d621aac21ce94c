import ShelfLibrary.Disk.FileSystem
import ShelfLibrary.Namespace.Delta
import ShelfLibrary.Value.Tagged

/-!
# Journals

A journal is a file of changes, numbered from one without gaps, that is only added to.  The changes
of a journal are what can be read from its beginning; what follows them, cut off or damaged, is
dropped when the journal is opened.  A journal can be rewritten whole, through a file beside it.

What is added goes through a buffer.  Bytes that could not be written stay in it and go first the
next time, as do the bytes of a change that was refused for that.
-/

namespace ShelfLibrary

/-- A change in a journal. -/
structure JournalEntry where
  /-- Its number. -/
  sequence : Nat
  /-- When it was written. -/
  moment : Instant
  /-- The change. -/
  delta : Delta

namespace JournalEntry

/-- The moment that entries carry.  Nothing depends on it but the size of the file, so that it is
written with all nine digits of its fraction. -/
def stamp : Instant :=
  (Instant.ofStrict? "2024-01-01T00:00:00.123456789Z").getD default

/-- The entry of a change under a number. -/
def number (sequence : Nat) (delta : Delta) : JournalEntry := ⟨sequence, stamp, delta⟩

/-- The document of an entry. -/
def toJson (entry : JournalEntry) : Json :=
  .object [
    ("sequence", .int entry.sequence),
    ("timestamp", .text entry.moment.zuluText),
    ("delta", entry.delta.toJson)]

/-- The members of the document of an entry. -/
def shape : Shape [Nat, Instant, Delta] :=
  .field "sequence" (Decoder.nat64 "u64") none <|
  .field "timestamp" Value.decodeInstant none <|
  .field "delta" Delta.decode none .done

/-- The entry of a document. -/
def decode : Decoder JournalEntry := fun found => do
  let (sequence, moment, delta, ()) ← shape.decoder "JournalEntry" false found
  return ⟨sequence, moment, delta⟩

/-- The bytes of an entry. -/
def encode (entry : JournalEntry) : Except FrameFault Bytes :=
  Frame.ofJson entry.toJson

end JournalEntry

/-- An open journal, and the files around it. -/
structure Journal where
  /-- The files. -/
  files : FileSystem
  /-- The body that is written to. -/
  body : Nat
  /-- Bytes that are still to be written. -/
  pending : Bytes
  /-- The number of the last entry. -/
  sequence : Nat

namespace Journal

/-- Work on a journal, which may fail; a failure keeps what has been done. -/
abbrev Task (α : Type) := ExceptT FileFault (StateM Journal) α

/-- Where the journal is. -/
def path : FilePath := ["namespace.journal"]

/-- Where the journal is rewritten. -/
def pathAside : FilePath := ["namespace.journal.tmp"]

/-- How many bytes the buffer holds. -/
def capacity : Nat := 8192

/-! ## Reading -/

/-- The entries at the front of bytes from a number on, and how many bytes they take. -/
def entriesFrom : Nat → Nat → Bytes → List JournalEntry × Nat
  | 0, _, _ => ([], 0)
  | fuel + 1, sequence, bytes =>
    match Frame.read bytes with
    | .error _ => ([], 0)
    | .ok (payload, rest) =>
      match Frame.decodePayload JournalEntry.decode payload with
      | .error _ => ([], 0)
      | .ok entry =>
        if entry.sequence = sequence then
          let (entries, length) := entriesFrom fuel (sequence + 1) rest
          (entry :: entries, payload.length + 9 + length)
        else ([], 0)

/-- The entries of a file, and the length of the part of the file that they end. -/
def replay (contents : Bytes) : Except FrameFault (List JournalEntry × Nat) := do
  let rest ← Frame.afterHeader contents
  let (entries, length) := entriesFrom rest.length 1 rest
  return (entries, Frame.header.length + length)

/-- The number of the last of some entries. -/
def lastSequence (entries : List JournalEntry) : Nat :=
  (entries.getLast?.map JournalEntry.sequence).getD 0

/-- The contents of the journal, if there are any. -/
def contents? : FileAction (Option Bytes) := do
  match ← FileSystem.find path with
  | none => return none
  | some .directory => throw .isDirectory
  | some (.file _) =>
    let contents ← FileSystem.read path
    return if contents.isEmpty then none else some contents

/-- Reads the entries of the journal and cuts off what follows them; makes a new journal where there
is none. -/
def recover : FileAction (List JournalEntry) := do
  match ← contents? with
  | none =>
    FileSystem.overwrite path Frame.header
    return []
  | some contents =>
    match replay contents with
    | .error fault => throw (.malformed fault)
    | .ok (entries, length) =>
      if length < contents.length then FileSystem.truncate path length
      return entries

/-- Opens the journal among some files: its entries, and the journal after them. -/
def openAmong : FileAction (List JournalEntry × Journal) := do
  let entries ← recover
  let number ← FileSystem.openToAppend path
  return (entries, ⟨← get, number, [], lastSequence entries⟩)

/-- The entries that a journal of given contents is opened with. -/
def entriesOf (contents : Bytes) : Except FileFault (List JournalEntry) :=
  let copied : FileAction (List JournalEntry) := do
    FileSystem.overwrite path contents
    recover
  (copied.run FileSystem.empty).1

/-! ## Writing -/

/-- Work on the files around a journal. -/
def onFiles {α : Type} (action : FileAction α) : Task α := fun journal =>
  let (result, files) := action.run journal.files
  (result, { journal with files := files })

/-- Writes the buffer out. -/
def flush : Task Unit := do
  let journal ← get
  if journal.pending.isEmpty then return ()
  match ← onFiles (FileSystem.append journal.body journal.pending) with
  | none => modify fun journal => { journal with pending := [] }
  | some rest =>
    modify fun journal => { journal with pending := rest }
    throw .refused

/-- Puts bytes into the buffer, which is written out before if they do not fit.  Bytes that are more
than the buffer holds are written at once and never kept. -/
def buffer (bytes : Bytes) : Task Unit := do
  if capacity < (← get).pending.length + bytes.length then flush
  if capacity ≤ bytes.length then
    onFiles (FileSystem.write (← get).body bytes)
  else modify fun journal => { journal with pending := journal.pending ++ bytes }

/-- The bytes of an entry, or the failure to write it. -/
def encoded (entry : JournalEntry) : Task Bytes :=
  match entry.encode with
  | .ok bytes => return bytes
  | .error fault => throw (.malformed fault)

/-- Adds a change and gives back its number. -/
def append (delta : Delta) : Task Nat := do
  let sequence := (← get).sequence + 1
  buffer (← encoded (.number sequence delta))
  flush
  modify fun journal => { journal with sequence := sequence }
  return sequence

/-- The size of the file. -/
def size : Task Nat := onFiles (FileSystem.size path)

/-- The bytes of changes numbered from one on. -/
def encodedFrom (sequence : Nat) : List Delta → Task Bytes
  | [] => return []
  | delta :: rest => do
    let bytes ← encoded (.number sequence delta)
    return bytes ++ (← encodedFrom (sequence + 1) rest)

/-- Replaces the journal by one of other changes. -/
def rewrite (deltas : List Delta) : Task Unit := do
  flush
  let number ← onFiles (FileSystem.create pathAside)
  let bytes ← encodedFrom 1 deltas
  onFiles (FileSystem.write number (Frame.header ++ bytes))
  onFiles (FileSystem.rename pathAside path)
  let number ← onFiles (FileSystem.openToAppend path)
  modify fun journal =>
    { journal with body := number, pending := [], sequence := deltas.length }

/-- Closes the journal: what is left in the buffer is written out if that succeeds. -/
def close (journal : Journal) : FileSystem :=
  (flush.run journal).2.files

end Journal

end ShelfLibrary
