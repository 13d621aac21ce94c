import ShelfLibrary.Error

/-!
# Settings of libraries on disk

How a library keeps its files: whether it waits for each write to reach the disk, how long the
journal may get before it is rewritten, and whether it is rewritten when the library is closed.
-/

namespace ShelfLibrary

/-- Settings of a library on disk. -/
structure Config where
  /-- Whether each write has to reach the disk before work goes on. -/
  syncOnWrite : Bool
  /-- The size of the journal, in bytes, beyond which it is rewritten. -/
  maxJournalSize : Nat
  /-- Whether closing the library rewrites the journal. -/
  compactOnClose : Bool
deriving DecidableEq, Repr

namespace Config

/-- The usual settings. -/
def usual : Config := ⟨true, 16 * 1024 * 1024, true⟩

/-- The least size that a journal has to be allowed. -/
def minJournalSize : Nat := 4 * 1024

/-- The settings, if the journal is allowed enough bytes. -/
def validate (config : Config) : Except ValidationError Config :=
  if config.maxJournalSize < minJournalSize then
    .error (.invalidField "max_journal_size" (.smallJournal minJournalSize config.maxJournalSize))
  else .ok config

end Config

end ShelfLibrary
