import ShelfLibrary.Library.Change

/-!
# Executing queries

The operations of a transaction take effect together.  Before the first of them the nodes, the
catalog and the shelves that the operations may change are saved; when one of them fails all that is
put back.  If that fails too, memory and stores may disagree, and the library is poisoned.
-/

namespace ShelfLibrary

/-- A shelf as it was before a transaction. -/
structure SavedShelf where
  /-- Where it is stored. -/
  location : Location
  /-- Its contents, if there were any. -/
  contents : Option ShelfData

/-- What was there before a transaction. -/
structure Snapshot where
  /-- The nodes. -/
  nodes : Table Entry
  /-- The catalog. -/
  catalog : Catalog
  /-- The shelves that may be changed. -/
  shelves : List SavedShelf

namespace Snapshot

/-- Whether a shelf lies at, in or around one of some paths. -/
def isAffected (touched : List String) (key : String) : Bool :=
  touched.any fun path => Path.isWithin key path || Path.isWithin path key

/-- Reads the contents of shelves. -/
def saveShelves : List Namespace.Node → Library.Task (List SavedShelf)
  | [] => return []
  | (_, entry) :: rest => do
    let contents ← Action.ask (.loadShelf entry.location)
    return ⟨entry.location, contents⟩ :: (← saveShelves rest)

/-- Saves what the operations that touch some paths may change. -/
def capture (touched : List String) : Library.Task Snapshot := do
  let library ← get
  let affected := library.nodes.shelves.filter fun node => isAffected touched node.1
  return ⟨library.nodes.toTable, library.catalog, ← saveShelves affected⟩

/-- Whether a shelf was not there before: its key led to no shelf, or to one stored elsewhere. -/
def isNew (snapshot : Snapshot) (node : Namespace.Node) : Bool :=
  match Table.get? snapshot.nodes node.1 with
  | none => true
  | some old => !old.isShelf || old.location ≠ node.2.location

/-- Puts the contents of a shelf back. -/
def putBack (shelf : SavedShelf) : Library.Task Unit :=
  match shelf.contents with
  | some contents => Action.ask (.storeShelf shelf.location contents)
  | none => Action.ask (.deleteShelf shelf.location)

/-- Puts everything back: deletes new shelves and restores the others, the nodes and the catalog. -/
def restore (snapshot : Snapshot) : Library.Task Unit := do
  let created := (← get).nodes.shelves.filter snapshot.isNew
  created.forM fun node => Action.ask (.deleteShelf node.2.location)
  snapshot.shelves.forM putBack
  Library.onNodes (Namespace.restore snapshot.nodes)
  let () ← Action.ask (.saveCatalog snapshot.catalog)
  modify fun library => { library with catalog := snapshot.catalog }

/-- Puts everything back; that this fails is a fault. -/
def rollback (snapshot : Snapshot) : Library.Task Unit := do
  try
    snapshot.restore
  catch e =>
    throw (.rollbackFailed e)

end Snapshot

namespace Library

/-- Carries out operations one after another; the first that fails is undone with those before. -/
def performAll (snapshot : Snapshot) : List Operation → Task (List Outcome)
  | [] => return []
  | operation :: rest => do
    let outcome ←
      try
        perform operation
      catch e =>
        snapshot.rollback
        throw e
    return outcome :: (← performAll snapshot rest)

/-- Carries out operations together. -/
def transact (operations : List Operation) : Task Outcome := do
  let snapshot ← Snapshot.capture (operations.flatMap Operation.touchedPaths)
  return .transaction (← performAll snapshot operations)

/-- Carries out a query. -/
def answer : Query → Task Outcome
  | .single operation => perform operation
  | .transaction operations => transact operations

/-- Carries out a query, unless the library is poisoned; a fault poisons it. -/
def execute (query : Query) : Task Outcome := do
  if (← get).isPoisoned then throw .poisoned
  try
    answer query
  catch e =>
    if e.isFatal then
      modify fun library => { library with isPoisoned := true }
    throw e

/-- Carries out the query of a text. -/
def executeText (source : String) : Task Outcome := do
  execute (← Action.validated (Query.ofText source))

end Library

end ShelfLibrary
