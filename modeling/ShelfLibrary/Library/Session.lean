import ShelfLibrary.Library.Basic

/-!
# Sessions

During one operation each shelf is read from its store once, and changes are held back.  They are
stored together at the end, in key order, so that an operation that fails before has stored nothing.
-/

namespace ShelfLibrary

/-- A shelf that has been read. -/
structure OpenShelf where
  /-- Where it is stored. -/
  location : Location
  /-- Its contents, as changed so far. -/
  contents : ShelfData
  /-- Whether they have been changed. -/
  isChanged : Bool

/-- The shelves that an operation has read, by key. -/
abbrev Session := Table OpenShelf

namespace Session

/-- Work on a library with a session. -/
abbrev Task (α : Type) := StateT Session (Action Library) α

/-- A shelf, read from its store if it has not been before. -/
def openShelf (key : String) (entry : Entry) : Task OpenShelf := do
  match Table.get? (← get) key with
  | some shelf => return shelf
  | none =>
    let stored ← (Action.ask (.loadShelf entry.location) : Action Library (Option ShelfData))
    let shelf : OpenShelf := ⟨entry.location, stored.getD .empty, false⟩
    modify fun session => Table.insert session key shelf
    return shelf

/-- The record of a shelf. -/
def record (key : String) (entry : Entry) : Task Record := do
  return (← openShelf key entry).contents.data

/-- Replaces the record of a shelf, to be stored at the end. -/
def replace (key : String) (entry : Entry) (data : Record) : Task Unit := do
  let shelf ← openShelf key entry
  let changed := { shelf with contents := { shelf.contents with data := data }, isChanged := true }
  modify fun session => Table.insert session key changed

/-- Stores the changed ones among some shelves. -/
def storeAll : List (String × OpenShelf) → Action Library Unit
  | [] => return ()
  | (_, shelf) :: rest => do
    if shelf.isChanged then
      let () ← Action.ask (.storeShelf shelf.location shelf.contents)
    storeAll rest

/-- Stores every changed shelf. -/
def commit : Task Unit := do
  storeAll (← get)

/-- Work with a session that begins and ends with it. -/
def once {α : Type} (task : Task α) : Action Library α :=
  task.run' []

end Session

end ShelfLibrary
