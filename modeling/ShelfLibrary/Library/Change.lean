import ShelfLibrary.Library.Checkout

/-!
# Changing a library

What each operation does.  An operation looks at everything that may refuse it before it stores
anything, and stores in an order that leaves no registered shelf without contents if a store fails
in between.
-/

namespace ShelfLibrary.Library

/-- Registers a section; if the catalog cannot be stored, the section is removed again. -/
def buildSection (step : BuildSection) : Task Outcome := do
  let key ← resolving fun nodes => nodes.resolveTarget step.path step.name
  onNodes (Namespace.add key (.ofSection key))
  try
    editCatalog fun catalog => catalog.register key step.schema step.metadata
  catch e =>
    let _ ← onNodes (Namespace.remove key)
    throw e
  return .built key .section

/-- The record of an instance under the schema that binds a section. -/
def conformInstance (parent : Option String) (inst : SchemaInstance) : Task Record := do
  match (← get).boundSchema? parent with
  | none => return inst.data
  | some bound =>
    if inst.schema.isA bound then Action.validated (bound.validate inst.data)
    else throw (.validation (.schemaViolation bound.name (.unrelated inst.schema.name bound.name)))

/-- Drops the contents of a shelf; it does no harm if they stay. -/
def discard (location : Location) : Task Unit := do
  try
    let () ← Action.ask (.deleteShelf location)
  catch _ =>
    return ()

/-- The record that a new shelf begins with. -/
def firstRecord (step : BuildShelf) : Task Record :=
  match step.data with
  | some inst => conformInstance step.path inst
  | none => return []

/-- Stores the contents of a shelf and then registers it. -/
def buildShelf (step : BuildShelf) : Task Outcome := do
  let key ← resolving fun nodes => nodes.resolveTarget step.path step.name
  let data ← firstRecord step
  let entry := Entry.ofShelf key
  let () ← Action.ask (.storeShelf entry.location ⟨data, step.metadata⟩)
  try
    onNodes (Namespace.add key entry)
  catch e =>
    discard entry.location
    throw e
  return .built key .shelf

/-- A record with new fields; none of them may hold a value already. -/
def addFields (path : String) (record : Record) : Record → Except LibraryError Record
  | [] => .ok record
  | (field, value) :: rest =>
    if (Table.get? record field).any fun old => !old.isNull then
      .error (.resolution (.alreadyHasData (Path.join (some path) field)))
    else addFields path (Table.insert record field value) rest

/-- Puts new fields on a shelf. -/
def write (step : Write) : Task Outcome := Session.once do
  let entry ← resolving fun nodes => nodes.resolveShelf step.path
  let record ← Session.record step.path entry
  let widened ← (Action.ofExcept (addFields step.path record step.data) : Task Record)
  let normal ← conform step.path widened
  Session.replace step.path entry normal
  Session.commit
  return .written step.path step.data.length

/-- Overwrites fields of candidates. -/
def reviseAll (data : Record) : List Candidate → Session.Task Unit
  | [] => return ()
  | candidate :: rest => do
    let normal ← conform candidate.key (Table.overwrite candidate.record data)
    Session.replace candidate.key candidate.entry normal
    reviseAll data rest

/-- Overwrites fields on every shelf at or under a path that the filter keeps. -/
def revise (step : Revise) : Task Outcome := Session.once do
  let selected ← find step.path step.filters
  reviseAll step.data selected
  Session.commit
  return .revised selected.length

/-- Removes the key of a shelf and then its contents. -/
def deleteShelf (key : String) (entry : Entry) : Task Unit := do
  let _ ← onNodes (Namespace.remove key)
  Action.ask (.deleteShelf entry.location)

/-- Removes nodes one after another, with the contents of the shelves among them. -/
def deleteNodes : List Namespace.Node → Task Unit
  | [] => return ()
  | (key, entry) :: rest => do
    let _ ← onNodes (Namespace.remove key)
    if entry.isShelf then
      let () ← Action.ask (.deleteShelf entry.location)
    deleteNodes rest

/-- Removes a section with everything in it, what lies deeper first. -/
def deleteSection (key : String) : Task Nat := do
  let nodes := (← get).nodes.subtree key
  deleteNodes nodes.reverse
  editCatalog fun catalog => catalog.removeSubtree key
  return nodes.length

/-- Changes the field at a path, if it is there, and checks the shelf again. -/
def editField (path : String) (edit : Record → List String → Option Record) : Task Unit :=
  Session.once do
    let address ← resolving fun nodes => nodes.resolveField path
    let record ← Session.record address.shelf address.entry
    match edit record address.names with
    | none => throw (.resolution (.notFound path))
    | some edited =>
      let normal ← conform address.shelf edited
      Session.replace address.shelf address.entry normal
      Session.commit

/-- Removes the shelves that a filter keeps, a shelf, a section or a field. -/
def remove (step : Remove) : Task Outcome := do
  if let some filters := step.filters then
    let selected ← Session.once (find step.path (some filters))
    selected.forM fun candidate => deleteShelf candidate.key candidate.entry
    return .removed selected.length
  else if step.isShelf then
    let entry ← resolving fun nodes => nodes.resolveShelf step.path
    deleteShelf step.path entry
    return .removed 1
  else if step.isSection then
    let _ ← resolving fun nodes => nodes.resolveSection step.path
    return .removed (← deleteSection step.path)
  else
    editField step.path Record.remove?
    return .removed 1

/-- The shelves that a reset means. -/
def resetTargets (step : Reset) : Session.Task (List Candidate) := do
  if let some filters := step.filters then
    find step.path (some filters)
  else if step.isShelf then
    let _ ← resolving fun nodes => nodes.resolveShelf step.path
    gather step.path
  else
    let _ ← resolving fun nodes => nodes.resolveSection step.path
    gather step.path

/-- Empties shelves. -/
def emptyShelves (step : Reset) : Task Nat := Session.once do
  let targets ← resetTargets step
  targets.forM fun target => Session.replace target.key target.entry []
  Session.commit
  return targets.length

/-- Empties the shelves that a filter keeps, a shelf, all shelves of a section, or a field. -/
def reset (step : Reset) : Task Outcome := do
  if step.filters.isSome || step.isShelf || step.isSection then
    return .reset (← emptyShelves step)
  else
    editField step.path fun record names => Record.assign? record names .null
    return .reset 1

/-- Binds a schema to a section, or to the root. -/
def setSchema (step : SetSchema) : Task Outcome := do
  if step.isLibrary then
    editCatalog fun catalog => catalog.bindRoot step.schema
    return .schemaSet none
  else
    match step.path with
    | none => throw (.validation (.missing "path"))
    | some path =>
      let _ ← resolving fun nodes => nodes.resolveSection path
      editCatalog fun catalog => catalog.bindSection path step.schema
      return .schemaSet (some path)

/-- Carries out one operation. -/
def perform : Operation → Task Outcome
  | .buildSection step => buildSection step
  | .buildShelf step => buildShelf step
  | .write step => write step
  | .checkOut step => do return .checkedOut (← Session.once (readRows step))
  | .revise step => revise step
  | .remove step => remove step
  | .reset step => reset step
  | .setSchema step => setSchema step

end ShelfLibrary.Library
