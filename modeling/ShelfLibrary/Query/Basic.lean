import ShelfLibrary.Filter.Basic
import ShelfLibrary.Schema.Basic

/-!
# Queries

What can be asked of a library: one operation, or a transaction of several that take effect together
or not at all.  An operation is validated when it is made, so that only what depends on the contents
of a library is left to its execution.
-/

namespace ShelfLibrary

/-- How many groups a filter may nest. -/
def filterDepthLimit : Nat := 32

/-- How many operations a transaction may have. -/
def transactionLimit : Nat := 4096

/-- What stands in a checkout for all fields. -/
def everyField : String := "*all"

namespace Validation

/-- A text has to be a path. -/
def path (s : String) : Except ValidationError Unit :=
  if Path.isValid s then .ok () else .error (.invalidPath s)

/-- A text has to be a path, if there is one. -/
def optionalPath : Option String → Except ValidationError Unit
  | some s => path s
  | none => .ok ()

/-- A text has to be a name. -/
def name (s : String) : Except ValidationError Unit :=
  if Path.isName s then .ok () else .error (.invalidName s)

/-- A record has to have fields, under proper names. -/
def data (record : Record) : Except ValidationError Unit :=
  if record.isEmpty then .error (.invalidField "data" .empty)
  else match (Table.keys record).find? fun key => !Path.isName key with
    | some key => .error (.invalidName key)
    | none => .ok ()

/-- At most one of two settings may be made. -/
def exclusive (first : String) (isFirst : Bool) (second : String) (isSecond : Bool) :
    Except ValidationError Unit :=
  if isFirst && isSecond then .error (.exclusive first second) else .ok ()

/-- A filter must not nest groups too deep. -/
def filterDepth : Option Filters → Except ValidationError Unit
  | none => .ok ()
  | some filters =>
    let depth := FilterItem.depthOfItems filters.items
    if filterDepthLimit < depth then
      .error (.invalidField "filters" (.tooDeep depth filterDepthLimit))
    else .ok ()

end Validation

/-- Registers a section. -/
structure BuildSection where
  /-- The section around it; absent at the root. -/
  path : Option String
  /-- Its name. -/
  name : String
  /-- The schema of the shelves directly in it. -/
  schema : Option Schema
  /-- What is known about it. -/
  metadata : Option Record
deriving BEq

/-- Registers a shelf. -/
structure BuildShelf where
  /-- The section around it; absent at the root. -/
  path : Option String
  /-- Its name. -/
  name : String
  /-- Its contents at first. -/
  data : Option SchemaInstance
  /-- What is known about it. -/
  metadata : Option Record
deriving BEq

/-- Puts new fields on a shelf. -/
structure Write where
  /-- The shelf. -/
  path : String
  /-- The fields. -/
  data : Record
deriving BEq

/-- What to read of the shelves at or under a path. -/
structure CheckOutItem where
  /-- The path. -/
  path : String
  /-- The fields to read, or the mark for all. -/
  selection : List String
deriving BEq

/-- A direction of sorting. -/
inductive SortOrder where
  /-- Small values first. -/
  | ascending
  /-- Large values first. -/
  | descending
deriving DecidableEq, Repr

/-- A criterion of sorting. -/
structure SortItem where
  /-- The field that is compared. -/
  path : String
  /-- The direction. -/
  order : SortOrder
deriving BEq

/-- Reads rows: gathers shelves, filters and sorts them, and cuts a page out of the result. -/
structure CheckOut where
  /-- What to read. -/
  items : List CheckOutItem
  /-- Which shelves to keep. -/
  filters : Option Filters
  /-- The criteria of sorting, the first one first. -/
  sort : List SortItem
  /-- How many rows to return. -/
  limit : Option Nat
  /-- How many rows to skip. -/
  offset : Option Nat
deriving BEq

/-- Overwrites fields on the shelves at or under a path. -/
structure Revise where
  /-- The path. -/
  path : String
  /-- Which shelves to change. -/
  filters : Option Filters
  /-- The fields with their new values. -/
  data : Record
deriving BEq

/-- Removes shelves, a section with everything in it, or one field. -/
structure Remove where
  /-- What is removed, or where the shelves are looked for. -/
  path : String
  /-- Which shelves to remove. -/
  filters : Option Filters
  /-- Whether the path leads to a shelf. -/
  isShelf : Bool
  /-- Whether the path leads to a section. -/
  isSection : Bool
deriving BEq

/-- Empties shelves, or one field. -/
structure Reset where
  /-- What is emptied, or where the shelves are looked for. -/
  path : String
  /-- Which shelves to empty. -/
  filters : Option Filters
  /-- Whether the path leads to a shelf. -/
  isShelf : Bool
  /-- Whether the path leads to a section. -/
  isSection : Bool
deriving BEq

/-- Binds a schema to the shelves directly in a section, or at the root. -/
structure SetSchema where
  /-- The section; absent for the root. -/
  path : Option String
  /-- The schema. -/
  schema : Schema
  /-- Whether the schema is bound at the root. -/
  isLibrary : Bool
deriving BEq

/-- One step of a query. -/
inductive Operation where
  /-- Registers a section. -/
  | buildSection (step : BuildSection)
  /-- Registers a shelf. -/
  | buildShelf (step : BuildShelf)
  /-- Puts new fields on a shelf. -/
  | write (step : Write)
  /-- Reads rows. -/
  | checkOut (step : CheckOut)
  /-- Overwrites fields. -/
  | revise (step : Revise)
  /-- Removes nodes or a field. -/
  | remove (step : Remove)
  /-- Empties shelves or a field. -/
  | reset (step : Reset)
  /-- Binds a schema. -/
  | setSchema (step : SetSchema)
deriving BEq

/-- What is asked of a library. -/
inductive Query where
  /-- One operation. -/
  | single (operation : Operation)
  /-- Several operations that take effect together or not at all. -/
  | transaction (operations : List Operation)
deriving BEq

namespace CheckOutItem

/-- Whether all fields are read. -/
def selectsAll (item : CheckOutItem) : Bool :=
  item.selection.contains everyField

/-- The selected fields are paths, or the mark for all stands alone. -/
def validate (item : CheckOutItem) : Except ValidationError Unit := do
  Validation.path item.path
  if item.selection.isEmpty then
    throw (.invalidField "checkout" .emptySelection)
  if item.selectsAll then
    if 1 < item.selection.length then
      throw (.invalidField "checkout" .mixedSelection)
  else
    item.selection.forM Validation.path

/-- The item of a path and a selection. -/
def make (path : String) (selection : List String) : Except ValidationError CheckOutItem := do
  let item : CheckOutItem := ⟨path, selection⟩
  item.validate
  return item

/-- The item that reads all fields. -/
def all (path : String) : Except ValidationError CheckOutItem :=
  make path [everyField]

end CheckOutItem

/-- The criterion of a path and a direction. -/
def SortItem.make (path : String) (order : SortOrder) : Except ValidationError SortItem := do
  Validation.path path
  return ⟨path, order⟩

namespace BuildSection

/-- The path and the name have to be such. -/
def validate (step : BuildSection) : Except ValidationError Unit := do
  Validation.optionalPath step.path
  Validation.name step.name

end BuildSection

namespace BuildShelf

/-- The path and the name have to be such. -/
def validate (step : BuildShelf) : Except ValidationError Unit := do
  Validation.optionalPath step.path
  Validation.name step.name

end BuildShelf

namespace Write

/-- The path has to be one, and there have to be fields. -/
def validate (step : Write) : Except ValidationError Unit := do
  Validation.path step.path
  Validation.data step.data

end Write

namespace CheckOut

/-- There has to be something to read, and room for a row. -/
def validate (step : CheckOut) : Except ValidationError Unit := do
  if step.items.isEmpty then
    throw (.missing "checkout")
  step.items.forM CheckOutItem.validate
  if step.limit = some 0 then
    throw (.invalidField "limit" .zeroLimit)
  Validation.filterDepth step.filters

end CheckOut

namespace Revise

/-- The path has to be one, and there have to be fields. -/
def validate (step : Revise) : Except ValidationError Unit := do
  Validation.path step.path
  Validation.data step.data
  Validation.filterDepth step.filters

end Revise

namespace Remove

/-- The path has to be one, and cannot lead to a shelf and to a section. -/
def validate (step : Remove) : Except ValidationError Unit := do
  Validation.path step.path
  Validation.exclusive "remove_shelf" step.isShelf "remove_section" step.isSection
  Validation.filterDepth step.filters

end Remove

namespace Reset

/-- The path has to be one, and cannot lead to a shelf and to a section. -/
def validate (step : Reset) : Except ValidationError Unit := do
  Validation.path step.path
  Validation.exclusive "reset_shelf" step.isShelf "reset_section" step.isSection
  Validation.filterDepth step.filters

end Reset

namespace SetSchema

/-- Either a path or the root is given. -/
def validate (step : SetSchema) : Except ValidationError Unit :=
  match step.path, step.isLibrary with
  | some _, true => .error (.exclusive "path" "is_library")
  | none, false => .error (.missing "path")
  | some path, false => Validation.path path
  | none, true => .ok ()

end SetSchema

namespace Operation

/-- The name of an operation's kind. -/
def kind : Operation → String
  | .buildSection _ => "build_section"
  | .buildShelf _ => "build_shelf"
  | .write _ => "write"
  | .checkOut _ => "checkout"
  | .revise _ => "revise"
  | .remove _ => "remove"
  | .reset _ => "reset"
  | .setSchema _ => "set_schema"

/-- The structural rules of an operation. -/
def validate : Operation → Except ValidationError Unit
  | .buildSection step => step.validate
  | .buildShelf step => step.validate
  | .write step => step.validate
  | .checkOut step => step.validate
  | .revise step => step.validate
  | .remove step => step.validate
  | .reset step => step.validate
  | .setSchema step => step.validate

/-- The operation itself, if it keeps the rules. -/
def checked (operation : Operation) : Except ValidationError Operation := do
  operation.validate
  return operation

/-- The paths whose present shelves an operation may change. -/
def touchedPaths : Operation → List String
  | .write step => [step.path]
  | .revise step => [step.path]
  | .remove step => [step.path]
  | .reset step => [step.path]
  | _ => []

end Operation

namespace Query

/-- The name of a query's kind. -/
def kind : Query → String
  | .single operation => operation.kind
  | .transaction _ => "transaction"

/-- Whether a query only reads. -/
def isReadOnly : Query → Bool
  | .single (.checkOut _) => true
  | _ => false

/-- The paths whose present shelves a query may change. -/
def touchedPaths : Query → List String
  | .single operation => operation.touchedPaths
  | .transaction operations => operations.flatMap Operation.touchedPaths

/-- The structural rules of a query. -/
def validate : Query → Except ValidationError Unit
  | .single operation => operation.validate
  | .transaction operations => do
    if operations.isEmpty then
      throw (.invalidField "queries" .empty)
    if transactionLimit < operations.length then
      throw (.invalidField "queries" (.tooManyQueries transactionLimit))
    operations.forM Operation.validate

/-- The refusal of a transaction at a position among the queries of another. -/
def nestedAt (position : Nat) : ValidationError :=
  .invalidField ("queries[" ++ natText position ++ "]") .nestedTransaction

/-- The operations of queries from a position on; none of them may be a transaction. -/
def operationsFrom : Nat → List Query → Except ValidationError (List Operation)
  | _, [] => .ok []
  | position, .single operation :: rest => (operationsFrom (position + 1) rest).map (operation :: ·)
  | position, .transaction _ :: _ => .error (nestedAt position)

/-- The transaction of a list of queries. -/
def makeTransaction (queries : List Query) : Except ValidationError Query := do
  if queries.isEmpty then
    throw (.invalidField "queries" .empty)
  if transactionLimit < queries.length then
    throw (.invalidField "queries" (.tooManyQueries transactionLimit))
  let query : Query := .transaction (← operationsFrom 0 queries)
  query.validate
  return query

end Query

end ShelfLibrary
