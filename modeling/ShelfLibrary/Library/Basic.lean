import ShelfLibrary.Namespace.Resolve
import ShelfLibrary.Query.Document

/-!
# Libraries

An open library holds its nodes and its catalog in memory, over stores that keep them and the
contents of the shelves.  Once memory and stores may disagree, the library is poisoned and refuses
everything.
-/

namespace ShelfLibrary

/-- An open library. -/
structure Library where
  /-- The nodes. -/
  nodes : Namespace
  /-- The catalog. -/
  catalog : Catalog
  /-- Whether a fault has ended the session. -/
  isPoisoned : Bool

/-- One row of a checkout. -/
structure Row where
  /-- The key of the shelf. -/
  path : String
  /-- The fields that were asked for. -/
  data : Record
deriving BEq

/-- What a query has done. -/
inductive Outcome where
  /-- A node was registered. -/
  | built (path : String) (kind : NodeKind)
  /-- Fields were put on a shelf. -/
  | written (path : String) (fields : Nat)
  /-- Rows were read. -/
  | checkedOut (rows : List Row)
  /-- Shelves were revised. -/
  | revised (count : Nat)
  /-- Nodes or a field were removed. -/
  | removed (count : Nat)
  /-- Shelves or a field were emptied. -/
  | reset (count : Nat)
  /-- A schema was bound to a section, or to the root. -/
  | schemaSet (target : Option String)
  /-- Several operations took effect together. -/
  | transaction (outcomes : List Outcome)

namespace Outcome

/-- The document of a row. -/
def rowJson (row : Row) : Json :=
  .object [("path", .text row.path), ("data", Record.toJson row.data)]

/-- An object under the name of an outcome. -/
def titled (name : String) (members : List (String × Json)) : Json :=
  .object (("outcome", .text name) :: members)

/-- The document of an outcome; that of a transaction has none. -/
def toJson? : Outcome → Option Json
  | .built path kind =>
    some (titled "built" [("path", .text path), ("kind", .text kind.name)])
  | .written path fields =>
    some (titled "written" [("path", .text path), ("fields", .int fields)])
  | .checkedOut rows => some (titled "checked_out" [("rows", .list (rows.map rowJson))])
  | .revised count => some (titled "revised" [("count", .int count)])
  | .removed count => some (titled "removed" [("count", .int count)])
  | .reset count => some (titled "reset" [("count", .int count)])
  | .schemaSet target =>
    some (titled "schema_set" [("target", (target.map Json.text).getD .null)])
  | .transaction _ => none

/-- The rows of a checkout. -/
def rows? : Outcome → Option (List Row)
  | .checkedOut rows => some rows
  | _ => none

/-- How many shelves, nodes or fields a change has touched. -/
def count? : Outcome → Option Nat
  | .revised count => some count
  | .removed count => some count
  | .reset count => some count
  | _ => none

end Outcome

namespace Library

/-- Work on a library. -/
abbrev Task (α : Type) := Action Library α

/-- Work on the nodes of a library. -/
def onNodes {α : Type} (action : Action Namespace α) : Task α :=
  Action.on Library.nodes (fun library nodes => { library with nodes := nodes }) action

/-- What a function of the nodes finds. -/
def resolving {α : Type} (find : Namespace → Except LibraryError α) : Task α := do
  Action.ofExcept (find (← get).nodes)

/-- A library that holds nothing. -/
def empty : Library := ⟨.empty, .empty, false⟩

/-- What a library says of itself: its numbers of nodes and sections, and whether it is poisoned. -/
def summary (library : Library) : String :=
  let keys := natText library.nodes.size
  let entries := natText library.nodes.entries.length
  "Library \x7b namespace: PathMap \x7b keys: " ++ keys ++ ", entries: " ++ entries ++
    ", .. \x7d, sections: " ++ natText library.catalog.size ++ ", poisoned: " ++
    (if library.isPoisoned then "true" else "false") ++ ", .. \x7d"

/-- Opens a library over its stores: reads the nodes and the catalog. -/
def openStored : Task Unit := do
  onNodes Namespace.load
  let stored ← Action.ask .loadCatalog
  modify fun library => { library with catalog := stored.getD .empty }

/-- Replaces the catalog by an edited one once that is stored. -/
def editCatalog (edit : Catalog → Catalog) : Task Unit := do
  let next := edit (← get).catalog
  let () ← Action.ask (.saveCatalog next)
  modify fun library => { library with catalog := next }

/-- The schema that binds the shelves directly in a section, or at the root. -/
def boundSchema? (library : Library) (parent : Option String) : Option Schema :=
  library.catalog.boundSchema? parent

/-- The normal form of the record of a shelf under the schema that binds it. -/
def conform (key : String) (record : Record) : Task Record := do
  match (← get).boundSchema? (Path.parent? key) with
  | some schema => Action.validated (schema.validate record)
  | none => return record

end Library

end ShelfLibrary
