import ShelfLibrary.Filter.Evaluate
import ShelfLibrary.Library.Session
import ShelfLibrary.Value.Field

/-!
# Selecting shelves

A query that names a path means the shelf there, or every shelf in the section there.  A filter
keeps some of them.  Its paths are read for each shelf in turn: first as fields of the shelf itself,
then from the root of the library.
-/

namespace ShelfLibrary

/-- A shelf that a query may be about. -/
structure Candidate where
  /-- Its key. -/
  key : String
  /-- Its entry. -/
  entry : Entry
  /-- Its key from the queried path on; nothing if the path is that of the shelf. -/
  relative : Option String
  /-- Its record. -/
  record : Record

namespace Candidate

/-- The field of the record at a path. -/
def field? (candidate : Candidate) (path : String) : Option Value :=
  Record.lookup? candidate.record (Path.segments path)

/-- What is left of a path after the key of the shelf, or after its key from the queried path on. -/
def inside? (candidate : Candidate) (path : String) : Option String :=
  Path.below? candidate.key path <|>
    candidate.relative.bind fun relative => Path.below? relative path

/-- The field of the shelf that a path means: the path may be that of the field inside the record,
or lead through the key of the shelf. -/
def local? (candidate : Candidate) (path : String) : Option Value :=
  candidate.field? path <|> (candidate.inside? path).bind candidate.field?

end Candidate

namespace Library

/-- The shelves at or under a path. -/
def shelvesUnder (nodes : Namespace) (path : String) :
    Except LibraryError (List Namespace.Node) := do
  let entry ← nodes.resolve path
  if entry.isShelf then return [(path, entry)]
  else return (nodes.subtree path).filter fun node => node.2.isShelf

/-- The candidate of a shelf, for a query of a path. -/
def candidateOf (path : String) (node : Namespace.Node) : Session.Task Candidate := do
  let record ← Session.record node.1 node.2
  return ⟨node.1, node.2, Path.below? path node.1, record⟩

/-- The candidates at or under a path. -/
def gather (path : String) : Session.Task (List Candidate) := do
  let shelves ← resolving fun nodes => shelvesUnder nodes path
  shelves.mapM (candidateOf path)

/-- What a path means for a candidate; the absent value where it leads nowhere. -/
def operand (candidate : Candidate) (path : String) : Session.Task Value := do
  match candidate.local? path with
  | some value => return value
  | none =>
    match (← (get : Task Library)).nodes.resolveField path with
    | .ok address =>
      let record ← Session.record address.shelf address.entry
      return (Record.lookup? record address.names).getD .null
    | .error e => if e.isRecoverable then return .null else throw e

/-- Those among the candidates that a filter keeps. -/
def selectBy (filters : Filters) : List Candidate → Session.Task (List Candidate)
  | [] => return []
  | candidate :: rest => do
    let keep ← filters.evaluate (operand candidate)
    let others ← selectBy filters rest
    return if keep then candidate :: others else others

/-- The candidates, or those among them that a filter keeps. -/
def select (filters : Option Filters) (candidates : List Candidate) :
    Session.Task (List Candidate) :=
  match filters with
  | none => return candidates
  | some filters => selectBy filters candidates

/-- The candidates at or under a path that a filter keeps. -/
def find (path : String) (filters : Option Filters) : Session.Task (List Candidate) := do
  select filters (← gather path)

end Library

end ShelfLibrary
