import ShelfLibrary.Namespace.Basic

/-!
# Resolving paths

A path leads from the root through sections to a node.  Every node on the way has to be registered,
and every one but the last has to be a section.  The path of a field goes on inside a shelf.
-/

namespace ShelfLibrary

/-- A field inside a shelf. -/
structure FieldAddress where
  /-- The key of the shelf. -/
  shelf : String
  /-- The entry of the shelf. -/
  entry : Entry
  /-- The names that lead to the field inside the record; at least one. -/
  names : List String

namespace Namespace

/-- The first names of a path, for each number of them, with the names after them. -/
def splits (before : List String) : List String → List (String × List String)
  | [] => []
  | name :: rest =>
    let names := before ++ [name]
    (Path.ofSegments names, rest) :: splits names rest

/-- The entry at the end of a way; `steps` are the keys on it with what is left after each. -/
def walk (nodes : Namespace) (path : String) :
    List (String × List String) → Except ResolutionError Entry
  | [] => nodes.entryOf path
  | (key, rest) :: steps => do
    let entry ← nodes.entryOf key
    if !rest.isEmpty && !entry.isSection then throw (.notASection key)
    walk nodes path steps

/-- The entry of the node at a path. -/
def resolve (nodes : Namespace) (path : String) : Except LibraryError Entry :=
  if !Path.isValid path then .error (.validation (.invalidPath path))
  else (walk nodes path (splits [] (Path.segments path))).mapError .resolution

/-- The entry of the section at a path. -/
def resolveSection (nodes : Namespace) (path : String) : Except LibraryError Entry := do
  let entry ← nodes.resolve path
  if entry.isSection then return entry
  else throw (.resolution (.notASection path))

/-- The entry of the shelf at a path. -/
def resolveShelf (nodes : Namespace) (path : String) : Except LibraryError Entry := do
  let entry ← nodes.resolve path
  if entry.isShelf then return entry
  else throw (.resolution (.notAShelf path))

/-- The key of a new node of a name in a section, or at the root. -/
def resolveTarget (nodes : Namespace) (parent : Option String) (name : String) :
    Except LibraryError String := do
  if !Path.isName name then throw (.validation (.invalidName name))
  if let some path := parent then
    let _ ← nodes.resolveSection path
  let key := Path.join parent name
  if nodes.contains key then throw (.resolution (.duplicate key))
  return key

/-- The first shelf on the way, with the names after it. -/
def findField (nodes : Namespace) (path : String) :
    List (String × List String) → Except LibraryError FieldAddress
  | [] => .error (.validation (.invalidField "path" (.notAField path)))
  | (key, rest) :: steps =>
    match nodes.get? key with
    | none => .error (.resolution (.notFound key))
    | some entry =>
      if entry.isSection then findField nodes path steps
      else if rest.isEmpty then .error (.validation (.invalidField "path" (.notAField path)))
      else .ok ⟨key, entry, rest⟩

/-- The field at a path. -/
def resolveField (nodes : Namespace) (path : String) : Except LibraryError FieldAddress :=
  if !Path.isValid path then .error (.validation (.invalidPath path))
  else findField nodes path (splits [] (Path.segments path))

end Namespace

end ShelfLibrary
