import ShelfLibrary.Node

/-!
# Changes of a table of nodes

A delta is one change of the stored table of nodes.  It applies only where it fits: nothing is put
in place of another node, and only what is there is updated or removed.
-/

namespace ShelfLibrary

/-- A change of the stored table of nodes. -/
inductive Delta where
  /-- Adds a node under a new key. -/
  | put (key : String) (entry : Entry)
  /-- Replaces the entry of a key. -/
  | update (key : String) (entry : Entry)
  /-- Removes a key. -/
  | remove (key : String)
  /-- Removes every key. -/
  | clear
deriving DecidableEq, Repr

namespace Delta

/-- Whether a change fits a table; if not, the reason. -/
def check (table : Table Entry) : Delta → Except StorageError Unit
  | .put key _ =>
    if Table.contains table key then .error (.backend ("duplicate key: " ++ key)) else .ok ()
  | .update key _ =>
    if Table.contains table key then .ok () else .error (.backend ("missing key: " ++ key))
  | .remove key =>
    if Table.contains table key then .ok () else .error (.backend ("missing key: " ++ key))
  | .clear => .ok ()

/-- The table after a change that fits. -/
def applyTo (table : Table Entry) : Delta → Table Entry
  | .put key entry => Table.insert table key entry
  | .update key entry => Table.insert table key entry
  | .remove key => Table.erase table key
  | .clear => []

/-- The table after a change, if the change fits. -/
def apply (table : Table Entry) (delta : Delta) : Except StorageError (Table Entry) := do
  delta.check table
  return delta.applyTo table

/-- The document of a change. -/
def toJson : Delta → Json
  | .put key entry =>
    .object [("kind", .text "put"), ("key", .text key), ("entry", entry.toJson)]
  | .update key entry =>
    .object [("kind", .text "update"), ("key", .text key), ("entry", entry.toJson)]
  | .remove key => .object [("kind", .text "remove"), ("key", .text key)]
  | .clear => .object [("kind", .text "clear")]

/-- The names of the changes in documents. -/
def names : List String := ["put", "update", "remove", "clear"]

/-- The members of a change with a key and an entry. -/
def entryShape : Shape [String, Entry] :=
  .field "key" Decoder.text none <|
  .field "entry" (Entry.decodeWith Shape.otherLength) none .done

/-- The members of a change with a key alone. -/
def keyShape : Shape [String] :=
  .field "key" Decoder.text none .done

/-- The change of a name and a document of what else belongs to it. -/
def decodeContent (name : String) (found : Json) : Except DecodeError Delta :=
  match name with
  | "put" => do
    let (key, entry, ()) ← read entryShape "Put"
    return .put key entry
  | "update" => do
    let (key, entry, ()) ← read entryShape "Update"
    return .update key entry
  | "remove" => do
    let (key, ()) ← read keyShape "Remove"
    return .remove key
  | _ => .ok .clear
where
  /-- The members of a change of a title. -/
  read {αs : List Type} (shape : Shape αs) (title : String) :
      Except DecodeError (Shape.Filled αs) :=
    shape.decoderWith Shape.otherLength ("variant NamespaceDelta::" ++ title) false found

/-- The name of a change. -/
def decodeName : Decoder String
  | .text name => if names.contains name then .ok name else .error (.unknownVariant name names)
  | found => .error (.wrongType found "variant identifier")

/-- The change of a document: its name stands among the members of what belongs to it. -/
def decode : Decoder Delta
  | .object members => do
    match ← Decoder.sole? members "kind" with
    | none => throw (.missingField "kind")
    | some found =>
      let name ← decodeName found
      decodeContent name (.object (members.filter fun entry => entry.1 ≠ "kind"))
  | .list [] => .error (.missingField "kind")
  | .list (found :: rest) => do
    let name ← decodeName found
    decodeContent name (.list rest)
  | found => .error (.wrongType found "internally tagged enum NamespaceDelta")

end Delta

end ShelfLibrary
