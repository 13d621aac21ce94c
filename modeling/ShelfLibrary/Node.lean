import ShelfLibrary.Error
import ShelfLibrary.Filter.Decode
import ShelfLibrary.Path
import ShelfLibrary.Text.Blank

/-!
# Nodes

A library is a tree of sections and shelves.  A node is registered under its path, as a key, with an
entry that tells its kind and where its contents are stored.
-/

namespace ShelfLibrary

/-- The kind of a node. -/
inductive NodeKind where
  /-- A section holds other nodes. -/
  | section
  /-- A shelf holds a record. -/
  | shelf
deriving DecidableEq, Repr

/-- The name of a kind. -/
def NodeKind.name : NodeKind → String
  | .section => "section"
  | .shelf => "shelf"

/-- Where a node is stored. -/
structure Location where
  /-- The place among the stored shelves: names joined by slashes. -/
  path : String
  /-- The key of the node. -/
  key : String
deriving DecidableEq, Repr

namespace Location

/-- The location of a path and a key, neither of which may be blank. -/
def make (path key : String) : Except ValidationError Location :=
  if Text.isBlankText path then .error (.invalidField "path" .emptyLocation)
  else if Text.isBlankText key then .error (.invalidField "key_path" .emptyKey)
  else .ok ⟨path, key⟩

/-- The place that a key has by itself: slashes stand for its dots. -/
def placeOf (key : String) : String :=
  String.ofList (key.toList.map fun c => if c = '.' then '/' else c)

/-- The location that a key has by itself. -/
def ofKey (key : String) : Location := ⟨placeOf key, key⟩

/-- The document of a location. -/
def toJson (location : Location) : Json :=
  .object [("path", .text location.path), ("key_path", .text location.key)]

/-- The members of the document of a location. -/
def shape : Shape [String, String] :=
  .field "path" Decoder.text none <|
  .field "key_path" Decoder.text none .done

/-- The location of a document, with the wording of a surplus of items. -/
def decodeWith (surplus : Nat → Nat → DecodeError) : Decoder Location :=
  Decoder.refining (shape.decoderWith surplus "LocationFields" false) fun (path, key, ()) =>
    make path key

end Location

/-- What is registered under a key. -/
structure Entry where
  /-- The kind of the node. -/
  kind : NodeKind
  /-- Where the node is stored. -/
  location : Location
deriving DecidableEq, Repr

namespace Entry

/-- The entry of a section that is stored where its key says. -/
def ofSection (key : String) : Entry := ⟨.section, .ofKey key⟩

/-- The entry of a shelf that is stored where its key says. -/
def ofShelf (key : String) : Entry := ⟨.shelf, .ofKey key⟩

/-- Whether the node is a section. -/
def isSection (entry : Entry) : Bool :=
  entry.kind = .section

/-- Whether the node is a shelf. -/
def isShelf (entry : Entry) : Bool :=
  entry.kind = .shelf

/-- The document of an entry. -/
def toJson (entry : Entry) : Json :=
  .object [("kind", .text entry.kind.name), ("location", entry.location.toJson)]

/-- The kind of a node by its name. -/
def decodeKind : Decoder NodeKind := fun found =>
  (Decoder.name ["section", "shelf"] found).map fun name =>
    if name = "shelf" then .shelf else .section

/-- The entry of a document, with the wording of a surplus of items. -/
def decodeWith (surplus : Nat → Nat → DecodeError) : Decoder Entry := fun found => do
  let shape : Shape [NodeKind, Location] :=
    .field "kind" decodeKind none <|
    .field "location" (Location.decodeWith surplus) none .done
  let (kind, location, ()) ← shape.decoderWith surplus "PathEntry" false found
  return ⟨kind, location⟩

/-- The entry of a document. -/
def decode : Decoder Entry := decodeWith Shape.longArray

end Entry

end ShelfLibrary
