import ShelfLibrary.Catalog
import ShelfLibrary.Namespace.Delta

/-!
# Calls to the stores

Three stores stand behind a library: one keeps the table of nodes, one the contents of the shelves
and one the catalog.  A library reaches them by the calls below and in no other way.  Each call is
answered with a value of its own type or refused with an error.
-/

namespace ShelfLibrary

/-- The contents of a shelf. -/
structure ShelfData where
  /-- The record on the shelf. -/
  data : Record
  /-- What was said about the shelf when it was built. -/
  metadata : Option Record
deriving BEq

namespace ShelfData

/-- Nothing on the shelf and nothing said about it. -/
def empty : ShelfData := ⟨[], none⟩

/-- The document of the contents of a shelf. -/
def toJson (contents : ShelfData) : Json :=
  Json.ofMembers [
    ("data", some (Record.toTagged contents.data)),
    ("metadata", contents.metadata.map Record.toTagged)]

/-- The members of the document of a shelf. -/
def shape : Shape [Record, Option Record] :=
  .field "data" Record.ofTagged (some []) <|
  .field "metadata" (Decoder.optional Record.ofTagged) (some none) .done

/-- The contents of the shelf of a document. -/
def decode : Decoder ShelfData := fun found => do
  let (data, metadata, ()) ← shape.decoder "ShelfData" false found
  return ⟨data, metadata⟩

end ShelfData

/-- A call to one of the stores. -/
inductive StoreCall where
  /-- Reads the table of nodes. -/
  | loadNodes
  /-- Makes one change of the table of nodes. -/
  | changeNodes (delta : Delta)
  /-- Counts the nodes of the table. -/
  | countNodes
  /-- Rewrites what the table of nodes is stored in. -/
  | compactNodes
  /-- Reads a shelf, which may not have been stored. -/
  | loadShelf (location : Location)
  /-- Replaces the contents of a shelf. -/
  | storeShelf (location : Location) (contents : ShelfData)
  /-- Drops the contents of a shelf, if there are any. -/
  | deleteShelf (location : Location)
  /-- Reads the catalog, which may not have been stored. -/
  | loadCatalog
  /-- Replaces the catalog. -/
  | saveCatalog (catalog : Catalog)

namespace StoreCall

/-- The type of the answers to a call. -/
abbrev Answer : StoreCall → Type
  | .loadNodes => Table Entry
  | .changeNodes _ => Unit
  | .countNodes => Nat
  | .compactNodes => Unit
  | .loadShelf _ => Option ShelfData
  | .storeShelf _ _ => Unit
  | .deleteShelf _ => Unit
  | .loadCatalog => Option Catalog
  | .saveCatalog _ => Unit

/-- What a call comes back with. -/
abbrev Reply (call : StoreCall) : Type := Except StorageError call.Answer

end StoreCall

/-- The stores as a machine: how a call is answered in each state, and the state after it. -/
abbrev Stores (σ : Type) := (call : StoreCall) → σ → call.Reply × σ

end ShelfLibrary
