import ShelfLibrary.Path
import ShelfLibrary.Schema.Document
import ShelfLibrary.Value.Tagged

/-!
# Catalogs

The catalog of a library keeps the schemas that bind the shelves directly in each section, or at the
root, and what was said about each section when it was built.
-/

namespace ShelfLibrary

/-- What is kept about a section. -/
structure SectionNote where
  /-- The schema of the shelves directly in it. -/
  schema : Option Schema
  /-- What was said about it. -/
  metadata : Option Record
deriving BEq

/-- Schemas and notes of a library. -/
structure Catalog where
  /-- The schema of the shelves at the root. -/
  rootSchema : Option Schema
  /-- The notes on the sections by key. -/
  sections : Table SectionNote
deriving BEq

namespace Catalog

/-- Nothing bound and nothing noted. -/
def empty : Catalog := ⟨none, []⟩

/-- The schema that binds the shelves directly in a section, or at the root. -/
def boundSchema? (catalog : Catalog) : Option String → Option Schema
  | none => catalog.rootSchema
  | some key => (Table.get? catalog.sections key).bind SectionNote.schema

/-- What was said about a section. -/
def metadata? (catalog : Catalog) (key : String) : Option Record :=
  (Table.get? catalog.sections key).bind SectionNote.metadata

/-- Notes a new section. -/
def register (catalog : Catalog) (key : String) (schema : Option Schema)
    (metadata : Option Record) : Catalog :=
  { catalog with sections := Table.insert catalog.sections key ⟨schema, metadata⟩ }

/-- Binds a schema to a section in place of the one before. -/
def bindSection (catalog : Catalog) (key : String) (schema : Schema) : Catalog :=
  catalog.register key (some schema) (catalog.metadata? key)

/-- Binds a schema to the root in place of the one before. -/
def bindRoot (catalog : Catalog) (schema : Schema) : Catalog :=
  { catalog with rootSchema := some schema }

/-- Forgets a section and all sections in it. -/
def removeSubtree (catalog : Catalog) (key : String) : Catalog :=
  { catalog with sections := catalog.sections.filter fun entry => !Path.isWithin entry.1 key }

/-- The number of sections that are noted. -/
def size (catalog : Catalog) : Nat := catalog.sections.length

/-- Whether nothing is bound and nothing noted. -/
def isEmpty (catalog : Catalog) : Bool :=
  catalog.sections.isEmpty && catalog.rootSchema.isNone

end Catalog

namespace SectionNote

/-- The document of a note. -/
def toJson (note : SectionNote) : Json :=
  Json.ofMembers [
    ("schema", note.schema.map Schema.toJson),
    ("metadata", note.metadata.map Record.toTagged)]

/-- The note of a document. -/
def decode : Decoder SectionNote := fun found => do
  let shape : Shape [Option Schema, Option Record] :=
    .field "schema" (Decoder.optional Schema.decode) (some none) <|
    .field "metadata" (Decoder.optional Record.ofTagged) (some none) .done
  let (schema, metadata, ()) ← shape.decoder "SectionEntry" false found
  return ⟨schema, metadata⟩

end SectionNote

namespace Catalog

/-- The document of a catalog. -/
def toJson (catalog : Catalog) : Json :=
  Json.ofMembers [
    ("library_schema", catalog.rootSchema.map Schema.toJson),
    ("sections", some (.object (Table.mapValues SectionNote.toJson catalog.sections)))]

/-- The catalog of a document. -/
def decode : Decoder Catalog := fun found => do
  let shape : Shape [Option Schema, Table SectionNote] :=
    .field "library_schema" (Decoder.optional Schema.decode) (some none) <|
    .field "sections" (Decoder.table SectionNote.decode) (some []) .done
  let (schema, sections, ()) ← shape.decoder "Catalog" false found
  return ⟨schema, sections⟩

end Catalog

end ShelfLibrary
