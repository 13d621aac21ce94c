import ShelfLibrary.Query.Basic
import ShelfLibrary.Schema.Document

/-!
# Documents of queries

A query is written as an object of its kind and its payload.  It is read in two ways.  The decoder
of documents reports the first fault as a decoding error.  The reader of query texts reports what
validation refuses as the refusal itself, and faults of shape as faults of the payload.
-/

namespace ShelfLibrary

namespace Operation

/-- The document of an optional record. -/
def metadataJson (metadata : Option Record) : Option Json :=
  metadata.map Record.toJson

/-- The payload of an operation. -/
def payload : Operation → Json
  | .buildSection step => Json.ofMembers [
      ("path", step.path.map Json.text),
      ("name", some (.text step.name)),
      ("schema_model", step.schema.map Schema.toJson),
      ("metadata", metadataJson step.metadata)]
  | .buildShelf step => Json.ofMembers [
      ("path", step.path.map Json.text),
      ("name", some (.text step.name)),
      ("data", step.data.map SchemaInstance.toJson),
      ("metadata", metadataJson step.metadata)]
  | .write step => Json.ofMembers [
      ("path", some (.text step.path)),
      ("data", some (Record.toJson step.data))]
  | .checkOut step => Json.ofMembers [
      ("checkout", some (.list (step.items.map itemJson))),
      ("filters", step.filters.map Filters.toJson),
      ("sort", if step.sort.isEmpty then none else some (.list (step.sort.map sortJson))),
      ("limit", step.limit.map fun limit => .int limit),
      ("offset", step.offset.map fun offset => .int offset)]
  | .revise step => Json.ofMembers [
      ("path", some (.text step.path)),
      ("filters", step.filters.map Filters.toJson),
      ("data", some (Record.toJson step.data))]
  | .remove step => Json.ofMembers [
      ("path", some (.text step.path)),
      ("filters", step.filters.map Filters.toJson),
      ("remove_shelf", some (.bool step.isShelf)),
      ("remove_section", some (.bool step.isSection))]
  | .reset step => Json.ofMembers [
      ("path", some (.text step.path)),
      ("filters", step.filters.map Filters.toJson),
      ("reset_shelf", some (.bool step.isShelf)),
      ("reset_section", some (.bool step.isSection))]
  | .setSchema step => Json.ofMembers [
      ("path", step.path.map Json.text),
      ("schema_model", some step.schema.toJson),
      ("is_library", some (.bool step.isLibrary))]
where
  /-- The document of an item of a checkout. -/
  itemJson (item : CheckOutItem) : Json :=
    .object [("path", .text item.path), ("checkout", .list (item.selection.map Json.text))]
  /-- The document of a criterion of sorting. -/
  sortJson (item : SortItem) : Json :=
    .object [
      ("path", .text item.path),
      ("order", .text (match item.order with | .ascending => "asc" | .descending => "desc"))]

/-- The document of an operation. -/
def toJson (operation : Operation) : Json :=
  .object [("op", .text operation.kind), ("payload", operation.payload)]

/-- The document of an item of a checkout. -/
def itemToJson : CheckOutItem → Json := payload.itemJson

/-- The document of a criterion of sorting. -/
def sortToJson : SortItem → Json := payload.sortJson

end Operation

/-- The document of a query. -/
def Query.toJson : Query → Json
  | .single operation => operation.toJson
  | .transaction operations =>
    .object [
      ("op", .text "transaction"),
      ("payload", .object [("queries", .list (operations.map Operation.toJson))])]

namespace CheckOutItem

/-- The item of a document. -/
def decode : Decoder CheckOutItem :=
  let shape : Shape [String, List String] :=
    .field "path" Decoder.text none <|
    .field "checkout" (Decoder.list Decoder.text) none .done
  Decoder.refining (shape.decoder "CheckOutItemFields" true) fun (path, selection, ()) =>
    make path selection

end CheckOutItem

namespace SortItem

/-- A direction of sorting by its name. -/
def decodeOrder : Decoder SortOrder := fun found =>
  (Decoder.name ["asc", "desc"] found).map fun name =>
    if name = "desc" then .descending else .ascending

/-- The criterion of a document. -/
def decode : Decoder SortItem :=
  let shape : Shape [String, SortOrder] :=
    .field "path" Decoder.text none <|
    .field "order" decodeOrder (some .ascending) .done
  Decoder.refining (shape.decoder "SortItemFields" true) fun (path, order, ()) => make path order

end SortItem

namespace Operation

/-- How the payload of one kind of operation is read: its members, and what they make. -/
structure PayloadReader where
  /-- The types of the members. -/
  types : List Type
  /-- The title of the members. -/
  title : String
  /-- The members. -/
  shape : Shape types
  /-- The operation of the members, still to be validated. -/
  make : Shape.Filled types → Operation

/-- An optional path. -/
private def optionalText : Decoder (Option String) := Decoder.optional Decoder.text

/-- An optional record. -/
private def optionalRecord : Decoder (Option Record) := Decoder.optional Decoder.plainRecord

/-- An optional filter. -/
private def optionalFilters : Decoder (Option Filters) := Decoder.optional Filters.decode

/-- An optional count. -/
private def optionalCount : Decoder (Option Nat) := Decoder.optional (Decoder.nat64 "usize")

/-- The reader of the payload of a kind of operation. -/
def payloadReader? : String → Option PayloadReader
  | "build_section" => some {
      types := [Option String, String, Option Schema, Option Record]
      title := "BuildSectionFields"
      shape :=
        .field "path" optionalText (some none) <|
        .field "name" Decoder.text none <|
        .field "schema_model" (Decoder.optional Schema.decode) (some none) <|
        .field "metadata" optionalRecord (some none) .done
      make := fun (path, name, schema, metadata, ()) =>
        .buildSection ⟨path, name, schema, metadata⟩ }
  | "build_shelf" => some {
      types := [Option String, String, Option SchemaInstance, Option Record]
      title := "BuildShelfFields"
      shape :=
        .field "path" optionalText (some none) <|
        .field "name" Decoder.text none <|
        .field "data" (Decoder.optional SchemaInstance.decode) (some none) <|
        .field "metadata" optionalRecord (some none) .done
      make := fun (path, name, data, metadata, ()) => .buildShelf ⟨path, name, data, metadata⟩ }
  | "write" => some {
      types := [String, Record]
      title := "WriteFields"
      shape :=
        .field "path" Decoder.text none <|
        .field "data" Decoder.plainRecord none .done
      make := fun (path, data, ()) => .write ⟨path, data⟩ }
  | "checkout" => some {
      types := [List CheckOutItem, Option Filters, Option (List SortItem), Option Nat, Option Nat]
      title := "CheckOutFields"
      shape :=
        .field "checkout" (Decoder.list CheckOutItem.decode) none <|
        .field "filters" optionalFilters (some none) <|
        .field "sort" (Decoder.optional (Decoder.list SortItem.decode)) (some none) <|
        .field "limit" optionalCount (some none) <|
        .field "offset" optionalCount (some none) .done
      make := fun (items, filters, sort, limit, offset, ()) =>
        .checkOut ⟨items, filters, sort.getD [], limit, offset⟩ }
  | "revise" => some {
      types := [String, Option Filters, Record]
      title := "ReviseFields"
      shape :=
        .field "path" Decoder.text none <|
        .field "filters" optionalFilters (some none) <|
        .field "data" Decoder.plainRecord none .done
      make := fun (path, filters, data, ()) => .revise ⟨path, filters, data⟩ }
  | "remove" => some {
      types := [String, Option Filters, Bool, Bool]
      title := "RemoveFields"
      shape :=
        .field "path" Decoder.text none <|
        .field "filters" optionalFilters (some none) <|
        .field "remove_shelf" Decoder.bool (some false) <|
        .field "remove_section" Decoder.bool (some false) .done
      make := fun (path, filters, isShelf, isSection, ()) =>
        .remove ⟨path, filters, isShelf, isSection⟩ }
  | "reset" => some {
      types := [String, Option Filters, Bool, Bool]
      title := "ResetFields"
      shape :=
        .field "path" Decoder.text none <|
        .field "filters" optionalFilters (some none) <|
        .field "reset_shelf" Decoder.bool (some false) <|
        .field "reset_section" Decoder.bool (some false) .done
      make := fun (path, filters, isShelf, isSection, ()) =>
        .reset ⟨path, filters, isShelf, isSection⟩ }
  | "set_schema" => some {
      types := [Option String, Schema, Bool]
      title := "SetSchemaFields"
      shape :=
        .field "path" optionalText (some none) <|
        .field "schema_model" Schema.decode none <|
        .field "is_library" Decoder.bool (some false) .done
      make := fun (path, schema, isLibrary, ()) => .setSchema ⟨path, schema, isLibrary⟩ }
  | _ => none

namespace PayloadReader

/-- The operation of a payload, every fault a decoding error. -/
def decode (reader : PayloadReader) : Decoder Operation :=
  Decoder.refining (reader.shape.decoder reader.title true) fun members =>
    (reader.make members).checked

/-- The operation of a payload, a fault of shape told from a refusal. -/
def read (reader : PayloadReader) (payload : Json) : Except ValidationError Operation :=
  match reader.shape.decoder reader.title true payload with
  | .ok members => (reader.make members).checked
  | .error e => .error (.invalidField "payload" (.undecodable e))

end PayloadReader

end Operation

namespace Query

/-- The kinds of queries. -/
def kinds : List String :=
  ["build_section", "build_shelf", "write", "checkout", "revise", "remove", "reset", "set_schema",
    "transaction"]

/-- The documents of the queries of a transaction, read under a title. -/
def decodeQueries {α : Type} (title : String) (decode : Decoder α) : Decoder (List α) :=
  fun found =>
    ((Shape.field "queries" (Decoder.list decode) none .done).decoder title true found).map
      fun (queries, ()) => queries

/-- The query of a document that nests less deep than `fuel`. -/
def decodeWithin : Nat → Decoder Query
  | 0 => fun _ => .error (.refused "")
  | fuel + 1 =>
    Decoder.adjacent "Query" "op" "payload" kinds fun kind =>
      match Operation.payloadReader? kind with
      | some reader => Decoder.required "payload" fun found => (reader.decode found).map .single
      | none => Decoder.required "payload" <|
        Decoder.refining (decodeQueries "TransactionFields" (decodeWithin fuel)) makeTransaction

/-- The query of a document. -/
def decode : Decoder Query := fun found => decodeWithin (found.depth + 1) found

/-- The kind and the payload of a document; an absent payload counts as `null`. -/
def split (document : Json) : Except ValidationError (String × Json) :=
  match document with
  | .object members =>
    match Table.get? members "op" with
    | some (.text kind) => .ok (kind, (Table.get? members "payload").getD .null)
    | _ => .error (.invalidField "op" .notAText)
  | _ => .error (.invalidField "query" .notAnObject)

/-- The operation of a kind and a payload. -/
def readOperation (kind : String) (payload : Json) : Except ValidationError Operation :=
  match Operation.payloadReader? kind with
  | some reader => reader.read payload
  | none => .error (.invalidField "op" (.unknownOperation kind))

/-- The operations of the documents in a transaction from a position on. -/
def readOperations : Nat → List Json → Except ValidationError (List Operation)
  | _, [] => .ok []
  | position, document :: rest => do
    if let some (.text "transaction") := document.member? "op" then
      throw (nestedAt position)
    let (kind, payload) ← split document
    let operation ← readOperation kind payload
    let operations ← readOperations (position + 1) rest
    return operation :: operations

/-- The query of a document, as the reader of query texts sees it. -/
def ofDocument (document : Json) : Except ValidationError Query := do
  let (kind, payload) ← split document
  if kind = "transaction" then
    match decodeQueries "RawTransaction" Decoder.any payload with
    | .error e => throw (.invalidField "payload" (.undecodable e))
    | .ok documents =>
      let operations ← readOperations 0 documents
      let query : Query := .transaction operations
      query.validate
      return query
  else return .single (← readOperation kind payload)

/-- The query of a text. -/
def ofText (source : String) : Except ValidationError Query :=
  match Json.ofText? source with
  | none => .error (.invalidField "query" .notJson)
  | some document => ofDocument document

end Query

end ShelfLibrary
