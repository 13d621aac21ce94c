import ShelfLibrary.Filter.Decode
import ShelfLibrary.Schema.Basic

/-!
# Documents of schemas

How schemas and their instances are written and read.  A schema that breaks its own rules is refused
when it is read.
-/

namespace ShelfLibrary

mutual

/-- The document of a type. -/
def FieldType.toJson : FieldType → Json
  | .any => .object [("kind", .text "any")]
  | .bool => .object [("kind", .text "bool")]
  | .int => .object [("kind", .text "int")]
  | .float => .object [("kind", .text "float")]
  | .text => .object [("kind", .text "string")]
  | .instant => .object [("kind", .text "date_time")]
  | .list inner => .object [("kind", .text "list"), ("of", FieldType.toJson inner)]
  | .record => .object [("kind", .text "record")]
  | .nested schema => .object [("kind", .text "nested"), ("of", Schema.toJson schema)]

/-- The document of a field. -/
def FieldDescriptor.toJson : FieldDescriptor → Json
  | .mk name type required =>
    .object [("name", .text name), ("field_type", FieldType.toJson type),
      ("required", .bool required)]

/-- The documents of a list of fields. -/
def FieldDescriptor.toJsonList : List FieldDescriptor → List Json
  | [] => []
  | field :: rest => FieldDescriptor.toJson field :: FieldDescriptor.toJsonList rest

/-- The document of a schema; a schema that extends none does not say so. -/
def Schema.toJson : Schema → Json
  | .mk name fields ancestors =>
    .object <|
      [("name", .text name), ("fields", .list (FieldDescriptor.toJsonList fields))] ++
        if ancestors.isEmpty then [] else [("ancestors", .list (ancestors.map Json.text))]

end

namespace Schema

/-- The types by their names in documents. -/
def typeNames : List String :=
  ["any", "bool", "int", "float", "string", "date_time", "list", "record", "nested"]

mutual

/-- The type of a document that nests less deep than `fuel`. -/
def decodeType : Nat → Decoder FieldType
  | 0 => fun _ => .error (.refused "")
  | fuel + 1 =>
    Decoder.adjacent "FieldType" "kind" "of" typeNames fun kind =>
      match kind with
      | "any" => Decoder.unit "FieldType::Any" FieldType.any
      | "bool" => Decoder.unit "FieldType::Bool" FieldType.bool
      | "int" => Decoder.unit "FieldType::Int" FieldType.int
      | "float" => Decoder.unit "FieldType::Float" FieldType.float
      | "string" => Decoder.unit "FieldType::String" FieldType.text
      | "date_time" => Decoder.unit "FieldType::DateTime" FieldType.instant
      | "record" => Decoder.unit "FieldType::Record" FieldType.record
      | "list" => Decoder.required "of" fun found => (decodeType fuel found).map FieldType.list
      | _ => Decoder.required "of" fun found => (decodeSchema fuel found).map FieldType.nested

/-- The field of a document that nests less deep than `fuel`. -/
def decodeField : Nat → Decoder FieldDescriptor
  | 0 => fun _ => .error (.refused "")
  | fuel + 1 => fun found => do
    let shape : Shape [String, FieldType, Bool] :=
      .field "name" Decoder.text none <|
      .field "field_type" (decodeType fuel) none <|
      .field "required" Decoder.bool (some true) .done
    let (name, type, required, ()) ← shape.decoder "FieldDescriptor" false found
    return .mk name type required

/-- The schema of a document that nests less deep than `fuel`. -/
def decodeSchema : Nat → Decoder Schema
  | 0 => fun _ => .error (.refused "")
  | fuel + 1 =>
    let shape : Shape [String, List FieldDescriptor, List String] :=
      .field "name" Decoder.text none <|
      .field "fields" (Decoder.list (decodeField fuel)) none <|
      .field "ancestors" (Decoder.list Decoder.text) (some []) .done
    Decoder.refining (shape.decoder "SchemaFields" true) fun (name, fields, ancestors, ()) =>
      SchemaDraft.build ⟨name, fields, ancestors⟩

end

/-- The schema of a document. -/
def decode : Decoder Schema := fun found =>
  decodeSchema (found.depth + 1) found

end Schema

namespace SchemaInstance

/-- The document of an instance. -/
def toJson (inst : SchemaInstance) : Json :=
  .object [("schema", inst.schema.toJson), ("data", Record.toJson inst.data)]

/-- The members of the document of an instance. -/
def shape : Shape [Schema, Record] :=
  .field "schema" Schema.decode none <|
  .field "data" Decoder.plainRecord none .done

/-- The instance of a document. -/
def decode : Decoder SchemaInstance :=
  Decoder.refining (shape.decoder "InstanceFields" true) fun (schema, data, ()) => make schema data

end SchemaInstance

end ShelfLibrary
