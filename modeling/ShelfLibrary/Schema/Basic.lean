import ShelfLibrary.Error
import ShelfLibrary.Path
import ShelfLibrary.Text.Blank
import ShelfLibrary.Value.Plain

/-!
# Schemas

A schema is a named list of fields with types.  Validation is strict: a record has no other fields,
and every required one.  It returns the record in normal form, with whole numbers widened and dates
read where the schema asks for it.  A schema may extend another by taking over its fields.
-/

namespace ShelfLibrary

mutual

/-- The type of a field. -/
inductive FieldType where
  /-- Any value, also the absent one. -/
  | any
  /-- A truth value. -/
  | bool
  /-- A whole number. -/
  | int
  /-- A floating point number; whole numbers are widened. -/
  | float
  /-- A text. -/
  | text
  /-- A point in time; timestamps and dates are read. -/
  | instant
  /-- A list of values of one type. -/
  | list (inner : FieldType)
  /-- A record of any shape. -/
  | record
  /-- A record with a schema of its own. -/
  | nested (schema : Schema)

/-- A field of a schema. -/
inductive FieldDescriptor where
  /-- The field of a name, with its type and whether it is required. -/
  | mk (name : String) (type : FieldType) (required : Bool)

/-- A named shape of records. -/
inductive Schema where
  /-- The schema of a name, with its fields and the names of the schemas it extends. -/
  | mk (name : String) (fields : List FieldDescriptor) (ancestors : List String)

end

namespace FieldDescriptor

/-- The name of a field. -/
def name : FieldDescriptor → String
  | .mk name _ _ => name

/-- The type of a field. -/
def type : FieldDescriptor → FieldType
  | .mk _ type _ => type

/-- Whether a field is required. -/
def required : FieldDescriptor → Bool
  | .mk _ _ required => required

end FieldDescriptor

namespace Schema

/-- The name of a schema. -/
def name : Schema → String
  | .mk name _ _ => name

/-- The fields of a schema in declared order. -/
def fields : Schema → List FieldDescriptor
  | .mk _ fields _ => fields

/-- The names of the schemas that a schema extends, oldest first. -/
def ancestors : Schema → List String
  | .mk _ _ ancestors => ancestors

/-- The field of a name. -/
def field? (schema : Schema) (name : String) : Option FieldDescriptor :=
  schema.fields.find? fun field => field.name == name

end Schema

mutual

/-- Equality of types. -/
def FieldType.same : FieldType → FieldType → Bool
  | .any, .any => true
  | .bool, .bool => true
  | .int, .int => true
  | .float, .float => true
  | .text, .text => true
  | .instant, .instant => true
  | .record, .record => true
  | .list a, .list b => FieldType.same a b
  | .nested a, .nested b => Schema.same a b
  | _, _ => false

/-- Equality of fields. -/
def FieldDescriptor.same : FieldDescriptor → FieldDescriptor → Bool
  | .mk name type required, .mk name' type' required' =>
    name == name' && FieldType.same type type' && required == required'

/-- Equality of lists of fields. -/
def FieldDescriptor.sameList : List FieldDescriptor → List FieldDescriptor → Bool
  | [], [] => true
  | x :: xs, y :: ys => FieldDescriptor.same x y && FieldDescriptor.sameList xs ys
  | _, _ => false

/-- Equality of schemas. -/
def Schema.same : Schema → Schema → Bool
  | .mk name fields ancestors, .mk name' fields' ancestors' =>
    name == name' && FieldDescriptor.sameList fields fields' && ancestors == ancestors'

end

instance : BEq FieldDescriptor := ⟨FieldDescriptor.same⟩

instance : BEq Schema := ⟨Schema.same⟩

/-- The type for the reader of an error. -/
def FieldType.describe : FieldType → String
  | .any => "any"
  | .bool => "bool"
  | .int => "int"
  | .float => "float"
  | .text => "string"
  | .instant => "datetime"
  | .list inner => "list[" ++ inner.describe ++ "]"
  | .record => "record"
  | .nested schema => schema.name

/-- The items of a list, each checked under the name of the list with its number. -/
def checkItems (check : String → Value → Except Violation Value) (field : String) :
    Nat → List Value → Except Violation (List Value)
  | _, [] => .ok []
  | n, item :: rest => do
    let checked ← check (field ++ "[" ++ natText n ++ "]") item
    let others ← checkItems check field (n + 1) rest
    return checked :: others

mutual

/-- The normal form of the value of a field that is not absent. -/
def FieldType.check : FieldType → String → Value → Except Violation Value
  | .any, _, value => .ok value
  | .bool, field, value =>
    match value with
    | .bool _ => .ok value
    | _ => .error (.mismatch field "bool" value.kind)
  | .int, field, value =>
    match value with
    | .int _ => .ok value
    | _ => .error (.mismatch field "int" value.kind)
  | .float, field, value =>
    match value with
    | .float _ => .ok value
    | .int n => .ok (.float (Double.ofInt n.toInt))
    | _ => .error (.mismatch field "float" value.kind)
  | .text, field, value =>
    match value with
    | .text _ => .ok value
    | _ => .error (.mismatch field "string" value.kind)
  | .instant, field, value =>
    match value.asInstant? with
    | some moment => .ok (.instant moment)
    | none => .error (.mismatch field "datetime" value.kind)
  | .record, field, value =>
    match value with
    | .record _ => .ok value
    | _ => .error (.mismatch field "record" value.kind)
  | .list inner, field, value =>
    match value with
    | .list items => (checkItems (FieldType.check inner) field 0 items).map Value.list
    | _ => .error (.mismatch field ("list[" ++ inner.describe ++ "]") value.kind)
  | .nested schema, field, value =>
    match value with
    | .record fields =>
      match Schema.normalize schema fields with
      | .ok normal => .ok (.record normal)
      | .error violation => .error (.nested field schema.name violation)
    | _ => .error (.mismatch field schema.name value.kind)

/-- The normal form of what a record holds in a field; nothing if it may leave the field out. -/
def FieldDescriptor.check? : FieldDescriptor → Record → Except Violation (Option Value)
  | .mk name type required, record =>
    match Table.get? record name with
    | none => if required then .error (.missingField name) else .ok none
    | some .null =>
      match type, required with
      | .any, _ => .ok (some .null)
      | _, true => .error (.missingField name)
      | _, false => .ok (some .null)
    | some value => (FieldType.check type name value).map some

/-- The fields of a record in normal form, added to those already checked. -/
def FieldDescriptor.checkAll : List FieldDescriptor → Record → Record → Except Violation Record
  | [], _, normal => .ok normal
  | field :: rest, record, normal =>
    match FieldDescriptor.check? field record with
    | .error violation => .error violation
    | .ok none => FieldDescriptor.checkAll rest record normal
    | .ok (some value) =>
      FieldDescriptor.checkAll rest record (Table.insert normal field.name value)

/-- The normal form of a record under a schema. -/
def Schema.normalize : Schema → Record → Except Violation Record
  | .mk _ fields _, record =>
    match (Table.keys record).find? fun key => !fields.any fun field => field.name == key with
    | some key => .error (.unknownField key)
    | none => FieldDescriptor.checkAll fields record []

end

namespace Schema

/-- The normal form of a record, or the refusal of the record under the name of the schema. -/
def validate (schema : Schema) (record : Record) : Except ValidationError Record :=
  match schema.normalize record with
  | .ok normal => .ok normal
  | .error violation => .error (.schemaViolation schema.name violation)

/-- Whether instances of a schema are accepted where another is bound: the two are equal, or the
first extends the second and has all its fields unchanged. -/
def isA (schema bound : Schema) : Bool :=
  schema == bound ||
    (schema.ancestors.contains bound.name &&
      bound.fields.all fun field => schema.field? field.name == some field)

end Schema

/-- A schema that is being put together. -/
structure SchemaDraft where
  /-- The name. -/
  name : String
  /-- The fields so far. -/
  fields : List FieldDescriptor
  /-- The names of the schemas it extends. -/
  ancestors : List String

namespace SchemaDraft

/-- A draft without fields. -/
def start (name : String) : SchemaDraft := ⟨name, [], []⟩

/-- Fields with one added; a field of the same name is replaced where it stands. -/
def addField (added : FieldDescriptor) : List FieldDescriptor → List FieldDescriptor
  | [] => [added]
  | field :: rest => if field.name = added.name then added :: rest else field :: addField added rest

/-- The draft with a field declared. -/
def declare (draft : SchemaDraft) (name : String) (type : FieldType) (required : Bool) :
    SchemaDraft :=
  { draft with fields := addField (.mk name type required) draft.fields }

/-- Goes through the fields after those already `seen`: names have to be names, and differ. -/
def checkNames (schema : String) (seen : List String) :
    List FieldDescriptor → Except ValidationError Unit
  | [] => .ok ()
  | field :: rest =>
    if !Path.isName field.name then .error (.invalidName field.name)
    else if seen.contains field.name then
      .error (.schemaViolation schema (.duplicateField field.name))
    else checkNames schema (field.name :: seen) rest

/-- The schema of a draft that has a name and proper fields. -/
def build (draft : SchemaDraft) : Except ValidationError Schema := do
  if Text.isBlankText draft.name then
    throw (.missing "name")
  checkNames draft.name [] draft.fields
  return .mk draft.name draft.fields draft.ancestors

end SchemaDraft

/-- A draft with the fields of a schema, which it extends. -/
def Schema.extend (schema : Schema) (name : String) : SchemaDraft :=
  ⟨name, schema.fields, schema.ancestors ++ [schema.name]⟩

/-- A record in the normal form of a schema. -/
structure SchemaInstance where
  /-- The schema. -/
  schema : Schema
  /-- The record. -/
  data : Record

namespace SchemaInstance

/-- The instance of a record that the schema accepts. -/
def make (schema : Schema) (data : Record) : Except ValidationError SchemaInstance := do
  return ⟨schema, ← schema.validate data⟩

/-- The instance with a field assigned, if the schema still accepts the record. -/
def assign (inst : SchemaInstance) (field : String) (value : Value) :
    Except ValidationError SchemaInstance := do
  return { inst with data := ← inst.schema.validate (Table.insert inst.data field value) }

/-- Equality of instances. -/
def same (a b : SchemaInstance) : Bool :=
  a.schema == b.schema && Value.sameFields a.data b.data

instance : BEq SchemaInstance := ⟨same⟩

/-- The instance of the plain document of a record. -/
def ofJson (schema : Schema) (json : Json) : Except ValidationError SchemaInstance :=
  match Value.ofJson json with
  | .record fields => make schema fields
  | other => .error (.schemaViolation schema.name (.notARecord other.kind))

end SchemaInstance

end ShelfLibrary
