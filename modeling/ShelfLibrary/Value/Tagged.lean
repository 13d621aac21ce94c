import ShelfLibrary.Json.Decoder
import ShelfLibrary.Value.Basic

/-!
# Values as tagged JSON

The tagged form keeps the kinds apart: a value is an object of its kind and its content.  It is the
form in which shelves are stored.
-/

namespace ShelfLibrary.Value

/-- An object of kind and content. -/
def tagged (kind : String) (content : Json) : Json :=
  .object [("type", .text kind), ("value", content)]

mutual

/-- The tagged document of a value. -/
def toTagged : Value → Json
  | .null => .object [("type", .text "null")]
  | .bool value => tagged "bool" (.bool value)
  | .int value => tagged "int" (.int value.toInt)
  | .float value => tagged "float" (.float value)
  | .text value => tagged "string" (.text value)
  | .instant value => tagged "date_time" (.text value.zuluText)
  | .list items => tagged "list" (.list (toTaggedItems items))
  | .record fields => tagged "record" (.object (toTaggedFields fields))

/-- The tagged documents of the items of a list. -/
def toTaggedItems : List Value → List Json
  | [] => []
  | item :: rest => toTagged item :: toTaggedItems rest

/-- The tagged documents of the fields of a record. -/
def toTaggedFields : List (String × Value) → List (String × Json)
  | [] => []
  | (name, value) :: rest => (name, toTagged value) :: toTaggedFields rest

end

/-- The kinds by their names in the tagged form. -/
def taggedKinds : List String :=
  ["bool", "int", "float", "string", "date_time", "list", "record", "null"]

/-- A floating point number; a whole number is rounded. -/
def decodeDouble : Decoder Double
  | .float d => .ok d
  | .int n => .ok (Double.ofInt n)
  | found => .error (.wrongType found "f64")

/-- A point in time from a relaxed timestamp. -/
def decodeInstant : Decoder Instant
  | .text s =>
    match Instant.ofRelaxed s with
    | .ok value => .ok value
    | .error fault => .error (.refused fault.message)
  | found => .error (.wrongType found "an RFC 3339 formatted date and time string")

/-- The content of a tagged document of a known kind; `nested` reads the documents inside. -/
def decodeContent (nested : Decoder Value) (kind : String) :
    Option Json → Except DecodeError Value :=
  match kind with
  | "bool" => Decoder.required "value" fun found => (Decoder.bool found).map Value.bool
  | "int" => Decoder.required "value" fun found => (Decoder.int64 found).map Value.int
  | "float" => Decoder.required "value" fun found => (decodeDouble found).map Value.float
  | "string" => Decoder.required "value" fun found => (Decoder.text found).map Value.text
  | "date_time" => Decoder.required "value" fun found => (decodeInstant found).map Value.instant
  | "list" => Decoder.required "value" fun found => (Decoder.list nested found).map Value.list
  | "record" => Decoder.required "value" fun found => (Decoder.table nested found).map Value.record
  | _ => Decoder.unit "Value::Null" Value.null

/-- The value of a tagged document that nests less deep than `fuel`. -/
def decodeTagged : Nat → Decoder Value
  | 0 => fun _ => .error (.refused "")
  | fuel + 1 =>
    Decoder.adjacent "Value" "type" "value" taggedKinds (decodeContent (decodeTagged fuel))

/-- The value of a tagged document. -/
def ofTagged (json : Json) : Except DecodeError Value :=
  decodeTagged (json.depth + 1) json

end ShelfLibrary.Value

namespace ShelfLibrary.Record

/-- The tagged document of a record: an object of tagged values. -/
def toTagged (fields : Record) : Json :=
  .object (Value.toTaggedFields fields)

/-- The record of an object of tagged values. -/
def ofTagged (json : Json) : Except DecodeError Record :=
  Decoder.table (Value.decodeTagged (json.depth + 1)) json

end ShelfLibrary.Record
