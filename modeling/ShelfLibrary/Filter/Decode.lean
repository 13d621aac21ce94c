import ShelfLibrary.Filter.Basic
import ShelfLibrary.Json.Shape

/-!
# Decoding filters

The documents of conditions, groups and filters.  An element of a list that cannot be decoded is
reported with its position.
-/

namespace ShelfLibrary

namespace Decoder

variable {α : Type}

/-- What a decoder makes of a document, refused where validation refuses it. -/
def refining {β : Type} (decode : Decoder α) (make : α → Except ValidationError β) : Decoder β :=
  fun found => do
    let read ← decode found
    match make read with
    | .ok value => return value
    | .error e => throw e.toDecodeError

/-- A plain value. -/
def plainValue : Decoder Value := fun found => .ok (Value.ofJson found)

/-- A plain record. -/
def plainRecord : Decoder Record := fun found =>
  match Value.ofJson found with
  | .record fields => .ok fields
  | other => .error (.refused ("expected an object, found " ++ other.kind))

end Decoder

namespace Condition

/-- The members of the document of a condition. -/
def shape : Shape [Value, String, Value, Bool, Bool] :=
  .field "left" Decoder.plainValue none <|
  .field "operator" Decoder.text none <|
  .field "right" Decoder.plainValue none <|
  .field "left_is_path" Decoder.bool (some true) <|
  .field "right_is_path" Decoder.bool (some false) .done

/-- The condition of a document. -/
def decode : Decoder Condition :=
  Decoder.refining (shape.decoder "ConditionFields" true)
    fun (left, operator, right, leftIsPath, rightIsPath, ()) =>
      make left operator right leftIsPath rightIsPath

end Condition

namespace FilterItem

/-- The document of a condition among the elements of a list. -/
def decodeWrapped : Decoder Condition := fun found =>
  ((Shape.field "condition" Condition.decode none .done).decoder "ConditionDict" true found).map
    fun (leaf, ()) => leaf

/-- The documents in the document of a group. -/
def decodeBody : Decoder (List Json) := fun found =>
  ((Shape.field "group" (Decoder.list Decoder.any) none .done).decoder "GroupFields" true found).map
    fun (items, ()) => items

/-- An element at a position; `decodeGroup` reads the document of a group. -/
def decodeAt (decodeGroup : Decoder FilterItem) (position : Nat) (found : Json) :
    Except ValidationError FilterItem :=
  let undecodable (e : DecodeError) : ValidationError :=
    .malformedGroup position (.undecodable e)
  match found with
  | .text token =>
    match Connective.ofToken? token with
    | some joint => .ok (.connective joint)
    | none => .error (.malformedGroup position (.unknownConnective token))
  | .object members =>
    if Table.contains members "condition" then
      match decodeWrapped found with
      | .ok leaf => .ok (.condition leaf)
      | .error e => .error (undecodable e)
    else if Table.contains members "group" then
      match decodeGroup found with
      | .ok item => .ok item
      | .error e => .error (undecodable e)
    else .error (.malformedGroup position (.notAnItem found))
  | found => .error (.malformedGroup position (.notAnItem found))

/-- The elements of documents from a position on. -/
def decodeFrom (decodeGroup : Decoder FilterItem) :
    Nat → List Json → Except ValidationError (List FilterItem)
  | _, [] => .ok []
  | position, found :: rest => do
    let item ← decodeAt decodeGroup position found
    let items ← decodeFrom decodeGroup (position + 1) rest
    return item :: items

/-- The group of a document that nests less deep than `fuel`. -/
def decodeGroup : Nat → Decoder FilterItem
  | 0 => fun _ => .error (.refused "")
  | fuel + 1 =>
    Decoder.refining decodeBody fun found => do
      makeGroup (← decodeFrom (decodeGroup fuel) 0 found)

/-- The group of a document. -/
def ofJson (json : Json) : Except DecodeError FilterItem :=
  decodeGroup (json.depth + 1) json

end FilterItem

namespace Filters

/-- The filter of a document. -/
def decode : Decoder Filters := fun found =>
  Decoder.refining (Decoder.list Decoder.any)
    (fun documents => do
      make (← FilterItem.decodeFrom (FilterItem.decodeGroup (found.depth + 1)) 0 documents)) found

end Filters

end ShelfLibrary
