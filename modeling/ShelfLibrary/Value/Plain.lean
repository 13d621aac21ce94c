import ShelfLibrary.Json.Basic
import ShelfLibrary.Json.Reader
import ShelfLibrary.Value.Basic

/-!
# Values as plain JSON

In the plain form a value is written as the JSON document that looks like it.  The form does not
keep kinds apart: a point in time becomes a text, and an infinite number or none becomes `null`.
-/

namespace ShelfLibrary.Value

-- Powers are those of the core library, with or without others at hand.
attribute [local instance (high)] instPowNat

/-- Whether a whole number fits 64 bits with a sign. -/
def fitsInt (n : Int) : Bool :=
  -2 ^ (63 : Nat) ≤ n && n < 2 ^ (63 : Nat)

mutual

/-- The value of a plain document; a whole number beyond 64 bits becomes a double. -/
def ofJson : Json → Value
  | .null => .null
  | .bool value => .bool value
  | .int n => if fitsInt n then .int (Int64.ofInt n) else .float (Double.ofInt n)
  | .float d => .float d
  | .text s => .text s
  | .list items => .list (ofJsonItems items)
  | .object members => .record (ofJsonMembers members)

/-- The values of the items of an array. -/
def ofJsonItems : List Json → List Value
  | [] => []
  | item :: rest => ofJson item :: ofJsonItems rest

/-- The values of the members of an object. -/
def ofJsonMembers : List (String × Json) → List (String × Value)
  | [] => []
  | (key, value) :: rest => (key, ofJson value) :: ofJsonMembers rest

end

mutual

/-- The plain document of a value. -/
def toJson : Value → Json
  | .null => .null
  | .bool value => .bool value
  | .int value => .int value.toInt
  | .float value => if value.isFinite then .float value else .null
  | .text value => .text value
  | .instant value => .text value.offsetText
  | .list items => .list (toJsonItems items)
  | .record fields => .object (toJsonFields fields)

/-- The plain documents of the items of a list. -/
def toJsonItems : List Value → List Json
  | [] => []
  | item :: rest => toJson item :: toJsonItems rest

/-- The plain documents of the fields of a record. -/
def toJsonFields : List (String × Value) → List (String × Json)
  | [] => []
  | (name, value) :: rest => (name, toJson value) :: toJsonFields rest

end

end ShelfLibrary.Value

namespace ShelfLibrary.Record

/-- The plain document of a record. -/
def toJson (fields : Record) : Json :=
  .object (Value.toJsonFields fields)

end ShelfLibrary.Record
