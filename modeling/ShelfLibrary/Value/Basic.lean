import ShelfLibrary.Double.Rounding
import ShelfLibrary.Double.Text
import ShelfLibrary.Table
import ShelfLibrary.Text.Quoted
import ShelfLibrary.Time.Reader
import ShelfLibrary.Time.Writer

/-!
# Values

A value is what a field of a shelf holds and what a condition compares with.  Records nest: a record
is a table from field names to values.
-/

namespace ShelfLibrary

/-- A value of a field. -/
inductive Value where
  /-- No value. -/
  | null
  /-- A truth value. -/
  | bool (value : Bool)
  /-- A whole number of 64 bits. -/
  | int (value : Int64)
  /-- A floating point number. -/
  | float (value : Double)
  /-- A text. -/
  | text (value : String)
  /-- A point in time. -/
  | instant (value : Instant)
  /-- A list of values. -/
  | list (items : List Value)
  /-- A record of named values. -/
  | record (fields : List (String × Value))
deriving Inhabited, Repr

/-- The fields of a shelf: values by name. -/
abbrev Record := Table Value

namespace Value

/-- The name of a value's kind. -/
def kind : Value → String
  | .null => "null"
  | .bool _ => "bool"
  | .int _ => "int"
  | .float _ => "float"
  | .text _ => "string"
  | .instant _ => "datetime"
  | .list _ => "list"
  | .record _ => "record"

/-- Whether the value is the absent one. -/
def isNull : Value → Bool
  | .null => true
  | _ => false

/-- Whether the value is a whole or floating point number. -/
def isNumber : Value → Bool
  | .int _ => true
  | .float _ => true
  | _ => false

/-- The truth value, of a truth value. -/
def asBool? : Value → Option Bool
  | .bool value => some value
  | _ => none

/-- The whole number, of a whole number. -/
def asInt? : Value → Option Int64
  | .int value => some value
  | _ => none

/-- A number as a double; a whole number is rounded. -/
def asDouble? : Value → Option Double
  | .float value => some value
  | .int value => some (Double.ofInt value.toInt)
  | _ => none

/-- The text, of a text. -/
def asText? : Value → Option String
  | .text value => some value
  | _ => none

/-- The items, of a list. -/
def asList? : Value → Option (List Value)
  | .list items => some items
  | _ => none

/-- The fields, of a record. -/
def asRecord? : Value → Option Record
  | .record fields => some fields
  | _ => none

/-- A point in time, also one that a text denotes as a timestamp or a date. -/
def asInstant? : Value → Option Instant
  | .instant value => some value
  | .text value => Instant.ofText? value
  | _ => none

/-- The number of characters, items or fields. -/
def length? : Value → Option Nat
  | .text value => some value.length
  | .list items => some items.length
  | .record fields => some fields.length
  | _ => none

/-- Whether the value counts as true: it is neither absent nor false, zero or empty. -/
def isTruthy : Value → Bool
  | .null => false
  | .bool value => value
  | .int value => value != 0
  | .float value => value.isNonzero
  | .text value => value != ""
  | .instant _ => true
  | .list items => !items.isEmpty
  | .record fields => !fields.isEmpty

/-- The value for a reader: numbers and times plainly, texts quoted, lists and records by size. -/
def display : Value → String
  | .null => "null"
  | .bool value => if value then "true" else "false"
  | .int value => intText value.toInt
  | .float value => value.text .plain
  | .text value => Text.quote value
  | .instant value => value.offsetText
  | .list items => "list[" ++ natText items.length ++ "]"
  | .record fields => "record\x7b" ++ natText fields.length ++ "\x7d"

mutual

/-- Equality of values of one kind; floating point numbers are equal as numbers. -/
def same : Value → Value → Bool
  | .null, .null => true
  | .bool a, .bool b => a == b
  | .int a, .int b => a == b
  | .float a, .float b => a.same b
  | .text a, .text b => a == b
  | .instant a, .instant b => a == b
  | .list a, .list b => sameItems a b
  | .record a, .record b => sameFields a b
  | _, _ => false

/-- Equality of lists, item by item. -/
def sameItems : List Value → List Value → Bool
  | [], [] => true
  | x :: xs, y :: ys => same x y && sameItems xs ys
  | _, _ => false

/-- Equality of records, name by name and value by value. -/
def sameFields : List (String × Value) → List (String × Value) → Bool
  | [], [] => true
  | (name, x) :: xs, (other, y) :: ys => name == other && same x y && sameFields xs ys
  | _, _ => false

end

instance : BEq Value := ⟨same⟩


mutual

/-- Equality that also holds between whole and floating point numbers, and inside lists. -/
def looseSame : Value → Value → Bool
  | .int a, .int b => a == b
  | .int a, .float b => (Double.ofInt a.toInt).same b
  | .float a, .int b => a.same (Double.ofInt b.toInt)
  | .list a, .list b => looseSameItems a b
  | a, b => same a b

/-- Loose equality of lists, item by item. -/
def looseSameItems : List Value → List Value → Bool
  | [], [] => true
  | x :: xs, y :: ys => looseSame x y && looseSameItems xs ys
  | _, _ => false

end

end Value

end ShelfLibrary
