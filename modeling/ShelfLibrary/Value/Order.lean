import ShelfLibrary.Value.Basic

/-!
# The orders of values

Conditions compare values of like kinds, whole numbers with floating point ones after rounding.
Sorting uses a total order: kinds come in a fixed sequence, and numbers of both kinds are ordered by
their exact values.
-/

namespace ShelfLibrary.Value

/-- The order of two comparable values: numbers, texts, truth values, and points in time, also
against a text that denotes one. -/
def compare? : Value → Value → Option Ordering
  | .int a, .int b => some (compare a.toInt b.toInt)
  | .int a, .float b => (Double.ofInt a.toInt).compare? b
  | .float a, .int b => a.compare? (Double.ofInt b.toInt)
  | .float a, .float b => a.compare? b
  | .text a, .text b => some (compare a b)
  | .bool a, .bool b => some (compare a b)
  | .instant a, .instant b => some (a.compare b)
  | .instant a, .text b => (Instant.ofText? b).map a.compare
  | .text a, .instant b => (Instant.ofText? a).map (Instant.compare · b)
  | _, _ => none

/-- The place of a value's kind in sorting. -/
def rank : Value → Nat
  | .null => 0
  | .bool _ => 1
  | .int _ => 2
  | .float _ => 2
  | .text _ => 3
  | .instant _ => 4
  | .list _ => 5
  | .record _ => 6

/-- The order of two doubles in sorting: what is no number comes after every number. -/
def sortDoubles (a b : Double) : Ordering :=
  if a.isNaN then if b.isNaN then .eq else .gt
  else if b.isNaN then .lt
  else compare a.units b.units

mutual

/-- The order of values in sorting.  Lists compare item by item and then by length, records by
their number of fields. -/
def sortCompare : Value → Value → Ordering
  | .list a, .list b => sortItems a b
  | .record a, .record b => compare a.length b.length
  | .int a, .int b => compare a.toInt b.toInt
  | .int a, .float b => Double.compareInt a b
  | .float a, .int b => (Double.compareInt b a).swap
  | .float a, .float b => sortDoubles a b
  | .text a, .text b => compare a b
  | .bool a, .bool b => compare a b
  | .instant a, .instant b => a.compare b
  | a, b => compare a.rank b.rank

/-- The order of lists in sorting. -/
def sortItems : List Value → List Value → Ordering
  | [], [] => .eq
  | [], _ :: _ => .lt
  | _ :: _, [] => .gt
  | x :: xs, y :: ys => (sortCompare x y).then (sortItems xs ys)

end

/-- A list in sorting order; values that the order does not tell apart keep their places. -/
def sort (values : List Value) : List Value :=
  values.mergeSort fun a b => (sortCompare a b).isLE

end ShelfLibrary.Value
