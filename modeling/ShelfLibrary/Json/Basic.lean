import ShelfLibrary.Double.Basic
import ShelfLibrary.Table

/-!
# JSON trees

A number is whole or a double: which of the two is a matter of how it was written.  An object keeps
its members in the order in which they are to be written; what is read from a text is in key order.
-/

namespace ShelfLibrary

/-- A JSON document. -/
inductive Json where
  /-- `null`. -/
  | null
  /-- `true` or `false`. -/
  | bool (value : Bool)
  /-- A number written without fraction and exponent. -/
  | int (value : Int)
  /-- Any other number. -/
  | float (value : Double)
  /-- A text. -/
  | text (value : String)
  /-- An array. -/
  | list (items : List Json)
  /-- An object with its members in writing order. -/
  | object (members : List (String × Json))
deriving Inhabited, Repr

namespace Json

/-- The object with the given members in the given order, of which absent ones are left out. -/
def ofMembers (members : List (String × Option Json)) : Json :=
  .object (members.filterMap fun entry => entry.2.map fun value => (entry.1, value))

/-- The member of an object under a key. -/
def member? : Json → String → Option Json
  | .object members, key => Table.get? members key
  | _, _ => none

mutual

/-- How deep arrays and objects nest; a document without either has depth zero. -/
def depth : Json → Nat
  | .list items => depthOfItems items + 1
  | .object members => depthOfMembers members + 1
  | _ => 0

/-- The greatest depth in a list of documents. -/
def depthOfItems : List Json → Nat
  | [] => 0
  | item :: rest => max (depth item) (depthOfItems rest)

/-- The greatest depth among the members of an object. -/
def depthOfMembers : List (String × Json) → Nat
  | [] => 0
  | (_, value) :: rest => max (depth value) (depthOfMembers rest)

end

end Json

end ShelfLibrary
