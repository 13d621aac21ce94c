import ShelfLibrary.Json.Decoder

/-!
# Shapes of objects

A shape lists the members of an object with their decoders.  One walk over a document fills the
slots of a shape, whether the document is an object or the array of its members in declared order.
-/

namespace ShelfLibrary

/-- The members of an object in declared order, with the value of an absent one where it may be. -/
inductive Shape : List Type → Type 1 where
  /-- No members. -/
  | done : Shape []
  /-- A member before the others. -/
  | field {α : Type} {αs : List Type} (name : String) (decode : Decoder α) (absent : Option α)
      (rest : Shape αs) : Shape (α :: αs)

namespace Shape

/-- What has been read of each member. -/
def Slots : List Type → Type
  | [] => Unit
  | α :: αs => Option α × Slots αs

/-- A value for every member. -/
def Filled : List Type → Type
  | [] => Unit
  | α :: αs => α × Filled αs

/-- The names of the members. -/
def names {αs : List Type} : Shape αs → List String
  | .done => []
  | .field name _ _ rest => name :: names rest

/-- Nothing read yet. -/
def empty {αs : List Type} : Shape αs → Slots αs
  | .done => ()
  | .field _ _ _ rest => (none, empty rest)

/-- Reads a member into its slot, which has to be free; nothing if no member has the name. -/
def put? {αs : List Type} : Shape αs → Slots αs → String → Json →
    Option (Except DecodeError (Slots αs))
  | .done, _, _, _ => none
  | .field name decode _ rest, (slot, slots), key, found =>
    if name = key then
      if slot.isSome then some (.error (.repeatedField name))
      else some ((decode found).map fun read => (some read, slots))
    else (put? rest slots key found).map fun result => result.map fun slots => (slot, slots)

/-- The values of all members, the absent ones filled in; the first that must not be absent is the
fault. -/
def finish {αs : List Type} : Shape αs → Slots αs → Except DecodeError (Filled αs)
  | .done, _ => .ok ()
  | .field name _ absent rest, (slot, slots) =>
    match slot <|> absent with
    | none => .error (.missingField name)
    | some value => (finish rest slots).map fun values => (value, values)

/-- The values of all members from an array, from the item at a position on; `shortage` says what is
missing where the items end too soon. -/
def fromItems {αs : List Type} (shortage : Nat → DecodeError) :
    Nat → Shape αs → List Json → Except DecodeError (Filled αs × List Json)
  | _, .done, items => .ok ((), items)
  | position, .field _ decode _ rest, found :: items => do
    let value ← decode found
    let (values, items) ← fromItems shortage (position + 1) rest items
    return ((value, values), items)
  | position, .field _ _ absent rest, [] =>
    match absent with
    | none => .error (shortage position)
    | some value => do
      let (values, items) ← fromItems shortage (position + 1) rest []
      return ((value, values), items)

/-- Reads the members of an object one after another; a member of another name is a fault in a
closed shape and skipped in an open one. -/
def fromMembers {αs : List Type} (shape : Shape αs) (closed : Bool) :
    List (String × Json) → Slots αs → Except DecodeError (Slots αs)
  | [], slots => .ok slots
  | (key, found) :: rest, slots =>
    match shape.put? slots key found with
    | some (.ok slots) => fromMembers shape closed rest slots
    | some (.error e) => .error e
    | none =>
      if closed then .error (.unknownField key shape.names)
      else fromMembers shape closed rest slots

/-- A number of elements in words. -/
def elements (count : Nat) : String :=
  natText count ++ if count = 1 then " element" else " elements"

/-- The values of all members from an array of exactly as many items as it needs; `surplus` words
the refusal of more from the number that there is and the number that there should be. -/
def fromArray {αs : List Type} (title : String) (surplus : Nat → Nat → DecodeError)
    (shape : Shape αs) (items : List Json) : Except DecodeError (Filled αs) := do
  let count := shape.names.length
  let shortage (position : Nat) : DecodeError :=
    .wrongLength position ("struct " ++ title ++ " with " ++ elements count)
  let (values, rest) ← shape.fromItems shortage 0 items
  if rest.isEmpty then return values
  else throw (surplus items.length count)

/-- A surplus of items, told by the number that there is. -/
def longArray (found _expected : Nat) : DecodeError :=
  .wrongLength found "fewer elements in array"

/-- A surplus of items, told by the number that there should be. -/
def otherLength (found expected : Nat) : DecodeError :=
  .wrongLength found (elements expected ++ " in sequence")

/-- The decoder of a shape under a title, with the wording of a surplus of items. -/
def decoderWith {αs : List Type} (surplus : Nat → Nat → DecodeError) (title : String)
    (closed : Bool) (shape : Shape αs) : Decoder (Filled αs)
  | .object members => do
    let slots ← shape.fromMembers closed members shape.empty
    shape.finish slots
  | .list items => shape.fromArray title surplus items
  | found => .error (.wrongType found ("struct " ++ title))

/-- The decoder of a shape under a title. -/
def decoder {αs : List Type} (title : String) (closed : Bool) (shape : Shape αs) :
    Decoder (Filled αs) :=
  shape.decoderWith longArray title closed

end Shape

end ShelfLibrary
