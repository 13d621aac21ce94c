import ShelfLibrary.Value.Basic

/-!
# Nested fields

A field inside a record is addressed by the names on the way to it.  Reading and overwriting take
the same way: every name but the last has to hold a record.  A field is removed from the record
that the names before the last lead to.
-/

namespace ShelfLibrary.Record

/-- The value at the end of a way of names; the empty way leads nowhere. -/
def lookup? : Record → List String → Option Value
  | _, [] => none
  | fields, [name] => Table.get? fields name
  | fields, name :: rest =>
    match Table.get? fields name with
    | some (.record inner) => lookup? inner rest
    | _ => none

/-- A place in a record at which a value stands. -/
structure Slot where
  /-- The value. -/
  value : Value
  /-- The record with another value in the place. -/
  fill : Value → Record

/-- The place at the end of a way of names; the empty way leads nowhere. -/
def slot? : Record → List String → Option Slot
  | _, [] => none
  | fields, [name] => (Table.get? fields name).map fun value => ⟨value, Table.insert fields name⟩
  | fields, name :: rest =>
    match Table.get? fields name with
    | some (.record inner) =>
      (slot? inner rest).map fun slot =>
        ⟨slot.value, fun value => Table.insert fields name (.record (slot.fill value))⟩
    | _ => none

/-- The record with the value at the end of a way overwritten, if there is one. -/
def assign? (fields : Record) (names : List String) (value : Value) : Option Record :=
  (slot? fields names).map fun slot => slot.fill value

/-- Takes the field at the end of a way out of the record around it: the value of the field, if it
is there, and what is left of the whole record. -/
def extract (fields : Record) (names : List String) : Option Value × Record :=
  match names.dropLast, names.getLast? with
  | _, none => (none, fields)
  | [], some last => (Table.get? fields last, Table.erase fields last)
  | parents, some last =>
    match slot? fields parents with
    | some ⟨.record inner, fill⟩ =>
      match Table.get? inner last with
      | some value => (some value, fill (.record (Table.erase inner last)))
      | none => (none, fields)
    | _ => (none, fields)

/-- The record without the field at the end of a way, if there is one. -/
def remove? (fields : Record) (names : List String) : Option Record :=
  match extract fields names with
  | (some _, left) => some left
  | (none, _) => none

@[simp]
theorem lookup?_nil (fields : Record) : lookup? fields [] = none := rfl

@[simp]
theorem lookup?_singleton (fields : Record) (name : String) :
    lookup? fields [name] = Table.get? fields name := rfl

end ShelfLibrary.Record
