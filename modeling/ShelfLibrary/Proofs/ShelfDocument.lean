import ShelfLibrary.Proofs.InstanceDocument

/-!
# Queries with instances that are read back

A query that builds shelves with contents is written with the documents of the instances.  It is
read again from what is written of it just if every point in time in these has a year of four
digits; otherwise the text is refused.
-/

namespace ShelfLibrary

namespace Operation

/-- Whether every point in time in the instance of an operation has a year of four digits. -/
def HasPlainYears : Operation → Prop
  | .buildShelf step => ∀ inst ∈ step.data, inst.HasPlainYears
  | _ => True

instance (operation : Operation) : Decidable operation.HasPlainYears :=
  match operation with
  | .buildShelf step => inferInstanceAs (Decidable (∀ inst ∈ step.data, inst.HasPlainYears))
  | .buildSection _ | .write _ | .checkOut _ | .revise _ | .remove _ | .reset _ | .setSchema _ =>
    isTrue trivial

variable {path : Option String} {name : String} {data : Option SchemaInstance}
  {metadata : Option Record} {limit : Nat}

theorem PayloadReader.read_eq_ok {reader : PayloadReader} {payload : Json}
    {operation : Operation} : reader.read payload = .ok operation ↔
      ∃ members, reader.shape.decoder reader.title true payload = .ok members ∧
        (reader.make members).checked = .ok operation := by
  unfold read
  cases reader.shape.decoder reader.title true payload <;> simp

end Operation

namespace Query

/-! ## Documents of operations -/

/-- Whether every point in time in the instances of a query has a year of four digits. -/
def HasPlainYears : Query → Prop
  | .single operation => operation.HasPlainYears
  | .transaction operations => ∀ operation ∈ operations, operation.HasPlainYears

instance (query : Query) : Decidable query.HasPlainYears :=
  match query with
  | .single operation => inferInstanceAs (Decidable operation.HasPlainYears)
  | .transaction operations =>
    inferInstanceAs (Decidable (∀ operation ∈ operations, operation.HasPlainYears))

end Query

end ShelfLibrary
