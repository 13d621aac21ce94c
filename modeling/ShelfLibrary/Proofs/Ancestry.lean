import ShelfLibrary.Proofs.Extension
import ShelfLibrary.Proofs.Validation

/-!
# Schemas that extend others

A schema is extended by drafts that start from its fields, add some and declare others anew, over
any number of generations.  However far a schema has come from another, it counts as the other
exactly if it still has the other's fields, and what it has made of a record is then, in these
fields alone, a record in the normal form of the other.
-/

namespace ShelfLibrary

/-! ## Generations -/

/-- The draft with several fields declared, one after another. -/
def SchemaDraft.declareAll (draft : SchemaDraft) (changes : List FieldDescriptor) : SchemaDraft :=
  changes.foldl (fun draft field => draft.declare field.name field.type field.required) draft

@[simp]
theorem SchemaDraft.ancestors_declareAll (draft : SchemaDraft) (changes : List FieldDescriptor) :
    (draft.declareAll changes).ancestors = draft.ancestors := by
  unfold declareAll
  induction changes generalizing draft with
  | nil => rfl
  | cons change rest ih => exact ih _

namespace Schema

variable {bound parent schema : Schema} {record normal : Record}

/-- One schema has been built from a draft that extends another. -/
def IsExtendedBy (parent schema : Schema) : Prop :=
  ∃ name changes, ((parent.extend name).declareAll changes).build = .ok schema

/-- An extension remembers what it extends. -/
theorem IsExtendedBy.ancestors_eq (extended : parent.IsExtendedBy schema) :
    schema.ancestors = parent.ancestors ++ [parent.name] := by
  obtain ⟨name, changes, built⟩ := extended
  rw [parts_of_build built]
  exact SchemaDraft.ancestors_declareAll _ _

/-- What comes of any number of extensions has the first schema among its ancestors, has more of
them, and has distinct fields. -/
theorem of_transGen (chain : Relation.TransGen IsExtendedBy bound schema) :
    bound.name ∈ schema.ancestors ∧ bound.ancestors.length < schema.ancestors.length ∧
      schema.IsDistinct := by
  induction chain with
  | single extended =>
      obtain ⟨_, _, built⟩ := extended
      refine ⟨?_, ?_, isDistinct_of_build built⟩ <;>
        simp [IsExtendedBy.ancestors_eq ⟨_, _, built⟩]
  | tail earlier extended ih =>
      obtain ⟨remembered, longer, -⟩ := ih
      obtain ⟨_, _, built⟩ := extended
      rw [IsExtendedBy.ancestors_eq ⟨_, _, built⟩]
      refine ⟨List.mem_append_left _ remembered, ?_, isDistinct_of_build built⟩
      rw [List.length_append]
      omega

/-- A schema with distinct fields has a field under its name exactly if the field is one of them. -/
theorem field?_eq_some_iff (distinct : schema.IsDistinct) {field : FieldDescriptor} :
    schema.field? field.name = some field ↔ field ∈ schema.fields :=
  ⟨fun found => (of_field? found).1, field?_of_mem distinct⟩

/-- A schema that comes of extensions of another counts as it exactly if it has its fields. -/
theorem isA_iff_of_transGen (chain : Relation.TransGen IsExtendedBy bound schema) :
    schema.isA bound = true ↔ ∀ field ∈ bound.fields, field ∈ schema.fields := by
  obtain ⟨remembered, longer, distinct⟩ := of_transGen chain
  have different : schema ≠ bound := by
    rintro rfl
    exact absurd longer (lt_irrefl _)
  have sameField (field : FieldDescriptor) :
      (schema.field? field.name == some field) = true ↔ field ∈ schema.fields := by
    rw [← field?_eq_some_iff distinct]
    cases schema.field? field.name with
    | none => simp
    | some other => rw [Option.some.injEq, ← FieldDescriptor.same_iff]; exact Iff.rfl
  have notSame : (schema == bound) = false := by
    rw [← Bool.not_eq_true]
    exact fun same => different (same_iff.mp same)
  simp only [isA, notSame, Bool.false_or, List.contains_iff_mem.mpr remembered, Bool.true_and,
    List.all_eq_true, sameField]

/-! ## Reading at another type -/

/-- What a record has in the fields of a schema. -/
def restrict (schema : Schema) (record : Record) : Record :=
  record.filter fun field => (schema.field? field.1).isSome

theorem get?_restrict (schema : Schema) (record : Record) (name : String) :
    Table.get? (schema.restrict record) name =
      if (schema.field? name).isSome then Table.get? record name else none :=
  Table.get?_filter_keys record (fun key => (schema.field? key).isSome) name

/-- What a schema has made of a record is, in the fields of one that it counts as, in the normal
form of that one. -/
theorem validate_restrict_of_isA (built : schema.IsBuilt) (boundBuilt : bound.IsBuilt)
    (isA : schema.isA bound = true) (accepted : schema.validate record = .ok normal) :
    bound.validate (bound.restrict normal) = .ok (bound.restrict normal) := by
  have again := (normalize_eq_ok built.isDistinct).mp
    (validate_eq_ok.mp (validate_of_validate built accepted))
  rw [validate_eq_ok, normalize_eq_ok boundBuilt.isDistinct]
  refine ⟨fun key inside => ?_, fun field member => ?_, fun key present => ?_,
    Table.sorted_filter again.sorted _⟩
  · obtain ⟨entry, kept, rfl⟩ := List.mem_map.mp inside
    exact (List.mem_filter.mp kept).2
  · have mine := field?_of_isA isA boundBuilt.isDistinct member
    have known : (bound.field? field.name).isSome = true :=
      Option.isSome_iff_exists.mpr ⟨field, field?_of_mem boundBuilt.isDistinct member⟩
    have held : Table.get? (bound.restrict normal) field.name = Table.get? normal field.name := by
      rw [get?_restrict, if_pos known]
    have checked := again.checked field (of_field? mine).1
    obtain ⟨name, type, required⟩ := field
    have alike : FieldDescriptor.check? (.mk name type required) (bound.restrict normal) =
        FieldDescriptor.check? (.mk name type required) normal :=
      FieldDescriptor.check?_congr held
    rwa [held, alike]
  · rw [get?_restrict] at present
    by_contra unknown
    simp [unknown] at present

/-- What comes of any number of extensions of a schema counts as the schema exactly if all its
fields occur in it unchanged.  Whatever schema counts as another, a record that it has accepted is
in normal form for the other once only the fields of the other are kept. -/
theorem isA_iff_and_validate_restrict (bound : Schema) :
    (∀ schema, Relation.TransGen IsExtendedBy bound schema →
        (schema.isA bound = true ↔ ∀ field ∈ bound.fields, field ∈ schema.fields)) ∧
      ∀ (schema : Schema) (record normal : Record), schema.IsBuilt → bound.IsBuilt →
        schema.isA bound = true → schema.validate record = .ok normal →
          bound.validate (bound.restrict normal) = .ok (bound.restrict normal) :=
  ⟨fun _ chain => isA_iff_of_transGen chain, fun _ _ _ built boundBuilt isA accepted =>
    validate_restrict_of_isA built boundBuilt isA accepted⟩

/-- What is known of a beast. -/
private def beast : Schema := .mk "Beast" [.mk "name" .text true, .mk "born" .instant false] []

/-- A hound is a beast of some breed. -/
private def hound : Schema :=
  .mk "Hound" (beast.fields ++ [.mk "breed" .text true]) ["Beast"]

/-- A puppy is a hound whose time of birth has to be known. -/
private def puppy : Schema :=
  .mk "Puppy" [.mk "name" .text true, .mk "born" .instant true, .mk "breed" .text true]
    ["Beast", "Hound"]

/-- A puppy as it is given, with the date of its birth. -/
private def givenPuppy : Record :=
  [("born", .text "2024-01-01"), ("breed", .text "pug"), ("name", .text "rex")]

/-- The puppy in normal form. -/
private def normalPuppy : Record :=
  [("born", .instant ⟨1704067200, 0⟩), ("breed", .text "pug"), ("name", .text "rex")]

/-- A puppy counts as no beast any more, since what is known of its birth has been declared anew; a
hound does, and without its breed it is in the normal form of a beast. -/
theorem isA_iff_and_validate_restrict_puppy :
    Relation.TransGen IsExtendedBy beast puppy ∧ puppy.isA beast = false ∧
      Relation.TransGen IsExtendedBy beast hound ∧ hound.isA beast = true ∧
        hound.validate givenPuppy = .ok normalPuppy ∧
          beast.restrict normalPuppy = [("born", .instant ⟨1704067200, 0⟩), ("name", .text "rex")] ∧
            beast.validate (beast.restrict normalPuppy) = .ok (beast.restrict normalPuppy) := by
  have first : beast.IsExtendedBy hound := ⟨"Hound", [.mk "breed" .text true], by rfl⟩
  have second : hound.IsExtendedBy puppy := ⟨"Puppy", [.mk "born" .instant true], by rfl⟩
  have chain : Relation.TransGen IsExtendedBy beast puppy := .tail (.single first) second
  obtain ⟨counts, reads⟩ := isA_iff_and_validate_restrict beast
  have houndBuilt : hound.IsBuilt := ⟨by rfl, trivial, trivial, trivial, trivial⟩
  have beastBuilt : beast.IsBuilt := ⟨by rfl, trivial, trivial, trivial⟩
  have accepted : hound.validate givenPuppy = .ok normalPuppy := by rfl
  have isBeast : hound.isA beast = true :=
    (counts hound (.single first)).mpr fun field member => List.mem_append_left _ member
  refine ⟨chain, ?_, .single first, isBeast, accepted, by rfl,
    reads hound givenPuppy normalPuppy houndBuilt beastBuilt isBeast accepted⟩
  rw [Bool.eq_false_iff, ne_eq, counts puppy chain]
  intro unchanged
  have born := unchanged (.mk "born" .instant false) (by simp [beast, fields])
  simp [puppy, fields] at born

end Schema

end ShelfLibrary
