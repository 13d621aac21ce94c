import ShelfLibrary.Proofs.Normal
import ShelfLibrary.Proofs.QueryDocument

/-!
# Validation of records

A schema that has been built or decoded has parts that have been built, however deep they nest.
Validation under such a schema keeps the keys of a record and leaves its own results as they are,
and the order in which the fields of the schema are declared makes no difference to it.
-/

namespace ShelfLibrary

/-! ## Schemas that are built or decoded -/

namespace Decoder

variable {α : Type}

/-- What is decoded of an alternative is read of its kind and its content. -/
theorem exists_of_adjacent {title tag content : String} {known : List String}
    {read : String → Option Json → Except DecodeError α} {found : Json} {value : α}
    (decoded : adjacent title tag content known read found = .ok value) :
    ∃ kind child, read kind child = .ok value := by
  unfold adjacent at decoded
  split at decoded
  · obtain ⟨tagged, -, decoded⟩ := Result.bind_eq_ok.mp decoded
    split at decoded
    · cases decoded
    · obtain ⟨kind, -, decoded⟩ := Result.bind_eq_ok.mp decoded
      obtain ⟨child, -, decoded⟩ := Result.bind_eq_ok.mp decoded
      exact ⟨kind, child, decoded⟩
  · cases decoded
  · obtain ⟨_, -, failed⟩ := Result.bind_eq_ok.mp decoded
    cases failed
  · obtain ⟨kind, -, decoded⟩ := Result.bind_eq_ok.mp decoded
    obtain ⟨held, given, checked⟩ := Result.bind_eq_ok.mp decoded
    split at checked
    · obtain rfl := Except.ok.inj checked
      exact ⟨kind, _, given⟩
    · cases checked
  · cases decoded

end Decoder

theorem FieldDescriptor.areBuilt_iff {fields : List FieldDescriptor} :
    AreBuilt fields ↔ ∀ field ∈ fields, field.IsBuilt := by
  induction fields with
  | nil => simp [AreBuilt]
  | cons field rest ih => rw [AreBuilt, ih, List.forall_mem_cons]

namespace Schema

/-- A schema is built from a draft whose parts have been. -/
theorem isBuilt_of_build {draft : SchemaDraft} {schema : Schema}
    (made : draft.build = .ok schema) (parts : FieldDescriptor.AreBuilt draft.fields) :
    schema.IsBuilt := by
  obtain rfl := parts_of_build made
  exact ⟨made, parts⟩

mutual

/-- A type that is decoded has been built. -/
theorem isBuilt_of_decodeType : ∀ {fuel : Nat} {found : Json} {type : FieldType},
    decodeType fuel found = .ok type → type.IsBuilt
  | 0, _, _, decoded => by cases decoded
  | fuel + 1, _, type, decoded => by
      rw [decodeType] at decoded
      obtain ⟨kind, child, chosen⟩ := Decoder.exists_of_adjacent decoded
      split at chosen
      case h_8 =>
        obtain ⟨_, -, mapped⟩ := Decoder.required_eq_ok chosen
        obtain ⟨inner, typed, rfl⟩ := Result.map_eq_ok.mp mapped
        rw [FieldType.IsBuilt]
        exact isBuilt_of_decodeType typed
      case h_9 =>
        obtain ⟨_, -, mapped⟩ := Decoder.required_eq_ok chosen
        obtain ⟨inner, shaped, rfl⟩ := Result.map_eq_ok.mp mapped
        rw [FieldType.IsBuilt]
        exact isBuilt_of_decodeSchema shaped
      -- The types of the other names have no parts.
      all_goals
        obtain rfl := Decoder.unit_eq_ok chosen
        trivial

/-- The type of a field that is decoded has been built. -/
theorem isBuilt_of_decodeField : ∀ {fuel : Nat} {found : Json} {field : FieldDescriptor},
    decodeField fuel found = .ok field → field.IsBuilt
  | 0, _, _, decoded => by cases decoded
  | fuel + 1, _, field, decoded => by
      rw [decodeField] at decoded
      obtain ⟨⟨name, type, required, ⟨⟩⟩, shaped, same⟩ := Result.bind_eq_ok.mp decoded
      obtain rfl := Except.ok.inj same
      obtain ⟨-, ofType, -⟩ := Shape.isFilledFrom_of_decoderWith shaped
      obtain ⟨_, -, typed⟩ := ofType.resolve_right (by rintro ⟨⟩)
      exact isBuilt_of_decodeType typed

/-- A schema that is decoded has been built, and so have the schemas in it. -/
theorem isBuilt_of_decodeSchema : ∀ {fuel : Nat} {found : Json} {schema : Schema},
    decodeSchema fuel found = .ok schema → schema.IsBuilt
  | 0, _, _, decoded => by cases decoded
  | fuel + 1, _, schema, decoded => by
      rw [decodeSchema] at decoded
      obtain ⟨⟨name, fields, ancestors, ⟨⟩⟩, shaped, made⟩ := Decoder.refining_eq_ok decoded
      obtain ⟨-, ofFields, -⟩ := Shape.isFilledFrom_of_decoderWith shaped
      obtain ⟨child, -, listed⟩ := ofFields.resolve_right (by rintro ⟨⟩)
      refine isBuilt_of_build made (FieldDescriptor.areBuilt_iff.mpr fun field member => ?_)
      cases child with
      | list items =>
          obtain ⟨_, -, decoded⟩ := Decoder.exists_of_mapM listed member
          exact isBuilt_of_decodeField decoded
      | _ => cases listed

end

theorem isBuilt_of_decode {found : Json} {schema : Schema}
    (decoded : Schema.decode found = .ok schema) : schema.IsBuilt :=
  isBuilt_of_decodeSchema decoded

end Schema

/-! ## Keys -/

variable {record normal : Record}

/-- Something is found for a field exactly where the record has it. -/
theorem FieldDescriptor.isSome_of_check? {field : FieldDescriptor} {found : Option Value}
    (checked : field.check? record = .ok found) :
    found.isSome = (Table.get? record field.name).isSome := by
  obtain ⟨name, type, required⟩ := field
  by_cases blank : ∀ value, Table.get? record name = some value → value = .null
  · exact congrArg Option.isSome (check?_of_blank blank checked)
  · push Not at blank
    obtain ⟨value, held, present⟩ := blank
    rw [check?_of_some held present] at checked
    obtain ⟨result, -, rfl⟩ := Result.map_eq_ok.mp checked
    exact (congrArg Option.isSome held).symm

namespace Schema

variable {schema other : Schema}

/-- A record and its normal form have the same keys. -/
theorem Normalizes.mem_keys_iff (normalizes : schema.Normalizes record normal) (key : String) :
    key ∈ Table.keys normal ↔ key ∈ Table.keys record := by
  by_cases declared : (schema.field? key).isSome = true
  · obtain ⟨field, member, rfl⟩ := List.mem_map.mp (field?_isSome_iff.mp declared)
    rw [Table.mem_keys_iff, Table.mem_keys_iff,
      FieldDescriptor.isSome_of_check? (normalizes.checked field member)]
  · have absent : key ∉ Table.keys normal := fun inside =>
      declared (normalizes.listed key (Table.mem_keys_iff.mp inside))
    exact iff_of_false absent fun inside => declared (normalizes.known key inside)

/-! ## Order of fields -/

theorem IsDistinct.of_perm (distinct : schema.IsDistinct)
    (same : other.fields.Perm schema.fields) : other.IsDistinct :=
  (same.map FieldDescriptor.name).nodup_iff.mpr distinct

/-- A normal form depends on which fields there are, not on their order. -/
theorem Normalizes.of_perm (normalizes : schema.Normalizes record normal)
    (same : other.fields.Perm schema.fields) : other.Normalizes record normal := by
  have declared (key : String) :
      (other.field? key).isSome = true ↔ (schema.field? key).isSome = true := by
    rw [field?_isSome_iff, field?_isSome_iff, (same.map FieldDescriptor.name).mem_iff]
  exact ⟨fun key inside => (declared key).mpr (normalizes.known key inside),
    fun field member => normalizes.checked field (same.mem_iff.mp member),
    fun key present => (declared key).mpr (normalizes.listed key present), normalizes.sorted⟩

/-- Schemas with the same distinct fields validate alike. -/
theorem validate_eq_ok_of_perm (distinct : schema.IsDistinct)
    (same : other.fields.Perm schema.fields) :
    other.validate record = .ok normal ↔ schema.validate record = .ok normal := by
  rw [validate_eq_ok, validate_eq_ok, normalize_eq_ok distinct,
    normalize_eq_ok (distinct.of_perm same)]
  exact ⟨fun normalizes => normalizes.of_perm same.symm, fun normalizes => normalizes.of_perm same⟩

/-- What a schema makes of a record has the keys of the record, in order, and is accepted and left
as it is; and a schema with the same fields in another order makes the same of every record. -/
theorem validate_normal_form (built : schema.IsBuilt) :
    (∀ record normal, schema.validate record = .ok normal →
      (∀ key, key ∈ Table.keys normal ↔ key ∈ Table.keys record) ∧ Table.Sorted normal ∧
        schema.validate normal = .ok normal) ∧
      ∀ other : Schema, other.fields.Perm schema.fields → ∀ record normal,
        other.validate record = .ok normal ↔ schema.validate record = .ok normal := by
  refine ⟨fun record normal accepted => ?_,
    fun other same _ _ => validate_eq_ok_of_perm built.isDistinct same⟩
  have normalizes := (normalize_eq_ok built.isDistinct).mp (validate_eq_ok.mp accepted)
  exact ⟨normalizes.mem_keys_iff, normalizes.sorted, validate_of_validate built accepted⟩

/-- A schema for a trail with its waypoints, which have a schema of their own. -/
private def trail : Schema :=
  .mk "Trail" [.mk "since" .instant true,
    .mk "points" (.list (.nested (.mk "Waypoint" [.mk "x" .float true] []))) false] []

/-- The same fields in another order. -/
private def trailBackwards : Schema := .mk "Backwards" trail.fields.reverse []

/-- A trail as it is given, with a date to be read and a number to be widened. -/
private def givenTrail : Record :=
  [("points", .list [.record [("x", .int 3)]]), ("since", .text "2024-01-01")]

/-- The trail in normal form. -/
private def normalTrail : Record :=
  [("points", .list [.record [("x", .float (Double.ofInt 3))]]),
    ("since", .instant ⟨1704067200, 0⟩)]

/-- A date is read, and a whole number in a record in a list is widened, in any order of fields. -/
theorem validate_normal_form_trail :
    Schema.decode trail.toJson = .ok trail ∧ trail.validate givenTrail = .ok normalTrail ∧
      Table.keys normalTrail = Table.keys givenTrail ∧
      trail.validate normalTrail = .ok normalTrail ∧
      trailBackwards.validate givenTrail = .ok normalTrail := by
  have decoded : Schema.decode trail.toJson = .ok trail := by rfl
  have accepted : trail.validate givenTrail = .ok normalTrail := by rfl
  obtain ⟨kept, reordered⟩ := validate_normal_form (isBuilt_of_decode decoded)
  refine ⟨decoded, accepted, rfl, (kept _ _ accepted).2.2, ?_⟩
  exact (reordered trailBackwards (List.reverse_perm _) _ _).mpr accepted

end Schema

end ShelfLibrary
