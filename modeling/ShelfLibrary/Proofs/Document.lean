import ShelfLibrary.Proofs.Scan
import ShelfLibrary.Proofs.Tagged
import ShelfLibrary.Store.Call

/-!
# Shelves and catalogs that are read back

The contents of a shelf and a catalog are read back from their documents exactly when every value in
them is, as schemas always are.
-/

namespace ShelfLibrary

/-! ## Schemas -/

mutual

/-- Whether the schemas in a type have been built. -/
def FieldType.IsBuilt : FieldType → Prop
  | .list inner => inner.IsBuilt
  | .nested schema => schema.IsBuilt
  | _ => True

/-- Whether the schemas in the type of a field have been built. -/
def FieldDescriptor.IsBuilt : FieldDescriptor → Prop
  | .mk _ type _ => type.IsBuilt

/-- Whether the schemas in the types of some fields have been built. -/
def FieldDescriptor.AreBuilt : List FieldDescriptor → Prop
  | [] => True
  | field :: rest => field.IsBuilt ∧ FieldDescriptor.AreBuilt rest

/-- Whether a schema has been built, as those in it have: it has a name, and proper fields. -/
def Schema.IsBuilt : Schema → Prop
  | .mk name fields ancestors =>
    SchemaDraft.build ⟨name, fields, ancestors⟩ = .ok (.mk name fields ancestors) ∧
      FieldDescriptor.AreBuilt fields

end

mutual

theorem FieldType.isProper_toJson : ∀ type : FieldType, type.toJson.IsProper
  | .any | .bool | .int | .float | .text | .instant | .record => by
      simp [FieldType.toJson, Json.isProper_object_iff]
  | .list inner => by
      simp [FieldType.toJson, Json.isProper_object_iff, FieldType.isProper_toJson inner]
  | .nested schema => by
      simp [FieldType.toJson, Json.isProper_object_iff, Schema.isProper_toJson schema]

theorem FieldDescriptor.isProper_toJson : ∀ field : FieldDescriptor, field.toJson.IsProper
  | .mk _ type _ => by
      simp [FieldDescriptor.toJson, Json.isProper_object_iff, FieldType.isProper_toJson type]

theorem FieldDescriptor.areProper_toJsonList : ∀ fields : List FieldDescriptor,
    Json.AreProper (FieldDescriptor.toJsonList fields)
  | [] => trivial
  | field :: rest =>
      ⟨FieldDescriptor.isProper_toJson field, FieldDescriptor.areProper_toJsonList rest⟩

theorem Schema.isProper_toJson : ∀ schema : Schema, schema.toJson.IsProper
  | .mk name fields ancestors => by
      have listed := FieldDescriptor.areProper_toJsonList fields
      rw [Schema.toJson]
      split <;>
        simp [Json.isProper_object_iff, Json.isProper_list_iff, ← Json.areProper_iff, listed]

end

theorem Schema.echo_toJson (schema : Schema) : schema.toJson.echo = schema.toJson :=
  schema.isProper_toJson.echo_eq

theorem Schema.intsFit_toJson (schema : Schema) : schema.toJson.IntsFit :=
  schema.isProper_toJson.intsFit

namespace Decoder

theorem list_text (texts : List String) : Decoder.list Decoder.text (.list (texts.map Json.text)) =
    .ok texts := by
  induction texts with
  | nil => rfl
  | cons text rest ih =>
      simp only [Decoder.list] at ih
      simp [Decoder.list, Decoder.text, ih, bind, Except.bind, pure, Except.pure]

end Decoder

mutual

theorem Schema.decodeType_toJson : ∀ (type : FieldType) (fuel : Nat), type.IsBuilt →
    type.toJson.depth < fuel → Schema.decodeType fuel type.toJson = .ok type
  | type, 0, _, enough => absurd enough (Nat.not_lt_zero _)
  | .any, fuel + 1, _, _ | .bool, fuel + 1, _, _ | .int, fuel + 1, _, _ | .float, fuel + 1, _, _
  | .text, fuel + 1, _, _ | .instant, fuel + 1, _, _ | .record, fuel + 1, _, _ => by
      rw [FieldType.toJson, Schema.decodeType, Decoder.adjacent_alone (by decide) (by decide)]
      simp [Decoder.unit]
  | .list inner, fuel + 1, built, enough => by
      have inside := Schema.decodeType_toJson inner fuel built (by
        simp only [FieldType.toJson, Json.depth, Json.depthOfMembers] at enough
        omega)
      rw [FieldType.toJson, Schema.decodeType, Decoder.adjacent_pair (by decide) (by decide)]
      simp [Decoder.required, inside, Except.map]
  | .nested schema, fuel + 1, built, enough => by
      have inside := Schema.decodeSchema_toJson schema fuel built (by
        simp only [FieldType.toJson, Json.depth, Json.depthOfMembers] at enough
        omega)
      rw [FieldType.toJson, Schema.decodeType, Decoder.adjacent_pair (by decide) (by decide)]
      simp [Decoder.required, inside, Except.map]

theorem Schema.decodeField_toJson : ∀ (field : FieldDescriptor) (fuel : Nat), field.IsBuilt →
    field.toJson.depth < fuel → Schema.decodeField fuel field.toJson = .ok field
  | field, 0, _, enough => absurd enough (Nat.not_lt_zero _)
  | .mk name type required, fuel + 1, built, enough => by
      have inside := Schema.decodeType_toJson type fuel built (by
        simp only [FieldDescriptor.toJson, Json.depth, Json.depthOfMembers] at enough
        omega)
      rw [FieldDescriptor.toJson, Schema.decodeField]
      refine Result.bind_eq_ok.mpr ⟨(name, type, required, ()), ?_, rfl⟩
      exact (Shape.decoder_members rfl (by simp [Shape.names])).mpr ⟨rfl, inside, rfl, trivial⟩

theorem Schema.decodeFields_toJson : ∀ (fields : List FieldDescriptor) (fuel : Nat),
    FieldDescriptor.AreBuilt fields → Json.depthOfItems (FieldDescriptor.toJsonList fields) < fuel →
      (FieldDescriptor.toJsonList fields).mapM (Schema.decodeField fuel) = .ok fields
  | [], fuel, _, _ => by simp [FieldDescriptor.toJsonList, pure, Except.pure]
  | field :: rest, fuel, built, enough => by
      simp only [FieldDescriptor.toJsonList, Json.depthOfItems, Nat.max_lt] at enough
      simp [FieldDescriptor.toJsonList, Schema.decodeField_toJson field fuel built.1 enough.1,
        Schema.decodeFields_toJson rest fuel built.2 enough.2, bind, Except.bind, pure, Except.pure]

theorem Schema.decodeSchema_toJson : ∀ (schema : Schema) (fuel : Nat), schema.IsBuilt →
    schema.toJson.depth < fuel → Schema.decodeSchema fuel schema.toJson = .ok schema
  | schema, 0, _, enough => absurd enough (Nat.not_lt_zero _)
  | .mk name fields ancestors, fuel + 1, built, enough => by
      have inside := Schema.decodeFields_toJson fields fuel built.2 (by
        simp only [Schema.toJson, Json.depth] at enough
        split at enough <;> simp only [List.append_nil, List.cons_append, List.nil_append,
          Json.depthOfMembers, Json.depth] at enough <;> omega)
      have listed : Decoder.list (Schema.decodeField fuel)
          (.list (FieldDescriptor.toJsonList fields)) = .ok fields := inside
      have texts := Decoder.list_text ancestors
      rw [Schema.toJson, Schema.decodeSchema]
      refine Result.bind_eq_ok.mpr ⟨(name, fields, ancestors, ()), ?_, ?_⟩
      · by_cases none : ancestors = []
        · subst none
          refine (Shape.decoder_object ?_ ?_ ?_).mpr ⟨rfl, listed, rfl, trivial⟩ <;>
            simp [Shape.names, Table.keys]
        · simp only [List.isEmpty_iff, none, if_false]
          exact (Shape.decoder_members rfl (by simp [Shape.names])).mpr
            ⟨rfl, listed, texts, trivial⟩
      · simp [built.1, pure, Except.pure]

end

/-- A schema that has been built is read back from its document. -/
theorem Schema.decode_toJson {schema : Schema} (built : schema.IsBuilt) :
    Schema.decode schema.toJson = .ok schema :=
  Schema.decodeSchema_toJson schema _ built (Nat.lt_succ_self _)

/-! ## Records -/

/-- Whether a record is a table, as the records in it are. -/
def Record.IsOrdered (fields : Record) : Prop :=
  Table.Sorted fields ∧ Value.AreOrderedFields fields

/-- A record is read back when its values are. -/
theorem Record.ofTagged_echo {fields : Record} (ordered : fields.IsOrdered) :
    Record.ofTagged (Record.toTagged fields).echo = .ok fields ↔ Value.AreLegibleFields fields := by
  have keys : (Json.echoMembers (Value.toTaggedFields fields)).map Prod.fst =
      fields.map Prod.fst := by
    rw [Json.keys_echoMembers, Value.keys_toTaggedFields]
  have enough : Json.depthOfMembers (Value.toTaggedFields fields) <
      (Json.echo (.object (Value.toTaggedFields fields))).depth + 1 := by
    rw [Json.depth_echo, Json.depth]
    omega
  unfold Record.ofTagged Record.toTagged
  rw [← Value.decodeTagged_echoFields fields _ ordered.2 enough,
    ← Decoder.table_eq_ok keys ordered.1,
    Json.echo]

/-! ## Members that may be left out -/

theorem Json.echo_ofMembers (members : List (String × Option Json)) :
    (Json.ofMembers members).echo =
      Json.ofMembers (Table.mapValues (Option.map Json.echo) members) := by
  rw [Json.ofMembers_eq, Json.ofMembers_eq, Json.echo]
  refine congrArg Json.object ?_
  induction members with
  | nil => rfl
  | cons member rest ih =>
      obtain ⟨key, value⟩ := member
      cases value with
      | none => exact ih
      | some json => exact congrArg (List.cons (key, json.echo)) ih

/-- What was said about a shelf or a section is read back when its values are. -/
theorem Record.isMember_echo {metadata : Option Record}
    (ordered : ∀ fields ∈ metadata, Record.IsOrdered fields) :
    Shape.IsMember (Decoder.optional Record.ofTagged) (some none)
        ((metadata.map Record.toTagged).map Json.echo) metadata ↔
      ∀ fields ∈ metadata, Value.AreLegibleFields fields := by
  cases metadata with
  | none => simp [Shape.IsMember]
  | some fields =>
      have unfolded : Decoder.optional Record.ofTagged (Record.toTagged fields).echo =
          (Record.ofTagged (Record.toTagged fields).echo).map some := by
        rw [Record.toTagged, Json.echo]
        rfl
      have read := Record.ofTagged_echo (ordered fields rfl)
      simp [Shape.IsMember, unfolded, Result.map_eq_ok, read]

/-- A schema that has been built is read back where it may be left out. -/
theorem Schema.isMember_echo {schema : Option Schema} (built : ∀ held ∈ schema, held.IsBuilt) :
    Shape.IsMember (Decoder.optional Schema.decode) (some none)
      ((schema.map Schema.toJson).map Json.echo) schema := by
  cases schema with
  | none => rfl
  | some schema =>
      have unfolded : Decoder.optional Schema.decode schema.toJson =
          (Schema.decode schema.toJson).map some := by
        obtain ⟨name, fields, ancestors⟩ := schema
        rw [Schema.toJson]
        rfl
      simp [Shape.IsMember, Schema.echo_toJson, unfolded, Result.map_eq_ok,
        Schema.decode_toJson (built schema rfl)]

/-! ## Contents of shelves -/

namespace ShelfData

/-- Whether the records of a shelf are tables. -/
structure IsOrdered (contents : ShelfData) : Prop where
  /-- The record on the shelf is. -/
  data : contents.data.IsOrdered
  /-- What was said about the shelf is. -/
  metadata : ∀ metadata ∈ contents.metadata, metadata.IsOrdered

/-- Whether the values on a shelf, and in what was said about it, are legible. -/
structure IsLegible (contents : ShelfData) : Prop where
  /-- The values on the shelf are. -/
  data : Value.AreLegibleFields contents.data
  /-- The values in what was said about the shelf are. -/
  metadata : ∀ metadata ∈ contents.metadata, Value.AreLegibleFields metadata

theorem intsFit_toJson (contents : ShelfData) : contents.toJson.IntsFit := by
  obtain ⟨data, metadata⟩ := contents
  cases metadata <;>
    simp [toJson, Json.ofMembers, Json.IntsFit, Json.IntsFitMembers, Record.toTagged,
      Value.intsFit_toTaggedFields]

/-- The contents of a shelf are read back when their values are. -/
theorem decode_echo {contents : ShelfData} (ordered : contents.IsOrdered) :
    decode contents.toJson.echo = .ok contents ↔ contents.IsLegible := by
  obtain ⟨data, metadata⟩ := contents
  rw [toJson, Json.echo_ofMembers]
  refine (Shape.decode_pair (by decide) fun _ _ _ _ => mk.inj).trans ?_
  refine (and_congr (Record.ofTagged_echo ordered.data)
    (Record.isMember_echo ordered.metadata)).trans ?_
  exact ⟨fun ⟨first, second⟩ => ⟨first, second⟩, fun both => ⟨both.data, both.metadata⟩⟩

end ShelfData

/-! ## Catalogs -/

namespace SectionNote

/-- Whether the schema of a section has been built, and what was said about it is a table. -/
structure IsProper (note : SectionNote) : Prop where
  /-- The schema has been built. -/
  schema : ∀ schema ∈ note.schema, schema.IsBuilt
  /-- What was said is a table. -/
  metadata : ∀ metadata ∈ note.metadata, metadata.IsOrdered

/-- Whether the values in what was said about a section are legible. -/
def IsLegible (note : SectionNote) : Prop :=
  ∀ metadata ∈ note.metadata, Value.AreLegibleFields metadata

theorem intsFit_toJson (note : SectionNote) : note.toJson.IntsFit := by
  obtain ⟨schema, metadata⟩ := note
  cases schema <;> cases metadata <;>
    simp [toJson, Json.ofMembers, Json.IntsFit, Json.IntsFitMembers, Record.toTagged,
      Value.intsFit_toTaggedFields, Schema.intsFit_toJson]

/-- The note on a section is read back when its values are. -/
theorem decode_echo {note : SectionNote} (proper : note.IsProper) :
    decode note.toJson.echo = .ok note ↔ note.IsLegible := by
  obtain ⟨schema, metadata⟩ := note
  rw [toJson, Json.echo_ofMembers]
  refine (Shape.decode_pair (by decide) fun _ _ _ _ => mk.inj).trans ?_
  exact (and_iff_right (Schema.isMember_echo proper.schema)).trans
    (Record.isMember_echo proper.metadata)

end SectionNote

namespace Catalog

/-- Whether a catalog is a table of proper notes, with a schema at the root that has been built. -/
structure IsProper (catalog : Catalog) : Prop where
  /-- The schema at the root has been built. -/
  root : ∀ schema ∈ catalog.rootSchema, schema.IsBuilt
  /-- The notes are in key order. -/
  sorted : Table.Sorted catalog.sections
  /-- The notes are proper. -/
  notes : ∀ entry ∈ catalog.sections, entry.2.IsProper

/-- Whether the values in all notes are legible. -/
def IsLegible (catalog : Catalog) : Prop :=
  ∀ entry ∈ catalog.sections, entry.2.IsLegible

theorem intsFit_mapValues (notes : Table SectionNote) :
    Json.IntsFitMembers (Table.mapValues SectionNote.toJson notes) := by
  induction notes with
  | nil => trivial
  | cons entry rest ih => exact ⟨SectionNote.intsFit_toJson entry.2, ih⟩

theorem intsFit_toJson (catalog : Catalog) : catalog.toJson.IntsFit := by
  obtain ⟨root, notes⟩ := catalog
  cases root <;>
    simp [toJson, Json.ofMembers, Json.IntsFit, Json.IntsFitMembers, Schema.intsFit_toJson,
      intsFit_mapValues]

/-- The notes that are read back. -/
theorem mapM_decode_echo {notes : Table SectionNote} (proper : ∀ entry ∈ notes, entry.2.IsProper) :
    (Json.echoMembers (Table.mapValues SectionNote.toJson notes)).mapM
      (Decoder.member SectionNote.decode) = .ok notes ↔ ∀ entry ∈ notes, entry.2.IsLegible := by
  induction notes with
  | nil => simp [Table.mapValues, Json.echoMembers, pure, Except.pure]
  | cons entry rest ih =>
      obtain ⟨key, note⟩ := entry
      have first := SectionNote.decode_echo (proper (key, note) (by simp))
      have others := ih fun entry held => proper entry (List.mem_cons_of_mem _ held)
      simp only [Table.mapValues] at others
      rw [List.forall_mem_cons, ← first, ← others]
      simp only [Table.mapValues, List.map_cons, Json.echoMembers, List.mapM_cons, Decoder.member]
      cases SectionNote.decode note.toJson.echo <;>
        cases (Json.echoMembers (rest.map fun entry => (entry.1, entry.2.toJson))).mapM
          (Decoder.member SectionNote.decode) <;>
        simp [bind, Except.bind, pure, Except.pure, Except.map]

/-- A catalog is read back when the values in its notes are. -/
theorem decode_echo {catalog : Catalog} (proper : catalog.IsProper) :
    decode catalog.toJson.echo = .ok catalog ↔ catalog.IsLegible := by
  obtain ⟨root, notes⟩ := catalog
  have keys : (Json.echoMembers (Table.mapValues SectionNote.toJson notes)).map Prod.fst =
      notes.map Prod.fst := by
    rw [Json.keys_echoMembers]
    exact Table.keys_mapValues _ _
  have readNotes := (Decoder.table_eq_ok keys proper.sorted).trans (mapM_decode_echo proper.notes)
  rw [toJson, Json.echo_ofMembers]
  refine (Shape.decode_pair (by decide) fun _ _ _ _ => mk.inj).trans ?_
  refine (and_iff_right (Schema.isMember_echo proper.root)).trans ?_
  simp only [Option.map_some, Json.echo]
  exact readNotes

end Catalog

end ShelfLibrary
