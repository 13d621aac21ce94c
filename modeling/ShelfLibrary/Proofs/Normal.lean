import ShelfLibrary.Proofs.Document

/-!
# Normal forms

A schema with distinct field names checks every field of a record by itself.  The normal form of a
record is a record in normal form: the schema accepts it again and leaves it as it is.
-/

namespace ShelfLibrary

variable {record normal start : Record} {fields : List FieldDescriptor}

/-! ## Names of fields -/

theorem SchemaDraft.nodup_of_checkNames {schema : String} {seen : List String}
    (accepted : checkNames schema seen fields = .ok ()) :
    (fields.map FieldDescriptor.name).Nodup ∧ ∀ field ∈ fields, field.name ∉ seen := by
  induction fields generalizing seen with
  | nil => simp
  | cons field rest ih =>
      unfold checkNames at accepted
      split at accepted
      · cases accepted
      · split at accepted
        · cases accepted
        · rename_i unseen
          obtain ⟨distinct, apart⟩ := ih accepted
          refine ⟨List.nodup_cons.mpr ⟨?_, distinct⟩, ?_⟩
          · rintro listed
            obtain ⟨other, member, same⟩ := List.mem_map.mp listed
            exact apart other member (same ▸ List.mem_cons_self)
          · rintro other member already
            rcases List.mem_cons.mp member with rfl | later
            · exact unseen (List.contains_iff_mem.mpr already)
            · exact apart other later (List.mem_cons_of_mem _ already)

namespace Schema

/-- No two fields have one name. -/
def IsDistinct (schema : Schema) : Prop :=
  (schema.fields.map FieldDescriptor.name).Nodup

/-- What a draft is built into has distinct fields. -/
theorem isDistinct_of_build {draft : SchemaDraft} {schema : Schema}
    (built : draft.build = .ok schema) : schema.IsDistinct := by
  unfold SchemaDraft.build at built
  split at built
  · cases built
  · obtain ⟨_, checked, same⟩ := Result.bind_eq_ok.mp built
    obtain rfl := Except.ok.inj same
    exact (SchemaDraft.nodup_of_checkNames checked).1

/-- A schema that has been built has distinct fields. -/
theorem IsBuilt.isDistinct : ∀ {schema : Schema}, schema.IsBuilt → schema.IsDistinct
  | .mk _ _ _, ⟨built, _⟩ => isDistinct_of_build built

theorem field?_of_mem {schema : Schema} (distinct : schema.IsDistinct) {field : FieldDescriptor}
    (member : field ∈ schema.fields) : schema.field? field.name = some field := by
  unfold IsDistinct at distinct
  unfold field?
  generalize schema.fields = fields at distinct member
  induction fields with
  | nil => cases member
  | cons first rest ih =>
      obtain ⟨apart, others⟩ := List.nodup_cons.mp distinct
      rcases List.mem_cons.mp member with rfl | later
      · simp
      · have different : first.name ≠ field.name := fun same =>
          apart (List.mem_map.mpr ⟨field, later, same.symm⟩)
        rw [List.find?_cons_of_neg (by simpa using different)]
        exact ih others later

theorem of_field? {schema : Schema} {name : String} {field : FieldDescriptor}
    (found : schema.field? name = some field) : field ∈ schema.fields ∧ field.name = name :=
  ⟨List.mem_of_find?_eq_some found, by simpa using List.find?_some found⟩

end Schema

/-! ## Checking the fields of a record -/

namespace FieldDescriptor

theorem sorted_checkAll (checked : checkAll fields record start = .ok normal)
    (sorted : Table.Sorted start) : Table.Sorted normal := by
  induction fields generalizing start with
  | nil =>
      obtain rfl := Except.ok.inj checked
      exact sorted
  | cons field rest ih =>
      unfold checkAll at checked
      split at checked
      · cases checked
      · exact ih checked sorted
      · exact ih checked (Table.sorted_insert sorted _ _)

/-- What each field has been found to hold, and nothing else, is in the result. -/
theorem get?_of_checkAll (distinct : (fields.map name).Nodup)
    (checked : checkAll fields record start = .ok normal) :
    (∀ field ∈ fields, ∃ value, field.check? record = .ok value ∧
        Table.get? normal field.name = value.or (Table.get? start field.name)) ∧
      ∀ key, key ∉ fields.map name → Table.get? normal key = Table.get? start key := by
  induction fields generalizing start with
  | nil =>
      obtain rfl := Except.ok.inj checked
      exact ⟨by simp, fun _ _ => rfl⟩
  | cons field rest ih =>
      obtain ⟨apart, others⟩ := List.nodup_cons.mp distinct
      unfold checkAll at checked
      split at checked
      · cases checked
      · rename_i absent
        obtain ⟨held, kept⟩ := ih others checked
        refine ⟨fun other member => ?_, fun key outside => ?_⟩
        · rcases List.mem_cons.mp member with rfl | later
          · exact ⟨none, absent, kept _ apart⟩
          · exact held other later
        · exact kept key fun inside => outside (List.mem_cons_of_mem _ inside)
      · rename_i value present
        obtain ⟨held, kept⟩ := ih others checked
        refine ⟨fun other member => ?_, fun key outside => ?_⟩
        · rcases List.mem_cons.mp member with rfl | later
          · refine ⟨some value, present, ?_⟩
            rw [kept _ apart, Table.get?_insert_self]
            rfl
          · obtain ⟨found, accepted, same⟩ := held other later
            have different : field.name ≠ other.name := fun same =>
              apart (List.mem_map.mpr ⟨other, later, same.symm⟩)
            exact ⟨found, accepted, by rw [same, Table.get?_insert_of_ne start value different]⟩
        · have different : field.name ≠ key := fun same => outside (same ▸ List.mem_cons_self)
          rw [kept key fun inside => outside (List.mem_cons_of_mem _ inside),
            Table.get?_insert_of_ne start value different]

/-- Fields each of which is accepted are accepted together. -/
theorem exists_checkAll (accepted : ∀ field ∈ fields, ∃ value, field.check? record = .ok value) :
    ∃ normal, checkAll fields record start = .ok normal := by
  induction fields generalizing start with
  | nil => exact ⟨start, rfl⟩
  | cons field rest ih =>
      obtain ⟨value, found⟩ := accepted field List.mem_cons_self
      have others := fun other member => accepted other (List.mem_cons_of_mem field member)
      unfold checkAll
      cases value with
      | none => simpa only [found] using ih others
      | some value => simpa only [found] using ih others

end FieldDescriptor

/-! ## Records in normal form -/

namespace Schema

variable {schema : Schema}

/-- A record is the normal form of another: both have fields of the schema only, and each field
holds what it is found to hold in the other. -/
structure Normalizes (schema : Schema) (record normal : Record) : Prop where
  /-- The record has fields of the schema only. -/
  known : ∀ key ∈ Table.keys record, (schema.field? key).isSome = true
  /-- Each field is accepted and holds what it should. -/
  checked : ∀ field ∈ schema.fields,
    field.check? record = .ok (Table.get? normal field.name)
  /-- The normal form has fields of the schema only. -/
  listed : ∀ key, (Table.get? normal key).isSome = true → (schema.field? key).isSome = true
  /-- The normal form is a table. -/
  sorted : Table.Sorted normal

theorem field?_isSome_iff {key : String} :
    (schema.field? key).isSome = true ↔ key ∈ schema.fields.map FieldDescriptor.name := by
  simp [field?, List.find?_isSome]

/-- The first name in a record that no field of the schema has. -/
theorem normalize_eq (schema : Schema) (record : Record) :
    schema.normalize record =
      match (Table.keys record).find? fun key => (schema.field? key).isNone with
      | some key => .error (.unknownField key)
      | none => FieldDescriptor.checkAll schema.fields record [] := by
  obtain ⟨name, fields, ancestors⟩ := schema
  have unknown (key : String) : (!fields.any fun field => field.name == key) =
      ((Schema.mk name fields ancestors).field? key).isNone := by
    rw [field?, ← Option.not_isSome, List.isSome_find?]
    rfl
  simp only [normalize, unknown]
  rfl

/-- A schema with distinct fields checks each of them by itself. -/
theorem normalize_eq_ok (distinct : schema.IsDistinct) :
    schema.normalize record = .ok normal ↔ schema.Normalizes record normal := by
  rw [normalize_eq]
  constructor
  · intro accepted
    split at accepted
    · cases accepted
    · rename_i known
      obtain ⟨held, kept⟩ := FieldDescriptor.get?_of_checkAll distinct accepted
      refine ⟨?_, fun field member => ?_, fun key present => ?_,
        FieldDescriptor.sorted_checkAll accepted Table.sorted_nil⟩
      · simpa [Option.isSome_iff_ne_none] using known
      · obtain ⟨value, found, same⟩ := held field member
        simpa [same] using found
      · rw [field?_isSome_iff]
        by_contra outside
        simp [kept key outside] at present
  · intro normalizes
    have known : (Table.keys record).find? (fun key => (schema.field? key).isNone) = none := by
      simpa [Option.isSome_iff_ne_none] using normalizes.known
    have each : ∀ field ∈ schema.fields, ∃ value, field.check? record = .ok value :=
      fun field member => ⟨_, normalizes.checked field member⟩
    obtain ⟨result, accepted⟩ : ∃ result, FieldDescriptor.checkAll schema.fields record [] =
        .ok result := FieldDescriptor.exists_checkAll each
    obtain ⟨held, kept⟩ := FieldDescriptor.get?_of_checkAll distinct accepted
    have same : result = normal := by
      refine Table.ext_of_sorted (FieldDescriptor.sorted_checkAll accepted Table.sorted_nil)
        normalizes.sorted fun key => ?_
      by_cases listed : key ∈ schema.fields.map FieldDescriptor.name
      · obtain ⟨field, member, rfl⟩ := List.mem_map.mp listed
        obtain ⟨value, found, there⟩ := held field member
        rw [normalizes.checked field member] at found
        rw [there, ← Except.ok.inj found, Table.get?_nil, Option.or_none]
      · have absent : Table.get? normal key = none := by
          by_contra present
          exact listed (field?_isSome_iff.mp
            (normalizes.listed key (Option.isSome_iff_ne_none.mpr present)))
        rw [kept key listed, Table.get?_nil, absent]
    rw [known, ← same]
    exact accepted

end Schema

/-! ## Values in normal form -/

/-- Nothing is found in place of a value. -/
theorem FieldType.check_ne_null {type : FieldType} {field : String} {value : Value}
    (present : value ≠ .null) : type.check field value ≠ .ok .null := by
  intro checked
  cases type with
  | any => exact present (Except.ok.inj checked)
  | list inner =>
      unfold FieldType.check at checked
      split at checked
      · rename_i items
        cases found : checkItems inner.check field 0 items <;> rw [found] at checked <;>
          cases checked
      · cases checked
  | nested schema =>
      unfold FieldType.check at checked
      split at checked
      · split at checked <;> cases checked
      · cases checked
  | _ =>
      unfold FieldType.check at checked
      split at checked <;> cases checked

theorem checkItems_of_checkItems {check : String → Value → Except Violation Value}
    (stable : ∀ {field value normal}, check field value = .ok normal →
      check field normal = .ok normal) {field : String} {position : Nat}
    {items results : List Value}
    (checked : checkItems check field position items = .ok results) :
    checkItems check field position results = .ok results := by
  induction items generalizing position results with
  | nil =>
      obtain rfl := Except.ok.inj checked
      rfl
  | cons item rest ih =>
      unfold checkItems at checked
      cases first : check (field ++ "[" ++ natText position ++ "]") item with
      | error violation => simp [first, bind, Except.bind] at checked
      | ok result =>
          cases others : checkItems check field (position + 1) rest with
          | error violation => simp [first, others, bind, Except.bind] at checked
          | ok later =>
              simp only [first, others, bind, Except.bind, pure, Except.pure,
                Except.ok.injEq] at checked
              subst checked
              simp [checkItems, stable first, ih others, bind, Except.bind, pure, Except.pure]

namespace FieldDescriptor

variable {name : String} {type : FieldType} {required : Bool} {other : Record}

/-- A field looks at what the record holds under its name only. -/
theorem check?_congr (same : Table.get? record name = Table.get? other name) :
    check? (.mk name type required) record = check? (.mk name type required) other := by
  unfold check?
  rw [same]

theorem check?_of_some {value : Value} (held : Table.get? record name = some value)
    (present : value ≠ .null) :
    check? (.mk name type required) record = (type.check name value).map some := by
  unfold check?
  rw [held]
  cases value with
  | null => exact absurd rfl present
  | _ => rfl

/-- Where there is no value, what is there is left as it is. -/
theorem check?_of_blank {found : Option Value}
    (blank : ∀ value, Table.get? record name = some value → value = .null)
    (checked : check? (.mk name type required) record = .ok found) :
    found = Table.get? record name := by
  unfold check? at checked
  split at checked
  · rename_i held
    split at checked <;> cases checked
    exact held.symm
  · rename_i held
    split at checked <;> cases checked <;> exact held.symm
  · rename_i value present held
    exact absurd (blank value held) present

end FieldDescriptor

mutual

/-- A value in normal form stays as it is. -/
theorem FieldType.check_of_check : ∀ {type : FieldType}, type.IsBuilt →
    ∀ {field : String} {value normal : Value}, type.check field value = .ok normal →
      type.check field normal = .ok normal
  | .any, _, _, _, _, _ => rfl
  | .bool, _, _, value, _, checked => by
      cases value <;> cases checked
      rfl
  | .int, _, _, value, _, checked => by
      cases value <;> cases checked
      rfl
  | .float, _, _, value, _, checked => by
      cases value <;> cases checked <;> rfl
  | .text, _, _, value, _, checked => by
      cases value <;> cases checked
      rfl
  | .instant, _, _, value, _, checked => by
      unfold FieldType.check at checked
      split at checked <;> cases checked
      rfl
  | .record, _, _, value, _, checked => by
      cases value <;> cases checked
      rfl
  | .list inner, built, field, value, normal, checked => by
      cases value with
      | list items =>
          simp only [FieldType.check] at checked
          cases found : checkItems inner.check field 0 items with
          | error violation => simp [found, Except.map] at checked
          | ok results =>
              simp only [found, Except.map, Except.ok.injEq] at checked
              subst checked
              have stable := checkItems_of_checkItems (@FieldType.check_of_check inner built) found
              simp only [FieldType.check, stable, Except.map]
      | _ => cases checked
  | .nested schema, built, field, value, normal, checked => by
      cases value with
      | record fields =>
          simp only [FieldType.check] at checked
          split at checked
          · rename_i result accepted
            obtain rfl := Except.ok.inj checked
            simp only [FieldType.check, Schema.normalize_of_normalize built accepted]
          · cases checked
      | _ => cases checked

/-- What a field is found to hold is found again. -/
theorem FieldDescriptor.check?_of_check? : ∀ {field : FieldDescriptor}, field.IsBuilt →
    ∀ {record normal : Record}, field.check? record = .ok (Table.get? normal field.name) →
      field.check? normal = .ok (Table.get? normal field.name)
  | .mk name type required, built, record, normal, checked => by
      change FieldDescriptor.check? _ record = .ok (Table.get? normal name) at checked
      change FieldDescriptor.check? _ normal = .ok (Table.get? normal name)
      by_cases blank : ∀ value, Table.get? record name = some value → value = .null
      · have same := FieldDescriptor.check?_of_blank blank checked
        rwa [← FieldDescriptor.check?_congr same.symm]
      · push Not at blank
        obtain ⟨value, held, present⟩ := blank
        rw [FieldDescriptor.check?_of_some held present] at checked
        cases found : type.check name value with
        | error violation => simp [found, Except.map] at checked
        | ok result =>
            have kept : Table.get? normal name = some result := by
              simpa [found, Except.map, eq_comm] using checked
            have solid : result ≠ .null := by
              rintro rfl
              exact FieldType.check_ne_null present found
            rw [FieldDescriptor.check?_of_some kept solid, FieldType.check_of_check built found,
              kept]
            rfl

theorem FieldDescriptor.check?_of_mem : ∀ {fields : List FieldDescriptor},
    FieldDescriptor.AreBuilt fields → ∀ field ∈ fields,
      ∀ {record normal : Record}, field.check? record = .ok (Table.get? normal field.name) →
        field.check? normal = .ok (Table.get? normal field.name)
  | first :: rest, built, field, member, _, _, checked => by
      rcases List.mem_cons.mp member with same | later
      · rw [same] at checked ⊢
        exact FieldDescriptor.check?_of_check? built.1 checked
      · exact FieldDescriptor.check?_of_mem built.2 field later checked

/-- A record in normal form stays as it is. -/
theorem Schema.normalize_of_normalize : ∀ {schema : Schema}, schema.IsBuilt →
    ∀ {record normal : Record}, schema.normalize record = .ok normal →
      schema.normalize normal = .ok normal
  | .mk name fields ancestors, built, record, normal, accepted => by
      have distinct := built.isDistinct
      rw [Schema.normalize_eq_ok distinct] at accepted ⊢
      refine ⟨fun key present => ?_, fun field member => ?_, accepted.listed, accepted.sorted⟩
      · obtain ⟨entry, member, rfl⟩ := List.mem_map.mp present
        refine accepted.listed entry.1 (Option.isSome_iff_exists.mpr ⟨entry.2, ?_⟩)
        exact Table.get?_of_mem accepted.sorted member
      · exact FieldDescriptor.check?_of_mem built.2 field member (accepted.checked field member)

end

theorem Schema.validate_eq_ok {schema : Schema} :
    schema.validate record = .ok normal ↔ schema.normalize record = .ok normal := by
  unfold validate
  cases schema.normalize record <;> simp

/-- What a schema makes of a record it accepts again, and leaves it as it is. -/
theorem Schema.validate_of_validate {schema : Schema} (built : schema.IsBuilt)
    (accepted : schema.validate record = .ok normal) : schema.validate normal = .ok normal :=
  validate_eq_ok.mpr (normalize_of_normalize built (validate_eq_ok.mp accepted))

end ShelfLibrary
