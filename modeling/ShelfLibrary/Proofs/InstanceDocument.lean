import ShelfLibrary.Proofs.QueryReaders
import ShelfLibrary.Proofs.Timestamp
import ShelfLibrary.Proofs.Validation

/-!
# Instances that are read back

The record of an instance is in normal form, in which the texts of dates have become points in time.
Written as a plain document it becomes a record of texts again, which the schema turns into the same
record if every point in time has a year of four digits, and refuses otherwise.
-/

namespace ShelfLibrary

namespace Value

/-! ## Writing values and reading them again -/

/-- What is read of the plain document that is written of a value. -/
def reread (value : Value) : Value := ofJson value.toJson

theorem reread_list (items : List Value) : (list items).reread = list (items.map reread) := by
  rw [reread, toJson, ofJson, toJsonItems_eq, ofJsonItems_eq, List.map_map]
  rfl

theorem reread_record (fields : Record) :
    (record fields).reread = record (Table.mapValues reread fields) := by
  rw [reread, toJson, ofJson, toJsonFields_eq, ofJsonMembers_eq, Table.mapValues, Table.mapValues,
    List.map_map]
  rfl

theorem reread_instant (moment : Instant) : (instant moment).reread = text moment.offsetText := rfl

/-! ## Plain years -/

mutual

/-- Whether every point in time in a value has a year of four digits. -/
def HasPlainYears : Value → Prop
  | .instant moment => moment.HasPlainYear
  | .list items => HavePlainYears items
  | .record fields => HavePlainYearsFields fields
  | _ => True

/-- Whether every point in time in some values has a year of four digits. -/
def HavePlainYears : List Value → Prop
  | [] => True
  | item :: rest => HasPlainYears item ∧ HavePlainYears rest

/-- Whether every point in time in some fields has a year of four digits. -/
def HavePlainYearsFields : List (String × Value) → Prop
  | [] => True
  | (_, value) :: rest => HasPlainYears value ∧ HavePlainYearsFields rest

end

mutual

/-- Decides whether the years in a value are plain. -/
def decidePlainYears : (value : Value) → Decidable value.HasPlainYears
  | .instant moment => inferInstanceAs (Decidable moment.HasPlainYear)
  | .list items => decidePlainYearsItems items
  | .record fields => decidePlainYearsFields fields
  | .null | .bool _ | .int _ | .float _ | .text _ => .isTrue trivial

/-- Decides whether the years in some values are plain. -/
def decidePlainYearsItems : (items : List Value) → Decidable (HavePlainYears items)
  | [] => .isTrue trivial
  | item :: rest =>
    have := decidePlainYears item
    have := decidePlainYearsItems rest
    inferInstanceAs (Decidable (_ ∧ _))

/-- Decides whether the years in some fields are plain. -/
def decidePlainYearsFields : (fields : List (String × Value)) →
    Decidable (HavePlainYearsFields fields)
  | [] => .isTrue trivial
  | (_, value) :: rest =>
    have := decidePlainYears value
    have := decidePlainYearsFields rest
    inferInstanceAs (Decidable (_ ∧ _))

end

theorem havePlainYearsFields_iff {fields : Record} :
    HavePlainYearsFields fields ↔ ∀ field ∈ fields, field.2.HasPlainYears := by
  induction fields with
  | nil => simp [HavePlainYearsFields]
  | cons field rest ih =>
      obtain ⟨name, value⟩ := field
      rw [HavePlainYearsFields, ih, List.forall_mem_cons]

mutual

/-- A value that is the same when it is read again holds no points in time. -/
theorem hasPlainYears_of_reread : ∀ {value : Value}, value.reread = value → value.HasPlainYears
  | .null, _ | .bool _, _ | .int _, _ | .float _, _ | .text _, _ => by simp [HasPlainYears]
  | .instant _, same => by cases same
  | .list items, same => by
      rw [reread_list] at same
      exact havePlainYears_of_reread (Value.list.inj same)
  | .record fields, same => by
      rw [reread_record] at same
      exact havePlainYearsFields_of_reread (Value.record.inj same)

theorem havePlainYears_of_reread : ∀ {items : List Value}, items.map reread = items →
    HavePlainYears items
  | [], _ => trivial
  | _ :: _, same => by
      obtain ⟨first, others⟩ := List.cons.inj same
      exact ⟨hasPlainYears_of_reread first, havePlainYears_of_reread others⟩

theorem havePlainYearsFields_of_reread : ∀ {fields : List (String × Value)},
    Table.mapValues reread fields = fields → HavePlainYearsFields fields
  | [], _ => trivial
  | (_, _) :: _, same => by
      obtain ⟨first, others⟩ := List.cons.inj same
      exact ⟨hasPlainYears_of_reread (Prod.mk.inj first).2, havePlainYearsFields_of_reread others⟩

end

/-! ## Values that a check accepts again -/

variable {check : String → Value → Except Violation Value} {value : Value} {limit : Nat}

/-- Whether the document of a value can have been read within a limit, and a check makes the value
of what is read of the document just if the years in the value are plain. -/
structure IsReread (check : String → Value → Except Violation Value) (limit : Nat)
    (value : Value) : Prop where
  /-- The document can have been read. -/
  read : value.toJson.IsRead limit
  /-- Nothing but nothing is read as nothing. -/
  eq_null : value.reread = null → value = null
  /-- The check accepts what is read again if the years are plain, and makes the value of it. -/
  check_iff : ∀ field again, check field value.reread = .ok again ↔
    value.HasPlainYears ∧ again = value

/-- The items of a plain list are plain. -/
theorem IsPlain.items {items : List Value} (plain : (list items).IsPlain limit) :
    ∃ inner, limit = inner + 1 ∧ ∀ item ∈ items, item.IsPlain inner := by
  obtain ⟨inner, rfl, children⟩ := plain.read.inner (Nat.succ_pos _)
  have same : items.map reread = items :=
    Value.list.inj ((reread_list items).symm.trans plain.ofJson_eq)
  refine ⟨inner, rfl, fun item member => ⟨?_, Json.map_eq_self_iff.mp same item member⟩⟩
  rw [toJson, toJsonItems_eq] at children
  exact children _ (List.mem_map_of_mem member)

/-- The fields of a plain record are plain. -/
theorem IsPlain.fields {fields : Record} (plain : (record fields).IsPlain limit) :
    ∃ inner, limit = inner + 1 ∧ ∀ field ∈ fields, field.2.IsPlain inner := by
  obtain ⟨inner, rfl, children⟩ := plain.read.inner (Nat.succ_pos _)
  have same : Table.mapValues reread fields = fields :=
    Value.record.inj ((reread_record fields).symm.trans plain.ofJson_eq)
  refine ⟨inner, rfl, fun field member => ⟨?_, ?_⟩⟩
  · rw [toJson, toJsonFields_eq] at children
    exact children _ ⟨field.1, List.mem_map_of_mem member⟩
  · exact congrArg Prod.snd (Json.map_eq_self_iff.mp same field member)

theorem IsPlain.isReread (plain : value.IsPlain limit)
    (accepted : ∀ field, check field value = .ok value) : value.IsReread check limit where
  read := plain.read
  eq_null same := plain.ofJson_eq.symm.trans same
  check_iff field again := by
    have years := hasPlainYears_of_reread plain.ofJson_eq
    have same : value.reread = value := plain.ofJson_eq
    rw [same, accepted, Except.ok.injEq, eq_comm]
    exact (and_iff_right years).symm

end Value

/-! ## Items of lists -/

section

variable {check : String → Value → Except Violation Value} {limit : Nat}

theorem checkItems_eq_ok_cons {field : String} {position : Nat} {item : Value}
    {rest results : List Value} : checkItems check field position (item :: rest) = .ok results ↔
      ∃ first others, check (field ++ "[" ++ natText position ++ "]") item = .ok first ∧
        checkItems check field (position + 1) rest = .ok others ∧ results = first :: others := by
  rw [checkItems]
  simp only [Result.bind_eq_ok]
  constructor
  · rintro ⟨first, checked, others, later, same⟩
    exact ⟨first, others, checked, later, (Except.ok.inj same).symm⟩
  · rintro ⟨first, others, checked, later, rfl⟩
    exact ⟨first, checked, others, later, rfl⟩

/-- Each item of a checked list has been made of an item of the list. -/
theorem exists_of_checkItems {field : String} {position : Nat} {items results : List Value}
    (checked : checkItems check field position items = .ok results) :
    ∀ result ∈ results, ∃ item ∈ items, ∃ name, check name item = .ok result := by
  induction items generalizing position results with
  | nil =>
      obtain rfl := Except.ok.inj checked
      simp
  | cons item rest ih =>
      obtain ⟨first, others, here, later, rfl⟩ := checkItems_eq_ok_cons.mp checked
      rintro result member
      rcases List.mem_cons.mp member with rfl | among
      · exact ⟨item, List.mem_cons_self, _, here⟩
      · obtain ⟨other, listed, name, made⟩ := ih later result among
        exact ⟨other, List.mem_cons_of_mem _ listed, name, made⟩

theorem checkItems_reread {items : List Value}
    (each : ∀ item ∈ items, item.IsReread check limit) {field : String} {position : Nat}
    {again : List Value} :
    checkItems check field position (items.map Value.reread) = .ok again ↔
      Value.HavePlainYears items ∧ again = items := by
  induction items generalizing position again with
  | nil => simp [checkItems, Value.HavePlainYears, eq_comm]
  | cons item rest ih =>
      obtain ⟨first, others⟩ := List.forall_mem_cons.mp each
      rw [List.map_cons, checkItems_eq_ok_cons]
      simp only [first.check_iff, ih others, Value.HavePlainYears]
      constructor
      · rintro ⟨_, _, ⟨years, rfl⟩, ⟨later, rfl⟩, rfl⟩
        exact ⟨⟨years, later⟩, rfl⟩
      · rintro ⟨⟨years, later⟩, rfl⟩
        exact ⟨item, rest, ⟨years, rfl⟩, ⟨later, rfl⟩, rfl⟩

end

/-- A list is checked again as its items are. -/
theorem Value.isReread_list {inner : FieldType} {limit : Nat} {items : List Value}
    (each : ∀ item ∈ items, item.IsReread inner.check limit) :
    (Value.list items).IsReread (FieldType.check (.list inner)) (limit + 1) where
  read := by
    rw [toJson, toJsonItems_eq, Json.isRead_list_iff]
    intro document member
    obtain ⟨item, listed, rfl⟩ := List.mem_map.mp member
    exact (each item listed).read
  eq_null := by
    rw [reread_list]
    rintro ⟨⟩
  check_iff field again := by
    rw [reread_list, FieldType.check, Result.map_eq_ok, HasPlainYears]
    simp only [checkItems_reread each]
    constructor
    · rintro ⟨_, ⟨years, rfl⟩, rfl⟩
      exact ⟨years, rfl⟩
    · rintro ⟨years, rfl⟩
      exact ⟨items, ⟨years, rfl⟩, rfl⟩

/-- An integer in the place of a float has become a float, which is checked as it is. -/
theorem Value.isReread_ofInt (n : Int64) {limit : Nat} :
    (Value.float (Double.ofInt n.toInt)).IsReread (FieldType.check .float) limit := by
  have least := n.le_toInt
  have most := n.toInt_lt
  have finite : (Double.ofInt n.toInt).isFinite = true := Double.isFinite_ofInt (by omega)
  exact (Value.isPlain_float finite limit).isReread fun _ => rfl

/-- A point in time is written as a text, which is read as the same point if its year is plain. -/
theorem Value.isReread_instant {moment : Instant} (standard : moment.IsStandard) {limit : Nat} :
    (Value.instant moment).IsReread (FieldType.check .instant) limit where
  read := ⟨trivial, rfl, Nat.zero_le _⟩
  eq_null := by rintro ⟨⟩
  check_iff field again := by
    rw [reread_instant, FieldType.check, asInstant?, Instant.ofText?_offsetText standard,
      HasPlainYears]
    by_cases years : moment.HasPlainYear
    · rw [if_pos years]
      simp [years, eq_comm]
    · rw [if_neg years]
      simp [years]

/-- A record with a schema of its own is checked again as the schema makes it again. -/
theorem Value.isReread_nested {schema : Schema} {limit : Nat} {fields : Record}
    (read : (Record.toJson fields).IsRead limit)
    (again : ∀ again, schema.normalize (Table.mapValues Value.reread fields) = .ok again ↔
      Value.HavePlainYearsFields fields ∧ again = fields) :
    (Value.record fields).IsReread (FieldType.check (.nested schema)) limit where
  read := read
  eq_null := by
    rw [reread_record]
    rintro ⟨⟩
  check_iff field found := by
    rw [reread_record, FieldType.check, HasPlainYears]
    constructor
    · intro checked
      split at checked
      · rename_i normal accepted
        obtain ⟨years, rfl⟩ := (again normal).mp accepted
        exact ⟨years, (Except.ok.inj checked).symm⟩
      · cases checked
    · rintro ⟨years, rfl⟩
      rw [(again fields).mpr ⟨years, rfl⟩]

/-! ## Records in normal form -/

/-- What a field is found to hold, in a record that is read again: the document of it can have been
read, and it is found again just if its years are plain. -/
structure FieldDescriptor.IsReread (field : FieldDescriptor) (limit : Nat) (found : Option Value) :
    Prop where
  /-- The document can have been read. -/
  read : ∀ value ∈ found, value.toJson.IsRead limit
  /-- It is found again if its years are plain. -/
  check_iff : ∀ record again, Table.get? record field.name = found.map Value.reread →
    (field.check? record = .ok again ↔ (∀ value ∈ found, value.HasPlainYears) ∧ again = found)

section

variable {limit : Nat} {record normal : Record}

theorem FieldDescriptor.isReread_of_check {name : String} {type : FieldType} {required : Bool}
    {found : Option Value} (plain : ∀ entry ∈ record, entry.2.IsPlain limit)
    (checked : check? (.mk name type required) record = .ok found)
    (inner : ∀ value result, value.IsPlain limit → type.check name value = .ok result →
      result.IsReread type.check limit) :
    (FieldDescriptor.mk name type required).IsReread limit found := by
  by_cases blank : ∀ value, Table.get? record name = some value → value = .null
  · have same := check?_of_blank blank checked
    have none : ∀ value ∈ found, value = .null := fun value held => blank value (same ▸ held)
    have kept : found.map Value.reread = found := by
      cases found with
      | none => rfl
      | some value => rw [none value rfl]; rfl
    refine ⟨fun value held => none value held ▸ ⟨trivial, rfl, Nat.zero_le _⟩,
      fun other again held => ?_⟩
    change Table.get? other name = _ at held
    have years : ∀ value ∈ found, value.HasPlainYears := fun value held => by
      rw [none value held]
      trivial
    rw [check?_congr (held.trans (kept.trans same)), checked, Except.ok.injEq, eq_comm]
    exact (and_iff_right years).symm
  · push Not at blank
    obtain ⟨value, held, present⟩ := blank
    rw [check?_of_some held present] at checked
    obtain ⟨result, made, rfl⟩ := Result.map_eq_ok.mp checked
    have again := inner value result (plain _ (Table.mem_of_get? held)) made
    have solid : result.reread ≠ .null := fun absent =>
      FieldType.check_ne_null present (again.eq_null absent ▸ made)
    refine ⟨fun other same => Option.some.inj same ▸ again.read, fun other found held => ?_⟩
    change Table.get? other name = _ at held
    rw [check?_of_some held solid, Result.map_eq_ok]
    simp only [again.check_iff]
    constructor
    · rintro ⟨_, ⟨years, rfl⟩, rfl⟩
      exact ⟨fun _ same => Option.some.inj same ▸ years, rfl⟩
    · rintro ⟨years, rfl⟩
      exact ⟨result, ⟨years result rfl, rfl⟩, rfl⟩

end

/-- A record in normal form is made again if each field is found again. -/
theorem Schema.reread_of_isReread {schema : Schema} {limit : Nat} {record normal : Record}
    (distinct : schema.IsDistinct) (normalizes : schema.Normalizes record normal)
    (each : ∀ field ∈ schema.fields, field.IsReread limit (Table.get? normal field.name)) :
    (Record.toJson normal).IsRead (limit + 1) ∧
      ∀ again, schema.normalize (Table.mapValues Value.reread normal) = .ok again ↔
        Value.HavePlainYearsFields normal ∧ again = normal := by
  have declared : ∀ entry ∈ normal, ∃ field ∈ schema.fields, field.name = entry.1 ∧
      Table.get? normal entry.1 = some entry.2 := by
    intro entry member
    have held := Table.get?_of_mem normalizes.sorted member
    have listed := normalizes.listed entry.1 (by rw [held]; rfl)
    obtain ⟨field, among, named⟩ := List.mem_map.mp (Schema.field?_isSome_iff.mp listed)
    exact ⟨field, among, named, held⟩
  constructor
  · rw [Record.toJson, Value.toJsonFields_eq, Json.isRead_object_iff]
    refine ⟨List.pairwise_map.mpr normalizes.sorted, fun member inside => ?_⟩
    obtain ⟨entry, listed, rfl⟩ := List.mem_map.mp inside
    obtain ⟨field, among, named, held⟩ := declared entry listed
    exact (each field among).read entry.2 (named ▸ held)
  · intro again
    rw [Schema.normalize_eq_ok distinct, Value.havePlainYearsFields_iff]
    have found (field : FieldDescriptor) (among : field ∈ schema.fields) (again : Record) :=
      (each field among).check_iff (Table.mapValues Value.reread normal)
        (Table.get? again field.name) (Table.get?_mapValues _ _ _)
    constructor
    · intro remade
      refine ⟨fun entry member => ?_, ?_⟩
      · obtain ⟨field, among, named, held⟩ := declared entry member
        exact ((found field among again).mp (remade.checked field among)).1 entry.2 (named ▸ held)
      · refine Table.ext_of_sorted remade.sorted normalizes.sorted fun key => ?_
        by_cases listed : (schema.field? key).isSome = true
        · obtain ⟨field, among, rfl⟩ := List.mem_map.mp (Schema.field?_isSome_iff.mp listed)
          exact ((found field among again).mp (remade.checked field among)).2
        · have absent (table : Record) (kept : (Table.get? table key).isSome = true →
              (schema.field? key).isSome = true) : Table.get? table key = none := by
            simpa using mt kept listed
          rw [absent again (remade.listed key), absent normal (normalizes.listed key)]
    · rintro ⟨years, rfl⟩
      refine ⟨fun key inside => ?_, fun field among => ?_, normalizes.listed, normalizes.sorted⟩
      · rw [Table.keys_mapValues] at inside
        exact normalizes.listed key (Table.mem_keys_iff.mp inside)
      · exact (found field among again).mpr
          ⟨fun value held => years _ (Table.mem_of_get? held), rfl⟩

mutual

/-- What a type makes of a plain value. -/
theorem FieldType.isReread_of_check : ∀ {type : FieldType}, type.IsBuilt →
    ∀ {limit : Nat} {field : String} {value normal : Value}, value.IsPlain limit →
      type.check field value = .ok normal → normal.IsReread type.check limit
  | .any, _, _, _, value, _, plain, checked => by
      obtain rfl := Except.ok.inj checked
      exact plain.isReread fun _ => rfl
  | .bool, _, _, _, value, _, plain, checked
  | .int, _, _, _, value, _, plain, checked
  | .text, _, _, _, value, _, plain, checked
  | .record, _, _, _, value, _, plain, checked => by
      cases value <;> cases checked
      exact plain.isReread fun _ => rfl
  | .float, _, _, _, value, _, plain, checked => by
      cases value with
      | float d =>
          cases checked
          exact plain.isReread fun _ => rfl
      | int n =>
          cases checked
          exact Value.isReread_ofInt n
      | _ => cases checked
  | .instant, _, _, _, value, _, plain, checked => by
      unfold FieldType.check at checked
      split at checked
      · rename_i moment read
        obtain rfl := Except.ok.inj checked
        cases value with
        | text s => exact Value.isReread_instant (Instant.isStandard_of_ofText? read)
        | instant other => cases plain.ofJson_eq
        | _ => cases read
      · cases checked
  | .list inner, built, limit, field, value, normal, plain, checked => by
      cases value with
      | list items =>
          obtain ⟨results, made, rfl⟩ := Result.map_eq_ok.mp checked
          obtain ⟨inside, rfl, plainItems⟩ := plain.items
          have each : ∀ result ∈ results, result.IsReread inner.check inside := by
            intro result member
            obtain ⟨item, listed, name, made⟩ := exists_of_checkItems made result member
            exact FieldType.isReread_of_check (show inner.IsBuilt from built)
              (plainItems item listed) made
          exact Value.isReread_list each
      | _ => cases checked
  | .nested schema, built, limit, field, value, normal, plain, checked => by
      cases value with
      | record fields =>
          simp only [FieldType.check] at checked
          split at checked
          · rename_i result accepted
            obtain rfl := Except.ok.inj checked
            obtain ⟨inside, rfl, plainFields⟩ := plain.fields
            obtain ⟨read, again⟩ := Schema.reread_of_normalize built plainFields accepted
            exact Value.isReread_nested read again
          · cases checked
      | _ => cases checked

/-- What a field is found to hold in a record of plain values. -/
theorem FieldDescriptor.isReread_of_check? : ∀ {field : FieldDescriptor}, field.IsBuilt →
    ∀ {limit : Nat} {record : Record} {found : Option Value},
      (∀ entry ∈ record, entry.2.IsPlain limit) → field.check? record = .ok found →
        field.IsReread limit found
  | .mk _ _ _, built, _, _, _, plain, checked =>
      FieldDescriptor.isReread_of_check plain checked fun _ _ plain made =>
        FieldType.isReread_of_check built plain made

theorem FieldDescriptor.isReread_of_mem : ∀ {fields : List FieldDescriptor},
    FieldDescriptor.AreBuilt fields → ∀ field ∈ fields, ∀ {limit : Nat} {record : Record}
      {found : Option Value}, (∀ entry ∈ record, entry.2.IsPlain limit) →
        field.check? record = .ok found → field.IsReread limit found
  | first :: rest, built, field, member, _, _, _, plain, checked => by
      rcases List.mem_cons.mp member with same | later
      · rw [same] at checked ⊢
        exact FieldDescriptor.isReread_of_check? built.1 plain checked
      · exact FieldDescriptor.isReread_of_mem built.2 field later plain checked

/-- What a schema makes of a record of plain values. -/
theorem Schema.reread_of_normalize : ∀ {schema : Schema}, schema.IsBuilt →
    ∀ {limit : Nat} {record normal : Record}, (∀ entry ∈ record, entry.2.IsPlain limit) →
      schema.normalize record = .ok normal →
        (Record.toJson normal).IsRead (limit + 1) ∧
          ∀ again, schema.normalize (Table.mapValues Value.reread normal) = .ok again ↔
            Value.HavePlainYearsFields normal ∧ again = normal
  | .mk name fields ancestors, built, limit, record, normal, plain, accepted => by
      have distinct := built.isDistinct
      rw [Schema.normalize_eq_ok distinct] at accepted
      refine Schema.reread_of_isReread distinct accepted fun field member => ?_
      exact FieldDescriptor.isReread_of_mem built.2 field member plain
        (accepted.checked field member)

end

/-! ## Documents that give a value on a condition -/

/-- Whether a document can be written, nests no deeper than a limit and, once its members are in key
order, is decoded on a condition only, and then as a value. -/
structure Json.GivesIf {ε α : Type} (json : Json) (decode : Json → Except ε α) (value : α)
    (condition : Prop) (limit : Nat) : Prop where
  /-- Its numbers are read back, and its keys are different. -/
  proper : json.IsProper
  /-- It nests no deeper. -/
  depth_le : json.depth ≤ limit
  /-- It is decoded on the condition, and as the value. -/
  reads_iff : ∀ again, decode json.inKeyOrder = .ok again ↔ condition ∧ again = value

namespace Json

variable {ε α : Type} {json : Json} {decode : Json → Except ε α} {value : α} {condition : Prop}
  {limit : Nat}

theorem GivesIf.gives (given : json.GivesIf decode value condition limit) (holds : condition) :
    json.Gives decode value limit :=
  ⟨given.proper, given.depth_le, (given.reads_iff value).mpr ⟨holds, rfl⟩⟩

theorem GivesIf.of_reads (given : json.GivesIf decode value condition limit) {again : α}
    (reads : decode json.inKeyOrder = .ok again) : condition :=
  ((given.reads_iff again).mp reads).1

end Json

/-! ## Instances -/

namespace SchemaInstance

/-- Whether every point in time in an instance has a year of four digits. -/
def HasPlainYears (inst : SchemaInstance) : Prop :=
  Value.HavePlainYearsFields inst.data

instance (inst : SchemaInstance) : Decidable inst.HasPlainYears :=
  Value.decidePlainYearsFields inst.data

theorem rejectsNull_decode : SchemaInstance.decode.RejectsNull := by
  rintro value ⟨⟩

theorem make_eq_ok {schema : Schema} {data : Record} {inst : SchemaInstance} :
    make schema data = .ok inst ↔ inst.schema = schema ∧ schema.normalize data = .ok inst.data := by
  obtain ⟨other, normal⟩ := inst
  rw [← Schema.validate_eq_ok, make, Result.bind_eq_ok]
  constructor
  · rintro ⟨found, accepted, same⟩
    obtain ⟨rfl, rfl⟩ := SchemaInstance.mk.inj (Except.ok.inj same)
    exact ⟨rfl, accepted⟩
  · rintro ⟨rfl, accepted⟩
    exact ⟨normal, accepted, rfl⟩

end SchemaInstance

end ShelfLibrary
