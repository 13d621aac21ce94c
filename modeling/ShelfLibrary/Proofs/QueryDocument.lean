import ShelfLibrary.Proofs.Document
import ShelfLibrary.Proofs.FilterDocument
import ShelfLibrary.Query.Document

/-!
# Queries that are read back

A query that is read from a text is read again from the text that is written of it, unless it builds
a shelf with contents.  What is written is never nested deeper than what was read.
-/

namespace ShelfLibrary

/-! ## Schemas -/

namespace Schema

/-- A type without content is decoded again from its document. -/
theorem givesDeep_unit {title kind : String} {child : Option Json} {value type : FieldType}
    (chosen : Decoder.unit title value child = .ok type) (built : value.IsBuilt)
    (written : value.toJson = .object [("kind", .text kind)]) (limit : Nat) :
    type.toJson.GivesDeep decodeType type (limit + 1) := by
  obtain rfl := Decoder.unit_eq_ok chosen
  intro fuel enough
  have ordered : value.toJson.inKeyOrder = value.toJson := by
    rw [written]
    rfl
  refine ⟨value.isProper_toJson, ?_, ?_⟩
  · rw [written]
    simp [Json.depth, Json.depthOfMembers]
  · rw [ordered]
    exact decodeType_toJson value fuel built enough

/-- A type with content is decoded again from its document if the content is. -/
theorem givesDeep_pair {α : Type} {kind : String} {inner : Json} {decode : Nat → Decoder α}
    {content : α} {type : FieldType} {limit : Nat} (given : inner.GivesDeep decode content limit)
    (reads : ∀ fuel found, decode fuel found = .ok content →
      decodeType (fuel + 1) (.object [("kind", .text kind), ("of", found)]) = .ok type) :
    (Json.object [("kind", .text kind), ("of", inner)]).GivesDeep decodeType type (limit + 1) := by
  intro fuel enough
  have order : "kind" < "of" := by decide
  obtain ⟨proper, shallow⟩ := Json.writable_pair order kind given.self.proper given.self.depth_le
  obtain ⟨fuel, rfl⟩ := Nat.exists_eq_succ_of_ne_zero (Nat.ne_zero_of_lt enough)
  refine ⟨proper, shallow, ?_⟩
  rw [Json.inKeyOrder_pair order]
  refine reads fuel _ (given fuel ?_).reads
  simp only [Json.depth, Json.depthOfMembers] at enough
  omega

theorem givesDeep_list {inner : FieldType} {limit : Nat}
    (given : inner.toJson.GivesDeep decodeType inner limit) :
    (FieldType.list inner).toJson.GivesDeep decodeType (.list inner) (limit + 1) := by
  rw [FieldType.toJson]
  refine givesDeep_pair given fun fuel found read => ?_
  rw [decodeType, Decoder.adjacent_pair (by decide) (by decide)]
  exact Result.map_eq_ok.mpr ⟨inner, read, rfl⟩

theorem givesDeep_nested {schema : Schema} {limit : Nat}
    (given : schema.toJson.GivesDeep decodeSchema schema limit) :
    (FieldType.nested schema).toJson.GivesDeep decodeType (.nested schema) (limit + 1) := by
  rw [FieldType.toJson]
  refine givesDeep_pair given fun fuel found read => ?_
  rw [decodeType, Decoder.adjacent_pair (by decide) (by decide)]
  exact Result.map_eq_ok.mpr ⟨schema, read, rfl⟩

theorem givesDeep_field {name : String} {type : FieldType} {limit : Nat}
    (given : type.toJson.GivesDeep decodeType type limit) (required : Bool) :
    (FieldDescriptor.mk name type required).toJson.GivesDeep decodeField (.mk name type required)
      (limit + 1) := by
  intro fuel enough
  obtain ⟨fuel, rfl⟩ := Nat.exists_eq_succ_of_ne_zero (Nat.ne_zero_of_lt enough)
  have inside : type.toJson.depth < fuel := by
    simp only [FieldDescriptor.toJson, Json.depth, Json.depthOfMembers] at enough
    omega
  have members : Shape.AreGiven limit
      (.field "name" Decoder.text none <| .field "field_type" (decodeType fuel) none <|
        .field "required" Decoder.bool (some true) .done)
      [("name", some (.text name)), ("field_type", some type.toJson),
        ("required", some (.bool required))] (name, type, required, ()) :=
    ⟨rfl, Decoder.gives_text _ _, rfl, given fuel inside, rfl, Decoder.gives_bool _ _, trivial⟩
  obtain ⟨proper, shallow, reads⟩ := members.gives (by simp [Shape.names]) "FieldDescriptor" false
  refine ⟨proper, shallow, ?_⟩
  exact Result.bind_eq_ok.mpr ⟨_, reads, rfl⟩

theorem toJsonList_eq (fields : List FieldDescriptor) :
    FieldDescriptor.toJsonList fields = fields.map FieldDescriptor.toJson := by
  induction fields with
  | nil => rfl
  | cons field rest ih => exact congrArg (List.cons field.toJson) ih

theorem toJson_eq (name : String) (fields : List FieldDescriptor) (ancestors : List String) :
    (Schema.mk name fields ancestors).toJson = Json.ofMembers [("name", some (.text name)),
      ("fields", some (.list (fields.map FieldDescriptor.toJson))),
      ("ancestors",
        if ancestors.isEmpty then none else some (.list (ancestors.map Json.text)))] := by
  rw [Schema.toJson, toJsonList_eq]
  split <;> rfl

theorem givesDeep_schema {name : String} {fields : List FieldDescriptor} {ancestors : List String}
    {limit : Nat}
    (built : SchemaDraft.build ⟨name, fields, ancestors⟩ = .ok (.mk name fields ancestors))
    (given : ∀ field ∈ fields, field.toJson.GivesDeep decodeField field limit) :
    (Schema.mk name fields ancestors).toJson.GivesDeep decodeSchema (.mk name fields ancestors)
      (limit + 2) := by
  intro fuel enough
  obtain ⟨fuel, rfl⟩ := Nat.exists_eq_succ_of_ne_zero (Nat.ne_zero_of_lt enough)
  have listed : (Json.list (fields.map FieldDescriptor.toJson)).Gives
      (Decoder.list (decodeField fuel)) fields (limit + 1) := by
    refine Decoder.gives_list fun field member => given field member fuel ?_
    have within : field.toJson.depth < (Json.list (fields.map FieldDescriptor.toJson)).depth :=
      Json.HasChild.depth_lt (List.mem_map_of_mem member)
    have around : (Json.list (fields.map FieldDescriptor.toJson)).depth <
        (Schema.mk name fields ancestors).toJson.depth := by
      rw [toJson_eq]
      exact Json.HasChild.depth_lt ⟨"fields", by simp⟩
    omega
  have extended : Shape.IsGiven (Decoder.list Decoder.text) (some []) (limit + 1)
      (if ancestors.isEmpty then none else some (.list (ancestors.map Json.text))) ancestors := by
    split
    · rename_i none
      rw [List.isEmpty_iff.mp none]
      rfl
    · exact Decoder.gives_list fun ancestor _ => Decoder.gives_text ancestor limit
  have members : Shape.AreGiven (limit + 1)
      (.field "name" Decoder.text none <| .field "fields" (Decoder.list (decodeField fuel)) none <|
        .field "ancestors" (Decoder.list Decoder.text) (some []) .done)
      [("name", some (.text name)), ("fields", some (.list (fields.map FieldDescriptor.toJson))),
        ("ancestors", if ancestors.isEmpty then none
          else some (.list (ancestors.map Json.text)))] (name, fields, ancestors, ()) :=
    ⟨rfl, Decoder.gives_text _ _, rfl, listed, rfl, extended, trivial⟩
  rw [toJson_eq]
  exact Decoder.gives_refining (members.gives (by simp [Shape.names]) "SchemaFields" true) built

theorem parts_of_build {draft : SchemaDraft} {schema : Schema}
    (built : draft.build = .ok schema) : schema = .mk draft.name draft.fields draft.ancestors := by
  unfold SchemaDraft.build at built
  split at built
  · cases built
  · obtain ⟨_, -, same⟩ := Result.bind_eq_ok.mp built
    exact (Except.ok.inj same).symm

mutual

/-- A type that is decoded is decoded again from its document. -/
theorem givesDeep_of_decodeType : ∀ {fuel limit : Nat} {found : Json} {type : FieldType},
    found.IsRead limit → decodeType fuel found = .ok type →
      type.toJson.GivesDeep decodeType type limit
  | 0, _, _, _, _, decoded => by cases decoded
  | fuel + 1, limit, found, type, read, decoded => by
      rw [decodeType] at decoded
      obtain ⟨inner, kind, child, rfl, chosen, children⟩ := Decoder.adjacent_eq_ok read decoded
      split at chosen
      case h_8 =>
        obtain ⟨json, rfl, mapped⟩ := Decoder.required_eq_ok chosen
        obtain ⟨content, typed, rfl⟩ := Result.map_eq_ok.mp mapped
        exact givesDeep_list (givesDeep_of_decodeType (children json rfl) typed)
      case h_9 =>
        obtain ⟨json, rfl, mapped⟩ := Decoder.required_eq_ok chosen
        obtain ⟨content, shaped, rfl⟩ := Result.map_eq_ok.mp mapped
        exact givesDeep_nested (givesDeep_of_decodeSchema (children json rfl) shaped)
      -- The types of the other names have no content.
      all_goals exact givesDeep_unit chosen trivial (by rw [FieldType.toJson]) inner

/-- A field that is decoded is decoded again from its document. -/
theorem givesDeep_of_decodeField : ∀ {fuel limit : Nat} {found : Json} {field : FieldDescriptor},
    found.IsRead limit → decodeField fuel found = .ok field →
      field.toJson.GivesDeep decodeField field limit
  | 0, _, _, _, _, decoded => by cases decoded
  | fuel + 1, limit, found, field, read, decoded => by
      rw [decodeField] at decoded
      obtain ⟨⟨name, type, required, ⟨⟩⟩, shaped, same⟩ := Result.bind_eq_ok.mp decoded
      obtain rfl := Except.ok.inj same
      obtain ⟨inner, rfl, -, ofType, -, -⟩ := Shape.decoder_eq_ok read shaped
      obtain ⟨child, childRead, typed⟩ := ofType.resolve_right (by rintro ⟨⟩)
      exact givesDeep_field (givesDeep_of_decodeType childRead typed) required

/-- A schema that is decoded is decoded again from its document. -/
theorem givesDeep_of_decodeSchema : ∀ {fuel limit : Nat} {found : Json} {schema : Schema},
    found.IsRead limit → decodeSchema fuel found = .ok schema →
      schema.toJson.GivesDeep decodeSchema schema limit
  | 0, _, _, _, _, decoded => by cases decoded
  | fuel + 1, limit, found, schema, read, decoded => by
      rw [decodeSchema] at decoded
      obtain ⟨⟨name, fields, ancestors, ⟨⟩⟩, shaped, built⟩ := Decoder.refining_eq_ok decoded
      obtain rfl := parts_of_build built
      obtain ⟨inner, rfl, -, ofFields, -, -⟩ := Shape.decoder_eq_ok read shaped
      obtain ⟨child, childRead, listed⟩ := ofFields.resolve_right (by rintro ⟨⟩)
      obtain ⟨less, rfl, each⟩ := Decoder.list_eq_ok childRead listed
      refine givesDeep_schema built fun field member => ?_
      obtain ⟨item, itemRead, decoded⟩ := each field member
      exact givesDeep_of_decodeField itemRead decoded

end

theorem returns_decode : Schema.decode.Returns Schema.toJson :=
  fun _ _ _ read decoded => (givesDeep_of_decodeSchema read decoded).gives

theorem rejectsNull_decode : Schema.decode.RejectsNull := by
  rintro value ⟨⟩

end Schema

/-! ## Items of checkouts and criteria of sorting -/

theorem CheckOutItem.returns_decode : CheckOutItem.decode.Returns Operation.itemToJson := by
  intro found item limit read decoded
  obtain ⟨⟨path, selection, ⟨⟩⟩, shaped, made⟩ := Decoder.refining_eq_ok decoded
  obtain ⟨inner, rfl, fromPath, fromSelection, -⟩ := Shape.decoder_eq_ok read shaped
  obtain ⟨_, -, same⟩ := Result.bind_eq_ok.mp made
  obtain rfl := Except.ok.inj same
  have members : Shape.AreGiven inner
      (.field "path" Decoder.text none <|
        .field "checkout" (Decoder.list Decoder.text) none .done)
      [("path", some (.text path)), ("checkout", some (.list (selection.map Json.text)))]
      (path, selection, ()) :=
    ⟨rfl, Shape.isGiven_required Decoder.returns_text fromPath,
      rfl, Shape.isGiven_required Decoder.returns_text.list fromSelection, trivial⟩
  exact Decoder.gives_refining (members.gives (by decide) "CheckOutItemFields" true) made

/-- The name of a direction of sorting. -/
def SortOrder.token : SortOrder → String
  | .ascending => "asc"
  | .descending => "desc"

theorem SortItem.decodeOrder_token (order : SortOrder) :
    SortItem.decodeOrder (.text order.token) = .ok order := by
  cases order <;> rfl

theorem Operation.sortToJson_eq (path : String) (order : SortOrder) :
    sortToJson ⟨path, order⟩ =
      Json.ofMembers [("path", some (.text path)), ("order", some (.text order.token))] := by
  cases order <;> rfl

theorem SortItem.returns_decode : SortItem.decode.Returns Operation.sortToJson := by
  intro found item limit read decoded
  obtain ⟨⟨path, order, ⟨⟩⟩, shaped, made⟩ := Decoder.refining_eq_ok decoded
  obtain ⟨inner, rfl, fromPath, -, -⟩ := Shape.decoder_eq_ok read shaped
  obtain ⟨_, -, same⟩ := Result.bind_eq_ok.mp made
  obtain rfl := Except.ok.inj same
  have members : Shape.AreGiven inner
      (.field "path" Decoder.text none <|
        .field "order" decodeOrder (some .ascending) .done)
      [("path", some (.text path)), ("order", some (.text order.token))] (path, order, ()) :=
    ⟨rfl, Shape.isGiven_required Decoder.returns_text fromPath,
      rfl, ⟨trivial, Nat.zero_le _, decodeOrder_token order⟩, trivial⟩
  rw [Operation.sortToJson_eq]
  exact Decoder.gives_refining (members.gives (by decide) "SortItemFields" true) made

/-! ## Operations -/

/-- Whether an operation, if it builds a shelf, builds one without contents. -/
def Operation.BuildsEmpty : Operation → Prop
  | .buildShelf step => step.data = none
  | _ => True

instance (operation : Operation) : Decidable operation.BuildsEmpty :=
  match operation with
  | .buildShelf step => inferInstanceAs (Decidable (step.data = none))
  | .buildSection _ | .write _ | .checkOut _ | .revise _ | .remove _ | .reset _ | .setSchema _ =>
    isTrue trivial

namespace Operation.PayloadReader

/-- Whether each operation of a kind that a reader makes of members is made again of the payload
that is written of the operation. -/
def Returns (reader : PayloadReader) (kind : String) : Prop :=
  ∀ ⦃members limit⦄, reader.shape.IsFilledFrom (fun child => child.IsRead limit) members →
    (reader.make members).BuildsEmpty →
      (reader.make members).kind = kind ∧
        ∃ again, (reader.make members).payload.Gives
          (reader.shape.decoder reader.title true) again (limit + 1) ∧
            reader.make again = reader.make members

/-- Criteria of sorting are written only if there are any. -/
theorem isGiven_sort {sort : Option (List SortItem)} {limit : Nat}
    (filled : (∃ found : Json, found.IsRead limit ∧
      Decoder.optional (Decoder.list SortItem.decode) found = .ok sort) ∨ some none = some sort) :
    Shape.IsGiven (Decoder.optional (Decoder.list SortItem.decode)) (some none) limit
      (if (sort.getD []).isEmpty then none else some (.list ((sort.getD []).map sortToJson)))
      (if (sort.getD []).isEmpty then none else sort) := by
  have given :=
    Shape.isGiven_optional SortItem.returns_decode.list (Decoder.rejectsNull_list _) filled
  cases sort with
  | none => rfl
  | some criteria =>
      split
      · rfl
      · exact given

/-- Criteria of sorting that are left out are none. -/
theorem getD_sort (sort : Option (List SortItem)) :
    (if (sort.getD []).isEmpty then none else sort).getD [] = sort.getD [] := by
  split
  · rename_i none
    rw [List.isEmpty_iff.mp none, Option.getD_none]
  · rfl

/-- A count is written as a whole number, if there is one. -/
theorem isGiven_count {count : Option Nat} {limit : Nat}
    (filled : (∃ found : Json, found.IsRead limit ∧
      Decoder.optional (Decoder.nat64 "usize") found = .ok count) ∨ some none = some count) :
    Shape.IsGiven (Decoder.optional (Decoder.nat64 "usize")) (some none) limit
      ((count >>= fun n => pure (n : Int)).map Json.int) count := by
  have given := Shape.isGiven_optional (Decoder.returns_nat64 "usize")
    (Decoder.rejectsNull_nat64 _) filled
  cases count <;> exact given

/-- A path and a filter with two flags, which are always written. -/
theorem areGiven_flags {path : String} {filters : Option Filters} {limit : Nat}
    (fromPath : (∃ found : Json, found.IsRead limit ∧ Decoder.text found = .ok path) ∨
      none = some path)
    (fromFilters : (∃ found : Json, found.IsRead limit ∧
      Decoder.optional Filters.decode found = .ok filters) ∨ some none = some filters)
    (first : String) (isFirst : Bool) (second : String) (isSecond : Bool) :
    Shape.AreGiven limit
      (.field "path" Decoder.text none <|
        .field "filters" (Decoder.optional Filters.decode) (some none) <|
        .field first Decoder.bool (some false) <| .field second Decoder.bool (some false) .done)
      [("path", some (.text path)), ("filters", filters.map Filters.toJson),
        (first, some (.bool isFirst)), (second, some (.bool isSecond))]
      (path, filters, isFirst, isSecond, ()) :=
  ⟨rfl, Shape.isGiven_required Decoder.returns_text fromPath,
    rfl, Shape.isGiven_optional Filters.returns_decode Filters.rejectsNull_decode fromFilters,
    rfl, Decoder.gives_bool _ _, rfl, Decoder.gives_bool _ _, trivial⟩

section

variable {reader : PayloadReader}

theorem returns_buildSection (found : payloadReader? "build_section" = some reader) :
    reader.Returns "build_section" := by
  obtain rfl := Option.some.inj found
  rintro ⟨path, name, schema, metadata, ⟨⟩⟩ limit
    ⟨fromPath, fromName, fromSchema, fromMetadata, -⟩ -
  refine ⟨rfl, (path, name, schema, metadata, ()), Shape.AreGiven.gives ?_ (by decide) _ _, rfl⟩
  exact ⟨rfl, Shape.isGiven_optional Decoder.returns_text Decoder.rejectsNull_text fromPath,
    rfl, Shape.isGiven_required Decoder.returns_text fromName,
    rfl, Shape.isGiven_optional Schema.returns_decode Schema.rejectsNull_decode fromSchema,
    rfl, Shape.isGiven_optional Decoder.returns_plainRecord Decoder.rejectsNull_plainRecord
      fromMetadata, trivial⟩

theorem returns_buildShelf (found : payloadReader? "build_shelf" = some reader) :
    reader.Returns "build_shelf" := by
  obtain rfl := Option.some.inj found
  rintro ⟨path, name, data, metadata, ⟨⟩⟩ limit ⟨fromPath, fromName, -, fromMetadata, -⟩ empty
  obtain rfl : data = none := empty
  refine ⟨rfl, (path, name, none, metadata, ()), Shape.AreGiven.gives ?_ (by decide) _ _, rfl⟩
  exact ⟨rfl, Shape.isGiven_optional Decoder.returns_text Decoder.rejectsNull_text fromPath,
    rfl, Shape.isGiven_required Decoder.returns_text fromName,
    rfl, rfl,
    rfl, Shape.isGiven_optional Decoder.returns_plainRecord Decoder.rejectsNull_plainRecord
      fromMetadata, trivial⟩

theorem returns_write (found : payloadReader? "write" = some reader) :
    reader.Returns "write" := by
  obtain rfl := Option.some.inj found
  rintro ⟨path, data, ⟨⟩⟩ limit ⟨fromPath, fromData, -⟩ -
  refine ⟨rfl, (path, data, ()), Shape.AreGiven.gives ?_ (by decide) _ _, rfl⟩
  exact ⟨rfl, Shape.isGiven_required Decoder.returns_text fromPath,
    rfl, Shape.isGiven_required Decoder.returns_plainRecord fromData, trivial⟩

theorem returns_checkOut (found : payloadReader? "checkout" = some reader) :
    reader.Returns "checkout" := by
  obtain rfl := Option.some.inj found
  rintro ⟨items, filters, sort, rows, skipped, ⟨⟩⟩ limit
    ⟨fromItems, fromFilters, fromSort, fromRows, fromSkipped, -⟩ -
  -- An empty list of criteria is left out, and read as none.
  refine ⟨rfl, (items, filters, if (sort.getD []).isEmpty then none else sort, rows, skipped, ()),
    Shape.AreGiven.gives ?_ (by decide) _ _, ?_⟩
  · exact ⟨rfl, Shape.isGiven_required CheckOutItem.returns_decode.list fromItems,
      rfl, Shape.isGiven_optional Filters.returns_decode Filters.rejectsNull_decode fromFilters,
      rfl, isGiven_sort fromSort,
      rfl, isGiven_count fromRows, rfl, isGiven_count fromSkipped, trivial⟩
  · simp only [getD_sort]

theorem returns_revise (found : payloadReader? "revise" = some reader) :
    reader.Returns "revise" := by
  obtain rfl := Option.some.inj found
  rintro ⟨path, filters, data, ⟨⟩⟩ limit ⟨fromPath, fromFilters, fromData, -⟩ -
  refine ⟨rfl, (path, filters, data, ()), Shape.AreGiven.gives ?_ (by decide) _ _, rfl⟩
  exact ⟨rfl, Shape.isGiven_required Decoder.returns_text fromPath,
    rfl, Shape.isGiven_optional Filters.returns_decode Filters.rejectsNull_decode fromFilters,
    rfl, Shape.isGiven_required Decoder.returns_plainRecord fromData, trivial⟩

theorem returns_remove (found : payloadReader? "remove" = some reader) :
    reader.Returns "remove" := by
  obtain rfl := Option.some.inj found
  rintro ⟨path, filters, isShelf, isSection, ⟨⟩⟩ limit ⟨fromPath, fromFilters, -⟩ -
  refine ⟨rfl, (path, filters, isShelf, isSection, ()), ?_, rfl⟩
  exact (areGiven_flags fromPath fromFilters _ isShelf _ isSection).gives (by decide) _ _

theorem returns_reset (found : payloadReader? "reset" = some reader) :
    reader.Returns "reset" := by
  obtain rfl := Option.some.inj found
  rintro ⟨path, filters, isShelf, isSection, ⟨⟩⟩ limit ⟨fromPath, fromFilters, -⟩ -
  refine ⟨rfl, (path, filters, isShelf, isSection, ()), ?_, rfl⟩
  exact (areGiven_flags fromPath fromFilters _ isShelf _ isSection).gives (by decide) _ _

theorem returns_setSchema (found : payloadReader? "set_schema" = some reader) :
    reader.Returns "set_schema" := by
  obtain rfl := Option.some.inj found
  rintro ⟨path, schema, isLibrary, ⟨⟩⟩ limit ⟨fromPath, fromSchema, -⟩ -
  refine ⟨rfl, (path, schema, isLibrary, ()), Shape.AreGiven.gives ?_ (by decide) _ _, rfl⟩
  exact ⟨rfl, Shape.isGiven_optional Decoder.returns_text Decoder.rejectsNull_text fromPath,
    rfl, Shape.isGiven_required Schema.returns_decode fromSchema,
    rfl, Decoder.gives_bool _ _, trivial⟩

/-- What the reader of the payloads of a kind makes is made again of what is written of it. -/
theorem returns_of_payloadReader? {kind : String} (found : payloadReader? kind = some reader) :
    reader.Returns kind := by
  unfold payloadReader? at found
  split at found
  · exact returns_buildSection found
  · exact returns_buildShelf found
  · exact returns_write found
  · exact returns_checkOut found
  · exact returns_revise found
  · exact returns_remove found
  · exact returns_reset found
  · exact returns_setSchema found
  · cases found

end

end Operation.PayloadReader

theorem Operation.kind_ne_transaction (operation : Operation) : operation.kind ≠ "transaction" := by
  cases operation <;> simp [kind]

/-- An operation that is read from a payload is read again from its own. -/
theorem Operation.gives_payload {kind : String} {payload : Json} {operation : Operation}
    {limit : Nat} (read : payload.IsRead limit)
    (decoded : Query.readOperation kind payload = .ok operation)
    (empty : operation.BuildsEmpty) :
    operation.kind = kind ∧ operation.payload.Gives (Query.readOperation kind) operation limit := by
  unfold Query.readOperation at decoded
  split at decoded
  · rename_i reader known
    simp only [PayloadReader.read] at decoded
    split at decoded
    · rename_i members shaped
      obtain ⟨_, valid, same⟩ := Result.bind_eq_ok.mp decoded
      obtain rfl := Except.ok.inj same
      obtain ⟨inner, rfl, filled⟩ := Shape.decoder_eq_ok read shaped
      obtain ⟨named, again, given, remade⟩ :=
        PayloadReader.returns_of_payloadReader? known filled empty
      refine ⟨named, given.proper, given.depth_le, ?_⟩
      simp only [Query.readOperation, known, PayloadReader.read, given.reads, remade]
      exact decoded
    · cases decoded
  · cases decoded

/-! ## Documents of operations -/

namespace Query

theorem op_lt_payload : "op" < "payload" := by decide

theorem split_envelope (kind : String) (payload : Json) :
    split (.object [("op", .text kind), ("payload", payload)]) = .ok (kind, payload) := by
  simp [split, Table.get?_cons]

/-- The payload of a document that has been read stands in it, or counts as `null`. -/
theorem isRead_of_split {document payload : Json} {kind : String} {limit : Nat}
    (read : document.IsRead limit) (separated : split document = .ok (kind, payload)) :
    ∃ inner, limit = inner + 1 ∧ payload.IsRead inner := by
  unfold split at separated
  split at separated
  · rename_i members
    obtain ⟨inner, rfl, children⟩ := read.inner (Nat.succ_pos _)
    refine ⟨inner, rfl, ?_⟩
    split at separated
    · obtain ⟨rfl, rfl⟩ := Prod.mk.inj (Except.ok.inj separated)
      cases found : Table.get? members "payload" with
      | none => exact ⟨trivial, rfl, Nat.zero_le _⟩
      | some child => exact children child ⟨"payload", Table.mem_of_get? found⟩
    · cases separated
  · cases separated

/-- The operation of a document. -/
def readDocument (document : Json) : Except ValidationError Operation := do
  let (kind, payload) ← split document
  readOperation kind payload

theorem readDocument_toJson (operation : Operation) :
    readDocument operation.toJson.inKeyOrder =
      readOperation operation.kind operation.payload.inKeyOrder := by
  rw [Operation.toJson, Json.inKeyOrder_pair op_lt_payload, readDocument, split_envelope]
  rfl

/-- An operation that is read from a document is read again from its own. -/
theorem gives_document {document : Json} {operation : Operation} {limit : Nat}
    (read : document.IsRead limit) (decoded : readDocument document = .ok operation)
    (empty : operation.BuildsEmpty) : operation.toJson.Gives readDocument operation limit := by
  obtain ⟨⟨kind, payload⟩, separated, done⟩ := Result.bind_eq_ok.mp decoded
  obtain ⟨inner, rfl, payloadRead⟩ := isRead_of_split read separated
  obtain ⟨rfl, given⟩ := Operation.gives_payload payloadRead done empty
  obtain ⟨proper, shallow⟩ :=
    Json.writable_pair op_lt_payload operation.kind given.proper given.depth_le
  refine ⟨proper, shallow, ?_⟩
  rw [readDocument_toJson]
  exact given.reads

/-! ## Queries -/

/-- Whether a query builds no shelf with contents. -/
def BuildsEmpty : Query → Prop
  | .single operation => operation.BuildsEmpty
  | .transaction operations => ∀ operation ∈ operations, operation.BuildsEmpty

instance (query : Query) : Decidable query.BuildsEmpty :=
  match query with
  | .single operation => inferInstanceAs (Decidable operation.BuildsEmpty)
  | .transaction operations =>
    inferInstanceAs (Decidable (∀ operation ∈ operations, operation.BuildsEmpty))

theorem readOperations_eq_ok {position : Nat} {document : Json} {rest : List Json}
    {operations : List Operation}
    (decoded : readOperations position (document :: rest) = .ok operations) :
    ∃ operation others, readDocument document = .ok operation ∧
      readOperations (position + 1) rest = .ok others ∧ operations = operation :: others := by
  unfold readOperations at decoded
  split at decoded
  · cases decoded
  · obtain ⟨⟨kind, payload⟩, separated, onward⟩ := Result.bind_eq_ok.mp decoded
    obtain ⟨operation, first, onward⟩ := Result.bind_eq_ok.mp onward
    obtain ⟨others, later, same⟩ := Result.bind_eq_ok.mp onward
    exact ⟨operation, others, Result.bind_eq_ok.mpr ⟨_, separated, first⟩, later,
      (Except.ok.inj same).symm⟩

theorem readOperations_toJson {operations : List Operation}
    (reads : ∀ operation ∈ operations, readDocument operation.toJson.inKeyOrder = .ok operation)
    (position : Nat) :
    readOperations position ((operations.map Operation.toJson).map Json.inKeyOrder) =
      .ok operations := by
  induction operations generalizing position with
  | nil => rfl
  | cons operation rest ih =>
      have first := reads operation List.mem_cons_self
      have others := ih (fun other later => reads other (List.mem_cons_of_mem _ later))
        (position + 1)
      rw [readDocument_toJson] at first
      rw [List.map_cons, List.map_cons, Operation.toJson, Json.inKeyOrder_pair op_lt_payload,
        readOperations]
      split
      · rename_i nested
        simp [Json.member?, Table.get?_cons, operation.kind_ne_transaction] at nested
      · simp only [split_envelope, first, others, bind, Except.bind]
        rfl

/-- Operations that are read from documents are read again from their own. -/
theorem gives_documents {documents : List Json} {operations : List Operation}
    {position limit : Nat} (read : ∀ document ∈ documents, document.IsRead limit)
    (decoded : readOperations position documents = .ok operations)
    (empty : ∀ operation ∈ operations, operation.BuildsEmpty) :
    ∀ operation ∈ operations, operation.toJson.Gives readDocument operation limit := by
  induction documents generalizing position operations with
  | nil =>
      obtain rfl := Except.ok.inj decoded
      simp
  | cons document rest ih =>
      obtain ⟨operation, others, first, later, rfl⟩ := readOperations_eq_ok decoded
      obtain ⟨emptyFirst, emptyOthers⟩ := List.forall_mem_cons.mp empty
      exact List.forall_mem_cons.mpr
        ⟨gives_document (read document List.mem_cons_self) first emptyFirst,
          ih (fun other listed => read other (List.mem_cons_of_mem _ listed)) later emptyOthers⟩

/-- A transaction is read from the documents of its operations. -/
theorem ofDocument_transaction {operations : List Operation} {documents : List Json}
    {payload : Json}
    (listed : decodeQueries "RawTransaction" Decoder.any payload = .ok documents)
    (decoded : readOperations 0 documents = .ok operations)
    (valid : (transaction operations).validate = .ok ()) :
    ofDocument (.object [("op", .text "transaction"), ("payload", payload)]) =
      .ok (.transaction operations) := by
  simp only [ofDocument, split_envelope, bind, Except.bind, if_pos, listed, decoded, valid]
  rfl

/-- The operations of a transaction stand in its payload. -/
theorem isRead_of_decodeQueries {payload : Json} {documents : List Json} {limit : Nat}
    (read : payload.IsRead limit)
    (listed : decodeQueries "RawTransaction" Decoder.any payload = .ok documents) :
    ∃ inner, limit = inner + 2 ∧ ∀ document ∈ documents, document.IsRead inner := by
  obtain ⟨⟨kept, ⟨⟩⟩, shaped, rfl⟩ := Result.map_eq_ok.mp listed
  obtain ⟨middle, rfl, here, -⟩ := Shape.decoder_eq_ok read shaped
  obtain ⟨child, childRead, array⟩ := here.resolve_right (by rintro ⟨⟩)
  obtain ⟨inner, rfl, each⟩ := Decoder.list_any_eq_ok childRead array
  exact ⟨inner, rfl, each⟩

/-- A valid transaction of operations that are read again is read again. -/
theorem gives_transaction {operations : List Operation} {limit : Nat}
    (given : ∀ operation ∈ operations, operation.toJson.Gives readDocument operation limit)
    (valid : (transaction operations).validate = .ok ()) :
    (transaction operations).toJson.Gives ofDocument (.transaction operations) (limit + 3) := by
  have array := Decoder.gives_documents fun operation listed =>
    ⟨(given operation listed).proper, (given operation listed).depth_le⟩
  have members : (Shape.field "queries" (Decoder.list Decoder.any) none .done).AreGiven
      (limit + 1) [("queries", some (.list (operations.map Operation.toJson)))]
      ((operations.map Operation.toJson).map Json.inKeyOrder, ()) :=
    ⟨rfl, array, trivial⟩
  obtain ⟨proper, shallow, reads⟩ := members.gives (by decide) "RawTransaction" true
  obtain ⟨proper, shallow⟩ := Json.writable_pair op_lt_payload "transaction" proper shallow
  refine ⟨proper, shallow, ?_⟩
  rw [toJson, Json.inKeyOrder_pair op_lt_payload]
  exact ofDocument_transaction (Result.map_eq_ok.mpr ⟨_, reads, rfl⟩)
    (readOperations_toJson (fun operation listed => (given operation listed).reads) 0) valid

/-- An operation that is read again is read again as a query. -/
theorem gives_single {operation : Operation} {limit : Nat}
    (given : operation.toJson.Gives readDocument operation limit) :
    (single operation).toJson.Gives ofDocument (.single operation) limit := by
  refine ⟨given.proper, given.depth_le, ?_⟩
  have reads := given.reads
  rw [readDocument_toJson] at reads
  rw [toJson, Operation.toJson, Json.inKeyOrder_pair op_lt_payload, ofDocument, split_envelope]
  simp only [bind, Except.bind, operation.kind_ne_transaction, if_false, reads]
  rfl

/-- A query that is read from a document is read again from its own. -/
theorem gives_query {document : Json} {query : Query} {limit : Nat}
    (read : document.IsRead limit) (decoded : ofDocument document = .ok query)
    (empty : query.BuildsEmpty) : query.toJson.Gives ofDocument query limit := by
  obtain ⟨⟨kind, payload⟩, separated, done⟩ := Result.bind_eq_ok.mp decoded
  simp only at done
  split at done
  · split at done
    · cases done
    · rename_i documents listed
      obtain ⟨operations, went, checked⟩ := Result.bind_eq_ok.mp done
      obtain ⟨_, valid, same⟩ := Result.bind_eq_ok.mp checked
      obtain rfl := Except.ok.inj same
      obtain ⟨outer, rfl, payloadRead⟩ := isRead_of_split read separated
      obtain ⟨inner, rfl, each⟩ := isRead_of_decodeQueries payloadRead listed
      exact gives_transaction (gives_documents each went empty) valid
  · obtain ⟨operation, chosen, same⟩ := Result.bind_eq_ok.mp done
    obtain rfl := Except.ok.inj same
    exact gives_single
      (gives_document read (Result.bind_eq_ok.mpr ⟨_, separated, chosen⟩) empty)

/-- A query that is read from a text, and builds no shelf with contents, is read again from the
indented text that is written of it. -/
theorem ofText_pretty {source : String} {query : Query} (read : ofText source = .ok query)
    (empty : query.BuildsEmpty) : ofText query.toJson.pretty = .ok query := by
  unfold ofText at read
  split at read
  · cases read
  · rename_i document found
    have given := gives_query (Json.isRead_of_ofText? found) read empty
    rw [ofText, Json.ofText?_pretty given.proper given.depth_le]
    exact given.reads

/-- A transaction of one revision: members stand in arrays, and flags are left out. -/
def shortRevision : String :=
  "\x7b\"op\": \"transaction\", \"payload\": [[\x7b\"op\": \"revise\", \"payload\": " ++
    "[\"a\", [\x7b\"condition\": [\"n\", \">\", 1]\x7d], \x7b\"n\": 1.5\x7d]\x7d]]\x7d"

/-- The same transaction with every member in an object. -/
def fullRevision : String :=
  "\x7b\"op\":\"transaction\",\"payload\":\x7b\"queries\":[\x7b\"op\":\"revise\",\"payload\":" ++
    "\x7b\"path\":\"a\",\"filters\":[\x7b\"condition\":\x7b\"left\":\"n\",\"operator\":\">\"," ++
    "\"right\":1,\"left_is_path\":true,\"right_is_path\":false\x7d\x7d]," ++
    "\"data\":\x7b\"n\":1.5\x7d\x7d\x7d]\x7d\x7d"

theorem ofText_pretty_revision : ∃ query, ofText shortRevision = .ok query ∧
    query.toJson.compact = fullRevision ∧ ofText query.toJson.pretty = .ok query := by
  have evaluated : (match ofText shortRevision with
      | .ok query => decide (query.BuildsEmpty ∧ query.toJson.compact = fullRevision)
      | .error _ => false) = true := by
    decide +kernel
  split at evaluated
  · rename_i query read
    obtain ⟨empty, written⟩ := of_decide_eq_true evaluated
    exact ⟨query, read, written, ofText_pretty read empty⟩
  · cases evaluated

end Query

end ShelfLibrary
