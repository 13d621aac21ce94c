import ShelfLibrary.Proofs.Codec
import ShelfLibrary.Proofs.Filter

/-!
# Filters that are read back

A filter that has been decoded is decoded again from the document that is written of it.  The plain
values in it come from documents, so that none of them is a point in time or an infinite number, and
their plain documents lose nothing.
-/

namespace ShelfLibrary

/-! ## Plain values -/

namespace Value

theorem ofJsonItems_eq (items : List Json) : ofJsonItems items = items.map ofJson := by
  induction items with
  | nil => rfl
  | cons item rest ih => exact congrArg (List.cons (ofJson item)) ih

theorem ofJsonMembers_eq (members : List (String × Json)) :
    ofJsonMembers members = Table.mapValues ofJson members := by
  induction members with
  | nil => rfl
  | cons member rest ih => exact congrArg (List.cons (member.1, ofJson member.2)) ih

theorem toJsonItems_eq (items : List Value) : toJsonItems items = items.map toJson := by
  induction items with
  | nil => rfl
  | cons item rest ih => exact congrArg (List.cons item.toJson) ih

theorem toJsonFields_eq (fields : List (String × Value)) :
    toJsonFields fields = Table.mapValues toJson fields := by
  induction fields with
  | nil => rfl
  | cons field rest ih => exact congrArg (List.cons (field.1, field.2.toJson)) ih

/-- Whether the plain document of a value can have been read within a limit, and is a document of
the value. -/
structure IsPlain (value : Value) (limit : Nat) : Prop where
  /-- The document can have been read. -/
  read : value.toJson.IsRead limit
  /-- The document is one of the value. -/
  ofJson_eq : ofJson value.toJson = value

theorem isPlain_float {d : Double} (finite : d.isFinite = true) (limit : Nat) :
    (Value.float d).IsPlain limit := by
  have written : (Value.float d).toJson = .float d := if_pos finite
  constructor <;> rw [written]
  · exact ⟨finite, rfl, Nat.zero_le _⟩
  · rfl

theorem isPlain_int (n : Int64) (limit : Nat) : (Value.int n).IsPlain limit := by
  have least := n.le_toInt
  have most := n.toInt_lt
  constructor
  · refine ⟨?_, rfl, Nat.zero_le _⟩
    simp only [toJson, Json.IsProper, Json.isWholeRange]
    simp
    omega
  · have fits : fitsInt n.toInt = true := by
      simp only [fitsInt, Bool.and_eq_true, decide_eq_true_eq]
      exact ⟨least, most⟩
    rw [toJson, ofJson, if_pos fits, Int64.ofInt_toInt]

theorem isPlain_list {items : List Value} {limit : Nat}
    (plain : ∀ item ∈ items, item.IsPlain limit) : (Value.list items).IsPlain (limit + 1) := by
  constructor
  · rw [toJson, toJsonItems_eq, Json.isRead_list_iff]
    intro document member
    obtain ⟨item, listed, rfl⟩ := List.mem_map.mp member
    exact (plain item listed).read
  · rw [toJson, toJsonItems_eq, ofJson, ofJsonItems_eq, List.map_map]
    exact congrArg Value.list (Json.map_eq_self_iff.mpr fun item listed =>
      (plain item listed).ofJson_eq)

theorem isPlain_record {fields : Record} {limit : Nat} (sorted : Table.Sorted fields)
    (plain : ∀ field ∈ fields, field.2.IsPlain limit) :
    (Value.record fields).IsPlain (limit + 1) := by
  constructor
  · rw [toJson, toJsonFields_eq, Json.isRead_object_iff]
    refine ⟨List.pairwise_map.mpr sorted, fun member inside => ?_⟩
    obtain ⟨field, listed, rfl⟩ := List.mem_map.mp inside
    exact (plain field listed).read
  · rw [toJson, toJsonFields_eq, ofJson, ofJsonMembers_eq, Table.mapValues, Table.mapValues,
      List.map_map]
    exact congrArg Value.record (Json.map_eq_self_iff.mpr fun field listed =>
      Prod.ext rfl (plain field listed).ofJson_eq)

mutual

/-- The value of a document that has been read is plain, within the limit of the document. -/
theorem isPlain_ofJson : ∀ {found : Json} {limit : Nat}, found.IsRead limit →
    (ofJson found).IsPlain limit
  | .null, _, read => ⟨read, rfl⟩
  | .bool _, _, read => ⟨read, rfl⟩
  | .text _, _, read => ⟨read, rfl⟩
  | .float _, limit, read => isPlain_float read.proper limit
  | .int n, limit, read => by
      unfold ofJson
      split
      · exact isPlain_int _ limit
      · refine isPlain_float (Double.isFinite_ofInt ?_) limit
        have whole : Json.isWholeRange n = true := read.proper
        simp only [Json.isWholeRange, Bool.and_eq_true, decide_eq_true_eq] at whole
        omega
  | .list items, limit, read => by
      obtain ⟨inner, rfl, children⟩ := read.inner (Nat.succ_pos _)
      rw [ofJson]
      exact isPlain_list (isPlain_ofJsonItems children)
  | .object members, limit, read => by
      obtain ⟨inner, rfl, -⟩ := read.inner (Nat.succ_pos _)
      obtain ⟨sorted, children⟩ := Json.isRead_object_iff.mp read
      rw [ofJson]
      refine isPlain_record ?_ (isPlain_ofJsonMembers children)
      rw [ofJsonMembers_eq]
      exact List.pairwise_map.mpr sorted

theorem isPlain_ofJsonItems : ∀ {items : List Json} {limit : Nat},
    (∀ item ∈ items, item.IsRead limit) → ∀ value ∈ ofJsonItems items, value.IsPlain limit
  | [], _, _, value, member => by cases member
  | item :: rest, limit, read, value, member => by
      rcases List.mem_cons.mp member with rfl | later
      · exact isPlain_ofJson (read item List.mem_cons_self)
      · exact isPlain_ofJsonItems (fun other listed => read other (List.mem_cons_of_mem _ listed))
          value later

theorem isPlain_ofJsonMembers : ∀ {members : List (String × Json)} {limit : Nat},
    (∀ member ∈ members, member.2.IsRead limit) →
      ∀ field ∈ ofJsonMembers members, field.2.IsPlain limit
  | [], _, _, field, inside => by cases inside
  | (key, value) :: rest, limit, read, field, inside => by
      rcases List.mem_cons.mp inside with rfl | later
      · exact isPlain_ofJson (read _ List.mem_cons_self)
      · exact isPlain_ofJsonMembers
          (fun other listed => read other (List.mem_cons_of_mem _ listed)) field later

end

end Value

namespace Decoder

theorem returns_plainValue : plainValue.Returns Value.toJson := by
  intro found value limit read decoded
  obtain rfl := Except.ok.inj decoded
  have plain := Value.isPlain_ofJson read
  exact plain.read.gives (congrArg Except.ok plain.ofJson_eq)

theorem returns_plainRecord : plainRecord.Returns Record.toJson := by
  intro found fields limit read decoded
  unfold plainRecord at decoded
  split at decoded
  · rename_i others isRecord
    obtain rfl := Except.ok.inj decoded
    have plain := Value.isPlain_ofJson read
    rw [isRecord] at plain
    have same : Value.ofJson (Record.toJson others) = .record others := plain.ofJson_eq
    refine Json.IsRead.gives plain.read ?_
    rw [plainRecord, same]
  · cases decoded

theorem rejectsNull_plainRecord : plainRecord.RejectsNull := by
  rintro value ⟨⟩

end Decoder

/-! ## Conditions -/

theorem Operator.parse_token (operator : Operator) : parse operator.token = .ok operator := by
  rw [parse, ofToken?_token]

/-- A condition that is decoded is given by its document. -/
theorem Condition.returns_decode : Condition.decode.Returns Condition.toJson := by
  intro found condition limit read decoded
  obtain ⟨⟨left, operator, right, leftIsPath, rightIsPath, ⟨⟩⟩, shaped, made⟩ :=
    Decoder.refining_eq_ok decoded
  obtain ⟨inner, rfl, fromLeft, -, fromRight, -, -, -⟩ := Shape.decoder_eq_ok read shaped
  obtain ⟨known, parsed, checked⟩ := Result.bind_eq_ok.mp made
  obtain ⟨_, valid, same⟩ := Result.bind_eq_ok.mp checked
  obtain rfl := Except.ok.inj same
  -- The operator is written by its token, whatever text it was read from.
  have given : shape.AreGiven inner [("left", some left.toJson),
      ("operator", some (.text known.token)), ("right", some right.toJson),
      ("left_is_path", some (.bool leftIsPath)), ("right_is_path", some (.bool rightIsPath))]
      (left, known.token, right, leftIsPath, rightIsPath, ()) :=
    ⟨rfl, Shape.isGiven_required Decoder.returns_plainValue fromLeft,
      rfl, Decoder.gives_text _ _,
      rfl, Shape.isGiven_required Decoder.returns_plainValue fromRight,
      rfl, Decoder.gives_bool _ _,
      rfl, Decoder.gives_bool _ _, trivial⟩
  refine Decoder.gives_refining (given.gives (by decide) "ConditionFields" true) ?_
  simp only [make, Operator.parse_token]
  exact checked

/-! ## Elements -/

namespace FilterItem

theorem toJsonItems_eq (items : List FilterItem) : toJsonItems items = items.map toJson := by
  induction items with
  | nil => rfl
  | cons item rest ih => exact congrArg (List.cons item.toJson) ih

theorem decodeAt_condition {body : Json} {leaf : Condition}
    (wrapped : decodeWrapped (.object [("condition", body)]) = .ok leaf)
    (decodeGroup : Decoder FilterItem) (position : Nat) :
    decodeAt decodeGroup position (.object [("condition", body)]) = .ok (condition leaf) := by
  simp [decodeAt, Table.contains, Table.get?_cons, wrapped]

theorem decodeAt_group {decodeGroup : Decoder FilterItem} {body : Json} {item : FilterItem}
    (decoded : decodeGroup (.object [("group", body)]) = .ok item) (position : Nat) :
    decodeAt decodeGroup position (.object [("group", body)]) = .ok item := by
  simp [decodeAt, Table.contains, Table.get?_cons, decoded]

/-- Whether an element is decoded again from its document, with the fuel that its depth asks for and
at any position. -/
def IsReturned (item : FilterItem) (limit : Nat) : Prop :=
  ∀ position,
    item.toJson.GivesDeep (fun fuel => decodeAt (decodeGroup fuel) position) item limit

theorem isReturned_connective (joint : Connective) (limit : Nat) :
    (connective joint).IsReturned limit := by
  refine fun position fuel _ => ⟨trivial, Nat.zero_le _, ?_⟩
  cases joint <;> rfl

theorem isReturned_condition {leaf : Condition} {limit : Nat}
    (given : leaf.toJson.Gives Condition.decode leaf limit) :
    (condition leaf).IsReturned (limit + 1) := by
  intro position fuel _
  have members : (Shape.field "condition" Condition.decode none .done).AreGiven limit
      [("condition", some leaf.toJson)] (leaf, ()) := ⟨rfl, given, trivial⟩
  obtain ⟨proper, shallow, reads⟩ := members.gives (by decide) "ConditionDict" true
  refine ⟨proper, shallow, ?_⟩
  have written : (condition leaf).toJson.inKeyOrder =
      .object [("condition", leaf.toJson.inKeyOrder)] := Json.inKeyOrder_object _
  have wrapped : decodeWrapped (condition leaf).toJson.inKeyOrder = .ok leaf :=
    Result.map_eq_ok.mpr ⟨_, reads, rfl⟩
  rw [written] at wrapped ⊢
  exact decodeAt_condition wrapped _ position

theorem decodeFrom_toJson {fuel : Nat} {items : List FilterItem}
    (reads : ∀ item ∈ items, ∀ position,
      decodeAt (decodeGroup fuel) position item.toJson.inKeyOrder = .ok item) (position : Nat) :
    decodeFrom (decodeGroup fuel) position ((items.map toJson).map Json.inKeyOrder) =
      .ok items := by
  induction items generalizing position with
  | nil => rfl
  | cons item rest ih =>
      have first := reads item List.mem_cons_self position
      have others := ih (fun other later => reads other (List.mem_cons_of_mem _ later))
        (position + 1)
      rw [List.map_cons, List.map_cons, decodeFrom, first]
      simp only [bind, Except.bind, others]
      rfl

section

variable {items : List FilterItem} {limit : Nat}

/-- The array of the documents of elements that are decoded again gives these documents. -/
theorem gives_of_isReturned (returned : ∀ item ∈ items, item.IsReturned limit) :
    (Json.list (items.map toJson)).Gives (Decoder.list Decoder.any)
      ((items.map toJson).map Json.inKeyOrder) (limit + 1) := by
  refine Decoder.gives_documents fun item listed => ?_
  have given := (returned item listed 0).self
  exact ⟨given.proper, given.depth_le⟩

/-- Elements are decoded again from the array of their documents. -/
theorem decodeFrom_of_isReturned (returned : ∀ item ∈ items, item.IsReturned limit) {fuel : Nat}
    (enough : Json.depthOfItems (items.map toJson) < fuel) :
    decodeFrom (decodeGroup fuel) 0 ((items.map toJson).map Json.inKeyOrder) = .ok items := by
  refine decodeFrom_toJson (fun item listed position => ?_) 0
  have shallow : item.toJson.depth ≤ Json.depthOfItems (items.map toJson) :=
    Json.depthOfItems_le_iff.mp le_rfl _ (List.mem_map_of_mem listed)
  exact (returned item listed position fuel (shallow.trans_lt enough)).reads

theorem isReturned_group (expression : checkExpression items = .ok ())
    (returned : ∀ item ∈ items, item.IsReturned limit) : (group items).IsReturned (limit + 2) := by
  intro position fuel enough
  have members : (Shape.field "group" (Decoder.list Decoder.any) none .done).AreGiven (limit + 1)
      [("group", some (.list (items.map toJson)))] ((items.map toJson).map Json.inKeyOrder, ()) :=
    ⟨rfl, gives_of_isReturned returned, trivial⟩
  obtain ⟨proper, shallow, reads⟩ := members.gives (by decide) "GroupFields" true
  have written : (group items).toJson = .object [("group", .list (items.map toJson))] := by
    rw [toJson, toJsonItems_eq]
  rw [written] at enough ⊢
  refine ⟨proper, shallow, ?_⟩
  obtain ⟨fuel, rfl⟩ := Nat.exists_eq_succ_of_ne_zero (Nat.ne_zero_of_lt enough)
  have body : decodeBody (Json.object [("group", .list (items.map toJson))]).inKeyOrder =
      .ok ((items.map toJson).map Json.inKeyOrder) := Result.map_eq_ok.mpr ⟨_, reads, rfl⟩
  have within : Json.depthOfItems (items.map toJson) < fuel := by
    simp only [Json.depth, Json.depthOfMembers] at enough
    omega
  have regrouped : decodeGroup (fuel + 1)
      (Json.object [("group", .list (items.map toJson))]).inKeyOrder = .ok (group items) := by
    rw [decodeGroup, Decoder.refining, body]
    simp only [bind, Except.bind, decodeFrom_of_isReturned returned within, makeGroup, expression]
    rfl
  have ordered : (Json.object [("group", .list (items.map toJson))]).inKeyOrder =
      .object [("group", (Json.list (items.map toJson)).inKeyOrder)] := Json.inKeyOrder_object _
  rw [ordered] at regrouped ⊢
  exact decodeAt_group regrouped position

end

/-- An element that is decoded is decoded again from its document. -/
theorem isReturned_of_decodeAt {decodeGroup : Decoder FilterItem}
    (groups : ∀ {document item limit}, Json.IsRead document limit →
      decodeGroup document = .ok item → item.IsReturned limit)
    {position limit : Nat} {found : Json} {item : FilterItem} (read : found.IsRead limit)
    (decoded : decodeAt decodeGroup position found = .ok item) : item.IsReturned limit := by
  unfold decodeAt at decoded
  simp only at decoded
  split at decoded
  · split at decoded
    · obtain rfl := Except.ok.inj decoded
      exact isReturned_connective _ limit
    · cases decoded
  · split at decoded
    · split at decoded
      · rename_i leaf wrapped
        obtain rfl := Except.ok.inj decoded
        obtain ⟨⟨inner, ⟨⟩⟩, shaped, rfl⟩ := Result.map_eq_ok.mp wrapped
        obtain ⟨less, rfl, here, -⟩ := Shape.decoder_eq_ok read shaped
        exact isReturned_condition (Shape.isGiven_required Condition.returns_decode here)
      · cases decoded
    · split at decoded
      · split at decoded
        · rename_i other regrouped
          obtain rfl := Except.ok.inj decoded
          exact groups read regrouped
        · cases decoded
      · cases decoded
  · cases decoded

theorem isReturned_of_decodeFrom {decodeGroup : Decoder FilterItem}
    (groups : ∀ {document item limit}, Json.IsRead document limit →
      decodeGroup document = .ok item → item.IsReturned limit)
    {position limit : Nat} {documents : List Json} {items : List FilterItem}
    (read : ∀ document ∈ documents, document.IsRead limit)
    (decoded : decodeFrom decodeGroup position documents = .ok items) :
    ∀ item ∈ items, item.IsReturned limit := by
  induction documents generalizing position items with
  | nil =>
      obtain rfl := Except.ok.inj decoded
      simp
  | cons found rest ih =>
      obtain ⟨item, first, onward⟩ := Result.bind_eq_ok.mp decoded
      obtain ⟨others, later, same⟩ := Result.bind_eq_ok.mp onward
      obtain rfl := Except.ok.inj same
      exact List.forall_mem_cons.mpr
        ⟨isReturned_of_decodeAt groups (read found List.mem_cons_self) first,
          ih (fun document listed => read document (List.mem_cons_of_mem _ listed)) later⟩

/-- A group that is decoded is decoded again from its document. -/
theorem isReturned_of_decodeGroup {fuel limit : Nat} {found : Json} {item : FilterItem}
    (read : found.IsRead limit) (decoded : decodeGroup fuel found = .ok item) :
    item.IsReturned limit := by
  induction fuel generalizing found item limit with
  | zero => cases decoded
  | succ fuel ih =>
      obtain ⟨documents, body, grouped⟩ := Decoder.refining_eq_ok decoded
      obtain ⟨⟨inner, ⟨⟩⟩, shaped, rfl⟩ := Result.map_eq_ok.mp body
      obtain ⟨outer, rfl, here, -⟩ := Shape.decoder_eq_ok read shaped
      obtain ⟨child, childRead, listed⟩ := here.resolve_right (by rintro ⟨⟩)
      obtain ⟨less, rfl, each⟩ := Decoder.list_any_eq_ok childRead listed
      obtain ⟨items, went, made⟩ := Result.bind_eq_ok.mp grouped
      obtain ⟨_, expression, same⟩ := Result.bind_eq_ok.mp made
      obtain rfl : group items = item := Except.ok.inj same
      exact isReturned_group expression (isReturned_of_decodeFrom ih each went)

end FilterItem

/-! ## Filters -/

/-- A filter that is decoded is given by its document. -/
theorem Filters.returns_decode : Filters.decode.Returns Filters.toJson := by
  intro found filters limit read decoded
  obtain ⟨documents, listed, made⟩ := Decoder.refining_eq_ok decoded
  obtain ⟨inner, rfl, each⟩ := Decoder.list_any_eq_ok read listed
  obtain ⟨items, went, checked⟩ := Result.bind_eq_ok.mp made
  obtain ⟨_, expression, same⟩ := Result.bind_eq_ok.mp checked
  obtain rfl : (⟨items⟩ : Filters) = filters := Except.ok.inj same
  have returned := FilterItem.isReturned_of_decodeFrom
    FilterItem.isReturned_of_decodeGroup each went
  have given := FilterItem.gives_of_isReturned returned
  have written : toJson ⟨items⟩ = .list (items.map FilterItem.toJson) :=
    congrArg Json.list (FilterItem.toJsonItems_eq items)
  rw [written]
  refine ⟨given.proper, given.depth_le, ?_⟩
  have enough : Json.depthOfItems (items.map FilterItem.toJson) <
      (Json.list (items.map FilterItem.toJson)).inKeyOrder.depth + 1 := by
    rw [given.proper.depth_inKeyOrder, Json.depth]
    omega
  unfold decode Decoder.refining
  rw [given.reads]
  simp only [bind, Except.bind, FilterItem.decodeFrom_of_isReturned returned enough, make,
    expression]
  rfl

theorem Filters.rejectsNull_decode : Filters.decode.RejectsNull := by
  rintro value ⟨⟩

end ShelfLibrary
