import ShelfLibrary.Proofs.Normal
import ShelfLibrary.Proofs.Transaction

/-!
# Shelves with instances of extensions

A schema that extends another has its fields unchanged, so that each of them accepts what an
instance of the extension holds in it.  The record of the instance is accepted where the other is
bound exactly if it has no field that the extension adds.
-/

namespace ShelfLibrary

/-! ## Equality of schemas -/

mutual

theorem FieldType.same_iff : ∀ {left right : FieldType}, left.same right = true ↔ left = right
  | .any, right => by cases right <;> simp [FieldType.same]
  | .bool, right => by cases right <;> simp [FieldType.same]
  | .int, right => by cases right <;> simp [FieldType.same]
  | .float, right => by cases right <;> simp [FieldType.same]
  | .text, right => by cases right <;> simp [FieldType.same]
  | .instant, right => by cases right <;> simp [FieldType.same]
  | .record, right => by cases right <;> simp [FieldType.same]
  | .list inner, right => by
      cases right with
      | list other => simp [FieldType.same, @FieldType.same_iff inner other]
      | _ => simp [FieldType.same]
  | .nested schema, right => by
      cases right with
      | nested other => simp [FieldType.same, @Schema.same_iff schema other]
      | _ => simp [FieldType.same]

theorem FieldDescriptor.same_iff : ∀ {left right : FieldDescriptor},
    left.same right = true ↔ left = right
  | .mk name type required, .mk _ other _ => by
      simp [FieldDescriptor.same, @FieldType.same_iff type other, and_assoc]

theorem FieldDescriptor.sameList_iff : ∀ {left right : List FieldDescriptor},
    FieldDescriptor.sameList left right = true ↔ left = right
  | [], right => by cases right <;> simp [FieldDescriptor.sameList]
  | first :: rest, [] => by simp [FieldDescriptor.sameList]
  | first :: rest, other :: others => by
      simp [FieldDescriptor.sameList, @FieldDescriptor.same_iff first other,
        @FieldDescriptor.sameList_iff rest others]

theorem Schema.same_iff : ∀ {left right : Schema}, left.same right = true ↔ left = right
  | .mk name fields ancestors, .mk _ others _ => by
      simp [Schema.same, @FieldDescriptor.sameList_iff fields others, and_assoc]

end

/-! ## Extensions -/

namespace Schema

variable {schema bound : Schema} {record data : Record}

/-- A schema that counts as another has its fields. -/
theorem field?_of_isA (isA : schema.isA bound = true) (distinct : bound.IsDistinct)
    {field : FieldDescriptor} (member : field ∈ bound.fields) :
    schema.field? field.name = some field := by
  rcases Bool.or_eq_true_iff.mp isA with same | further
  · obtain rfl := same_iff.mp same
    exact field?_of_mem distinct member
  · have each := List.all_eq_true.mp (Bool.and_eq_true_iff.mp further).2 field member
    cases found : schema.field? field.name with
    | none => simp [found] at each
    | some other =>
        rw [found] at each
        rw [FieldDescriptor.same_iff.mp each]

/-- What a schema has made of a record is accepted by a schema that it counts as, and left as it is,
unless it has a field that the other has not. -/
theorem normalize_of_isA (built : schema.IsBuilt) (boundBuilt : bound.IsBuilt)
    (isA : schema.isA bound = true) (accepted : schema.normalize record = .ok data) :
    bound.normalize data =
      match (Table.keys data).find? fun key => (bound.field? key).isNone with
      | some key => .error (.unknownField key)
      | none => .ok data := by
  have again := (normalize_eq_ok built.isDistinct).mp (normalize_of_normalize built accepted)
  cases unknown : (Table.keys data).find? fun key => (bound.field? key).isNone with
  | some key => rw [normalize_eq, unknown]
  | none =>
      have known : ∀ key ∈ Table.keys data, (bound.field? key).isSome = true := by
        simpa [Option.isSome_iff_ne_none] using unknown
      refine (normalize_eq_ok boundBuilt.isDistinct).mpr
        ⟨known, fun field member => ?_, fun key present => ?_, again.sorted⟩
      · exact again.checked field
          (of_field? (field?_of_isA isA boundBuilt.isDistinct member)).1
      · obtain ⟨value, held⟩ := Option.isSome_iff_exists.mp present
        exact known key (List.mem_map_of_mem (Table.mem_of_get? held))

end Schema

namespace SchemaInstance

/-- An instance has been made of a record under a schema that has been built. -/
structure IsMade (inst : SchemaInstance) : Prop where
  /-- The schema has been built. -/
  built : inst.schema.IsBuilt
  /-- The record of the instance is what the schema has made of one. -/
  normal : ∃ record, make inst.schema record = .ok inst

theorem IsMade.exists_normalize {inst : SchemaInstance} (made : inst.IsMade) :
    ∃ record, inst.schema.normalize record = .ok inst.data := by
  obtain ⟨record, same⟩ := made.normal
  refine ⟨record, ?_⟩
  unfold make Schema.validate at same
  cases accepted : inst.schema.normalize record with
  | error violation => simp [accepted, bind, Except.bind] at same
  | ok data =>
      simp only [accepted, bind, Except.bind, pure, Except.pure, Except.ok.injEq] at same
      rw [← same]

/-- The first field of an instance that a schema has not. -/
def unknownField? (inst : SchemaInstance) (bound : Schema) : Option String :=
  (Table.keys inst.data).find? fun key => (bound.field? key).isNone

end SchemaInstance

/-! ## Building shelves -/

namespace Library

variable {σ : Type} {stores : Stores σ} {view : σ → MemoryStores} {library : Library}
  {held : MemoryStores}

/-- The record of an instance of an extension of the bound schema is what a shelf begins with, or it
is refused for the first field that the extension adds. -/
theorem attains_firstRecord_of_isA {step : BuildShelf} {inst : SchemaInstance} {bound : Schema}
    (given : step.data = some inst) (made : inst.IsMade) (built : bound.IsBuilt)
    (binds : library.boundSchema? step.path = some bound)
    (isA : inst.schema.isA bound = true) :
    Action.Attains (firstRecord step) library held fun result after now =>
      after = library ∧ now = held ∧
        result = match inst.unknownField? bound with
          | some field => .error (.validation (.schemaViolation bound.name (.unknownField field)))
          | none => .ok inst.data := by
  obtain ⟨record, accepted⟩ := made.exists_normalize
  have judged := Schema.normalize_of_isA made.built built isA accepted
  rw [firstRecord, given]
  unfold conformInstance
  refine Action.ends_bind.mpr (Action.ends_get.mpr ?_)
  simp only [binds, isA, if_true, Schema.validate, judged, SchemaInstance.unknownField?]
  refine ⟨rfl, rfl, ?_⟩
  cases (Table.keys inst.data).find? fun key => (bound.field? key).isNone <;> rfl

/-- A free name in a section, or at the root, becomes a shelf with the record of an instance of an
extension of the bound schema, unless that has a field that the extension adds. -/
theorem attains_buildShelf_of_isA (mirrors : library.Mirrors held) {step : BuildShelf}
    {inst : SchemaInstance} {bound : Schema} {key : String} (given : step.data = some inst)
    (made : inst.IsMade) (built : bound.IsBuilt)
    (binds : library.boundSchema? step.path = some bound)
    (isA : inst.schema.isA bound = true)
    (found : library.nodes.resolveTarget step.path step.name = .ok key) :
    Action.Attains (buildShelf step) library held fun result after now =>
      match inst.unknownField? bound with
      | some field =>
        result = .error (.validation (.schemaViolation bound.name (.unknownField field))) ∧
          after = library ∧ now = held
      | none =>
        result = .ok (.built key .shelf) ∧ after.nodes.get? key = some (.ofShelf key) ∧
          Table.get? now.shelves (Location.placeOf key) = some ⟨inst.data, step.metadata⟩ := by
  have free := found
  rw [mirrors.nodes_eq] at free
  replace free := Namespace.isFree_of_resolveTarget free
  have canonical : (Entry.ofShelf key).location.IsCanonical := ⟨key, free.valid, rfl⟩
  have resolved : Action.Attains (resolving fun nodes => nodes.resolveTarget step.path step.name)
      library held fun result after now => result = .ok key ∧ after = library ∧ now = held :=
    ⟨found, rfl, rfl⟩
  refine Action.ends_bind.mpr (resolved.imp ?_)
  rintro _ _ _ ⟨rfl, rfl, rfl⟩
  refine Action.ends_bind.mpr
    ((attains_firstRecord_of_isA given made built binds isA).imp ?_)
  rintro result _ _ ⟨rfl, rfl, outcome⟩
  cases unknown : inst.unknownField? bound with
  | some field =>
      rw [unknown] at outcome
      subst outcome
      exact ⟨rfl, rfl, rfl⟩
  | none =>
      rw [unknown] at outcome
      subst outcome
      refine Action.ends_bind.mpr (attains_storeShelf canonical ?_)
      refine Action.ends_bind.mpr (Action.ends_tryCatch.mpr (Action.ends_on.mpr ?_))
      refine Namespace.attains_add mirrors.nodes_eq free rfl ⟨rfl, ?_, ?_⟩
      · simp
      · exact Table.get?_insert_self _ _ _

/-- Over faithful stores, in a library that any queries have come to: under a parent with a bound
schema, a free name becomes a shelf with the record of an instance of an extension of that schema
exactly if the record has no field that the extension adds.  Otherwise nothing is done. -/
theorem execute_buildShelf_of_isA (faithful : stores.AreFaithful view) {world : σ}
    (vacant : view world = .empty) (history : List Query) {step : BuildShelf}
    {inst : SchemaInstance} {bound : Schema} {key : String} (given : step.data = some inst)
    (made : inst.IsMade) (built : bound.IsBuilt) :
    let before := runAll stores (.empty, world) history
    let after := (execute (.single (.buildShelf step))).runOn stores before.1 before.2
    before.1.boundSchema? step.path = some bound → inst.schema.isA bound = true →
      before.1.nodes.resolveTarget step.path step.name = .ok key →
        match inst.unknownField? bound with
        | some field =>
          after.1 = .error (.validation (.schemaViolation bound.name (.unknownField field))) ∧
            after.2.1 = before.1 ∧ view after.2.2 = view before.2
        | none =>
          after.1 = .ok (.built key .shelf) ∧ after.2.1.nodes.get? key = some (.ofShelf key) ∧
            Table.get? (view after.2.2).shelves (Location.placeOf key) =
              some ⟨inst.data, step.metadata⟩ := by
  intro before after binds isA found
  have mirrors : before.1.Mirrors (view before.2) :=
    Mirrors.runAll faithful (vacant ▸ mirrors_empty) history
  have ends := attains_execute_single mirrors (.buildShelf step)
  obtain ⟨result, library, held⟩ := Action.runOn_of_follow faithful rfl ends
  have reached := (attains_buildShelf_of_isA mirrors given made built binds isA found).runOn
  rw [show buildShelf step = perform (.buildShelf step) from rfl,
    ← runOn_execute_single mirrors, ← result, ← library, ← held] at reached
  exact reached

/-- What is known of animals. -/
private def animal : Schema := .mk "Animal" [.mk "name" .text true] []

/-- A dog is an animal of some breed, which need not be known. -/
private def dog : Schema := .mk "Dog" [.mk "name" .text true, .mk "breed" .text false] ["Animal"]

/-- A library with a section for animals. -/
private def zoo : Library × MemoryStores :=
  runAll MemoryStores.answer (.empty, .empty)
    [.single (.buildSection ⟨none, "zoo", some animal, none⟩)]

private theorem resolveTarget_zoo :
    zoo.1.nodes.resolveTarget (some "zoo") "rex" = .ok "zoo.rex" := by
  have found : (zoo.1.nodes.resolveTarget (some "zoo") "rex").toOption = some "zoo.rex" := by
    decide +kernel
  cases target : zoo.1.nodes.resolveTarget (some "zoo") "rex" with
  | ok key =>
      rw [target] at found
      exact congrArg Except.ok (Option.some.inj found)
  | error e =>
      rw [target] at found
      cases found

/-- There is a place in it for a dog of an unknown breed. -/
theorem execute_buildShelf_of_isA_stray :
    let rex : SchemaInstance := ⟨dog, [("name", .text "rex")]⟩
    let step : BuildShelf := ⟨some "zoo", "rex", some rex, none⟩
    let after := (execute (.single (.buildShelf step))).runOn MemoryStores.answer zoo.1 zoo.2
    Stores.AreFaithful MemoryStores.answer id ∧ rex.IsMade ∧ animal.IsBuilt ∧
      zoo.1.boundSchema? (some "zoo") = some animal ∧ dog.isA animal = true ∧
        zoo.1.nodes.resolveTarget (some "zoo") "rex" = .ok "zoo.rex" ∧
          rex.unknownField? animal = none ∧ after.1 = .ok (.built "zoo.rex" .shelf) := by
  intro rex step after
  have faithful := Stores.areFaithful_memory
  have vacant : id MemoryStores.empty = MemoryStores.empty := rfl
  have built : animal.IsBuilt := ⟨by rfl, trivial, trivial⟩
  have made : rex.IsMade := ⟨⟨by rfl, trivial, trivial, trivial⟩, [("name", .text "rex")], by rfl⟩
  have binds : zoo.1.boundSchema? (some "zoo") = some animal := by rfl
  have isA : dog.isA animal = true := by decide +kernel
  have known : rex.unknownField? animal = none := by decide +kernel
  have ended := execute_buildShelf_of_isA faithful vacant
    [.single (.buildSection ⟨none, "zoo", some animal, none⟩)] (show step.data = some rex from rfl)
    made built binds isA resolveTarget_zoo
  rw [known] at ended
  exact ⟨faithful, made, built, binds, isA, resolveTarget_zoo, known, ended.1⟩

/-- There is none for a dog of a known breed, although a dog counts as an animal. -/
theorem execute_buildShelf_pug :
    let record : Record := [("breed", .text "pug"), ("name", .text "rex")]
    let step : BuildShelf := ⟨some "zoo", "rex", some ⟨dog, record⟩, none⟩
    let after := (execute (.single (.buildShelf step))).runOn MemoryStores.answer zoo.1 zoo.2
    ((animal.extend "Dog").declare "breed" .text false).build = .ok dog ∧
      SchemaInstance.make dog record = .ok ⟨dog, record⟩ ∧
        zoo.1.boundSchema? (some "zoo") = some animal ∧ dog.isA animal = true ∧
          zoo.1.nodes.resolveTarget (some "zoo") "rex" = .ok "zoo.rex" ∧
            after.1 = .error (.validation (.schemaViolation "Animal" (.unknownField "breed"))) := by
  intro record step after
  have built : animal.IsBuilt := ⟨by rfl, trivial, trivial⟩
  have normal : SchemaInstance.make dog record = .ok ⟨dog, record⟩ := by rfl
  have made : SchemaInstance.IsMade ⟨dog, record⟩ :=
    ⟨⟨by rfl, trivial, trivial, trivial⟩, record, normal⟩
  have binds : zoo.1.boundSchema? (some "zoo") = some animal := by rfl
  have isA : dog.isA animal = true := by decide +kernel
  have mirrors : zoo.1.Mirrors zoo.2 := Mirrors.runAll Stores.areFaithful_memory mirrors_empty _
  have ended := (attains_buildShelf_of_isA mirrors
    (show step.data = some ⟨dog, record⟩ from rfl) made built binds isA resolveTarget_zoo).runOn
  have unknown : SchemaInstance.unknownField? ⟨dog, record⟩ animal = some "breed" := by
    decide +kernel
  rw [unknown] at ended
  refine ⟨by rfl, normal, binds, isA, resolveTarget_zoo, ?_⟩
  rw [show after = (perform (.buildShelf step)).runOn MemoryStores.answer zoo.1 zoo.2 from
    runOn_execute_single mirrors (.buildShelf step)]
  exact ended.1

end Library

end ShelfLibrary
