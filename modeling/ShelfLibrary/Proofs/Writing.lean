import ShelfLibrary.Proofs.Prediction
import ShelfLibrary.Proofs.Resolution
import ShelfLibrary.Proofs.Validation

/-!
# Writes

A write puts new fields on a shelf.  It is refused where one of them holds a value already, so that
what the shelf has held stays, as the schema that is bound by then reads it.
-/

namespace ShelfLibrary.Library

variable {library : Library} {held before after : MemoryStores} {record data : Record}
  {shelf path name : String} {value : Value}

/-! ## Fields that hold a value -/

/-- Whether a field of a record holds a value other than null. -/
def Holds (record : Record) (name : String) : Prop :=
  ∃ value, Table.get? record name = some value ∧ value ≠ .null

theorem any_not_isNull_iff :
    ((Table.get? record name).any fun old => !old.isNull) = true ↔ Holds record name := by
  rw [Option.any_eq_true]
  refine exists_congr fun value => and_congr_right fun _ => ?_
  cases value <;> simp [Value.isNull]

theorem holds_insert_of_ne {other : String} (different : other ≠ name) :
    Holds (Table.insert record other value) name ↔ Holds record name := by
  rw [Holds, Table.get?_insert_of_ne record value different, Holds]

/-- New fields are added to a record together, or the first of them that holds a value is named. -/
theorem addFields_cases (path : String) (record : Record) (sorted : Table.Sorted data) :
    ((∀ name ∈ Table.keys data, ¬Holds record name) ∧
        addFields path record data = .ok (Table.overwrite record data)) ∨
      ∃ name ∈ Table.keys data, Holds record name ∧
        (∀ other ∈ Table.keys data, Holds record other → name ≤ other) ∧
          addFields path record data =
            .error (.resolution (.alreadyHasData (path ++ "." ++ name))) := by
  induction data generalizing record with
  | nil => exact .inl ⟨by simp [Table.keys], rfl⟩
  | cons field rest ih =>
      obtain ⟨first, value⟩ := field
      obtain ⟨above, others⟩ := Table.sorted_cons.mp sorted
      have later : ∀ name ∈ Table.keys rest, first < name := by
        intro name listed
        obtain ⟨entry, member, rfl⟩ := List.mem_map.mp listed
        exact above entry member
      have unchanged (name : String) (listed : name ∈ Table.keys rest) :
          Holds (Table.insert record first value) name ↔ Holds record name :=
        holds_insert_of_ne (later name listed).ne
      unfold addFields
      by_cases conflict : Holds record first
      · rw [if_pos (any_not_isNull_iff.mpr conflict)]
        refine .inr ⟨first, List.mem_cons_self, conflict, fun other listed _ => ?_, rfl⟩
        rcases List.mem_cons.mp listed with rfl | listed
        · exact le_refl other
        · exact (later other listed).le
      · rw [if_neg (mt any_not_isNull_iff.mp conflict)]
        rcases ih (Table.insert record first value) others with ⟨free, added⟩ |
          ⟨name, listed, holds, least, refused⟩
        · refine .inl ⟨fun name listed => ?_, added⟩
          rcases List.mem_cons.mp listed with rfl | listed
          · exact conflict
          · exact mt (unchanged name listed).mpr (free name listed)
        · refine .inr ⟨name, List.mem_cons_of_mem first listed, (unchanged name listed).mp holds,
            fun other listed there => ?_, refused⟩
          rcases List.mem_cons.mp listed with rfl | listed
          · exact absurd there conflict
          · exact least other listed ((unchanged other listed).mpr there)

/-! ## Values in normal form -/

/-- What a field of a shelf is to hold for a value under the schema that binds the shelf; without a
schema, the value itself. -/
def NormalForm (library : Library) (shelf name : String) (value normal : Value) : Prop :=
  match library.boundSchema? (Path.parent? shelf) with
  | none => normal = value
  | some schema => ∃ field ∈ schema.fields, field.name = name ∧
      field.check? [(name, value)] = .ok (some normal)

/-- What a write has made of a record: old fields that hold a value keep it up to its normal form,
and the new ones hold what is given in normal form. -/
structure Extends (library : Library) (shelf : String) (data old new : Record) : Prop where
  /-- The fields are the old ones and those that are given. -/
  keys_iff : ∀ name, name ∈ Table.keys new ↔ name ∈ Table.keys old ∨ name ∈ Table.keys data
  /-- A value that is there stays, in normal form. -/
  kept : ∀ name value, Table.get? old name = some value → value ≠ .null →
    ∃ normal, library.NormalForm shelf name value normal ∧ Table.get? new name = some normal
  /-- A value that is there stays as it is where no schema is bound. -/
  kept_unbound : library.boundSchema? (Path.parent? shelf) = none →
    ∀ name value, Table.get? old name = some value → value ≠ .null →
      Table.get? new name = some value
  /-- A value that is there stays as it is in a record that has been in normal form. -/
  kept_normal : ∀ schema, library.boundSchema? (Path.parent? shelf) = some schema →
    schema.validate old = .ok old → ∀ name value, Table.get? old name = some value →
      value ≠ .null → Table.get? new name = some value
  /-- What is given is there, in normal form. -/
  given : ∀ name value, Table.get? data name = some value →
    ∃ normal, library.NormalForm shelf name value normal ∧ Table.get? new name = some normal

/-- A field looks at what a record holds under its name only. -/
theorem check?_eq_of_get?_eq {field : FieldDescriptor} {other : Record}
    (same : Table.get? record field.name = Table.get? other field.name) :
    field.check? record = field.check? other := by
  obtain ⟨name, type, required⟩ := field
  exact FieldDescriptor.check?_congr same

section Conformed

variable {normal : Record} (built : library.BindsBuilt)
  (conforms : library.conformed shelf record = .ok normal)

include conforms in
/-- Without a schema, a record conforms as it is. -/
theorem eq_of_conformed (unbound : library.boundSchema? (Path.parent? shelf) = none) :
    normal = record := by
  unfold conformed at conforms
  rw [unbound] at conforms
  exact (Except.ok.inj conforms).symm

include built conforms

theorem normalizes_of_conformed {schema : Schema}
    (binds : library.boundSchema? (Path.parent? shelf) = some schema) :
    schema.Normalizes record normal := by
  unfold conformed at conforms
  rw [binds] at conforms
  exact (Schema.normalize_eq_ok (built _ schema binds).isDistinct).mp
    (Schema.validate_eq_ok.mp (Result.mapError_eq_ok.mp conforms))

theorem mem_keys_of_conformed : name ∈ Table.keys normal ↔ name ∈ Table.keys record := by
  cases binds : library.boundSchema? (Path.parent? shelf) with
  | none => rw [eq_of_conformed conforms binds]
  | some schema => exact (normalizes_of_conformed built conforms binds).mem_keys_iff name

/-- A conforming record holds in normal form what it has been made of. -/
theorem exists_normalForm (found : Table.get? record name = some value) :
    ∃ result, library.NormalForm shelf name value result ∧
      Table.get? normal name = some result := by
  unfold NormalForm
  cases binds : library.boundSchema? (Path.parent? shelf) with
  | none => exact ⟨value, rfl, eq_of_conformed conforms binds ▸ found⟩
  | some schema =>
      have normalizes := normalizes_of_conformed built conforms binds
      have listed : name ∈ Table.keys record :=
        Table.mem_keys_iff.mpr (Option.isSome_iff_exists.mpr ⟨value, found⟩)
      obtain ⟨result, there⟩ := Option.isSome_iff_exists.mp
        (Table.mem_keys_iff.mp ((normalizes.mem_keys_iff name).mpr listed))
      obtain ⟨field, member, rfl⟩ := List.mem_map.mp
        (Schema.field?_isSome_iff.mp (normalizes.known name listed))
      have alone : Table.get? [(field.name, value)] field.name = Table.get? record field.name :=
        (if_pos rfl).trans found.symm
      refine ⟨result, ⟨field, member, rfl, ?_⟩, there⟩
      rw [check?_eq_of_get?_eq alone, normalizes.checked field member, there]

end Conformed

/-- A record with new fields that conforms extends the old one. -/
theorem extends_of_conformed (built : library.BindsBuilt) {normal : Record}
    (distinct : (Table.keys data).Nodup) (free : ∀ name ∈ Table.keys data, ¬Holds record name)
    (conforms : library.conformed shelf (Table.overwrite record data) = .ok normal) :
    library.Extends shelf data record normal := by
  have widened (name : String) : Table.get? (Table.overwrite record data) name =
      (Table.get? data name).or (Table.get? record name) :=
    Table.get?_overwrite_of_nodup distinct record name
  have untouched {name : String} {value : Value} (found : Table.get? record name = some value)
      (solid : value ≠ .null) : Table.get? (Table.overwrite record data) name = some value := by
    have absent : Table.get? data name = none := by
      by_contra present
      exact free name (Table.mem_keys_iff.mpr (Option.isSome_iff_ne_none.mpr present))
        ⟨value, found, solid⟩
    rw [widened, absent, found, Option.none_or]
  constructor
  case keys_iff =>
    intro name
    rw [mem_keys_of_conformed built conforms]
    simp only [Table.mem_keys_iff, widened, Option.isSome_or, Bool.or_eq_true]
    exact or_comm
  case kept =>
    intro name value found solid
    exact exists_normalForm built conforms (untouched found solid)
  case kept_unbound =>
    intro unbound name value found solid
    rw [eq_of_conformed conforms unbound]
    exact untouched found solid
  case kept_normal =>
    intro schema binds already name value found solid
    have itself : schema.Normalizes record record :=
      (Schema.normalize_eq_ok (built _ schema binds).isDistinct).mp
        (Schema.validate_eq_ok.mp already)
    have listed : name ∈ Table.keys record :=
      Table.mem_keys_iff.mpr (Option.isSome_iff_exists.mpr ⟨value, found⟩)
    obtain ⟨field, member, rfl⟩ := List.mem_map.mp
      (Schema.field?_isSome_iff.mp (itself.known name listed))
    have checked := (normalizes_of_conformed built conforms binds).checked field member
    rw [check?_eq_of_get?_eq ((untouched found solid).trans found.symm),
      itself.checked field member] at checked
    exact (Except.ok.inj checked).symm.trans found
  case given =>
    intro name value found
    refine exists_normalForm built conforms ?_
    rw [widened, found, Option.some_or]

/-! ## Writes as a whole -/

/-- The shelf that a write is for, with the record that it gives to the shelf. -/
def written (library : Library) (held : MemoryStores) (step : Write) :
    Except LibraryError (Entry × Record) := do
  let entry ← (Namespace.ofTable held.nodes).resolveShelf step.path
  let widened ← addFields step.path (held.storedAt step.path).data step.data
  let normal ← library.conformed step.path widened
  return (entry, normal)

/-- What a write does before it changes the session. -/
def prepare (step : Write) : Session.Task (Entry × Record) := do
  let entry ← resolving fun nodes => nodes.resolveShelf step.path
  let record ← Session.record step.path entry
  let widened ← (Action.ofExcept (addFields step.path record step.data) : Task Record)
  let normal ← conform step.path widened
  return (entry, normal)

theorem write_eq (step : Write) :
    write step = Session.once (prepare step >>= fun (entry, normal) => do
      Session.replace step.path entry normal
      Session.commit
      return .written step.path step.data.length) := by
  simp only [write, prepare, bind_assoc, pure_bind]

theorem finds_prepare (shows : library.Shows held) (step : Write) :
    Session.Finds library held (prepare step) (library.written held step) := by
  have resolves : Session.Finds library held
      (liftM (resolving fun nodes => nodes.resolveShelf step.path))
      ((Namespace.ofTable held.nodes).resolveShelf step.path) := by
    refine .lift ?_
    rw [← shows.nodes_eq]
    exact ⟨rfl, rfl, rfl⟩
  refine resolves.bind fun entry resolved => ?_
  obtain ⟨found, kind⟩ := Namespace.of_resolveShelf resolved
  refine (Session.Finds.record shows found kind).bind_ok ?_
  refine Session.Finds.bind (.lift (Action.ends_ofExcept.mpr ⟨rfl, rfl, rfl⟩)) fun widened _ => ?_
  exact (Session.Finds.lift (attains_conformed step.path widened)).bind fun normal _ => .pure _

theorem written_eq_ok (tree : IsTree held.nodes) {step : Write} (sorted : Table.Sorted step.data)
    {entry : Entry} :
    library.written held step = .ok (entry, record) ↔
      (Table.get? held.nodes step.path = some entry ∧ entry.isShelf = true) ∧
        (∀ name ∈ Table.keys step.data, ¬Holds (held.storedAt step.path).data name) ∧
          library.conformed step.path (Table.overwrite (held.storedAt step.path).data step.data) =
            .ok record := by
  simp only [written, Result.bind_eq_ok, tree.resolveShelf_eq_ok]
  rcases addFields_cases step.path (held.storedAt step.path).data sorted with ⟨free, added⟩ |
    ⟨name, listed, holds, -, refused⟩
  · simp only [added]
    constructor
    · rintro ⟨met, found, widened, same, normal, conforms, whole⟩
      obtain rfl := Except.ok.inj same
      obtain ⟨rfl, rfl⟩ := Prod.mk.inj (Except.ok.inj whole)
      exact ⟨found, free, conforms⟩
    · rintro ⟨found, -, conforms⟩
      exact ⟨entry, found, _, rfl, record, conforms, rfl⟩
  · simp only [refused]
    constructor
    · rintro ⟨met, found, widened, same, -⟩
      cases same
    · rintro ⟨-, free, -⟩
      exact absurd holds (free name listed)

/-- Where some of the fields hold a value already, the first of them is named. -/
theorem written_of_holds (tree : IsTree held.nodes) {step : Write}
    (sorted : Table.Sorted step.data) {entry : Entry}
    (found : Table.get? held.nodes step.path = some entry) (kind : entry.isShelf = true)
    (taken : ∃ name ∈ Table.keys step.data, Holds (held.storedAt step.path).data name) :
    ∃ name ∈ Table.keys step.data, Holds (held.storedAt step.path).data name ∧
      (∀ other ∈ Table.keys step.data, Holds (held.storedAt step.path).data other →
        name ≤ other) ∧
        library.written held step =
          .error (.resolution (.alreadyHasData (step.path ++ "." ++ name))) := by
  rcases addFields_cases step.path (held.storedAt step.path).data sorted with ⟨free, -⟩ |
    ⟨name, listed, holds, least, refused⟩
  · obtain ⟨name, listed, holds⟩ := taken
    exact absurd holds (free name listed)
  · refine ⟨name, listed, holds, least, ?_⟩
    rw [written, tree.resolveShelf_eq_ok.mpr ⟨found, kind⟩, refused]
    rfl

/-- A write stores its record, or changes nothing. -/
theorem attains_write (shows : library.Shows held) (step : Write) :
    Action.Attains (write step) library held fun ended library' held' => library' = library ∧
      match library.written held step with
      | .ok (_, record) => ended = .ok (.written step.path step.data.length) ∧
          held.IsRewritten [(step.path, record)] held'
      | .error e => ended = .error e ∧ held' = held := by
  rw [write_eq]
  refine (finds_prepare shows step).once_bind (fun prepared session made caches => ?_) ?_
  · obtain ⟨entry, normal⟩ := prepared
    obtain ⟨met, resolved, made'⟩ := Result.bind_eq_ok.mp made
    obtain ⟨widened, -, made'⟩ := Result.bind_eq_ok.mp made'
    obtain ⟨result, -, same⟩ := Result.bind_eq_ok.mp made'
    obtain ⟨rfl, rfl⟩ := Prod.mk.inj (Except.ok.inj same)
    obtain ⟨found, kind⟩ := Namespace.of_resolveShelf resolved
    refine Action.ends_bind.mpr ((caches.attains_replace shows found kind result).imp ?_)
    rintro _ _ _ ⟨rfl, rfl, session', rfl, caches⟩
    refine Action.ends_bind.mpr ((caches.attains_commit shows).imp ?_)
    rintro _ _ held' ⟨rfl, rfl, rewritten⟩
    rw [made]
    exact ⟨rfl, rfl, rewritten⟩
  · intro e refused
    rw [refused]
    exact ⟨rfl, rfl, rfl⟩

/-- A write can be carried out: its path is that of a shelf, none of its fields holds a value there
already, and the record conforms with them. -/
structure Permits (library : Library) (held : MemoryStores) (step : Write) : Prop where
  /-- The path is that of a shelf. -/
  shelf : ∃ entry, Table.get? held.nodes step.path = some entry ∧ entry.isShelf = true
  /-- No field holds a value already. -/
  free : ∀ name ∈ Table.keys step.data, ¬Holds (held.storedAt step.path).data name
  /-- The record with the new fields conforms. -/
  conforms : ∃ record, library.conformed step.path
    (Table.overwrite (held.storedAt step.path).data step.data) = .ok record

/-- Fields have been put on a shelf, and nothing else has changed. -/
structure HasWritten (library : Library) (step : Write) (before after : MemoryStores) : Prop where
  /-- The nodes stay. -/
  nodes_eq : after.nodes = before.nodes
  /-- The catalog stays. -/
  catalog_eq : after.catalog = before.catalog
  /-- The path is that of a shelf. -/
  shelf : ∃ entry, Table.get? before.nodes step.path = some entry ∧ entry.isShelf = true
  /-- The record of the shelf has been extended; what was said about the shelf stays. -/
  extended : ∃ old new, Table.get? before.shelves (Location.placeOf step.path) = some old ∧
    Table.get? after.shelves (Location.placeOf step.path) = some { old with data := new } ∧
      library.Extends step.path step.data old.data new
  /-- All other contents stay. -/
  kept : ∀ place, place ≠ Location.placeOf step.path →
    Table.get? after.shelves place = Table.get? before.shelves place

theorem hasWritten_of_isRewritten (mirrors : library.Mirrors before) (built : library.BindsBuilt)
    {step : Write} (sorted : Table.Sorted step.data) {entry : Entry}
    (made : library.written before step = .ok (entry, record))
    (rewritten : before.IsRewritten [(step.path, record)] after) :
    library.HasWritten step before after := by
  obtain ⟨⟨found, kind⟩, free, conforms⟩ := (written_eq_ok mirrors.consistent.tree sorted).mp made
  obtain ⟨old, stored⟩ := Table.contains_iff.mp
    ((mirrors.consistent.stored _).mpr ⟨step.path, entry, found, kind, rfl⟩)
  have there := MemoryStores.storedAt_of_get? stored
  rw [there] at free conforms
  have replaced := rewritten.replaced step.path record (if_pos rfl)
  rw [there] at replaced
  refine ⟨rewritten.nodes_eq, rewritten.catalog_eq, ⟨entry, found, kind⟩,
    ⟨old, record, stored, replaced, ?_⟩, fun place elsewhere => ?_⟩
  · exact extends_of_conformed built (Table.nodup_keys sorted) free conforms
  · refine rewritten.kept place fun key listed => ?_
    obtain rfl : key = step.path := List.mem_singleton.mp listed
    exact elsewhere

variable {σ : Type} {stores : Stores σ} {view : σ → MemoryStores}

/-- What a write comes to over any stores. -/
theorem runOn_write (faithful : stores.AreFaithful view) {world : σ}
    (mirrors : library.Mirrors (view world)) (step : Write) :
    let after := (execute (.single (.write step))).runOn stores library world
    after.2.1 = library ∧
      match library.written (view world) step with
      | .ok (_, record) => after.1 = .ok (.written step.path step.data.length) ∧
          (view world).IsRewritten [(step.path, record)] (view after.2.2)
      | .error e => after.1 = .error e ∧ view after.2.2 = view world := by
  intro after
  have ended : Prod.map id (Prod.map id view) after =
      (write step).runOn MemoryStores.answer library (view world) :=
    runOn_execute faithful mirrors (.write step)
  have attains := (attains_write mirrors.shows step).runOn
  rw [← ended] at attains
  exact attains

/-- A write only inserts.  It succeeds just for a shelf on which none of its fields holds a value
already, if the record conforms with them; then the shelf has its old fields and the new ones, each
value in normal form, and nothing else has changed.  For a shelf on which some of its fields do hold
a value, the write fails, names the first of them and changes nothing. -/
theorem write_inserts (faithful : stores.AreFaithful view) {world : σ}
    (mirrors : library.Mirrors (view world)) (built : library.BindsBuilt) (step : Write)
    (sorted : Table.Sorted step.data) :
    let after := (execute (.single (.write step))).runOn stores library world
    after.2.1 = library ∧
      ((∃ outcome, after.1 = .ok outcome) ↔ library.Permits (view world) step) ∧
      (∀ outcome, after.1 = .ok outcome → outcome = .written step.path step.data.length ∧
        library.HasWritten step (view world) (view after.2.2)) ∧
      ((∃ entry, Table.get? (view world).nodes step.path = some entry ∧ entry.isShelf = true) →
        (∃ name ∈ Table.keys step.data, Holds ((view world).storedAt step.path).data name) →
        ∃ name ∈ Table.keys step.data, Holds ((view world).storedAt step.path).data name ∧
          (∀ other ∈ Table.keys step.data, Holds ((view world).storedAt step.path).data other →
            name ≤ other) ∧
          after.1 = .error (.resolution (.alreadyHasData (step.path ++ "." ++ name))) ∧
            view after.2.2 = view world) := by
  have tree := mirrors.consistent.tree
  have ran := runOn_write faithful mirrors step
  dsimp only at ran ⊢
  generalize (execute (.single (.write step))).runOn stores library world = reached at ran ⊢
  obtain ⟨result, after, world'⟩ := reached
  obtain ⟨rfl, went⟩ := ran
  refine ⟨rfl, ?_, ?_, ?_⟩
  · constructor
    · rintro ⟨outcome, rfl⟩
      cases made : after.written (view world) step with
      | error e =>
          rw [made] at went
          cases went.1
      | ok prepared =>
          obtain ⟨found, free, conforms⟩ := (written_eq_ok tree sorted).mp made
          exact ⟨⟨_, found⟩, free, _, conforms⟩
    · rintro ⟨⟨entry, found⟩, free, record, conforms⟩
      rw [(written_eq_ok tree sorted).mpr ⟨found, free, conforms⟩] at went
      exact ⟨_, went.1⟩
  · rintro outcome rfl
    cases made : after.written (view world) step with
    | error e =>
        rw [made] at went
        cases went.1
    | ok prepared =>
        rw [made] at went
        obtain ⟨same, rewritten⟩ := went
        exact ⟨Except.ok.inj same, hasWritten_of_isRewritten mirrors built sorted made rewritten⟩
  · rintro ⟨entry, found, kind⟩ taken
    obtain ⟨name, listed, holds, least, refused⟩ := written_of_holds tree sorted found kind taken
    rw [refused] at went
    exact ⟨name, listed, holds, least, went⟩

/-- The cost of a pen is a number with a fraction. -/
private def priced : Schema := .mk "Pen" [.mk "cost" .float true, .mk "note" .text false] []

/-- How a library came about with a pen whose cost was written before there was a schema. -/
private def pricing : List Query :=
  [.single (.buildSection ⟨none, "pens", none, none⟩),
    .single (.buildShelf ⟨some "pens", "red", none, none⟩),
    .single (.write ⟨"pens.red", [("cost", .int 1)]⟩),
    .single (.setSchema ⟨some "pens", priced, false⟩)]

/-- A note is put beside the cost, which is read as the schema asks; another cost is refused. -/
theorem write_inserts_note :
    let reached := runAll MemoryStores.answer (.empty, .empty) pricing
    let note : Write := ⟨"pens.red", [("note", .text "new")]⟩
    let again : Write := ⟨"pens.red", [("cost", .int 2), ("note", .text "new")]⟩
    let run (step : Write) :=
      (execute (.single (.write step))).runOn MemoryStores.answer reached.1 reached.2
    Stores.AreFaithful MemoryStores.answer id ∧ reached.1.Mirrors reached.2 ∧
      reached.1.BindsBuilt ∧ Table.Sorted note.data ∧ Table.Sorted again.data ∧
      (∃ after, run note = (.ok (.written "pens.red" 1), reached.1, after) ∧
        reached.1.HasWritten note reached.2 after) ∧
      (run again).1 = .error (.resolution (.alreadyHasData "pens.red.cost")) := by
  intro reached note again run
  have faithful := Stores.areFaithful_memory
  have mirrors : reached.1.Mirrors reached.2 := Mirrors.runAll faithful mirrors_empty pricing
  have pricedBuilt : priced.IsBuilt := ⟨by rfl, trivial, trivial, trivial⟩
  have built : reached.1.BindsBuilt := by
    refine BindsBuilt.runAll faithful mirrors_empty bindsBuilt_empty ?_
    simp [pricing, Query.BindsBuilt, Operation.BindsBuilt, pricedBuilt]
  have noteSorted : Table.Sorted note.data := List.pairwise_singleton _ _
  have againSorted : Table.Sorted again.data := List.pairwise_pair.mpr (by decide)
  refine ⟨faithful, mirrors, built, noteSorted, againSorted, ?_, ?_⟩
  · obtain ⟨same, -, wrote, -⟩ := write_inserts faithful mirrors built note noteSorted
    have succeeds : (run note).1.isOk = true := by decide +kernel
    cases done : (run note).1 with
    | error e =>
        rw [done] at succeeds
        cases succeeds
    | ok outcome =>
        obtain ⟨rfl, written⟩ := wrote outcome done
        exact ⟨(run note).2.2, Prod.ext done (Prod.ext same rfl), written⟩
  · obtain ⟨-, -, -, refuses⟩ := write_inserts faithful mirrors built again againSorted
    have registered : Table.get? reached.2.nodes "pens.red" = some (.ofShelf "pens.red") := by
      decide +kernel
    have taken : Holds (reached.2.storedAt "pens.red").data "cost" :=
      any_not_isNull_iff.mp (by decide +kernel)
    obtain ⟨name, listed, -, least, refused, -⟩ :=
      refuses ⟨_, registered, rfl⟩ ⟨"cost", List.mem_cons_self, taken⟩
    have first : name = "cost" := by
      have before := least "cost" List.mem_cons_self taken
      rcases List.mem_cons.mp listed with rfl | listed
      · rfl
      · obtain rfl := List.mem_singleton.mp listed
        exact absurd before (by decide)
    rw [first] at refused
    exact refused

end ShelfLibrary.Library
