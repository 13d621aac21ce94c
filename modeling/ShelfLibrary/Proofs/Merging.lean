import ShelfLibrary.Proofs.Prediction

/-!
# Revisions

A revision judges every shelf by what is stored before it, also a shelf whose field another one is
compared with while both of them change.  The record of each that the filter keeps is overwritten
and brought into normal form.  Since a record in normal form that is overwritten with the same
fields has the same normal form, a revision without a filter may be repeated.
-/

namespace ShelfLibrary

/-! ## Overwritten records -/

namespace Schema

variable {schema : Schema} {record normal data : Record}

/-- A normal form that is overwritten with the same fields again has itself as its normal form. -/
theorem Normalizes.overwrite (built : schema.IsBuilt)
    (normalizes : schema.Normalizes (Table.overwrite record data) normal) :
    schema.Normalizes (Table.overwrite normal data) normal := by
  have distinct := built.isDistinct
  have itself : schema.Normalizes normal normal := (normalize_eq_ok distinct).mp
    (normalize_of_normalize built ((normalize_eq_ok distinct).mpr normalizes))
  refine ⟨fun key inside => ?_, fun field member => ?_, normalizes.listed, normalizes.sorted⟩
  · rw [Table.mem_keys_iff, Table.get?_overwrite] at inside
    cases given : Table.get? (Table.ofEntries data) key with
    | some value =>
        refine normalizes.known key (Table.mem_keys_iff.mpr ?_)
        rw [Table.get?_overwrite, given]
        rfl
    | none =>
        rw [given, Option.none_or] at inside
        exact normalizes.listed key inside
  · obtain ⟨name, type, required⟩ := field
    cases given : Table.get? (Table.ofEntries data) name with
    | some value =>
        have same : Table.get? (Table.overwrite normal data) name =
            Table.get? (Table.overwrite record data) name := by
          rw [Table.get?_overwrite, Table.get?_overwrite, given, Option.some_or, Option.some_or]
        rw [FieldDescriptor.check?_congr same]
        exact normalizes.checked _ member
    | none =>
        have same : Table.get? (Table.overwrite normal data) name = Table.get? normal name := by
          rw [Table.get?_overwrite, given, Option.none_or]
        rw [FieldDescriptor.check?_congr same]
        exact itself.checked _ member

theorem validate_overwrite (built : schema.IsBuilt)
    (accepted : schema.validate (Table.overwrite record data) = .ok normal) :
    schema.validate (Table.overwrite normal data) = .ok normal := by
  rw [validate_eq_ok, normalize_eq_ok built.isDistinct] at accepted ⊢
  exact accepted.overwrite built

end Schema

namespace Library

variable {library : Library} {held : MemoryStores} {data : Record} {merged : Table Record}
  {selected : List Candidate}

/-- A merged record that is merged again stays as it is. -/
theorem conformed_overwrite (built : library.BindsBuilt) {key : String} {old record : Record}
    (made : library.conformed key (Table.overwrite old data) = .ok record) :
    library.conformed key (Table.overwrite record data) = .ok record := by
  unfold conformed at made ⊢
  split
  · rename_i schema binds
    rw [binds] at made
    rw [Result.mapError_eq_ok] at made ⊢
    exact Schema.validate_overwrite (built _ schema binds) made
  · rename_i unbound
    rw [unbound] at made
    obtain rfl := Except.ok.inj made
    rw [Table.overwrite_overwrite]

/-- Every candidate has been merged. -/
theorem exists_of_merge (made : library.merge data selected = .ok merged) {candidate : Candidate}
    (member : candidate ∈ selected) :
    ∃ record, library.conformed candidate.key (Table.overwrite candidate.record data) =
      .ok record ∧ (candidate.key, record) ∈ merged := by
  obtain ⟨entry, listed, mapped⟩ := Result.exists_mem_of_mapM made member
  obtain ⟨record, conforms, rfl⟩ := Result.map_eq_ok.mp mapped
  exact ⟨record, conforms, listed⟩

/-- Candidates can be merged if each of them can be. -/
theorem exists_merge (conforms : ∀ candidate ∈ selected, ∃ record,
    library.conformed candidate.key (Table.overwrite candidate.record data) = .ok record) :
    ∃ merged, library.merge data selected = .ok merged := by
  refine Result.exists_mapM_iff.mpr fun candidate member => ?_
  obtain ⟨record, conforms⟩ := conforms candidate member
  exact ⟨(candidate.key, record), Result.map_eq_ok.mpr ⟨record, conforms, rfl⟩⟩

end Library

/-! ## Merged shelves -/

namespace MemoryStores

variable {before after last held : MemoryStores} {records : Table Record}

theorem IsRewritten.storedAt_eq (rewritten : before.IsRewritten records after) {key : String}
    {record : Record} (replaced : Table.get? records key = some record) :
    after.storedAt key = { before.storedAt key with data := record } := by
  rw [storedAt, rewritten.replaced key record replaced]
  rfl

/-- Giving shelves the same records a second time changes nothing. -/
theorem IsRewritten.eq_of_again (first : before.IsRewritten records after)
    (again : after.IsRewritten records last) (sorted : Table.Sorted after.shelves)
    (lastSorted : Table.Sorted last.shelves) : last = after := by
  have shelves_eq : last.shelves = after.shelves := by
    refine Table.ext_of_sorted lastSorted sorted fun place => ?_
    by_cases elsewhere : ∀ key ∈ Table.keys records, place ≠ Location.placeOf key
    · exact again.kept place elsewhere
    · push Not at elsewhere
      obtain ⟨key, listed, rfl⟩ := elsewhere
      obtain ⟨record, replaced⟩ := Option.isSome_iff_exists.mp (Table.mem_keys_iff.mp listed)
      rw [again.replaced key record replaced, first.replaced key record replaced,
        first.storedAt_eq replaced]
  obtain ⟨nodes, shelves, catalog⟩ := last
  obtain rfl := again.nodes_eq
  obtain rfl := again.catalog_eq
  exact congrArg (MemoryStores.mk _ · _) shelves_eq

/-- A revision is about a shelf: it lies at or under the path, and the filter holds for it. -/
def Selects (held : MemoryStores) (step : Revise) (key : String) : Prop :=
  ∃ entry, Table.get? held.nodes key = some entry ∧ entry.isShelf = true ∧
    Path.isWithin key step.path = true ∧
      held.judge step.filters (held.candidate step.path (key, entry)) = .ok true

/-- The candidates that a revision is about. -/
def selected (held : MemoryStores) (step : Revise) : List Candidate :=
  (held.candidates step.path).filter (held.keeps step.filters)

theorem mem_selected (sorted : Table.Sorted held.nodes) {step : Revise} {candidate : Candidate} :
    candidate ∈ held.selected step ↔ ∃ entry, Table.get? held.nodes candidate.key = some entry ∧
      entry.isShelf = true ∧ Path.isWithin candidate.key step.path = true ∧
        held.judge step.filters (held.candidate step.path (candidate.key, entry)) = .ok true ∧
          candidate = held.candidate step.path (candidate.key, entry) := by
  rw [selected, List.mem_filter, mem_candidates sorted, keeps_iff]
  constructor
  · rintro ⟨⟨entry, there, kind, within, same⟩, kept⟩
    exact ⟨entry, there, kind, within, same ▸ kept, same⟩
  · rintro ⟨entry, there, kind, within, kept, same⟩
    exact ⟨⟨entry, there, kind, within, same⟩, same ▸ kept⟩

theorem nodup_selected (sorted : Table.Sorted held.nodes) (step : Revise) :
    ((held.selected step).map Candidate.key).Nodup :=
  (nodup_candidates sorted step.path).sublist (List.filter_sublist.map Candidate.key)

theorem mem_keys_selected (sorted : Table.Sorted held.nodes) {step : Revise} {key : String} :
    key ∈ (held.selected step).map Candidate.key ↔ held.Selects step key := by
  rw [List.mem_map]
  constructor
  · rintro ⟨candidate, member, rfl⟩
    obtain ⟨entry, there, kind, within, kept, -⟩ := (mem_selected sorted).mp member
    exact ⟨entry, there, kind, within, kept⟩
  · rintro ⟨entry, there, kind, within, kept⟩
    exact ⟨held.candidate step.path (key, entry),
      (mem_selected sorted).mpr ⟨entry, there, kind, within, kept, rfl⟩, rfl⟩

end MemoryStores

namespace Library

variable {library : Library} {held before after : MemoryStores} {step : Revise}
  {merged : Table Record}

/-- The records that a revision gives to shelves. -/
def revision (library : Library) (held : MemoryStores) (step : Revise) :
    Except LibraryError (Table Record) := do
  let _ ← (Namespace.ofTable held.nodes).resolve step.path
  let selected ← held.selection step.filters id (held.candidates step.path)
  library.merge step.data selected

theorem revision_eq_ok :
    library.revision held step = .ok merged ↔
      (∃ entry, (Namespace.ofTable held.nodes).resolve step.path = .ok entry) ∧
        (∀ candidate ∈ held.candidates step.path,
          ∃ verdict, held.judge step.filters candidate = .ok verdict) ∧
          library.merge step.data (held.selected step) = .ok merged := by
  simp only [revision, Result.bind_eq_ok, MemoryStores.selection_eq_ok]
  constructor
  · rintro ⟨entry, resolved, selected, ⟨judged, rfl⟩, made⟩
    exact ⟨⟨entry, resolved⟩, judged, made⟩
  · rintro ⟨⟨entry, resolved⟩, judged, made⟩
    exact ⟨entry, resolved, _, ⟨judged, rfl⟩, made⟩

/-- A revision stores its records together, or changes nothing. -/
theorem attains_revision (shows : library.Shows held) (step : Revise) :
    Action.Attains (revise step) library held fun ended library' held' => library' = library ∧
      match library.revision held step with
      | .ok merged => ended = .ok (.revised merged.length) ∧ held.IsRewritten merged held'
      | .error e => ended = .error e ∧ held' = held := by
  have finds := finds_find shows step.path step.filters
  have whole : library.revision held step = ((Namespace.ofTable held.nodes).resolve step.path >>=
      fun _ => held.selection step.filters id (held.candidates step.path)) >>=
        library.merge step.data := (bind_assoc _ _ _).symm
  rw [whole]
  generalize ((Namespace.ofTable held.nodes).resolve step.path >>= fun _ =>
    held.selection step.filters id (held.candidates step.path)) = result at finds ⊢
  have under : ∀ selected, result = .ok selected →
      AreUnder held.nodes step.path (nodesOf selected) := by
    rintro selected rfl
    exact finds.holds (prepares_find shows step.path step.filters)
  refine (attains_revise finds under shows step.data).imp fun ended library' held' follows => ?_
  cases result with
  | error e =>
      obtain ⟨ended, same, unchanged⟩ := follows
      exact ⟨same, ended, unchanged⟩
  | ok selected =>
      obtain ⟨rfl, went⟩ := follows
      refine ⟨rfl, ?_⟩
      rw [show (Except.ok selected >>= library'.merge step.data) = library'.merge step.data selected
        from rfl]
      cases made : library'.merge step.data selected with
      | error e => simpa only [made] using went
      | ok merged =>
          rw [made] at went
          have counted : merged.length = selected.length := by
            rw [← List.length_map Candidate.key, ← keys_of_merge made, Table.keys, List.length_map]
          simpa only [counted] using went

theorem merge_candidates_congr {nodes : List Namespace.Node} (data : Record) (path : String)
    (same : ∀ node ∈ nodes,
      library.conformed node.1 (Table.overwrite (after.storedAt node.1).data data) =
        library.conformed node.1 (Table.overwrite (held.storedAt node.1).data data)) :
    library.merge data (nodes.map (after.candidate path)) =
      library.merge data (nodes.map (held.candidate path)) := by
  induction nodes with
  | nil => rfl
  | cons node rest ih =>
      obtain ⟨first, others⟩ := List.forall_mem_cons.mp same
      rw [List.map_cons, List.map_cons, merge_cons, merge_cons, ih others]
      exact congrArg (· >>= _) first

/-- The record that a selected shelf gets. -/
theorem exists_of_revision (sorted : Table.Sorted held.nodes)
    (made : library.merge step.data (held.selected step) = .ok merged) {key : String}
    (selects : held.Selects step key) :
    ∃ record, library.conformed key (Table.overwrite (held.storedAt key).data step.data) =
      .ok record ∧ Table.get? merged key = some record := by
  obtain ⟨entry, there, kind, within, kept⟩ := selects
  have member : held.candidate step.path (key, entry) ∈ held.selected step :=
    (MemoryStores.mem_selected sorted).mpr ⟨entry, there, kind, within, kept, rfl⟩
  obtain ⟨record, conforms, listed⟩ := exists_of_merge made member
  have distinct : (Table.keys merged).Nodup :=
    keys_of_merge made ▸ MemoryStores.nodup_selected sorted step
  exact ⟨record, conforms, Table.get?_of_mem_of_nodup distinct listed⟩

/-- A revision can be carried out: its path leads to a node, the filter can be judged for each shelf
there, and the record of each that it keeps conforms once it is merged. -/
structure Admits (library : Library) (held : MemoryStores) (step : Revise) : Prop where
  /-- The path leads to a node. -/
  resolved : ∃ entry, (Namespace.ofTable held.nodes).resolve step.path = .ok entry
  /-- The filter can be judged for each shelf there. -/
  judged : ∀ key entry, Table.get? held.nodes key = some entry → entry.isShelf = true →
    Path.isWithin key step.path = true →
      ∃ verdict, held.judge step.filters (held.candidate step.path (key, entry)) = .ok verdict
  /-- Each merged record conforms. -/
  conforms : ∀ key, held.Selects step key →
    ∃ record, library.conformed key (Table.overwrite (held.storedAt key).data step.data) =
      .ok record

theorem exists_revision_iff (sorted : Table.Sorted held.nodes) :
    (∃ merged, library.revision held step = .ok merged) ↔ library.Admits held step := by
  simp only [revision_eq_ok]
  constructor
  · rintro ⟨merged, resolved, judged, made⟩
    refine ⟨resolved, fun key entry found kind within => judged _ ?_, fun key selects => ?_⟩
    · exact (MemoryStores.mem_candidates sorted).mpr ⟨entry, found, kind, within, rfl⟩
    · obtain ⟨record, conforms, -⟩ := exists_of_revision sorted made selects
      exact ⟨record, conforms⟩
  · rintro ⟨resolved, judged, conforms⟩
    obtain ⟨merged, made⟩ : ∃ merged, library.merge step.data (held.selected step) =
        .ok merged := by
      refine exists_merge fun candidate member => ?_
      obtain ⟨entry, found, kind, within, kept, same⟩ :=
        (MemoryStores.mem_selected sorted).mp member
      rw [show candidate.record = (held.storedAt candidate.key).data from
        congrArg Candidate.record same]
      exact conforms candidate.key ⟨entry, found, kind, within, kept⟩
    refine ⟨merged, resolved, fun candidate member => ?_, made⟩
    obtain ⟨entry, found, kind, within, same⟩ := (MemoryStores.mem_candidates sorted).mp member
    exact same ▸ judged candidate.key entry found kind within

/-- A revision without a filter comes to the same again. -/
theorem revision_again (built : library.BindsBuilt) (sorted : Table.Sorted held.nodes)
    (all : step.filters = none) (made : library.revision held step = .ok merged)
    (rewritten : held.IsRewritten merged after) : library.revision after step = .ok merged := by
  obtain ⟨resolved, -, made⟩ := revision_eq_ok.mp made
  have everything (stored : MemoryStores) :
      stored.selected step = (stored.shelvesWithin step.path).map (stored.candidate step.path) := by
    rw [MemoryStores.selected, all]
    exact List.filter_eq_self.mpr fun _ _ => rfl
  have within : after.shelvesWithin step.path = held.shelvesWithin step.path := by
    rw [MemoryStores.shelvesWithin, rewritten.nodes_eq, MemoryStores.shelvesWithin]
  refine revision_eq_ok.mpr ⟨rewritten.nodes_eq ▸ resolved, fun _ _ => ⟨true, all ▸ rfl⟩, ?_⟩
  rw [everything, within, merge_candidates_congr, ← everything, made]
  rintro ⟨key, entry⟩ member
  obtain ⟨there, kind, inside⟩ := (MemoryStores.mem_shelvesWithin sorted).mp member
  obtain ⟨record, conforms, replaced⟩ :=
    exists_of_revision sorted made ⟨entry, there, kind, inside, all ▸ rfl⟩
  rw [conforms, rewritten.storedAt_eq replaced]
  exact conformed_overwrite built conforms

/-! ## Revisions as a whole -/

/-- The fields of a revision have been merged into the records of the shelves that it is about, and
nothing else has changed. -/
structure HasMerged (library : Library) (step : Revise) (before after : MemoryStores) : Prop where
  /-- The nodes stay. -/
  nodes_eq : after.nodes = before.nodes
  /-- The catalog stays. -/
  catalog_eq : after.catalog = before.catalog
  /-- The record of a selected shelf is overwritten and conforms to the schema that binds the
  shelf; what was said about the shelf stays. -/
  merged : ∀ key, before.Selects step key → ∃ old record,
    Table.get? before.shelves (Location.placeOf key) = some old ∧
      library.conformed key (Table.overwrite old.data step.data) = .ok record ∧
        Table.get? after.shelves (Location.placeOf key) = some { old with data := record }
  /-- The other shelves keep their contents. -/
  others : ∀ key entry, Table.get? before.nodes key = some entry → entry.isShelf = true →
    ¬before.Selects step key →
      Table.get? after.shelves (Location.placeOf key) =
        Table.get? before.shelves (Location.placeOf key)
  /-- Nothing else is stored, and nothing else is lost. -/
  kept : ∀ place, (∀ key, before.Selects step key → place ≠ Location.placeOf key) →
    Table.get? after.shelves place = Table.get? before.shelves place

theorem hasMerged_of_isRewritten (mirrors : library.Mirrors before)
    (made : library.merge step.data (before.selected step) = .ok merged)
    (rewritten : before.IsRewritten merged after) : library.HasMerged step before after := by
  have sorted := mirrors.consistent.nodes_sorted
  have kept : ∀ place, (∀ key, before.Selects step key → place ≠ Location.placeOf key) →
      Table.get? after.shelves place = Table.get? before.shelves place := by
    refine fun place elsewhere => rewritten.kept place fun key member => elsewhere key ?_
    rwa [keys_of_merge made, MemoryStores.mem_keys_selected sorted] at member
  refine ⟨rewritten.nodes_eq, rewritten.catalog_eq, fun key selects => ?_,
    fun key entry found kind apart => kept _ fun other selects same => ?_, kept⟩
  · obtain ⟨record, conforms, replaced⟩ := exists_of_revision sorted made selects
    obtain ⟨entry, found, kind, -⟩ := selects
    obtain ⟨old, stored⟩ := Table.contains_iff.mp
      ((mirrors.consistent.stored _).mpr ⟨key, entry, found, kind, rfl⟩)
    have there := MemoryStores.storedAt_of_get? stored
    exact ⟨old, record, stored, there ▸ conforms, there ▸ rewritten.replaced key record replaced⟩
  · obtain ⟨otherEntry, otherFound, -⟩ := id selects
    obtain rfl := Location.placeOf_injective (mirrors.consistent.valid key entry found)
      (mirrors.consistent.valid other otherEntry otherFound) same
    exact apart selects

variable {σ : Type} {stores : Stores σ} {view : σ → MemoryStores}

/-- What a revision comes to over any stores. -/
theorem runOn_revise (faithful : stores.AreFaithful view) {world : σ}
    (mirrors : library.Mirrors (view world)) (step : Revise) :
    let after := (execute (.single (.revise step))).runOn stores library world
    after.2.1 = library ∧ library.Mirrors (view after.2.2) ∧
      match library.revision (view world) step with
      | .ok merged => after.1 = .ok (.revised merged.length) ∧
          (view world).IsRewritten merged (view after.2.2)
      | .error e => after.1 = .error e ∧ view after.2.2 = view world := by
  intro after
  have ended : Prod.map id (Prod.map id view) after =
      (revise step).runOn MemoryStores.answer library (view world) :=
    runOn_execute faithful mirrors (.revise step)
  have stays : after.2.1.Mirrors (view after.2.2) := by
    have still := (attains_execute_mirrors mirrors (.single (.revise step))).runOn
    rwa [runOn_execute_single mirrors, ← runOn_execute faithful mirrors] at still
  have attains := (attains_revision mirrors.shows step).runOn
  rw [← ended] at attains
  obtain ⟨unchanged, went⟩ := attains
  have unchanged : after.2.1 = library := unchanged
  exact ⟨unchanged, unchanged ▸ stays, went⟩

/-- A revision that can be carried out succeeds, and no other one.  It merges its fields into the
record of each shelf that its filter keeps, as all of them are stored before, and changes nothing
else; without a filter it may be repeated, and then changes nothing. -/
theorem revise_merges (faithful : stores.AreFaithful view) {world : σ}
    (mirrors : library.Mirrors (view world)) (built : library.BindsBuilt) (step : Revise) :
    let after := (execute (.single (.revise step))).runOn stores library world
    ((∃ outcome, after.1 = .ok outcome) ↔ library.Admits (view world) step) ∧
      ∀ outcome, after.1 = .ok outcome → ∃ world', after = (.ok outcome, library, world') ∧
        library.HasMerged step (view world) (view world') ∧
        (∃ keys : List String, keys.Nodup ∧
          (∀ key, key ∈ keys ↔ (view world).Selects step key) ∧ outcome = .revised keys.length) ∧
        (step.filters = none → ∃ world'',
          (execute (.single (.revise step))).runOn stores library world' =
            (.ok outcome, library, world'') ∧ view world'' = view world') := by
  have sorted := mirrors.consistent.nodes_sorted
  have ran := runOn_revise faithful mirrors step
  dsimp only at ran ⊢
  rw [← exists_revision_iff sorted]
  generalize (execute (.single (.revise step))).runOn stores library world = reached at ran ⊢
  obtain ⟨result, after, world'⟩ := reached
  obtain ⟨rfl, stays, went⟩ := ran
  cases made : after.revision (view world) step with
  | error e =>
      rw [made] at went
      obtain ⟨rfl, -⟩ := went
      exact ⟨by simp, by rintro outcome ⟨⟩⟩
  | ok merged =>
      rw [made] at went
      obtain ⟨rfl, rewritten⟩ := went
      refine ⟨iff_of_true ⟨_, rfl⟩ ⟨merged, rfl⟩, ?_⟩
      rintro outcome ⟨⟩
      obtain ⟨-, -, whole⟩ := revision_eq_ok.mp made
      refine ⟨world', rfl, hasMerged_of_isRewritten mirrors whole rewritten,
        ⟨Table.keys merged, ?_, fun key => ?_, ?_⟩, fun all => ?_⟩
      · rw [keys_of_merge whole]
        exact MemoryStores.nodup_selected sorted step
      · rw [keys_of_merge whole, MemoryStores.mem_keys_selected sorted]
      · rw [Table.keys, List.length_map]
      · have again := runOn_revise faithful stays step
        rw [revision_again built sorted all made rewritten] at again
        generalize (execute (.single (.revise step))).runOn stores after world' = reached at again ⊢
        obtain ⟨result, last, world''⟩ := reached
        obtain ⟨rfl, lastMirrors, rfl, twice⟩ := again
        exact ⟨world'', rfl, rewritten.eq_of_again twice stays.consistent.shelves_sorted
          lastMirrors.consistent.shelves_sorted⟩

/-- The cost of ink is a number with a fraction. -/
private def inked : Schema := .mk "Ink" [.mk "cost" .float true] []

/-- How a library with two pens came about, one of them under a schema. -/
private def stationery : List Query :=
  [.transaction [.buildSection ⟨none, "pens", none, none⟩,
      .buildSection ⟨some "pens", "ink", some inked, none⟩,
      .buildShelf ⟨some "pens.ink", "red", some ⟨inked, [("cost", .int 1)]⟩, none⟩],
    .single (.buildShelf ⟨some "pens", "grey", none, none⟩),
    .single (.write ⟨"pens.grey", [("cost", .int 1)]⟩)]

/-- Both pens become dearer, since the grey one costs no less than the red one has cost before.
Where there is no filter, they may become so again. -/
theorem revise_merges_pens :
    let reached := runAll MemoryStores.answer (.empty, .empty) stationery
    let dearer : Filters :=
      .single ⟨.text "cost", .greaterThanOrEqual, .text "pens.ink.red.cost", true, true⟩
    let step (filters : Option Filters) : Revise := ⟨"pens", filters, [("cost", .int 5)]⟩
    let run (filters : Option Filters) (world : MemoryStores) :=
      (execute (.single (.revise (step filters)))).runOn MemoryStores.answer reached.1 world
    Stores.AreFaithful MemoryStores.answer id ∧ reached.1.Mirrors reached.2 ∧
      reached.1.BindsBuilt ∧
      (∃ after, run (some dearer) reached.2 = (.ok (.revised 2), reached.1, after) ∧
        reached.1.HasMerged (step (some dearer)) reached.2 after) ∧
      ∃ after, run none reached.2 = (.ok (.revised 2), reached.1, after) ∧
        run none after = (.ok (.revised 2), reached.1, after) := by
  intro reached dearer step run
  have faithful := Stores.areFaithful_memory
  have mirrors : reached.1.Mirrors reached.2 :=
    Mirrors.runAll faithful mirrors_empty stationery
  have inkedBuilt : inked.IsBuilt := ⟨by rfl, trivial, trivial⟩
  have built : reached.1.BindsBuilt := by
    refine BindsBuilt.runAll faithful mirrors_empty bindsBuilt_empty ?_
    simp [stationery, Query.BindsBuilt, Operation.BindsBuilt, inkedBuilt]
  have merges (filters : Option Filters)
      (counted : (run filters reached.2).1.toOption.any fun outcome => outcome.count? = some 2) :
      ∃ after, run filters reached.2 = (.ok (.revised 2), reached.1, after) ∧
        reached.1.HasMerged (step filters) reached.2 after ∧
          (filters = none → run filters after = (.ok (.revised 2), reached.1, after)) := by
    obtain ⟨outcome, done, counted⟩ := Result.exists_of_any counted
    obtain ⟨after, ran, merged, ⟨keys, -, -, rfl⟩, again⟩ :=
      (revise_merges faithful mirrors built (step filters)).2 outcome done
    obtain two : keys.length = 2 := Option.some.inj counted
    rw [two] at ran again
    refine ⟨after, ran, merged, fun all => ?_⟩
    obtain ⟨_, ranAgain, rfl⟩ := again all
    exact ranAgain
  obtain ⟨after, ran, merged, -⟩ := merges (some dearer) (by decide +kernel)
  obtain ⟨final, ranAll, -, again⟩ := merges none (by decide +kernel)
  exact ⟨faithful, mirrors, built, ⟨after, ran, merged⟩, final, ranAll, again rfl⟩

end Library

end ShelfLibrary
