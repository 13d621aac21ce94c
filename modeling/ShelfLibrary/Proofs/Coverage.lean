import ShelfLibrary.Proofs.Sparing
import ShelfLibrary.Proofs.Writing

/-!
# What queries leave alone

The paths that a query declares cover every shelf that it may change or unregister; all others stay
as they are, with their contents.  What was said about a shelf when it was built is said about it
for as long as it is registered: only a batch that removes a shelf and builds it again may say
something else.
-/

namespace ShelfLibrary

open Session

variable {σ α : Type} {stores : Stores σ} {view : σ → MemoryStores} {library current : Library}
  {held now last : MemoryStores} {key : String} {entry : Entry}

/-! ## Paths that cover a shelf -/

/-- A path that a query declares lies around the key of a shelf, or in it. -/
def Query.Covers (query : Query) (key : String) : Prop :=
  ∃ path ∈ query.touchedPaths, Path.isWithin key path = true ∨ Path.isWithin path key = true

theorem Query.covers_iff {query : Query} :
    query.Covers key ↔ Snapshot.isAffected query.touchedPaths key = true := by
  simp [Covers, Snapshot.isAffected]

/-! ## States that a query leads through -/

/-- The states after each of some operations that come one after another, as long as they
succeed. -/
def Operation.stages (stores : Stores σ) : List Operation → Library → σ → List (Library × σ)
  | [], _, _ => []
  | operation :: rest, library, world =>
    match (Library.perform operation).runOn stores library world with
    | (.ok _, library, world) => (library, world) :: stages stores rest library world
    | (.error _, _, _) => []

/-- The states after each operation of a query, as long as they succeed. -/
def Query.stages (stores : Stores σ) (library : Library) (world : σ) :
    Query → List (Library × σ)
  | .single operation => Operation.stages stores [operation] library world
  | .transaction operations =>
    let saving := Snapshot.capture (operations.flatMap Operation.touchedPaths)
    match saving.runOn stores library world with
    | (.ok _, library, world) => Operation.stages stores operations library world
    | (.error _, _, _) => []

/-- The operations of a query. -/
def Query.operations : Query → List Operation
  | .single operation => [operation]
  | .transaction operations => operations

theorem Query.touchedPaths_eq (query : Query) :
    query.touchedPaths = query.operations.flatMap Operation.touchedPaths := by
  cases query with
  | single operation => exact (List.append_nil _).symm
  | transaction operations => rfl

namespace Library

/-- The states that operations lead through over faithful stores are those in memory. -/
theorem stages_memory (faithful : stores.AreFaithful view) {world : σ}
    (mirrors : library.Mirrors (view world)) (operations : List Operation) :
    Operation.stages MemoryStores.answer operations library (view world) =
      (Operation.stages stores operations library world).map (Prod.map id view) := by
  induction operations generalizing library world with
  | nil => rfl
  | cons operation rest ih =>
      obtain ⟨result, after, last, ran, same, still⟩ :=
        exists_performed faithful mirrors operation
      rw [Operation.stages, Operation.stages, ran, same]
      cases result with
      | ok outcome => exact congrArg _ (ih (still outcome rfl))
      | error e => rfl

/-- What a snapshot needs is read without any effect, so that the states of a transaction are those
of its operations. -/
theorem map_stages (faithful : stores.AreFaithful view) {world : σ}
    (mirrors : library.Mirrors (view world)) (query : Query) :
    (query.stages stores library world).map (Prod.map id view) =
      Operation.stages MemoryStores.answer query.operations library (view world) := by
  cases query with
  | single operation => exact (stages_memory faithful mirrors _).symm
  | transaction operations =>
      obtain ⟨snapshot, last, ran, unchanged⟩ := exists_captured faithful mirrors.shows
        (operations.flatMap Operation.touchedPaths)
      simp only [Query.stages, Query.operations, ran]
      rw [← unchanged]
      exact (stages_memory faithful (unchanged ▸ mirrors) operations).symm

end Library

/-! ## What is said about shelves -/

/-- Whether a shelf is registered under a key. -/
def Namespace.hasShelf (nodes : Namespace) (key : String) : Bool :=
  (nodes.get? key).any Entry.isShelf

theorem Namespace.hasShelf_ofTable {nodes : Table Entry} :
    (Namespace.ofTable nodes).hasShelf key = true ↔
      ∃ entry, Table.get? nodes key = some entry ∧ entry.isShelf = true :=
  Option.any_eq_true _ _

namespace MemoryStores

/-- About every shelf that is registered before and after the same is said. -/
def KeepsMetadata (before after : MemoryStores) : Prop :=
  ∀ key, (Namespace.ofTable before.nodes).hasShelf key = true →
    (Namespace.ofTable after.nodes).hasShelf key = true →
      (after.storedAt key).metadata = (before.storedAt key).metadata

theorem Keeps.keepsMetadata {touched : String → Prop} (keeps : held.Keeps touched now)
    (unregistered : ∀ key, touched key → (Namespace.ofTable now.nodes).hasShelf key = false) :
    held.KeepsMetadata now := by
  intro key before after
  obtain ⟨entry, found, kind⟩ := Namespace.hasShelf_ofTable.mp before
  have untouched : ¬touched key := fun touches => by simp [unregistered key touches] at after
  rw [storedAt, storedAt, (keeps key entry found kind untouched).2]

theorem storedAt_congr {other : String} (same : Location.placeOf key = Location.placeOf other) :
    held.storedAt key = held.storedAt other := by
  rw [storedAt, same, storedAt]

/-- A record is replaced beside what is said about its shelf. -/
theorem IsRewritten.keepsMetadata {records : Table Record}
    (rewritten : held.IsRewritten records now) : held.KeepsMetadata now := by
  intro key _ _
  by_cases elsewhere : ∀ other ∈ Table.keys records, Location.placeOf key ≠ Location.placeOf other
  · rw [storedAt, storedAt, rewritten.kept _ elsewhere]
  · -- Nothing is known of the keys of the records, but only what is at their places counts.
    push Not at elsewhere
    obtain ⟨other, listed, same⟩ := elsewhere
    obtain ⟨record, replaced⟩ := Option.isSome_iff_exists.mp (Table.mem_keys_iff.mp listed)
    rw [storedAt_congr same, storedAt_congr same, rewritten.storedAt_eq replaced]

theorem keepsMetadata_eraseAll (tree : IsTree held.nodes) {gone : List Namespace.Node}
    (registered : ∀ node ∈ gone, Table.get? held.nodes node.1 = some node.2)
    (catalog : Option Catalog) :
    held.KeepsMetadata
      { nodes := Table.eraseAll held.nodes (gone.map Prod.fst)
        shelves := Table.eraseAll held.shelves (Location.placesOf gone)
        catalog := catalog } := by
  have keeps : held.Keeps (fun key => key ∈ gone.map Prod.fst) _ :=
    tree.keeps_remove registered (fun node member => List.mem_map_of_mem member) catalog
  refine keeps.keepsMetadata fun key removed => Bool.eq_false_of_not_eq_true fun there => ?_
  obtain ⟨entry, found, -⟩ := Namespace.hasShelf_ofTable.mp there
  exact (Table.get?_eraseAll_eq_some.mp found).2 removed

end MemoryStores

/-! ## Operations that replace records -/

/-- Stores in memory answer as faulty ones none of whose calls fail. -/
theorem FaultyStores.follow_sound :
    MemoryStores.answer.Follow (answer MemoryStores.answer)
      (fun request world => request.IsProper world.stores) fun low high =>
        high.stores = low ∧ high.plan = (fun _ _ => none) ∧ high.drift = 0 := by
  rintro request _ ⟨held, faults, drift, calls⟩ ⟨rfl, rfl, rfl⟩ -
  exact ⟨(adjust_zero request _).symm, rfl, rfl, rfl⟩

theorem MemoryStores.IsAttempted.exists_isRewritten
    {changes : Except LibraryError (Table Record)} {result : Except LibraryError α}
    (attempted : held.IsAttempted (fun _ _ => none) changes result now) :
    ∃ records, held.IsRewritten records now := by
  cases attempted with
  | refused impossible => exact ⟨[], .refl held⟩
  | unread fault => cases fault
  | stored known sorted registered stored =>
      cases stored with
      | broken whole fault rewritten => cases fault
      | finished accepted rewritten => exact ⟨_, rewritten⟩

namespace Library

/-- Where no call fails, what attempts to replace records does nothing else. -/
theorem Attempts.keepsMetadata {changes : Except LibraryError (Table Record)} {action : Task α}
    (attempts : library.Attempts held (fun _ _ => none) changes action) :
    held.KeepsMetadata (action.runOn MemoryStores.answer library held).2.2 := by
  have ends := attempts (.sound held) rfl rfl
  obtain ⟨-, -, same, -⟩ := Action.runOn_of_follow FaultyStores.follow_sound ⟨rfl, rfl, rfl⟩ ends
  have attempted := ends.runOn
  rw [same] at attempted
  obtain ⟨records, rewritten⟩ := attempted.exists_isRewritten
  exact rewritten.keepsMetadata

/-! ## Every operation -/

theorem Settles.keepsMetadata {result : Except LibraryError α}
    (settles : library.Settles held (fun _ after => held.KeepsMetadata after) result current now) :
    held.KeepsMetadata now := by
  cases result with
  | ok value => exact settles
  | error e =>
      obtain ⟨-, -, rfl⟩ := settles
      exact fun _ _ _ => rfl

/-- What removes shelves leaves what is said about the others. -/
theorem settles_deleteNodes (mirrors : library.Mirrors held) {path : String}
    {gone : List Namespace.Node} (under : AreUnder held.nodes path gone) :
    Action.Attains (deleteNodes gone) library held
      (library.Settles held fun _ after => held.KeepsMetadata after) :=
  mirrors.attains_deleteNodes under.registered under.distinct
    (MemoryStores.keepsMetadata_eraseAll mirrors.consistent.tree under.registered held.catalog)

theorem keepsMetadata_remove (mirrors : library.Mirrors held) (step : Remove) :
    held.KeepsMetadata ((remove step).runOn MemoryStores.answer library held).2.2 := by
  have tree := mirrors.consistent.tree
  unfold remove
  split
  · rename_i filters _
    refine Settles.keepsMetadata (settles_after
      (attains_once (prepares_find mirrors.shows step.path (some filters)))
      fun selected under => ?_).runOn
    rw [forM_deleteShelf under.kind]
    exact settles_report (settles_deleteNodes mirrors under)
  · split
    · refine Settles.keepsMetadata (settles_resolving mirrors
        (Namespace.isRefusal_resolveShelf _ step.path) fun entry found => ?_).runOn
      obtain ⟨registered, kind⟩ := Namespace.of_resolveShelf found
      rw [deleteShelf_eq step.path kind]
      exact settles_report (settles_deleteNodes mirrors (areUnder_singleton registered kind))
    · split
      · refine Settles.keepsMetadata (settles_resolving mirrors
          (Namespace.isRefusal_resolveSection _ step.path) fun _ _ =>
            settles_report (attains_deleteSection mirrors step.path fun gone same => ?_)).runOn
        refine MemoryStores.keepsMetadata_eraseAll tree (fun node member => ?_) _
        rw [same, List.mem_reverse] at member
        exact Table.get?_of_mem tree.sorted (List.mem_filter.mp member).1
      · exact (attempts_editField mirrors.shows step.path Record.remove?).report.keepsMetadata

/-- No operation says something else about a shelf that stays registered. -/
theorem keepsMetadata_perform (mirrors : library.Mirrors held) (operation : Operation) :
    held.KeepsMetadata ((perform operation).runOn MemoryStores.answer library held).2.2 := by
  have settles := (settles_perform mirrors operation).runOn
  -- Where no path is declared, every shelf is left alone with all that is stored of it.
  have declaring (none : operation.touchedPaths = []) :
      held.KeepsMetadata ((perform operation).runOn MemoryStores.answer library held).2.2 := by
    refine Settles.keepsMetadata (settles.mono fun _ _ effect => ?_)
    have keeps := effect.keeps mirrors
    rw [none] at keeps
    exact keeps.keepsMetadata fun _ affected => nomatch affected
  cases operation with
  | buildSection step => exact declaring rfl
  | buildShelf step => exact declaring rfl
  | checkOut step => exact declaring rfl
  | setSchema step => exact declaring rfl
  | revise step =>
      exact ((Rewrites.revise step).attempts_perform mirrors.shows).keepsMetadata
  | reset step =>
      exact ((Rewrites.reset step).attempts_perform mirrors.shows).keepsMetadata
  | remove step => exact keepsMetadata_remove mirrors step
  | write step =>
      obtain ⟨-, ended⟩ := (attains_write mirrors.shows step).runOn
      split at ended
      · exact ended.2.keepsMetadata
      · rw [show ((perform (.write step)).runOn MemoryStores.answer library held).2.2 = held from
          ended.2]
        exact fun _ _ _ => rfl

/-! ## Operations one after another -/

/-- What operations have come to leaves alone each shelf outside the paths that they declare, and
says the same as before about each shelf that has been registered after every one of them. -/
structure Preserves (library : Library) (held : MemoryStores) (operations : List Operation)
    (after : MemoryStores) : Prop where
  /-- Shelves that no path affects stay, with their contents. -/
  keeps : held.Keeps (fun key =>
    Snapshot.isAffected (operations.flatMap Operation.touchedPaths) key = true) after
  /-- The metadata of shelves that stay registered stay. -/
  metadata_eq : ∀ key, library.nodes.hasShelf key = true →
    (∀ stage ∈ Operation.stages MemoryStores.answer operations library held,
      stage.1.nodes.hasShelf key = true) →
    (after.storedAt key).metadata = (held.storedAt key).metadata

namespace Preserves

variable {operation : Operation} {operations : List Operation}

theorem of_isRestored (restored : held.IsRestored now) :
    library.Preserves held operations now where
  keeps key entry found _ _ := by
    rw [restored.nodes_eq, restored.shelves_eq]
    exact ⟨found, rfl⟩
  metadata_eq key _ _ := by
    rw [MemoryStores.storedAt, MemoryStores.storedAt, restored.shelves_eq]

theorem refl (library : Library) (held : MemoryStores) (operations : List Operation) :
    library.Preserves held operations held :=
  of_isRestored ⟨rfl, rfl, rfl⟩

/-- An operation has its effect before the others. -/
theorem cons (mirrors : library.Mirrors held) {outcome : Outcome}
    (ran : (perform operation).runOn MemoryStores.answer library held = (.ok outcome, current, now))
    (others : current.Preserves now operations last) :
    library.Preserves held (operation :: operations) last := by
  have effect := (settles_perform mirrors operation).runOn
  have labels := keepsMetadata_perform mirrors operation
  rw [ran] at effect labels
  have still : current.Mirrors now := Effect.mirrors mirrors effect
  have kept : held.Keeps _ now := Effect.keeps mirrors effect
  constructor
  case keeps =>
    have paths : (operation :: operations).flatMap Operation.touchedPaths =
        operation.touchedPaths ++ operations.flatMap Operation.touchedPaths := List.flatMap_cons
    refine (kept.mono fun key => ?_).trans (others.keeps.mono fun key => ?_)
    · exact Snapshot.isAffected_mono fun path member => paths ▸ List.mem_append_left _ member
    · exact Snapshot.isAffected_mono fun path member => paths ▸ List.mem_append_right _ member
  case metadata_eq =>
    intro key before throughout
    rw [Operation.stages, ran, List.forall_mem_cons] at throughout
    obtain ⟨between, later⟩ := throughout
    rw [others.metadata_eq key between later]
    rw [mirrors.nodes_eq] at before
    rw [still.nodes_eq] at between
    exact labels key before between

end Preserves

theorem preserves_perform (mirrors : library.Mirrors held) (operation : Operation) :
    library.Preserves held [operation]
      ((perform operation).runOn MemoryStores.answer library held).2.2 := by
  have settles := (settles_perform mirrors operation).runOn
  rcases ran : (perform operation).runOn MemoryStores.answer library held with
    ⟨result, current, now⟩
  cases result with
  | ok outcome => exact .cons mirrors ran (.refl _ _ _)
  | error e =>
      rw [ran] at settles
      obtain ⟨-, -, rfl⟩ := settles
      exact .refl _ _ _

/-- By induction on the operations: each has its effect before the others, or fails and ends the
run. -/
theorem preserves_executeEach (mirrors : library.Mirrors held) (operations : List Operation) :
    library.Preserves held operations
      ((operations.mapM fun operation => execute (.single operation)).runOn MemoryStores.answer
        library held).2.2 := by
  induction operations generalizing library held with
  | nil => exact .refl _ _ _
  | cons operation rest ih =>
      have settles := (settles_perform mirrors operation).runOn
      rw [List.mapM_cons, Action.runOn_bind, runOn_execute_single mirrors]
      rcases ran : (perform operation).runOn MemoryStores.answer library held with
        ⟨result, current, now⟩
      rw [ran] at settles
      cases result with
      | error e =>
          obtain ⟨-, -, rfl⟩ := settles
          exact .refl _ _ _
      | ok outcome =>
          have still : current.Mirrors now := Effect.mirrors mirrors settles
          have others := ih still
          simp only [Action.runOn_bind]
          generalize (rest.mapM fun operation => execute (.single operation)).runOn
            MemoryStores.answer current now = reached at others ⊢
          obtain ⟨ended, final, last⟩ := reached
          cases ended <;> exact .cons mirrors ran others

/-- A query preserves what its operations do, and one that is undone everything. -/
theorem preserves_execute (mirrors : library.Mirrors held) (query : Query) :
    library.Preserves held query.operations
      ((execute query).runOn MemoryStores.answer library held).2.2 := by
  cases query with
  | single operation =>
      rw [runOn_execute_single mirrors]
      exact preserves_perform mirrors operation
  | transaction operations =>
      have each := preserves_executeEach mirrors operations
      have whole := (attains_execute_transaction mirrors operations).runOn
      rw [Action.runOn_bind] at whole
      rcases run : (operations.mapM fun operation => execute (.single operation)).runOn
        MemoryStores.answer library held with ⟨ended, final, last⟩
      rw [run] at each whole
      cases ended with
      | ok outcomes =>
          obtain ⟨-, -, stored, -⟩ := whole
          exact stored ▸ each
      | error e =>
          obtain ⟨-, -, -, restored⟩ := whole
          exact .of_isRestored restored

/-! ## Queries -/

/-- The paths that a query declares cover every shelf whose record it changes or which is not
registered afterwards as before; a shelf that is registered after each operation of the query keeps
its metadata; and each shelf that no declared path covers stays registered with the same entry, in
memory and in the stores, and with the same contents. -/
theorem execute_covers (faithful : stores.AreFaithful view) {world : σ}
    (mirrors : library.Mirrors (view world)) (query : Query)
    (registered : library.nodes.get? key = some entry) (kind : entry.isShelf = true) :
    let after := (execute query).runOn stores library world
    (after.2.1.nodes.get? key ≠ some entry ∨
        ((view after.2.2).storedAt key).data ≠ ((view world).storedAt key).data →
      query.Covers key) ∧
      ((∀ stage ∈ query.stages stores library world, stage.1.nodes.hasShelf key = true) →
        ((view after.2.2).storedAt key).metadata = ((view world).storedAt key).metadata) ∧
      (¬query.Covers key →
        after.2.1.nodes.get? key = some entry ∧
          Table.get? (view after.2.2).nodes key = some entry ∧
          Table.get? (view after.2.2).shelves (Location.placeOf key) =
            Table.get? (view world).shelves (Location.placeOf key)) := by
  intro after
  have ends := attains_execute_mirrors mirrors query
  have preserves := preserves_execute mirrors query
  have still := ends.runOn
  rw [runOn_memory faithful ends] at preserves still
  change library.Preserves (view world) query.operations (view after.2.2) at preserves
  change after.2.1.Mirrors (view after.2.2) at still
  have found : Table.get? (view world).nodes key = some entry := by
    rw [mirrors.nodes_eq] at registered
    exact registered
  have kept (uncovered : ¬query.Covers key) :
      Table.get? (view after.2.2).nodes key = some entry ∧
        Table.get? (view after.2.2).shelves (Location.placeOf key) =
          Table.get? (view world).shelves (Location.placeOf key) := by
    rw [Query.covers_iff, Query.touchedPaths_eq] at uncovered
    exact preserves.keeps key entry found kind uncovered
  have shown (there : Table.get? (view after.2.2).nodes key = some entry) :
      after.2.1.nodes.get? key = some entry := by
    rw [still.nodes_eq]
    exact there
  refine ⟨fun changed => ?_, fun throughout => ?_, fun uncovered => ?_⟩
  · by_contra uncovered
    obtain ⟨there, same⟩ := kept uncovered
    rcases changed with unregistered | rewritten
    · exact unregistered (shown there)
    · rw [MemoryStores.storedAt, MemoryStores.storedAt, same] at rewritten
      exact rewritten rfl
  · refine preserves.metadata_eq key ?_ fun stage member => ?_
    · rw [Namespace.hasShelf, registered]
      exact kind
    · rw [← map_stages faithful mirrors query] at member
      obtain ⟨reached, passed, rfl⟩ := List.mem_map.mp member
      exact throughout reached passed
  · obtain ⟨there, same⟩ := kept uncovered
    exact ⟨shown there, there, same⟩

/-- Three shelves, each with a note of who owns it. -/
private def ownedShelves : Library × MemoryStores :=
  runAll MemoryStores.answer (.empty, .empty) (["a", "b", "c"].map fun name =>
    .single (.buildShelf ⟨none, name, none, some [("owner", .text "x")]⟩))

/-- In one transaction a shelf is written on and keeps its note, another is removed and built again
without one, and the third is left alone. -/
theorem execute_covers_rebuilt :
    let query : Query := .transaction [.write ⟨"a", [("cost", .int 5)]⟩,
      .remove ⟨"b", none, true, false⟩, .buildShelf ⟨none, "b", none, none⟩]
    let after := (execute query).runOn MemoryStores.answer ownedShelves.1 ownedShelves.2
    Stores.AreFaithful MemoryStores.answer id ∧ ownedShelves.1.Mirrors ownedShelves.2 ∧
      (after.2.2.storedAt "a").data ≠ (ownedShelves.2.storedAt "a").data ∧ query.Covers "a" ∧
      (∀ stage ∈ query.stages MemoryStores.answer ownedShelves.1 ownedShelves.2,
        stage.1.nodes.hasShelf "a" = true) ∧
      (after.2.2.storedAt "a").metadata = (ownedShelves.2.storedAt "a").metadata ∧
      (after.2.2.storedAt "b").metadata ≠ (ownedShelves.2.storedAt "b").metadata ∧
      ¬query.Covers "c" ∧ after.2.1.nodes.get? "c" = some (.ofShelf "c") := by
  intro query after
  have faithful := Stores.areFaithful_memory
  have mirrors : ownedShelves.1.Mirrors ownedShelves.2 := Mirrors.runAll faithful mirrors_empty _
  have written : (after.2.2.storedAt "a").data = [("cost", .int 5)] := by rfl
  have blank : (ownedShelves.2.storedAt "a").data = [] := by rfl
  have changed : (after.2.2.storedAt "a").data ≠ (ownedShelves.2.storedAt "a").data := by
    rw [written, blank]
    exact List.cons_ne_nil _ _
  have throughout : ∀ stage ∈ query.stages MemoryStores.answer ownedShelves.1 ownedShelves.2,
      stage.1.nodes.hasShelf "a" = true := List.all_eq_true.mp (by rfl)
  have uncovered : ¬query.Covers "c" := by
    rw [Query.covers_iff]
    decide
  have unlabelled : (after.2.2.storedAt "b").metadata = none := by rfl
  have labelled : (ownedShelves.2.storedAt "b").metadata = some [("owner", .text "x")] := by rfl
  have first : ownedShelves.1.nodes.get? "a" = some (.ofShelf "a") := by rfl
  have third : ownedShelves.1.nodes.get? "c" = some (.ofShelf "c") := by rfl
  obtain ⟨covers, keeps, -⟩ := execute_covers faithful mirrors query first rfl
  obtain ⟨-, -, stays⟩ := execute_covers faithful mirrors query third rfl
  refine ⟨faithful, mirrors, changed, covers (.inr changed), throughout, keeps throughout, ?_,
    uncovered, (stays uncovered).1⟩
  rw [unlabelled, labelled]
  exact nofun

end Library

end ShelfLibrary
