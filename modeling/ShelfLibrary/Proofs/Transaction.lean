import ShelfLibrary.Proofs.Operations

/-!
# Transactions

What a transaction saves before its first operation is enough to put everything back, because each
operation declares every shelf that it may change.  A transaction thus takes effect as a whole, like
its operations one after another, or not at all.
-/

namespace ShelfLibrary

open Session

variable {library current : Library} {held now : MemoryStores}

namespace Snapshot

/-- A shelf that some paths affect is affected by more of them. -/
theorem isAffected_mono {fewer more : List String} (included : ∀ path ∈ fewer, path ∈ more)
    {key : String} (affected : isAffected fewer key = true) : isAffected more key = true := by
  obtain ⟨path, member, near⟩ := List.any_eq_true.mp affected
  exact List.any_eq_true.mpr ⟨path, included path member, near⟩

/-! ## What is saved -/

/-- A snapshot keeps the nodes, the catalog and the contents of every shelf that some paths
affect. -/
structure Saves (snapshot : Snapshot) (touched : List String) (library : Library)
    (held : MemoryStores) : Prop where
  /-- The nodes are saved. -/
  nodes_eq : snapshot.nodes = held.nodes
  /-- The catalog is saved. -/
  catalog_eq : snapshot.catalog = library.catalog
  /-- Shelves are saved from where paths say. -/
  canonical : ∀ shelf ∈ snapshot.shelves, shelf.location.IsCanonical
  /-- Shelves are saved with their contents. -/
  contents_eq : ∀ shelf ∈ snapshot.shelves,
    shelf.contents = Table.get? held.shelves shelf.location.path
  /-- Every affected shelf is saved. -/
  complete : ∀ key entry, Table.get? held.nodes key = some entry → entry.isShelf = true →
    isAffected touched key = true → ∃ shelf ∈ snapshot.shelves, shelf.location = .ofKey key

theorem attains_saveShelves {nodes : List Namespace.Node}
    (canonical : ∀ node ∈ nodes, node.2.location.IsCanonical)
    {goal : Except LibraryError (List SavedShelf) → Library → MemoryStores → Prop}
    (next : goal (.ok (nodes.map fun node =>
      ⟨node.2.location, Table.get? held.shelves node.2.location.path⟩)) library held) :
    Action.Attains (saveShelves nodes) library held goal := by
  induction nodes generalizing goal with
  | nil => exact next
  | cons node rest ih =>
      refine Action.ends_bind.mpr (attains_loadShelf (canonical node List.mem_cons_self) ?_)
      refine Action.ends_bind.mpr (ih ?_ next)
      exact fun other member => canonical other (List.mem_cons_of_mem _ member)

theorem attains_capture (shows : library.Shows held) (touched : List String) :
    Action.Attains (capture touched) library held fun result after world =>
      after = library ∧ world = held ∧
        ∃ snapshot, result = .ok snapshot ∧ snapshot.Saves touched library held := by
  have sorted := shows.tree.sorted
  let affected := (held.nodes.filter fun node => node.2.isShelf).filter
    fun node => isAffected touched node.1
  have scanned : library.nodes.shelves.filter (fun node => isAffected touched node.1) =
      affected := by
    rw [shows.nodes_eq, Namespace.shelves_ofTable sorted]
  have located : ∀ node ∈ affected, node.2.location = .ofKey node.1 ∧
      node.2.location.IsCanonical := by
    intro node member
    have stored : node ∈ held.nodes := (List.mem_filter.mp (List.mem_filter.mp member).1).1
    have registered := Table.get?_of_mem sorted stored
    have valid := shows.tree.valid node.1 node.2 registered
    have same := shows.tree.located node.1 node.2 registered
    exact ⟨same, node.1, valid, same⟩
  unfold capture
  refine Action.ends_bind.mpr ?_
  simp only [Action.ends_get, scanned]
  refine Action.ends_bind.mpr (attains_saveShelves (fun node member => (located node member).2) ?_)
  refine ⟨rfl, rfl, _, rfl, ?_, rfl, ?_, ?_, ?_⟩
  · rw [shows.nodes_eq, Namespace.toTable_ofTable sorted]
  · intro shelf member
    obtain ⟨node, inside, rfl⟩ := List.mem_map.mp member
    exact (located node inside).2
  · intro shelf member
    obtain ⟨node, inside, rfl⟩ := List.mem_map.mp member
    rfl
  · intro key entry found kind there
    have stored : (key, entry) ∈ held.nodes := Table.mem_of_get? found
    have member : (key, entry) ∈ affected :=
      List.mem_filter.mpr ⟨List.mem_filter.mpr ⟨stored, kind⟩, there⟩
    exact ⟨_, List.mem_map_of_mem member, (located _ member).1⟩

/-! ## Putting everything back -/

theorem attains_deleteCreated {created : List Namespace.Node}
    (canonical : ∀ node ∈ created, node.2.location.IsCanonical)
    {goal : Except LibraryError PUnit → Library → MemoryStores → Prop}
    (next : goal (.ok ⟨⟩) library { held with
      shelves := Table.eraseAll held.shelves (created.map fun node => node.2.location.path) }) :
    Action.Attains (created.forM fun node => Action.ask (.deleteShelf node.2.location)) library held
      goal := by
  induction created generalizing held with
  | nil => exact next
  | cons node rest ih =>
      refine Action.ends_bind.mpr (attains_deleteShelf (canonical node List.mem_cons_self) ?_)
      exact ih (fun other member => canonical other (List.mem_cons_of_mem _ member)) next

theorem attains_putBack {shelf : SavedShelf} (canonical : shelf.location.IsCanonical)
    {original : Table ShelfData}
    (contents_eq : shelf.contents = Table.get? original shelf.location.path)
    {goal : Except LibraryError Unit → Library → MemoryStores → Prop}
    (next : ∀ shelves, (Table.Sorted held.shelves → Table.Sorted shelves) →
      (∀ place, Table.get? shelves place = if shelf.location.path = place
        then Table.get? original place else Table.get? held.shelves place) →
      goal (.ok ()) library { held with shelves := shelves }) :
    Action.Attains (putBack shelf) library held goal := by
  unfold putBack
  split
  · rename_i contents found
    refine attains_storeShelf canonical
      (next _ (fun sorted => Table.sorted_insert sorted _ _) fun place => ?_)
    rw [Table.get?_insert]
    split
    · rename_i same
      rw [← same, ← contents_eq, found]
    · rfl
  · rename_i absent
    refine attains_deleteShelf canonical
      (next _ (fun sorted => Table.sorted_erase sorted _) fun place => ?_)
    rw [Table.get?_erase]
    split
    · rename_i same
      rw [← same, ← contents_eq, absent]
    · rfl

/-- Putting shelves back gives their places the contents that were saved, and leaves others
alone. -/
theorem attains_forM_putBack {saved : List SavedShelf} {original : Table ShelfData}
    (canonical : ∀ shelf ∈ saved, shelf.location.IsCanonical)
    (contents_eq : ∀ shelf ∈ saved, shelf.contents = Table.get? original shelf.location.path)
    {goal : Except LibraryError PUnit → Library → MemoryStores → Prop}
    (next : ∀ shelves, (Table.Sorted held.shelves → Table.Sorted shelves) →
      (∀ place, Table.get? shelves place =
        if place ∈ saved.map fun shelf => shelf.location.path then Table.get? original place
        else Table.get? held.shelves place) →
      goal (.ok ⟨⟩) library { held with shelves := shelves }) :
    Action.Attains (saved.forM putBack) library held goal := by
  induction saved generalizing held with
  | nil => exact next held.shelves id fun place => by simp
  | cons shelf rest ih =>
      refine Action.ends_bind.mpr (attains_putBack (canonical shelf List.mem_cons_self)
        (contents_eq shelf List.mem_cons_self) fun between betweenSorted first => ?_)
      refine ih (fun other member => canonical other (List.mem_cons_of_mem shelf member))
        (fun other member => contents_eq other (List.mem_cons_of_mem shelf member)) ?_
      refine fun shelves shelvesSorted others =>
        next shelves (shelvesSorted ∘ betweenSorted) fun place => ?_
      rw [others place, first place]
      by_cases later : place ∈ rest.map fun shelf => shelf.location.path
      · simp only [List.map_cons, List.mem_cons, later, or_true, if_true]
      · by_cases same : shelf.location.path = place
        · simp only [List.map_cons, List.mem_cons, same, true_or, if_true, ite_self]
        · simp only [List.map_cons, List.mem_cons, later, same, Ne.symm same, or_false, if_false]

section Created

variable {snapshot : Snapshot} {touched : List String}

/-- The shelves that a rollback deletes. -/
def created (snapshot : Snapshot) (now : MemoryStores) : List Namespace.Node :=
  (now.nodes.filter fun node => node.2.isShelf).filter snapshot.isNew

theorem of_mem_created (tree : IsTree now.nodes) {node : Namespace.Node}
    (member : node ∈ snapshot.created now) :
    Table.get? now.nodes node.1 = some node.2 ∧ node.2.location = .ofKey node.1 ∧
      snapshot.isNew node = true := by
  obtain ⟨shelf, fresh⟩ := List.mem_filter.mp member
  have registered := Table.get?_of_mem tree.sorted (List.mem_filter.mp shelf).1
  exact ⟨registered, tree.located _ _ registered, fresh⟩

/-- A new shelf is stored where no shelf was before. -/
theorem placeOf_ne_of_isNew (saves : snapshot.Saves touched library held)
    (tree : IsTree held.nodes) (running : IsTree now.nodes) {node : Namespace.Node}
    (member : node ∈ snapshot.created now) {key : String} {entry : Entry}
    (found : Table.get? held.nodes key = some entry) (kind : entry.isShelf = true) :
    node.2.location.path ≠ Location.placeOf key := by
  obtain ⟨registered, located, fresh⟩ := of_mem_created running member
  intro same
  rw [located] at same
  obtain ⟨other, created⟩ := node
  obtain rfl : other = key := Location.placeOf_injective (running.valid _ _ registered)
    (tree.valid key entry found) same
  simp only at located
  simp [isNew, saves.nodes_eq, found, kind, located, tree.located _ _ found] at fresh

/-- A rollback puts the nodes and the catalog back, and of the shelves those that were saved. -/
theorem attains_restore_shelves (shows : library.Shows held)
    (saves : snapshot.Saves touched library held) (running : current.Shows now)
    {goal : Except LibraryError Unit → Library → MemoryStores → Prop}
    (next : ∀ shelves, (Table.Sorted now.shelves → Table.Sorted shelves) →
      (∀ place, Table.get? shelves place =
        if place ∈ snapshot.shelves.map fun shelf => shelf.location.path
        then Table.get? held.shelves place
        else Table.get? (Table.eraseAll now.shelves
          ((snapshot.created now).map fun node => node.2.location.path)) place) →
      goal (.ok ()) ⟨.ofTable held.nodes, snapshot.catalog, current.isPoisoned⟩
        ⟨held.nodes, shelves, some snapshot.catalog⟩) :
    Action.Attains snapshot.restore current now goal := by
  have scanned : current.nodes.shelves.filter snapshot.isNew = snapshot.created now := by
    rw [running.nodes_eq, Namespace.shelves_ofTable running.tree.sorted, created]
  have canonical : ∀ node ∈ snapshot.created now, node.2.location.IsCanonical :=
    fun node member => running.tree.canonical (of_mem_created running.tree member).1
  have fit : ∀ node ∈ held.nodes,
      Path.isValid node.1 = true ∧ node.2.location = .ofKey node.1 := by
    intro node member
    have registered := Table.get?_of_mem shows.tree.sorted member
    exact ⟨shows.tree.valid _ _ registered, shows.tree.located _ _ registered⟩
  unfold restore
  refine Action.ends_bind.mpr ?_
  simp only [Action.ends_get, scanned]
  refine Action.ends_bind.mpr (attains_deleteCreated canonical ?_)
  refine Action.ends_bind.mpr (attains_forM_putBack saves.canonical saves.contents_eq
    fun shelves sorted restored => ?_)
  refine Action.ends_bind.mpr (Action.ends_on.mpr ?_)
  rw [saves.nodes_eq]
  refine Namespace.attains_restore shows.tree.sorted fit ?_
  refine Action.ends_bind.mpr (Action.ends_ask.mpr ⟨trivial, ?_⟩)
  exact next shelves (fun first => sorted (Table.sorted_eraseAll first _)) restored

end Created

section Restore

variable {snapshot : Snapshot} {touched : List String} (mirrors : library.Mirrors held)
  (saves : snapshot.Saves touched library held) (running : current.Mirrors now)
  (keeps : held.Keeps (fun key => isAffected touched key = true) now)

include mirrors saves in
/-- A shelf that is not new was a shelf before. -/
theorem stored_of_not_isNew {key : String} {entry : Entry}
    (old : snapshot.isNew (key, entry) = false) :
    Table.contains held.shelves (Location.placeOf key) = true := by
  unfold isNew at old
  rw [saves.nodes_eq] at old
  split at old
  · cases old
  · rename_i before registered
    simp only [Bool.or_eq_false_iff, Bool.not_eq_false'] at old
    exact (mirrors.consistent.stored _).mpr ⟨key, before, registered, old.1, rfl⟩

include mirrors saves keeps in
/-- What was stored before and has not been saved is stored still. -/
theorem get?_of_unsaved {place : String} {contents : ShelfData}
    (unsaved : place ∉ snapshot.shelves.map fun shelf => shelf.location.path)
    (before : Table.get? held.shelves place = some contents) :
    Table.get? now.shelves place = some contents := by
  obtain ⟨key, entry, registered, kind, rfl⟩ :=
    (mirrors.consistent.stored place).mp (Table.contains_iff.mpr ⟨contents, before⟩)
  have apart : ¬isAffected touched key = true := by
    intro affected
    obtain ⟨shelf, member, same⟩ := saves.complete key entry registered kind affected
    refine unsaved (List.mem_map.mpr ⟨shelf, member, ?_⟩)
    rw [same]
    rfl
  rw [(keeps key entry registered kind apart).2, before]

include mirrors saves running in
/-- What was not stored before and is no new shelf is not stored. -/
theorem get?_of_uncreated {place : String}
    (uncreated : place ∉ (snapshot.created now).map fun node => node.2.location.path)
    (before : Table.get? held.shelves place = none) : Table.get? now.shelves place = none := by
  refine Table.contains_eq_false_iff.mp (Bool.eq_false_of_not_eq_true fun stored => ?_)
  obtain ⟨key, entry, registered, kind, rfl⟩ := (running.consistent.stored place).mp stored
  cases fresh : snapshot.isNew (key, entry) with
  | true =>
      have member : (key, entry) ∈ snapshot.created now := List.mem_filter.mpr
        ⟨List.mem_filter.mpr ⟨Table.mem_of_get? registered, kind⟩, fresh⟩
      refine uncreated (List.mem_map.mpr ⟨_, member, ?_⟩)
      rw [running.consistent.located key entry registered]
      rfl
  | false =>
      have there := stored_of_not_isNew mirrors saves fresh
      rw [Table.contains_eq_false_iff.mpr before] at there
      cases there

include mirrors saves running keeps in
/-- Once the new shelves are deleted and the saved ones put back, the contents are those before. -/
theorem shelves_eq_of_restored {shelves : Table ShelfData} (sorted : Table.Sorted shelves)
    (restored : ∀ place, Table.get? shelves place =
      if place ∈ snapshot.shelves.map fun shelf => shelf.location.path
      then Table.get? held.shelves place
      else Table.get? (Table.eraseAll now.shelves
        ((snapshot.created now).map fun node => node.2.location.path)) place) :
    shelves = held.shelves := by
  refine Table.ext_of_sorted sorted mirrors.consistent.shelves_sorted fun place => ?_
  rw [restored]
  split
  · rfl
  · rename_i unsaved
    rw [Table.get?_eraseAll]
    split
    · rename_i removed
      obtain ⟨node, member, rfl⟩ := List.mem_map.mp removed
      refine (Table.contains_eq_false_iff.mp (Bool.eq_false_of_not_eq_true fun stored => ?_)).symm
      obtain ⟨key, entry, found, kind, same⟩ := (mirrors.consistent.stored _).mp stored
      exact placeOf_ne_of_isNew saves mirrors.consistent.tree running.consistent.tree member found
        kind same
    · rename_i unremoved
      cases before : Table.get? held.shelves place with
      | some contents => exact get?_of_unsaved mirrors saves keeps unsaved before
      | none => exact get?_of_uncreated mirrors saves running unremoved before

include mirrors saves running keeps in
/-- A rollback puts everything back. -/
theorem attains_restore {goal : Except LibraryError Unit → Library → MemoryStores → Prop}
    (next : goal (.ok ()) library { held with catalog := some library.catalog }) :
    Action.Attains snapshot.restore current now goal := by
  refine attains_restore_shelves mirrors.shows saves running.shows fun shelves sorted restored => ?_
  obtain rfl := shelves_eq_of_restored mirrors saves running keeps
    (sorted running.consistent.shelves_sorted) restored
  have whole : library = ⟨.ofTable held.nodes, snapshot.catalog, current.isPoisoned⟩ := by
    rw [running.usable, ← mirrors.usable, ← mirrors.nodes_eq, saves.catalog_eq]
  rw [← whole, saves.catalog_eq]
  exact next

end Restore

end Snapshot

/-! ## Operations together -/

/-- What was there before, but for a catalog that may have been stored for the first time. -/
structure MemoryStores.IsRestored (before after : MemoryStores) : Prop where
  /-- The nodes are those before. -/
  nodes_eq : after.nodes = before.nodes
  /-- The contents of the shelves are those before. -/
  shelves_eq : after.shelves = before.shelves
  /-- The catalog reads as before. -/
  catalog_eq : after.catalog.getD .empty = before.catalog.getD .empty

namespace Library

theorem Mirrors.of_isRestored (mirrors : library.Mirrors held) (restored : held.IsRestored now) :
    library.Mirrors now where
  nodes_eq := by rw [mirrors.nodes_eq, restored.nodes_eq]
  catalog_eq := by rw [restored.catalog_eq, mirrors.catalog_eq]
  usable := mirrors.usable
  consistent := by
    rw [restored.nodes_eq, restored.shelves_eq]
    exact mirrors.consistent

/-- An end of a transaction that began with a library and its stores, beside what its operations
come to one after another: they have taken effect alike, or nothing has. -/
def IsWhole {α : Type} (library : Library) (held : MemoryStores)
    (each : Except LibraryError α × Library × MemoryStores) (result : Except LibraryError α)
    (after : Library) (world : MemoryStores) : Prop :=
  match each with
  | (.ok value, library', held') =>
    result = .ok value ∧ after = library' ∧ world = held' ∧ after.Mirrors world
  | (.error e, _, _) =>
    result = .error e ∧ e.isFatal = false ∧ after = library ∧ held.IsRestored world

theorem IsWhole.isMild {α : Type} {each : Except LibraryError α × Library × MemoryStores}
    {result : Except LibraryError α} {after : Library} {world : MemoryStores}
    (whole : library.IsWhole held each result after world) : Result.IsMild result := by
  rcases each with ⟨value | e, library', held'⟩
  · obtain ⟨rfl, mild, -⟩ := whole
    exact Result.isMild_error.mpr mild
  · obtain ⟨rfl, -⟩ := whole
    exact Result.isMild_ok _

theorem IsWhole.mirrors {α : Type} {each : Except LibraryError α × Library × MemoryStores}
    {result : Except LibraryError α} {after : Library} {world : MemoryStores}
    (whole : library.IsWhole held each result after world) (mirrors : library.Mirrors held) :
    after.Mirrors world := by
  rcases each with ⟨value | e, library', held'⟩
  · obtain ⟨-, -, rfl, restored⟩ := whole
    exact mirrors.of_isRestored restored
  · exact whole.2.2.2

/-- In a library in use, a query that ends without a fault is carried out as it stands. -/
theorem attains_execute (usable : library.isPoisoned = false) {query : Query}
    {goal : Except LibraryError Outcome → Library → MemoryStores → Prop}
    (ends : Action.Attains (answer query) library held goal)
    (mild : ∀ e library held, goal (.error e) library held → e.isFatal = false) :
    Action.Attains (execute query) library held goal := by
  unfold execute
  refine Action.ends_bind.mpr ?_
  simp only [Action.ends_get, usable, Bool.false_eq_true, if_false]
  refine Action.ends_tryCatch.mpr (ends.imp fun result after world reached => ?_)
  cases result with
  | ok outcome => exact reached
  | error e => simpa [mild e after world reached] using reached

theorem attains_execute_single (mirrors : library.Mirrors held) (operation : Operation) :
    Action.Attains (execute (.single operation)) library held fun result after world =>
      library.Settles held (Effect library held operation) result after world ∧
        (result, after, world) = (perform operation).runOn MemoryStores.answer library held :=
  attains_execute mirrors.usable (settles_perform mirrors operation).exact
    fun _ _ _ reached => reached.1.1

theorem runOn_execute_single (mirrors : library.Mirrors held) (operation : Operation) :
    (execute (.single operation)).runOn MemoryStores.answer library held =
      (perform operation).runOn MemoryStores.answer library held :=
  (attains_execute_single mirrors operation).runOn.2

/-- What is made of the result of a whole end is whole. -/
theorem attains_whole_map {α β : Type} {action other : Task α} {change : α → β} {start : Library}
    {world : MemoryStores}
    (whole : Action.Attains action current now
      (library.IsWhole held (other.runOn MemoryStores.answer start world))) :
    Action.Attains (action >>= fun value => pure (change value)) current now
      (library.IsWhole held
        ((other >>= fun value => pure (change value)).runOn MemoryStores.answer start world)) := by
  rw [Action.runOn_bind]
  refine Action.ends_bind.mpr (whole.imp fun result after last => ?_)
  rcases other.runOn MemoryStores.answer start world with ⟨ended, final, kept⟩
  cases ended with
  | ok value =>
      rintro ⟨rfl, rfl, rfl, mirrors⟩
      exact ⟨rfl, rfl, rfl, mirrors⟩
  | error e =>
      rintro ⟨rfl, mild, rfl, restored⟩
      exact ⟨rfl, mild, rfl, restored⟩

/-- The operations that are left settle the transaction, or everything before is put back. -/
theorem attains_performAll {snapshot : Snapshot} {touched : List String}
    (mirrors : library.Mirrors held) (saves : snapshot.Saves touched library held)
    {operations : List Operation}
    (declared : ∀ operation ∈ operations, ∀ path ∈ operation.touchedPaths, path ∈ touched)
    (running : current.Mirrors now)
    (keeps : held.Keeps (fun key => Snapshot.isAffected touched key = true) now) :
    Action.Attains (performAll snapshot operations) current now (library.IsWhole held
      ((operations.mapM fun operation => execute (.single operation)).runOn MemoryStores.answer
        current now)) := by
  induction operations generalizing current now with
  | nil => exact ⟨rfl, rfl, rfl, running⟩
  | cons operation rest ih =>
      rw [List.mapM_cons, Action.runOn_bind, runOn_execute_single running]
      refine Action.ends_bind.mpr (Action.ends_tryCatch.mpr
        ((settles_perform running operation).exact.imp fun result after world => ?_))
      rintro ⟨settles, same⟩
      rw [← same]
      cases result with
      | error e =>
          obtain ⟨mild, rfl, rfl⟩ := settles
          refine Action.ends_bind.mpr (Action.ends_tryCatch.mpr
            (Snapshot.attains_restore mirrors saves running keeps ?_))
          exact ⟨rfl, mild, rfl, rfl, rfl, mirrors.catalog_eq.symm⟩
      | ok outcome =>
          have still := settles.mirrors running
          have kept := settles.keeps running
          have narrow := fun key => @Snapshot.isAffected_mono _ _
            (declared operation List.mem_cons_self) key
          have others := ih (fun other member =>
            declared other (List.mem_cons_of_mem _ member)) still
            (keeps.trans (kept.mono narrow))
          exact attains_whole_map others

/-- A transaction comes to what its operations come to one after another, or to nothing. -/
theorem attains_execute_transaction (mirrors : library.Mirrors held)
    (operations : List Operation) :
    Action.Attains (execute (.transaction operations)) library held (library.IsWhole held
      ((do
        let outcomes ← operations.mapM fun operation => execute (.single operation)
        return Outcome.transaction outcomes :
          Task Outcome).runOn MemoryStores.answer library held)) := by
  refine attains_execute mirrors.usable ?_ ?_
  · refine Action.ends_bind.mpr
      ((Snapshot.attains_capture mirrors.shows _).imp fun result after world => ?_)
    rintro ⟨rfl, rfl, snapshot, rfl, saves⟩
    have declared : ∀ operation ∈ operations, ∀ path ∈ operation.touchedPaths,
        path ∈ operations.flatMap Operation.touchedPaths :=
      fun operation member path declares => List.mem_flatMap.mpr ⟨operation, member, declares⟩
    exact attains_whole_map (attains_performAll mirrors saves declared mirrors (.refl _ _))
  · exact fun e after world whole => whole.isMild e rfl

/-! ## Runs of queries -/

theorem attains_execute_mirrors (mirrors : library.Mirrors held) (query : Query) :
    Action.Attains (execute query) library held fun _ after world => after.Mirrors world := by
  cases query with
  | single operation =>
      refine (attains_execute_single mirrors operation).imp fun result after world => ?_
      rintro ⟨settles, -⟩
      cases result with
      | ok outcome => exact settles.mirrors mirrors
      | error e =>
          obtain ⟨-, rfl, rfl⟩ := settles
          exact mirrors
  | transaction operations =>
      exact (attains_execute_transaction mirrors operations).imp
        fun result after world whole => whole.mirrors mirrors

end Library

/-- Stores that answer every proper call as stores in memory do; a view tells what they hold. -/
def Stores.AreFaithful {σ : Type} (stores : Stores σ) (view : σ → MemoryStores) : Prop :=
  stores.Follow MemoryStores.answer StoreCall.IsProper fun world held => view world = held

theorem Stores.areFaithful_memory : Stores.AreFaithful MemoryStores.answer id := by
  rintro request world held rfl -
  exact ⟨rfl, rfl⟩

namespace Library

variable {σ : Type} {stores : Stores σ} {view : σ → MemoryStores}

/-- What a library and its stores come to by some queries, whatever the outcome of each. -/
def runAll (stores : Stores σ) (start : Library × σ) (queries : List Query) : Library × σ :=
  queries.foldl (fun (library, world) query => ((execute query).runOn stores library world).2) start

/-- What queries come to one after another. -/
def results (stores : Stores σ) (start : Library × σ) :
    List Query → List (Except LibraryError Outcome)
  | [] => []
  | query :: rest =>
    let (result, after) := (execute query).runOn stores start.1 start.2
    result :: results stores after rest

/-- A library that mirrors its stores goes on to do so, however queries succeed, fail or are rolled
back. -/
theorem Mirrors.runAll (faithful : stores.AreFaithful view) {library : Library} {world : σ}
    (mirrors : library.Mirrors (view world)) (queries : List Query) :
    (runAll stores (library, world) queries).1.Mirrors
      (view (runAll stores (library, world) queries).2) := by
  induction queries generalizing library world with
  | nil => exact mirrors
  | cons query rest ih =>
      have ends := attains_execute_mirrors mirrors query
      obtain ⟨-, state, after⟩ := Action.runOn_of_follow faithful rfl ends
      have next : ((execute query).runOn stores library world).2.1.Mirrors
          (view ((execute query).runOn stores library world).2.2) := by
        rw [state, after]
        exact ends.runOn
      exact ih next

/-- However queries succeed, fail or are rolled back, the library mirrors its stores. -/
theorem mirrors_runAll (faithful : stores.AreFaithful view) {world : σ}
    (vacant : view world = .empty) (queries : List Query) :
    (runAll stores (.empty, world) queries).1.Mirrors
      (view (runAll stores (.empty, world) queries).2) :=
  Mirrors.runAll faithful (vacant ▸ mirrors_empty) queries

/-- A section is built, and then a shelf in it. -/
theorem mirrors_runAll_nested :
    let shelf : Query := .single (.buildShelf ⟨some "a", "b", none, none⟩)
    let queries : List Query := [.single (.buildSection ⟨none, "a", none, none⟩), shelf]
    Stores.AreFaithful MemoryStores.answer id ∧
      (runAll MemoryStores.answer (.empty, .empty) queries).1.Mirrors
        (runAll MemoryStores.answer (.empty, .empty) queries).2 :=
  ⟨Stores.areFaithful_memory, mirrors_runAll Stores.areFaithful_memory rfl _⟩

theorem attains_executeEach (mirrors : library.Mirrors held) (operations : List Operation) :
    Action.Attains (operations.mapM fun operation => execute (.single operation)) library held
      fun _ after world => after.Mirrors world := by
  induction operations generalizing library held with
  | nil => exact mirrors
  | cons operation rest ih =>
      rw [List.mapM_cons]
      refine Action.ends_bind.mpr ((attains_execute_mirrors mirrors (.single operation)).imp
        fun result after world still => ?_)
      cases result with
      | error e => exact still
      | ok outcome =>
          refine Action.ends_bind.mpr ((ih still).imp fun result after world last => ?_)
          cases result <;> exact last

/-- A transaction is all or nothing: where its operations succeed one after another it comes to the
same outcomes, library and stores, and where one of them fails it fails alike and everything is as
it was before. -/
theorem execute_transaction_eq (faithful : stores.AreFaithful view) {world : σ}
    (vacant : view world = .empty) (history : List Query) (operations : List Operation) :
    let before := runAll stores (.empty, world) history
    let each := (operations.mapM fun operation => execute (.single operation)).runOn stores
      before.1 before.2
    let together := (execute (.transaction operations)).runOn stores before.1 before.2
    match each.1 with
    | .ok outcomes =>
      together.1 = .ok (.transaction outcomes) ∧ together.2.1 = each.2.1 ∧
        view together.2.2 = view each.2.2
    | .error e =>
      together.1 = .error e ∧ together.2.1 = before.1 ∧ together.2.1.isPoisoned = false ∧
        (view before.2).IsRestored (view together.2.2) := by
  intro before each together
  have mirrors : before.1.Mirrors (view before.2) :=
    Mirrors.runAll faithful (vacant ▸ mirrors_empty) history
  have eachEnds := attains_executeEach mirrors operations
  have togetherEnds := attains_execute_transaction mirrors operations
  obtain ⟨eachResult, eachState, eachHeld⟩ := Action.runOn_of_follow faithful rfl eachEnds
  obtain ⟨result, state, held⟩ := Action.runOn_of_follow faithful rfl togetherEnds
  have whole := togetherEnds.runOn
  rw [Action.runOn_bind] at whole
  rw [← result, ← state, ← held] at whole
  rcases run : (operations.mapM fun operation => execute (.single operation)).runOn
    MemoryStores.answer before.1 (view before.2) with ⟨ended, final, last⟩
  rw [run] at whole eachResult eachState eachHeld
  change match ((operations.mapM fun operation => execute (.single operation)).runOn stores
    before.1 before.2).1 with | .ok outcomes => _ | .error e => _
  rw [eachResult]
  cases ended with
  | ok outcomes =>
      obtain ⟨outcome, same, stored, -⟩ := whole
      exact ⟨outcome, same.trans eachState.symm, stored.trans eachHeld.symm⟩
  | error e =>
      obtain ⟨refused, -, same, restored⟩ := whole
      exact ⟨refused, same, same ▸ mirrors.usable, restored⟩

/-- The second of two shelves of one name is refused, and the first one is undone. -/
theorem execute_transaction_eq_duplicate :
    let shelf : Operation := .buildShelf ⟨none, "a", none, none⟩
    let together :=
      (execute (.transaction [shelf, shelf])).runOn MemoryStores.answer .empty .empty
    Stores.AreFaithful MemoryStores.answer id ∧
      together.1 = .error (.resolution (.duplicate "a")) ∧ together.2.1 = .empty ∧
        together.2.1.isPoisoned = false ∧ MemoryStores.empty.IsRestored together.2.2 := by
  intro shelf together
  have vacant : id MemoryStores.empty = MemoryStores.empty := rfl
  exact ⟨Stores.areFaithful_memory,
    execute_transaction_eq Stores.areFaithful_memory vacant [] [shelf, shelf]⟩

end Library

end ShelfLibrary
