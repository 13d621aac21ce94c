import ShelfLibrary.Proofs.Normal
import ShelfLibrary.Proofs.Transaction

/-!
# Records that conform

A record is checked against the schema that binds its shelf whenever it changes, and what is stored
is its normal form.  As long as no schema is bound over shelves that are there already, every record
in a library is thus empty or accepted, as it stands, by the schema that binds its shelf.
-/

namespace ShelfLibrary

variable {σ : Type} {stores : Stores σ} {view : σ → MemoryStores}

/-! ## Schemas that are bound in time -/

/-- A schema comes into an operation only after it has been built. -/
def Operation.BindsBuilt : Operation → Prop
  | .buildSection step => ∀ schema, step.schema = some schema → schema.IsBuilt
  | .setSchema step => step.schema.IsBuilt
  | _ => True

/-- The schemas that a query may bind have been built. -/
def Query.BindsBuilt : Query → Prop
  | .single operation => operation.BindsBuilt
  | .transaction operations => ∀ operation ∈ operations, operation.BindsBuilt

/-- Whether a shelf lies directly in a section, or at the root. -/
def Library.hasShelfIn (library : Library) (parent : Option String) : Bool :=
  library.nodes.shelves.any fun node => Path.parent? node.1 == parent

/-- Whether an operation, if it sets a schema, finds no shelf directly in its target. -/
def Operation.isTimely (library : Library) : Operation → Bool
  | .setSchema step =>
    if step.isLibrary then !library.hasShelfIn none
    else step.path.all fun path => !library.hasShelfIn (some path)
  | _ => true

/-- Whether each of some operations that come one after another is timely at its moment; those after
one that fails are not carried out. -/
def Operation.areTimely (stores : Stores σ) : List Operation → Library → σ → Bool
  | [], _, _ => true
  | operation :: rest, library, world =>
    operation.isTimely library &&
      match (Library.perform operation).runOn stores library world with
      | (.ok _, library, world) => areTimely stores rest library world
      | (.error _, _, _) => true

/-- Whether each operation of a query is timely at its moment. -/
def Query.isTimely (stores : Stores σ) (library : Library) (world : σ) : Query → Bool
  | .single operation => operation.isTimely library
  | .transaction operations =>
    let saving := Snapshot.capture (operations.flatMap Operation.touchedPaths)
    match saving.runOn stores library world with
    | (.ok _, library, world) => Operation.areTimely stores operations library world
    | (.error _, _, _) => true

/-- Whether each operation of queries that come one after another is timely at its moment. -/
def Query.areTimely (stores : Stores σ) : List Query → Library × σ → Bool
  | [], _ => true
  | query :: rest, (library, world) =>
    query.isTimely stores library world &&
      areTimely stores rest ((Library.execute query).runOn stores library world).2

/-! ## What is bound -/

namespace Catalog

variable (catalog : Catalog) (parent : Option String)

theorem boundSchema?_register (key : String) (schema : Option Schema) (metadata : Option Record) :
    (catalog.register key schema metadata).boundSchema? parent =
      if parent = some key then schema else catalog.boundSchema? parent := by
  cases parent with
  | none => rfl
  | some other =>
      simp only [boundSchema?, register, Table.get?_insert, Option.some.injEq, eq_comm (a := other)]
      split <;> rfl

theorem boundSchema?_bindRoot (schema : Schema) :
    (catalog.bindRoot schema).boundSchema? parent =
      if parent = none then some schema else catalog.boundSchema? parent := by
  cases parent <;> rfl

variable {catalog parent}

theorem boundSchema?_of_removeSubtree {key : String} {schema : Schema}
    (binds : (catalog.removeSubtree key).boundSchema? parent = some schema) :
    catalog.boundSchema? parent = some schema := by
  cases parent with
  | none => exact binds
  | some other =>
      obtain ⟨note, found, noted⟩ := Option.bind_eq_some_iff.mp binds
      rw [removeSubtree, Table.get?_filter_keys catalog.sections fun name =>
        !Path.isWithin name key] at found
      split at found
      · exact Option.bind_eq_some_iff.mpr ⟨note, found, noted⟩
      · cases found

end Catalog

namespace Library

variable {library current : Library} {held now : MemoryStores} {operation : Operation}

theorem parent?_ne_of_hasShelfIn (shows : library.Shows held) {parent : Option String}
    (vacant : library.hasShelfIn parent = false) {key : String} {entry : Entry}
    (found : Table.get? held.nodes key = some entry) (kind : entry.isShelf = true) :
    Path.parent? key ≠ parent := by
  unfold hasShelfIn at vacant
  rw [shows.nodes_eq, Namespace.shelves_ofTable shows.tree.sorted, List.any_eq_false] at vacant
  have listed : (key, entry) ∈ held.nodes.filter fun node => node.2.isShelf :=
    List.mem_filter.mpr ⟨Table.mem_of_get? found, kind⟩
  simpa using vacant (key, entry) listed

/-! ## In time over other stores -/

/-- Over faithful stores an action comes to what it comes to in memory. -/
theorem runOn_memory {α : Type} {action : Task α} (faithful : stores.AreFaithful view) {world : σ}
    {goal : Except LibraryError α → Library → MemoryStores → Prop}
    (ends : Action.Attains action library (view world) goal) :
    action.runOn MemoryStores.answer library (view world) =
      Prod.map id (Prod.map id view) (action.runOn stores library world) := by
  obtain ⟨result, state, after⟩ := Action.runOn_of_follow faithful rfl ends
  exact Prod.ext result.symm (Prod.ext state.symm after.symm)

/-- An operation that succeeds over faithful stores leaves a library that mirrors what they hold. -/
theorem exists_performed (faithful : stores.AreFaithful view) {world : σ}
    (mirrors : library.Mirrors (view world)) (operation : Operation) :
    ∃ result after last, (perform operation).runOn stores library world = (result, after, last) ∧
      (perform operation).runOn MemoryStores.answer library (view world) =
        (result, after, view last) ∧
      ∀ outcome, result = .ok outcome → after.Mirrors (view last) := by
  have ends := settles_perform mirrors operation
  have settles := ends.runOn
  rw [runOn_memory faithful ends] at settles ⊢
  generalize (perform operation).runOn stores library world = reached at settles ⊢
  obtain ⟨result, after, last⟩ := reached
  refine ⟨result, after, last, rfl, rfl, ?_⟩
  rintro outcome rfl
  exact Effect.mirrors mirrors settles

/-- Over faithful stores what a transaction may change is saved without any effect. -/
theorem exists_captured (faithful : stores.AreFaithful view) {world : σ}
    (shows : library.Shows (view world)) (touched : List String) :
    ∃ snapshot last, (Snapshot.capture touched).runOn stores library world =
      (.ok snapshot, library, last) ∧ view last = view world := by
  have ends := Snapshot.attains_capture shows touched
  have saved := ends.runOn
  rw [runOn_memory faithful ends] at saved
  generalize (Snapshot.capture touched).runOn stores library world = reached at saved ⊢
  obtain ⟨result, after, last⟩ := reached
  obtain ⟨rfl, unchanged, snapshot, rfl, -⟩ := saved
  exact ⟨snapshot, last, rfl, unchanged⟩

theorem areTimely_memory (faithful : stores.AreFaithful view) {world : σ}
    (mirrors : library.Mirrors (view world)) (operations : List Operation) :
    Operation.areTimely MemoryStores.answer operations library (view world) =
      Operation.areTimely stores operations library world := by
  induction operations generalizing library world with
  | nil => rfl
  | cons operation rest ih =>
      obtain ⟨result, after, last, ran, same, still⟩ :=
        exists_performed faithful mirrors operation
      rw [Operation.areTimely, Operation.areTimely, ran, same]
      cases result with
      | ok outcome => exact congrArg _ (ih (still outcome rfl))
      | error e => rfl

/-- Nothing is changed before the first operation of a transaction. -/
theorem isTimely_transaction (shows : library.Shows held) (operations : List Operation) :
    (Query.transaction operations).isTimely MemoryStores.answer library held =
      Operation.areTimely MemoryStores.answer operations library held := by
  obtain ⟨snapshot, last, ran, rfl⟩ := exists_captured Stores.areFaithful_memory shows
    (operations.flatMap Operation.touchedPaths)
  simp only [Query.isTimely, ran]
  rfl

theorem isTimely_memory (faithful : stores.AreFaithful view) {world : σ}
    (mirrors : library.Mirrors (view world)) (query : Query) :
    query.isTimely MemoryStores.answer library (view world) =
      query.isTimely stores library world := by
  cases query with
  | single operation => rfl
  | transaction operations =>
      obtain ⟨snapshot, last, ran, unchanged⟩ := exists_captured faithful mirrors.shows
        (operations.flatMap Operation.touchedPaths)
      rw [isTimely_transaction mirrors.shows]
      simp only [Query.isTimely, ran]
      rw [← unchanged]
      exact areTimely_memory faithful (unchanged ▸ mirrors) operations

/-! ## Libraries that bind what has been built -/

/-- The schemas that are bound have been built. -/
def BindsBuilt (library : Library) : Prop :=
  ∀ parent schema, library.boundSchema? parent = some schema → schema.IsBuilt

theorem bindsBuilt_empty : Library.empty.BindsBuilt := by
  intro parent schema binds
  cases parent <;> cases binds

/-- A schema may be bound anew, if it has been built. -/
theorem BindsBuilt.rebind (built : library.BindsBuilt) (target : Option String)
    (bound : ∀ schema, current.boundSchema? target = some schema → schema.IsBuilt)
    (others : ∀ parent, parent ≠ target →
      current.boundSchema? parent = library.boundSchema? parent) : current.BindsBuilt := by
  intro parent schema binds
  by_cases same : parent = target
  · exact bound schema (same ▸ binds)
  · exact built parent schema (others parent same ▸ binds)

/-- An operation that binds only what has been built leaves only such schemas bound. -/
theorem Effect.bindsBuilt (before : library.BindsBuilt) (built : operation.BindsBuilt)
    (effect : Effect library held operation current now) : current.BindsBuilt := by
  cases effect with
  | @builtSection step key free =>
      refine before.rebind (some key) (fun schema binds => ?_) fun parent other => ?_
      · rw [boundSchema?, Catalog.boundSchema?_register, if_pos rfl] at binds
        exact built schema binds
      · rw [boundSchema?, Catalog.boundSchema?_register, if_neg other]
        rfl
  | @boundRoot step root =>
      refine before.rebind none ?_ fun parent other => ?_
      · rintro schema ⟨rfl⟩
        exact built
      · rw [boundSchema?, Catalog.boundSchema?_bindRoot, if_neg other]
        rfl
  | @boundSection step path entry inner named registered kind =>
      refine before.rebind (some path) (fun schema binds => ?_) fun parent other => ?_
      · rw [boundSchema?, Catalog.bindSection, Catalog.boundSchema?_register, if_pos rfl] at binds
        exact Option.some.inj binds ▸ built
      · rw [boundSchema?, Catalog.bindSection, Catalog.boundSchema?_register, if_neg other]
        rfl
  | removedSection whole =>
      exact fun parent schema binds =>
        before parent schema (Catalog.boundSchema?_of_removeSubtree binds)
  | builtShelf free checked => exact before
  | revised declares mirrors revises => exact before
  | removedShelves under => exact before
  | checkedOut => exact before

/-! ## Conforming libraries -/

/-- The schemas that are bound have been built, and the records of all shelves have been checked. -/
structure Conforms (library : Library) (held : MemoryStores) : Prop where
  /-- Every schema has been built. -/
  built : library.BindsBuilt
  /-- Every record has been checked. -/
  checked : ∀ key entry contents, Table.get? held.nodes key = some entry → entry.isShelf = true →
    Table.get? held.shelves (Location.placeOf key) = some contents →
      library.IsChecked (Path.parent? key) contents.data

theorem IsChecked.of_bound {parent : Option String} {record : Record}
    (checked : library.IsChecked parent record)
    (fewer : ∀ schema, current.boundSchema? parent = some schema →
      library.boundSchema? parent = some schema) : current.IsChecked parent record :=
  fun schema binds => checked schema (fewer schema binds)

namespace Conforms

variable {key : String} {entry : Entry}

theorem empty : Library.empty.Conforms .empty where
  built := bindsBuilt_empty
  checked := by simp [MemoryStores.empty]

/-- Shelves may go, with bindings, and the records of others may be checked anew. -/
theorem mono (conforms : library.Conforms held)
    (fewer : ∀ parent schema, current.boundSchema? parent = some schema →
      library.boundSchema? parent = some schema)
    (checked : ∀ key entry contents, Table.get? now.nodes key = some entry →
      entry.isShelf = true → Table.get? now.shelves (Location.placeOf key) = some contents →
        (∃ old, Table.get? held.nodes key = some old ∧ old.isShelf = true ∧
          Table.get? held.shelves (Location.placeOf key) = some contents) ∨
        library.IsChecked (Path.parent? key) contents.data) : current.Conforms now where
  built parent schema binds := conforms.built parent schema (fewer parent schema binds)
  checked key entry contents found kind stored := by
    have before : library.IsChecked (Path.parent? key) contents.data := by
      rcases checked key entry contents found kind stored with ⟨old, there, oldKind, same⟩ | anew
      · exact conforms.checked key old contents there oldKind same
      · exact anew
    exact before.of_bound (fewer _)

/-- A schema may be bound where no shelf lies. -/
theorem rebind (conforms : library.Conforms held) (built : current.BindsBuilt)
    (target : Option String)
    (others : ∀ parent, parent ≠ target →
      current.boundSchema? parent = library.boundSchema? parent)
    (vacant : ∀ key entry, Table.get? held.nodes key = some entry → entry.isShelf = true →
      Path.parent? key ≠ target)
    (nodes_eq : ∀ key entry, entry.isShelf = true → Table.get? now.nodes key = some entry →
      Table.get? held.nodes key = some entry)
    (shelves_eq : now.shelves = held.shelves) : current.Conforms now where
  built := built
  checked key entry contents found kind stored := by
    have there := nodes_eq key entry kind found
    refine (conforms.checked key entry contents there kind (shelves_eq ▸ stored)).of_bound ?_
    intro schema binds
    exact others _ (vacant key entry there kind) ▸ binds

end Conforms

/-- No shelf lies directly in a section that is still to be built. -/
theorem parent?_ne_of_isFree (tree : IsTree held.nodes) {key : String}
    (free : (Namespace.ofTable held.nodes).IsFree key) {other : String} {entry : Entry}
    (found : Table.get? held.nodes other = some entry) : Path.parent? other ≠ some key := by
  intro above
  obtain ⟨name, rfl⟩ := Path.exists_of_parent? above
  obtain ⟨parent, registered, -⟩ := tree.ancestor key name entry found
  have absent : Table.get? held.nodes key = none := free.absent
  rw [absent] at registered
  cases registered

/-- A node that stays after some are removed was there before, with its contents. -/
theorem exists_of_eraseAll {gone : List Namespace.Node} {key : String} {entry : Entry}
    {contents : ShelfData}
    (found : Table.get? (Table.eraseAll held.nodes (gone.map Prod.fst)) key = some entry)
    (kind : entry.isShelf = true)
    (stored : Table.get? (Table.eraseAll held.shelves (Location.placesOf gone))
      (Location.placeOf key) = some contents) :
    ∃ old, Table.get? held.nodes key = some old ∧ old.isShelf = true ∧
      Table.get? held.shelves (Location.placeOf key) = some contents :=
  ⟨entry, (Table.get?_eraseAll_eq_some.mp found).1, kind,
    (Table.get?_eraseAll_eq_some.mp stored).1⟩

/-- A shelf that is there after a section has been built was there before. -/
theorem get?_of_insert_section {key other : String} {entry : Entry} (kind : entry.isShelf = true)
    (found : Table.get? (Table.insert held.nodes key (.ofSection key)) other = some entry) :
    Table.get? held.nodes other = some entry := by
  rw [Table.get?_insert] at found
  split at found
  · obtain rfl := Option.some.inj found
    cases kind
  · exact found

/-- A shelf that is there after a shelf has been built is the new one, or was there before with its
contents. -/
theorem new_or_kept_of_insert_shelf (tree : IsTree held.nodes) {key other : String}
    (free : (Namespace.ofTable held.nodes).IsFree key) {built entry : Entry}
    {fresh contents : ShelfData}
    (found : Table.get? (Table.insert held.nodes key built) other = some entry)
    (stored : Table.get? (Table.insert held.shelves (Location.placeOf key) fresh)
      (Location.placeOf other) = some contents) :
    (other = key ∧ contents = fresh) ∨ (Table.get? held.nodes other = some entry ∧
      Table.get? held.shelves (Location.placeOf other) = some contents) := by
  rw [Table.get?_insert] at found
  split at found
  · rename_i same
    subst same
    rw [Table.get?_insert_self] at stored
    exact .inl ⟨rfl, (Option.some.inj stored).symm⟩
  · have elsewhere := tree.placeOf_ne_of_free free found
    rw [Table.get?_insert_of_ne _ _ elsewhere] at stored
    exact .inr ⟨found, stored⟩

/-- An operation that binds only what has been built, and that in time, keeps a library
conforming. -/
theorem Effect.conforms (shows : library.Shows held) (conforms : library.Conforms held)
    (built : operation.BindsBuilt) (timely : operation.isTimely library = true)
    (effect : Effect library held operation current now) : current.Conforms now := by
  have still := effect.bindsBuilt conforms.built built
  cases effect with
  | @builtSection step key free =>
      refine conforms.rebind still (some key) ?_ ?_ ?_ rfl
      · intro parent other
        rw [boundSchema?, Catalog.boundSchema?_register, if_neg other]
        rfl
      · exact fun other entry found _ => parent?_ne_of_isFree shows.tree free found
      · exact fun other entry kind found => get?_of_insert_section kind found
  | @builtShelf step key record free checked =>
      refine conforms.mono (fun _ _ binds => binds) fun other entry contents found kind stored => ?_
      rcases new_or_kept_of_insert_shelf shows.tree free found stored with ⟨rfl, rfl⟩ | before
      · exact .inr checked
      · exact .inl ⟨entry, before.1, kind, before.2⟩
  | revised declares mirrors revises =>
      refine conforms.mono (fun _ _ binds => binds) fun key entry contents found kind stored => ?_
      rw [revises.nodes_eq] at found
      rcases revises.contents key entry found kind with same | ⟨other, there, allowed⟩
      · exact .inl ⟨entry, found, kind, same ▸ stored⟩
      · obtain rfl := Option.some.inj (there.symm.trans stored)
        exact .inr allowed.2
  | removedShelves under =>
      refine conforms.mono (fun _ _ binds => binds) fun key entry contents found kind stored => ?_
      exact .inl (exists_of_eraseAll found kind stored)
  | removedSection whole =>
      refine conforms.mono (fun _ _ => Catalog.boundSchema?_of_removeSubtree)
        fun key entry contents found kind stored => ?_
      exact .inl (exists_of_eraseAll found kind stored)
  | @boundRoot step root =>
      have vacant : library.hasShelfIn none = false := by
        simpa [Operation.isTimely, root] using timely
      refine conforms.rebind still none ?_
        (fun key entry found kind => parent?_ne_of_hasShelfIn shows vacant found kind)
        (fun _ _ _ found => found) rfl
      intro parent other
      rw [boundSchema?, Catalog.boundSchema?_bindRoot, if_neg other]
      rfl
  | @boundSection step path entry inner named registered kind =>
      have vacant : library.hasShelfIn (some path) = false := by
        simpa [Operation.isTimely, inner, named] using timely
      refine conforms.rebind still (some path) ?_
        (fun key entry found kind => parent?_ne_of_hasShelfIn shows vacant found kind)
        (fun _ _ _ found => found) rfl
      intro parent other
      rw [boundSchema?, Catalog.bindSection, Catalog.boundSchema?_register, if_neg other]
      rfl
  | checkedOut => exact conforms

/-! ## Queries -/

/-- Whether or not they all succeed, operations that bind only what has been built leave only such
schemas bound. -/
theorem bindsBuilt_executeEach (mirrors : library.Mirrors held) (before : library.BindsBuilt)
    {operations : List Operation} (built : ∀ operation ∈ operations, operation.BindsBuilt) :
    Action.Attains (operations.mapM fun operation => execute (.single operation)) library held
      fun _ after _ => after.BindsBuilt := by
  induction operations generalizing library held with
  | nil => exact before
  | cons operation rest ih =>
      rw [List.mapM_cons]
      refine Action.ends_bind.mpr ((attains_execute_single mirrors operation).imp
        fun result after world => ?_)
      rintro ⟨settles, -⟩
      cases result with
      | error e =>
          obtain ⟨-, rfl, rfl⟩ := settles
          exact before
      | ok outcome =>
          have others := ih (settles.mirrors mirrors)
            (settles.bindsBuilt before (built _ List.mem_cons_self))
            fun other member => built other (List.mem_cons_of_mem _ member)
          refine Action.ends_bind.mpr (others.imp fun result after world last => ?_)
          cases result <;> exact last

theorem attains_execute_bindsBuilt (mirrors : library.Mirrors held) (before : library.BindsBuilt)
    {query : Query} (built : query.BindsBuilt) :
    Action.Attains (execute query) library held fun _ after _ => after.BindsBuilt := by
  cases query with
  | single operation =>
      refine (attains_execute_single mirrors operation).imp fun result after world => ?_
      rintro ⟨settles, -⟩
      cases result with
      | ok outcome => exact settles.bindsBuilt before built
      | error e =>
          obtain ⟨-, rfl, -⟩ := settles
          exact before
  | transaction operations =>
      have each := (bindsBuilt_executeEach mirrors before built).runOn
      refine (attains_execute_transaction mirrors operations).imp fun result after world => ?_
      rw [Action.runOn_bind]
      generalize (operations.mapM fun operation => execute (.single operation)).runOn
        MemoryStores.answer library held = reached at each ⊢
      obtain ⟨ended, final, last⟩ := reached
      cases ended with
      | ok outcomes =>
          rintro ⟨-, rfl, -⟩
          exact each
      | error e =>
          rintro ⟨-, -, rfl, -⟩
          exact before

/-- Queries that bind only what has been built leave only such schemas bound. -/
theorem BindsBuilt.runAll (faithful : stores.AreFaithful view) {world : σ}
    (mirrors : library.Mirrors (view world)) (before : library.BindsBuilt) {queries : List Query}
    (built : ∀ query ∈ queries, query.BindsBuilt) :
    (runAll stores (library, world) queries).1.BindsBuilt := by
  induction queries generalizing library world with
  | nil => exact before
  | cons query rest ih =>
      have ends := attains_execute_bindsBuilt mirrors before (built _ List.mem_cons_self)
      have still := (attains_execute_mirrors mirrors query).runOn
      have after := ends.runOn
      rw [runOn_memory faithful ends] at still after
      exact ih still after fun other member => built other (List.mem_cons_of_mem _ member)

theorem Conforms.of_isRestored (conforms : library.Conforms held) (restored : held.IsRestored now) :
    library.Conforms now where
  built := conforms.built
  checked key entry contents found kind stored :=
    conforms.checked key entry contents (restored.nodes_eq ▸ found) kind
      (restored.shelves_eq ▸ stored)

/-- Operations that succeed one after another, each timely at its moment, keep a library
conforming. -/
theorem conforms_executeEach (mirrors : library.Mirrors held) (conforms : library.Conforms held)
    {operations : List Operation} (built : ∀ operation ∈ operations, operation.BindsBuilt)
    (timely : Operation.areTimely MemoryStores.answer operations library held = true) :
    Action.Attains (operations.mapM fun operation => execute (.single operation)) library held
      fun result after world => ∀ outcomes, result = .ok outcomes → after.Conforms world := by
  induction operations generalizing library held with
  | nil => exact fun _ _ => conforms
  | cons operation rest ih =>
      unfold Operation.areTimely at timely
      obtain ⟨first, later⟩ := Bool.and_eq_true_iff.mp timely
      rw [List.mapM_cons]
      refine Action.ends_bind.mpr ((attains_execute_single mirrors operation).imp
        fun result after world => ?_)
      rintro ⟨settles, same⟩
      rw [← same] at later
      cases result with
      | error e => rintro outcomes ⟨⟩
      | ok outcome =>
          have still := settles.conforms mirrors.shows conforms (built _ List.mem_cons_self) first
          have others := ih (settles.mirrors mirrors) still
            (fun other member => built other (List.mem_cons_of_mem _ member)) later
          refine Action.ends_bind.mpr (others.imp fun result after world last => ?_)
          cases result with
          | error e => rintro outcomes ⟨⟩
          | ok outcomes => exact fun _ _ => last outcomes rfl

/-- A query keeps a library conforming, also where it fails or is rolled back. -/
theorem attains_execute_conforms (mirrors : library.Mirrors held) (conforms : library.Conforms held)
    {query : Query} (built : query.BindsBuilt)
    (timely : query.isTimely MemoryStores.answer library held = true) :
    Action.Attains (execute query) library held fun _ after world => after.Conforms world := by
  cases query with
  | single operation =>
      refine (attains_execute_single mirrors operation).imp fun result after world => ?_
      rintro ⟨settles, -⟩
      cases result with
      | ok outcome => exact settles.conforms mirrors.shows conforms built timely
      | error e =>
          obtain ⟨-, rfl, rfl⟩ := settles
          exact conforms
  | transaction operations =>
      rw [isTimely_transaction mirrors.shows] at timely
      have each := (conforms_executeEach mirrors conforms built timely).runOn
      refine (attains_execute_transaction mirrors operations).imp fun result after world => ?_
      rw [Action.runOn_bind]
      generalize (operations.mapM fun operation => execute (.single operation)).runOn
        MemoryStores.answer library held = reached at each ⊢
      obtain ⟨ended, final, last⟩ := reached
      cases ended with
      | ok outcomes =>
          rintro ⟨-, rfl, rfl, -⟩
          exact each outcomes rfl
      | error e =>
          rintro ⟨-, -, rfl, restored⟩
          exact conforms.of_isRestored restored

theorem Conforms.runAll (faithful : stores.AreFaithful view) {world : σ}
    (mirrors : library.Mirrors (view world)) (conforms : library.Conforms (view world))
    {queries : List Query} (built : ∀ query ∈ queries, query.BindsBuilt)
    (timely : Query.areTimely stores queries (library, world) = true) :
    (runAll stores (library, world) queries).1.Conforms
      (view (runAll stores (library, world) queries).2) := by
  induction queries generalizing library world with
  | nil => exact conforms
  | cons query rest ih =>
      obtain ⟨first, later⟩ := Bool.and_eq_true_iff.mp timely
      rw [← isTimely_memory faithful mirrors query] at first
      have still := (attains_execute_mirrors mirrors query).runOn
      have ends := attains_execute_conforms mirrors conforms (built _ List.mem_cons_self) first
      have after := ends.runOn
      rw [runOn_memory faithful ends] at still after
      exact ih still after (fun other member => built other (List.mem_cons_of_mem _ member)) later

/-- A record is empty, or the schema that binds its shelf accepts it as it stands. -/
def Accepts (library : Library) (key : String) (record : Record) : Prop :=
  ∀ schema, library.boundSchema? (Path.parent? key) = some schema →
    record = [] ∨ schema.validate record = .ok record

/-- In a conforming library, the schema that binds a shelf accepts its record as it stands, since
what has been checked is in normal form. -/
theorem Conforms.accepts (conforms : library.Conforms held) {key : String} {entry : Entry}
    {contents : ShelfData} (found : Table.get? held.nodes key = some entry)
    (kind : entry.isShelf = true)
    (stored : Table.get? held.shelves (Location.placeOf key) = some contents) :
    library.Accepts key contents.data := by
  intro schema binds
  refine (conforms.checked key entry contents found kind stored schema binds).imp_right ?_
  rintro ⟨given, accepted⟩
  exact Schema.validate_of_validate (conforms.built _ schema binds) accepted

/-- However queries succeed, fail or are rolled back, as long as no schema is set where shelves lie,
every shelf has contents, and their record is empty or accepted by the schema that binds the
shelf. -/
theorem accepts_runAll (faithful : stores.AreFaithful view) {world : σ}
    (vacant : view world = .empty) {queries : List Query}
    (built : ∀ query ∈ queries, query.BindsBuilt)
    (timely : Query.areTimely stores queries (.empty, world) = true) :
    let reached := runAll stores (.empty, world) queries
    ∀ key entry, reached.1.nodes.get? key = some entry → entry.isShelf = true →
      ∃ contents, Table.get? (view reached.2).shelves entry.location.path = some contents ∧
        reached.1.Accepts key contents.data := by
  intro reached key entry found kind
  have mirrors : reached.1.Mirrors (view reached.2) :=
    Mirrors.runAll faithful (vacant ▸ mirrors_empty) queries
  have conforms : reached.1.Conforms (view reached.2) :=
    Conforms.runAll faithful (vacant ▸ mirrors_empty) (vacant ▸ Conforms.empty) built timely
  rw [mirrors.nodes_eq, Namespace.get?_ofTable] at found
  obtain ⟨contents, stored⟩ := Table.contains_iff.mp
    ((mirrors.consistent.stored _).mpr ⟨key, entry, found, kind, rfl⟩)
  rw [mirrors.consistent.located key entry found]
  exact ⟨contents, stored, conforms.accepts found kind stored⟩

/-- What is known of a thing. -/
private def thing : Schema := .mk "Thing" [.mk "name" .text true, .mk "note" .text false] []

/-- A schema is set before the first shelf comes, in one transaction; the shelf is revised, and a
shelf of another schema is refused. -/
theorem accepts_runAll_named :
    let lamp : SchemaInstance := ⟨thing, [("name", .text "lamp")]⟩
    let blank : SchemaInstance := ⟨.mk "Blank" [] [], []⟩
    let queries : List Query := [
      .transaction [.buildSection ⟨none, "a", none, none⟩, .setSchema ⟨some "a", thing, false⟩,
        .buildShelf ⟨some "a", "b", some lamp, none⟩],
      .single (.revise ⟨"a", none, [("note", .text "new")]⟩),
      .single (.buildShelf ⟨some "a", "c", some blank, none⟩)]
    let reached := runAll MemoryStores.answer (.empty, .empty) queries
    Stores.AreFaithful MemoryStores.answer id ∧ thing.IsBuilt ∧
      Query.areTimely MemoryStores.answer queries (.empty, .empty) = true ∧
        (reached.1.boundSchema? (some "a") == some thing) = true ∧
          ∃ contents, Table.get? reached.2.shelves "a/b" = some contents ∧
            reached.1.Accepts "a.b" contents.data := by
  intro lamp blank queries
  have faithful := Stores.areFaithful_memory
  have vacant : id MemoryStores.empty = MemoryStores.empty := rfl
  have thingBuilt : thing.IsBuilt := ⟨by rfl, trivial, trivial, trivial⟩
  have built : ∀ query ∈ queries, query.BindsBuilt := by
    simp [queries, Query.BindsBuilt, Operation.BindsBuilt, thingBuilt]
  have timely : Query.areTimely MemoryStores.answer queries (.empty, .empty) = true := by
    decide +kernel
  have found : (runAll MemoryStores.answer (.empty, .empty) queries).1.nodes.get? "a.b" =
      some (.ofShelf "a.b") := by
    decide +kernel
  have place : (Entry.ofShelf "a.b").location.path = "a/b" := by
    decide +kernel
  have accepts := accepts_runAll faithful vacant built timely
  obtain ⟨contents, stored, accepted⟩ := accepts "a.b" (.ofShelf "a.b") found rfl
  rw [id_eq, place] at stored
  exact ⟨faithful, thingBuilt, timely, by decide +kernel, contents, stored, accepted⟩

end Library

end ShelfLibrary
