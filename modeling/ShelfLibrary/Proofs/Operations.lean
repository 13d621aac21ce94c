import ShelfLibrary.Proofs.Readers

/-!
# What operations do

Every operation settles: it fails without a fault and changes nothing, or it has its effect.  Every
effect keeps the invariant and leaves alone each shelf outside the paths that the operation
declares.
-/

namespace ShelfLibrary.Library

open Session

variable {α : Type} {library : Library} {held : MemoryStores} {done : Library → MemoryStores → Prop}

/-! ## Steps -/

section Steps

variable {goal : Except LibraryError α → Library → MemoryStores → Prop}

/-- A refusal without a fault settles an operation. -/
theorem settles_error {e : LibraryError} (mild : e.isFatal = false) :
    library.Settles held done (.error e : Except LibraryError α) library held :=
  ⟨mild, rfl, rfl⟩

/-- An operation goes on after an action that changes nothing. -/
theorem settles_after {β : Type} {action : Task β} {next : β → Task α} {found : β → Prop}
    (attains : Action.Attains action library held (Untouched library held found))
    (onward : ∀ value, found value →
      Action.Attains (next value) library held (library.Settles held done)) :
    Action.Attains (action >>= next) library held (library.Settles held done) := by
  refine Action.ends_bind.mpr (attains.imp fun result library held => ?_)
  rintro ⟨rfl, rfl, outcome⟩
  cases result with
  | ok value => exact onward value outcome
  | error e => exact settles_error outcome

/-- An operation goes on with what a function of the nodes finds. -/
theorem settles_resolving {β : Type} {find : Namespace → Except LibraryError β}
    {next : β → Task α} (mirrors : library.Mirrors held)
    (refusal : Result.IsRefusal (find (.ofTable held.nodes)))
    (onward : ∀ value, find (.ofTable held.nodes) = .ok value →
      Action.Attains (next value) library held (library.Settles held done)) :
    Action.Attains (resolving find >>= next) library held (library.Settles held done) := by
  rw [← mirrors.nodes_eq] at refusal onward
  exact settles_after (untouched_of_isMild refusal.isMild) onward

/-- An operation that reports on another settles like it. -/
theorem settles_report {β : Type} {action : Task β} {report : β → α} {current : Library}
    {now : MemoryStores}
    (settles : Action.Attains action current now (library.Settles held done)) :
    Action.Attains (action >>= fun value => pure (report value)) current now
      (library.Settles held done) := by
  refine Action.ends_bind.mpr (settles.imp fun result library' held' ended => ?_)
  cases result <;> exact ended

theorem attains_editCatalog {edit : Catalog → Catalog}
    {goal : Except LibraryError Unit → Library → MemoryStores → Prop}
    (next : goal (.ok ()) { library with catalog := edit library.catalog }
      { held with catalog := some (edit library.catalog) }) :
    Action.Attains (editCatalog edit) library held goal :=
  ⟨trivial, next⟩

end Steps

/-! ## Effects -/

/-- The keys that a query of a path may touch. -/
def Touches (path key : String) : Prop :=
  Snapshot.isAffected [path] key = true

theorem touches_of_isWithin {path key : String} (within : Path.isWithin key path = true) :
    Touches path key := by
  simp [Touches, Snapshot.isAffected, within]

theorem touches_of_isAround {path key : String} (around : Path.isWithin path key = true) :
    Touches path key := by
  simp [Touches, Snapshot.isAffected, around]

/-- A record is empty, or it is what the schema that binds the shelves of a section, or of the root,
has made of a record. -/
def IsChecked (library : Library) (parent : Option String) (record : Record) : Prop :=
  ∀ schema, library.boundSchema? parent = some schema →
    record = [] ∨ ∃ given, schema.validate given = .ok record

theorem isChecked_nil (parent : Option String) : library.IsChecked parent [] :=
  fun _ _ => .inl rfl

/-- What a query of a path may make of the record of a shelf. -/
def MayBecome (library : Library) (path key : String) (record : Record) : Prop :=
  Touches path key ∧ library.IsChecked (Path.parent? key) record

/-- What an operation that succeeds has come to. -/
inductive Effect (library : Library) (held : MemoryStores) :
    Operation → Library → MemoryStores → Prop
  /-- A free key has become a section, with a note on it. -/
  | builtSection {step : BuildSection} {key : String}
      (free : (Namespace.ofTable held.nodes).IsFree key) :
      Effect library held (.buildSection step)
        { library with
          nodes := .ofTable (Table.insert held.nodes key (.ofSection key))
          catalog := library.catalog.register key step.schema step.metadata }
        { held with
          nodes := Table.insert held.nodes key (.ofSection key)
          catalog := some (library.catalog.register key step.schema step.metadata) }
  /-- A free key has become a shelf. -/
  | builtShelf {step : BuildShelf} {key : String} {record : Record}
      (free : (Namespace.ofTable held.nodes).IsFree key)
      (checked : library.IsChecked (Path.parent? key) record) :
      Effect library held (.buildShelf step)
        { library with nodes := .ofTable (Table.insert held.nodes key (.ofShelf key)) }
        { held with
          nodes := Table.insert held.nodes key (.ofShelf key)
          shelves := Table.insert held.shelves (Location.placeOf key) ⟨record, step.metadata⟩ }
  /-- Shelves have been given other records. -/
  | revised {operation : Operation} {path : String} {held' : MemoryStores}
      (declares : operation.touchedPaths = [path]) (mirrors : library.Mirrors held')
      (revises : held.Revises (library.MayBecome path) held') :
      Effect library held operation library held'
  /-- Shelves have been removed. -/
  | removedShelves {step : Remove} {gone : List Namespace.Node}
      (under : AreUnder held.nodes step.path gone) :
      Effect library held (.remove step)
        { library with nodes := .ofTable (Table.eraseAll held.nodes (gone.map Prod.fst)) }
        { held with
          nodes := Table.eraseAll held.nodes (gone.map Prod.fst)
          shelves := Table.eraseAll held.shelves (Location.placesOf gone) }
  /-- A section has been removed with everything in it. -/
  | removedSection {step : Remove} {gone : List Namespace.Node}
      (whole : ∀ node, node ∈ gone ↔ node ∈ held.nodes ∧ Path.isWithin node.1 step.path = true) :
      Effect library held (.remove step)
        { library with
          nodes := .ofTable (Table.eraseAll held.nodes (gone.map Prod.fst))
          catalog := library.catalog.removeSubtree step.path }
        { nodes := Table.eraseAll held.nodes (gone.map Prod.fst)
          shelves := Table.eraseAll held.shelves (Location.placesOf gone)
          catalog := some (library.catalog.removeSubtree step.path) }
  /-- A schema has been bound to the root. -/
  | boundRoot {step : SetSchema} (root : step.isLibrary = true) :
      Effect library held (.setSchema step)
        { library with catalog := library.catalog.bindRoot step.schema }
        { held with catalog := some (library.catalog.bindRoot step.schema) }
  /-- A schema has been bound to a section. -/
  | boundSection {step : SetSchema} {path : String} {entry : Entry}
      (inner : step.isLibrary = false) (named : step.path = some path)
      (registered : Table.get? held.nodes path = some entry) (kind : entry.isSection = true) :
      Effect library held (.setSchema step)
        { library with catalog := library.catalog.bindSection path step.schema }
        { held with catalog := some (library.catalog.bindSection path step.schema) }
  /-- Nothing has been changed. -/
  | checkedOut {step : CheckOut} : Effect library held (.checkOut step) library held

namespace Effect

variable {operation : Operation} {library' : Library} {held' : MemoryStores}

/-- Every effect keeps the library and its stores together. -/
theorem mirrors (mirrored : library.Mirrors held)
    (effect : Effect library held operation library' held') : library'.Mirrors held' := by
  cases effect with
  | builtSection free => exact mirrored.add_section free _ _
  | builtShelf free checked => exact mirrored.add_shelf free _
  | revised declares mirrors revises => exact mirrors
  | removedShelves under => exact mirrored.remove_shelves under.registered under.kind
  | removedSection whole => exact mirrored.remove_subtree whole
  | boundRoot root => exact { mirrored with catalog_eq := rfl }
  | boundSection inner named registered kind => exact mirrored.renote registered kind _ _
  | checkedOut => exact mirrored

/-- Every effect leaves alone each shelf outside the paths that its operation declares. -/
theorem keeps (mirrored : library.Mirrors held)
    (effect : Effect library held operation library' held') :
    held.Keeps (fun key => Snapshot.isAffected operation.touchedPaths key = true) held' := by
  have tree := mirrored.consistent.tree
  cases effect with
  | builtSection free => exact tree.keeps_add free rfl fun _ _ => rfl
  | builtShelf free checked =>
      exact tree.keeps_add free rfl fun place apart => Table.get?_insert_of_ne held.shelves _ apart
  | revised declares mirrors revises =>
      rw [declares]
      exact revises.keeps fun key record allowed => allowed.1
  | removedShelves under =>
      exact tree.keeps_remove under.registered
        (fun node member => touches_of_isWithin (under.within node member)) held.catalog
  | removedSection whole =>
      refine tree.keeps_remove (fun node member => ?_)
        (fun node member => touches_of_isWithin ((whole node).mp member).2) _
      exact Table.get?_of_mem tree.sorted ((whole node).mp member).1
  | boundRoot root => exact .refl _ held
  | boundSection inner named registered kind => exact .refl _ held
  | checkedOut => exact .refl _ held

end Effect

/-! ## Building -/

theorem settles_buildSection (mirrors : library.Mirrors held) (step : BuildSection) :
    Action.Attains (buildSection step) library held
      (library.Settles held (Effect library held (.buildSection step))) := by
  refine settles_resolving mirrors (Namespace.isRefusal_resolveTarget _ _ _) fun key found => ?_
  have free := Namespace.isFree_of_resolveTarget found
  refine Action.ends_bind.mpr (Action.ends_on.mpr ?_)
  refine Namespace.attains_add mirrors.nodes_eq free rfl ?_
  refine Action.ends_bind.mpr (Action.ends_tryCatch.mpr (attains_editCatalog ?_))
  exact .builtSection free

/-- The record that a schema makes of another one has been checked. -/
theorem attains_validated {parent : Option String} {schema : Schema} {record : Record}
    (binds : library.boundSchema? parent = some schema) :
    Action.Attains (Action.validated (schema.validate record) : Task Record) library held
      (Untouched library held (library.IsChecked parent)) := by
  refine (untouched_of_isMild (Result.isMild_validation _)).mono fun normal made other found => ?_
  obtain rfl := Option.some.inj (binds.symm.trans found)
  exact .inr ⟨record, Result.mapError_eq_ok.mp made⟩

theorem attains_conformInstance (parent : Option String) (inst : SchemaInstance) :
    Action.Attains (conformInstance parent inst) library held
      (Untouched library held (library.IsChecked parent)) := by
  unfold conformInstance
  refine Action.ends_bind.mpr ?_
  simp only [Action.ends_get]
  split
  · rename_i unbound
    exact ⟨rfl, rfl, fun schema bound => absurd (unbound.symm.trans bound) (by simp)⟩
  · rename_i bound binds
    split
    · exact attains_validated binds
    · exact ⟨rfl, rfl, rfl⟩

theorem attains_firstRecord (step : BuildShelf) :
    Action.Attains (firstRecord step) library held
      (Untouched library held (library.IsChecked step.path)) := by
  unfold firstRecord
  split
  · exact attains_conformInstance step.path _
  · exact ⟨rfl, rfl, isChecked_nil step.path⟩

theorem settles_buildShelf (mirrors : library.Mirrors held) (step : BuildShelf) :
    Action.Attains (buildShelf step) library held
      (library.Settles held (Effect library held (.buildShelf step))) := by
  refine settles_resolving mirrors (Namespace.isRefusal_resolveTarget _ _ _) fun key found => ?_
  have free := Namespace.isFree_of_resolveTarget found
  have canonical : (Entry.ofShelf key).location.IsCanonical := ⟨key, free.valid, rfl⟩
  refine settles_after (attains_firstRecord step) fun record checked => ?_
  rw [← Namespace.parent?_of_resolveTarget found] at checked
  refine Action.ends_bind.mpr (attains_storeShelf canonical ?_)
  refine Action.ends_bind.mpr (Action.ends_tryCatch.mpr (Action.ends_on.mpr ?_))
  refine Namespace.attains_add mirrors.nodes_eq free rfl ?_
  exact .builtShelf free checked

/-! ## Changing records -/

theorem attains_conform (key : String) (record : Record) :
    Action.Attains (conform key record) library held
      (Untouched library held (library.IsChecked (Path.parent? key))) := by
  unfold conform
  refine Action.ends_bind.mpr ?_
  simp only [Action.ends_get]
  split
  · rename_i schema binds
    exact attains_validated binds
  · rename_i unbound
    exact ⟨rfl, rfl, fun schema bound => absurd (unbound.symm.trans bound) (by simp)⟩

theorem isRefusal_addFields (path : String) (record fields : Record) :
    Result.IsRefusal (addFields path record fields) := by
  induction fields generalizing record with
  | nil => exact Result.isRefusal_ok record
  | cons field rest ih =>
      unfold addFields
      split
      · exact Result.isRefusal_error.mpr rfl
      · exact ih _

theorem prepares_reviseAll (shows : library.Shows held) (data : Record) {path : String}
    {candidates : List Candidate}
    (under : AreUnder held.nodes path (nodesOf candidates)) :
    Prepares library held (library.MayBecome path) (reviseAll data candidates) fun _ => True := by
  induction candidates with
  | nil => exact .pure trivial
  | cons candidate rest ih =>
      have member : (candidate.key, candidate.entry) ∈ nodesOf (candidate :: rest) :=
        List.mem_cons_self
      have others : AreUnder held.nodes path (nodesOf rest) :=
        under.sublist (List.sublist_cons_self _ _)
      refine (Prepares.lift (attains_conform candidate.key _)).bind fun normal checked => ?_
      have allowed : library.MayBecome path candidate.key normal :=
        ⟨touches_of_isWithin (under.within _ member), checked⟩
      refine (prepares_replace shows (under.registered _ member) (under.kind _ member)
        allowed).bind fun _ _ => ?_
      exact ih others

theorem prepares_resetTargets (shows : library.Shows held) (step : Reset)
    {mayBecome : String → Record → Prop} :
    Prepares library held mayBecome (resetTargets step) fun targets =>
      AreUnder held.nodes step.path (nodesOf targets) := by
  unfold resetTargets
  split
  · exact prepares_find shows step.path _
  · split
    · refine (prepares_resolving (Namespace.isRefusal_resolveShelf _ step.path)).bind fun _ _ => ?_
      exact prepares_gather shows step.path
    · refine (prepares_resolving
        (Namespace.isRefusal_resolveSection _ step.path)).bind fun _ _ => ?_
      exact prepares_gather shows step.path

/-- Work in a session that finds what it needs, holds changes of some shelves back and stores them
at the end, or is refused before that. -/
inductive Commits (library : Library) (held : MemoryStores) (mayBecome : String → Record → Prop)
    {α : Type} : Session.Task α → Prop
  /-- The changes are stored. -/
  | stored (value : α) : Commits library held mayBecome (commit >>= fun _ => pure value)
  /-- The work is refused. -/
  | refused {e : LibraryError} (mild : e.isFatal = false) : Commits library held mayBecome (throw e)
  /-- The work goes on with what has been found. -/
  | after {β : Type} {task : Session.Task β} {next : β → Session.Task α} {found : β → Prop}
      (prepares : Prepares library held mayBecome task found)
      (reads : Session.Reads (fun _ => True) task)
      (onward : ∀ value, found value → Commits library held mayBecome (next value)) :
      Commits library held mayBecome (task >>= next)

/-- Reading may fail in any way. -/
theorem admits_all : Admits fun _ => True :=
  fun _ _ => trivial

theorem areClear_all (filters : Filters) : filters.AreClear fun _ => True :=
  .inr fun _ => trivial

theorem Commits.settles {mayBecome : String → Record → Prop} (mirrors : library.Mirrors held)
    {task : Session.Task α} (commits : Commits library held mayBecome task) {session : Session}
    (fits : session.Fits held.nodes mayBecome) :
    Action.Attains (task session) library held
      (library.Settles held (Revised library held mayBecome)) := by
  induction commits generalizing session with
  | stored value => exact settles_commit_pure mirrors fits value
  | refused mild => exact ⟨mild, rfl, rfl⟩
  | after prepares reads onward ih =>
      exact prepares.follow fits (fun value session found fits => ih value found fits)
        fun _ mild => settles_error mild

/-- An action commits when it is the work of a session that does. -/
def IsCommitted (library : Library) (held : MemoryStores) (mayBecome : String → Record → Prop)
    (action : Task α) : Prop :=
  ∃ task, Commits library held mayBecome task ∧ action = once task

theorem IsCommitted.settles (mirrors : library.Mirrors held) {operation : Operation} {path : String}
    (declares : operation.touchedPaths = [path]) {action : Task α}
    (committed : IsCommitted library held (library.MayBecome path) action) :
    Action.Attains action library held
      (library.Settles held (Effect library held operation)) := by
  obtain ⟨task, commits, rfl⟩ := committed
  refine (settles_once (commits.settles mirrors (fits_nil _ _))).imp fun result after now => ?_
  refine fun settles => settles.mono fun after now revised => ?_
  obtain ⟨rfl, mirrored, revises⟩ := revised
  exact .revised declares mirrored revises

section Records

variable (shows : library.Shows held)

include shows

theorem isCommitted_write (step : Write) :
    IsCommitted library held (library.MayBecome step.path) (write step) := by
  refine ⟨_, .after (prepares_resolving (Namespace.isRefusal_resolveShelf _ step.path))
    (.lift (reads_resolving admits_all fun nodes => Namespace.isRefusal_resolveShelf nodes _))
    fun entry found => ?_, rfl⟩
  rw [shows.nodes_eq] at found
  obtain ⟨registered, kind⟩ := Namespace.of_resolveShelf found
  refine .after (prepares_record shows registered kind) (reads_record _ _) fun record _ => ?_
  have refusal := isRefusal_addFields step.path record step.data
  refine .after (.ofExcept refusal.isMild) (.lift (reads_ofExcept admits_all refusal))
    fun widened _ => ?_
  refine .after (.lift (attains_conform step.path widened)) (.lift (reads_conform admits_all _ _))
    fun normal checked => ?_
  have allowed : library.MayBecome step.path step.path normal :=
    ⟨touches_of_isWithin (Path.isWithin_self step.path), checked⟩
  exact .after (prepares_replace shows registered kind allowed) (reads_replace _ _ _)
    fun _ _ => .stored _

theorem isCommitted_revise (step : Revise) :
    IsCommitted library held (library.MayBecome step.path) (revise step) := by
  refine ⟨_, .after (prepares_find shows step.path step.filters)
    (reads_find admits_all step.path fun given _ => areClear_all given)
    fun selected under => ?_, rfl⟩
  exact .after (prepares_reviseAll shows step.data under)
    (reads_reviseAll admits_all step.data selected) fun _ _ => .stored _

theorem isCommitted_editField (path : String) (edit : Record → List String → Option Record) :
    IsCommitted library held (library.MayBecome path) (editField path edit) := by
  refine ⟨_, .after (prepares_resolving (Namespace.isRefusal_resolveField _ path))
    (.lift (reads_resolving admits_all fun nodes => Namespace.isRefusal_resolveField nodes _))
    fun address found => ?_, rfl⟩
  rw [shows.nodes_eq] at found
  obtain ⟨registered, kind, around⟩ := Namespace.of_resolveField found
  refine .after (prepares_record shows registered kind) (reads_record _ _) fun record _ => ?_
  cases edit record address.names with
  | none => exact .refused rfl
  | some edited =>
      refine .after (.lift (attains_conform address.shelf edited))
        (.lift (reads_conform admits_all _ _)) fun normal checked => ?_
      have allowed : library.MayBecome path address.shelf normal :=
        ⟨touches_of_isAround around, checked⟩
      refine .after (prepares_replace shows registered kind allowed)
        (reads_replace _ _ _) fun _ _ => ?_
      rw [← bind_pure commit]
      exact .stored ()

theorem isCommitted_emptyShelves (step : Reset) :
    IsCommitted library held (library.MayBecome step.path) (emptyShelves step) := by
  refine ⟨_, .after (prepares_resetTargets shows step)
    (reads_resetTargets admits_all step fun given _ => areClear_all given)
    fun targets under => ?_, rfl⟩
  have emptied : Prepares library held (library.MayBecome step.path)
      (targets.forM fun target => Session.replace target.key target.entry []) fun _ => True := by
    refine .forM fun target member => ?_
    have listed : (target.key, target.entry) ∈ nodesOf targets := List.mem_map_of_mem member
    exact prepares_replace shows (under.registered _ listed) (under.kind _ listed)
      ⟨touches_of_isWithin (under.within _ listed), isChecked_nil _⟩
  exact .after emptied (.forM fun target => reads_replace _ _ _) fun _ _ => .stored _

end Records

theorem settles_reset (mirrors : library.Mirrors held) (step : Reset) :
    Action.Attains (reset step) library held
      (library.Settles held (Effect library held (.reset step))) := by
  unfold reset
  split
  · exact settles_report ((isCommitted_emptyShelves mirrors.shows step).settles mirrors rfl)
  · exact settles_report ((isCommitted_editField mirrors.shows step.path _).settles mirrors rfl)

/-! ## Schemas -/

theorem settles_setSchema (mirrors : library.Mirrors held) (step : SetSchema) :
    Action.Attains (setSchema step) library held
      (library.Settles held (Effect library held (.setSchema step))) := by
  unfold setSchema
  split
  · rename_i root
    exact settles_report (attains_editCatalog (.boundRoot root))
  · rename_i inner
    split
    · exact ⟨rfl, rfl, rfl⟩
    · rename_i path named
      refine settles_resolving mirrors
        (Namespace.isRefusal_resolveSection _ path) fun entry found => ?_
      obtain ⟨-, registered, kind⟩ := Namespace.of_resolveSection found
      refine settles_report (attains_editCatalog ?_)
      exact .boundSection (Bool.eq_false_of_not_eq_true inner) named registered kind

/-! ## Removing -/

/-- Registered nodes are removed one after another, with the contents of the shelves among them. -/
theorem attains_deleteNodes {gone : List Namespace.Node}
    {goal : Except LibraryError Unit → Library → MemoryStores → Prop}
    (same : library.nodes = .ofTable held.nodes)
    (registered : ∀ node ∈ gone, Table.get? held.nodes node.1 = some node.2)
    (fit : ∀ node ∈ gone, Path.isValid node.1 = true ∧ node.2.location = .ofKey node.1)
    (distinct : (gone.map Prod.fst).Nodup)
    (next : goal (.ok ())
      { library with nodes := .ofTable (Table.eraseAll held.nodes (gone.map Prod.fst)) }
      { held with
        nodes := Table.eraseAll held.nodes (gone.map Prod.fst)
        shelves := Table.eraseAll held.shelves (Location.placesOf gone) }) :
    Action.Attains (deleteNodes gone) library held goal := by
  induction gone generalizing library held with
  | nil =>
      have unchanged : library = { library with nodes := .ofTable held.nodes } := by rw [← same]
      rw [unchanged]
      exact next
  | cons node rest ih =>
      obtain ⟨key, entry⟩ := node
      obtain ⟨first, others⟩ := List.nodup_cons.mp distinct
      obtain ⟨valid, located⟩ := fit (key, entry) List.mem_cons_self
      have stay : ∀ node ∈ rest, Table.get? (Table.erase held.nodes key) node.1 = some node.2 := by
        intro node member
        have different : key ≠ node.1 :=
          fun same => first (List.mem_map.mpr ⟨node, member, same.symm⟩)
        rw [Table.get?_erase_of_ne held.nodes different]
        exact registered node (List.mem_cons_of_mem _ member)
      have fitRest := fun node member => fit node (List.mem_cons_of_mem (key, entry) member)
      have there := registered (key, entry) List.mem_cons_self
      refine Action.ends_bind.mpr (Action.ends_on.mpr (Namespace.attains_remove same there ?_))
      cases kind : entry.isShelf with
      | true =>
          have canonical : entry.location.IsCanonical := ⟨key, valid, located⟩
          have place : entry.location.path = Location.placeOf key := by rw [located]; rfl
          simp only [if_true]
          refine Action.ends_bind.mpr (attains_deleteShelf canonical ?_)
          refine ih rfl stay fitRest others ?_
          rw [place]
          simpa [Location.placesOf, kind] using next
      | false =>
          simp only [Bool.false_eq_true, if_false]
          refine ih rfl stay fitRest others ?_
          simpa [Location.placesOf, kind] using next

/-- Nodes of a library that mirrors its stores are stored where their keys say, and so may be
removed. -/
theorem Mirrors.attains_deleteNodes (mirrors : library.Mirrors held) {gone : List Namespace.Node}
    {goal : Except LibraryError Unit → Library → MemoryStores → Prop}
    (registered : ∀ node ∈ gone, Table.get? held.nodes node.1 = some node.2)
    (distinct : (gone.map Prod.fst).Nodup)
    (next : goal (.ok ())
      { library with nodes := .ofTable (Table.eraseAll held.nodes (gone.map Prod.fst)) }
      { held with
        nodes := Table.eraseAll held.nodes (gone.map Prod.fst)
        shelves := Table.eraseAll held.shelves (Location.placesOf gone) }) :
    Action.Attains (deleteNodes gone) library held goal := by
  refine Library.attains_deleteNodes mirrors.nodes_eq registered (fun node member => ?_) distinct
    next
  have there := registered node member
  exact ⟨mirrors.consistent.valid _ _ there, mirrors.consistent.located _ _ there⟩

/-- Removing a shelf is removing the node. -/
theorem deleteShelf_eq (key : String) {entry : Entry} (kind : entry.isShelf = true) :
    deleteShelf key entry = deleteNodes [(key, entry)] := by
  simp [deleteShelf, deleteNodes, kind]

theorem forM_deleteShelf {candidates : List Candidate}
    (kind : ∀ node ∈ nodesOf candidates, node.2.isShelf = true) :
    (candidates.forM fun candidate => deleteShelf candidate.key candidate.entry) =
      deleteNodes (nodesOf candidates) := by
  induction candidates with
  | nil => rfl
  | cons candidate rest ih =>
      have first : candidate.entry.isShelf = true := kind _ List.mem_cons_self
      have others := ih fun node member => kind node (List.mem_cons_of_mem _ member)
      change (deleteShelf candidate.key candidate.entry >>= fun _ => rest.forM _) = _
      rw [others]
      simp [deleteShelf, nodesOf, deleteNodes, first]

theorem settles_deleteShelves (mirrors : library.Mirrors held) {step : Remove}
    {gone : List Namespace.Node} (under : AreUnder held.nodes step.path gone) :
    Action.Attains (deleteNodes gone) library held
      (library.Settles held (Effect library held (.remove step))) :=
  mirrors.attains_deleteNodes under.registered under.distinct (.removedShelves under)

/-- A section is removed with everything in it, what lies deeper first. -/
theorem attains_deleteSection (mirrors : library.Mirrors held) (path : String)
    {goal : Except LibraryError Nat → Library → MemoryStores → Prop}
    (next : ∀ gone, gone = (held.nodes.filter fun node => Path.isWithin node.1 path).reverse →
      goal (.ok gone.length)
        { library with
          nodes := .ofTable (Table.eraseAll held.nodes (gone.map Prod.fst))
          catalog := library.catalog.removeSubtree path }
        { nodes := Table.eraseAll held.nodes (gone.map Prod.fst)
          shelves := Table.eraseAll held.shelves (Location.placesOf gone)
          catalog := some (library.catalog.removeSubtree path) }) :
    Action.Attains (deleteSection path) library held goal := by
  have sorted := mirrors.consistent.nodes_sorted
  let inside := held.nodes.filter fun node => Path.isWithin node.1 path
  have scanned : library.nodes.subtree path = inside := by
    rw [mirrors.nodes_eq, Namespace.subtree_ofTable sorted]
  have registered : ∀ node ∈ inside.reverse, Table.get? held.nodes node.1 = some node.2 :=
    fun node member =>
      Table.get?_of_mem sorted (List.mem_filter.mp (List.mem_reverse.mp member)).1
  have distinct : (inside.reverse.map Prod.fst).Nodup := by
    rw [List.map_reverse, List.nodup_reverse]
    exact (Table.nodup_keys sorted).sublist (List.filter_sublist.map Prod.fst)
  have counted : inside.length = inside.reverse.length := List.length_reverse.symm
  unfold deleteSection
  refine Action.ends_bind.mpr ?_
  simp only [Action.ends_get, scanned, counted]
  refine Action.ends_bind.mpr (mirrors.attains_deleteNodes registered distinct ?_)
  exact Action.ends_bind.mpr (attains_editCatalog (next inside.reverse rfl))

theorem settles_deleteSection (mirrors : library.Mirrors held) (step : Remove) :
    Action.Attains (deleteSection step.path) library held
      (library.Settles held (Effect library held (.remove step))) := by
  refine attains_deleteSection mirrors step.path fun gone same => .removedSection fun node => ?_
  rw [same, List.mem_reverse, List.mem_filter]

theorem settles_remove (mirrors : library.Mirrors held) (step : Remove) :
    Action.Attains (remove step) library held
      (library.Settles held (Effect library held (.remove step))) := by
  unfold remove
  split
  · rename_i filters _
    refine settles_after (attains_once (prepares_find mirrors.shows step.path (some filters)))
      fun selected under => ?_
    rw [forM_deleteShelf under.kind]
    exact settles_report (settles_deleteShelves mirrors under)
  · split
    · refine settles_resolving mirrors
        (Namespace.isRefusal_resolveShelf _ step.path) fun entry found => ?_
      obtain ⟨registered, kind⟩ := Namespace.of_resolveShelf found
      rw [deleteShelf_eq step.path kind]
      exact settles_report (settles_deleteShelves mirrors (areUnder_singleton registered kind))
    · split
      · refine settles_resolving mirrors
          (Namespace.isRefusal_resolveSection _ step.path) fun _ _ => ?_
        exact settles_report (settles_deleteSection mirrors step)
      · exact settles_report ((isCommitted_editField mirrors.shows step.path _).settles mirrors rfl)

/-! ## Every operation -/

/-- An operation has its effect, or it fails without a fault and changes nothing. -/
theorem settles_perform (mirrors : library.Mirrors held) (operation : Operation) :
    Action.Attains (perform operation) library held
      (library.Settles held (Effect library held operation)) := by
  cases operation with
  | buildSection step => exact settles_buildSection mirrors step
  | buildShelf step => exact settles_buildShelf mirrors step
  | write step => exact (isCommitted_write mirrors.shows step).settles mirrors rfl
  | checkOut step =>
      refine settles_after (attains_once (prepares_readRows mirrors.shows step)) fun rows _ => ?_
      exact .checkedOut
  | revise step => exact (isCommitted_revise mirrors.shows step).settles mirrors rfl
  | remove step => exact settles_remove mirrors step
  | reset step => exact settles_reset mirrors step
  | setSchema step => exact settles_setSchema mirrors step

end ShelfLibrary.Library
