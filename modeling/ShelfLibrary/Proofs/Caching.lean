import ShelfLibrary.Proofs.Operations

/-!
# Sessions as caches

A session holds of each shelf that it has read what is stored of it, save for the records that are
to be replaced.  What is read through a session depends on the library and on its stores only, not
on what has been read before; and when the session is stored, just the records that have been
replaced in it are replaced in the stores.
-/

namespace ShelfLibrary

/-- What is stored of a shelf; nothing if no contents are. -/
def MemoryStores.storedAt (held : MemoryStores) (key : String) : ShelfData :=
  (Table.get? held.shelves (Location.placeOf key)).getD .empty

theorem MemoryStores.storedAt_of_get? {held : MemoryStores} {key : String} {old : ShelfData}
    (stored : Table.get? held.shelves (Location.placeOf key) = some old) :
    held.storedAt key = old := by
  rw [MemoryStores.storedAt, stored]
  rfl

/-- The records of some shelves have been replaced, and nothing else has changed. -/
structure MemoryStores.IsRewritten (before : MemoryStores) (records : Table Record)
    (after : MemoryStores) : Prop where
  /-- The nodes stay. -/
  nodes_eq : after.nodes = before.nodes
  /-- The catalog stays. -/
  catalog_eq : after.catalog = before.catalog
  /-- A record has been replaced beside what was said about the shelf. -/
  replaced : ∀ key record, Table.get? records key = some record →
    Table.get? after.shelves (Location.placeOf key) =
      some { before.storedAt key with data := record }
  /-- All other contents stay. -/
  kept : ∀ place, (∀ key ∈ Table.keys records, place ≠ Location.placeOf key) →
    Table.get? after.shelves place = Table.get? before.shelves place

/-- Only which records have been replaced counts. -/
theorem MemoryStores.IsRewritten.congr {before after : MemoryStores} {records others : Table Record}
    (rewritten : before.IsRewritten records after)
    (same : ∀ key, Table.get? others key = Table.get? records key) :
    before.IsRewritten others after where
  nodes_eq := rewritten.nodes_eq
  catalog_eq := rewritten.catalog_eq
  replaced key record replaced := rewritten.replaced key record (same key ▸ replaced)
  kept place elsewhere := by
    refine rewritten.kept place fun key member => elsewhere key ?_
    rw [Table.mem_keys_iff] at member ⊢
    rwa [same key]

namespace Session

variable {α β : Type} {library : Library} {held : MemoryStores} {records : Table Record}
  {session : Session}

/-- A shelf as a session holds it: as it is stored, or with another record. -/
def cached (held : MemoryStores) (records : Table Record) (key : String) : OpenShelf :=
  match Table.get? records key with
  | none => ⟨.ofKey key, held.storedAt key, false⟩
  | some record => ⟨.ofKey key, { held.storedAt key with data := record }, true⟩

/-- A session holds shelves as they are stored, save for some records that are to be replaced. -/
structure Caches (session : Session) (held : MemoryStores) (records : Table Record) : Prop where
  /-- The shelves are in key order. -/
  sorted : Table.Sorted session
  /-- Shelves only are held. -/
  registered : ∀ key shelf, Table.get? session key = some shelf →
    ∃ entry, Table.get? held.nodes key = some entry ∧ entry.isShelf = true
  /-- They are held as they are stored, or with another record. -/
  faithful : ∀ key shelf, Table.get? session key = some shelf → shelf = cached held records key
  /-- The shelves whose records are to be replaced are held. -/
  covers : ∀ key, Table.get? session key = none → Table.get? records key = none

theorem caches_nil (held : MemoryStores) : Caches [] held [] where
  sorted := Table.sorted_nil
  registered := by simp
  faithful := by simp
  covers := by simp

/-- A task goes on after an action on the library with the same session. -/
theorem ends_lift_bind {action : Action Library α} {next : α → Session.Task β}
    {goal : Except LibraryError (β × Session) → Library → MemoryStores → Prop} :
    Action.Attains ((liftM action >>= next) session) library held goal ↔
      Action.Attains action library held fun ended library held =>
        match ended with
        | .ok value => Action.Attains (next value session) library held goal
        | .error e => goal (.error e) library held := by
  refine Action.ends_bind.trans (Action.ends_bind.trans ?_)
  refine ⟨fun ends => ends.imp fun ended _ _ reached => ?_,
    fun ends => ends.imp fun ended _ _ reached => ?_⟩ <;> cases ended <;> exact reached

/-! ## What reading finds -/

/-- From whatever has been read before, a task comes to one result and changes nothing. -/
def Finds (library : Library) (held : MemoryStores) (task : Session.Task α)
    (result : Except LibraryError α) : Prop :=
  ∀ session : Session, session.Caches held [] →
    Action.Attains (task session) library held fun ended library' held' =>
      library' = library ∧ held' = held ∧
        match ended with
        | .ok (value, session) => result = .ok value ∧ session.Caches held []
        | .error e => result = .error e

namespace Finds

theorem pure (value : α) : Finds library held (pure value) (.ok value) :=
  fun _ caches => ⟨rfl, rfl, rfl, caches⟩

theorem throw (e : LibraryError) : Finds library held (throw e : Session.Task α) (.error e) :=
  fun _ _ => ⟨rfl, rfl, rfl⟩

theorem bind_ok {task : Session.Task α} {next : α → Session.Task β} {value : α}
    {result : Except LibraryError β} (finds : Finds library held task (.ok value))
    (onward : Finds library held (next value) result) :
    Finds library held (task >>= next) result := by
  intro session caches
  refine Action.ends_bind.mpr ((finds session caches).imp fun ended library' held' => ?_)
  rintro ⟨rfl, rfl, found⟩
  cases ended with
  | ok reached =>
      obtain ⟨same, caches⟩ := found
      obtain rfl := Except.ok.inj same
      exact onward reached.2 caches
  | error e => cases found

theorem bind_error {task : Session.Task α} {next : α → Session.Task β} {e : LibraryError}
    (finds : Finds library held task (.error e)) :
    Finds library held (task >>= next) (.error e) := by
  intro session caches
  refine Action.ends_bind.mpr ((finds session caches).imp fun ended library' held' => ?_)
  rintro ⟨rfl, rfl, found⟩
  cases ended with
  | ok reached => cases found.1
  | error e =>
      cases found
      exact ⟨rfl, rfl, rfl⟩

theorem bind {task : Session.Task α} {next : α → Session.Task β} {first : Except LibraryError α}
    {onward : α → Except LibraryError β} (finds : Finds library held task first)
    (later : ∀ value, first = .ok value → Finds library held (next value) (onward value)) :
    Finds library held (task >>= next) (first >>= onward) := by
  cases first with
  | ok value => exact finds.bind_ok (later value rfl)
  | error e => exact finds.bind_error

theorem mapM {items : List α} {step : α → Session.Task β} {value : α → β}
    (steps : ∀ item ∈ items, Finds library held (step item) (.ok (value item))) :
    Finds library held (items.mapM step) (.ok (items.map value)) := by
  induction items with
  | nil => exact pure []
  | cons item rest ih =>
      rw [List.mapM_cons]
      obtain ⟨first, others⟩ := List.forall_mem_cons.mp steps
      exact first.bind_ok ((ih others).bind_ok (pure _))

theorem map {task : Session.Task α} {result : Except LibraryError α}
    (finds : Finds library held task result) (change : α → β) :
    Finds library held (task >>= fun value => Pure.pure (change value)) (result.map change) := by
  cases result with
  | ok value => exact finds.bind_ok (.pure _)
  | error e => exact finds.bind_error

theorem lift {action : Action Library α} {result : Except LibraryError α}
    (attains : Action.Attains action library held fun found library' held' =>
      library' = library ∧ held' = held ∧ found = result) :
    Finds library held (liftM action) result := by
  intro session caches
  refine Action.ends_bind.mpr (attains.imp fun ended library' held' => ?_)
  rintro ⟨rfl, rfl, rfl⟩
  cases ended with
  | ok value => exact ⟨rfl, rfl, rfl, caches⟩
  | error e => exact ⟨rfl, rfl, rfl⟩

theorem get : Finds library held (liftM (MonadState.get : Action Library Library)) (.ok library) :=
  lift ⟨rfl, rfl, rfl⟩

/-- What a task that prepares finds is what it should. -/
theorem holds {task : Session.Task α} {value : α} {found : α → Prop}
    (finds : Finds library held task (.ok value))
    (prepares : Prepares library held (fun _ _ => False) task found) : found value := by
  obtain ⟨-, -, ended⟩ := (finds [] (caches_nil held)).runOn
  obtain ⟨-, -, outcome⟩ := (prepares [] (fits_nil _ _)).runOn
  cases result : ((task []).runOn MemoryStores.answer library held).1 with
  | ok reached =>
      rw [result] at ended outcome
      obtain rfl := Except.ok.inj ended.1
      exact outcome.1
  | error e =>
      rw [result] at ended
      cases ended

/-- A task by itself comes to what it finds. -/
theorem once {task : Session.Task α} {result : Except LibraryError α}
    (finds : Finds library held task result) :
    Action.Attains (once task) library held fun found library' held' =>
      library' = library ∧ held' = held ∧ found = result := by
  refine Action.ends_map.mpr ((finds [] (caches_nil held)).imp fun ended library' held' => ?_)
  rintro ⟨rfl, rfl, found⟩
  refine ⟨rfl, rfl, ?_⟩
  cases ended with
  | ok value => exact found.1.symm
  | error e => exact found.symm

/-- Work in a session of its own goes on with what its first task finds. -/
theorem once_bind {task : Session.Task α} {next : α → Session.Task β}
    {result : Except LibraryError α} (finds : Finds library held task result)
    {goal : Except LibraryError β → Library → MemoryStores → Prop}
    (onward : ∀ value session, result = .ok value → Caches session held [] →
      Action.Attains (next value session) library held fun ended => goal (ended.map Prod.fst))
    (failed : ∀ e, result = .error e → goal (.error e) library held) :
    Action.Attains (Session.once (task >>= next)) library held goal := by
  refine Action.ends_map.mpr (Action.ends_bind.mpr ((finds [] (caches_nil held)).imp ?_))
  rintro ended library held ⟨rfl, rfl, found⟩
  cases ended with
  | ok value => exact onward value.1 value.2 found.1 found.2
  | error e => exact failed e found

end Finds

/-! ## Shelves of a session -/

section Shelves

variable {key : String} {entry : Entry}

/-- A session goes on to cache when it holds one shelf more, or one with another record. -/
theorem Caches.insert (caches : session.Caches held records) {after : Table Record}
    (found : Table.get? held.nodes key = some entry) (kind : entry.isShelf = true)
    (same : ∀ other, key ≠ other → Table.get? after other = Table.get? records other) :
    Caches (Table.insert session key (cached held after key)) held after where
  sorted := Table.sorted_insert caches.sorted _ _
  registered other shelf read := by
    rw [Table.get?_insert] at read
    split at read
    · rename_i here
      exact here ▸ ⟨entry, found, kind⟩
    · exact caches.registered other shelf read
  faithful other shelf read := by
    rw [Table.get?_insert] at read
    split at read
    · rename_i here
      exact here ▸ (Option.some.inj read).symm
    · rename_i apart
      rw [caches.faithful other shelf read, cached, cached, same other apart]
  covers other unread := by
    rw [Table.get?_insert] at unread
    split at unread
    · cases unread
    · rename_i apart
      rw [same other apart]
      exact caches.covers other unread

/-- A shelf is read from the session, or from its store. -/
theorem Caches.attains_openShelf (caches : session.Caches held records)
    (shows : library.Shows held) (found : Table.get? held.nodes key = some entry)
    (kind : entry.isShelf = true) :
    Action.Attains (openShelf key entry session) library held fun ended library' held' =>
      library' = library ∧ held' = held ∧ ∃ session',
        ended = .ok (cached held records key, session') ∧ session'.Caches held records := by
  change Action.Attains ((openShelf key entry).run session) library held _
  cases read : Table.get? session key with
  | some shelf =>
      rw [run_openShelf_of_get? read]
      exact ⟨rfl, rfl, session, by rw [caches.faithful key shelf read], caches⟩
  | none =>
      rw [run_openShelf_of_get?_eq_none read]
      refine Action.ends_bind.mpr (attains_loadShelf (shows.tree.canonical found) ?_)
      have loaded : (⟨entry.location, (Table.get? held.shelves entry.location.path).getD .empty,
          false⟩ : OpenShelf) = cached held records key := by
        rw [cached, caches.covers key read, shows.tree.located key entry found]
        rfl
      refine ⟨rfl, rfl, _, ?_, caches.insert found kind fun _ _ => rfl⟩
      rw [← loaded]

theorem Finds.record (shows : library.Shows held)
    (found : Table.get? held.nodes key = some entry) (kind : entry.isShelf = true) :
    Finds library held (record key entry) (.ok (held.storedAt key).data) := by
  intro session caches
  refine Action.ends_bind.mpr ((caches.attains_openShelf shows found kind).imp ?_)
  rintro _ _ _ ⟨rfl, rfl, session', rfl, caches⟩
  exact ⟨rfl, rfl, rfl, caches⟩

/-- A record is to be replaced from then on. -/
theorem Caches.attains_replace (caches : session.Caches held records)
    (shows : library.Shows held) (found : Table.get? held.nodes key = some entry)
    (kind : entry.isShelf = true) (data : Record) :
    Action.Attains (replace key entry data session) library held fun ended library' held' =>
      library' = library ∧ held' = held ∧ ∃ session', ended = .ok ((), session') ∧
        session'.Caches held (Table.insert records key data) := by
  have changed : (⟨(cached held records key).location,
      { (cached held records key).contents with data := data }, true⟩ : OpenShelf) =
        cached held (Table.insert records key data) key := by
    rw [cached, cached, Table.get?_insert_self]
    cases Table.get? records key <;> rfl
  have elsewhere (other : String) (apart : key ≠ other) :
      Table.get? (Table.insert records key data) other = Table.get? records other :=
    Table.get?_insert_of_ne records data apart
  refine Action.ends_bind.mpr ((caches.attains_openShelf shows found kind).imp ?_)
  rintro _ _ _ ⟨rfl, rfl, session', rfl, caches⟩
  refine ⟨rfl, rfl, _, rfl, ?_⟩
  simp only [changed]
  exact caches.insert found kind elsewhere

end Shelves

/-! ## Storing what has been replaced -/

/-- A shelf is stored in another place than the shelves that follow it. -/
theorem placeOf_ne_of_fresh {key : String} {rest : List (String × OpenShelf)}
    (valid : Path.isValid key = true) (validRest : ∀ shelf ∈ rest, Path.isValid shelf.1 = true)
    (fresh : key ∉ rest.map Prod.fst) :
    ∀ other ∈ rest.map Prod.fst, Location.placeOf key ≠ Location.placeOf other := by
  intro other listed same
  obtain ⟨shelf, member, rfl⟩ := List.mem_map.mp listed
  exact fresh (Location.placeOf_injective valid (validRest shelf member) same ▸ listed)

/-- Just those of some shelves that have been changed have been stored. -/
structure HaveStored (opened : List (String × OpenShelf)) (before after : MemoryStores) :
    Prop where
  /-- The nodes stay. -/
  nodes_eq : after.nodes = before.nodes
  /-- The catalog stays. -/
  catalog_eq : after.catalog = before.catalog
  /-- What has been changed is stored. -/
  stored : ∀ shelf ∈ opened, shelf.2.isChanged = true →
    Table.get? after.shelves (Location.placeOf shelf.1) = some shelf.2.contents
  /-- All other contents stay. -/
  kept : ∀ place, (∀ shelf ∈ opened, shelf.2.isChanged = true →
    place ≠ Location.placeOf shelf.1) →
      Table.get? after.shelves place = Table.get? before.shelves place

section HaveStored

variable {before after : MemoryStores} {shelf : String × OpenShelf}
  {rest : List (String × OpenShelf)}

theorem HaveStored.nil : HaveStored [] before before :=
  ⟨rfl, rfl, by simp, fun _ _ => rfl⟩

theorem HaveStored.cons_unchanged (others : HaveStored rest before after)
    (unchanged : ¬ shelf.2.isChanged = true) : HaveStored (shelf :: rest) before after where
  nodes_eq := others.nodes_eq
  catalog_eq := others.catalog_eq
  stored other member changed := by
    rcases List.mem_cons.mp member with rfl | later
    · exact absurd changed unchanged
    · exact others.stored other later changed
  kept place elsewhere :=
    others.kept place fun other later => elsewhere other (List.mem_cons_of_mem _ later)

theorem HaveStored.cons_changed
    (others : HaveStored rest { before with
      shelves := Table.insert before.shelves (Location.placeOf shelf.1) shelf.2.contents } after)
    (changed : shelf.2.isChanged = true)
    (apart : ∀ other ∈ rest.map Prod.fst, Location.placeOf shelf.1 ≠ Location.placeOf other) :
    HaveStored (shelf :: rest) before after where
  nodes_eq := others.nodes_eq
  catalog_eq := others.catalog_eq
  stored other member isChanged := by
    rcases List.mem_cons.mp member with rfl | later
    · rw [others.kept _ fun other later _ => apart _ (List.mem_map_of_mem later)]
      exact Table.get?_insert_self _ _ _
    · exact others.stored other later isChanged
  kept place elsewhere := by
    rw [others.kept place fun other later => elsewhere other (List.mem_cons_of_mem _ later)]
    exact Table.get?_insert_of_ne _ _ (elsewhere _ List.mem_cons_self changed).symm

end HaveStored

/-- Just the shelves of a session that have been changed are stored. -/
theorem attains_storeAll_exact {opened : List (String × OpenShelf)}
    (valid : ∀ shelf ∈ opened, Path.isValid shelf.1 = true)
    (located : ∀ shelf ∈ opened, shelf.2.location = .ofKey shelf.1)
    (distinct : (opened.map Prod.fst).Nodup) :
    Action.Attains (storeAll opened) library held fun ended library' held' =>
      ended = .ok () ∧ library' = library ∧ HaveStored opened held held' := by
  induction opened generalizing held with
  | nil => exact ⟨rfl, rfl, .nil⟩
  | cons first rest ih =>
      obtain ⟨key, location, contents, isChanged⟩ := first
      obtain ⟨validFirst, validRest⟩ := List.forall_mem_cons.mp valid
      obtain ⟨locatedFirst, locatedRest⟩ := List.forall_mem_cons.mp located
      obtain ⟨fresh, distinctRest⟩ := List.nodup_cons.mp distinct
      obtain rfl : location = .ofKey key := locatedFirst
      unfold storeAll
      split
      · rename_i changed
        have canonical : (Location.ofKey key).IsCanonical := ⟨key, validFirst, rfl⟩
        refine Action.ends_bind.mpr (attains_storeShelf canonical ?_)
        refine (ih validRest locatedRest distinctRest).imp ?_
        rintro ended library' held' ⟨rfl, rfl, stored⟩
        have apart := placeOf_ne_of_fresh validFirst validRest fresh
        exact ⟨rfl, rfl, .cons_changed stored changed apart⟩
      · rename_i unchanged
        refine (ih validRest locatedRest distinctRest).imp ?_
        rintro ended library' held' ⟨rfl, rfl, stored⟩
        exact ⟨rfl, rfl, stored.cons_unchanged unchanged⟩

/-- When a session is stored, just the records that have been replaced in it are replaced. -/
theorem Caches.attains_commit (caches : session.Caches held records)
    (shows : library.Shows held) :
    Action.Attains (commit session) library held fun ended library' held' =>
      ended = .ok ((), session) ∧ library' = library ∧ held.IsRewritten records held' := by
  have read : ∀ shelf ∈ session, Table.get? session shelf.1 = some shelf.2 :=
    fun shelf member => Table.get?_of_mem caches.sorted member
  have valid : ∀ shelf ∈ session, Path.isValid shelf.1 = true := by
    intro shelf member
    obtain ⟨entry, found, -⟩ := caches.registered _ _ (read shelf member)
    exact shows.tree.valid _ _ found
  have held_eq : ∀ shelf ∈ session, shelf.2 = cached held records shelf.1 :=
    fun shelf member => caches.faithful _ _ (read shelf member)
  have located : ∀ shelf ∈ session, shelf.2.location = .ofKey shelf.1 := by
    intro shelf member
    rw [held_eq shelf member, cached]
    split <;> rfl
  change Action.Attains (commit.run session) library held _
  rw [run_commit]
  refine Action.ends_bind.mpr ((attains_storeAll_exact valid located
    (Table.nodup_keys caches.sorted)).imp ?_)
  rintro ended library' held' ⟨rfl, rfl, nodes, catalog, stored, kept⟩
  refine ⟨rfl, rfl, nodes, catalog, fun key record replaced => ?_, fun place elsewhere => ?_⟩
  · cases there : Table.get? session key with
    | none => cases (caches.covers key there).symm.trans replaced
    | some shelf =>
        have member := Table.mem_of_get? there
        have same := held_eq _ member
        simp only [cached, replaced] at same
        subst same
        have replaced := stored _ member rfl
        exact replaced
  · refine kept place fun shelf member changed => elsewhere _ ?_
    rw [held_eq shelf member, cached] at changed
    split at changed
    · cases changed
    · rename_i record replaced
      exact List.mem_map.mpr ⟨_, Table.mem_of_get? replaced, rfl⟩

end Session

end ShelfLibrary
