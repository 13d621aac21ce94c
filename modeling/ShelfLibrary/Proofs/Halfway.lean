import ShelfLibrary.Proofs.Endurance
import ShelfLibrary.Proofs.Merging

/-!
# Changes that stop halfway

An operation holds its changes back until all of them are known, and where it fails before that it
has stored nothing.  Then the shelves are stored one after another in key order.  The first one that
is refused ends the operation, and those before it keep their new records.  So what is left of the
changes, whichever calls fail, are the first ones of them.
-/

namespace ShelfLibrary

variable {s α β : Type} {library : Library} {held now : MemoryStores} {faults : FaultPlan}
  {world : FaultyStores MemoryStores}

/-! ## Calls that fail -/

namespace FaultyStores

variable {σ : Type} {stores : Stores σ} {view : σ → MemoryStores}

/-- Stores with faults as they are seen from what a view tells of those behind them. -/
def seen (view : σ → MemoryStores) (world : FaultyStores σ) : FaultyStores MemoryStores :=
  ⟨view world.stores, world.plan, world.drift, world.calls⟩

/-- Faithful stores with faults answer as stores in memory with the same faults do. -/
theorem follow (faithful : stores.AreFaithful view) :
    (answer stores).Follow (answer MemoryStores.answer)
      (fun request world => request.IsProper world.stores)
        fun low high => low.seen view = high := by
  rintro request world _ rfl proper
  obtain ⟨reply, after⟩ := faithful request world.stores _ rfl proper
  cases fault : world.plan world.calls request with
  | some cause => simp only [answer, seen, fault, and_self]
  | none => simp only [answer, seen, fault, reply, after, and_self]

end FaultyStores

/-- An action makes proper calls only of stores in memory with faults, and a goal holds at its
end. -/
abbrev Action.Meets (action : Action s α) (state : s) (world : FaultyStores MemoryStores)
    (goal : Except LibraryError α → s → FaultyStores MemoryStores → Prop) : Prop :=
  Action.Ends (FaultyStores.answer MemoryStores.answer)
    (fun request world => request.IsProper world.stores) action state world goal

/-- Only reading comes to what it comes to elsewhere, unless a shelf cannot be loaded. -/
theorem Plan.Reads.meets {refusal : LibraryError → Prop} {state : s}
    {plan : Plan (Except LibraryError α × s)} (reads : plan.Reads refusal state)
    {goal : Except LibraryError α × s → MemoryStores → Prop}
    (ends : plan.Ends MemoryStores.answer StoreCall.IsProper world.stores goal) :
    plan.Ends (FaultyStores.answer MemoryStores.answer)
      (fun request world => request.IsProper world.stores) world fun ended after =>
        after.stores = world.stores ∧ after.plan = world.plan ∧
          (goal ended world.stores ∨ ∃ calls location cause,
            world.plan calls (.loadShelf location) = some cause ∧
              ended = (.error (.storage cause), state)) := by
  induction plan generalizing world with
  | done ended => exact ⟨rfl, rfl, .inl ends⟩
  | call request next ih =>
      cases request with
      | loadShelf location =>
          refine ⟨ends.1, ?_⟩
          cases fault : world.plan world.calls (.loadShelf location) with
          | some cause =>
              simp only [FaultyStores.answer, fault, reads.1 cause]
              exact ⟨rfl, rfl, .inr ⟨_, _, _, fault, rfl⟩⟩
          | none =>
              simp only [FaultyStores.answer, fault]
              exact ih _ (reads.2 _) ends.2
      | _ => exact reads.elim

theorem Action.Reads.meets {refusal : LibraryError → Prop} {action : Action s α}
    (reads : action.Reads refusal) {state : s}
    {goal : Except LibraryError α → s → MemoryStores → Prop}
    (attains : action.Attains state world.stores goal) :
    action.Meets state world fun result after world' =>
      world'.stores = world.stores ∧ world'.plan = world.plan ∧
        (goal result after world.stores ∨ ∃ calls location cause,
          world.plan calls (.loadShelf location) = some cause ∧
            result = .error (.storage cause)) := by
  refine Plan.Ends.imp (Plan.Reads.meets (reads state) attains) ?_
  rintro ⟨result, after⟩ world' ⟨same, kept, reached | ⟨calls, location, cause, fault, ended⟩⟩
  · exact ⟨same, kept, .inl reached⟩
  · exact ⟨same, kept, .inr ⟨calls, location, cause, fault, congrArg Prod.fst ended⟩⟩

/-! ## Changes in order -/

namespace MemoryStores

/-- Contents are stored at the place of a key. -/
def store (held : MemoryStores) (key : String) (contents : ShelfData) : MemoryStores :=
  { held with shelves := Table.insert held.shelves (Location.placeOf key) contents }

theorem storedAt_store_of_ne {key other : String} (contents : ShelfData)
    (apart : Location.placeOf key ≠ Location.placeOf other) :
    (held.store key contents).storedAt other = held.storedAt other := by
  rw [storedAt, store, Table.get?_insert_of_ne _ _ apart, storedAt]

theorem IsRewritten.refl (held : MemoryStores) : held.IsRewritten [] held where
  nodes_eq := rfl
  catalog_eq := rfl
  replaced := by simp
  kept _ _ := rfl

/-- A record is replaced before others are. -/
theorem IsRewritten.cons {key : String} {record : Record} {made : Table Record}
    (apart : ∀ other ∈ Table.keys made, Location.placeOf key ≠ Location.placeOf other)
    (rewritten : (held.store key { held.storedAt key with data := record }).IsRewritten made now) :
    held.IsRewritten ((key, record) :: made) now where
  nodes_eq := rewritten.nodes_eq
  catalog_eq := rewritten.catalog_eq
  replaced other found there := by
    rw [Table.get?_cons] at there
    split at there
    · rename_i same
      obtain rfl := Option.some.inj there
      subst same
      rw [rewritten.kept _ apart]
      exact Table.get?_insert_self _ _ _
    · have listed : other ∈ Table.keys made := Table.mem_keys_iff.mpr (by rw [there]; rfl)
      rw [rewritten.replaced other found there, storedAt_store_of_ne _ (apart other listed)]
  kept place elsewhere := by
    obtain ⟨first, others⟩ := List.forall_mem_cons.mp elsewhere
    rw [rewritten.kept place others]
    exact Table.get?_insert_of_ne _ _ first.symm

/-- Changes have been stored in order, all of them or those before one that was refused. -/
inductive IsStoredInOrder (held : MemoryStores) (faults : FaultPlan) (changes : Table Record) :
    Except LibraryError α → MemoryStores → Prop
  /-- A shelf could not be stored. -/
  | broken {made rest : Table Record} {key : String} {record : Record} {calls : Nat}
      {contents : ShelfData} {cause : StorageError} {now : MemoryStores}
      (whole : changes = made ++ (key, record) :: rest)
      (fault : faults calls (.storeShelf (.ofKey key) contents) = some cause)
      (rewritten : held.IsRewritten made now) :
      IsStoredInOrder held faults changes (.error (.storage cause)) now
  /-- All have been stored. -/
  | finished {value : α} {now : MemoryStores}
      (accepted : ∀ key ∈ Table.keys changes, ∃ calls contents,
        faults calls (.storeShelf (.ofKey key) contents) = none)
      (rewritten : held.IsRewritten changes now) :
      IsStoredInOrder held faults changes (.ok value) now

namespace IsStoredInOrder

variable {changes : Table Record} {result : Except LibraryError α}

/-- A record has been stored before the others. -/
theorem cons {key : String} {record : Record} {calls : Nat} {contents : ShelfData}
    (accepted : faults calls (.storeShelf (.ofKey key) contents) = none)
    (apart : ∀ other ∈ Table.keys changes, Location.placeOf key ≠ Location.placeOf other)
    (stored : IsStoredInOrder (held.store key { held.storedAt key with data := record }) faults
      changes result now) :
    held.IsStoredInOrder faults ((key, record) :: changes) result now := by
  cases stored with
  | broken whole fault rewritten =>
      subst whole
      refine .broken (congrArg _ rfl) fault (rewritten.cons fun other listed => apart other ?_)
      rw [Table.keys, List.map_append]
      exact List.mem_append_left _ listed
  | finished others rewritten =>
      refine .finished (List.forall_mem_cons.mpr ⟨⟨_, _, accepted⟩, others⟩) ?_
      exact rewritten.cons apart

end IsStoredInOrder

/-- Changes have been attempted, if they can be made: nothing is stored until all of them are
known. -/
inductive IsAttempted (held : MemoryStores) (faults : FaultPlan)
    (changes : Except LibraryError (Table Record)) : Except LibraryError α → MemoryStores → Prop
  /-- The changes cannot be made. -/
  | refused {e : LibraryError} (impossible : changes = .error e) :
      IsAttempted held faults changes (.error e) held
  /-- A shelf could not be loaded. -/
  | unread {calls : Nat} {location : Location} {cause : StorageError}
      (fault : faults calls (.loadShelf location) = some cause) :
      IsAttempted held faults changes (.error (.storage cause)) held
  /-- The changes, which are those of shelves in key order, have been stored as far as possible. -/
  | stored {whole : Table Record} {result : Except LibraryError α} {now : MemoryStores}
      (known : changes = .ok whole) (sorted : Table.Sorted whole)
      (registered : ∀ key ∈ Table.keys whole,
        ∃ entry, Table.get? held.nodes key = some entry ∧ entry.isShelf = true)
      (stored : held.IsStoredInOrder faults whole result now) :
      IsAttempted held faults changes result now

theorem IsAttempted.map {changes : Except LibraryError (Table Record)}
    {result : Except LibraryError α} (attempted : held.IsAttempted faults changes result now)
    (report : α → β) : held.IsAttempted faults changes (result.map report) now := by
  cases attempted with
  | refused impossible => exact .refused impossible
  | unread fault => exact .unread fault
  | stored known sorted registered stored =>
      refine .stored known sorted registered ?_
      cases stored with
      | broken whole fault rewritten => exact .broken whole fault rewritten
      | finished accepted rewritten => exact .finished accepted rewritten

end MemoryStores

/-! ## Storing the changes of a session -/

namespace Session

variable {session : Session} {records : Table Record}

/-- The records that are held back among those of some shelves. -/
def heldBack (opened : List (String × OpenShelf)) : Table Record :=
  opened.filterMap fun shelf =>
    if shelf.2.isChanged then some (shelf.1, shelf.2.contents.data) else none

theorem mem_heldBack {opened : List (String × OpenShelf)} {key : String} {record : Record} :
    (key, record) ∈ heldBack opened ↔ ∃ shelf, (key, shelf) ∈ opened ∧ shelf.isChanged = true ∧
      shelf.contents.data = record := by
  simp only [heldBack, List.mem_filterMap, Option.ite_none_right_eq_some, Option.some.injEq,
    Prod.mk.injEq]
  constructor
  · rintro ⟨⟨_, shelf⟩, member, changed, rfl, same⟩
    exact ⟨shelf, member, changed, same⟩
  · rintro ⟨shelf, member, changed, same⟩
    exact ⟨(key, shelf), member, changed, rfl, same⟩

theorem heldBack_cons_of_none {key : String} (unreplaced : Table.get? records key = none)
    (rest : List (String × OpenShelf)) :
    heldBack ((key, cached held records key) :: rest) = heldBack rest := by
  simp [heldBack, cached, unreplaced]

theorem heldBack_cons_of_some {key : String} {record : Record}
    (replaced : Table.get? records key = some record) (rest : List (String × OpenShelf)) :
    heldBack ((key, cached held records key) :: rest) = (key, record) :: heldBack rest := by
  simp [heldBack, cached, replaced]

theorem keys_heldBack_subset (opened : List (String × OpenShelf)) :
    Table.keys (heldBack opened) ⊆ opened.map Prod.fst := by
  intro key listed
  obtain ⟨⟨_, record⟩, member, rfl⟩ := List.mem_map.mp listed
  obtain ⟨shelf, member, -⟩ := mem_heldBack.mp member
  exact List.mem_map_of_mem member

theorem sorted_heldBack {opened : Table OpenShelf} (sorted : Table.Sorted opened) :
    Table.Sorted (heldBack opened) := by
  refine List.pairwise_filterMap.mpr (sorted.imp fun below first kept last keptLast => ?_)
  obtain ⟨-, ⟨⟩⟩ := Option.ite_none_right_eq_some.mp kept
  obtain ⟨-, ⟨⟩⟩ := Option.ite_none_right_eq_some.mp keptLast
  exact below

theorem cached_eq_of_storedAt_eq {key : String} (same : now.storedAt key = held.storedAt key) :
    cached now records key = cached held records key := by
  rw [cached, cached, same]

/-- A shelf is stored, or it is refused and nothing is done. -/
theorem meets_storeShelf {state : s} {key : String} (valid : Path.isValid key = true)
    {contents : ShelfData}
    {goal : Except LibraryError Unit → s → FaultyStores MemoryStores → Prop}
    (accepted : ∀ after : FaultyStores MemoryStores,
      world.plan world.calls (.storeShelf (.ofKey key) contents) = none →
        after.stores = world.stores.store key contents → after.plan = world.plan →
          goal (.ok ()) state after)
    (refused : ∀ (cause : StorageError) (after : FaultyStores MemoryStores),
      world.plan world.calls (.storeShelf (.ofKey key) contents) = some cause →
        after.stores = world.stores → goal (.error (.storage cause)) state after) :
    Action.Meets (Action.ask (.storeShelf (.ofKey key) contents)) state world goal := by
  refine Action.ends_ask.mpr ⟨⟨key, valid, rfl⟩, ?_⟩
  cases fault : world.plan world.calls (.storeShelf (.ofKey key) contents) with
  | none =>
      simp only [FaultyStores.answer, fault]
      exact accepted _ fault rfl rfl
  | some cause =>
      simp only [FaultyStores.answer, fault]
      exact refused cause _ fault rfl

/-- Shelves are stored in order until one is refused. -/
theorem meets_storeAll {opened : List (String × OpenShelf)}
    (valid : ∀ shelf ∈ opened, Path.isValid shelf.1 = true)
    (faithful : ∀ shelf ∈ opened, shelf.2 = cached world.stores records shelf.1)
    (distinct : (opened.map Prod.fst).Nodup) :
    Action.Meets (storeAll opened) library world fun result _ after =>
      world.stores.IsStoredInOrder world.plan (heldBack opened) result after.stores := by
  induction opened generalizing world with
  | nil => exact .finished (by simp [heldBack, Table.keys]) (.refl _)
  | cons first rest ih =>
      obtain ⟨key, shelf⟩ := first
      obtain ⟨validFirst, validRest⟩ := List.forall_mem_cons.mp valid
      obtain ⟨faithfulFirst, faithfulRest⟩ := List.forall_mem_cons.mp faithful
      obtain ⟨fresh, distinctRest⟩ := List.nodup_cons.mp distinct
      have apart := placeOf_ne_of_fresh validFirst validRest fresh
      have held_eq : shelf = cached world.stores records key := faithfulFirst
      unfold storeAll
      cases replaced : Table.get? records key with
      | none =>
          have unchanged : shelf.isChanged = false := by rw [held_eq, cached, replaced]
          have next : heldBack ((key, shelf) :: rest) = heldBack rest := by
            rw [held_eq, heldBack_cons_of_none replaced]
          simp only [next, unchanged, Bool.false_eq_true, if_false]
          exact ih validRest faithfulRest distinctRest
      | some record =>
          have same : shelf =
              ⟨.ofKey key, { world.stores.storedAt key with data := record }, true⟩ := by
            rw [held_eq, cached, replaced]
          have next : heldBack ((key, shelf) :: rest) = (key, record) :: heldBack rest := by
            rw [held_eq, heldBack_cons_of_some replaced]
          rw [next]
          subst same
          simp only [if_true]
          refine Action.ends_bind.mpr (meets_storeShelf validFirst ?_ ?_)
          · intro world' accepted stores_eq plan_eq
            have still : ∀ shelf ∈ rest, shelf.2 = cached world'.stores records shelf.1 := by
              intro shelf member
              rw [faithfulRest shelf member, stores_eq]
              exact (cached_eq_of_storedAt_eq
                (MemoryStores.storedAt_store_of_ne _ (apart _ (List.mem_map_of_mem member)))).symm
            refine (ih validRest still distinctRest).imp fun result _ after stored => ?_
            rw [stores_eq, plan_eq] at stored
            refine stored.cons accepted fun other listed => ?_
            exact apart other (keys_heldBack_subset _ listed)
          · intro cause world' fault stores_eq
            exact stores_eq ▸ .broken rfl fault (.refl _)

end Session

/-! ## Work that attempts changes -/

namespace Library

open Session

variable {changes : Except LibraryError (Table Record)}

/-- Over stores that hold something, an action attempts some changes, whichever calls fail by a
plan. -/
def Attempts (library : Library) (held : MemoryStores) (faults : FaultPlan)
    (changes : Except LibraryError (Table Record)) (action : Task α) : Prop :=
  ∀ world : FaultyStores MemoryStores, world.stores = held → world.plan = faults →
    action.Meets library world fun result _ after =>
      held.IsAttempted faults changes result after.stores

namespace Attempts

/-- Work that only reads comes before. -/
theorem after {task : Session.Task β} {next : β → Session.Task α} {session : Session}
    {found : Except LibraryError (β × Session) → Prop} (reads : Session.Reads (fun _ => True) task)
    (attains : Action.Attains (task session) library held fun ended library' held' =>
      library' = library ∧ held' = held ∧ found ended)
    (onward : ∀ value session, found (.ok (value, session)) →
      Attempts library held faults changes (next value session))
    (failed : ∀ e, found (.error e) → changes = .error e) :
    Attempts library held faults changes ((task >>= next) session) := by
  rintro world rfl rfl
  refine Action.ends_bind.mpr (((reads session).meets attains).imp fun ended library' world' => ?_)
  rintro ⟨same, kept, ⟨rfl, -, reached⟩ | ⟨calls, location, cause, fault, rfl⟩⟩
  · cases ended with
    | ok value => exact onward value.1 value.2 reached world' same kept
    | error e => exact same ▸ .refused (failed e reached)
  · exact same ▸ .unread fault

/-- Work that finds something comes before. -/
theorem found {task : Session.Task β} {next : β → Session.Task α} {session : Session}
    {result : Except LibraryError β} {later : β → Except LibraryError (Table Record)}
    (reads : Session.Reads (fun _ => True) task) (finds : Finds library held task result)
    (caches : session.Caches held [])
    (onward : ∀ value session, result = .ok value → Caches session held [] →
      Attempts library held faults (later value) (next value session)) :
    Attempts library held faults (result >>= later) ((task >>= next) session) := by
  refine after reads (finds session caches) (fun value session reached => ?_) fun e failed => ?_
  · obtain ⟨rfl, caches⟩ := reached
    exact onward value session rfl caches
  · rw [failed]
    rfl

theorem found_ok {task : Session.Task β} {next : β → Session.Task α} {session : Session} {value : β}
    (reads : Session.Reads (fun _ => True) task) (finds : Finds library held task (.ok value))
    (caches : session.Caches held [])
    (onward : ∀ session, Caches session held [] →
      Attempts library held faults changes (next value session)) :
    Attempts library held faults changes ((task >>= next) session) := by
  have attempts : Attempts library held faults (.ok value >>= fun _ => changes)
      ((task >>= next) session) := by
    refine found reads finds caches ?_
    rintro _ session ⟨⟩ caches
    exact onward session caches
  exact attempts

theorem throw {e : LibraryError} (session : Session) :
    Attempts library held faults (.error e) ((throw e : Session.Task α) session) := by
  rintro world rfl rfl
  exact .refused rfl

/-- Work that reports on what is attempted attempts the same. -/
theorem report {action : Task β} {report : β → α}
    (attempts : Attempts library held faults changes action) :
    Attempts library held faults changes (action >>= fun value => pure (report value)) := by
  intro world same kept
  refine Action.ends_bind.mpr ((attempts world same kept).imp fun result _ _ attempted => ?_)
  have reported := attempted.map report
  cases result <;> exact reported

theorem once {task : Session.Task α}
    (attempts : Attempts library held faults changes (task [])) :
    Attempts library held faults changes (once task) :=
  fun world same kept => Action.ends_map.mpr
    ((attempts world same kept).imp fun _ _ _ attempted => attempted.map Prod.fst)

end Attempts

end Library

namespace Session

variable {session : Session} {whole : Table Record}

/-- Only which records are to be replaced counts. -/
theorem Caches.congr {records others : Table Record} (caches : session.Caches held records)
    (same : ∀ key, Table.get? others key = Table.get? records key) :
    session.Caches held others where
  sorted := caches.sorted
  registered := caches.registered
  faithful key shelf read := by
    rw [caches.faithful key shelf read, cached, cached, same key]
  covers key unread := same key ▸ caches.covers key unread

/-- What a session holds back are the records that are to be replaced. -/
theorem Caches.heldBack_eq (caches : session.Caches held whole) (sorted : Table.Sorted whole) :
    heldBack session = whole := by
  refine Table.ext_of_sorted (sorted_heldBack caches.sorted) sorted fun key =>
    Option.ext fun record => ?_
  rw [Table.get?_eq_some_iff (sorted_heldBack caches.sorted), mem_heldBack]
  constructor
  · rintro ⟨shelf, member, changed, rfl⟩
    rw [caches.faithful key shelf (Table.get?_of_mem caches.sorted member)] at changed ⊢
    unfold cached at changed ⊢
    split at changed
    · cases changed
    · assumption
  · intro replaced
    cases there : Table.get? session key with
    | none => cases (caches.covers key there).symm.trans replaced
    | some shelf =>
        refine ⟨shelf, Table.mem_of_get? there, ?_⟩
        rw [caches.faithful key shelf there, cached, replaced]
        exact ⟨rfl, rfl⟩

/-- The shelves whose records are to be replaced are registered. -/
theorem Caches.registered_of_mem (caches : session.Caches held whole) {key : String}
    (listed : key ∈ Table.keys whole) :
    ∃ entry, Table.get? held.nodes key = some entry ∧ entry.isShelf = true := by
  cases there : Table.get? session key with
  | none =>
      rw [Table.mem_keys_iff, caches.covers key there] at listed
      cases listed
  | some shelf => exact caches.registered key shelf there

/-- Storing a session attempts what it holds back. -/
theorem Caches.attempts_commit (caches : session.Caches held whole)
    (shows : library.Shows held) (sorted : Table.Sorted whole) (value : α) :
    library.Attempts held faults (.ok whole)
      ((commit >>= fun _ => pure value : Session.Task α) session) := by
  have read : ∀ shelf ∈ session, Table.get? session shelf.1 = some shelf.2 :=
    fun shelf member => Table.get?_of_mem caches.sorted member
  have valid : ∀ shelf ∈ session, Path.isValid shelf.1 = true := by
    intro shelf member
    obtain ⟨entry, found, -⟩ := caches.registered _ _ (read shelf member)
    exact shows.tree.valid _ _ found
  have stores : library.Attempts held faults (.ok whole) (storeAll session) := by
    rintro world rfl rfl
    refine (meets_storeAll valid (fun shelf member => caches.faithful _ _ (read shelf member))
      (Table.nodup_keys caches.sorted)).imp fun result _ after stored => ?_
    rw [caches.heldBack_eq sorted] at stored
    exact .stored rfl sorted (fun key => caches.registered_of_mem) stored
  have commits : library.Attempts held faults (.ok whole) (commit session) := by
    change library.Attempts held faults (.ok whole) (commit.run session)
    rw [run_commit]
    exact stores.report
  exact commits.report

end Session

end ShelfLibrary
