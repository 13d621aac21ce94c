import ShelfLibrary.Proofs.Memory

/-!
# What an operation reads and holds back

Before an operation stores anything it resolves paths, reads shelves and holds changes back.  None
of this changes the library or its stores, and it fails without a fault.
-/

namespace ShelfLibrary

/-- A settled operation has come to what it should, or has failed without a fault and changed
nothing. -/
def Library.Settles {α : Type} (library : Library) (held : MemoryStores)
    (done : Library → MemoryStores → Prop) (result : Except LibraryError α) (library' : Library)
    (held' : MemoryStores) : Prop :=
  match result with
  | .ok _ => done library' held'
  | .error e => e.isFatal = false ∧ library' = library ∧ held' = held

theorem Library.Settles.mono {α : Type} {library library' : Library} {held held' : MemoryStores}
    {done weaker : Library → MemoryStores → Prop} {result : Except LibraryError α}
    (settles : library.Settles held done result library' held')
    (weaken : ∀ library' held', done library' held' → weaker library' held') :
    library.Settles held weaker result library' held' := by
  cases result with
  | ok value => exact weaken library' held' settles
  | error e => exact settles

namespace Session

variable {α β : Type} {library : Library} {held : MemoryStores} {mayBecome : String → Record → Prop}

/-- What a session has read are shelves, and those that are to be changed may become what they
should. -/
def Fits (session : Session) (nodes : Table Entry) (mayBecome : String → Record → Prop) : Prop :=
  ∀ opened ∈ session, (∃ entry, Table.get? nodes opened.1 = some entry ∧ entry.isShelf = true) ∧
    opened.2.location = .ofKey opened.1 ∧
      (opened.2.isChanged = true → mayBecome opened.1 opened.2.contents.data)

theorem fits_nil (nodes : Table Entry) (mayBecome : String → Record → Prop) :
    Fits [] nodes mayBecome := by
  simp [Fits]

theorem Fits.insert {session : Session} {nodes : Table Entry} {key : String} {entry : Entry}
    {shelf : OpenShelf} (fits : session.Fits nodes mayBecome)
    (found : Table.get? nodes key = some entry) (kind : entry.isShelf = true)
    (located : shelf.location = .ofKey key)
    (allowed : shelf.isChanged = true → mayBecome key shelf.contents.data) :
    Fits (Table.insert session key shelf) nodes mayBecome := by
  intro opened member
  rcases Table.mem_insert member with rfl | old
  · exact ⟨⟨entry, found, kind⟩, located, allowed⟩
  · exact fits opened old

/-- An end at which nothing has been changed, and an error is no fault. -/
def Untouched (library : Library) (held : MemoryStores) (found : α → Prop)
    (result : Except LibraryError α) (library' : Library) (held' : MemoryStores) : Prop :=
  library' = library ∧ held' = held ∧
    match result with
    | .ok value => found value
    | .error e => e.isFatal = false

theorem Untouched.mono {found weaker : α → Prop} {result : Except LibraryError α}
    {library' : Library} {held' : MemoryStores}
    (untouched : Untouched library held found result library' held')
    (weaken : ∀ value, found value → weaker value) :
    Untouched library held weaker result library' held' := by
  obtain ⟨same, still, outcome⟩ := untouched
  refine ⟨same, still, ?_⟩
  cases result with
  | ok value => exact weaken value outcome
  | error e => exact outcome

theorem untouched_of_isMild {result : Except LibraryError α} (mild : Result.IsMild result) :
    Untouched library held (fun value => result = .ok value) result library held := by
  refine ⟨rfl, rfl, ?_⟩
  cases result with
  | ok value => rfl
  | error e => exact mild e rfl

/-- A task finds what it should, or fails without a fault, and has changed nothing but its session,
which still fits. -/
def Prepares (library : Library) (held : MemoryStores) (mayBecome : String → Record → Prop)
    (task : Session.Task α) (found : α → Prop) : Prop :=
  ∀ session : Session, session.Fits held.nodes mayBecome →
    Action.Attains (task session) library held
      (Untouched library held fun (value, session) =>
        found value ∧ session.Fits held.nodes mayBecome)

namespace Prepares

theorem pure {value : α} {found : α → Prop} (holds : found value) :
    Prepares library held mayBecome (pure value) found :=
  fun _ fits => ⟨rfl, rfl, holds, fits⟩

theorem throw {e : LibraryError} (harmless : e.isFatal = false) {found : α → Prop} :
    Prepares library held mayBecome (throw e) found :=
  fun _ _ => ⟨rfl, rfl, harmless⟩

theorem mono {task : Session.Task α} {found weaker : α → Prop}
    (prepares : Prepares library held mayBecome task found)
    (weaken : ∀ value, found value → weaker value) :
    Prepares library held mayBecome task weaker := by
  intro session fits
  refine (prepares session fits).imp fun result library held untouched => ?_
  exact untouched.mono fun (value, session) => And.imp_left (weaken value)

/-- A task is followed by whatever starts from the same library and the same stores. -/
theorem follow {task : Session.Task α} {next : α → Session.Task β} {found : α → Prop}
    (prepares : Prepares library held mayBecome task found) {session : Session}
    (fits : session.Fits held.nodes mayBecome)
    {goal : Except LibraryError (β × Session) → Library → MemoryStores → Prop}
    (onward : ∀ value session, found value → Fits session held.nodes mayBecome →
      Action.Attains (next value session) library held goal)
    (failed : ∀ e : LibraryError, e.isFatal = false → goal (.error e) library held) :
    Action.Attains ((task >>= next) session) library held goal := by
  refine Action.ends_bind.mpr ((prepares session fits).imp fun result library held => ?_)
  rintro ⟨rfl, rfl, outcome⟩
  cases result with
  | ok value => exact onward value.1 value.2 outcome.1 outcome.2
  | error e => exact failed e outcome

theorem bind {task : Session.Task α} {next : α → Session.Task β} {found : α → Prop}
    {goal : β → Prop} (prepares : Prepares library held mayBecome task found)
    (onward : ∀ value, found value → Prepares library held mayBecome (next value) goal) :
    Prepares library held mayBecome (task >>= next) goal := by
  intro session fits
  refine prepares.follow fits (fun value session holds fits => onward value holds session fits) ?_
  exact fun e harmless => ⟨rfl, rfl, harmless⟩

theorem lift {action : Action Library α} {found : α → Prop}
    (attains : Action.Attains action library held (Untouched library held found)) :
    Prepares library held mayBecome (liftM action) found := by
  intro session fits
  refine Action.ends_bind.mpr (attains.imp fun result library held => ?_)
  rintro ⟨rfl, rfl, outcome⟩
  cases result with
  | ok value => exact ⟨rfl, rfl, outcome, fits⟩
  | error e => exact ⟨rfl, rfl, outcome⟩

theorem ofExcept {result : Except LibraryError α} (mild : Result.IsMild result) :
    Prepares library held mayBecome (liftM (Action.ofExcept result : Action Library α))
      fun value => result = .ok value :=
  lift (untouched_of_isMild mild)

theorem get : Prepares library held mayBecome (liftM (MonadState.get : Action Library Library))
    fun value => value = library :=
  lift ⟨rfl, rfl, rfl⟩

theorem mapM {items : List α} {step : α → Session.Task β} {found : α → β → Prop}
    (steps : ∀ item ∈ items, Prepares library held mayBecome (step item) (found item)) :
    Prepares library held mayBecome (items.mapM step) (List.Forall₂ found items) := by
  induction items with
  | nil => exact pure List.Forall₂.nil
  | cons item rest ih =>
      rw [List.mapM_cons]
      refine (steps item List.mem_cons_self).bind fun value first => ?_
      refine (ih fun other member => steps other (List.mem_cons_of_mem _ member)).bind ?_
      exact fun values others => pure (List.Forall₂.cons first others)

theorem forM {items : List α} {step : α → Session.Task PUnit}
    (steps : ∀ item ∈ items, Prepares library held mayBecome (step item) fun _ => True) :
    Prepares library held mayBecome (items.forM step) fun _ => True := by
  induction items with
  | nil => exact pure trivial
  | cons item rest ih =>
      refine bind (steps item List.mem_cons_self) fun _ _ => ?_
      exact ih fun other member => steps other (List.mem_cons_of_mem _ member)

end Prepares

/-! ## Shelves of a session -/

theorem run_openShelf_of_get? {session : Session} {key : String} {shelf : OpenShelf}
    (read : Table.get? session key = some shelf) (entry : Entry) :
    (openShelf key entry).run session = pure (shelf, session) := by
  simp [openShelf, read]

theorem run_openShelf_of_get?_eq_none {session : Session} {key : String}
    (unread : Table.get? session key = none) (entry : Entry) :
    (openShelf key entry).run session =
      Action.ask (.loadShelf entry.location) >>= fun stored =>
        let shelf : OpenShelf := ⟨entry.location, stored.getD .empty, false⟩
        pure (shelf, Table.insert session key shelf) := by
  simp [openShelf, unread]

section Shelves

variable {key : String} {entry : Entry}

theorem prepares_openShelf (shows : library.Shows held)
    (found : Table.get? held.nodes key = some entry) (kind : entry.isShelf = true) :
    Prepares library held mayBecome (openShelf key entry) fun shelf =>
      shelf.location = .ofKey key := by
  have located := shows.tree.located key entry found
  intro session fits
  change Action.Attains ((openShelf key entry).run session) library held _
  cases read : Table.get? session key with
  | some shelf =>
      rw [run_openShelf_of_get? read]
      exact ⟨rfl, rfl, (fits _ (Table.mem_of_get? read)).2.1, fits⟩
  | none =>
      rw [run_openShelf_of_get?_eq_none read]
      refine Action.ends_bind.mpr (attains_loadShelf (shows.tree.canonical found) ?_)
      exact ⟨rfl, rfl, located, fits.insert found kind located (by simp)⟩

theorem prepares_record (shows : library.Shows held)
    (found : Table.get? held.nodes key = some entry) (kind : entry.isShelf = true) :
    Prepares library held mayBecome (record key entry) fun _ => True :=
  (prepares_openShelf shows found kind).bind fun _ _ => .pure trivial

theorem prepares_replace (shows : library.Shows held)
    (found : Table.get? held.nodes key = some entry) (kind : entry.isShelf = true)
    {data : Record} (allowed : mayBecome key data) :
    Prepares library held mayBecome (replace key entry data) fun _ => True := by
  refine (prepares_openShelf shows found kind).bind fun shelf located session fits => ?_
  exact ⟨rfl, rfl, trivial, fits.insert found kind located fun _ => allowed⟩

end Shelves

/-! ## Storing what has been changed -/

/-- The library stays and goes on to mirror its stores, in which shelves have become what they
may. -/
def Revised (library : Library) (held : MemoryStores) (mayBecome : String → Record → Prop)
    (library' : Library) (held' : MemoryStores) : Prop :=
  library' = library ∧ library.Mirrors held' ∧ held.Revises mayBecome held'

theorem attains_storeAll (mirrors : library.Mirrors held) {session : Session}
    (fits : session.Fits held.nodes mayBecome) :
    Action.Attains (storeAll session) library held fun result library' held' =>
      result = .ok () ∧ Revised library held mayBecome library' held' := by
  induction session generalizing held with
  | nil => exact ⟨rfl, rfl, mirrors, .refl mayBecome held⟩
  | cons opened rest ih =>
      obtain ⟨key, location, contents, isChanged⟩ := opened
      obtain ⟨⟨entry, found, kind⟩, located, allowed⟩ := fits _ List.mem_cons_self
      obtain rfl : location = .ofKey key := located
      have others : Fits rest held.nodes mayBecome :=
        fun opened member => fits opened (List.mem_cons_of_mem _ member)
      unfold storeAll
      split
      · rename_i changed
        have canonical : (Location.ofKey key).IsCanonical :=
          ⟨key, mirrors.consistent.valid key entry found, rfl⟩
        refine Action.ends_bind.mpr (attains_storeShelf canonical ?_)
        have still := mirrors.revise_shelf found kind contents
        have revised := mirrors.consistent.tree.revises found (allowed changed)
        refine (ih still others).imp fun result library' held' => ?_
        rintro ⟨done, same, after, revises⟩
        exact ⟨done, same, after, revised.trans revises⟩
      · exact ih mirrors others

theorem run_commit (session : Session) :
    commit.run session = storeAll session >>= fun _ => pure ((), session) := by
  simp [commit]

/-- Storing what a session has changed settles the operation. -/
theorem settles_commit (mirrors : library.Mirrors held) {session : Session}
    (fits : session.Fits held.nodes mayBecome) :
    Action.Attains (commit session) library held
      (library.Settles held (Revised library held mayBecome)) := by
  change Action.Attains (commit.run session) library held _
  rw [run_commit]
  refine Action.ends_bind.mpr ((attains_storeAll mirrors fits).imp fun result library' held' => ?_)
  rintro ⟨rfl, revised⟩
  exact revised

theorem settles_commit_pure (mirrors : library.Mirrors held) {session : Session}
    (fits : session.Fits held.nodes mayBecome) (value : α) :
    Action.Attains ((commit >>= fun _ => pure value : Session.Task α) session) library held
      (library.Settles held (Revised library held mayBecome)) := by
  refine Action.ends_bind.mpr ((settles_commit mirrors fits).imp fun result library' held' => ?_)
  intro settles
  cases result <;> exact settles

/-- A task by itself only finds what it should. -/
theorem attains_once {task : Session.Task α} {found : α → Prop}
    (prepares : Prepares library held (fun _ _ => False) task found) :
    Action.Attains (once task) library held (Untouched library held found) := by
  refine Action.ends_map.mpr ((prepares [] (fits_nil _ _)).imp fun result library held => ?_)
  rintro ⟨rfl, rfl, outcome⟩
  refine ⟨rfl, rfl, ?_⟩
  cases result with
  | ok value => exact outcome.1
  | error e => exact outcome

theorem settles_once {task : Session.Task α} {done : Library → MemoryStores → Prop}
    (body : Action.Attains (task []) library held (library.Settles held done)) :
    Action.Attains (once task) library held (library.Settles held done) := by
  refine Action.ends_map.mpr (body.imp fun result library' held' settles => ?_)
  cases result <;> exact settles

end Session

end ShelfLibrary
