import ShelfLibrary.Proofs.Endurance

/-!
# Transactions under refusals

A transaction that fails is undone call by call, and each of these calls may be refused as well.
The tree stands again once all of them have been answered; otherwise the library is poisoned.  So
the tree stands in every library that is not poisoned, whatever its stores have refused.
-/

namespace ShelfLibrary

variable {library current : Library} {held now : MemoryStores}

/-! ## Putting everything back -/

namespace Namespace

open Action (GivesUp)

theorem givesUp_verify (operation : String) : GivesUp (verify operation) := by
  refine (GivesUp.ask .countNodes).bind fun stored => GivesUp.get.bind fun nodes => ?_
  split
  · exact .pure ()
  · exact .throw _

theorem givesUp_restore (saved : Table Entry) : GivesUp (restore saved) := by
  have put (nodes : List Node) : GivesUp (putAll nodes) := by
    induction nodes with
    | nil => exact .pure ()
    | cons node rest ih => exact (GivesUp.ask _).bind fun _ => (GivesUp.modify _).bind fun _ => ih
  exact (GivesUp.ask _).bind fun _ => (GivesUp.set _).bind fun _ => (put saved).bind fun _ =>
    givesUp_verify "restore"

end Namespace

namespace Snapshot

variable {snapshot : Snapshot} {touched : List String}

theorem givesUp_restore (snapshot : Snapshot) : Action.GivesUp snapshot.restore := by
  have deleted (created : List Namespace.Node) : Action.GivesUp
      (created.forM fun node => Action.ask (.deleteShelf node.2.location) : Library.Task PUnit) :=
    .forM fun node => .ask (.deleteShelf node.2.location)
  have returned : Action.GivesUp (snapshot.shelves.forM putBack) := by
    refine .forM fun shelf => ?_
    unfold putBack
    split <;> exact .ask _
  exact Action.GivesUp.get.bind fun library => (deleted _).bind fun _ => returned.bind fun _ =>
    (Action.GivesUp.on (Namespace.givesUp_restore _)).bind fun _ =>
      (Action.GivesUp.ask _).bind fun _ => .modify _

theorem reads_capture (touched : List String) :
    Action.Reads (fun _ => True) (capture touched) := by
  have saved (nodes : List Namespace.Node) : Action.Reads (fun _ => True) (saveShelves nodes) := by
    induction nodes with
    | nil => exact .pure []
    | cons node rest ih => exact (Action.Reads.load _).bind fun contents => ih.bind fun _ => .pure _
  exact Action.Reads.get.bind fun library => (saved _).bind fun _ => .pure _

/-- A tree that stood, and whose unaffected shelves have been left alone, stands again once a
rollback has come to its end. -/
theorem withstands_restore (stands : library.Stands held)
    (saves : snapshot.Saves touched library held) (running : current.Stands now)
    (keeps : held.Keeps (fun key => isAffected touched key = true) now) :
    Action.Withstands snapshot.restore current now fun result after last =>
      ∀ value, result = .ok value → after.Stands last := by
  have undone : Action.Attains snapshot.restore current now fun _ after last =>
      after.Stands last := by
    refine attains_restore_shelves stands.toShows saves running.toShows fun shelves _ restored => ?_
    refine ⟨⟨rfl, stands.tree⟩, fun key entry found kind => ?_⟩
    rw [Table.contains, restored]
    split
    · exact stands.stored key entry found kind
    · rename_i unsaved
      -- The shelf is not affected, so that it is not deleted either.
      have apart : ¬isAffected touched key = true := by
        intro affected
        obtain ⟨shelf, member, same⟩ := saves.complete key entry found kind affected
        exact unsaved (List.mem_map.mpr ⟨shelf, member, by rw [same]; rfl⟩)
      have stays : Location.placeOf key ∉
          (snapshot.created now).map fun node => node.2.location.path := by
        intro removed
        obtain ⟨node, member, same⟩ := List.mem_map.mp removed
        exact placeOf_ne_of_isNew saves stands.tree running.tree member found kind same
      rw [Table.get?_eraseAll, if_neg stays, (keeps key entry found kind apart).2]
      exact stands.stored key entry found kind
  exact (givesUp_restore snapshot current).withstands undone

end Snapshot

/-! ## Operations together -/

namespace Library

/-- The tree stands, or the work has ended with a fault. -/
def StandsOrFails {α : Type} (result : Except LibraryError α) (after : Library)
    (last : MemoryStores) : Prop :=
  after.Stands last ∨ ∃ e, result = .error e ∧ e.isFatal = true

theorem withstands_performAll {snapshot : Snapshot} {touched : List String}
    (stands : library.Stands held) (saves : snapshot.Saves touched library held)
    {operations : List Operation}
    (declared : ∀ operation ∈ operations, ∀ path ∈ operation.touchedPaths, path ∈ touched)
    (running : current.Stands now)
    (keeps : held.Keeps (fun key => Snapshot.isAffected touched key = true) now) :
    Action.Withstands (performAll snapshot operations) current now StandsOrFails := by
  induction operations generalizing current now with
  | nil => exact .inl running
  | cons operation rest ih =>
      refine Action.withstands_bind.mpr (Action.withstands_tryCatch.mpr
        ((endures_perform running operation).imp fun result after last => ?_))
      rintro ⟨still, kept⟩
      have narrow := fun key => @Snapshot.isAffected_mono _ _
        (declared operation List.mem_cons_self) key
      have apart := keeps.trans (kept.mono narrow)
      cases result with
      | ok outcome =>
          refine Action.withstands_bind.mpr ((ih (fun other member =>
            declared other (List.mem_cons_of_mem _ member)) still apart).imp ?_)
          intro result after last ended
          cases result with
          | ok outcomes =>
              rcases ended with standing | ⟨e, ⟨⟩, -⟩
              exact .inl standing
          | error e =>
              rcases ended with standing | ⟨_, ⟨rfl⟩, fatal⟩
              · exact .inl standing
              · exact .inr ⟨e, rfl, fatal⟩
      | error e =>
          refine Action.withstands_bind.mpr (Action.withstands_tryCatch.mpr
            ((Snapshot.withstands_restore stands saves still apart).imp ?_))
          intro result after last restored
          cases result with
          | ok value => exact .inl (restored value rfl)
          | error cause => exact .inr ⟨_, rfl, rfl⟩

theorem withstands_transact (stands : library.Stands held) (operations : List Operation) :
    Action.Withstands (transact operations) library held StandsOrFails := by
  let paths := operations.flatMap Operation.touchedPaths
  have captured := (Snapshot.reads_capture paths).withstands
    (Snapshot.attains_capture stands.toShows paths)
  refine Action.withstands_bind.mpr (captured.imp fun result after last => ?_)
  rintro ⟨rfl, rfl, outcome⟩
  cases result with
  | error e => exact .inl stands
  | ok snapshot =>
      obtain ⟨-, -, _, ⟨rfl⟩, saves⟩ := outcome snapshot rfl
      have declared : ∀ operation ∈ operations, ∀ path ∈ operation.touchedPaths, path ∈ paths :=
        fun operation member path declares => List.mem_flatMap.mpr ⟨operation, member, declares⟩
      refine Action.withstands_bind.mpr
        ((withstands_performAll stands saves declared stands (.refl _ _)).imp ?_)
      intro result final now ended
      cases result with
      | ok outcomes =>
          rcases ended with standing | ⟨e, ⟨⟩, -⟩
          exact .inl standing
      | error e =>
          rcases ended with standing | ⟨_, ⟨rfl⟩, fatal⟩
          · exact .inl standing
          · exact .inr ⟨e, rfl, fatal⟩

theorem withstands_answer (stands : library.Stands held) (query : Query) :
    Action.Withstands (answer query) library held StandsOrFails := by
  cases query with
  | single operation =>
      exact (endures_perform stands operation).imp fun result after last ended => .inl ended.1
  | transaction operations => exact withstands_transact stands operations

/-! ## Runs of queries -/

/-- A library is poisoned, or its tree stands. -/
def IsSafe (library : Library) (held : MemoryStores) : Prop :=
  library.isPoisoned = true ∨ library.Stands held

/-- Whatever the stores refuse during a query, the tree stands after it or the library is
poisoned. -/
theorem withstands_execute (safe : library.IsSafe held) (query : Query) :
    Action.Withstands (execute query) library held fun _ after last => after.IsSafe last := by
  unfold execute
  refine Action.withstands_bind.mpr ?_
  cases poisoned : library.isPoisoned with
  | true =>
      simp only [Action.withstands_get, poisoned, if_true]
      exact .inl poisoned
  | false =>
      have stands : library.Stands held := safe.resolve_left (by simp [poisoned])
      simp only [Action.withstands_get, poisoned, Bool.false_eq_true, if_false]
      refine Action.withstands_tryCatch.mpr ((withstands_answer stands query).imp ?_)
      intro result after last ended
      cases result with
      | ok outcome =>
          rcases ended with standing | ⟨e, ⟨⟩, -⟩
          exact .inr standing
      | error e =>
          cases fatal : e.isFatal with
          | true =>
              simp only [fatal, if_true]
              exact .inl rfl
          | false =>
              simp only [fatal, Bool.false_eq_true, if_false]
              rcases ended with standing | ⟨_, ⟨rfl⟩, fault⟩
              · exact .inr standing
              · simp [fatal] at fault

variable {σ : Type} {stores : Stores σ} {holds : σ → MemoryStores → Prop}

/-- A library stays safe whatever queries are made and whatever is refused. -/
theorem IsSafe.runAll (fallible : stores.AreFallible holds) {world : σ} (start : holds world held)
    (safe : library.IsSafe held) (history : List Query) :
    ∃ now, holds (runAll stores (library, world) history).2 now ∧
      (runAll stores (library, world) history).1.IsSafe now := by
  induction history generalizing library world held with
  | nil => exact ⟨held, start, safe⟩
  | cons query rest ih =>
      obtain ⟨now, after, still⟩ := (withstands_execute safe query).runOn fallible start
      exact ih after still

/-- Over stores that may refuse any call but the counting of nodes, whatever queries have been made
and whatever has been refused: in a library that is not poisoned, whatever a key lies below is a
section, the nodes in memory are those that are stored, and every shelf has contents. -/
theorem stands_runAll (fallible : stores.AreFallible holds) {world : σ}
    (vacant : holds world .empty) (history : List Query) :
    let after := runAll stores (.empty, world) history
    ∃ held, holds after.2 held ∧ (after.1.isPoisoned = false → after.1.Stands held) := by
  obtain ⟨held, last, safe⟩ := IsSafe.runAll fallible vacant (.inr .empty) history
  exact ⟨held, last, fun usable => safe.resolve_left (by simp [usable])⟩

/-- The contents of a shelf cannot be deleted: its key is gone, its section stays, and nothing is
broken. -/
theorem stands_runAll_undeleted :
    let world : FaultyStores MemoryStores := ⟨.empty, .named ["shelf.delete"], 0, 0⟩
    let shelf : Query := .single (.buildShelf ⟨some "a", "b", none, none⟩)
    let history : List Query :=
      [.single (.buildSection ⟨none, "a", none, none⟩), shelf,
        .single (.remove ⟨"a", none, false, true⟩)]
    let after := runAll (FaultyStores.answer MemoryStores.answer) (.empty, world) history
    world.Holds .empty ∧ after.1.isPoisoned = false ∧ after.1.Stands after.2.stores ∧
      after.1.nodes.contains "a" = true ∧ after.1.nodes.contains "a.b" = false ∧
        Table.contains after.2.stores.shelves (Location.ofKey "a.b").path = true := by
  intro world shelf history after
  have vacant : world.Holds .empty := ⟨rfl, fun _ => rfl, rfl⟩
  have ended := stands_runAll FaultyStores.areFallible vacant history
  have same : runAll (FaultyStores.answer MemoryStores.answer) (.empty, world) history =
    after := rfl
  simp only [same] at ended
  obtain ⟨held, holding, stands⟩ := ended
  rw [← holding.stores_eq] at stands
  have usable : after.1.isPoisoned = false := by decide +kernel
  refine ⟨vacant, usable, stands usable, ?_, ?_, ?_⟩ <;> decide +kernel

end Library

end ShelfLibrary
